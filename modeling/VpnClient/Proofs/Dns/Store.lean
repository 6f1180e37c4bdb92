import VpnClient.Dns.Store
import VpnClient.Proofs.Config.File
import VpnClient.Proofs.File.Tree

/-!
# DNS stores on a file

A store keeps its settings in memory and in the configuration file, and others may do to the file
what they like.  A change is made in both or in neither of them, and the rest of the configuration
is what the file says at that moment.

## Main Definitions

* `FileSystem.replaced` — the file system after somebody has put something else where a file is
* `DnsFileSession` — a store on a file, the file system, and its runs

## Main Statements

* `DnsSettings.apply_of_isOutOfRange`, `DnsSettings.apply_of_inRange` — a change is refused only for
  an index that is out of range
* `DnsStore.exists_perform` — a change of a file that can be loaded is made there and in memory
* `DnsFileSession.IsOpen.run` — the path of the file stays usable in every run
* `DnsFileSession.calls_spec` — what holds of every change in every run
-/

namespace VpnClient

/-! ## Changes -/

/-- The index of the entry that a change is about. -/
def DnsChange.index? : DnsChange → Option Nat
  | add _ => none
  | set index _ => some index
  | delete index => some index
  | allowLan _ => none

namespace DnsSettings

/-- The settings after a change of an entry that is there. -/
def changed (settings : DnsSettings) : DnsChange → DnsSettings
  | .add address => { settings with custom := settings.custom ++ [address] }
  | .set index address => { settings with custom := settings.custom.set index address }
  | .delete index => { settings with custom := settings.custom.eraseIdx index }
  | .allowLan allow => { settings with allowLan := allow }

/-- A change is about an entry that is not there. -/
def IsOutOfRange (settings : DnsSettings) (change : DnsChange) (index : Nat) : Prop :=
  change.index? = some index ∧ settings.custom.length ≤ index

/-- A change of an entry that is not there is refused. -/
theorem apply_of_isOutOfRange {settings : DnsSettings} {change : DnsChange} {index : Nat}
    (h : settings.IsOutOfRange change index) :
    settings.apply change = .error (.indexOutOfBounds index settings.custom.length) := by
  obtain ⟨hindex, hlong⟩ := h
  cases change with
  | add address => cases hindex
  | allowLan allow => cases hindex
  | set i address =>
      cases hindex
      exact if_neg (Nat.not_lt_of_le hlong)
  | delete i =>
      cases hindex
      exact if_neg (Nat.not_lt_of_le hlong)

/-- Any other change is made. -/
theorem apply_of_inRange {settings : DnsSettings} {change : DnsChange}
    (h : ¬ ∃ index, settings.IsOutOfRange change index) :
    settings.apply change = .ok (settings.changed change) := by
  cases change with
  | add address => rfl
  | allowLan allow => rfl
  | set i address => exact if_pos (Nat.lt_of_not_le fun hlong => h ⟨i, rfl, hlong⟩)
  | delete i => exact if_pos (Nat.lt_of_not_le fun hlong => h ⟨i, rfl, hlong⟩)

end DnsSettings

/-! ## One change -/

namespace DnsStore

/-- The store that has just been opened on a file with certain settings. -/
def opened (path : String) (settings : DnsSettings) : DnsStore :=
  ⟨some path, .fresh settings⟩

variable {store : DnsStore} {fs : FileSystem} {path : String} {config : Config}

/-- A file that cannot be loaded keeps the settings from being changed. -/
theorem perform_of_load_error (hpath : store.path = some path) {failure : Failure}
    (hload : Config.load fs path = .error failure) (change : DnsChange) :
    store.perform fs change = (fs, .error (.storage failure.message)) := by
  simp only [perform, hpath, persist, hload]
  rfl

theorem perform_of_apply_error (hpath : store.path = some path)
    (hload : Config.load fs path = .ok config) {change : DnsChange} {error : DnsError}
    (happly : store.settings.apply change = .error error) :
    store.perform fs change = (fs, .error error) := by
  simp only [perform, hpath, persist, hload, happly]
  rfl

/-- A change of settings whose file can be loaded and written is made in the file and in memory. -/
theorem exists_perform (hpath : store.path = some path) (hload : Config.load fs path = .ok config)
    (hroom : fs.admits path = true) {change : DnsChange} {made : DnsSettings}
    (happly : store.settings.apply change = .ok made) :
    ∃ saved place, store.perform fs change = (saved, .ok (store.publish made)) ∧
      saved.Hosts path place ∧
      Config.load saved path = .ok ⟨config.connect, made⟩ := by
  -- only the settings of the screen can be out of order, and they stay as they were loaded
  have hproblem : config.problem? = none := Config.problem?_of_load hload
  have hchanged : ({ config with dns := made } : Config).problem? = none := hproblem
  obtain ⟨saved, place, hsave, hhosts, hloaded⟩ := Config.exists_save hchanged hroom
  refine ⟨saved, place, ?_, hhosts, hloaded⟩
  simp only [perform, hpath, persist, hload, happly, hsave]
  rfl

end DnsStore

/-! ## What others do -/

namespace FileSystem

variable {fs : FileSystem} {path : String} {place : Place}

/-- A path at which there is a place for a file, or can be one. -/
def IsUsable (fs : FileSystem) (path : String) : Prop :=
  (∃ place, fs.Hosts path place) ∨ fs.admits path = true

/-- The file system after somebody has put something else where a file is: a file that holds
something else, a directory, or nothing. Whoever puts something there makes the directories that it
is in. -/
def replaced (fs : FileSystem) (path : String) (entry : Option Entry) : FileSystem :=
  let made := if entry.isSome then (fs.makeParents path).1 else fs
  match made.resolve path with
  | .error _ => made
  | .ok [] => made
  | .ok place =>
    match entry with
    | some entry => (made.remove place).put place entry
    | none => made.remove place

theorem Hosts.replaced (h : fs.Hosts path place) (entry : Option Entry) :
    (fs.replaced path entry).Hosts path place := by
  have hmade : (if entry.isSome then (fs.makeParents path).1 else fs) = fs := by
    rw [h.makeParents]
    exact ite_self fs
  obtain ⟨name, rest, hplace⟩ := List.exists_cons_of_ne_nil h.ne_root
  simp only [FileSystem.replaced, hmade, h.resolve_eq]
  rw [hplace] at h ⊢
  cases entry with
  | none => exact h.remove
  | some entry => exact h.remove.put entry

namespace IsUsable

/-- A usable path that leads somewhere leads to a place for a file. -/
theorem hosts_of_resolve (h : fs.IsUsable path) (hresolve : fs.resolve path = .ok place)
    (hne : place ≠ []) : fs.Hosts path place := by
  rcases h with ⟨other, hhosts⟩ | hroom
  · have heq := hhosts.resolve_eq
    rw [hresolve, Except.ok.injEq] at heq
    rw [heq]
    exact hhosts
  · obtain ⟨made, other, hparents, hhosts, hfree⟩ := admits_iff.mp hroom
    -- a path that leads somewhere has its directories, so that none has been made
    rw [makeParents_of_resolve hresolve hne, Prod.mk.injEq] at hparents
    obtain ⟨rfl, -⟩ := hparents
    have heq := hhosts.resolve_eq
    rw [hresolve, Except.ok.injEq] at heq
    rw [heq]
    exact hhosts

/-- Whatever others put at a usable path, it stays usable. -/
theorem replaced (h : fs.IsUsable path) (entry : Option Entry) :
    (fs.replaced path entry).IsUsable path := by
  rcases h with ⟨place, hhosts⟩ | hroom
  · exact Or.inl ⟨place, hhosts.replaced entry⟩
  · cases entry with
    | some entry =>
        obtain ⟨made, place, hparents, hhosts, -⟩ := admits_iff.mp hroom
        have heq : fs.replaced path (some entry) = made.replaced path (some entry) := by
          simp only [FileSystem.replaced, Option.isSome_some, if_true, hparents, hhosts.makeParents]
        rw [heq]
        exact Or.inl ⟨place, hhosts.replaced (some entry)⟩
    | none =>
        -- without the directories there is no file to take away
        cases hresolve : fs.resolve path with
        | error error =>
            have heq : fs.replaced path none = fs := by
              simp only [FileSystem.replaced, Option.isSome_none, Bool.false_eq_true, if_false,
                hresolve]
            rw [heq]
            exact Or.inr hroom
        | ok place =>
            by_cases hne : place = []
            · have heq : fs.replaced path none = fs := by
                simp only [FileSystem.replaced, Option.isSome_none, Bool.false_eq_true, if_false,
                  hresolve, hne]
              rw [heq]
              exact Or.inr hroom
            · exact Or.inl ⟨place, (hosts_of_resolve (Or.inr hroom) hresolve hne).replaced none⟩

/-- A usable path at which there is no file admits one. -/
theorem admits_of_notFound (h : fs.IsUsable path) (hread : fs.read path = .error .notFound) :
    fs.admits path = true := by
  rcases h with ⟨place, hhosts⟩ | hroom
  · refine hhosts.admits ?_
    intro hfind
    rw [read_of_resolve hhosts.resolve_eq, hfind] at hread
    cases hread
  · exact hroom

end IsUsable

end FileSystem

/-! ## Runs -/

/-- A store on a file, and the file system that the file is in. -/
structure DnsFileSession where
  store : DnsStore
  files : FileSystem
  deriving DecidableEq

/-- What happens while a store is open: a change is asked for, or somebody else puts something where
the file is. -/
inductive DnsFileEvent where
  | change (change : DnsChange)
  | replace (entry : Option Entry)
  deriving DecidableEq

namespace DnsFileSession

variable {path : String} {session : DnsFileSession} {events : List DnsFileEvent}

/-- The result of a change. -/
def result (session : DnsFileSession) (change : DnsChange) : Except DnsError DnsStore :=
  (session.store.perform session.files change).2

/-- What has become of the store and the files after something has happened. -/
def step (path : String) (session : DnsFileSession) : DnsFileEvent → DnsFileSession
  | .change change =>
    match session.store.perform session.files change with
    | (files, .ok store) => ⟨store, files⟩
    | (files, .error _) => ⟨session.store, files⟩
  | .replace entry => ⟨session.store, session.files.replaced path entry⟩

/-- What has become of the store and the files after all that has happened. -/
def run (path : String) (session : DnsFileSession) (events : List DnsFileEvent) : DnsFileSession :=
  events.foldl (step path) session

/-- The configuration that the file holds. -/
def loaded (path : String) (session : DnsFileSession) : Except Failure Config :=
  Config.load session.files path

/-- The store is on a file whose path is usable. -/
structure IsOpen (path : String) (session : DnsFileSession) : Prop where
  path_eq : session.store.path = some path
  isUsable : session.files.IsUsable path

/-- A store is opened on a file that is there, or can be. -/
theorem IsOpen.of_openFile {fs : FileSystem} {store : DnsStore}
    (hopen : DnsStore.openFile fs path = .ok store)
    (habsent : fs.read path = .error .notFound → fs.admits path = true) :
    IsOpen path ⟨store, fs⟩ := by
  rw [DnsStore.openFile] at hopen
  cases hload : Config.load fs path with
  | error failure =>
      rw [hload] at hopen
      cases hopen
  | ok config =>
      rw [hload] at hopen
      obtain rfl := Except.ok.inj hopen
      exact ⟨rfl, Or.inr (Config.admits_of_load hload habsent)⟩

namespace IsOpen

theorem admits_of_loaded (h : IsOpen path session) {config : Config}
    (hload : session.loaded path = .ok config) : session.files.admits path = true :=
  Config.admits_of_load hload h.isUsable.admits_of_notFound

/-- All that can become of a change: the file cannot be loaded, the change is refused, or it is
made in the file and in memory. -/
theorem change_cases (h : IsOpen path session) (change : DnsChange) :
    (∃ failure, session.loaded path = .error failure ∧
        session.result change = .error (.storage failure.message) ∧
        session.step path (.change change) = session) ∨
      (∃ config index, session.loaded path = .ok config ∧
        session.store.settings.IsOutOfRange change index ∧
        session.result change =
          .error (.indexOutOfBounds index session.store.settings.custom.length) ∧
        session.step path (.change change) = session) ∨
      ∃ config saved place, session.loaded path = .ok config ∧
        (¬ ∃ index, session.store.settings.IsOutOfRange change index) ∧
        session.result change =
          .ok (session.store.publish (session.store.settings.changed change)) ∧
        session.step path (.change change) =
          ⟨session.store.publish (session.store.settings.changed change), saved⟩ ∧
        saved.Hosts path place ∧
        Config.load saved path =
          .ok ⟨config.connect, session.store.settings.changed change⟩ := by
  cases hload : session.loaded path with
  | error failure =>
      have hperform := DnsStore.perform_of_load_error h.path_eq hload change
      refine Or.inl ⟨failure, rfl, ?_, ?_⟩
      · rw [result, hperform]
      · rw [step, hperform]
  | ok config =>
      by_cases hrange : ∃ index, session.store.settings.IsOutOfRange change index
      · obtain ⟨index, hindex⟩ := hrange
        have hperform := DnsStore.perform_of_apply_error h.path_eq hload
          (DnsSettings.apply_of_isOutOfRange hindex)
        refine Or.inr (Or.inl ⟨config, index, rfl, hindex, ?_, ?_⟩)
        · rw [result, hperform]
        · rw [step, hperform]
      · obtain ⟨saved, place, hperform, hhosts, hsaved⟩ :=
          DnsStore.exists_perform h.path_eq hload (h.admits_of_loaded hload)
            (DnsSettings.apply_of_inRange hrange)
        refine Or.inr (Or.inr ⟨config, saved, place, rfl, hrange, ?_, ?_, hhosts, hsaved⟩)
        · rw [result, hperform]
        · rw [step, hperform]

/-- Whatever happens, the store stays on its file and the path usable. -/
theorem step (h : IsOpen path session) (event : DnsFileEvent) :
    IsOpen path (session.step path event) := by
  cases event with
  | replace entry => exact ⟨h.path_eq, h.isUsable.replaced entry⟩
  | change change =>
      rcases h.change_cases change with ⟨-, -, -, hstep⟩ | ⟨-, -, -, -, -, hstep⟩ |
        ⟨-, saved, place, -, -, -, hstep, hhosts, -⟩
      · rw [hstep]
        exact h
      · rw [hstep]
        exact h
      · rw [hstep]
        exact ⟨h.path_eq, Or.inl ⟨place, hhosts⟩⟩

theorem run (h : IsOpen path session) (events : List DnsFileEvent) :
    IsOpen path (session.run path events) := by
  induction events generalizing session with
  | nil => exact h
  | cons event events ih => exact ih (h.step event)

end IsOpen

/-- What a change of the settings is to do, whatever has happened before. -/
structure ChangeSpec (path : String) (session : DnsFileSession) (change : DnsChange) : Prop where
  /-- It fails exactly if the file cannot be loaded, or can be and the index is out of range. -/
  fails_iff : (∃ error, session.result change = .error error) ↔
    (∃ failure, session.loaded path = .error failure) ∨
      (∃ config, session.loaded path = .ok config) ∧
        ∃ index, session.store.settings.IsOutOfRange change index
  /-- A file that cannot be loaded is a failure of the storage. -/
  storage : ∀ failure, session.loaded path = .error failure →
    session.result change = .error (.storage failure.message)
  /-- An index out of range is reported with the number of the entries in memory. -/
  outOfRange : ∀ config index, session.loaded path = .ok config →
    session.store.settings.IsOutOfRange change index →
    session.result change = .error (.indexOutOfBounds index session.store.settings.custom.length)
  /-- A failure leaves the files, the settings and those who follow them alone. -/
  failed : ∀ error, session.result change = .error error →
    session.step path (.change change) = session
  /-- A success changes the settings in memory, and those who follow them are told. -/
  changed : ∀ store, session.result change = .ok store →
    (session.step path (.change change)).store = store ∧
      store.settings = session.store.settings.changed change ∧
      store.channel.revision ≠ session.store.channel.revision
  /-- A success leaves the settings in the file, next to what the file has said of the screen. -/
  stored : ∀ store, session.result change = .ok store →
    ∃ config, session.loaded path = .ok config ∧
      (session.files.read path = .error .notFound → config.connect = .initial) ∧
      (session.step path (.change change)).loaded path = .ok ⟨config.connect, store.settings⟩

theorem IsOpen.changeSpec (h : IsOpen path session) (change : DnsChange) :
    ChangeSpec path session change := by
  rcases h.change_cases change with ⟨failure, hload, hresult, hstep⟩ |
    ⟨config, index, hload, hrange, hresult, hstep⟩ |
    ⟨config, saved, place, hload, hrange, hresult, hstep, -, hsaved⟩
  · constructor
    · exact iff_of_true ⟨_, hresult⟩ (Or.inl ⟨failure, hload⟩)
    · intro other hother
      rw [hload, Except.error.injEq] at hother
      rw [hresult, hother]
    · intro config index hother
      rw [hload] at hother
      cases hother
    · exact fun _ _ => hstep
    · intro store hother
      rw [hresult] at hother
      cases hother
    · intro store hother
      rw [hresult] at hother
      cases hother
  · constructor
    · exact iff_of_true ⟨_, hresult⟩ (Or.inr ⟨⟨config, hload⟩, index, hrange⟩)
    · intro failure hother
      rw [hload] at hother
      cases hother
    · intro _ other _ hother
      have heq : some index = some other := hrange.1.symm.trans hother.1
      cases heq
      exact hresult
    · exact fun _ _ => hstep
    · intro store hother
      rw [hresult] at hother
      cases hother
    · intro store hother
      rw [hresult] at hother
      cases hother
  · constructor
    · constructor
      · rintro ⟨error, herror⟩
        rw [hresult] at herror
        cases herror
      · rintro (⟨failure, hfailure⟩ | ⟨-, index, hindex⟩)
        · rw [hload] at hfailure
          cases hfailure
        · exact absurd ⟨index, hindex⟩ hrange
    · intro failure hother
      rw [hload] at hother
      cases hother
    · exact fun _ index _ hindex => absurd ⟨index, hindex⟩ hrange
    · intro error herror
      rw [hresult] at herror
      cases herror
    · intro store hstore
      rw [hresult, Except.ok.injEq] at hstore
      subst hstore
      rw [hstep]
      exact ⟨rfl, rfl, Nat.succ_ne_self _⟩
    · intro store hstore
      rw [hresult, Except.ok.injEq] at hstore
      subst hstore
      refine ⟨config, hload, ?_, ?_⟩
      · intro habsent
        rcases Config.cases_of_load hload with ⟨-, rfl⟩ | ⟨text, htext, -, -⟩
        · rfl
        · rw [habsent] at htext
          cases htext
      · rw [hstep]
        exact hsaved

/-- Whatever a store that was opened on a file has been asked for and whatever others have put where
the file is, the next change is made in the file and in memory or in neither.  It fails exactly if
the file cannot be loaded or the entry is not there.  The path has to be one for a file: if nothing
is there at first, a file can be made there, as it can at every path of ordinary names
(`FileSystem.admits_of_isPlain`). -/
theorem calls_spec {fs : FileSystem} {store : DnsStore}
    (hopen : DnsStore.openFile fs path = .ok store)
    (habsent : fs.read path = .error .notFound → fs.admits path = true)
    (events : List DnsFileEvent) (change : DnsChange) :
    ChangeSpec path (run path ⟨store, fs⟩ events) change :=
  ((IsOpen.of_openFile hopen habsent).run events).changeSpec change

/-- A file that was not there at first is made by a change and then replaced by a directory. -/
theorem calls_spec_from_nothing :
    DnsStore.openFile .empty "cfg/config.toml" = .ok (.opened "cfg/config.toml" .initial) ∧
      FileSystem.empty.admits "cfg/config.toml" = true ∧
      ChangeSpec "cfg/config.toml"
        (run "cfg/config.toml" ⟨.opened "cfg/config.toml" .initial, .empty⟩
          [.change (.add (.v4 ⟨9, 9, 9, 9⟩)), .replace (some .directory)])
        (.delete 0) := by
  have hplain : ∀ n ∈ FileSystem.parts "cfg/config.toml", FileSystem.IsPlain n := by decide +kernel
  have hread := FileSystem.read_empty (by simp) (by decide +kernel) hplain
  have hroom := FileSystem.admits_of_isPlain .empty (by decide +kernel) hplain hread
  have hopen : DnsStore.openFile .empty "cfg/config.toml" =
      .ok (.opened "cfg/config.toml" .initial) := by
    rw [DnsStore.openFile, Config.load_of_notFound hread]
    rfl
  exact ⟨hopen, hroom, calls_spec hopen (fun _ => hroom) _ _⟩

end DnsFileSession

end VpnClient
