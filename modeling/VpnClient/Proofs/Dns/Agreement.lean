import VpnClient.Proofs.Dns.Command
import VpnClient.Proofs.Dns.Slot

/-!
# The store on a file agrees with the one in memory

A store on a file loads, checks and rewrites the whole configuration for every change, while a store
in memory changes a value.  As long as nobody else touches the file, what can be seen of the two is
the same in every run, and it makes no difference to what is opened later that the store on the file
has been replaced by one that is opened anew.

## Main Definitions

* `DnsGlimpse` — what can be seen of a session after a move
* `DnsSession.trace` — what can be seen along a run
* `DnsSession.Mirrors` — a session on a file holds what a session in memory holds

## Main Statements

* `DnsSession.Mirrors.perform` — a change is made in both stores, or refused by both
* `DnsSession.Mirrors.move` — after every move, the sessions show the same and hold the same
* `DnsSession.stores_agree` — they show the same along every run, however often the file is opened
  anew
-/

namespace VpnClient

/-! ## What can be seen of a session -/

/-- What a move answers: a direct call how it has ended, a dialog its result if it has ended, and
opening a store what has kept it from being opened, if something has. -/
inductive DnsReply where
  | call (outcome : Except DnsError Unit)
  | dialog (result : Option DialogResult)
  | opening (failure : Option Failure)
  deriving DecidableEq

/-- What can be seen of a session after a move: the reply, what those who follow the settings have
been told, the settings, and what each dialog shows. -/
structure DnsGlimpse where
  reply : DnsReply
  told : Option DnsSettings
  settings : DnsSettings
  views : List DnsDialogView
  deriving DecidableEq

/-- What can be done with a session: the store is used, or its dialogs are put away for good, and
then the store may be opened anew. -/
inductive DnsMove where
  | use (use : DnsUse)
  | clear
  | reopen
  deriving DecidableEq, Repr

/-- The move that keeps the store where another one opens it anew. -/
def DnsMove.keeping : DnsMove → DnsMove
  | reopen => clear
  | move => move

namespace DnsSession

/-- What a use answers. -/
def reply (session : DnsSession) : DnsUse → DnsReply
  | .dialog event => .dialog (session.step event).2
  | .call change => .call ((session.store.perform session.files change).2.map fun _ => ())

/-- What those who follow the settings are told when a session becomes another one. -/
def told (session after : DnsSession) : Option DnsSettings :=
  if after.store.channel.revision = session.store.channel.revision then none
  else some after.store.settings

/-- What can be seen of a session, besides what is answered and told. -/
def glimpse (session : DnsSession) (reply : DnsReply) (told : Option DnsSettings) : DnsGlimpse :=
  ⟨reply, told, session.store.settings,
    session.dialogs.map fun dialog => dialog.view session.store.settings⟩

/-- The session without its dialogs. -/
def cleared (session : DnsSession) : DnsSession :=
  { session with dialogs := [] }

/-- The session on a store that is opened anew on its file, and what has kept it from being opened.
A store in memory has no file and stays. -/
def reopened (session : DnsSession) : DnsSession × Option Failure :=
  match session.store.path with
  | none => (session.cleared, none)
  | some path =>
    match DnsStore.openFile session.files path with
    | .ok store => (⟨store, session.files, []⟩, none)
    | .error failure => (session.cleared, some failure)

/-- The session after a move, and what can be seen of it.  Nobody follows the settings of a store
that has only just been opened. -/
def move (session : DnsSession) : DnsMove → DnsSession × DnsGlimpse
  | .use use =>
    let after := session.use use
    (after, after.glimpse (session.reply use) (session.told after))
  | .clear => (session.cleared, session.cleared.glimpse (.opening none) none)
  | .reopen => (session.reopened.1, session.reopened.1.glimpse (.opening session.reopened.2) none)

/-- What can be seen of a session after each move of a run. -/
def trace (session : DnsSession) : List DnsMove → List DnsGlimpse
  | [] => []
  | move :: moves => (session.move move).2 :: (session.move move).1.trace moves

theorem told_of_eq {session after : DnsSession} (h : after.store = session.store) :
    session.told after = none := by
  unfold told
  rw [h, if_pos rfl]

/-- Followers are told of settings that are published, also if they are the old ones. -/
theorem told_of_publish {session after : DnsSession} {made : DnsSettings}
    (h : after.store = session.store.publish made) : session.told after = some made := by
  have hnew : after.store.channel.revision ≠ session.store.channel.revision := by
    rw [h]
    exact Nat.succ_ne_self _
  unfold told
  rw [if_neg hnew, h]
  rfl

/-! ## A session on a file and one in memory -/

/-- A session on a file holds what a session in memory holds, and so does the file, next to the
settings of the screen. -/
structure Mirrors (kept plain : DnsSession) (path : String) : Prop where
  path_eq : kept.store.path = some path
  memory : plain.store.path = none
  settings_eq : kept.store.settings = plain.store.settings
  dialogs_eq : kept.dialogs = plain.dialogs
  isStored : ∃ connect, Config.IsStored ⟨connect, kept.store.settings⟩ kept.files path

/-- A session in memory has no file to be opened anew. -/
theorem move_keeping {session : DnsSession} (hmemory : session.store.path = none)
    (move : DnsMove) : session.move move.keeping = session.move move := by
  cases move with
  | use use => rfl
  | clear => rfl
  | reopen =>
      have hreopened : session.reopened = (session.cleared, none) := by
        simp only [reopened, hmemory]
      simp only [DnsMove.keeping, DnsSession.move, hreopened]

namespace Mirrors

variable {kept plain : DnsSession} {path : String}

/-- A change is refused by both stores, which stay as they are, or made in both. -/
theorem perform (h : kept.Mirrors plain path) (change : DnsChange) :
    (∃ error, kept.store.perform kept.files change = (kept.files, .error error) ∧
        plain.store.perform plain.files change = (plain.files, .error error)) ∨
      ∃ saved made, kept.store.perform kept.files change = (saved, .ok (kept.store.publish made)) ∧
        plain.store.perform plain.files change = (plain.files, .ok (plain.store.publish made)) ∧
        ∃ connect, Config.IsStored ⟨connect, made⟩ saved path := by
  obtain ⟨connect, hstored⟩ := h.isStored
  have hplain : plain.store.perform plain.files change =
      (plain.files, (kept.store.settings.apply change).map plain.store.publish) := by
    rw [DnsStore.perform, h.memory, h.settings_eq]
  rw [hplain]
  cases happly : kept.store.settings.apply change with
  | error error =>
      have hkept := DnsStore.perform_of_apply_error h.path_eq hstored.load_eq happly
      exact Or.inl ⟨error, hkept, rfl⟩
  | ok made =>
      obtain ⟨saved, place, hkept, hhosts, hload⟩ :=
        DnsStore.exists_perform h.path_eq hstored.load_eq hstored.admits happly
      have husable : saved.IsUsable path := Or.inl ⟨place, hhosts⟩
      have hadmits := Config.admits_of_load hload husable.admits_of_notFound
      exact Or.inr ⟨saved, made, hkept, rfl, connect, hload, hadmits⟩

/-- The sessions hold the same after a change has been made in both. -/
theorem publish (h : kept.Mirrors plain path) {saved : FileSystem} {made : DnsSettings}
    (hstored : ∃ connect, Config.IsStored ⟨connect, made⟩ saved path) :
    Mirrors { kept with store := kept.store.publish made, files := saved }
      { plain with store := plain.store.publish made } path where
  path_eq := h.path_eq
  memory := h.memory
  settings_eq := rfl
  dialogs_eq := h.dialogs_eq
  isStored := hstored

end Mirrors

/-- Two sessions become others that mirror each other, and tell the same of it. -/
structure MovesAlike (kept plain after other : DnsSession) (path : String) : Prop where
  mirrors : after.Mirrors other path
  told_eq : kept.told after = plain.told other

namespace Mirrors

variable {kept plain : DnsSession} {path : String}

/-- Nothing is told if the stores stay. -/
theorem movesAlike_of_eq {after other : DnsSession} (h : after.Mirrors other path)
    (hkept : after.store = kept.store) (hplain : other.store = plain.store) :
    MovesAlike kept plain after other path where
  mirrors := h
  told_eq := by rw [told_of_eq hkept, told_of_eq hplain]

/-- A change that is made in both stores is told of by both. -/
theorem movesAlike_publish (h : kept.Mirrors plain path) {saved : FileSystem} {made : DnsSettings}
    (hstored : ∃ connect, Config.IsStored ⟨connect, made⟩ saved path) :
    MovesAlike kept plain { kept with store := kept.store.publish made, files := saved }
      { plain with store := plain.store.publish made } path where
  mirrors := h.publish hstored
  told_eq := by rw [told_of_publish rfl, told_of_publish rfl]

/-- A button that asks both stores for the same has the same result. -/
theorem press (h : kept.Mirrors plain path) (request : DnsRequest) :
    (kept.press request).2 = (plain.press request).2 ∧
      MovesAlike kept plain (kept.press request).1 (plain.press request).1 path := by
  cases request with
  | refused => exact ⟨rfl, h.movesAlike_of_eq rfl rfl⟩
  | done => exact ⟨rfl, h.movesAlike_of_eq rfl rfl⟩
  | change change =>
      rcases h.perform change with ⟨error, hkept, hplain⟩ | ⟨saved, made, hkept, hplain, hstored⟩
      · simp only [DnsSession.press, DnsStore.answer, hkept, hplain]
        exact ⟨trivial, h.movesAlike_of_eq rfl rfl⟩
      · simp only [DnsSession.press, DnsStore.answer, hkept, hplain]
        exact ⟨trivial, h.movesAlike_publish hstored⟩

theorem call (h : kept.Mirrors plain path) (change : DnsChange) :
    kept.reply (.call change) = plain.reply (.call change) ∧
      MovesAlike kept plain (kept.call change) (plain.call change) path := by
  rcases h.perform change with ⟨error, hkept, hplain⟩ | ⟨saved, made, hkept, hplain, hstored⟩
  · simp only [DnsSession.reply, DnsSession.call, hkept, hplain]
    exact ⟨trivial, h.movesAlike_of_eq rfl rfl⟩
  · simp only [DnsSession.reply, DnsSession.call, hkept, hplain]
    exact ⟨rfl, h.movesAlike_publish hstored⟩

/-- What is typed into dialogs is the same in both sessions, and what their buttons ask for depends
on the settings, which are the same too. -/
theorem step (h : kept.Mirrors plain path) (event : DnsEvent) :
    (kept.step event).2 = (plain.step event).2 ∧
      MovesAlike kept plain (kept.step event).1 (plain.step event).1 path := by
  have hsame : MovesAlike kept plain kept plain path := h.movesAlike_of_eq rfl rfl
  cases event with
  | «open» input index =>
      have hafter : Mirrors (kept.step (.open input index)).1 (plain.step (.open input index)).1
          path := by
        refine ⟨h.path_eq, h.memory, h.settings_eq, ?_, h.isStored⟩
        exact congrArg (· ++ [⟨input, index⟩]) h.dialogs_eq
      exact ⟨rfl, hafter.movesAlike_of_eq rfl rfl⟩
  | type number input =>
      have hafter : Mirrors (kept.step (.type number input)).1 (plain.step (.type number input)).1
          path := by
        refine ⟨h.path_eq, h.memory, h.settings_eq, ?_, h.isStored⟩
        exact congrArg (List.modify · number fun dialog => { dialog with input := input })
          h.dialogs_eq
      exact ⟨rfl, hafter.movesAlike_of_eq rfl rfl⟩
  | save number =>
      simp only [DnsSession.step, h.dialogs_eq, h.settings_eq]
      cases plain.dialogs[number]? with
      | none => exact ⟨rfl, hsame⟩
      | some dialog => exact h.press (dialog.saveRequest plain.store.settings)
  | remove number =>
      simp only [DnsSession.step, h.dialogs_eq]
      cases plain.dialogs[number]? with
      | none => exact ⟨rfl, hsame⟩
      | some dialog => exact h.press dialog.removeRequest
  | dismiss number =>
      simp only [DnsSession.step, h.dialogs_eq]
      cases plain.dialogs[number]? with
      | none => exact ⟨rfl, hsame⟩
      | some dialog => exact ⟨rfl, hsame⟩

theorem use (h : kept.Mirrors plain path) (use : DnsUse) :
    kept.reply use = plain.reply use ∧
      MovesAlike kept plain (kept.use use) (plain.use use) path := by
  cases use with
  | call change => exact h.call change
  | dialog event =>
      obtain ⟨hresult, halike⟩ := h.step event
      exact ⟨congrArg DnsReply.dialog hresult, halike⟩

theorem cleared (h : kept.Mirrors plain path) : kept.cleared.Mirrors plain.cleared path :=
  ⟨h.path_eq, h.memory, h.settings_eq, rfl, h.isStored⟩

/-- The file can be opened at any time, and gives the settings that the session in memory has. -/
theorem reopened (h : kept.Mirrors plain path) :
    kept.reopened.2 = none ∧ kept.reopened.1.Mirrors plain.cleared path := by
  obtain ⟨connect, hstored⟩ := h.isStored
  have hreopened : kept.reopened =
      (⟨.opened path kept.store.settings, kept.files, []⟩, none) := by
    simp only [DnsSession.reopened, h.path_eq, hstored.openFile]
  rw [hreopened]
  exact ⟨rfl, rfl, h.memory, h.settings_eq, rfl, connect, hstored⟩

theorem glimpse (h : kept.Mirrors plain path) (reply : DnsReply) (told : Option DnsSettings) :
    kept.glimpse reply told = plain.glimpse reply told := by
  unfold DnsSession.glimpse
  rw [h.settings_eq, h.dialogs_eq]

/-- After every move the sessions show the same, and hold the same. -/
theorem move (h : kept.Mirrors plain path) (move : DnsMove) :
    (kept.move move).2 = (plain.move move).2 ∧
      (kept.move move).1.Mirrors (plain.move move).1 path := by
  cases move with
  | use use =>
      obtain ⟨hreply, halike⟩ := h.use use
      simp only [DnsSession.move, hreply, halike.told_eq]
      exact ⟨halike.mirrors.glimpse _ _, halike.mirrors⟩
  | clear => exact ⟨h.cleared.glimpse _ _, h.cleared⟩
  | reopen =>
      obtain ⟨hopened, hmirrors⟩ := h.reopened
      rw [← move_keeping h.memory]
      simp only [DnsMove.keeping, DnsSession.move, hopened]
      exact ⟨hmirrors.glimpse _ _, hmirrors⟩

theorem trace (h : kept.Mirrors plain path) (moves : List DnsMove) :
    kept.trace moves = plain.trace moves := by
  induction moves generalizing kept plain with
  | nil => rfl
  | cons move moves ih =>
      obtain ⟨hseen, hmirrors⟩ := h.move move
      rw [DnsSession.trace, DnsSession.trace, hseen, ih hmirrors]

/-- A store that is kept shows what one shows that is opened anew. -/
theorem trace_keeping (h : kept.Mirrors plain path) (moves : List DnsMove) :
    kept.trace (moves.map DnsMove.keeping) = kept.trace moves := by
  rw [h.trace, h.trace]
  -- in memory there is nothing to be opened
  induction moves generalizing kept plain with
  | nil => rfl
  | cons move moves ih =>
      rw [List.map_cons, DnsSession.trace, DnsSession.trace, move_keeping h.memory,
        ih (h.move move).2]

end Mirrors

/-- A configuration that can be loaded gives a store, and whatever is done with the store and its
dialogs, with nobody else at the file, the same can be seen of it after every move as of a store in
memory that was given the same settings: what calls and dialogs answer, what followers are told, the
settings and all views.  The same can be seen also if the file is not opened anew where it was.  The
path has to be one for a file: if nothing is there at first, a file can be made there, as it can at
every path of ordinary names (`FileSystem.admits_of_isPlain`). -/
theorem stores_agree {config : Config} {fs : FileSystem} {path : String}
    (hload : Config.load fs path = .ok config)
    (habsent : fs.read path = .error .notFound → fs.admits path = true)
    (other : FileSystem) (moves : List DnsMove) :
    ∃ store, DnsStore.openFile fs path = .ok store ∧ store.settings = config.dns ∧
      (⟨store, fs, []⟩ : DnsSession).trace moves = (begin config.dns other).trace moves ∧
      (⟨store, fs, []⟩ : DnsSession).trace (moves.map DnsMove.keeping) =
        (⟨store, fs, []⟩ : DnsSession).trace moves := by
  have hstored : config.IsStored fs path := ⟨hload, Config.admits_of_load hload habsent⟩
  have hmirrors : Mirrors ⟨.opened path config.dns, fs, []⟩ (begin config.dns other) path :=
    ⟨rfl, rfl, rfl, rfl, config.connect, hstored⟩
  exact ⟨.opened path config.dns, hstored.openFile, rfl, hmirrors.trace moves,
    hmirrors.trace_keeping moves⟩

/-- A file that was not there at first is opened anew between two changes.  The second one is made
by a dialog for the entry that the first one has left. -/
theorem stores_agree_from_nothing :
    let moves : List DnsMove := [.use (.call (.add (.v4 ⟨9, 9, 9, 9⟩))), .use (.call (.delete 1)),
      .reopen, .use (.dialog (.open "1.1.1.1" (some 0))), .use (.dialog (.save 0))]
    Config.load .empty "cfg/config.toml" = .ok .initial ∧
      FileSystem.empty.admits "cfg/config.toml" = true ∧
      ∃ store, DnsStore.openFile .empty "cfg/config.toml" = .ok store ∧
        ((⟨store, .empty, []⟩ : DnsSession).trace moves).map DnsGlimpse.reply =
          [.call (.ok ()), .call (.error (.indexOutOfBounds 1 1)), .opening none, .dialog none,
            .dialog (some .success)] ∧
        ((⟨store, .empty, []⟩ : DnsSession).trace moves).map DnsGlimpse.told =
          [some ⟨false, [.v4 ⟨9, 9, 9, 9⟩]⟩, none, none, none,
            some ⟨false, [.v4 ⟨1, 1, 1, 1⟩]⟩] := by
  intro moves
  have hplain : ∀ n ∈ FileSystem.parts "cfg/config.toml", FileSystem.IsPlain n := by decide +kernel
  have hread := FileSystem.read_empty (by simp) (by decide +kernel) hplain
  have hroom := FileSystem.admits_of_isPlain .empty (by decide +kernel) hplain hread
  have hload := Config.load_of_notFound hread
  obtain ⟨store, hopen, -, htrace, -⟩ := stores_agree hload (fun _ => hroom) .empty moves
  refine ⟨hload, hroom, store, hopen, ?_, ?_⟩
  · rw [htrace]
    decide +kernel
  · rw [htrace]
    decide +kernel

end DnsSession

end VpnClient
