import VpnClient.Proofs.Dns.Dialog
import VpnClient.Proofs.Dns.Store

/-!
# What a dialog does to the entry it was opened for

A dialog for an entry keeps the position of that entry and nothing else.  Other dialogs and direct
calls move, replace and remove entries while it is open, so that the position can come to be that of
another entry, or of none.  Whatever happens, the dialog changes the entry at its position only.

## Main Definitions

* `DnsUse`, `DnsSession.uses` — runs of dialogs and direct calls on one store
* `DnsSession.KeepsToEntry` — the buttons of a dialog spare all other addresses
* `DnsSession.KeepsToSlot` — the buttons of a dialog spare all other positions

## Main Statements

* `DnsStore.answer_cases` — a store refuses a change and stays as it is, or makes it
* `DnsSession.slot?_uses` — the position of a dialog stays what it was
* `DnsSession.keepsToSlot` — a button fails, or changes the entry at the position of its dialog
* `DnsSession.dialog_keeps_to_entry` — what holds of every dialog for an entry in every run
-/

namespace VpnClient

/-! ## Changes of a store -/

/-- A change that is made is about an entry that is there, if it is about one. -/
theorem DnsSettings.apply_ok {settings made : DnsSettings} {change : DnsChange}
    (h : settings.apply change = .ok made) :
    (∀ i, change.index? = some i → i < settings.custom.length) ∧
      made = settings.changed change := by
  by_cases hrange : ∃ i, settings.IsOutOfRange change i
  · obtain ⟨i, hout⟩ := hrange
    rw [apply_of_isOutOfRange hout] at h
    cases h
  · rw [apply_of_inRange hrange] at h
    refine ⟨fun i hindex => ?_, (Except.ok.inj h).symm⟩
    by_contra hshort
    exact hrange ⟨i, hindex, Nat.le_of_not_lt hshort⟩

namespace DnsStore

/-- A change fails and leaves all files alone, or is that of the settings in memory, wherever the
store is. -/
theorem perform_cases (store : DnsStore) (fs : FileSystem) (change : DnsChange) :
    (∃ files error, store.perform fs change = (files, .error error) ∧ fs.KeepsFiles files) ∨
      ∃ files changed, store.perform fs change = (files, .ok (store.publish changed)) ∧
        store.settings.apply change = .ok changed := by
  rw [perform]
  cases store.path with
  | none =>
      cases store.settings.apply change with
      | error error => exact Or.inl ⟨fs, error, rfl, FileSystem.KeepsFiles.refl fs⟩
      | ok changed => exact Or.inr ⟨fs, changed, rfl, rfl⟩
  | some path =>
      dsimp only [persist]
      cases Config.load fs path with
      | error failure => exact Or.inl ⟨fs, _, rfl, FileSystem.KeepsFiles.refl fs⟩
      | ok config =>
          cases store.settings.apply change with
          | error error => exact Or.inl ⟨fs, error, rfl, FileSystem.KeepsFiles.refl fs⟩
          | ok changed =>
              dsimp only
              cases hsave : ({ config with dns := changed } : Config).save fs path with
              | mk saved result =>
                  cases result with
                  | ok done => exact Or.inr ⟨saved, changed, rfl, rfl⟩
                  | error failure =>
                      have hkeeps := Config.keepsFiles_of_save_error (congrArg Prod.snd hsave)
                      rw [hsave] at hkeeps
                      exact Or.inl ⟨saved, _, rfl, hkeeps⟩

/-- A dialog is told of a failure and all stays as it is, or of a success and the change is made. -/
theorem answer_cases (store : DnsStore) (fs : FileSystem) (change : DnsChange) :
    ((store.answer fs (.change change)).result = .error ∧
        (store.answer fs (.change change)).store = store ∧
        fs.KeepsFiles (store.answer fs (.change change)).files) ∨
      ∃ changed, store.settings.apply change = .ok changed ∧
        (store.answer fs (.change change)).result = .success ∧
        (store.answer fs (.change change)).store.settings = changed := by
  rcases store.perform_cases fs change with
    ⟨files, error, hperform, hkeeps⟩ | ⟨files, changed, hperform, happly⟩
  · simp only [answer, hperform]
    exact Or.inl ⟨trivial, trivial, hkeeps⟩
  · simp only [answer, hperform]
    exact Or.inr ⟨changed, happly, trivial, rfl⟩

end DnsStore

/-! ## Runs of dialogs and direct calls -/

/-- What can happen to a store on which dialogs are open: something happens to a dialog, or a change
is asked for directly. -/
inductive DnsUse where
  | dialog (event : DnsEvent)
  | call (change : DnsChange)
  deriving DecidableEq, Repr

namespace DnsSession

/-- The session after a change has been asked for directly. -/
def call (session : DnsSession) (change : DnsChange) : DnsSession :=
  match session.store.perform session.files change with
  | (files, .ok store) => { session with store := store, files := files }
  | (files, .error _) => { session with files := files }

/-- The session after something has happened. -/
def use (session : DnsSession) : DnsUse → DnsSession
  | .dialog event => (session.step event).1
  | .call change => session.call change

/-- The session after all that has happened. -/
def uses (session : DnsSession) (uses : List DnsUse) : DnsSession :=
  uses.foldl use session

variable {session : DnsSession} {number i : Nat}

/-- The position of a dialog. -/
def slot? (session : DnsSession) (number : Nat) : Option (Option Nat) :=
  (session.dialogs[number]?).map DnsDialog.index

theorem slot?_call (change : DnsChange) :
    (session.call change).slot? number = session.slot? number := by
  rw [call]
  split <;> rfl

/-- What the user types into a dialog does not move it. -/
theorem slot?_type (other : Nat) (input : String) :
    (session.step (.type other input)).1.slot? number = session.slot? number := by
  simp only [slot?, step, List.getElem?_modify, Option.map_eq_map, Option.map_map]
  congr 1
  funext dialog
  simp only [Function.comp_apply]
  split <;> rfl

/-- The position of a dialog is the one that it was opened for, whatever happens. -/
theorem slot?_use {position : Option Nat} (h : session.slot? number = some position)
    (use : DnsUse) : (session.use use).slot? number = some position := by
  cases use with
  | call change => exact (slot?_call change).trans h
  | dialog event =>
      cases event with
      | type other input => exact (slot?_type other input).trans h
      | «open» input index =>
          obtain ⟨dialog, hdialog, hposition⟩ := Option.map_eq_some_iff.mp h
          have hlater : (session.dialogs ++ [⟨input, index⟩])[number]? = some dialog := by
            rw [List.getElem?_append_left (List.getElem?_eq_some_iff.mp hdialog).1]
            exact hdialog
          exact Option.map_eq_some_iff.mpr ⟨dialog, hlater, hposition⟩
      | save _ | remove _ | dismiss _ =>
          simp only [DnsSession.use, step]
          split
          · exact h
          · exact h

theorem slot?_uses {position : Option Nat} (h : session.slot? number = some position)
    (uses : List DnsUse) : (session.uses uses).slot? number = some position := by
  induction uses generalizing session with
  | nil => exact h
  | cons use uses ih => exact ih (slot?_use h use)

/-! ## What has become of a session after a button -/

/-- The button reports an error, and neither the settings nor the files have changed. -/
structure IsRefused (session : DnsSession) (outcome : DnsSession × Option DialogResult) :
    Prop where
  result_eq : outcome.2 = some .error
  store_eq : outcome.1.store = session.store
  keepsFiles : session.files.KeepsFiles outcome.1.files

/-- The button reports success, and the entry at an index is gone. -/
structure IsRemoval (session : DnsSession) (i : Nat)
    (outcome : DnsSession × Option DialogResult) : Prop where
  result_eq : outcome.2 = some .success
  hasEntry : i < session.store.settings.custom.length
  settings_eq : outcome.1.store.settings =
    { session.store.settings with custom := session.store.settings.custom.eraseIdx i }

/-- The button reports success, and the entry at an index has another address. -/
structure IsReplacement (session : DnsSession) (i : Nat) (address : IpAddress)
    (outcome : DnsSession × Option DialogResult) : Prop where
  result_eq : outcome.2 = some .success
  hasEntry : i < session.store.settings.custom.length
  settings_eq : outcome.1.store.settings =
    { session.store.settings with custom := session.store.settings.custom.set i address }

theorem press_refused : session.IsRefused (session.press .refused) :=
  ⟨rfl, rfl, FileSystem.KeepsFiles.refl _⟩

theorem press_delete : session.IsRefused (session.press (.change (.delete i))) ∨
    session.IsRemoval i (session.press (.change (.delete i))) := by
  rcases session.store.answer_cases session.files (.delete i) with
    ⟨hresult, hstore, hfiles⟩ | ⟨changed, happly, hresult, hsettings⟩
  · exact Or.inl ⟨congrArg some hresult, hstore, hfiles⟩
  · obtain ⟨hentry, rfl⟩ := DnsSettings.apply_ok happly
    exact Or.inr ⟨congrArg some hresult, hentry i rfl, hsettings⟩

theorem press_set (address : IpAddress) :
    session.IsRefused (session.press (.change (.set i address))) ∨
      session.IsReplacement i address (session.press (.change (.set i address))) := by
  rcases session.store.answer_cases session.files (.set i address) with
    ⟨hresult, hstore, hfiles⟩ | ⟨changed, happly, hresult, hsettings⟩
  · exact Or.inl ⟨congrArg some hresult, hstore, hfiles⟩
  · obtain ⟨hentry, rfl⟩ := DnsSettings.apply_ok happly
    exact Or.inr ⟨congrArg some hresult, hentry i rfl, hsettings⟩

/-- The buttons of a dialog for an entry change the entry at the position of the dialog, or
nothing at all. -/
structure KeepsToSlot (session : DnsSession) (number i : Nat) : Prop where
  save : session.IsRefused (session.step (.save number)) ∨
    session.IsRemoval i (session.step (.save number)) ∨
      ∃ dialog address, session.dialogs[number]? = some dialog ∧
        IpAddress.ofInput? dialog.input = some address ∧
        session.IsReplacement i address (session.step (.save number))
  remove : session.IsRefused (session.step (.remove number)) ∨
    session.IsRemoval i (session.step (.remove number))

theorem keepsToSlot (h : session.slot? number = some (some i)) : session.KeepsToSlot number i := by
  obtain ⟨dialog, hdialog, hindex⟩ := Option.map_eq_some_iff.mp h
  constructor
  · simp only [step, hdialog]
    cases haddress : dialog.address? with
    | none =>
        rw [DnsDialog.saveRequest_of_invalid haddress]
        exact Or.inl press_refused
    | some address =>
        by_cases hlisted : address ∈ session.store.settings.others dialog.index
        · rw [DnsDialog.saveRequest_of_listed haddress hlisted, hindex]
          rcases press_delete with hrefused | hremoval
          · exact Or.inl hrefused
          · exact Or.inr (Or.inl hremoval)
        · rw [DnsDialog.saveRequest_of_new haddress hlisted, hindex]
          rcases press_set address with hrefused | hreplacement
          · exact Or.inl hrefused
          · exact Or.inr (Or.inr ⟨dialog, address, rfl, haddress, hreplacement⟩)
  · simp only [step, hdialog, DnsDialog.removeRequest, hindex]
    exact press_delete

/-! ## Other entries -/

/-- No entry with another address than a certain one has gone. -/
def SparesOthers (session : DnsSession) (entry : IpAddress) (after : DnsSession) : Prop :=
  ∀ address, address ≠ entry →
    session.store.settings.custom.count address ≤ after.store.settings.custom.count address

/-- The buttons of a dialog for an entry with a certain address spare all entries with another one.
If there is no such entry at the position any more, they report an error and nothing changes. -/
structure KeepsToEntry (session : DnsSession) (number i : Nat) (entry : IpAddress) : Prop where
  save_spares : session.SparesOthers entry (session.step (.save number)).1
  remove_spares : session.SparesOthers entry (session.step (.remove number)).1
  save_stale : session.store.settings.custom[i]? ≠ some entry →
    session.IsRefused (session.step (.save number))
  remove_stale : session.store.settings.custom[i]? ≠ some entry →
    session.IsRefused (session.step (.remove number))

variable {entry : IpAddress} {outcome : DnsSession × Option DialogResult}

theorem IsRefused.sparesOthers (h : session.IsRefused outcome) (entry : IpAddress) :
    session.SparesOthers entry outcome.1 := by
  intro address _
  rw [h.store_eq]

/-- The entries that are left are the others, so that only the address of the entry that has gone
is listed less often. -/
theorem IsRemoval.sparesOthers (h : session.IsRemoval i outcome)
    (hentry : session.store.settings.custom[i]? = some entry) :
    session.SparesOthers entry outcome.1 := by
  intro address hother
  obtain ⟨hlength, rfl⟩ := List.getElem?_eq_some_iff.mp hentry
  rw [h.settings_eq, ← (List.getElem_cons_eraseIdx_perm hlength).count_eq address,
    List.count_cons_of_ne hother.symm]

theorem IsReplacement.sparesOthers {address : IpAddress}
    (h : session.IsReplacement i address outcome)
    (hentry : session.store.settings.custom[i]? = some entry) :
    session.SparesOthers entry outcome.1 := by
  intro other hother
  obtain ⟨hlength, rfl⟩ := List.getElem?_eq_some_iff.mp hentry
  rw [h.settings_eq, (List.set_perm_cons_eraseIdx hlength address).count_eq,
    ← (List.getElem_cons_eraseIdx_perm hlength).count_eq other, List.count_cons_of_ne hother.symm]
  exact List.count_le_count_cons

/-- A dialog spares the other addresses as long as its position is not that of another entry. -/
theorem KeepsToSlot.keepsToEntry (h : session.KeepsToSlot number i)
    (hentry : ∀ other, session.store.settings.custom[i]? = some other → other = entry) :
    session.KeepsToEntry number i entry := by
  have hthere : i < session.store.settings.custom.length →
      session.store.settings.custom[i]? = some entry := by
    intro hlength
    have hsome := List.getElem?_eq_getElem hlength
    rw [hsome, hentry _ hsome]
  constructor
  · rcases h.save with hrefused | hremoval | ⟨dialog, address, -, -, hreplacement⟩
    · exact hrefused.sparesOthers entry
    · exact hremoval.sparesOthers (hthere hremoval.hasEntry)
    · exact hreplacement.sparesOthers (hthere hreplacement.hasEntry)
  · rcases h.remove with hrefused | hremoval
    · exact hrefused.sparesOthers entry
    · exact hremoval.sparesOthers (hthere hremoval.hasEntry)
  · intro hstale
    rcases h.save with hrefused | hremoval | ⟨dialog, address, -, -, hreplacement⟩
    · exact hrefused
    · exact absurd (hthere hremoval.hasEntry) hstale
    · exact absurd (hthere hreplacement.hasEntry) hstale
  · intro hstale
    rcases h.remove with hrefused | hremoval
    · exact hrefused
    · exact absurd (hthere hremoval.hasEntry) hstale

/-- However dialogs and direct calls have been used on a store, in memory or on a file, before a
dialog was opened for an entry and since: the buttons of that dialog change the entry at its
position or nothing, and unless that has become the position of an entry with another address, they
spare all entries with another address, and fail if there is no entry. -/
theorem dialog_keeps_to_entry (store : DnsStore) (fs : FileSystem) (before during : List DnsUse)
    (entry : IpAddress) (i : Nat) :
    let opened := (⟨store, fs, []⟩ : DnsSession).uses before
    let session := (opened.use (.dialog (.open entry.text (some i)))).uses during
    session.KeepsToSlot opened.dialogs.length i ∧
      ((∀ other, session.store.settings.custom[i]? = some other → other = entry) →
        session.KeepsToEntry opened.dialogs.length i entry) := by
  intro opened session
  have hopened : (opened.use (.dialog (.open entry.text (some i)))).slot? opened.dialogs.length =
      some (some i) := by
    simp only [slot?, use, step, List.getElem?_concat_length, Option.map_some]
  have hkeeps := keepsToSlot (slot?_uses hopened during)
  exact ⟨hkeeps, hkeeps.keepsToEntry⟩

/-- A dialog for the first of two entries, which has been removed since: the dialog takes the second
one for it, so that removing removes that one, and saving replaces it by the first one. -/
theorem not_keepsToEntry_of_moved :
    let opened : DnsSession :=
      ⟨.memory ⟨false, [.v4 ⟨9, 9, 9, 9⟩, .v4 ⟨1, 1, 1, 1⟩]⟩, .empty, []⟩
    let session := opened.uses [.dialog (.open "9.9.9.9" (some 0)), .call (.delete 0)]
    opened.store.settings.custom[0]? = some (.v4 ⟨9, 9, 9, 9⟩) ∧
      (IpAddress.v4 ⟨9, 9, 9, 9⟩).text = "9.9.9.9" ∧
      session.store.settings.custom = [.v4 ⟨1, 1, 1, 1⟩] ∧
      (session.step (.save 0)).2 = some .success ∧
      (session.step (.save 0)).1.store.settings.custom = [.v4 ⟨9, 9, 9, 9⟩] ∧
      (session.step (.remove 0)).2 = some .success ∧
      (session.step (.remove 0)).1.store.settings.custom = [] ∧
      ¬ session.KeepsToEntry 0 0 (.v4 ⟨9, 9, 9, 9⟩) := by
  intro opened session
  have hremoved : (session.step (.remove 0)).2 = some .success := by decide +kernel
  refine ⟨by decide +kernel, by decide +kernel, by decide +kernel, by decide +kernel,
    by decide +kernel, hremoved, by decide +kernel, ?_⟩
  intro hkeeps
  have hrefused := (hkeeps.remove_stale (by decide +kernel)).result_eq
  rw [hremoved] at hrefused
  cases hrefused

end DnsSession

end VpnClient
