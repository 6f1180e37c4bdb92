import Mathlib.Data.List.Perm.Basic
import VpnClient.Dns.Store

/-!
# DNS dialogs on one store

Any number of dialogs can be open on one store in memory, and each of them may have been opened for
an entry that another one has moved or removed since.  What a button does is decided by the settings
as they are when it is pressed; over all runs, an address is never listed twice because of a dialog.

## Main Definitions

* `DnsSettings.saved` — the servers after an address has been saved
* `DnsSession` — a store and the dialogs that are open on it, and its runs

## Main Statements

* `DnsDialog.save_cases`, `DnsDialog.remove_cases` — all that the buttons can do to a store in
  memory
* `DnsSettings.count_saved_le` — saving adds no address that is listed already
* `DnsSession.dialogs_spec` — what holds of every dialog in every run
-/

namespace VpnClient

namespace DnsSettings

/-- There is an entry at an index, if one is given. -/
def HasEntry (settings : DnsSettings) (index : Option Nat) : Prop :=
  ∀ i, index = some i → i < settings.custom.length

theorem hasEntry_none (settings : DnsSettings) : settings.HasEntry none := by
  intro i hi
  cases hi

theorem hasEntry_some_iff (settings : DnsSettings) (i : Nat) :
    settings.HasEntry (some i) ↔ i < settings.custom.length := by
  constructor
  · intro h
    exact h i rfl
  · intro h j hj
    cases hj
    exact h

/-- The servers with an address at the index of an entry, or at the end. -/
def stored (settings : DnsSettings) (address : IpAddress) : Option Nat → List IpAddress
  | none => settings.custom ++ [address]
  | some i => settings.custom.set i address

/-- The servers after an address has been saved: an address that is listed elsewhere is not stored
again, and the entry being changed goes away. -/
def saved (settings : DnsSettings) (index : Option Nat) (address : IpAddress) : List IpAddress :=
  if address ∈ settings.others index then settings.others index
  else settings.stored address index

theorem saved_of_listed {settings : DnsSettings} {index : Option Nat} {address : IpAddress}
    (h : address ∈ settings.others index) :
    settings.saved index address = settings.others index :=
  if_pos h

theorem saved_of_new {settings : DnsSettings} {index : Option Nat} {address : IpAddress}
    (h : address ∉ settings.others index) :
    settings.saved index address = settings.stored address index :=
  if_neg h

theorem count_others_le (settings : DnsSettings) (index : Option Nat) (address : IpAddress) :
    (settings.others index).count address ≤ settings.custom.count address := by
  cases index with
  | none => exact Nat.le_refl _
  | some i => exact (List.eraseIdx_sublist settings.custom i).count_le address

/-- A saved address that was not listed elsewhere comes on top of the other entries. -/
theorem saved_perm {settings : DnsSettings} {index : Option Nat} {address : IpAddress}
    (hentry : settings.HasEntry index) (hnew : address ∉ settings.others index) :
    List.Perm (settings.saved index address) (address :: settings.others index) := by
  rw [saved_of_new hnew]
  cases index with
  | none => exact List.perm_append_singleton address settings.custom
  | some i => exact List.set_perm_cons_eraseIdx (hentry i rfl) address

/-- Saving lists an address once more only if it is not listed elsewhere. -/
theorem count_saved_self {settings : DnsSettings} {index : Option Nat} (address : IpAddress)
    (hentry : settings.HasEntry index) :
    (settings.saved index address).count address =
      max 1 ((settings.others index).count address) := by
  by_cases hlisted : address ∈ settings.others index
  · have hpos := List.count_pos_iff.mpr hlisted
    rw [saved_of_listed hlisted]
    omega
  · rw [(saved_perm hentry hlisted).count_eq, List.count_cons_self,
      List.count_eq_zero_of_not_mem hlisted]
    rfl

/-- No address is listed more often after an address has been saved, unless it was not listed at
all. -/
theorem count_saved_le {settings : DnsSettings} {index : Option Nat} (address other : IpAddress)
    (hentry : settings.HasEntry index) :
    (settings.saved index address).count other ≤ max 1 (settings.custom.count other) := by
  have hothers := settings.count_others_le index other
  by_cases hsame : other = address
  · rw [hsame] at hothers ⊢
    rw [count_saved_self address hentry]
    omega
  · by_cases hlisted : address ∈ settings.others index
    · rw [saved_of_listed hlisted]
      omega
    · rw [(saved_perm hentry hlisted).count_eq,
        List.count_cons_of_ne (fun h => hsame h.symm)]
      omega

theorem isListedElsewhere_iff (settings : DnsSettings) (address : IpAddress)
    (index : Option Nat) :
    settings.isListedElsewhere address index = true ↔ address ∈ settings.others index := by
  simp only [isListedElsewhere, List.contains_iff_mem]

/-- The same index by index: an entry has the address, and it is not the one at the index. -/
theorem isListedElsewhere_iff_getElem? (settings : DnsSettings) (address : IpAddress)
    (index : Option Nat) : settings.isListedElsewhere address index = true ↔
      ∃ i : Nat, settings.custom[i]? = some address ∧ some i ≠ index := by
  rw [isListedElsewhere_iff]
  cases index with
  | none =>
      simp only [others, List.mem_iff_getElem?, ne_eq, reduceCtorEq, not_false_eq_true, and_true]
  | some index =>
      simp only [others, List.mem_eraseIdx_iff_getElem?, ne_eq, Option.some_inj]
      exact exists_congr fun i => and_comm

end DnsSettings

/-! ## The buttons of a dialog -/

namespace DnsDialog

variable {store : DnsStore}

/-- A store in memory refuses a change and stays as it is, or makes it and tells of it. -/
theorem answer_change (hmemory : store.path = none) (fs : FileSystem) (change : DnsChange) :
    store.answer fs (.change change) = match store.settings.apply change with
      | .ok changed => ⟨store.publish changed, fs, true, .success⟩
      | .error _ => ⟨store, fs, false, .error⟩ := by
  simp only [DnsStore.answer, DnsStore.perform, hmemory]
  cases store.settings.apply change with
  | error error => rfl
  | ok changed =>
      have htold : (store.publish changed).channel.revision ≠ store.channel.revision :=
        Nat.succ_ne_self _
      simp only [Except.map, bne_iff_ne.mpr htold]

/-- Deleting an entry of a store in memory. -/
theorem answer_delete (hmemory : store.path = none) (fs : FileSystem) (i : Nat) :
    (i < store.settings.custom.length ∧
      store.answer fs (.change (.delete i)) = ⟨store.publish
        { store.settings with custom := store.settings.custom.eraseIdx i }, fs, true, .success⟩) ∨
      (¬ i < store.settings.custom.length ∧
        store.answer fs (.change (.delete i)) = ⟨store, fs, false, .error⟩) := by
  rw [answer_change hmemory]
  by_cases hentry : i < store.settings.custom.length
  · refine Or.inl ⟨hentry, ?_⟩
    simp only [DnsSettings.apply, if_pos hentry]
  · refine Or.inr ⟨hentry, ?_⟩
    simp only [DnsSettings.apply, if_neg hentry]

theorem saveRequest_of_invalid {dialog : DnsDialog} (h : dialog.address? = none)
    (settings : DnsSettings) : dialog.saveRequest settings = .refused := by
  simp only [saveRequest, h]

theorem saveRequest_of_listed {dialog : DnsDialog} {address : IpAddress}
    (h : dialog.address? = some address) {settings : DnsSettings}
    (hlisted : address ∈ settings.others dialog.index) :
    dialog.saveRequest settings = match dialog.index with
      | none => .done
      | some i => .change (.delete i) := by
  have helsewhere := (settings.isListedElsewhere_iff address dialog.index).mpr hlisted
  simp only [saveRequest, h, helsewhere]
  cases dialog.index <;> rfl

theorem saveRequest_of_new {dialog : DnsDialog} {address : IpAddress}
    (h : dialog.address? = some address) {settings : DnsSettings}
    (hnew : address ∉ settings.others dialog.index) :
    dialog.saveRequest settings = match dialog.index with
      | none => .change (.add address)
      | some i => .change (.set i address) := by
  have hnowhere : settings.isListedElsewhere address dialog.index = false := by
    rw [← Bool.not_eq_true, settings.isListedElsewhere_iff]
    exact hnew
  simp only [saveRequest, h, hnowhere]
  cases dialog.index <;> rfl

/-- Saving is refused, and then nothing happens; or it stores the address that was typed. -/
theorem save_cases (hmemory : store.path = none) (fs : FileSystem) (dialog : DnsDialog) :
    let answer := store.answer fs (dialog.saveRequest store.settings)
    (answer = ⟨store, fs, false, .error⟩ ∧
        ∀ address, dialog.address? = some address → ¬ store.settings.HasEntry dialog.index) ∨
      ∃ address, dialog.address? = some address ∧ store.settings.HasEntry dialog.index ∧
        answer.result = .success ∧ answer.files = fs ∧ answer.store.path = none ∧
        answer.store.settings =
          { store.settings with custom := store.settings.saved dialog.index address } := by
  intro answer
  obtain ⟨input, index⟩ := dialog
  cases haddress : (⟨input, index⟩ : DnsDialog).address? with
  | none =>
      refine Or.inl ⟨?_, fun address h => by cases h⟩
      simp only [answer, saveRequest_of_invalid haddress]
      rfl
  | some address =>
      by_cases hlisted : address ∈ store.settings.others index
      · have hrequest := saveRequest_of_listed haddress hlisted
        have hsaved := DnsSettings.saved_of_listed hlisted
        cases index with
        | none =>
            refine Or.inr ⟨address, rfl, store.settings.hasEntry_none, ?_⟩
            simp only [answer, hrequest, hsaved]
            exact ⟨rfl, rfl, hmemory, rfl⟩
        | some i =>
            rcases answer_delete hmemory fs i with ⟨hentry, heq⟩ | ⟨hnoEntry, heq⟩
            · refine Or.inr ⟨address, rfl, (store.settings.hasEntry_some_iff i).mpr hentry, ?_⟩
              simp only [answer, hrequest, hsaved, heq]
              exact ⟨trivial, trivial, hmemory, rfl⟩
            · refine Or.inl ⟨?_, fun _ _ h => hnoEntry ((store.settings.hasEntry_some_iff i).mp h)⟩
              simp only [answer, hrequest, heq]
      · have hrequest := saveRequest_of_new haddress hlisted
        have hsaved := DnsSettings.saved_of_new hlisted
        cases index with
        | none =>
            refine Or.inr ⟨address, rfl, store.settings.hasEntry_none, ?_⟩
            simp only [answer, hrequest, hsaved, answer_change hmemory, DnsSettings.apply]
            exact ⟨trivial, trivial, hmemory, rfl⟩
        | some i =>
            by_cases hentry : i < store.settings.custom.length
            · refine Or.inr ⟨address, rfl, (store.settings.hasEntry_some_iff i).mpr hentry, ?_⟩
              simp only [answer, hrequest, hsaved, answer_change hmemory, DnsSettings.apply,
                if_pos hentry]
              exact ⟨trivial, trivial, hmemory, rfl⟩
            · refine Or.inl ⟨?_, fun _ _ h => hentry ((store.settings.hasEntry_some_iff i).mp h)⟩
              simp only [answer, hrequest, answer_change hmemory, DnsSettings.apply,
                if_neg hentry]

/-- Removing is refused, and then nothing happens; or it removes the entry of the dialog. -/
theorem remove_cases (hmemory : store.path = none) (fs : FileSystem) (dialog : DnsDialog) :
    let answer := store.answer fs dialog.removeRequest
    (answer = ⟨store, fs, false, .error⟩ ∧
        ¬ (dialog.index.isSome = true ∧ store.settings.HasEntry dialog.index)) ∨
      (dialog.index.isSome = true ∧ store.settings.HasEntry dialog.index ∧
        answer.result = .success ∧ answer.files = fs ∧ answer.store.path = none ∧
        answer.store.settings =
          { store.settings with custom := store.settings.others dialog.index }) := by
  intro answer
  cases hindex : dialog.index with
  | none =>
      refine Or.inl ⟨?_, fun h => by cases h.1⟩
      simp only [answer, removeRequest, hindex]
      rfl
  | some i =>
      simp only [answer, removeRequest, hindex]
      rcases answer_delete hmemory fs i with ⟨hentry, heq⟩ | ⟨hnoEntry, heq⟩
      · rw [heq]
        exact Or.inr ⟨rfl, (store.settings.hasEntry_some_iff i).mpr hentry, rfl, rfl, hmemory, rfl⟩
      · rw [heq]
        exact Or.inl ⟨rfl, fun h => hnoEntry ((store.settings.hasEntry_some_iff i).mp h.2)⟩

/-- Saving is offered exactly if an address has been typed. -/
theorem isSaveEnabled_view (dialog : DnsDialog) (settings : DnsSettings) :
    (dialog.view settings).isSaveEnabled = true ↔ dialog.address?.isSome = true := by
  simp only [DnsDialogView.isSaveEnabled, view, problem?]
  cases dialog.address? with
  | none => simp
  | some address =>
      simp only
      split <;> simp

end DnsDialog

/-! ## Sessions -/

/-- What can happen to the dialogs on a store.  A dialog is known by its number. -/
inductive DnsEvent where
  | open (input : String) (index : Option Nat)
  | type (dialog : Nat) (input : String)
  | save (dialog : Nat)
  | remove (dialog : Nat)
  | dismiss (dialog : Nat)
  deriving DecidableEq, Repr

/-- A store, the files behind it, and the dialogs that have been opened on it. -/
structure DnsSession where
  store : DnsStore
  files : FileSystem
  dialogs : List DnsDialog

namespace DnsSession

/-- A store in memory on which no dialog has been opened yet. -/
def begin (settings : DnsSettings) (fs : FileSystem) : DnsSession :=
  ⟨.memory settings, fs, []⟩

/-- The session after a button has been pressed, and the result. -/
def press (session : DnsSession) (request : DnsRequest) : DnsSession × Option DialogResult :=
  let answer := session.store.answer session.files request
  ({ session with store := answer.store, files := answer.files }, some answer.result)

/-- The session after an event, and the result of a dialog if it has ended.  Nothing happens to a
dialog that is not there. -/
def step (session : DnsSession) : DnsEvent → DnsSession × Option DialogResult
  | .open input index => ({ session with dialogs := session.dialogs ++ [⟨input, index⟩] }, none)
  | .type number input =>
    ({ session with dialogs := session.dialogs.modify number fun dialog =>
        { dialog with input := input } }, none)
  | .save number =>
    match session.dialogs[number]? with
    | some dialog => session.press (dialog.saveRequest session.store.settings)
    | none => (session, none)
  | .remove number =>
    match session.dialogs[number]? with
    | some dialog => session.press dialog.removeRequest
    | none => (session, none)
  | .dismiss number =>
    match session.dialogs[number]? with
    | some _ => (session, some .cancel)
    | none => (session, none)

/-- The session after all events of a run. -/
def run (session : DnsSession) (events : List DnsEvent) : DnsSession :=
  events.foldl (fun session event => (session.step event).1) session

/-- What is left of the settings that a session in memory has begun with: whether the local network
may be reached, and how often an address may be listed. -/
structure KeepsTo (session : DnsSession) (settings : DnsSettings) : Prop where
  path_eq : session.store.path = none
  allowLan_eq : session.store.settings.allowLan = settings.allowLan
  count_le : ∀ address,
    session.store.settings.custom.count address ≤ max 1 (settings.custom.count address)

theorem KeepsTo.step {session : DnsSession} {settings : DnsSettings}
    (h : session.KeepsTo settings) (event : DnsEvent) :
    (session.step event).1.KeepsTo settings := by
  cases event with
  | «open» input index => exact ⟨h.path_eq, h.allowLan_eq, h.count_le⟩
  | type number input => exact ⟨h.path_eq, h.allowLan_eq, h.count_le⟩
  | dismiss number =>
      simp only [DnsSession.step]
      split <;> exact h
  | save number =>
      simp only [DnsSession.step]
      split
      · next dialog _ =>
        rcases DnsDialog.save_cases h.path_eq session.files dialog with
          ⟨hrefused, -⟩ | ⟨address, -, hentry, -, -, hpath, hsettings⟩
        · simp only [press, hrefused]
          exact h
        · refine ⟨hpath, ?_, ?_⟩
          · simp only [press, hsettings]
            exact h.allowLan_eq
          · intro other
            simp only [press, hsettings]
            -- whatever bound the address had before the save, the save does not lift it
            have hsaved := DnsSettings.count_saved_le address other hentry
            have hbefore := h.count_le other
            omega
      · exact h
  | remove number =>
      simp only [DnsSession.step]
      split
      · next dialog _ =>
        rcases DnsDialog.remove_cases h.path_eq session.files dialog with
          ⟨hrefused, -⟩ | ⟨-, -, -, -, hpath, hsettings⟩
        · simp only [press, hrefused]
          exact h
        · refine ⟨hpath, ?_, ?_⟩
          · simp only [press, hsettings]
            exact h.allowLan_eq
          · intro other
            simp only [press, hsettings]
            exact Nat.le_trans (DnsSettings.count_others_le _ dialog.index other)
              (h.count_le other)
      · exact h

theorem KeepsTo.run {session : DnsSession} {settings : DnsSettings}
    (h : session.KeepsTo settings) (events : List DnsEvent) :
    (session.run events).KeepsTo settings := by
  induction events generalizing session with
  | nil => exact h
  | cons event events ih => exact ih (h.step event)

/-- A save in a session in memory: an error that changes nothing, or a success. -/
theorem step_save {session : DnsSession} (hmemory : session.store.path = none) {number : Nat}
    {dialog : DnsDialog} (hdialog : session.dialogs[number]? = some dialog) :
    (session.step (.save number) = (session, some .error) ∧
        ∀ address, IpAddress.ofInput? dialog.input = some address →
          ¬ session.store.settings.HasEntry dialog.index) ∨
      ((session.step (.save number)).2 = some .success ∧
        ∃ address, IpAddress.ofInput? dialog.input = some address ∧
          session.store.settings.HasEntry dialog.index ∧
          (session.step (.save number)).1.store.settings = { session.store.settings with
            custom := session.store.settings.saved dialog.index address }) := by
  have hstep : session.step (.save number) =
      session.press (dialog.saveRequest session.store.settings) := by
    simp only [step, hdialog]
  rw [hstep]
  rcases DnsDialog.save_cases hmemory session.files dialog with
    ⟨hrefused, hnot⟩ | ⟨address, haddress, hentry, hsuccess, -, -, hsettings⟩
  · refine Or.inl ⟨?_, hnot⟩
    rw [press, hrefused]
  · exact Or.inr ⟨congrArg some hsuccess, address, haddress, hentry, hsettings⟩

/-- A removal in a session in memory: an error that changes nothing, or a success. -/
theorem step_remove {session : DnsSession} (hmemory : session.store.path = none) {number : Nat}
    {dialog : DnsDialog} (hdialog : session.dialogs[number]? = some dialog) :
    (session.step (.remove number) = (session, some .error) ∧
        ¬ (dialog.index.isSome = true ∧ session.store.settings.HasEntry dialog.index)) ∨
      ((session.step (.remove number)).2 = some .success ∧ dialog.index.isSome = true ∧
        session.store.settings.HasEntry dialog.index ∧
        (session.step (.remove number)).1.store.settings = { session.store.settings with
          custom := session.store.settings.others dialog.index }) := by
  have hstep : session.step (.remove number) = session.press dialog.removeRequest := by
    simp only [step, hdialog]
  rw [hstep]
  rcases DnsDialog.remove_cases hmemory session.files dialog with
    ⟨hrefused, hnot⟩ | ⟨hindex, hentry, hsuccess, -, -, hsettings⟩
  · refine Or.inl ⟨?_, hnot⟩
    rw [press, hrefused]
  · exact Or.inr ⟨congrArg some hsuccess, hindex, hentry, hsettings⟩

/-- What the buttons of a dialog do in a session, whatever has become of the entry that it was
opened for.  A session that stays the same tells nobody of a change. -/
structure Serves (session : DnsSession) (number : Nat) (dialog : DnsDialog) : Prop where
  isSaveEnabled_iff : (dialog.view session.store.settings).isSaveEnabled = true ↔
    ∃ address, IpAddress.ofInput? dialog.input = some address
  save_success_iff : (session.step (.save number)).2 = some .success ↔
    (∃ address, IpAddress.ofInput? dialog.input = some address) ∧
      session.store.settings.HasEntry dialog.index
  save_success : ∀ address, IpAddress.ofInput? dialog.input = some address →
    session.store.settings.HasEntry dialog.index →
      (session.step (.save number)).1.store.settings = { session.store.settings with
        custom := session.store.settings.saved dialog.index address } ∧
      (session.step (.save number)).1.store.settings.custom.count address =
        max 1 ((session.store.settings.others dialog.index).count address)
  save_error : (session.step (.save number)).2 ≠ some .success →
    session.step (.save number) = (session, some .error)
  remove_success_iff : (session.step (.remove number)).2 = some .success ↔
    dialog.index.isSome = true ∧ session.store.settings.HasEntry dialog.index
  remove_success : (session.step (.remove number)).2 = some .success →
    (session.step (.remove number)).1.store.settings = { session.store.settings with
      custom := session.store.settings.others dialog.index }
  remove_error : (session.step (.remove number)).2 ≠ some .success →
    session.step (.remove number) = (session, some .error)
  dismiss_eq : session.step (.dismiss number) = (session, some .cancel)

/-- A store in memory serves every dialog that is open on it. -/
theorem serves {session : DnsSession} (hmemory : session.store.path = none) {number : Nat}
    {dialog : DnsDialog} (hdialog : session.dialogs[number]? = some dialog) :
    session.Serves number dialog where
  isSaveEnabled_iff :=
    (dialog.isSaveEnabled_view session.store.settings).trans Option.isSome_iff_exists
  save_success_iff := by
    rcases step_save hmemory hdialog with ⟨heq, hnot⟩ | ⟨hsuccess, address, haddress, hentry, -⟩
    · rw [heq]
      constructor
      · intro hsuccess
        cases hsuccess
      · rintro ⟨⟨address, haddress⟩, hentry⟩
        exact (hnot address haddress hentry).elim
    · exact ⟨fun _ => ⟨⟨address, haddress⟩, hentry⟩, fun _ => hsuccess⟩
  save_success := by
    intro address haddress hentry
    rcases step_save hmemory hdialog with ⟨-, hnot⟩ | ⟨-, address', haddress', -, hsettings⟩
    · exact (hnot address haddress hentry).elim
    · rw [haddress, Option.some_inj] at haddress'
      subst haddress'
      rw [hsettings]
      exact ⟨rfl, DnsSettings.count_saved_self address hentry⟩
  save_error := by
    intro herror
    rcases step_save hmemory hdialog with ⟨heq, -⟩ | ⟨hsuccess, -⟩
    · exact heq
    · exact (herror hsuccess).elim
  remove_success_iff := by
    rcases step_remove hmemory hdialog with ⟨heq, hnot⟩ | ⟨hsuccess, hindex, hentry, -⟩
    · rw [heq]
      constructor
      · intro hsuccess
        cases hsuccess
      · intro hboth
        exact (hnot hboth).elim
    · exact ⟨fun _ => ⟨hindex, hentry⟩, fun _ => hsuccess⟩
  remove_success := by
    intro hsuccess
    rcases step_remove hmemory hdialog with ⟨heq, -⟩ | ⟨-, -, -, hsettings⟩
    · rw [heq] at hsuccess
      cases hsuccess
    · exact hsettings
  remove_error := by
    intro herror
    rcases step_remove hmemory hdialog with ⟨heq, -⟩ | ⟨hsuccess, -⟩
    · exact heq
    · exact (herror hsuccess).elim
  dismiss_eq := by
    simp only [step, hdialog]

/-- However the dialogs on a store in memory are used, in whatever order: every button of every
dialog does what it should, whether the local network may be reached stays as it was, and no
address is listed more often than at the beginning, or more than once if it was not listed then. -/
theorem dialogs_spec (settings : DnsSettings) (fs : FileSystem) (events : List DnsEvent) :
    ((begin settings fs).run events).KeepsTo settings ∧
      ∀ number dialog, ((begin settings fs).run events).dialogs[number]? = some dialog →
        ((begin settings fs).run events).Serves number dialog := by
  have hbegin : (begin settings fs).KeepsTo settings := by
    refine ⟨rfl, rfl, ?_⟩
    intro address
    exact Nat.le_max_right _ _
  -- what a button does depends on nothing but that the store is still one in memory
  have hkeeps := hbegin.run events
  exact ⟨hkeeps, fun number dialog hdialog => serves hkeeps.path_eq hdialog⟩

end DnsSession

end VpnClient
