import VpnClient.Dns.Command
import VpnClient.Proofs.Address.Ipv6
import VpnClient.Proofs.Dns.Dialog
import VpnClient.Proofs.Dns.Store
import VpnClient.Proofs.Text.Blank

/-!
# Saving what was shown

An address is shown in its canonical text, and read as that address again, whatever white space
comes around it.  So a dialog that is opened with the text of an entry and saved as it is changes
nothing, unless the entry is listed twice.

## Main Definitions

* `DnsStore.IsReady` — a store whose settings can be changed
* `DnsSession.KeepsUnchanged` — what becomes of an entry that is edited and saved as it is

## Main Statements

* `IpAddress.ofInput?_padded` — the text of an address with white space around it is that address
* `DnsStore.exists_perform_of_isReady` — an entry of such a store can be changed
* `DnsSession.shown_reads_back` — addresses are read back, and entries saved as they are are kept
-/

namespace VpnClient

/-! ## Addresses -/

namespace IpAddress

open Text (isBlank)

/-- There is no white space in the text of an address. -/
theorem not_isBlank_of_mem (address : IpAddress) : ∀ c ∈ address.chars, isBlank c = false :=
  address.forall_mem_chars (P := fun c => isBlank c = false) (by decide) (by decide) (by decide)

/-- The text of an address, with any white space around it, is read as that address. -/
theorem ofInput?_padded (address : IpAddress) {before after : String}
    (hbefore : ∀ c ∈ before.toList, isBlank c = true)
    (hafter : ∀ c ∈ after.toList, isBlank c = true) :
    ofInput? (before ++ address.text ++ after) = some address := by
  have hchars : (before ++ address.text ++ after).toList =
      before.toList ++ address.chars ++ after.toList := by
    rw [String.toList_append, String.toList_append, text, String.toList_ofList]
  rw [ofInput?, hchars, Text.trim_padded hbefore hafter address.not_isBlank_of_mem, read?_chars]

theorem ofInput?_text (address : IpAddress) : ofInput? address.text = some address := by
  have hpadded := @ofInput?_padded address "" "" nofun nofun
  rwa [String.empty_append, String.append_empty] at hpadded

end IpAddress

/-! ## Stores -/

namespace DnsStore

variable {store : DnsStore} {fs : FileSystem}

/-- The store is one in memory, or has been opened on a file as it is. -/
def IsReady (store : DnsStore) (fs : FileSystem) : Prop :=
  store.path = none ∨ ∃ path, openFile fs path = .ok store

/-- A change of the settings can be made, if there is an entry: a file that has one is there. -/
theorem exists_perform_of_isReady (h : store.IsReady fs) (hentry : store.settings.custom ≠ [])
    {change : DnsChange} {made : DnsSettings} (happly : store.settings.apply change = .ok made) :
    ∃ files, store.perform fs change = (files, .ok (store.publish made)) := by
  rcases h with hmemory | ⟨path, hopen⟩
  · refine ⟨fs, ?_⟩
    simp only [perform, hmemory, happly]
    rfl
  · rw [openFile] at hopen
    cases hload : Config.load fs path with
    | error failure =>
        rw [hload] at hopen
        cases hopen
    | ok config =>
        rw [hload] at hopen
        obtain rfl := Except.ok.inj hopen
        have hroom : fs.admits path = true := by
          refine Config.admits_of_load hload fun habsent => ?_
          rw [Config.load_of_notFound habsent, Except.ok.injEq] at hload
          rw [← hload] at hentry
          exact absurd rfl hentry
        obtain ⟨files, -, hperform, -⟩ := exists_perform rfl hload hroom happly
        exact ⟨files, hperform⟩

end DnsStore

/-! ## Dialogs -/

namespace DnsSession

variable {session : DnsSession} {i : Nat}

/-- The session after a dialog has been opened for the entry at an index, with the text of an
address. -/
def withPrefilled (session : DnsSession) (i : Nat) (address : IpAddress) : DnsSession :=
  (session.step (.open address.text (some i))).1

/-- What becomes of the entry at an index when a dialog is opened for it with its text and saved as
it is: the dialog ends with success, and the settings are what they were, unless the address is
listed elsewhere too; then the entry at the index goes away and nothing else changes. -/
def KeepsUnchanged (session : DnsSession) (i : Nat) : Prop :=
  ∃ address, session.store.settings.custom[i]? = some address ∧
    DnsCommand.entry session.store.settings i = .ok address ∧
    let saved := (session.withPrefilled i address).step (.save session.dialogs.length)
    saved.2 = some .success ∧
      (address ∉ session.store.settings.custom.eraseIdx i →
        saved.1.store.settings = session.store.settings) ∧
      (address ∈ session.store.settings.custom.eraseIdx i →
        saved.1.store.settings = { session.store.settings with
          custom := session.store.settings.custom.eraseIdx i })

/-- A change that can be made, and is asked for by a dialog, is a success. -/
theorem press_of_apply (session : DnsSession) (change : DnsChange)
    (hready : session.store.IsReady session.files)
    (hentry : session.store.settings.custom ≠ []) {made : DnsSettings}
    (happly : session.store.settings.apply change = .ok made) :
    (session.press (.change change)).2 = some .success ∧
      (session.press (.change change)).1.store.settings = made := by
  obtain ⟨files, hperform⟩ := DnsStore.exists_perform_of_isReady hready hentry happly
  simp only [press, DnsStore.answer, hperform]
  exact ⟨trivial, rfl⟩

/-- A dialog that was opened with the text of an address asks for that address to be stored in the
place of its entry, or for the entry to be deleted if the address is listed elsewhere. -/
theorem step_save_prefilled (session : DnsSession) (i : Nat) (address : IpAddress) :
    (session.withPrefilled i address).step (.save session.dialogs.length) =
      (session.withPrefilled i address).press (.change
        (if address ∈ session.store.settings.custom.eraseIdx i then .delete i
        else .set i address)) := by
  have hdialog : (session.withPrefilled i address).dialogs[session.dialogs.length]? =
      some ⟨address.text, some i⟩ := List.getElem?_concat_length
  have htyped : (DnsDialog.mk address.text (some i)).address? = some address :=
    address.ofInput?_text
  have hrequest : DnsDialog.saveRequest ⟨address.text, some i⟩ session.store.settings =
      .change (if address ∈ session.store.settings.custom.eraseIdx i then .delete i
        else .set i address) := by
    by_cases hlisted : address ∈ session.store.settings.custom.eraseIdx i
    · rw [DnsDialog.saveRequest_of_listed htyped hlisted, if_pos hlisted]
    · rw [DnsDialog.saveRequest_of_new htyped hlisted, if_neg hlisted]
  rw [← hrequest]
  simp only [step, hdialog]
  rfl

theorem keepsUnchanged (hready : session.store.IsReady session.files)
    (hentry : i < session.store.settings.custom.length) : session.KeepsUnchanged i := by
  have haddress := List.getElem?_eq_getElem hentry
  have hsome : session.store.settings.custom ≠ [] :=
    List.length_pos_iff.mp (Nat.zero_lt_of_lt hentry)
  have hstored : session.store.settings.custom.set i session.store.settings.custom[i] =
      session.store.settings.custom := List.set_getElem_self hentry
  refine ⟨session.store.settings.custom[i], haddress, by rw [DnsCommand.entry, haddress], ?_⟩
  generalize session.store.settings.custom[i] = address at hstored ⊢
  rw [step_save_prefilled]
  by_cases hlisted : address ∈ session.store.settings.custom.eraseIdx i
  · rw [if_pos hlisted]
    obtain ⟨hsuccess, hmade⟩ :=
      (session.withPrefilled i address).press_of_apply (.delete i) hready hsome (if_pos hentry)
    exact ⟨hsuccess, fun hnew => absurd hlisted hnew, fun _ => hmade⟩
  · rw [if_neg hlisted]
    obtain ⟨hsuccess, hmade⟩ :=
      (session.withPrefilled i address).press_of_apply (.set i address) hready hsome (if_pos hentry)
    refine ⟨hsuccess, fun _ => hmade.trans ?_, fun hlisted' => absurd hlisted' hlisted⟩
    -- the address takes the place of itself
    show { session.store.settings with custom := session.store.settings.custom.set i address } = _
    rw [hstored]

/-- Every address is read back from its text, whatever white space is around it; and every entry of
a store in memory, or of one that has just been opened on a file, is kept when it is edited and
saved as it is, but for an entry that is listed elsewhere too, which goes away. -/
theorem shown_reads_back :
    (∀ (address : IpAddress) (before after : String),
      (∀ c ∈ before.toList, Text.isBlank c = true) → (∀ c ∈ after.toList, Text.isBlank c = true) →
      IpAddress.ofInput? (before ++ address.text ++ after) = some address) ∧
    ∀ (session : DnsSession) (i : Nat), session.store.IsReady session.files →
      i < session.store.settings.custom.length → session.KeepsUnchanged i :=
  ⟨fun address _ _ hbefore hafter => address.ofInput?_padded hbefore hafter,
    fun _ _ hready hentry => keepsUnchanged hready hentry⟩

/-- An IPv4-mapped address, which is listed twice, with white space around its text. -/
theorem shown_reads_back_of_mapped :
    let mapped : IpAddress := .v6 (.ofIpv4 ⟨192, 168, 0, 1⟩)
    let session := DnsSession.begin ⟨false, [mapped, .v4 ⟨9, 9, 9, 9⟩, mapped]⟩ .empty
    mapped.text = "::ffff:192.168.0.1" ∧
      IpAddress.ofInput? ("\u3000" ++ "::ffff:192.168.0.1" ++ " \n") = some mapped ∧
      session.KeepsUnchanged 1 ∧ session.KeepsUnchanged 2 := by
  intro mapped session
  have htext : mapped.text = "::ffff:192.168.0.1" := by decide +kernel
  have hready : session.store.IsReady session.files := Or.inl rfl
  obtain ⟨hread, hkept⟩ := shown_reads_back
  refine ⟨htext, ?_, hkept session 1 hready (by decide), hkept session 2 hready (by decide)⟩
  rw [← htext]
  exact hread mapped "\u3000" " \n" (List.all_eq_true.mp (by decide))
    (List.all_eq_true.mp (by decide))

end DnsSession

end VpnClient
