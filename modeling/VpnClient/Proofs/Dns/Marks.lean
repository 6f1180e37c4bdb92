import VpnClient.Dns.Command
import VpnClient.Proofs.Address.Local
import VpnClient.Proofs.Dns.Command

/-!
# Marks on local addresses

Where the local network is cut off, a user is warned of a local address that is typed in a dialog
or saved by a command, and a local address in the list is marked.  All three go by the same blocks
of addresses, and so by the address and not by its spelling.

## Main Definitions

* `DnsSettings.MarksAs` — what is shown of an address, by whether it is marked

## Main Statements

* `DnsCommand.localWarning_mem_save_iff` — when a command prints the warning
* `DnsSettings.lines_listing` — the lines of the list that is printed
* `DnsSettings.marksAs` — an address is marked if it is local and the local network is cut off
* `DnsSettings.local_blocks_marked` — which addresses these are
-/

namespace VpnClient

/-! ## What a command prints -/

namespace DnsCommand

/-- The line that warns of a local address. -/
def localWarning (coloured : Bool) (input : String) : String :=
  caution coloured ++ " " ++ trimmed input ++
    " is a local address and is only reachable with local network sharing enabled"

/-- The line that tells of something saved. -/
def savedLine (coloured : Bool) (input : String) : String :=
  done coloured ++ " Saved " ++ trimmed input

/-- The marks of lines that warn and of lines that tell of something done differ at some character,
with colours and without. -/
theorem marks_differ (coloured : Bool) : ∃ front first second rest rest', first ≠ second ∧
    (caution coloured).toList = front ++ first :: rest ∧
    (done coloured).toList = front ++ second :: rest' := by
  cases coloured with
  | false => exact ⟨[], '!', '✓', [], [], by decide, rfl, rfl⟩
  | true =>
      exact ⟨['\x1b', '[', '3'], '3', '2', ['m', '!', '\x1b', '[', '0', 'm'],
        ['m', '✓', '\x1b', '[', '0', 'm'], by decide, by decide +kernel, by decide +kernel⟩

theorem localWarning_ne_savedLine (coloured : Bool) (first second : String) :
    localWarning coloured first ≠ savedLine coloured second := by
  intro heq
  obtain ⟨front, c, d, rest, rest', hne, hcaution, hdone⟩ := marks_differ coloured
  have hchars := congrArg String.toList heq
  simp only [localWarning, savedLine, String.toList_append, hcaution, hdone, List.append_assoc,
    List.append_cancel_left_eq, List.cons_append, List.cons.injEq] at hchars
  exact hne hchars.1

theorem localWarning_ne_listed (coloured : Bool) (input : String) :
    localWarning coloured input ≠
      caution coloured ++ " " ++ trimmed input ++ " is already in the list" := by
  intro heq
  have hchars := congrArg String.toList heq
  simp only [localWarning, String.toList_append, List.append_cancel_left_eq] at hchars
  exact absurd hchars (by decide)

/-- The warning is among those of a dialog if and only if the dialog shows it. -/
theorem localWarning_mem_warnings_iff (coloured : Bool) (view : DnsDialogView) :
    localWarning coloured view.input ∈ warnings coloured view ↔
      view.showsLocalWarning = true := by
  have hlisted := localWarning_ne_listed coloured view.input
  have hwarnings : warnings coloured view =
      (if view.problem = some .duplicateAddress then
        [caution coloured ++ " " ++ trimmed view.input ++ " is already in the list"] else []) ++
        if view.showsLocalWarning then [localWarning coloured view.input] else [] := rfl
  rw [hwarnings, List.mem_append]
  constructor
  · rintro (hmem | hmem)
    · split at hmem
      · exact absurd (List.mem_singleton.mp hmem) hlisted
      · cases hmem
    · split at hmem
      · assumption
      · cases hmem
  · intro hshows
    rw [if_pos hshows]
    exact .inr (List.mem_singleton.mpr rfl)

/-- Saving prints the warning if and only if the dialog shows it. -/
theorem localWarning_mem_save_iff (coloured : Bool) (store : DnsStore) (fs : FileSystem)
    {dialog : DnsDialog} {address : IpAddress} (haddress : dialog.address? = some address) :
    localWarning coloured dialog.input ∈ (save coloured store fs dialog).lines ↔
      (dialog.view store.settings).showsLocalWarning = true := by
  have henabled : (dialog.view store.settings).isSaveEnabled = true := by
    rw [dialog.isSaveEnabled_view, haddress]
    rfl
  have hlines : (save coloured store fs dialog).lines =
      warnings coloured (dialog.view store.settings) ++ [savedLine coloured dialog.input] ∨
      (save coloured store fs dialog).lines = warnings coloured (dialog.view store.settings) := by
    simp only [save, henabled, Bool.not_true, Bool.false_eq_true, if_false]
    split
    · exact .inl rfl
    · exact .inr rfl
  rw [← localWarning_mem_warnings_iff coloured]
  rcases hlines with hlines | hlines
  · rw [hlines, List.mem_append, List.mem_singleton]
    exact or_iff_left (localWarning_ne_savedLine coloured _ _)
  · rw [hlines]
    rfl

end DnsCommand

/-! ## Marks -/

namespace DnsSettings

/-- What is behind a marked address in the list. -/
def localMark (coloured : Bool) : String :=
  "  " ++ Text.styled coloured [.yellow] "(local, needs local network sharing)"

/-- A line of the list does not hold the end of a line. -/
theorem not_mem_entryLine (coloured : Bool) (settings : DnsSettings) (index : Nat)
    (address : IpAddress) : '\n' ∉ (settings.entryLine coloured index address).toList := by
  have hindex : '\n' ∉ (Text.spacePadded 3 index).toList := by
    rw [Text.spacePadded, String.toList_ofList]
    exact fun hmem => Text.forall_mem_padLeft (P := (· ≠ '\n')) (by decide) (by decide) 3 index
      '\n' hmem rfl
  have haddress : '\n' ∉ address.text.toList := by
    rw [IpAddress.text, String.toList_ofList]
    exact fun hmem => address.forall_mem_chars (P := (· ≠ '\n')) (by decide) (by decide)
      (by decide) '\n' hmem rfl
  have hmark : '\n' ∉ (if address.isLocal && !settings.allowLan then localMark coloured
      else "").toList := by
    cases address.isLocal && !settings.allowLan <;> cases coloured <;> decide +kernel
  have hline : settings.entryLine coloured index address =
      Text.spacePadded 3 index ++ "  " ++ address.text ++
        if address.isLocal && !settings.allowLan then localMark coloured else "" := rfl
  simp only [hline, String.toList_append, List.mem_append, not_or]
  exact ⟨⟨⟨hindex, by decide⟩, haddress⟩, hmark⟩

/-- The list that is printed has a line of its own in front, and then a line for every server. -/
theorem lines_listing (coloured : Bool) {settings : DnsSettings} (h : settings.custom ≠ []) :
    ∃ front, Text.splitAt '\n' (settings.listing coloured).toList =
      front :: (settings.custom.mapIdx (settings.entryLine coloured)).map String.toList := by
  have hisEmpty : settings.custom.isEmpty = false := by
    rw [List.isEmpty_eq_false_iff]
    exact h
  simp only [listing, hisEmpty, Bool.false_eq_true, if_false]
  rw [Text.splitAt_lines (List.cons_ne_nil _ _), List.map_cons]
  · exact ⟨_, rfl⟩
  · intro line hline
    rcases List.mem_cons.mp hline with rfl | hline
    · cases settings.allowLan <;> cases coloured <;> decide +kernel
    · obtain ⟨index, hindex, rfl⟩ := List.mem_mapIdx.mp hline
      exact not_mem_entryLine coloured settings index _

/-- What is shown of an address: the dialog in which it has been typed, however it is spelt, warns
of it, the command that saves it prints the warning, and it is marked in its line of the list that
is printed, or none of these is the case. -/
structure MarksAs (settings : DnsSettings) (address : IpAddress) (isMarked : Bool) : Prop where
  dialog : ∀ dialog : DnsDialog, dialog.address? = some address →
    (dialog.view settings).showsLocalWarning = isMarked
  command : ∀ (coloured : Bool) (store : DnsStore) (fs : FileSystem) (dialog : DnsDialog),
    store.settings = settings → dialog.address? = some address →
      (DnsCommand.localWarning coloured dialog.input ∈
        (DnsCommand.save coloured store fs dialog).lines ↔ isMarked = true)
  list : ∀ (coloured : Bool) (index : Nat), settings.custom[index]? = some address →
    (Text.splitAt '\n' (settings.listing coloured).toList)[index + 1]? =
      some (Text.spacePadded 3 index ++ "  " ++ address.text ++
        if isMarked then localMark coloured else "").toList

/-- An address is marked if it is local and the local network is cut off. -/
theorem marksAs (settings : DnsSettings) (address : IpAddress) :
    settings.MarksAs address (address.isLocal && !settings.allowLan) := by
  have hdialog : ∀ dialog : DnsDialog, dialog.address? = some address →
      (dialog.view settings).showsLocalWarning = (address.isLocal && !settings.allowLan) := by
    intro dialog haddress
    simp only [DnsDialogView.showsLocalWarning, DnsDialog.view, haddress, Option.any_some]
  refine ⟨hdialog, ?_, ?_⟩
  · rintro coloured store fs dialog rfl haddress
    rw [DnsCommand.localWarning_mem_save_iff coloured store fs haddress, hdialog dialog haddress]
  · intro coloured index hentry
    obtain ⟨front, hlines⟩ := lines_listing coloured (List.ne_nil_of_mem
      (List.mem_of_getElem? hentry))
    rw [hlines, List.getElem?_cons_succ, List.getElem?_map, List.getElem?_mapIdx, hentry]
    rfl

/-- The local addresses are those of the local blocks, so that an IPv4 address and its IPv4-mapped
form are local together.  Where the local network is cut off these are the addresses that are warned
of and marked, in either spelling or in none. -/
theorem local_blocks_marked :
    (∀ address : IpAddress, address.isLocal = true ↔
      ∃ block ∈ IpAddress.localBlocks, block.Contains address) ∧
    (∀ address : Ipv4, (IpAddress.v6 (.ofIpv4 address)).isLocal = (IpAddress.v4 address).isLocal) ∧
    ∀ (settings : DnsSettings) (address : Ipv4),
      let isMarked := (IpAddress.v4 address).isLocal && !settings.allowLan
      settings.MarksAs (.v4 address) isMarked ∧
        settings.MarksAs (.v6 (.ofIpv4 address)) isMarked := by
  refine ⟨IpAddress.isLocal_iff, Ipv6.isLocal_ofIpv4, fun settings address => ?_⟩
  have hmapped := settings.marksAs (.v6 (.ofIpv4 address))
  have hsame : (IpAddress.v6 (.ofIpv4 address)).isLocal = (IpAddress.v4 address).isLocal :=
    Ipv6.isLocal_ofIpv4 address
  rw [hsame] at hmapped
  exact ⟨settings.marksAs (.v4 address), hmapped⟩

/-- The last addresses of two blocks, and the addresses behind them. -/
example : (IpAddress.v4 ⟨172, 31, 255, 255⟩).isLocal = true ∧
    (IpAddress.v4 ⟨172, 32, 0, 0⟩).isLocal = false ∧
    (IpAddress.v6 ⟨0xfebf, 0xffff, 0, 0, 0, 0, 0, 1⟩).isLocal = true ∧
    (IpAddress.v6 ⟨0xfec0, 0, 0, 0, 0, 0, 0, 0⟩).isLocal = false := by
  decide

end DnsSettings

end VpnClient
