import VpnClient.Dns.Settings

/-!
# The DNS dialog

The dialog in which a user enters or changes one DNS server.

## Main Definitions

* `DnsDialog` — an open dialog
* `DnsDialog.view` — what it shows, given the stored settings
* `DnsDialog.saveRequest`, `DnsDialog.removeRequest` — what its buttons ask for

## Design Notes

A dialog holds what the user has typed and the index of its entry, and nothing of the settings: what
it shows is about the settings as they are. So are its buttons, also when another entry has come to
stand at the index. A button either is refused, has nothing left to do, or asks for one change of
the settings.
-/

namespace VpnClient

/-- What is wrong with what the user has typed. An address that is listed already may be saved. -/
inductive DnsProblem where
  | invalidAddress
  | duplicateAddress
  deriving DecidableEq, Repr

/-- The name of a problem in documents. -/
def DnsProblem.text : DnsProblem → String
  | invalidAddress => "invalid_address"
  | duplicateAddress => "duplicate_address"

/-- How a dialog ended. -/
inductive DialogResult where
  | success
  | error
  | cancel
  deriving DecidableEq, Repr

/-- The name of a result in documents. -/
def DialogResult.text : DialogResult → String
  | success => "success"
  | error => "error"
  | cancel => "cancel"

/-- What a dialog shows. The index is that of the entry being changed, if there is one. -/
structure DnsDialogView where
  input : String
  problem : Option DnsProblem
  isLocal : Bool
  isLanAllowed : Bool
  index : Option Nat
  deriving DecidableEq, Repr

namespace DnsDialogView

/-- Whether the entry is a new one. -/
def isNewEntry (view : DnsDialogView) : Bool :=
  view.index.isNone

/-- Whether there is something to save. -/
def isSaveEnabled (view : DnsDialogView) : Bool :=
  view.problem != some .invalidAddress

/-- Whether there is something to remove. -/
def canRemove (view : DnsDialogView) : Bool :=
  view.index.isSome

/-- Whether the user is warned that the server cannot be reached. -/
def showsLocalWarning (view : DnsDialogView) : Bool :=
  view.isLocal && !view.isLanAllowed

/-- The document form of what a dialog shows. -/
def toData (view : DnsDialogView) : Data :=
  .record [("input", .text view.input),
    ("validation_error", .ofOption (fun p : DnsProblem => .text p.text) view.problem),
    ("is_local", .bool view.isLocal), ("is_allow_lan_enabled", .bool view.isLanAllowed),
    ("index", .ofOption (fun i : Nat => .integer i) view.index)]

end DnsDialogView

/-- An open dialog: what the user has typed, and the entry being changed, if it is not a new
one. -/
structure DnsDialog where
  input : String
  index : Option Nat
  deriving DecidableEq, Repr

/-- What a button asks for. -/
inductive DnsRequest where
  | refused
  | done
  | change (change : DnsChange)
  deriving DecidableEq, Repr

namespace DnsDialog

/-- The address the user has typed. -/
def address? (dialog : DnsDialog) : Option IpAddress :=
  IpAddress.ofInput? dialog.input

/-- What is wrong with what the user has typed. -/
def problem? (dialog : DnsDialog) (settings : DnsSettings) : Option DnsProblem :=
  match dialog.address? with
  | none => some .invalidAddress
  | some address =>
    if settings.isListedElsewhere address dialog.index then some .duplicateAddress else none

/-- What the dialog shows. -/
def view (dialog : DnsDialog) (settings : DnsSettings) : DnsDialogView where
  input := dialog.input
  problem := dialog.problem? settings
  isLocal := dialog.address?.any IpAddress.isLocal
  isLanAllowed := settings.allowLan
  index := dialog.index

/-- What saving asks for. An address that is listed elsewhere is not stored again; the entry being
changed then goes away. -/
def saveRequest (dialog : DnsDialog) (settings : DnsSettings) : DnsRequest :=
  match dialog.address? with
  | none => .refused
  | some address =>
    match settings.isListedElsewhere address dialog.index, dialog.index with
    | true, none => .done
    | true, some index => .change (.delete index)
    | false, none => .change (.add address)
    | false, some index => .change (.set index address)

/-- What removing asks for. A new entry cannot be removed. -/
def removeRequest (dialog : DnsDialog) : DnsRequest :=
  match dialog.index with
  | none => .refused
  | some index => .change (.delete index)

end DnsDialog

end VpnClient
