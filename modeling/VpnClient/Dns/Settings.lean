import VpnClient.Address.Ip
import VpnClient.Failure

/-!
# DNS settings

The DNS servers a user has chosen, in the order of choice, and whether the local network may be
reached.

## Main Definitions

* `DnsSettings` — the settings
* `DnsChange` — a change of them
* `DnsSettings.apply` — the settings after a change, if it can be made
* `DnsSettings.isListedElsewhere` — whether another entry has the same address
-/

namespace VpnClient

/-- The user's DNS servers, and whether the local network may be reached while connected. -/
structure DnsSettings where
  allowLan : Bool
  custom : List IpAddress
  deriving DecidableEq, Repr

/-- A change of the settings. Entries are named by their index. -/
inductive DnsChange where
  | add (address : IpAddress)
  | set (index : Nat) (address : IpAddress)
  | delete (index : Nat)
  | allowLan (allow : Bool)
  deriving DecidableEq, Repr

namespace DnsSettings

/-- No servers, and the local network cut off. -/
def initial : DnsSettings where
  allowLan := false
  custom := []

/-- The entries besides the one at an index. -/
def others (settings : DnsSettings) : Option Nat → List IpAddress
  | none => settings.custom
  | some index => settings.custom.eraseIdx index

/-- Whether an address is listed, not counting the entry at an index. -/
def isListedElsewhere (settings : DnsSettings) (address : IpAddress) (index : Option Nat) : Bool :=
  (settings.others index).contains address

/-- The settings after a change. A change of an entry that is not there is refused. -/
def apply (settings : DnsSettings) : DnsChange → Except DnsError DnsSettings
  | .add address => .ok { settings with custom := settings.custom ++ [address] }
  | .set index address =>
    if index < settings.custom.length then
      .ok { settings with custom := settings.custom.set index address }
    else .error (.indexOutOfBounds index settings.custom.length)
  | .delete index =>
    if index < settings.custom.length then
      .ok { settings with custom := settings.custom.eraseIdx index }
    else .error (.indexOutOfBounds index settings.custom.length)
  | .allowLan allow => .ok { settings with allowLan := allow }

/-- The document form of the settings. -/
def toData (settings : DnsSettings) : Data :=
  .record [("allow_lan", .bool settings.allowLan),
    ("custom", .list (settings.custom.map IpAddress.toData))]

/-- The settings a document value stands for. -/
def ofData? (surplus : Data.Surplus) (d : Data) : Option DnsSettings := do
  let m ← d.members? surplus 2
  let allowLan ← m.defaulted 0 "allow_lan" false Data.bool?
  let custom ← m.defaulted 1 "custom" [] (Data.listOf? IpAddress.ofData?)
  some { allowLan, custom }

end DnsSettings

end VpnClient
