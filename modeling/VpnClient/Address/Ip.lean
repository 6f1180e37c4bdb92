import VpnClient.Address.Ipv6
import VpnClient.Data
import VpnClient.Text.Blank

/-!
# IP addresses

An address of either family, as a server is configured by.

## Main Definitions

* `IpAddress` — an IPv4 or an IPv6 address
* `IpAddress.read?` — the address a text spells, with nothing around it
* `IpAddress.ofInput?` — the address a user has typed
* `IpAddress.isLocal` — whether the address belongs to the local network
-/

namespace VpnClient

/-- An IP address of either family. -/
inductive IpAddress where
  | v4 (address : Ipv4)
  | v6 (address : Ipv6)
  deriving DecidableEq, Repr

namespace IpAddress

/-- The characters of an address. -/
def chars : IpAddress → List Char
  | v4 address => address.chars
  | v6 address => address.chars

/-- The text of an address. -/
def text (address : IpAddress) : String :=
  String.ofList address.chars

/-- The address a text spells. No text spells an address of both families. -/
def read? (s : List Char) : Option IpAddress :=
  match Ipv4.read? s with
  | some address => some (v4 address)
  | none => (Ipv6.read? s).map v6

/-- The address a user has typed: white space around it does not matter, and host names are not
accepted. -/
def ofInput? (input : String) : Option IpAddress :=
  read? (Text.trim input.toList)

/-- Whether an address is only reachable on the local network. -/
def isLocal : IpAddress → Bool
  | v4 address => address.isLocal
  | v6 address => address.isLocal

/-- Whether the address is of the newer family. -/
def isV6 : IpAddress → Bool
  | v4 _ => false
  | v6 _ => true

/-- The document form of an address. -/
def toData (address : IpAddress) : Data :=
  .text address.text

/-- The address a document value stands for. -/
def ofData? : Data → Option IpAddress :=
  Data.parsed? read?

end IpAddress

end VpnClient
