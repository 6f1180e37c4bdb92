import VpnClient.Address.Ip

/-!
# Socket addresses

An IP address with a port, and for IPv6 the zone in which the address is meant.

## Main Definitions

* `SocketAddress` — where an endpoint listens
* `SocketAddress.text` — `address:port`, or `[address%zone]:port`
* `SocketAddress.read?` — the socket address a text spells
-/

namespace VpnClient

open Text (numeral readNumeral? cut?)

/-- An IP address with a port. The zone of an IPv6 address is zero when there is none. -/
inductive SocketAddress where
  | v4 (address : Ipv4) (port : UInt16)
  | v6 (address : Ipv6) (zone : UInt32) (port : UInt16)
  deriving DecidableEq, Repr

namespace SocketAddress

/-- The characters of a socket address. Zone zero is not written. -/
def chars : SocketAddress → List Char
  | v4 address port => address.chars ++ ':' :: numeral 10 port.toNat
  | v6 address zone port =>
    let zoned := if zone = 0 then [] else '%' :: numeral 10 zone.toNat
    '[' :: address.chars ++ zoned ++ ']' :: ':' :: numeral 10 port.toNat

/-- The text of a socket address. -/
def text (address : SocketAddress) : String :=
  String.ofList address.chars

/-- A number in decimal below a bound; zeros in front do not matter. -/
def readBelow? (bound : Nat) (s : List Char) : Option Nat :=
  (readNumeral? 10 s).bind fun n => if n < bound then some n else none

/-- The port a text spells. -/
def readPort? (s : List Char) : Option UInt16 :=
  (readBelow? UInt16.size s).map UInt16.ofNat

/-- An IPv6 address, perhaps with a zone behind `%`. -/
def readZoned? (s : List Char) : Option (Ipv6 × UInt32) :=
  match cut? '%' s with
  | none => (Ipv6.read? s).map fun address => (address, 0)
  | some (address, zone) => do
    let address ← Ipv6.read? address
    let zone ← readBelow? UInt32.size zone
    some (address, UInt32.ofNat zone)

/-- The socket address a text spells. -/
def read? : List Char → Option SocketAddress
  | '[' :: s =>
    match cut? ']' s with
    | some (address, ':' :: port) => do
      let (address, zone) ← readZoned? address
      let port ← readPort? port
      some (v6 address zone port)
    | _ => none
  | s => do
    let (address, port) ← cut? ':' s
    let address ← Ipv4.read? address
    let port ← readPort? port
    some (v4 address port)

/-- The document form of a socket address. -/
def toData (address : SocketAddress) : Data :=
  .text address.text

/-- The socket address a document value stands for. -/
def ofData? : Data → Option SocketAddress :=
  Data.parsed? read?

end SocketAddress

end VpnClient
