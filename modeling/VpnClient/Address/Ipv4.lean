import VpnClient.Text.Numeral
import VpnClient.Text.Split

/-!
# IPv4 addresses

## Main Definitions

* `Ipv4` — four octets
* `Ipv4.text` — the octets in decimal with points between them
* `Ipv4.read?` — the address a text spells
* `Ipv4.isLocal` — whether the address belongs to the local network

## Design Notes

An octet is spelt in one way only: at most three digits and no leading zero. So a text that reads
as an address is the text of that address.
-/

namespace VpnClient

open Text (numeral readNumeral? splitAt joined)

/-- An IPv4 address, octet by octet. -/
structure Ipv4 where
  a : UInt8
  b : UInt8
  c : UInt8
  d : UInt8
  deriving DecidableEq, Repr

namespace Ipv4

/-- The octets in order. -/
def octets (address : Ipv4) : List UInt8 :=
  [address.a, address.b, address.c, address.d]

/-- The address as a number of thirty-two bits. -/
def toNat (address : Ipv4) : Nat :=
  ((address.a.toNat * 256 + address.b.toNat) * 256 + address.c.toNat) * 256 + address.d.toNat

/-- The characters of an address: decimal octets with points between them. -/
def chars (address : Ipv4) : List Char :=
  joined ['.'] (address.octets.map fun octet => numeral 10 octet.toNat)

/-- The text of an address. -/
def text (address : Ipv4) : String :=
  String.ofList address.chars

/-- The octet a text spells: at most three digits, no leading zero, below 256. -/
def readOctet? (s : List Char) : Option UInt8 :=
  if 3 < s.length ∨ (s.head? = some '0' ∧ s.length ≠ 1) then none
  else (readNumeral? 10 s).bind fun n => if n < 256 then some (UInt8.ofNat n) else none

/-- The address a text spells. -/
def read? (s : List Char) : Option Ipv4 :=
  match splitAt '.' s with
  | [a, b, c, d] => do
    some ⟨← readOctet? a, ← readOctet? b, ← readOctet? c, ← readOctet? d⟩
  | _ => none

/-- Addresses of this machine, `127.0.0.0/8`. -/
def isLoopback (address : Ipv4) : Bool :=
  address.a == 127

/-- Addresses for private networks: `10.0.0.0/8`, `172.16.0.0/12` and `192.168.0.0/16`. -/
def isPrivate (address : Ipv4) : Bool :=
  address.a == 10 || (address.a == 172 && 16 ≤ address.b && address.b ≤ 31)
    || (address.a == 192 && address.b == 168)

/-- Addresses that no router forwards, `169.254.0.0/16`. -/
def isLinkLocal (address : Ipv4) : Bool :=
  address.a == 169 && address.b == 254

/-- Whether an address is only reachable on the local network. -/
def isLocal (address : Ipv4) : Bool :=
  address.isLoopback || address.isPrivate || address.isLinkLocal

end Ipv4

end VpnClient
