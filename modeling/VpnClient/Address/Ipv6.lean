import VpnClient.Address.Ipv4

/-!
# IPv6 addresses

## Main Definitions

* `Ipv6` — eight groups of sixteen bits
* `Ipv6.text` — the canonical text of an address
* `Ipv6.read?` — the address a text spells
* `Ipv6.mapped?` — the IPv4 address inside an IPv4-mapped one
* `Ipv6.isLocal` — whether the address belongs to the local network

## Design Notes

The canonical text has lower case groups without leading zeros; the longest run of at least two
zero groups, the first one of equal length, is written `::`. Only an IPv4-mapped address ends in a
dotted quad. The reader is more liberal: `::` may stand for one zero group or more anywhere, and
any address may end in a dotted quad.
-/

namespace VpnClient

open Text (numeral readNumeral? splitAt joined)

/-- An IPv6 address, group by group. -/
structure Ipv6 where
  g₀ : UInt16
  g₁ : UInt16
  g₂ : UInt16
  g₃ : UInt16
  g₄ : UInt16
  g₅ : UInt16
  g₆ : UInt16
  g₇ : UInt16
  deriving DecidableEq, Repr

namespace Ipv6

/-- The groups in order. -/
def groups (address : Ipv6) : List UInt16 :=
  [address.g₀, address.g₁, address.g₂, address.g₃, address.g₄, address.g₅, address.g₆, address.g₇]

/-- The address with the given groups, if there are eight. -/
def ofGroups? : List UInt16 → Option Ipv6
  | [a, b, c, d, e, f, g, h] => some ⟨a, b, c, d, e, f, g, h⟩
  | _ => none

/-- The address as a number of one hundred and twenty-eight bits. -/
def toNat (address : Ipv6) : Nat :=
  address.groups.foldl (fun n group => n * 65536 + group.toNat) 0

/-- Two octets side by side. -/
def joinOctets (high low : UInt8) : UInt16 :=
  UInt16.ofNat (high.toNat * 256 + low.toNat)

/-- The two groups that hold an IPv4 address. -/
def groupsOfIpv4 (address : Ipv4) : List UInt16 :=
  [joinOctets address.a address.b, joinOctets address.c address.d]

/-- The IPv4-mapped form of an IPv4 address, in `::ffff:0:0/96`. -/
def ofIpv4 (address : Ipv4) : Ipv6 :=
  ⟨0, 0, 0, 0, 0, 0xffff, joinOctets address.a address.b, joinOctets address.c address.d⟩

/-- The high octet of a group. -/
def highOctet (group : UInt16) : UInt8 :=
  UInt8.ofNat (group.toNat / 256)

/-- The low octet of a group. -/
def lowOctet (group : UInt16) : UInt8 :=
  UInt8.ofNat (group.toNat % 256)

/-- The IPv4 address that an address in `::ffff:0:0/96` stands for. -/
def mapped? (address : Ipv6) : Option Ipv4 :=
  if address.g₀ = 0 ∧ address.g₁ = 0 ∧ address.g₂ = 0 ∧ address.g₃ = 0 ∧ address.g₄ = 0
      ∧ address.g₅ = 0xffff then
    some ⟨highOctet address.g₆, lowOctet address.g₆, highOctet address.g₇, lowOctet address.g₇⟩
  else none

/-! ### Writing -/

/-- The number of zero groups at the start. -/
def zerosAhead : List UInt16 → Nat
  | [] => 0
  | g :: rest => if g = 0 then zerosAhead rest + 1 else 0

/-- The longest run of zero groups, the first one of equal length: where it starts and how long
it is. -/
def longestZeroRun : List UInt16 → Nat × Nat
  | [] => (0, 0)
  | g :: rest =>
    let here := zerosAhead (g :: rest)
    let (start, length) := longestZeroRun rest
    if length ≤ here then (0, here) else (start + 1, length)

/-- Groups in hexadecimal with colons between them. -/
def groupsText (groups : List UInt16) : List Char :=
  joined [':'] (groups.map fun group => numeral 16 group.toNat)

/-- Groups with their longest run of at least two zeros left out. -/
def compressed (groups : List UInt16) : List Char :=
  let (start, length) := longestZeroRun groups
  if 1 < length then
    groupsText (groups.take start) ++ ':' :: ':' :: groupsText (groups.drop (start + length))
  else groupsText groups

/-- The characters of an address. -/
def chars (address : Ipv6) : List Char :=
  match address.mapped? with
  | some inner => [':', ':', 'f', 'f', 'f', 'f', ':'] ++ inner.chars
  | none => compressed address.groups

/-- The canonical text of an address. -/
def text (address : Ipv6) : String :=
  String.ofList address.chars

/-! ### Reading -/

/-- The group a text of one to four hexadecimal digits spells. -/
def readGroup? (s : List Char) : Option UInt16 :=
  if 4 < s.length then none else (readNumeral? 16 s).map UInt16.ofNat

/-- Groups between colons; the last two may be spelt as an IPv4 address. -/
def readParts? : List (List Char) → Option (List UInt16)
  | [] => some []
  | [last] =>
    match Ipv4.read? last with
    | some address => some (groupsOfIpv4 address)
    | none => (readGroup? last).map ([·])
  | part :: parts => do
    let group ← readGroup? part
    let groups ← readParts? parts
    some (group :: groups)

/-- Groups between colons, none at all for an empty text. -/
def readGroups? : List Char → Option (List UInt16)
  | [] => some []
  | s => readParts? (splitAt ':' s)

/-- Groups in front of `::`, where no IPv4 address may stand. -/
def readHead? : List Char → Option (List UInt16)
  | [] => some []
  | s => (splitAt ':' s).mapM readGroup?

/-- What stands before and after the first `::`. -/
def cutAtGap? : List Char → Option (List Char × List Char)
  | ':' :: ':' :: rest => some ([], rest)
  | c :: rest => (cutAtGap? rest).map fun (before, after) => (c :: before, after)
  | [] => none

/-- The address a text spells. A gap stands for at least one group. -/
def read? (s : List Char) : Option Ipv6 :=
  match cutAtGap? s with
  | none => (readGroups? s).bind ofGroups?
  | some (before, after) => do
    let head ← readHead? before
    let tail ← readGroups? after
    if head.length + tail.length ≤ 7 then
      ofGroups? (head ++ List.replicate (8 - head.length - tail.length) 0 ++ tail)
    else none

/-! ### Local addresses -/

/-- The address of this machine, `::1`. -/
def isLoopback (address : Ipv6) : Bool :=
  address == ⟨0, 0, 0, 0, 0, 0, 0, 1⟩

/-- Whether an address is only reachable on the local network: loopback, a mapped local IPv4
address, unique local `fc00::/7` or link local `fe80::/10`. -/
def isLocal (address : Ipv6) : Bool :=
  if address.isLoopback then true
  else match address.mapped? with
    | some inner => inner.isLocal
    | none => address.g₀ &&& 0xfe00 == 0xfc00 || address.g₀ &&& 0xffc0 == 0xfe80

end Ipv6

end VpnClient
