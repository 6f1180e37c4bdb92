import VpnClient.Address.Socket
import VpnClient.Proofs.Address.Ipv6

/-!
# Socket addresses are read back

The colon in front of the port is found because an IPv4 address has no colon and an IPv6 address
stands in brackets; inside these the zone is found because no address has a percent sign.

## Main Statements

* `SocketAddress.readZoned?_append` — an IPv6 address is read back with its zone
* `SocketAddress.read?_chars` — the text of a socket address is read as that address
-/

namespace VpnClient

open Text (numeral digit)

namespace SocketAddress

/-! ## Ports and zones -/

theorem readBelow?_numeral {bound n : Nat} (h : n < bound) :
    readBelow? bound (numeral 10 n) = some n := by
  rw [readBelow?, Text.readNumeral?_numeral (by decide) (by decide), Option.bind_some, if_pos h]

theorem readPort?_numeral (port : UInt16) : readPort? (numeral 10 port.toNat) = some port := by
  rw [readPort?, readBelow?_numeral port.toNat_lt, Option.map_some, UInt16.ofNat_toNat]

/-- What is written of a zone. -/
def zoneChars (zone : UInt32) : List Char :=
  if zone = 0 then [] else '%' :: numeral 10 zone.toNat

/-- An IPv6 address is read back with its zone. -/
theorem readZoned?_append (address : Ipv6) (zone : UInt32) :
    readZoned? (address.chars ++ zoneChars zone) = some (address, zone) := by
  have hpercent : '%' ∉ address.chars := by
    intro hmem
    exact Ipv6.forall_mem_chars (P := (· ≠ '%')) (by decide +kernel) (by decide) (by decide)
      address '%' hmem rfl
  rw [zoneChars]
  split
  · next hnone =>
    rw [List.append_nil, readZoned?, Text.cut?_of_not_mem hpercent]
    simp only [Ipv6.read?_chars, Option.map_some, hnone]
  · rw [readZoned?, Text.cut?_append hpercent]
    simp only [Ipv6.read?_chars, readBelow?_numeral zone.toNat_lt, Option.bind_eq_bind,
      Option.bind_some, UInt32.ofNat_toNat]

/-! ## Socket addresses -/

/-- Nothing that stands between the brackets closes them. -/
theorem not_mem_zoned (address : Ipv6) (zone : UInt32) :
    ']' ∉ address.chars ++ zoneChars zone := by
  rw [List.mem_append, not_or]
  constructor
  · intro hmem
    exact Ipv6.forall_mem_chars (P := (· ≠ ']')) (by decide +kernel) (by decide) (by decide)
      address ']' hmem rfl
  · rw [zoneChars]
    split
    · exact List.not_mem_nil
    · rw [List.mem_cons, not_or]
      refine ⟨by decide, ?_⟩
      intro hmem
      exact Text.forall_mem_numeral (P := (· ≠ ']')) (by decide : 2 ≤ 10) (by decide +kernel)
        zone.toNat ']' hmem rfl

/-- The text of a socket address is read as that address. -/
theorem read?_chars (address : SocketAddress) : read? address.chars = some address := by
  cases address with
  | v4 address port =>
      have hclass (c : Char) (hc : c ∈ address.chars) : c ≠ ':' ∧ c ≠ '[' := by
        rcases address.forall_mem_chars c hc with hdigit | rfl
        · constructor <;> rintro rfl <;> exact absurd hdigit (by decide)
        · decide
      have hcolon : ':' ∉ address.chars := fun hmem => (hclass ':' hmem).1 rfl
      have hbracket (s : List Char) : address.chars ++ ':' :: numeral 10 port.toNat ≠ '[' :: s := by
        intro heq
        cases hchars : address.chars with
        | nil =>
            rw [hchars, List.nil_append] at heq
            exact absurd (List.cons.inj heq).1 (by decide)
        | cons c rest =>
            rw [hchars, List.cons_append] at heq
            exact (hclass c (hchars ▸ List.mem_cons_self)).2 (List.cons.inj heq).1
      rw [chars, read?]
      · simp only [Text.cut?_append hcolon, Ipv4.read?_chars, readPort?_numeral,
          Option.bind_eq_bind, Option.bind_some]
      · exact hbracket
  | v6 address zone port =>
      have hchars : chars (v6 address zone port) =
          '[' :: ((address.chars ++ zoneChars zone) ++ ']' :: ':' :: numeral 10 port.toNat) := by
        simp only [chars, zoneChars, List.cons_append, List.append_assoc]
      rw [hchars, read?, Text.cut?_append (not_mem_zoned address zone)]
      simp only [readZoned?_append, readPort?_numeral, Option.bind_eq_bind, Option.bind_some]

/-- The document form of a socket address is decoded to the address. -/
theorem ofData?_toData (address : SocketAddress) : ofData? address.toData = some address := by
  rw [toData, ofData?, Data.parsed?, text, String.toList_ofList, read?_chars]

end SocketAddress

end VpnClient
