import VpnClient.Address.Ipv4
import VpnClient.Proofs.Text.Numeral
import VpnClient.Proofs.Text.Split

/-!
# IPv4 addresses are read back

## Main Statements

* `Ipv4.read?_chars` — the text of an address is read as that address
* `Ipv4.forall_mem_chars` — the characters of an address are decimal digits and points
-/

namespace VpnClient

open Text (numeral digit splitAt joined)

namespace Ipv4

/-- The decimal numeral of an octet is read as that octet. -/
theorem readOctet?_numeral (octet : UInt8) :
    readOctet? (numeral 10 octet.toNat) = some octet := by
  have hlt : octet.toNat < 256 := octet.toNat_lt
  have hlength : (numeral 10 octet.toNat).length ≤ 3 :=
    Text.numeral_length_le (by decide) (by decide) (by omega)
  have hhead : ¬ ((numeral 10 octet.toNat).head? = some '0' ∧
      (numeral 10 octet.toNat).length ≠ 1) := by
    rintro ⟨hzero, hlong⟩
    rcases Text.numeral_head (by decide : 2 ≤ 10) (by decide) octet.toNat with
      hother | halone
    · exact hother hzero
    · rw [halone] at hlong
      exact hlong rfl
  have hread := Text.readNumeral?_numeral (by decide : 2 ≤ 10) (by decide) octet.toNat
  rw [readOctet?, if_neg (not_or.mpr ⟨by omega, hhead⟩), hread, Option.bind_some, if_pos hlt]
  simp

theorem forall_mem_numeral (octet : UInt8) :
    ∀ c ∈ numeral 10 octet.toNat, Text.isDecimalDigit c = true :=
  Text.forall_mem_numeral (by decide) Text.isDecimalDigit_digit octet.toNat

/-- What holds of decimal digits and of points holds of the characters of an address. -/
theorem forall_mem_chars_of_digit {P : Char → Prop} (hdigit : ∀ value < 10, P (digit value))
    (hpoint : P '.') (address : Ipv4) : ∀ c ∈ address.chars, P c := by
  refine Text.forall_mem_joined ?_ hpoint
  intro part hpart
  obtain ⟨octet, -, rfl⟩ := List.mem_map.mp hpart
  exact Text.forall_mem_numeral (by decide) hdigit octet.toNat

/-- The characters of an address are decimal digits and points. -/
theorem forall_mem_chars (address : Ipv4) :
    ∀ c ∈ address.chars, Text.isDecimalDigit c = true ∨ c = '.' :=
  address.forall_mem_chars_of_digit (P := fun c => Text.isDecimalDigit c = true ∨ c = '.')
    (fun value hvalue => .inl (Text.isDecimalDigit_digit value hvalue)) (.inr rfl)

/-- The text of an address has its octets between the points. -/
theorem splitAt_chars (address : Ipv4) :
    splitAt '.' address.chars = address.octets.map fun octet => numeral 10 octet.toNat := by
  refine Text.splitAt_joined (List.cons_ne_nil _ _) ?_
  intro part hpart hpoint
  obtain ⟨octet, -, rfl⟩ := List.mem_map.mp hpart
  have hdigit := forall_mem_numeral octet '.' hpoint
  exact absurd hdigit (by decide)

/-- The text of an address is read as that address. -/
theorem read?_chars (address : Ipv4) : read? address.chars = some address := by
  simp only [read?, splitAt_chars, octets, List.map_cons, List.map_nil, readOctet?_numeral,
    Option.bind_eq_bind, Option.bind_some]

end Ipv4

end VpnClient
