import Mathlib.Tactic.Ring
import VpnClient.Text.Numeral

/-!
# Numerals are read back

The digits of a number in a radix are read as that number.

## Main Statements

* `readNumeral?_numeral` — a numeral is read as the number it was written for
* `numeral_length_le` — a number below a power of the radix has no more digits than the exponent
* `numeral_head` — only zero starts with the digit zero
* `readNumeral?_padLeft` — zeros in front of a numeral make no difference
-/

namespace VpnClient.Text

variable {radix n : Nat}

/-! ## Digits -/

theorem digitValue?_digit : ∀ radix ≤ 16, ∀ value < radix,
    digitValue? radix (digit value) = some value := by
  decide +kernel

theorem isDecimalDigit_digit : ∀ value < 10, isDecimalDigit (digit value) = true := by
  decide +kernel

theorem digit_ne_zero : ∀ value < 16, value ≠ 0 → digit value ≠ '0' := by
  decide +kernel

/-- A digit of a radix up to sixteen is one of ten decimal digits or of six letters. -/
theorem digit_mem : ∀ value < 16, digit value ∈ "0123456789abcdef".toList := by
  decide +kernel

/-! ## Numerals -/

/-- A numeral has the digits of the quotient in front of its last digit. -/
theorem numeral_of_le (hradix : 2 ≤ radix) (h : radix ≤ n) :
    numeral radix n = numeral radix (n / radix) ++ [digit (n % radix)] := by
  rw [numeral, dif_neg (by omega)]

theorem numeral_of_lt (h : n < radix) : numeral radix n = [digit n] := by
  rw [numeral, dif_pos (Or.inl h)]

/-- The induction over the digits of a number. -/
theorem numeral_induction {P : Nat → Prop} (hradix : 2 ≤ radix) (hlast : ∀ n < radix, P n)
    (hstep : ∀ n, radix ≤ n → P (n / radix) → P n) (n : Nat) : P n := by
  induction n using Nat.strongRecOn with
  | ind n ih =>
      by_cases hlt : n < radix
      · exact hlast n hlt
      · exact hstep n (by omega) (ih (n / radix) (Nat.div_lt_self (by omega) (by omega)))

theorem numeral_ne_nil (hradix : 2 ≤ radix) (n : Nat) : numeral radix n ≠ [] := by
  by_cases h : n < radix
  · rw [numeral_of_lt h]
    exact List.cons_ne_nil _ _
  · rw [numeral_of_le hradix (by omega)]
    simp

/-- What holds of all digits of a radix holds of the characters of a numeral. -/
theorem forall_mem_numeral {P : Char → Prop} (hradix : 2 ≤ radix)
    (hdigit : ∀ value < radix, P (digit value)) (n : Nat) : ∀ c ∈ numeral radix n, P c := by
  induction n using numeral_induction hradix with
  | hlast n hn =>
      intro c hc
      rw [numeral_of_lt hn, List.mem_singleton] at hc
      exact hc ▸ hdigit n hn
  | hstep n hn ih =>
      intro c hc
      rw [numeral_of_le hradix hn, List.mem_append, List.mem_singleton] at hc
      rcases hc with hc | hc
      · exact ih c hc
      · exact hc ▸ hdigit _ (Nat.mod_lt n (by omega))

theorem readDigits?_append (radix before : Nat) (s t : List Char) :
    readDigits? radix before (s ++ t) =
      (readDigits? radix before s).bind fun value => readDigits? radix value t := by
  induction s generalizing before with
  | nil => rfl
  | cons c s ih =>
      simp only [List.cons_append, readDigits?]
      cases digitValue? radix c with
      | none => rfl
      | some value => exact ih _

/-- A numeral is read as the number it was written for. -/
theorem readDigits?_numeral (hradix : 2 ≤ radix) (hle : radix ≤ 16) (n : Nat) :
    readDigits? radix 0 (numeral radix n) = some n := by
  induction n using numeral_induction hradix with
  | hlast n hn =>
      simp only [numeral_of_lt hn, readDigits?, digitValue?_digit radix hle n hn,
        Option.bind_eq_bind, Option.bind_some, Nat.zero_mul, Nat.zero_add]
  | hstep n hn ih =>
      have hvalue := digitValue?_digit radix hle (n % radix) (Nat.mod_lt n (by omega))
      simp only [numeral_of_le hradix hn, readDigits?_append, ih, readDigits?, hvalue,
        Option.bind_eq_bind, Option.bind_some]
      rw [Nat.mul_comm, Nat.div_add_mod]

theorem readNumeral?_of_ne_nil {s : List Char} (h : s ≠ []) (radix : Nat) :
    readNumeral? radix s = readDigits? radix 0 s := by
  cases s with
  | nil => exact absurd rfl h
  | cons c s => rfl

theorem readNumeral?_numeral (hradix : 2 ≤ radix) (hle : radix ≤ 16) (n : Nat) :
    readNumeral? radix (numeral radix n) = some n := by
  rw [readNumeral?_of_ne_nil (numeral_ne_nil hradix n), readDigits?_numeral hradix hle]

/-- Zeros in front of a numeral do not change what is read. -/
theorem readDigits?_zeros (hradix : 2 ≤ radix) (count : Nat) (s : List Char) :
    readDigits? radix 0 (List.replicate count '0' ++ s) = readDigits? radix 0 s := by
  have hzero : digitValue? radix '0' = some 0 := by
    simp [digitValue?]
    omega
  induction count with
  | zero => rfl
  | succ count ih =>
      simp only [List.replicate_succ, List.cons_append, readDigits?, hzero, Option.bind_eq_bind,
        Option.bind_some, Nat.zero_mul, Nat.add_zero]
      exact ih

/-! ## The form of a numeral -/

/-- A number below a power of the radix has no more digits than the exponent says. -/
theorem numeral_length_le (hradix : 2 ≤ radix) {exponent : Nat} (hpos : 1 ≤ exponent)
    (h : n < radix ^ exponent) : (numeral radix n).length ≤ exponent := by
  induction exponent generalizing n with
  | zero => omega
  | succ exponent ih =>
      by_cases hlt : n < radix
      · rw [numeral_of_lt hlt]
        exact hpos
      · have hquotient : n / radix < radix ^ exponent := by
          rw [Nat.div_lt_iff_lt_mul (by omega)]
          rwa [Nat.pow_succ] at h
        have hexponent : 1 ≤ exponent := by
          rcases Nat.eq_zero_or_pos exponent with rfl | hone
          · simp only [Nat.zero_add, Nat.pow_one] at h
            omega
          · exact hone
        rw [numeral_of_le hradix (by omega), List.length_append, List.length_singleton]
        exact Nat.succ_le_succ (ih hexponent hquotient)

/-- Only the numeral of zero starts with a zero, and that has no other digits. -/
theorem numeral_head (hradix : 2 ≤ radix) (hle : radix ≤ 16) (n : Nat) :
    (numeral radix n).head? ≠ some '0' ∨ numeral radix n = ['0'] := by
  induction n using numeral_induction hradix with
  | hlast n hn =>
      rw [numeral_of_lt hn]
      by_cases hzero : n = 0
      · subst hzero
        exact Or.inr rfl
      · refine Or.inl ?_
        rw [List.head?_cons, ne_eq, Option.some_inj]
        exact digit_ne_zero n (by omega) hzero
  | hstep n hn ih =>
      refine Or.inl ?_
      obtain ⟨c, rest, hquotientEq⟩ :=
        List.exists_cons_of_ne_nil (numeral_ne_nil hradix (n / radix))
      rw [numeral_of_le hradix hn, hquotientEq, List.cons_append, List.head?_cons,
        ← List.head?_cons (l := rest), ← hquotientEq]
      rcases ih with hhead | hquotient
      · exact hhead
      -- a quotient that is written as zero is zero, and then the number has one digit
      · have hread := readNumeral?_numeral hradix hle (n / radix)
        have hzero : readNumeral? radix ['0'] = some 0 := readDigits?_zeros hradix 1 []
        rw [hquotient, hzero, Option.some_inj] at hread
        have hpos := Nat.div_pos hn (by omega)
        omega

/-! ## Numerals of a width -/

theorem length_padLeft {width : Nat} (hpos : 1 ≤ width) (h : n < 10 ^ width) :
    (padLeft '0' width (numeral 10 n)).length = width := by
  have hlength := numeral_length_le (by decide : 2 ≤ 10) hpos h
  rw [padLeft, List.length_append, List.length_replicate]
  omega

/-- What holds of the ten digits and of what fills up the width holds of the characters of a padded
numeral. -/
theorem forall_mem_padLeft {P : Char → Prop} {fill : Char} (hfill : P fill)
    (hdigit : ∀ value < 10, P (digit value)) (width n : Nat) :
    ∀ c ∈ padLeft fill width (numeral 10 n), P c := by
  intro c hc
  rcases List.mem_append.mp hc with hfilled | hc
  · rw [(List.mem_replicate.mp hfilled).2]
    exact hfill
  · exact forall_mem_numeral (by decide) hdigit n c hc

theorem padLeft_ne_nil (width n : Nat) : padLeft '0' width (numeral 10 n) ≠ [] := by
  rw [padLeft, ne_eq, List.append_eq_nil_iff, not_and]
  exact fun _ => numeral_ne_nil (by decide) n

/-- A padded numeral is read as the number it was written for. -/
theorem readNumeral?_padLeft (width n : Nat) :
    readNumeral? 10 (padLeft '0' width (numeral 10 n)) = some n := by
  rw [readNumeral?_of_ne_nil (padLeft_ne_nil width n), padLeft, readDigits?_zeros (by decide),
    readDigits?_numeral (by decide) (by decide)]

end VpnClient.Text
