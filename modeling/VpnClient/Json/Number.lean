import VpnClient.Data
import VpnClient.Text.Numeral

/-!
# JSON numbers

Whole numbers of at most sixty-four bits are kept exactly. Every other number is a floating point
number: of its digits as many as fit into sixty-four bits make up a significand, which is then
multiplied or divided by a power of ten in floating point arithmetic.

## Main Definitions

* `Significand` — the digits taken so far and the power of ten they still need
* `Significand.toFloat?` — the number they stand for
* `readNumber?` — a number at the start of a text, with the rest of the text

## Design Notes

The value of a number with a fraction is defined by that one multiplication or division, not as
the floating point number nearest to the decimal. The two differ only for numbers of more than
fifteen digits or with large exponents.
-/

namespace VpnClient.Json

open Text (digitValue? isDecimalDigit)

/-- Digits that have been read: those that count, the power of ten that belongs to them, and
whether later digits are passed over because one did not fit. -/
structure Significand where
  value : Nat
  exponent : Int
  full : Bool

/-- Reads a digit in front of the decimal point. Once a digit has not fitted, the digits only
count. -/
def Significand.whole (s : Significand) (digit : Nat) : Significand :=
  if s.full ∨ UInt64.size ≤ s.value * 10 + digit then ⟨s.value, s.exponent + 1, true⟩
  else ⟨s.value * 10 + digit, s.exponent, false⟩

/-- Reads a digit behind the decimal point. Once a digit has not fitted, the rest is ignored. -/
def Significand.fraction (s : Significand) (digit : Nat) : Significand :=
  if s.full ∨ UInt64.size ≤ s.value * 10 + digit then { s with full := true }
  else ⟨s.value * 10 + digit, s.exponent - 1, false⟩

/-- `x * 10 ^ exponent` in floating point arithmetic, in steps of at most 308 places; `none` when
it is too large. -/
def scaleFloat? (x : Float) (exponent : Int) : Option Float :=
  if _h : exponent.natAbs ≤ 308 then
    if 0 ≤ exponent then
      let y := x * Float.ofScientific 1 false exponent.natAbs
      if y.isInf then none else some y
    else some (x / Float.ofScientific 1 false exponent.natAbs)
  else if x == 0 then some x
  else if 0 ≤ exponent then none
  else scaleFloat? (x / Float.ofScientific 1 false 308) (exponent + 308)
termination_by exponent.natAbs
decreasing_by omega

/-- The floating point number the digits stand for. -/
def Significand.toFloat? (negative : Bool) (s : Significand) : Option Float :=
  (scaleFloat? (UInt64.ofNat s.value).toFloat s.exponent).map fun x => if negative then -x else x

/-- The digits a text starts with, and the rest. -/
def spanDigits (s : List Char) : List Nat × List Char :=
  ((s.takeWhile isDecimalDigit).filterMap (digitValue? 10), s.dropWhile isDecimalDigit)

/-- The exponent of a number: nothing, or a mark, perhaps a sign, and at least one digit. -/
def readExponent? : List Char → Option (Option Int × List Char)
  | c :: rest =>
    if c = 'e' ∨ c = 'E' then
      let (negative, rest) := match rest with
        | '-' :: r => (true, r)
        | '+' :: r => (false, r)
        | r => (false, r)
      match spanDigits rest with
      | ([], _) => none
      | (ds, rest) =>
        let n : Nat := ds.foldl (fun n d => n * 10 + d) 0
        some (some (if negative then -(n : Int) else n), rest)
    else some (none, c :: rest)
  | [] => some (none, [])

/-- A floating point number from its digits and exponent. Exponents beyond thirty-one bits leave
zero, or are refused when they would make a number other than zero larger. -/
def assemble? (negative : Bool) (s : Significand) (exponent : Int) : Option Data :=
  if 0x80000000 ≤ exponent.natAbs then
    if s.value ≠ 0 ∧ 0 < exponent then none else some (.float (if negative then -0.0 else 0.0))
  else (s.toFloat? negative).map .float

/-- A number without its sign, and the rest of the text. -/
def readMagnitude? (negative : Bool) (s : List Char) : Option (Data × List Char) := do
  let (ds, rest) := spanDigits s
  let wholePart : Significand ← match ds with
    | [] => none
    | 0 :: _ :: _ => none
    | ds => some (ds.foldl Significand.whole ⟨0, 0, false⟩)
  let (withFraction, pointed, rest) ← match rest with
    | '.' :: r =>
      match spanDigits r with
      | ([], _) => none
      | (fs, r) => some (fs.foldl Significand.fraction { wholePart with full := false }, true, r)
    | r => some (wholePart, false, r)
  let (exponent, rest) ← readExponent? rest
  let number ← match exponent with
    | some e => assemble? negative { withFraction with exponent := withFraction.exponent + e } e
    | none =>
      if pointed || wholePart.full then (withFraction.toFloat? negative).map .float
      else if !negative then some (.integer wholePart.value)
      else if wholePart.value = 0 ∨ signedSize < wholePart.value then
        some (.float (-(UInt64.ofNat wholePart.value).toFloat))
      else some (.integer (-(wholePart.value : Int)))
  some (number, rest)

/-- A number at the start of a text, and the rest of the text. -/
def readNumber? : List Char → Option (Data × List Char)
  | '-' :: s => readMagnitude? true s
  | s => readMagnitude? false s

end VpnClient.Json
