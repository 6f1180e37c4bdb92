import VpnClient.Text.Numeral

/-!
# Shortest decimals

The decimal with the fewest digits that reads back as a given binary floating point number, and
the way such a decimal is written.

## Main Definitions

* `Binary` — a positive number `significand * 2 ^ exponent`, with the interval of the reals that
  round to it
* `Binary.shortest` — the digits and the decimal exponent
* `floatText` — a floating point number as text

## Design Notes

Everything is exact arithmetic on natural numbers: the ends of the interval are quarters of a unit
in the last binary place, and a candidate with `k` digits is one of the two neighbours of the
number on the grid of `k` digits. The first grid with a neighbour inside the interval gives the
fewest digits; of two such neighbours the nearer one is taken, and the even one on a tie.
-/

namespace VpnClient.Number

/-- A positive fraction of natural numbers. -/
structure Ratio where
  num : Nat
  den : Nat

/-- Comparison of fractions with positive denominators. -/
def Ratio.le (a b : Ratio) : Bool :=
  a.num * b.den ≤ b.num * a.den

/-- Strict comparison of fractions with positive denominators. -/
def Ratio.lt (a b : Ratio) : Bool :=
  a.num * b.den < b.num * a.den

/-- The fraction `n * base ^ exponent`. -/
def Ratio.scaled (base n : Nat) (exponent : Int) : Ratio :=
  if 0 ≤ exponent then ⟨n * base.pow exponent.toNat, 1⟩ else ⟨n, base.pow (-exponent).toNat⟩

/-- A positive binary floating point number `significand * 2 ^ exponent`. `closeBelow` says that
the next smaller number is only half as far away as the next larger one. -/
structure Binary where
  significand : Nat
  exponent : Int
  closeBelow : Bool

/-- The number as a fraction. -/
def Binary.value (b : Binary) : Ratio :=
  .scaled 2 (4 * b.significand) (b.exponent - 2)

/-- The least real that may round to the number. -/
def Binary.lower (b : Binary) : Ratio :=
  .scaled 2 (4 * b.significand - (if b.closeBelow then 1 else 2)) (b.exponent - 2)

/-- The greatest real that may round to the number. -/
def Binary.upper (b : Binary) : Ratio :=
  .scaled 2 (4 * b.significand + 2) (b.exponent - 2)

/-- Whether a fraction rounds to the number: a tie goes to an even significand. -/
def Binary.readsFrom (b : Binary) (r : Ratio) : Bool :=
  if b.significand % 2 == 0 then b.lower.le r && r.le b.upper else b.lower.lt r && r.lt b.upper

/-- The greatest `e ≥ start - steps` with `10 ^ e ≤ r`, looking downwards from `start`. -/
def Ratio.decimalExponent (r : Ratio) (start : Int) : Nat → Int
  | 0 => start
  | steps + 1 =>
    if (Ratio.scaled 10 1 start).le r then start else r.decimalExponent (start - 1) steps

/-- The neighbours of the number on the grid of multiples of `10 ^ scale`, the nearer first. -/
def Binary.neighbours (b : Binary) (scale : Int) : List Nat :=
  let v := b.value
  let unit := Ratio.scaled 10 1 scale
  let below := (v.num * unit.den) / (v.den * unit.num)
  let distance := (v.num * unit.den) % (v.den * unit.num)
  if 2 * distance < v.den * unit.num ∨ 2 * distance = v.den * unit.num ∧ below % 2 = 0 then
    [below, below + 1]
  else [below + 1, below]

/-- The digits and the exponent of the first grid, from `digits` digits on, that has a neighbour
which reads back. -/
def Binary.shortestFrom (b : Binary) (top : Int) (digits : Nat) : Nat → Nat × Int
  | 0 => (0, 0)
  | tries + 1 =>
    let scale := top - (digits : Int) + 1
    match (b.neighbours scale).find? fun d => b.readsFrom (.scaled 10 d scale) with
    | some d => (d, scale)
    | none => b.shortestFrom top (digits + 1) tries

/-- A decimal without trailing zeros among its digits. -/
def withoutTrailingZeros (digits : Nat) (exponent : Int) : Nat → Nat × Int
  | 0 => (digits, exponent)
  | steps + 1 =>
    if digits % 10 == 0 && digits != 0 then
      withoutTrailingZeros (digits / 10) (exponent + 1) steps
    else (digits, exponent)

/-- The decimal with the fewest digits that reads back as the number; seventeen always do. -/
def Binary.shortest (b : Binary) : Nat × Int :=
  let (digits, exponent) := b.shortestFrom (b.value.decimalExponent 309 700) 1 17
  withoutTrailingZeros digits exponent 18

/-- A floating point number taken apart: `none` for zero, infinities and what is no number. -/
def Binary.ofFloat? (x : Float) : Option Binary :=
  let bits := x.toBits.toNat
  let field : Nat := bits / 0x10000000000000 % 0x800
  let fraction : Nat := bits % 0x10000000000000
  if field = 2047 then none
  else if field = 0 then
    if fraction = 0 then none else some ⟨fraction, -1074, false⟩
  else some ⟨0x10000000000000 + fraction, (field : Int) - 1075, decide (fraction = 0 ∧ 1 < field)⟩

/-- Where the notation of a decimal changes: the point is written among the digits as long as it
stands after at most `mostBefore` digits, or before them with at most `mostZeros` zeros. -/
structure PointFormat where
  mostBefore : Int
  mostZeros : Int

/-- Document numbers are written without exponent below `10 ^ 16` and from `10 ^ -5` on. -/
def documentFormat : PointFormat := ⟨16, 4⟩

/-- A positive decimal as text, always recognisable as a number with a fraction. -/
def decimalText (format : PointFormat) (digits : Nat) (exponent : Int) : List Char :=
  let ds := Text.numeral 10 digits
  let point := (ds.length : Int) + exponent
  if 0 ≤ exponent ∧ point ≤ format.mostBefore then
    ds ++ List.replicate exponent.toNat '0' ++ ['.', '0']
  else if 0 < point ∧ point ≤ format.mostBefore then
    ds.take point.toNat ++ '.' :: ds.drop point.toNat
  else if -format.mostZeros ≤ point ∧ point ≤ 0 then
    '0' :: '.' :: List.replicate (-point).toNat '0' ++ ds
  else
    let mantissa := match ds with
      | d :: e :: rest => d :: '.' :: e :: rest
      | _ => ds
    mantissa ++ 'e' :: (Text.signedDecimal (point - 1)).toList

/-- A finite floating point number as text; `none` for infinities and what is no number. -/
def floatText (x : Float) : Option String :=
  if x.isNaN || x.isInf then none
  else
    let negative := 0x8000000000000000 ≤ x.toBits.toNat
    let body := match Binary.ofFloat? x with
      | none => ['0', '.', '0']
      | some b => let (digits, exponent) := b.shortest; decimalText documentFormat digits exponent
    some (String.ofList (if negative then '-' :: body else body))

end VpnClient.Number
