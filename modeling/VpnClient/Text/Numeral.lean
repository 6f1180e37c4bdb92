/-!
# Numerals

Natural numbers in positional notation, written and read, in any radix from two to sixteen.

## Main Definitions

* `numeral` — the digits of a number, without leading zeros
* `readNumeral?` — the number a text of digits stands for, leading zeros allowed
* `decimal`, `signedDecimal` — numbers as the program prints them
* `padLeft` — a text brought to a least width

## Design Notes

Writing and reading are both defined here, so that one can be stated as the inverse of the other;
`readNumeral?` is total on texts of digits and its value is not bounded, so each caller states
the range of its own.
-/

namespace VpnClient.Text

/-- The digit that stands for a value below sixteen, in lower case. -/
def digit (value : Nat) : Char :=
  if value < 10 then Char.ofNat ('0'.toNat + value) else Char.ofNat ('a'.toNat + (value - 10))

/-- The value of a digit of the given radix, in either case. -/
def digitValue? (radix : Nat) (c : Char) : Option Nat :=
  let value :=
    if '0' ≤ c ∧ c ≤ '9' then c.toNat - '0'.toNat
    else if 'a' ≤ c ∧ c ≤ 'f' then c.toNat - 'a'.toNat + 10
    else if 'A' ≤ c ∧ c ≤ 'F' then c.toNat - 'A'.toNat + 10
    else 16
  if value < radix ∧ value < 16 then some value else none

/-- Whether a character is one of the ten decimal digits. -/
def isDecimalDigit (c : Char) : Bool :=
  (digitValue? 10 c).isSome

/-- The digits of a number in a radix, most significant first; zero has one digit. -/
def numeral (radix : Nat) (n : Nat) : List Char :=
  if _h : n < radix ∨ radix < 2 then [digit n]
  else numeral radix (n / radix) ++ [digit (n % radix)]
termination_by n
decreasing_by
  have : 0 < n := by omega
  exact Nat.div_lt_self this (by omega)

/-- The number that digits stand for, continuing from the value of those before them. -/
def readDigits? (radix : Nat) (before : Nat) : List Char → Option Nat
  | [] => some before
  | c :: rest => do
    let value ← digitValue? radix c
    readDigits? radix (before * radix + value) rest

/-- The number a text of at least one digit stands for. -/
def readNumeral? (radix : Nat) : List Char → Option Nat
  | [] => none
  | s => readDigits? radix 0 s

/-- A number in decimal. -/
def decimal (n : Nat) : String :=
  String.ofList (numeral 10 n)

/-- A whole number in decimal, with a sign only when it is negative. -/
def signedDecimal (n : Int) : String :=
  if n < 0 then "-" ++ decimal n.natAbs else decimal n.natAbs

/-- A text with as many copies of `fill` in front as it takes to reach the width. -/
def padLeft (fill : Char) (width : Nat) (s : List Char) : List Char :=
  List.replicate (width - s.length) fill ++ s

/-- A number in decimal with zeros in front up to a width. -/
def zeroPadded (width : Nat) (n : Nat) : String :=
  String.ofList (padLeft '0' width (numeral 10 n))

/-- A number in decimal with spaces in front up to a width. -/
def spacePadded (width : Nat) (n : Nat) : String :=
  String.ofList (padLeft ' ' width (numeral 10 n))

end VpnClient.Text
