import VpnClient.Data
import VpnClient.Text.Numeral
import VpnClient.Text.Split

/-!
# TOML numbers and dates

Whole numbers of sixty-four bits, floating point numbers, and dates and times.

## Main Definitions

* `readDate?` — a date, a time of day, or both
* `readFloat?` — a number with a fraction or an exponent, an infinity, or what is no number
* `readInteger?` — a whole number

## Design Notes

Nothing in this program is configured by a date. A date is still a value, so that a document with
one can be read; it becomes a record with one member that no structure has.
-/

namespace VpnClient.Toml

open Text (isDecimalDigit digitValue? readNumeral? after?)

/-! ### Dates -/

/-- A number of exactly `count` digits inside the given bounds. -/
def readExactly? (count least greatest : Nat) (s : List Char) : Option (Nat × List Char) := do
  let digits := s.take count
  if digits.length = count then
    let n ← readNumeral? 10 digits
    if least ≤ n ∧ n ≤ greatest then some (n, s.drop count) else none
  else none

/-- The number of days in a month. -/
def daysOfMonth (year month : Nat) : Nat :=
  if month = 2 then
    (if year % 4 = 0 ∧ (year % 100 ≠ 0 ∨ year % 400 = 0) then 29 else 28)
  else if month = 4 ∨ month = 6 ∨ month = 9 ∨ month = 11 then 30
  else 31

/-- The rest of a text that starts with a day of the calendar. -/
def afterDay? (s : List Char) : Option (List Char) := do
  let (year, s) ← readExactly? 4 0 9999 s
  let s ← after? ['-'] s
  let (month, s) ← readExactly? 2 1 12 s
  let s ← after? ['-'] s
  let (_, s) ← readExactly? 2 1 (daysOfMonth year month) s
  some s

/-- The rest of a text that starts with a time of day. -/
def afterTime? (s : List Char) : Option (List Char) := do
  let (_, s) ← readExactly? 2 0 23 s
  let s ← after? [':'] s
  let (_, s) ← readExactly? 2 0 59 s
  let s ← after? [':'] s
  let (_, s) ← readExactly? 2 0 60 s
  match s with
  | '.' :: s =>
    if (s.takeWhile isDecimalDigit).isEmpty then none else some (s.dropWhile isDecimalDigit)
  | s => some s

/-- The rest of a text that may start with an offset from coordinated universal time. -/
def afterOffset? (s : List Char) : Option (List Char) :=
  match s with
  | [] => some []
  | c :: rest =>
    if c = 'Z' ∨ c = 'z' then some rest
    else if c = '+' ∨ c = '-' then do
      let (_, s) ← readExactly? 2 0 23 rest
      let s ← after? [':'] s
      let (_, s) ← readExactly? 2 0 59 s
      some s
    else some s

/-- The rest of a text that starts with a day, perhaps followed by a time. -/
def afterMoment? (s : List Char) : Option (List Char) := do
  let s ← afterDay? s
  match s with
  | [] => some []
  | c :: rest =>
    if c = 'T' ∨ c = 't' ∨ c = ' ' then
      match afterTime? rest with
      | some rest => afterOffset? rest
      | none => some s
    else some s

/-- A date or a time of day as a document value, and the rest of the text. -/
def readDate? (s : List Char) : Option (Data × List Char) :=
  match (afterMoment? s).or (afterTime? s) with
  | some rest =>
    let spelling := s.take (s.length - rest.length)
    some (.record [("$date", .text (String.ofList spelling))], rest)
  | none => none

/-! ### Numbers -/

/-- Whether a character is a digit of the given radix. -/
def isDigit (radix : Nat) (c : Char) : Bool :=
  (digitValue? radix c).isSome

/-- Digits with single underscores between them, without the underscores; and the rest. -/
def readGrouped (radix : Nat) : List Char → List Char × List Char
  | [] => ([], [])
  | '_' :: c :: rest =>
    if isDigit radix c then
      let (digits, rest) := readGrouped radix rest
      (c :: digits, rest)
    else ([], '_' :: c :: rest)
  | c :: rest =>
    if isDigit radix c then
      let (digits, rest) := readGrouped radix rest
      (c :: digits, rest)
    else ([], c :: rest)

/-- At least one digit, perhaps grouped by underscores; and the rest. -/
def readDigits? (radix : Nat) : List Char → Option (List Char × List Char)
  | c :: rest =>
    if isDigit radix c then
      let (digits, rest) := readGrouped radix rest
      some (c :: digits, rest)
    else none
  | [] => none

/-- The digits of a decimal number; a leading zero stands alone. -/
def readWhole? : List Char → Option (List Char × List Char)
  | '0' :: rest => some (['0'], rest)
  | s => readDigits? 10 s

/-- A sign, which is minus or not, and the rest. -/
def readSign : List Char → Bool × List Char
  | '-' :: rest => (true, rest)
  | '+' :: rest => (false, rest)
  | s => (false, s)

/-- A value of at most sixty-three bits and a sign as a document value. -/
def integer? (negative : Bool) (n : Nat) : Option Data :=
  let value : Int := if negative then -(n : Int) else n
  if -(signedSize : Int) ≤ value ∧ value < signedSize then some (.integer value) else none

/-- A whole number: in a radix that its first two characters name, else decimal with a sign. -/
def readInteger? (s : List Char) : Option (Data × List Char) :=
  let inRadix (radix : Nat) (s : List Char) : Option (Data × List Char) := do
    let (digits, rest) ← readDigits? radix s
    let value ← integer? false (← readNumeral? radix digits)
    some (value, rest)
  match s with
  | '0' :: 'x' :: rest => inRadix 16 rest
  | '0' :: 'o' :: rest => inRadix 8 rest
  | '0' :: 'b' :: rest => inRadix 2 rest
  | s => do
    let (negative, s) := readSign s
    let (digits, rest) ← readWhole? s
    let value ← integer? negative (← readNumeral? 10 digits)
    some (value, rest)

/-- The floating point number nearest to `digits * 10 ^ exponent`. A number with a magnitude far
out of range is not computed. -/
def nearestFloat (digits : Nat) (exponent : Int) : Float :=
  let magnitude : Int := (Text.numeral 10 digits).length + exponent
  if digits = 0 ∨ magnitude < -400 then 0.0
  else if 400 < magnitude then 1.0 / 0.0
  else if exponent < 0 then Float.ofScientific digits true exponent.natAbs
  else Float.ofScientific digits false exponent.natAbs

/-- An exponent behind its mark, and the rest; zero if there is none. -/
def readExponent? (s : List Char) : Option (Int × List Char) :=
  match s with
  | c :: s' =>
    if c = 'e' ∨ c = 'E' then do
      let (negative, s') := readSign s'
      let (digits, rest) ← readDigits? 10 s'
      let n ← readNumeral? 10 digits
      some (if negative then -(n : Int) else n, rest)
    else some (0, s)
  | [] => some (0, [])

/-- A number with a fraction, an exponent or both. -/
def readDecimal? (negative : Bool) (s : List Char) : Option (Data × List Char) := do
  let (digits, rest) ← readWhole? s
  let (fraction, rest) ← match rest with
    | '.' :: rest => readDigits? 10 rest
    | 'e' :: _ => some ([], rest)
    | 'E' :: _ => some ([], rest)
    | _ => none
  let (exponent, rest) ← readExponent? rest
  let n ← readNumeral? 10 (digits ++ fraction)
  let x := nearestFloat n (exponent - fraction.length)
  let x := if negative then -x else x
  if x.isInf && !negative then none else some (.float x, rest)

/-- A floating point number. Only an infinity that is written as one may be positive. -/
def readFloat? (s : List Char) : Option (Data × List Char) :=
  let (negative, s) := readSign s
  match s with
  | 'i' :: 'n' :: 'f' :: rest =>
    some (.float (if negative then -(1.0 / 0.0) else 1.0 / 0.0), rest)
  | 'n' :: 'a' :: 'n' :: rest => some (.float (0.0 / 0.0), rest)
  | s => readDecimal? negative s

end VpnClient.Toml
