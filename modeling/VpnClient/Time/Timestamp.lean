import VpnClient.Data
import VpnClient.Text.Blank
import VpnClient.Text.Numeral
import VpnClient.Time.Instant

/-!
# Timestamps

Instants as text: a date, a time of day and an offset from coordinated universal time.

## Main Definitions

* `Instant.timestamp` — the canonical text of an instant
* `Instant.minuteText` — date and time of day up to the minute, for people
* `Instant.ofTimestamp?` — the instant a text stands for

## Design Notes

The reader takes a step at a time; each step gives the rest of the text. Blanks are allowed in
front of every number and every separator.
-/

namespace VpnClient.Instant

open Text (decimal zeroPadded trimStart isDecimalDigit isBlank readNumeral?)

/-! ### Writing -/

/-- A year: four digits, or a sign and at least four digits outside the years 0 to 9999. -/
def yearText (year : Int) : String :=
  if 0 ≤ year ∧ year ≤ 9999 then zeroPadded 4 year.natAbs
  else (if year < 0 then "-" else "+") ++ zeroPadded 4 year.natAbs

/-- The date of an instant, with dashes. -/
def dateText (t : Instant) : String :=
  yearText t.date.year ++ "-" ++ zeroPadded 2 t.date.month ++ "-" ++ zeroPadded 2 t.date.day

/-- The hour and the minute of an instant. -/
def clockText (t : Instant) : String :=
  let second := t.secondOfDay.toNat
  zeroPadded 2 (second / 3600) ++ ":" ++ zeroPadded 2 (second / 60 % 60)

/-- The fraction of a second, in the fewest groups of three digits that hold it exactly. -/
def fractionText (nanos : Nat) : String :=
  if nanos = 0 then ""
  else if nanos % 1000000 = 0 then "." ++ zeroPadded 3 (nanos / 1000000)
  else if nanos % 1000 = 0 then "." ++ zeroPadded 6 (nanos / 1000)
  else "." ++ zeroPadded 9 nanos

/-- The canonical text of an instant. A leap second is second 60. -/
def timestamp (t : Instant) : String :=
  let second := t.secondOfDay.toNat % 60 + (if t.inLeapSecond then 1 else 0)
  let nanos := if t.inLeapSecond then t.nanos - 1000000000 else t.nanos
  t.dateText ++ "T" ++ t.clockText ++ ":" ++ zeroPadded 2 second ++ fractionText nanos ++ "Z"

/-- The date and the time of day up to the minute. -/
def minuteText (t : Instant) : String :=
  t.dateText ++ " " ++ t.clockText ++ " UTC"

/-! ### Reading -/

/-- A number of at least one and at most `most` digits, and the rest of the text. -/
def readDigits? (most : Nat) (s : List Char) : Option (Nat × List Char) :=
  let digits := (s.take most).takeWhile isDecimalDigit
  (readNumeral? 10 digits).map fun n => (n, s.drop digits.length)

/-- A number of one or two digits inside the given bounds, blanks in front of it allowed. -/
def readField? (least greatest : Nat) (s : List Char) : Option (Nat × List Char) := do
  let (n, rest) ← readDigits? 2 (trimStart s)
  if least ≤ n ∧ n ≤ greatest then some (n, rest) else none

/-- A separator, blanks in front of it allowed. -/
def readSeparator? (separator : Char) (s : List Char) : Option (List Char) :=
  match trimStart s with
  | c :: rest => if c = separator then some rest else none
  | [] => none

/-- A year: up to four digits, or a sign and any number of digits. -/
def readYear? (s : List Char) : Option (Int × List Char) :=
  match trimStart s with
  | '-' :: rest => (readDigits? rest.length rest).map fun (n, rest) => (-(n : Int), rest)
  | '+' :: rest => (readDigits? rest.length rest).map fun (n, rest) => ((n : Int), rest)
  | s => (readDigits? 4 s).map fun (n, rest) => ((n : Int), rest)

/-- A date that there is, and the rest of the text. -/
def readDate? (s : List Char) : Option (Date × List Char) := do
  let (year, s) ← readYear? s
  let s ← readSeparator? '-' s
  let (month, s) ← readField? 1 12 s
  let s ← readSeparator? '-' s
  let (day, s) ← readField? 1 31 s
  let date : Date := ⟨year, month, day⟩
  if date.isValid ∧ firstYear ≤ year ∧ year ≤ lastYear then some (date, s) else none

/-- The nanoseconds of a fraction behind its point. Digits beyond the ninth do not count. -/
def readFraction? (s : List Char) : Option (Nat × List Char) :=
  match s with
  | '.' :: s =>
    let digits := s.takeWhile isDecimalDigit
    (readNumeral? 10 (digits.take 9)).map fun n =>
      (n * Nat.pow 10 (9 - digits.length), s.dropWhile isDecimalDigit)
  | s => some (0, s)

/-- A time of day as seconds and nanoseconds; second 60 is a leap second. -/
def readTime? (s : List Char) : Option ((Nat × Nat) × List Char) := do
  let (hour, s) ← readField? 0 23 s
  let s ← readSeparator? ':' s
  let (minute, s) ← readField? 0 59 s
  let s ← readSeparator? ':' s
  let (second, s) ← readField? 0 60 s
  let (nanos, s) ← readFraction? s
  let minutes := hour * 60 + minute
  some (if second = 60 then (minutes * 60 + 59, 1000000000 + nanos)
    else (minutes * 60 + second, nanos), s)

/-- Two digits, the first one at most `greatest`. -/
def readPair? (greatest : Nat) : List Char → Option (Nat × List Char)
  | a :: b :: rest => do
    let n ← readNumeral? 10 [a, b]
    if n / 10 ≤ greatest then some (n, rest) else none
  | _ => none

/-- Hours and minutes of an offset; colons and blanks between them do not matter. -/
def readShift? (s : List Char) : Option (Int × List Char) := do
  let (hours, s) ← readPair? 9 s
  let (minutes, s) ← readPair? 5 (s.dropWhile fun c => c == ':' || isBlank c)
  some (hours * 3600 + minutes * 60, s)

/-- The seconds by which a clock is ahead, from its sign on. -/
def readOffset? : List Char → Option (Int × List Char)
  | '+' :: s => readShift? s
  | '-' :: s => (readShift? s).map fun (n, rest) => (-n, rest)
  | '\u2212' :: s => (readShift? s).map fun (n, rest) => (-n, rest)
  | a :: s =>
    if a = 'Z' ∨ a = 'z' then some (0, s)
    else match s with
      | b :: c :: s =>
        if (a = 'U' ∨ a = 'u') ∧ (b = 'T' ∨ b = 't') ∧ (c = 'C' ∨ c = 'c') then some (0, s)
        else none
      | _ => none
  | [] => none

/-- The instant at a date and a time of day on a clock that is ahead by less than a day. -/
def atClock? (date : Date) (second nanos : Nat) (offset : Int) : Option Instant :=
  let seconds := date.dayNumber * 86400 + second - offset
  if offset.natAbs < 86400 ∧ hasSecond seconds then some ⟨seconds, nanos⟩ else none

/-- The instant a text stands for. -/
def ofTimestamp? (s : List Char) : Option Instant := do
  let (date, s) ← readDate? s
  match s with
  | [] => none
  | c :: s =>
    if c = 'T' ∨ c = 't' ∨ c = ' ' then
      let ((second, nanos), s) ← readTime? s
      let (offset, s) ← readOffset? (trimStart s)
      if s.isEmpty then atClock? date second nanos offset else none
    else none

/-- The document form of an instant. -/
def toData (t : Instant) : Data :=
  .text t.timestamp

/-- The instant a document value stands for. -/
def ofData? : Data → Option Instant :=
  Data.parsed? ofTimestamp?

end VpnClient.Instant
