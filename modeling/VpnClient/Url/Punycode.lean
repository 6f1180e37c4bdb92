/-!
# Punycode

A text in letters, digits and hyphens that stands for a text in any script. The characters of ASCII
come first; the others follow in the order of their code points, each with its place among them,
written as differences in a number system whose digits count for more the further they stand to the
right.

## Main Definitions

* `Punycode.encode` — the letters and digits for a text
* `Punycode.decode?` — the text that letters and digits stand for, if they do

## Design Notes

A difference counts the places at which a character could have been put in since the last one was:
all places of all characters in between. The threshold of a digit follows the differences so far, so
that texts in one script stay short.
-/

namespace VpnClient.Url.Punycode

/-- The digit for a value below thirty-six. -/
def digit (value : Nat) : Char :=
  Char.ofNat (if value < 26 then 'a'.toNat + value else '0'.toNat + (value - 26))

/-- The value of a digit. -/
def digitValue? (c : Char) : Option Nat :=
  if 'a' ≤ c ∧ c ≤ 'z' then some (c.toNat - 'a'.toNat)
  else if 'A' ≤ c ∧ c ≤ 'Z' then some (c.toNat - 'A'.toNat)
  else if '0' ≤ c ∧ c ≤ '9' then some (c.toNat - '0'.toNat + 26)
  else none

/-- The value from which on a digit at a position, counted in steps of thirty-six, is not the last
one of its number. -/
def threshold (bias position : Nat) : Nat :=
  max 1 (min 26 (position - bias))

/-- A bias brought down to size. -/
def scaled (delta bias : Nat) : Nat :=
  if 455 < delta then scaled (delta / 35) (bias + 36) else bias + 36 * delta / (delta + 38)
termination_by delta
decreasing_by omega

/-- The bias after a difference, with `count` characters written so far. -/
def adapt (delta count : Nat) (isFirst : Bool) : Nat :=
  let damped := if isFirst then delta / 700 else delta / 2
  scaled (damped + damped / count) 0

/-! ### Encoding -/

/-- The digits of a difference. -/
def writeNumber (bias position value : Nat) : List Char :=
  let t := threshold bias position
  if _h : value < t then [digit value]
  else
    digit (t + (value - t) % (36 - t)) :: writeNumber bias (position + 36) ((value - t) / (36 - t))
termination_by value
decreasing_by
  have least : 1 ≤ threshold bias position := by unfold threshold; omega
  have quotient := Nat.div_le_self (value - threshold bias position)
    (36 - threshold bias position)
  omega

/-- How far an encoding has come: the difference since the last character that was written, the
bias, and how many characters have been. -/
structure Progress where
  delta : Nat
  bias : Nat
  count : Nat

/-- The digits for all places of one code point in a text, whose first `basic` characters were
already there. -/
def writePlaces (code basic : Nat) (p : Progress) : List Nat → List Char × Progress
  | [] => ([], p)
  | c :: rest =>
    if c < code then writePlaces code basic { p with delta := p.delta + 1 } rest
    else if c = code then
      let digits := writeNumber p.bias 36 p.delta
      let bias := adapt p.delta (p.count + 1) (p.count == basic)
      let (more, p) := writePlaces code basic ⟨0, bias, p.count + 1⟩ rest
      (digits ++ more, p)
    else writePlaces code basic p rest

/-- The digits for all places of some code points in increasing order, from `next` on. -/
def writeCodes (text : List Nat) (basic next : Nat) (p : Progress) : List Nat → List Char
  | [] => []
  | code :: codes =>
    let skipped := { p with delta := p.delta + (code - next) * (p.count + 1) }
    let (digits, p) := writePlaces code basic skipped text
    digits ++ writeCodes text basic (code + 1) { p with delta := p.delta + 1 } codes

/-- The letters and digits for a text. -/
def encode (s : List Char) : List Char :=
  let text := s.map Char.toNat
  let basic := s.filter fun c => c.toNat < 128
  let others := ((text.filter fun c => 128 ≤ c).mergeSort fun a b => decide (a ≤ b)).eraseDups
  let hyphen := if basic.isEmpty then [] else ['-']
  basic ++ hyphen ++ writeCodes text basic.length 128 ⟨0, 72, basic.length⟩ others

/-! ### Decoding -/

/-- A difference, and what follows its digits. -/
def readNumber? (bias position weight value : Nat) : List Char → Option (Nat × List Char)
  | [] => none
  | c :: rest => do
    let d ← digitValue? c
    let t := threshold bias position
    let value := value + d * weight
    if d < t then some (value, rest)
    else readNumber? bias (position + 36) (weight * (36 - t)) value rest

/-- The text made by putting characters into `text`, at most `bound` of them. `place` is the place
of the last one, and `code` its code point. -/
def insertAll? (bias code place : Nat) (isFirst : Bool) (text : List Char) :
    (bound : Nat) → List Char → Option (List Char)
  | _, [] => some text
  | 0, _ :: _ => none
  | bound + 1, digits => do
    let (delta, rest) ← readNumber? bias 36 1 0 digits
    let count := text.length + 1
    let code := code + (place + delta) / count
    let place := (place + delta) % count
    if code.isValidChar then
      let text := text.take place ++ Char.ofNat code :: text.drop place
      insertAll? (adapt delta count isFirst) code (place + 1) false text bound rest
    else none

/-- What stands before the last hyphen, and after it. Without a hyphen, nothing stands before. -/
def splitAtHyphen (s : List Char) : List Char × List Char :=
  let digits := s.reverse.takeWhile (· ≠ '-')
  (s.take (s.length - digits.length - 1), digits.reverse)

/-- The text that letters and digits stand for. -/
def decode? (s : List Char) : Option (List Char) :=
  let (basic, digits) := splitAtHyphen s
  if basic.all fun c => c.toNat < 128 then insertAll? 72 128 0 true basic digits.length digits
  else none

end VpnClient.Url.Punycode
