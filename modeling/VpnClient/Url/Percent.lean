import VpnClient.Text.Numeral

/-!
# Percent encoding

Characters that may not stand for themselves in a part of a URL are written byte by byte, each
byte as `%` and two hexadecimal digits.

## Main Definitions

* `percentEncode` — a text with the characters of a set encoded
* `percentDecode` — the bytes that a text stands for
* `inPathSet`, `inQuerySet` and others — the characters that are encoded in each part of a URL

## Design Notes

A set is a predicate. Each set contains the control characters and everything beyond ASCII.
-/

namespace VpnClient.Url

open Text (digitValue?)

/-- The bytes of a character in UTF-8. -/
def utf8 (c : Char) : List UInt8 :=
  String.utf8EncodeChar c

/-- The capital hexadecimal digit for a value below sixteen. -/
def capitalDigit (value : Nat) : Char :=
  if value < 10 then Char.ofNat ('0'.toNat + value) else Char.ofNat ('A'.toNat + (value - 10))

/-- A byte as `%` and two digits. -/
def percentByte (byte : UInt8) : List Char :=
  ['%', capitalDigit (byte.toNat / 16), capitalDigit (byte.toNat % 16)]

/-- A text with the characters of a set encoded. -/
def percentEncode (inSet : Char → Bool) (s : List Char) : List Char :=
  s.flatMap fun c => if inSet c then (utf8 c).flatMap percentByte else [c]

/-- The byte that two hexadecimal digits spell. -/
def byteOfDigits? (high low : Char) : Option UInt8 := do
  some (UInt8.ofNat ((← digitValue? 16 high) * 16 + (← digitValue? 16 low)))

/-- The bytes a text stands for. A `%` without two digits behind it stands for itself. -/
def percentDecode : List Char → List UInt8
  | '%' :: a :: b :: rest =>
    match byteOfDigits? a b with
    | some byte => byte :: percentDecode rest
    | none => utf8 '%' ++ percentDecode (a :: b :: rest)
  | c :: rest => utf8 c ++ percentDecode rest
  | [] => []

/-! ### Sets -/

/-- Control characters and everything beyond ASCII. -/
def inControlSet (c : Char) : Bool :=
  c.toNat < 0x20 || 0x7e < c.toNat

/-- What is encoded in a fragment. -/
def inFragmentSet (c : Char) : Bool :=
  inControlSet c || c == ' ' || c == '"' || c == '<' || c == '>' || c == '\x60'

/-- What is encoded in a query. -/
def inQuerySet (c : Char) : Bool :=
  inControlSet c || c == ' ' || c == '"' || c == '#' || c == '<' || c == '>'

/-- What is encoded in the query of a URL with a special scheme. -/
def inSpecialQuerySet (c : Char) : Bool :=
  inQuerySet c || c == '\''

/-- What is encoded in a path. -/
def inPathSet (c : Char) : Bool :=
  inFragmentSet c || c == '#' || c == '?' || c == '\x7b' || c == '\x7d'

/-- What is encoded in a user name or a password. -/
def inUserinfoSet (c : Char) : Bool :=
  inPathSet c || c == '/' || c == ':' || c == ';' || c == '=' || c == '@' || c == '[' || c == '\\'
    || c == ']' || c == '^' || c == '|'

end VpnClient.Url
