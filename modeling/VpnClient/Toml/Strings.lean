import VpnClient.Text.Numeral
import VpnClient.Toml.Lexical

/-!
# TOML strings, read

Strings between double quotes have escapes, those between single quotes have none. Three quotes
enclose a string of several lines.

## Main Definitions

* `readEscaped?` — the rest of a string between double quotes
* `readLiteral?`, `readLiteralLines?` — the rest of a string between single quotes
* `readString?` — a string with its opening quotes

## Design Notes

A line break in a string is always one line feed, however it is written. The first line break of a
string of several lines does not count, and two quotes may stand next to the closing ones.
-/

namespace VpnClient.Toml

open Text (digitValue?)

/-- The character behind a backslash, for the escapes of one letter. -/
def simpleEscape? : Char → Option Char
  | 'b' => some '\x08'
  | 't' => some '\t'
  | 'n' => some '\n'
  | 'f' => some '\x0c'
  | 'r' => some '\r'
  | '"' => some '"'
  | '\\' => some '\\'
  | _ => none

/-- The character with the code point that hexadecimal digits spell. -/
def codePoint? (digits : List Char) : Option Char := do
  let code ← Text.readNumeral? 16 digits
  if code < 0xd800 ∨ (0xe000 ≤ code ∧ code < 0x110000) then some (Char.ofNat code) else none

/-- Whether a line goes on after its end: blanks and a line break. -/
def continuesLine (s : List Char) : Bool :=
  (afterBreak? (skipBlanks s)).isSome

/-- How a string between double quotes is read: it has one line or several, and after a backslash
at the end of a line, blanks and line breaks are passed over. -/
inductive Mode where
  | line
  | lines
  | skipping
  deriving DecidableEq

/-- The mode after a character that counts. -/
def Mode.resumed : Mode → Mode
  | .line => .line
  | .lines => .lines
  | .skipping => .lines

/-- The rest of a string between double quotes. -/
def readEscaped? (mode : Mode) : List Char → Option (List Char × List Char)
  | [] => none
  | '\\' :: 'u' :: a :: b :: c :: d :: rest => do
    let char ← codePoint? [a, b, c, d]
    let (cs, rest) ← readEscaped? mode.resumed rest
    some (char :: cs, rest)
  | '\\' :: 'U' :: a :: b :: c :: d :: e :: f :: g :: h :: rest => do
    let char ← codePoint? [a, b, c, d, e, f, g, h]
    let (cs, rest) ← readEscaped? mode.resumed rest
    some (char :: cs, rest)
  | '\\' :: c :: rest =>
    match simpleEscape? c with
    | some char => do
      let (cs, rest) ← readEscaped? mode.resumed rest
      some (char :: cs, rest)
    | none =>
      if mode ≠ .line ∧ continuesLine (c :: rest) then readEscaped? .skipping (c :: rest)
      else none
  | '"' :: rest =>
    if mode = .line then some ([], rest)
    else match rest with
      | '"' :: '"' :: '"' :: '"' :: rest => some (['"', '"'], rest)
      | '"' :: '"' :: '"' :: rest => some (['"'], rest)
      | '"' :: '"' :: rest => some ([], rest)
      | rest => do
        let (cs, rest) ← readEscaped? .lines rest
        some ('"' :: cs, rest)
  | '\n' :: rest =>
    if mode = .skipping then readEscaped? .skipping rest
    else if mode = .lines then do
      let (cs, rest) ← readEscaped? .lines rest
      some ('\n' :: cs, rest)
    else none
  | '\r' :: '\n' :: rest =>
    if mode = .skipping then readEscaped? .skipping rest
    else if mode = .lines then do
      let (cs, rest) ← readEscaped? .lines rest
      some ('\n' :: cs, rest)
    else none
  | c :: rest =>
    if mode = .skipping ∧ isBlank c then readEscaped? .skipping rest
    else if isPlain c ∧ c ≠ '\\' then do
      let (cs, rest) ← readEscaped? mode.resumed rest
      some (c :: cs, rest)
    else none

/-- The rest of a string of one line between single quotes. -/
def readLiteral? : List Char → Option (List Char × List Char)
  | [] => none
  | c :: rest =>
    if c = '\'' then some ([], rest)
    else if isPlain c then (readLiteral? rest).map fun (cs, rest) => (c :: cs, rest)
    else none

/-- The rest of a string of several lines between single quotes. -/
def readLiteralLines? : List Char → Option (List Char × List Char)
  | [] => none
  | '\'' :: '\'' :: '\'' :: '\'' :: '\'' :: rest => some (['\'', '\''], rest)
  | '\'' :: '\'' :: '\'' :: '\'' :: rest => some (['\''], rest)
  | '\'' :: '\'' :: '\'' :: rest => some ([], rest)
  | '\n' :: rest => (readLiteralLines? rest).map fun (cs, rest) => ('\n' :: cs, rest)
  | '\r' :: '\n' :: rest => (readLiteralLines? rest).map fun (cs, rest) => ('\n' :: cs, rest)
  | c :: rest =>
    if isPlain c then (readLiteralLines? rest).map fun (cs, rest) => (c :: cs, rest) else none

/-- A text without the line break it starts with, if any. -/
def skipBreak (s : List Char) : List Char :=
  (afterBreak? s).getD s

/-- A string of any kind, and the rest of the text. -/
def readString? : List Char → Option (List Char × List Char)
  | '"' :: '"' :: '"' :: rest => readEscaped? .lines (skipBreak rest)
  | '"' :: rest => readEscaped? .line rest
  | '\'' :: '\'' :: '\'' :: rest => readLiteralLines? (skipBreak rest)
  | '\'' :: rest => readLiteral? rest
  | _ => none

/-- A string of one line, as a quoted key is. -/
def readLine? : List Char → Option (List Char × List Char)
  | '"' :: rest => readEscaped? .line rest
  | '\'' :: rest => readLiteral? rest
  | _ => none

end VpnClient.Toml
