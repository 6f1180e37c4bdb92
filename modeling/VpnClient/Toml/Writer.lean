import VpnClient.Text.Numeral
import VpnClient.Text.Split

/-!
# TOML text, written

How texts, lists and pairs are laid out in a configuration file.

## Main Definitions

* `Spelling` — the ways to write a text
* `Spelling.choose` — the one that needs the fewest escapes
* `textValue` — a text as a value
* `listValue` — a list as a value, on one line up to one item
* `pair`, `header` — lines of a document
-/

namespace VpnClient.Toml

open Text (padLeft)

/-- The ways to write a text: between one or three double quotes with escapes, or between one or
three single quotes without. -/
inductive Spelling where
  | escaped
  | literal
  | escapedLines
  | literalLines
  deriving DecidableEq, Repr

/-- The longest run of a character in a text, where `run` of them come right before it. -/
def longestRun (c : Char) (run : Nat) : List Char → Nat
  | [] => run
  | d :: rest => if d = c then longestRun c (run + 1) rest else max run (longestRun c 0 rest)

/-- Whether a character can only be written as an escape. -/
def needsEscape (c : Char) : Bool :=
  c != '\t' && c != '\n' && (c.toNat < 0x20 || c.toNat == 0x7f)

namespace Spelling

/-- The first way that needs no escapes, in the order double quotes, single quotes, three double
quotes, three single quotes. If there is none, double quotes with escapes. -/
def choose (s : List Char) : Spelling :=
  let controls := s.any needsEscape
  let broken := s.contains '\n'
  let double := longestRun '"' 0 s
  let single := longestRun '\'' 0 s
  if !controls && !s.contains '\\' && double == 0 && !broken then escaped
  else if !controls && single == 0 && !broken then literal
  else if !controls && !s.contains '\\' && double ≤ 2 then escapedLines
  else if !controls && single ≤ 2 then literalLines
  else if broken then escapedLines
  else escaped

/-- Whether a text written this way may have several lines. -/
def hasLines : Spelling → Bool
  | escaped => false
  | literal => false
  | escapedLines => true
  | literalLines => true

/-- What stands before and after a text. -/
def delimiter : Spelling → List Char
  | escaped => ['"']
  | literal => ['\'']
  | escapedLines => ['"', '"', '"']
  | literalLines => ['\'', '\'', '\'']

end Spelling

/-- A control character by its code point. -/
def codePointEscape (c : Char) : List Char :=
  let capital (d : Char) : Char := d.toUpper
  '\\' :: 'u' :: padLeft '0' 4 ((Text.numeral 16 c.toNat).map capital)

/-- How a character that is not a quote stands between double quotes. -/
def escape (lines : Bool) (c : Char) : List Char :=
  match c with
  | '\x08' => ['\\', 'b']
  | '\t' => ['\\', 't']
  | '\n' => if lines then ['\n'] else ['\\', 'n']
  | '\x0c' => ['\\', 'f']
  | '\r' => ['\\', 'r']
  | '\\' => ['\\', '\\']
  | _ => if c.toNat < 0x20 || c.toNat == 0x7f then codePointEscape c else [c]

/-- A text between double quotes, behind `run` quotes that are not escaped. Three quotes in a row
would end a text of several lines, and one any other text. -/
def escapeAll (lines : Bool) (run : Nat) : List Char → List Char
  | [] => []
  | '"' :: rest =>
    if run < (if lines then 2 else 0) then '"' :: escapeAll lines (run + 1) rest
    else '\\' :: '"' :: escapeAll lines 0 rest
  | c :: rest => escape lines c ++ escapeAll lines 0 rest

/-- A text as a value. A text with line breaks starts on a line of its own. -/
def textValue (s : List Char) : List Char :=
  let spelling := Spelling.choose s
  let opening := if spelling.hasLines && s.contains '\n' then ['\n'] else []
  let body := match spelling with
    | .escaped => escapeAll false 0 s
    | .escapedLines => escapeAll true 0 s
    | _ => s
  spelling.delimiter ++ opening ++ body ++ spelling.delimiter

/-- A list as a value: from two items on, each item has a line of its own. -/
def listValue (items : List (List Char)) : List Char :=
  match items with
  | [] => ['[', ']']
  | [item] => '[' :: item ++ [']']
  | items =>
    '[' :: '\n' :: (items.flatMap fun item => "    ".toList ++ item ++ [',', '\n']) ++ [']']

/-- A truth value. -/
def boolValue (b : Bool) : List Char :=
  if b then "true".toList else "false".toList

/-- A line that gives a key its value. -/
def pair (key value : List Char) : List Char :=
  key ++ ' ' :: '=' :: ' ' :: value ++ ['\n']

/-- A line that starts a section. -/
def header (name : List Char) : List Char :=
  '[' :: name ++ [']', '\n']

end VpnClient.Toml
