import VpnClient.Text.GlyphTable
import VpnClient.Text.Numeral

/-!
# Quoted text

A text between double quotes, with escapes for everything that could not be told apart or would
not show on a terminal. This is how reasons and names inside an error cause are printed.

## Main Definitions

* `escaped` — how one character is written
* `quoted` — a text in quotes
-/

namespace VpnClient.Text

/-- Whether a code point lies in one of the ranges, ends included. -/
def inRanges (ranges : List (Nat × Nat)) (code : Nat) : Bool :=
  ranges.any fun (first, last) => first ≤ code && code ≤ last

/-- A character by its code point, in lower case hexadecimal between braces. -/
def codePointEscape (c : Char) : List Char :=
  '\\' :: 'u' :: '\x7b' :: numeral 16 c.toNat ++ ['\x7d']

/-- How a character is written inside quotes. A character that extends the one before it would
attach itself to a neighbour, so it is written by its code point, like those without a glyph. -/
def escaped (c : Char) : List Char :=
  match c with
  | '\x00' => ['\\', '0']
  | '\t' => ['\\', 't']
  | '\r' => ['\\', 'r']
  | '\n' => ['\\', 'n']
  | '"' => ['\\', '"']
  | '\\' => ['\\', '\\']
  | _ =>
    if inRanges extendingRanges c.toNat || inRanges invisibleRanges c.toNat then codePointEscape c
    else [c]

/-- A text between double quotes. -/
def quoted (s : String) : String :=
  String.ofList ('"' :: s.toList.flatMap escaped ++ ['"'])

end VpnClient.Text
