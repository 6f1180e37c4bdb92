/-!
# TOML characters

The pieces of TOML text below values: which characters may appear, blanks, comments and the ends
of lines.

## Main Definitions

* `isPlain` — the characters that may stand for themselves in strings and comments
* `skipBlanks`, `skipLines` — what may be left out between tokens
* `readLineEnd?` — the end of a line
-/

namespace VpnClient.Toml

/-- Whether a character may stand for itself: any but control characters, of which only the tab
may. -/
def isPlain (c : Char) : Bool :=
  c == '\t' || (0x20 ≤ c.toNat && c.toNat != 0x7f)

/-- Whether a character is a blank inside a line. -/
def isBlank (c : Char) : Bool :=
  c == ' ' || c == '\t'

/-- A text without the blanks it starts with. -/
def skipBlanks (s : List Char) : List Char :=
  s.dropWhile isBlank

/-- The rest of a text that starts with a line break. -/
def afterBreak? : List Char → Option (List Char)
  | '\n' :: rest => some rest
  | '\r' :: '\n' :: rest => some rest
  | _ => none

/-- A text without the comment it starts with, if any. -/
def skipComment (s : List Char) : List Char :=
  match s with
  | '#' :: rest => rest.dropWhile isPlain
  | _ => s

/-- The rest of a text whose current line has nothing more to say. -/
def readLineEnd? (s : List Char) : Option (List Char) :=
  match skipComment (skipBlanks s) with
  | [] => some []
  | rest => afterBreak? rest

/-- A text without the blanks, line breaks and comments it starts with. `inComment` says that it
starts inside a comment. -/
def skipLines (inComment : Bool) : List Char → List Char
  | [] => []
  | '\n' :: rest => skipLines false rest
  | '\r' :: '\n' :: rest => skipLines false rest
  | c :: rest =>
    if inComment && isPlain c then skipLines true rest
    else if isBlank c && !inComment then skipLines false rest
    else if c = '#' && !inComment then skipLines true rest
    else c :: rest

end VpnClient.Toml
