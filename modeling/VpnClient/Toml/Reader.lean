import VpnClient.Toml.Number
import VpnClient.Toml.Strings
import VpnClient.Toml.Table

/-!
# TOML text, read

A document is read in two steps: its text into expressions, which are pairs and headers, and these
into a table.

## Main Definitions

* `readValue?` — a value at the start of a text
* `Expression` — what a line of a document says
* `expressions?` — the expressions of a text
* `assemble?` — the table they build up
* `read?` — the document value of a text

## Design Notes

Values nest in lists and inline tables. The recursion over nested values is on the depth that is
still allowed, and the one over the items of a list on a count of steps that cannot be used up,
because every item takes a character.
-/

namespace VpnClient.Toml

/-! ### Keys -/

/-- Whether a character may stand in a key without quotes. -/
def isBare (c : Char) : Bool :=
  c.isAlphanum || c == '-' || c == '_'

/-- One part of a key: bare or in quotes. -/
def readKeyPart? (s : List Char) : Option (String × List Char) :=
  match s with
  | '"' :: _ => (readLine? s).map fun (cs, rest) => (String.ofList cs, rest)
  | '\'' :: _ => (readLine? s).map fun (cs, rest) => (String.ofList cs, rest)
  | _ =>
    let part := s.takeWhile isBare
    if part.isEmpty then none else some (String.ofList part, s.dropWhile isBare)

/-- The parts of a key with points between them, in at most `steps` parts, and the rest of the
text. -/
def readKeyParts? : Nat → List Char → Option (List String × List Char)
  | 0, _ => none
  | steps + 1, s => do
    let (part, rest) ← readKeyPart? (skipBlanks s)
    match skipBlanks rest with
    | '.' :: rest => do
      let (parts, rest) ← readKeyParts? steps rest
      some (part :: parts, rest)
    | rest => some ([part], rest)

/-- A key has fewer parts than this, and values nest less deep. -/
def depthLimit : Nat := 80

/-- A key as the path to a table and a name in it, with the blanks around it. -/
def readKey? (s : List Char) : Option ((List String × String) × List Char) := do
  let (parts, rest) ← readKeyParts? (depthLimit - 1) s
  let name ← parts.getLast?
  some ((parts.dropLast, name), rest)

/-! ### Values -/

/-- A value that holds no other values. -/
def readScalar? (s : List Char) : Option (Data × List Char) :=
  match s with
  | [] => none
  | 't' :: 'r' :: 'u' :: 'e' :: rest => some (.bool true, rest)
  | 'f' :: 'a' :: 'l' :: 's' :: 'e' :: rest => some (.bool false, rest)
  | c :: _ =>
    if c = '"' ∨ c = '\'' then
      (readString? s).map fun (cs, rest) => (.text (String.ofList cs), rest)
    else (readDate? s).or ((readFloat? s).or (readInteger? s))

/-- The items of a list after its opening bracket, with the closing one. -/
def readItems? (readItem? : List Char → Option (Data × List Char)) :
    Nat → List Char → Option (List Data × List Char)
  | 0, _ => none
  | steps + 1, s =>
    match skipLines false s with
    | ']' :: rest => some ([], rest)
    | s => do
      let (item, rest) ← readItem? s
      match skipLines false rest with
      | ',' :: rest => do
        let (items, rest) ← readItems? readItem? steps rest
        some (item :: items, rest)
      | ']' :: rest => some ([item], rest)
      | _ => none

/-- A key with its value, and the rest of the text. -/
def readPair? (readItem? : List Char → Option (Data × List Char)) (s : List Char) :
    Option (((List String × String) × Data) × List Char) := do
  let (key, rest) ← readKey? s
  match rest with
  | '=' :: rest => do
    let (value, rest) ← readItem? (skipBlanks rest)
    some ((key, value), rest)
  | _ => none

/-- The pairs of an inline table up to its closing brace, added to those before. -/
def readMembers? (readItem? : List Char → Option (Data × List Char)) (members : Members) :
    Nat → List Char → Option (Members × List Char)
  | 0, _ => none
  | steps + 1, s => do
    let (((path, name), value), rest) ← readPair? readItem? s
    let members ← insertPair? path name value members
    match skipBlanks rest with
    | ',' :: rest => readMembers? readItem? members steps rest
    | '\x7d' :: rest => some (members, rest)
    | _ => none

/-- A value in which lists and tables nest at most `depth` deep, and the rest of the text. -/
def readValue? : Nat → List Char → Option (Data × List Char)
  | 0, s => readScalar? s
  | depth + 1, s =>
    match s with
    | '[' :: rest =>
      (readItems? (readValue? depth) (rest.length + 1) rest).map fun (items, rest) =>
        (.list items, rest)
    | '\x7b' :: rest =>
      match skipBlanks rest with
      | '\x7d' :: rest => some (.record [], rest)
      | rest =>
        (readMembers? (readValue? depth) [] (rest.length + 1) rest).map fun (members, rest) =>
          (.record (membersToData members), rest)
    | s => readScalar? s

/-! ### Documents -/

/-- What a line of a document says: the value of a key, or which table the next ones are in. -/
inductive Expression where
  | pair (path : List String) (name : String) (value : Data)
  | table (path : List String) (name : String)
  | element (path : List String) (name : String)

/-- A line that is not blank, up to its end. -/
def readExpression? (s : List Char) : Option (Expression × List Char) :=
  match s with
  | '[' :: '[' :: rest => do
    let ((path, name), rest) ← readKey? rest
    match rest with
    | ']' :: ']' :: rest => (readLineEnd? rest).map fun rest => (.element path name, rest)
    | _ => none
  | '[' :: rest => do
    let ((path, name), rest) ← readKey? rest
    match rest with
    | ']' :: rest => (readLineEnd? rest).map fun rest => (.table path name, rest)
    | _ => none
  | s => do
    let (((path, name), value), rest) ← readPair? (readValue? (depthLimit - 1)) s
    (readLineEnd? rest).map fun rest => (.pair path name value, rest)

/-- The expressions of a text, in at most `steps` lines. -/
def readExpressions? : Nat → List Char → Option (List Expression)
  | 0, _ => none
  | steps + 1, s =>
    match skipBlanks s with
    | [] => some []
    | c :: rest =>
      if c = '#' ∨ c = '\n' ∨ c = '\r' then
        (readLineEnd? (c :: rest)).bind (readExpressions? steps)
      else do
        let (first, rest) ← readExpression? (c :: rest)
        let others ← readExpressions? steps rest
        some (first :: others)

/-- The expressions of a text. A byte order mark in front of it does not count. -/
def expressions? (s : List Char) : Option (List Expression) :=
  match s with
  | '\ufeff' :: s => readExpressions? (s.length + 1) s
  | s => readExpressions? (s.length + 1) s

/-- A document to which expressions are added; `opened` is the table that the last header has
opened. -/
def assembleFrom? (opened : Option (List String × String)) (members : Members) :
    List Expression → Option Members
  | [] => some members
  | .pair path name value :: rest => do
    let members ← match opened with
      | none => insertPair? path name value members
      | some (tablePath, table) =>
        changeOpened? (insertPair? path name value) tablePath table members
    assembleFrom? opened members rest
  | .table path name :: rest => do
    let members ← openTable? path name members
    assembleFrom? (some (path, name)) members rest
  | .element path name :: rest => do
    let members ← openElement? path name members
    assembleFrom? (some (path, name)) members rest

/-- The table that expressions build up. -/
def assemble? (expressions : List Expression) : Option Data :=
  (assembleFrom? none [] expressions).map fun members => .record (membersToData members)

/-- The document value of a text. -/
def read? (text : String) : Option Data :=
  (expressions? text.toList).bind assemble?

end VpnClient.Toml
