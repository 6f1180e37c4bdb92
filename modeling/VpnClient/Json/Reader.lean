import VpnClient.Json.Number

/-!
# JSON text, read

## Main Definitions

* `read?` — the document value a JSON text stands for

## Design Notes

A reader takes a text and gives a value and the rest of the text. The recursion is on a count of
steps that is never used up, since each step takes a character; the nesting of values has a limit
of its own. Of members with one name the last one stands.
-/

namespace VpnClient.Json

open Text (digitValue?)

/-- Values nest this deep at most. -/
def depthLimit : Nat := 127

/-- A text without the JSON white space it starts with. -/
def skipSpace (s : List Char) : List Char :=
  s.dropWhile fun c => c == ' ' || c == '\t' || c == '\n' || c == '\r'

/-- The value of four hexadecimal digits. -/
def readHex4? (a b c d : Char) : Option Nat := do
  let a ← digitValue? 16 a
  let b ← digitValue? 16 b
  let c ← digitValue? 16 c
  let d ← digitValue? 16 d
  some (((a * 16 + b) * 16 + c) * 16 + d)

/-- The character behind a backslash, for the escapes of one letter. -/
def simpleEscape? : Char → Option Char
  | '"' => some '"'
  | '\\' => some '\\'
  | '/' => some '/'
  | 'b' => some '\x08'
  | 'f' => some '\x0c'
  | 'n' => some '\n'
  | 'r' => some '\r'
  | 't' => some '\t'
  | _ => none

/-- The rest of a string whose opening quote has been read. A code unit of a surrogate pair is
written with its partner. -/
def readString? : List Char → Option (List Char × List Char)
  | [] => none
  | '"' :: rest => some ([], rest)
  | '\\' :: 'u' :: a :: b :: c :: d :: '\\' :: 'u' :: a' :: b' :: c' :: d' :: rest => do
    let unit ← readHex4? a b c d
    if 0xd800 ≤ unit ∧ unit < 0xdc00 then
      let low ← readHex4? a' b' c' d'
      if 0xdc00 ≤ low ∧ low < 0xe000 then
        let (cs, rest) ← readString? rest
        some (Char.ofNat (0x10000 + (unit - 0xd800) * 0x400 + (low - 0xdc00)) :: cs, rest)
      else none
    else if 0xdc00 ≤ unit ∧ unit < 0xe000 then none
    else
      let (cs, rest) ← readString? ('\\' :: 'u' :: a' :: b' :: c' :: d' :: rest)
      some (Char.ofNat unit :: cs, rest)
  | '\\' :: 'u' :: a :: b :: c :: d :: rest => do
    let unit ← readHex4? a b c d
    if 0xd800 ≤ unit ∧ unit < 0xe000 then none
    else
      let (cs, rest) ← readString? rest
      some (Char.ofNat unit :: cs, rest)
  | '\\' :: c :: rest => do
    let c ← simpleEscape? c
    let (cs, rest) ← readString? rest
    some (c :: cs, rest)
  | c :: rest =>
    if c.toNat < 0x20 || c == '\\' then none
    else do
      let (cs, rest) ← readString? rest
      some (c :: cs, rest)

/-- Members in order, the last one of each name. -/
def lastOfEach (members : List (String × Data)) : List (String × Data) :=
  members.foldr (fun m kept => if kept.any fun k => k.1 == m.1 then kept else m :: kept) []

mutual

/-- A value at the start of a text, white space in front of it included. -/
def readValue? (depth : Nat) : Nat → List Char → Option (Data × List Char)
  | 0, _ => none
  | steps + 1, s =>
    match skipSpace s with
    | 'n' :: 'u' :: 'l' :: 'l' :: rest => some (.null, rest)
    | 't' :: 'r' :: 'u' :: 'e' :: rest => some (.bool true, rest)
    | 'f' :: 'a' :: 'l' :: 's' :: 'e' :: rest => some (.bool false, rest)
    | '"' :: rest => do
      let (cs, rest) ← readString? rest
      some (.text (String.ofList cs), rest)
    | '[' :: rest =>
      if depth = 0 then none
      else match skipSpace rest with
        | ']' :: rest => some (.list [], rest)
        | rest => do
          let (items, rest) ← readItems? (depth - 1) steps rest
          some (.list items, rest)
    | '\x7b' :: rest =>
      if depth = 0 then none
      else match skipSpace rest with
        | '\x7d' :: rest => some (.record [], rest)
        | rest => do
          let (members, rest) ← readMembers? (depth - 1) steps rest
          some (.record (lastOfEach members), rest)
    | rest => readNumber? rest

/-- The items of a list up to its closing bracket. -/
def readItems? (depth : Nat) : Nat → List Char → Option (List Data × List Char)
  | 0, _ => none
  | steps + 1, s => do
    let (item, rest) ← readValue? depth steps s
    match skipSpace rest with
    | ',' :: rest =>
      let (items, rest) ← readItems? depth steps rest
      some (item :: items, rest)
    | ']' :: rest => some ([item], rest)
    | _ => none

/-- The members of a record up to its closing brace. -/
def readMembers? (depth : Nat) : Nat → List Char → Option (List (String × Data) × List Char)
  | 0, _ => none
  | steps + 1, s =>
    match skipSpace s with
    | '"' :: rest => do
      let (name, rest) ← readString? rest
      match skipSpace rest with
      | ':' :: rest =>
        let (value, rest) ← readValue? depth steps rest
        match skipSpace rest with
        | ',' :: rest =>
          let (members, rest) ← readMembers? depth steps rest
          some ((String.ofList name, value) :: members, rest)
        | '\x7d' :: rest => some ([(String.ofList name, value)], rest)
        | _ => none
      | _ => none
    | _ => none

end

/-- The document value a JSON text stands for, when it is one value and nothing else. -/
def read? (text : String) : Option Data :=
  let s := text.toList
  match readValue? depthLimit (2 * s.length + 2) s with
  | some (d, rest) => if (skipSpace rest).isEmpty then some d else none
  | none => none

end VpnClient.Json
