import VpnClient.Data
import VpnClient.Number.Shortest

/-!
# JSON text, written

Document data in JSON, without white space between tokens.

## Main Definitions

* `quote` — a text as a JSON string
* `write` — a document value as JSON text

## Design Notes

Infinities and what is no number have no JSON form; they are written as `null`.
-/

namespace VpnClient.Json

open Text (numeral padLeft)

/-- How a character stands inside a string. -/
def escape (c : Char) : List Char :=
  match c with
  | '"' => ['\\', '"']
  | '\\' => ['\\', '\\']
  | '\n' => ['\\', 'n']
  | '\r' => ['\\', 'r']
  | '\t' => ['\\', 't']
  | '\x08' => ['\\', 'b']
  | '\x0c' => ['\\', 'f']
  | _ =>
    if c.toNat < 0x20 then '\\' :: 'u' :: padLeft '0' 4 (numeral 16 c.toNat) else [c]

/-- A text between double quotes. -/
def quote (s : String) : String :=
  String.ofList ('"' :: s.toList.flatMap escape ++ ['"'])

mutual

/-- A document value as JSON text. -/
def write : Data → String
  | .null => "null"
  | .bool b => if b then "true" else "false"
  | .integer n => Text.signedDecimal n
  | .float x => (Number.floatText x).getD "null"
  | .text s => quote s
  | .list items => "[" ++ String.intercalate "," (writeItems items) ++ "]"
  | .record members => "\x7b" ++ String.intercalate "," (writeMembers members) ++ "\x7d"

/-- The items of a list, each as JSON text. -/
def writeItems : List Data → List String
  | [] => []
  | d :: rest => write d :: writeItems rest

/-- The members of a record, each with its name in front. -/
def writeMembers : List (String × Data) → List String
  | [] => []
  | (name, d) :: rest => (quote name ++ ":" ++ write d) :: writeMembers rest

end

/-! ### Order of members -/

mutual

/-- A document value whose records have their members in the order of their names. -/
def ordered : Data → Data
  | .list items => .list (orderedItems items)
  | .record members =>
    .record ((orderedMembers members).mergeSort fun a b => decide (a.1 ≤ b.1))
  | d => d

/-- The items of a list, each with its members in order. -/
def orderedItems : List Data → List Data
  | [] => []
  | d :: rest => ordered d :: orderedItems rest

/-- The members of a record, the value of each with its members in order. -/
def orderedMembers : List (String × Data) → List (String × Data)
  | [] => []
  | (name, d) :: rest => (name, ordered d) :: orderedMembers rest

end

end VpnClient.Json
