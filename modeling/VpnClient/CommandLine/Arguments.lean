import VpnClient.Text.Split

/-!
# Arguments

The words that follow the name of a command: flags, which start with two dashes, and values.

## Main Definitions

* `Arguments` — the flags and the values among some words
* `Arguments.ofWords?` — how words are told apart

## Design Notes

Two dashes on their own end the flags: whatever follows is a value. A single dash on its own is a
value, too, but there are no flags with a single dash.
-/

namespace VpnClient

/-- The flags among some words, without their dashes, and the values. -/
structure Arguments where
  flags : List String
  values : List String
  deriving DecidableEq, Repr

/-- What a word can be. -/
inductive Word where
  | escape
  | flag (name : String)
  | value (text : String)
  | unknown
  deriving DecidableEq, Repr

/-- What a word is. -/
def Word.ofText (text : String) : Word :=
  match text.toList with
  | ['-'] => value text
  | ['-', '-'] => escape
  | '-' :: '-' :: name => flag (String.ofList name)
  | '-' :: _ => unknown
  | _ => value text

namespace Arguments

/-- The arguments with one more flag in front. -/
def withFlag (arguments : Arguments) (name : String) : Arguments :=
  { arguments with flags := name :: arguments.flags }

/-- The arguments with one more value in front. -/
def withValue (arguments : Arguments) (text : String) : Arguments :=
  { arguments with values := text :: arguments.values }

/-- The arguments among some words. -/
def ofWords? : List String → Option Arguments
  | [] => some ⟨[], []⟩
  | text :: rest =>
    match Word.ofText text with
    | .escape => some ⟨[], rest⟩
    | .flag name => (ofWords? rest).map fun arguments => arguments.withFlag name
    | .value text => (ofWords? rest).map fun arguments => arguments.withValue text
    | .unknown => none

/-- The values among some words that hold no flags. -/
def onlyValues? (words : List String) : Option (List String) :=
  match ofWords? words with
  | some ⟨[], values⟩ => some values
  | _ => none

end Arguments

end VpnClient
