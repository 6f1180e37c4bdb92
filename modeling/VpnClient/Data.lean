/-!
# Document data

The values that a written document can hold, whatever the notation it is written in. The JSON and
TOML readers end here, the JSON writer starts here, and every type of the library that has a
document form is encoded to and decoded from this type.

## Main Definitions

* `Data` — a document value
* `Data.Members` — the members of a structure, given by name or by position
* `Members.required`, `Members.defaulted`, `Members.optional` — reading one member

## Design Notes

A structure may be written as a record, whose unknown members are ignored, or as a list of its
members in the order of their declaration, of which the last ones may be missing where they have
a default. `Members` hides the difference, so that a decoder names each member once, with its
position.

Decoding has one failure, `none`: no reader of this program tells its user which part of a
document it could not use.
-/

namespace VpnClient

/-- Signed numbers of sixty-four bits lie below this one, and none lies below its negative. -/
abbrev signedSize : Nat := 0x8000000000000000

/-- A value of a written document. -/
inductive Data where
  | null
  | bool (value : Bool)
  | integer (value : Int)
  | float (value : Float)
  | text (value : String)
  | list (items : List Data)
  | record (members : List (String × Data))
  deriving Inhabited

namespace Data

/-! ### Scalars -/

/-- The truth value written, if that is what the document holds. -/
def bool? : Data → Option Bool
  | .bool b => some b
  | _ => none

/-- The text written, if that is what the document holds. -/
def text? : Data → Option String
  | .text s => some s
  | _ => none

/-- A number without sign, below a bound. A number written with a point is not whole. -/
def natBelow? (bound : Nat) : Data → Option Nat
  | .integer n => if 0 ≤ n ∧ n < bound then some n.toNat else none
  | _ => none

/-- A number without sign of thirty-two bits. -/
def word32? : Data → Option Nat :=
  natBelow? UInt32.size

/-- A number without sign of sixty-four bits. -/
def word64? : Data → Option Nat :=
  natBelow? UInt64.size

/-- A signed number of sixty-four bits. -/
def signed64? : Data → Option Int
  | .integer n => if -(signedSize : Int) ≤ n ∧ n < signedSize then some n else none
  | _ => none

/-- The floating point number nearest to a whole number of at most sixty-four bits. -/
def floatOfInt (n : Int) : Float :=
  if n < 0 then -(UInt64.ofNat n.natAbs).toFloat else (UInt64.ofNat n.toNat).toFloat

/-- A number with a fraction; whole numbers are welcome too. -/
def float? : Data → Option Float
  | .float x => some x
  | .integer n => some (floatOfInt n)
  | _ => none

/-- A value decoded from text. -/
def parsed? {α : Type} (parse : List Char → Option α) : Data → Option α
  | .text s => parse s.toList
  | _ => none

/-- A list, each item decoded alike. -/
def listOf? {α : Type} (decode : Data → Option α) : Data → Option (List α)
  | .list items => items.mapM decode
  | _ => none

/-- A value that may be absent: `null` stands for none. -/
def orNull? {α : Type} (decode : Data → Option α) : Data → Option (Option α)
  | .null => some none
  | d => (decode d).map some

/-- The name of one of several bare alternatives: the name itself, or a record whose only member
has that name and nothing to say. -/
def choice? : Data → Option String
  | .text s => some s
  | .record [(name, .null)] => some name
  | .record [(name, .record [])] => some name
  | _ => none

/-- An optional value, `null` for none. -/
def ofOption {α : Type} (encode : α → Data) : Option α → Data
  | none => .null
  | some a => encode a

/-- An optional text, `null` for none. -/
def ofText? : Option String → Data :=
  ofOption .text

/-! ### Structures -/

/-- The members of a structure as a document gives them. -/
inductive Members where
  | named (members : List (String × Data))
  | listed (items : List Data)

/-- Whether members beyond the last one of the structure are tolerated in a list. -/
inductive Surplus where
  | refused
  | ignored
  deriving DecidableEq

/-- A document value as the members of a structure with `arity` members. -/
def members? (surplus : Surplus) (arity : Nat) : Data → Option Members
  | .record ms => some (.named ms)
  | .list items =>
    if surplus = .refused ∧ arity < items.length then none else some (.listed items)
  | _ => none

/-- A value of a tagged type: its tag, and its other members. In a list the tag comes first. -/
def tagged? (tag : String) : Data → Option (String × Members)
  | .record ms => do
    let name ← (ms.lookup tag).bind text?
    some (name, .named (ms.filter fun m => m.1 != tag))
  | .list (t :: items) => (text? t).map fun name => (name, .listed items)
  | _ => none

namespace Members

/-- The number of members is one that a structure of `arity` members can have. -/
def fits (arity : Nat) : Members → Bool
  | .named _ => true
  | .listed items => items.length ≤ arity

/-- What stands for a member. -/
def get? (position : Nat) (name : String) : Members → Option Data
  | .named ms => ms.lookup name
  | .listed items => items[position]?

/-- A member that has to be there. -/
def required {α : Type} (m : Members) (position : Nat) (name : String)
    (decode : Data → Option α) : Option α :=
  (m.get? position name).bind decode

/-- A member with a value of its own when it is left out. -/
def defaulted {α : Type} (m : Members) (position : Nat) (name : String) (value : α)
    (decode : Data → Option α) : Option α :=
  match m.get? position name with
  | none => some value
  | some d => decode d

/-- A member that may be left out or `null`. -/
def optional {α : Type} (m : Members) (position : Nat) (name : String)
    (decode : Data → Option α) : Option (Option α) :=
  m.defaulted position name none (orNull? decode)

/-- A member that may be left out or `null` in a record, but has its place in a list. -/
def placed {α : Type} (m : Members) (position : Nat) (name : String)
    (decode : Data → Option α) : Option (Option α) :=
  match m with
  | .named _ => m.optional position name decode
  | .listed _ => m.required position name (orNull? decode)

/-- Whether every member that is given by name is one of these. -/
def onlyNamed (names : List String) : Members → Bool
  | .named ms => ms.all fun m => names.contains m.1
  | .listed _ => true

end Members

end Data

end VpnClient
