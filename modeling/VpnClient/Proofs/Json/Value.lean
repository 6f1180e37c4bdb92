import VpnClient.Json.Writer

/-!
# The JSON value of a document value

JSON has no number for the infinities and for what is no number, and has `null` in their place.
That is all that document data loses when it becomes a JSON value.  The text of a value is another
matter: a number that is read from its digits may be a neighbour of the one they were written for.

## Main Definitions

* `Json.value` — the JSON value of a document value
* `Json.IsValue` — document data that JSON has as it is
* `Json.Plain` — document data with bounds on its depth and on its numbers, and with no name twice

## Main Statements

* `Json.write_value` — the text that is written of document data is the text of its JSON value
* `Json.floatText_eq_none_iff` — finite numbers are those that have a text
-/

namespace VpnClient

namespace Json

mutual

/-- What there is in JSON for a document value. -/
def value : Data → Data
  | .float x => if x.isFinite then .float x else .null
  | .list items => .list (valueItems items)
  | .record members => .record (valueMembers members)
  | d => d

/-- What there is in JSON for the items of a list. -/
def valueItems : List Data → List Data
  | [] => []
  | d :: rest => value d :: valueItems rest

/-- What there is in JSON for the members of a record. -/
def valueMembers : List (String × Data) → List (String × Data)
  | [] => []
  | (name, d) :: rest => (name, value d) :: valueMembers rest

end

/-! ## Numbers -/

theorem isFinite_eq (x : Float) : x.isFinite = !(x.isNaN || x.isInf) := by
  simp only [Float.isFinite, Float.isNaN, Float.isInf, Float.Model.isFinite, Float.Model.isNaN,
    Float.Model.isInf]
  cases x.toModel.unpack <;> rfl

/-- A number has a text exactly if it is finite. -/
theorem floatText_eq_none_iff (x : Float) : Number.floatText x = none ↔ x.isFinite = false := by
  simp only [Number.floatText, isFinite_eq]
  cases x.isNaN || x.isInf <;> simp

/-! ## Documents -/

mutual

/-- The text that is written of document data is the text of its JSON value. -/
theorem write_value (d : Data) : write (value d) = write d := by
  cases d with
  | float x =>
      rw [value]
      split
      · rfl
      · next hinfinite =>
        have hnone := (floatText_eq_none_iff x).mpr (Bool.eq_false_iff.mpr hinfinite)
        rw [write, write, hnone, Option.getD_none]
  | list items => rw [value, write, write, writeItems_valueItems]
  | record members => rw [value, write, write, writeMembers_valueMembers]
  | _ => rfl

theorem writeItems_valueItems (items : List Data) :
    writeItems (valueItems items) = writeItems items := by
  cases items with
  | nil => rfl
  | cons d rest => rw [valueItems, writeItems, writeItems, write_value, writeItems_valueItems]

theorem writeMembers_valueMembers (members : List (String × Data)) :
    writeMembers (valueMembers members) = writeMembers members := by
  cases members with
  | nil => rfl
  | cons m rest =>
      rw [valueMembers, writeMembers, writeMembers, write_value, writeMembers_valueMembers]

end

/-! ## Values of JSON -/

/-- Document data that JSON has as it is. -/
def IsValue (d : Data) : Prop :=
  value d = d

theorem isValue_float (x : Float) : IsValue (.float x) ↔ x.isFinite = true := by
  rw [IsValue, value]
  split <;> simp [*]

theorem isValue_list (items : List Data) : IsValue (.list items) ↔ ∀ d ∈ items, IsValue d := by
  rw [IsValue, value, Data.list.injEq]
  induction items with
  | nil => simp [valueItems]
  | cons d rest ih => rw [valueItems, List.cons.injEq, ih, List.forall_mem_cons, IsValue]

theorem isValue_record (members : List (String × Data)) :
    IsValue (.record members) ↔ ∀ m ∈ members, IsValue m.2 := by
  rw [IsValue, value, Data.record.injEq]
  induction members with
  | nil => simp [valueMembers]
  | cons m rest ih =>
      rw [valueMembers, List.cons.injEq, ih, List.forall_mem_cons, IsValue, Prod.mk.injEq]
      simp

/-! ## Plain documents -/

/-- Document data that nests to some depth at most, with whole numbers of sixty-four bits, with
other numbers only if they have some property, and with names for the members of a record that
differ from each other. -/
inductive Plain (p : Float → Prop) : Nat → Data → Prop
  | null {depth : Nat} : Plain p depth .null
  | bool {depth : Nat} (b : Bool) : Plain p depth (.bool b)
  | integer {depth : Nat} {n : Int} (hlow : -(signedSize : Int) ≤ n) (hhigh : n < UInt64.size) :
      Plain p depth (.integer n)
  | float {depth : Nat} {x : Float} (h : p x) : Plain p depth (.float x)
  | text {depth : Nat} (s : String) : Plain p depth (.text s)
  | list {depth : Nat} {items : List Data} (h : ∀ d ∈ items, Plain p depth d) :
      Plain p (depth + 1) (.list items)
  | record {depth : Nat} {members : List (String × Data)} (hnames : (members.map Prod.fst).Nodup)
      (h : ∀ m ∈ members, Plain p depth m.2) : Plain p (depth + 1) (.record members)

namespace Plain

variable {p : Float → Prop} {depth : Nat}

attribute [simp] null bool text

@[simp]
theorem ofOption {α : Type} {encode : α → Data} {value? : Option α}
    (h : ∀ a ∈ value?, Plain p depth (encode a)) : Plain p depth (.ofOption encode value?) := by
  cases value? with
  | none => exact null
  | some a => exact h a rfl

@[simp]
theorem ofText? (text? : Option String) : Plain p depth (.ofText? text?) :=
  ofOption fun s _ => text s

/-- Plain data with finite numbers is a value of JSON. -/
theorem isValue {d : Data} (h : Plain (fun x => x.isFinite = true) depth d) : IsValue d := by
  induction h with
  | float h => exact (isValue_float _).mpr h
  | list _ ih => exact (isValue_list _).mpr ih
  | record _ _ ih => exact (isValue_record _).mpr ih
  | _ => rfl

end Plain

end Json

end VpnClient
