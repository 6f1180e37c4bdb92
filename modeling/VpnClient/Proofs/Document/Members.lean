import VpnClient.Data

/-!
# Members of a record are decoded

What a decoder gets for a member that a record has, and for the tag of a tagged one.

## Main Statements

* `Data.Members.required_of_lookup`, `Data.Members.defaulted_of_lookup`,
  `Data.Members.optional_of_lookup` — a member is what its value is decoded to
* `Data.tagged?_record` — the tag is taken off the other members
-/

namespace VpnClient

namespace Data

variable {α : Type} {decode : Data → Option α} {encode : α → Data}

theorem text_ne_null (s : String) : text s ≠ .null := Data.noConfusion

theorem record_ne_null (members : List (String × Data)) : record members ≠ .null :=
  Data.noConfusion

/-- An optional value is decoded as its value is, if that is not written like an absent one. -/
theorem orNull?_ofOption (value? : Option α) (hnull : ∀ a, encode a ≠ .null)
    (hdecode : ∀ a, decode (encode a) = some a) :
    orNull? decode (ofOption encode value?) = some value? := by
  cases value? with
  | none => rfl
  | some a =>
      rw [ofOption, orNull?, hdecode, Option.map_some]
      exact hnull a

/-- The tag of a record is taken off its other members. -/
theorem tagged?_record {tag name : String} {members : List (String × Data)}
    (h : members.lookup tag = none) :
    tagged? tag (.record ((tag, .text name) :: members)) = some (name, .named members) := by
  have hothers : members.filter (fun m => m.1 != tag) = members := by
    rw [List.filter_eq_self]
    intro m hm
    have hne : tag ≠ m.1 := bne_iff_ne.mp (List.lookup_eq_none_iff.mp h m hm)
    exact bne_iff_ne.mpr hne.symm
  rw [tagged?, List.lookup_cons_self, List.filter_cons_of_neg (by simp), hothers]
  rfl

namespace Members

variable {members : List (String × Data)} {name : String} {d : Data} {a : α} {position : Nat}

/-- A member of a record is what its value is decoded to. -/
theorem required_of_lookup (hlookup : members.lookup name = some d) (hdecode : decode d = some a) :
    (named members).required position name decode = some a := by
  rw [required, get?, hlookup, Option.bind_some, hdecode]

theorem defaulted_of_lookup {value : α} (hlookup : members.lookup name = some d)
    (hdecode : decode d = some a) :
    (named members).defaulted position name value decode = some a := by
  rw [defaulted, get?, hlookup]
  exact hdecode

theorem optional_of_lookup (encode : α → Data) (value? : Option α)
    (hlookup : members.lookup name = some (ofOption encode value?)) (hnull : ∀ a, encode a ≠ .null)
    (hdecode : ∀ a, decode (encode a) = some a) :
    (named members).optional position name decode = some value? :=
  defaulted_of_lookup hlookup (orNull?_ofOption value? hnull hdecode)

/-- A text may be left out. -/
theorem optionalText_of_lookup (value? : Option String)
    (hlookup : members.lookup name = some (ofText? value?)) :
    (named members).optional position name text? = some value? :=
  optional_of_lookup .text value? hlookup text_ne_null fun _ => rfl

end Members

end Data

end VpnClient
