import VpnClient.Proofs.Json.Token
import VpnClient.Proofs.Json.Value

/-!
# JSON text is read back

The text that is written of plain document data is read as that data, if all its numbers with a
fraction are read back from their digits.

## Main Definitions

* `Json.IsRead` — data that is read from its text inside any other

## Main Statements

* `Json.read?_write` — plain data is read back from its text

## Implementation Notes

A reader goes on behind the value it has read, so its lemmas are about a text with any rest that
can stand there.  The steps that it has left are counted against the length of the text.
-/

namespace VpnClient

namespace Json

variable {depth steps : Nat} {d : Data} {items : List Data} {members : List (String × Data)}
  {s rest : List Char}

/-! ## White space -/

/-- Whether a character is white space between the tokens of JSON. -/
def isSpace (c : Char) : Bool :=
  c == ' ' || c == '\t' || c == '\n' || c == '\r'

theorem skipSpace_cons {c : Char} (h : isSpace c = false) (s : List Char) :
    skipSpace (c :: s) = c :: s :=
  List.dropWhile_cons_of_neg (Bool.eq_false_iff.mp h)

theorem BeginsNumber.isSpace {c : Char} (h : BeginsNumber c) : isSpace c = false := by
  have hblank : c ≠ ' ' := h.ne (by decide) (by decide)
  have htab : c ≠ '\t' := h.ne (by decide) (by decide)
  have hnewline : c ≠ '\n' := h.ne (by decide) (by decide)
  have hreturn : c ≠ '\r' := h.ne (by decide) (by decide)
  simp [Json.isSpace, hblank, htab, hnewline, hreturn]

/-- What a number begins with begins nothing else. -/
theorem readValue?_number {c : Char} (h : BeginsNumber c) (s : List Char) :
    readValue? depth (steps + 1) (c :: s) = readNumber? (c :: s) := by
  rw [readValue?, skipSpace_cons h.isSpace]
  split
  case h_7 => rfl
  all_goals
    next heq => exact absurd (List.cons.inj heq).1 (h.ne (by decide) (by decide))

/-! ## Texts -/

theorem toList_quote_append (s : String) (rest : List Char) :
    (quote s).toList ++ rest = '"' :: (s.toList.flatMap escape ++ '"' :: rest) := by
  simp [quote]

/-- The items of a list between its brackets. -/
def itemsText (items : List Data) : List Char :=
  (String.intercalate "," (writeItems items)).toList

/-- The members of a record between its braces. -/
def membersText (members : List (String × Data)) : List Char :=
  (String.intercalate "," (writeMembers members)).toList

theorem toList_write_list (items : List Data) :
    (write (.list items)).toList = '[' :: itemsText items ++ [']'] := by
  simp [write, itemsText]

theorem toList_write_record (members : List (String × Data)) :
    (write (.record members)).toList = '\x7b' :: membersText members ++ ['\x7d'] := by
  simp [write, membersText]

theorem itemsText_singleton (d : Data) : itemsText [d] = (write d).toList := by
  simp [itemsText, writeItems]

theorem itemsText_cons_cons (d e : Data) (items : List Data) :
    itemsText (d :: e :: items) = (write d).toList ++ ',' :: itemsText (e :: items) := by
  simp only [itemsText, writeItems, String.intercalate_cons_cons]
  simp

theorem membersText_singleton (name : String) (d : Data) :
    membersText [(name, d)] = (quote name).toList ++ ':' :: (write d).toList := by
  simp [membersText, writeMembers]

theorem membersText_cons_cons (name : String) (d : Data) (m : String × Data)
    (members : List (String × Data)) : membersText ((name, d) :: m :: members) =
      (quote name).toList ++ ':' :: (write d).toList ++ ',' :: membersText (m :: members) := by
  simp only [membersText, writeMembers, String.intercalate_cons_cons]
  simp

/-- A text that begins with no white space, and not like the end of a list. -/
def BeginsValue (s : List Char) : Prop :=
  ∃ c t, s = c :: t ∧ isSpace c = false ∧ c ≠ ']'

theorem beginsValue_of_number {t : List Char} (h : readNumber? s = some (d, t)) :
    BeginsValue s := by
  obtain ⟨c, t, hs, hc⟩ := beginsNumber_of_readNumber? h
  exact ⟨c, t, hs, hc.isSpace, hc.ne (by decide) (by decide)⟩

theorem Plain.beginsValue (h : Plain (isReadBack · = true) depth d) :
    BeginsValue (write d).toList := by
  cases h with
  | null => exact ⟨'n', _, rfl, by decide, by decide⟩
  | bool b =>
      cases b
      · exact ⟨'f', _, rfl, by decide, by decide⟩
      · exact ⟨'t', _, rfl, by decide, by decide⟩
  | integer hlow hhigh => exact beginsValue_of_number (readNumber?_signedDecimal hlow hhigh)
  | float h => exact beginsValue_of_number (readNumber?_of_isReadBack h)
  | text s =>
      refine ⟨'"', s.toList.flatMap escape ++ ['"'], ?_, by decide, by decide⟩
      rw [write, ← List.append_nil (quote s).toList, toList_quote_append]
  | list h => exact ⟨'[', _, toList_write_list _, by decide, by decide⟩
  | record hnames h => exact ⟨'\x7b', _, toList_write_record _, by decide, by decide⟩

theorem beginsValue_itemsText (h : BeginsValue (write d).toList) (items : List Data) :
    BeginsValue (itemsText (d :: items)) := by
  obtain ⟨c, t, hd, hc⟩ := h
  cases items with
  | nil => exact ⟨c, t, by rw [itemsText_singleton, hd], hc⟩
  | cons e items => exact ⟨c, _, by rw [itemsText_cons_cons, hd, List.cons_append], hc⟩

theorem membersText_begins (m : String × Data) (members : List (String × Data)) :
    ∃ s, membersText (m :: members) = '"' :: s := by
  cases members with
  | nil => exact ⟨_, by rw [membersText_singleton, toList_quote_append]⟩
  | cons m' members =>
      exact ⟨_, by rw [membersText_cons_cons, List.append_assoc, toList_quote_append]⟩

/-! ## Reading -/

/-- The value is read from its text, whatever stands behind it. -/
def IsRead (depth : Nat) (d : Data) : Prop :=
  ∀ steps rest, EndsNumber rest → (write d).toList.length ≤ steps →
    readValue? depth steps ((write d).toList ++ rest) = some (d, rest)

theorem endsNumber_mark {c : Char} (h : c = ',' ∨ c = ']' ∨ c = '\x7d') (s : List Char) :
    EndsNumber (c :: s) := by
  rcases h with rfl | rfl | rfl <;> exact endsNumber_cons (by decide) s

/-! ### One step

What one call of a reader does with the text of an item, of a member, of a list and of a record.
-/

section Steps

variable {name : String} {t : List Char}

theorem readItems?_last (h : readValue? depth steps s = some (d, ']' :: rest)) :
    readItems? depth (steps + 1) s = some ([d], rest) := by
  rw [readItems?, h]
  rfl

theorem readItems?_next (h : readValue? depth steps s = some (d, ',' :: t))
    (hnext : readItems? depth steps t = some (items, rest)) :
    readItems? depth (steps + 1) s = some (d :: items, rest) := by
  rw [readItems?, h, Option.bind_eq_bind, Option.bind_some]
  simp only [skipSpace_cons (by decide : isSpace ',' = false), hnext, Option.bind_eq_bind,
    Option.bind_some]

theorem readMembers?_last (hname : readString? s = some (name.toList, ':' :: t))
    (h : readValue? depth steps t = some (d, '\x7d' :: rest)) :
    readMembers? depth (steps + 1) ('"' :: s) = some ([(name, d)], rest) := by
  rw [readMembers?, skipSpace_cons (by decide)]
  simp only [hname, Option.bind_eq_bind, Option.bind_some, String.ofList_toList,
    skipSpace_cons (by decide : isSpace ':' = false), h,
    skipSpace_cons (by decide : isSpace '\x7d' = false)]

theorem readMembers?_next (hname : readString? s = some (name.toList, ':' :: t))
    {u : List Char} (h : readValue? depth steps t = some (d, ',' :: u))
    (hnext : readMembers? depth steps u = some (members, rest)) :
    readMembers? depth (steps + 1) ('"' :: s) = some ((name, d) :: members, rest) := by
  rw [readMembers?, skipSpace_cons (by decide)]
  simp only [hname, Option.bind_eq_bind, Option.bind_some, String.ofList_toList,
    skipSpace_cons (by decide : isSpace ':' = false), h,
    skipSpace_cons (by decide : isSpace ',' = false), hnext]

theorem readValue?_list {c : Char} (hspace : isSpace c = false) (hc : c ≠ ']')
    (h : readItems? depth steps (c :: s) = some (items, rest)) :
    readValue? (depth + 1) (steps + 1) ('[' :: c :: s) = some (.list items, rest) := by
  rw [readValue?, skipSpace_cons (by decide)]
  simp only [Nat.add_one_ne_zero, if_false, Nat.add_sub_cancel, skipSpace_cons hspace]
  split
  · next heq => exact absurd (List.cons.inj heq).1 hc
  · rw [h, Option.bind_eq_bind, Option.bind_some]

theorem readValue?_record (h : readMembers? depth steps ('"' :: s) = some (members, rest)) :
    readValue? (depth + 1) (steps + 1) ('\x7b' :: '"' :: s) =
      some (.record (lastOfEach members), rest) := by
  rw [readValue?, skipSpace_cons (by decide)]
  simp only [Nat.add_one_ne_zero, if_false, Nat.add_sub_cancel,
    skipSpace_cons (by decide : isSpace '"' = false)]
  split
  · next heq => exact absurd (List.cons.inj heq).1 (by decide)
  · rw [h, Option.bind_eq_bind, Option.bind_some]

end Steps

/-! ### Lists and records -/

/-- The items of a list are read up to the bracket that closes it. -/
theorem readItems?_itemsText (hne : items ≠ []) (hread : ∀ d ∈ items, IsRead depth d)
    (hsteps : (itemsText items).length < steps) (rest : List Char) :
    readItems? depth steps (itemsText items ++ ']' :: rest) = some (items, rest) := by
  induction items generalizing steps with
  | nil => exact absurd rfl hne
  | cons d items ih =>
      have hd := hread d List.mem_cons_self
      obtain ⟨steps, rfl⟩ := Nat.exists_eq_succ_of_ne_zero (Nat.ne_zero_of_lt hsteps)
      cases items with
      | nil =>
          rw [itemsText_singleton] at hsteps ⊢
          exact readItems?_last (hd steps _ (endsNumber_mark (by simp) rest) (by omega))
      | cons e items =>
          rw [itemsText_cons_cons, List.length_append, List.length_cons] at hsteps
          have hitems := ih (List.cons_ne_nil e items)
            (fun d' hmem => hread d' (List.mem_cons_of_mem d hmem))
            (by omega : (itemsText (e :: items)).length < steps)
          rw [itemsText_cons_cons, List.append_assoc, List.cons_append]
          exact readItems?_next (hd steps _ (endsNumber_mark (by simp) _) (by omega)) hitems

/-- The members of a record are read up to the brace that closes it. -/
theorem readMembers?_membersText (hne : members ≠ [])
    (hread : ∀ m ∈ members, IsRead depth m.2) (hsteps : (membersText members).length < steps)
    (rest : List Char) :
    readMembers? depth steps (membersText members ++ '\x7d' :: rest) = some (members, rest) := by
  induction members generalizing steps with
  | nil => exact absurd rfl hne
  | cons m members ih =>
      obtain ⟨name, d⟩ := m
      have hd : IsRead depth d := hread (name, d) List.mem_cons_self
      obtain ⟨steps, rfl⟩ := Nat.exists_eq_succ_of_ne_zero (Nat.ne_zero_of_lt hsteps)
      cases members with
      | nil =>
          rw [membersText_singleton, List.length_append, List.length_cons] at hsteps
          rw [membersText_singleton, List.append_assoc, toList_quote_append, List.cons_append]
          exact readMembers?_last (readString?_quote _ _)
            (hd steps _ (endsNumber_mark (by simp) rest) (by omega))
      | cons m' members =>
          rw [membersText_cons_cons] at hsteps ⊢
          simp only [List.length_append, List.length_cons] at hsteps
          have hmembers := ih (List.cons_ne_nil m' members)
            (fun m hmem => hread m (List.mem_cons_of_mem _ hmem))
            (by omega : (membersText (m' :: members)).length < steps)
          simp only [List.append_assoc, List.cons_append, toList_quote_append]
          exact readMembers?_next (readString?_quote _ _)
            (hd steps _ (endsNumber_mark (by simp) _) (by omega)) hmembers

/-- Of members with different names all stand. -/
theorem lastOfEach_of_nodup (h : (members.map Prod.fst).Nodup) : lastOfEach members = members := by
  induction members with
  | nil => rfl
  | cons m members ih =>
      rw [List.map_cons, List.nodup_cons] at h
      have hnew : (members.any fun k => k.1 == m.1) = false := by
        simpa using fun name d hmem hname =>
          h.1 (List.mem_map.mpr ⟨(name, d), hmem, hname⟩)
      have hrest : members.foldr
          (fun m kept => if kept.any fun k => k.1 == m.1 then kept else m :: kept) [] = members :=
        ih h.2
      rw [lastOfEach, List.foldr_cons, hrest, hnew, if_neg Bool.false_ne_true]

/-! ### Values -/

/-- Reading a value takes a step, which there is since its text is not empty. -/
theorem isRead_of_succ (hne : (write d).toList ≠ [])
    (h : ∀ steps rest, EndsNumber rest → (write d).toList.length ≤ steps + 1 →
      readValue? depth (steps + 1) ((write d).toList ++ rest) = some (d, rest)) :
    IsRead depth d := by
  intro steps rest hend hsteps
  have hpos := List.length_pos_iff.mpr hne
  obtain ⟨steps, rfl⟩ := Nat.exists_eq_succ_of_ne_zero (by omega : steps ≠ 0)
  exact h steps rest hend hsteps

theorem isRead_list (hbegins : ∀ d ∈ items, BeginsValue (write d).toList)
    (hread : ∀ d ∈ items, IsRead depth d) : IsRead (depth + 1) (.list items) := by
  refine isRead_of_succ (by simp [toList_write_list]) ?_
  intro steps rest _ hsteps
  rw [toList_write_list, List.length_append, List.length_cons, List.length_singleton] at hsteps
  rw [toList_write_list, List.cons_append, List.cons_append, List.append_assoc]
  cases items with
  | nil => rfl
  | cons d items =>
      obtain ⟨c, t, htext, hspace, hc⟩ :=
        beginsValue_itemsText (hbegins d List.mem_cons_self) items
      have hitems := readItems?_itemsText (List.cons_ne_nil d items) hread
        (by omega : (itemsText (d :: items)).length < steps) rest
      rw [htext] at hitems ⊢
      exact readValue?_list hspace hc hitems

theorem isRead_record (hnames : (members.map Prod.fst).Nodup)
    (hread : ∀ m ∈ members, IsRead depth m.2) : IsRead (depth + 1) (.record members) := by
  refine isRead_of_succ (by simp [toList_write_record]) ?_
  intro steps rest _ hsteps
  rw [toList_write_record, List.length_append, List.length_cons, List.length_singleton] at hsteps
  rw [toList_write_record, List.cons_append, List.cons_append, List.append_assoc]
  cases members with
  | nil => rfl
  | cons m members =>
      obtain ⟨t, htext⟩ := membersText_begins m members
      have hmembers := readMembers?_membersText (List.cons_ne_nil m members) hread
        (by omega : (membersText (m :: members)).length < steps) rest
      rw [htext] at hmembers ⊢
      have hrecord := readValue?_record hmembers
      rwa [lastOfEach_of_nodup hnames] at hrecord

/-- A number that is read back from its digits is read from them inside any text. -/
theorem isRead_number (h : readNumber? (write d).toList = some (d, [])) : IsRead depth d := by
  obtain ⟨c, s, hs, hc⟩ := beginsNumber_of_readNumber? h
  refine isRead_of_succ (by simp [hs]) ?_
  intro steps rest hend _
  have hnumber := readNumber?_append hend h
  rw [hs, List.cons_append] at hnumber ⊢
  rw [readValue?_number hc]
  exact hnumber

/-- Plain data is read from its text, whatever stands behind it. -/
theorem Plain.isRead (h : Plain (isReadBack · = true) depth d) : IsRead depth d := by
  induction h with
  | null => exact isRead_of_succ (List.cons_ne_nil _ _) fun _ _ _ _ => rfl
  | bool b => cases b <;> exact isRead_of_succ (List.cons_ne_nil _ _) fun _ _ _ _ => rfl
  | integer hlow hhigh => exact isRead_number (readNumber?_signedDecimal hlow hhigh)
  | float h => exact isRead_number (readNumber?_of_isReadBack h)
  | text s =>
      refine isRead_of_succ (by simp [write, quote]) ?_
      intro steps rest _ _
      rw [write, toList_quote_append, readValue?, skipSpace_cons (by decide)]
      simp only [readString?_quote, Option.bind_eq_bind, Option.bind_some, String.ofList_toList]
  | list h ih => exact isRead_list (fun d hmem => (h d hmem).beginsValue) ih
  | record hnames _ ih => exact isRead_record hnames ih

/-- Plain data is read back from its text. -/
theorem read?_write (h : Plain (isReadBack · = true) depthLimit d) : read? (write d) = some d := by
  have hread := h.isRead (2 * (write d).toList.length + 2) [] (fun c hc => by cases hc) (by omega)
  rw [List.append_nil] at hread
  simp only [read?, hread]
  rfl

end Json

end VpnClient
