import VpnClient.Proofs.Toml.Strings
import VpnClient.Toml.Reader

/-!
# TOML values are read back

Numbers, truth values, texts and lists of texts are read as what they were written for, from the
lines and lists in which documents have them.

## Main Statements

* `readScalar?_number`, `readScalar?_textValue` — a value of its own
* `readItems?_lines` — the items of a list with a line for each
* `readValue?_listValue` — a list of texts
-/

namespace VpnClient.Toml

open Text (numeral isDecimalDigit)

/-! ## Whole numbers -/

/-- The text behind a number at the end of a line. -/
abbrev atLineEnd (digits rest : List Char) : List Char :=
  digits ++ '\n' :: rest

theorem forall_mem_decimal (n : Nat) : ∀ c ∈ numeral 10 n, isDecimalDigit c = true :=
  Text.forall_mem_numeral (by decide) Text.isDecimalDigit_digit n

/-- A character of a class is none of those outside it. -/
theorem ne_of_class {isIn : Char → Bool} {c d : Char} (hc : isIn c = true) (hd : isIn d = false) :
    c ≠ d := by
  rintro rfl
  rw [hc] at hd
  cases hd

/-- What reads as digits has nothing else in it. -/
theorem isDigit_of_readDigits? {radix before value : Nat} {s : List Char}
    (h : Text.readDigits? radix before s = some value) : ∀ c ∈ s, isDigit radix c = true := by
  induction s generalizing before with
  | nil =>
      intro c hc
      cases hc
  | cons d s ih =>
      rw [Text.readDigits?] at h
      obtain ⟨v, hv, hrest⟩ := Option.bind_eq_some_iff.mp h
      intro c hc
      rcases List.mem_cons.mp hc with rfl | hc
      · rw [isDigit, hv]
        rfl
      · exact ih hrest c hc

/-- A fixed number of digits in front of a line end leaves some of them. -/
theorem readExactly?_atLineEnd {digits rest s : List Char} {count least greatest n : Nat}
    (h : readExactly? count least greatest (atLineEnd digits rest) = some (n, s)) :
    s = digits.drop count ++ '\n' :: rest := by
  simp only [readExactly?] at h
  split at h
  · next hlength =>
    obtain ⟨value, hread, hbounds⟩ := Option.bind_eq_some_iff.mp h
    -- with fewer digits the line end would have to be read as one
    have hcount : count ≤ digits.length := by
      by_contra hlong
      have hbreak : '\n' ∈ (atLineEnd digits rest).take count := by
        obtain ⟨more, hmore⟩ := Nat.exists_eq_add_of_lt (Nat.lt_of_not_le hlong)
        rw [hmore, Nat.add_assoc, List.take_length_add_append]
        simp
      rw [Text.readNumeral?_of_ne_nil (List.ne_nil_of_mem hbreak)] at hread
      have hdigit := isDigit_of_readDigits? hread '\n' hbreak
      exact absurd hdigit (by decide)
    split at hbounds
    · rw [Option.some_inj, Prod.mk.injEq] at hbounds
      rw [← hbounds.2, List.drop_append_of_le_length hcount]
    · cases hbounds
  · cases h

/-- In digits in front of a line end there is no separator. -/
theorem after?_digits {digits : List Char} (hdigits : ∀ c ∈ digits, isDecimalDigit c = true)
    (separator : Char) (hseparator : isDecimalDigit separator = false) (hbreak : separator ≠ '\n')
    (count : Nat) (rest : List Char) :
    Text.after? [separator] (digits.drop count ++ '\n' :: rest) = none := by
  cases hrest : digits.drop count with
  | nil => simp only [List.nil_append, Text.after?, if_neg hbreak]
  | cons c tail =>
      have hmem : c ∈ digits.drop count := by
        rw [hrest]
        exact List.mem_cons_self
      have hc := ne_of_class (hdigits c (List.mem_of_mem_drop hmem)) hseparator
      simp only [List.cons_append, Text.after?, if_neg (Ne.symm hc)]

/-- A number at the end of a line is no date. -/
theorem readDate?_digits {digits : List Char} (hdigits : ∀ c ∈ digits, isDecimalDigit c = true)
    (rest : List Char) : readDate? (atLineEnd digits rest) = none := by
  have hday : afterDay? (atLineEnd digits rest) = none := by
    cases hyear : readExactly? 4 0 9999 (atLineEnd digits rest) with
    | none => simp only [afterDay?, hyear, Option.bind_eq_bind, Option.bind_none]
    | some year =>
        obtain ⟨n, s⟩ := year
        have hdash := after?_digits hdigits '-' (by decide) (by decide) 4 rest
        rw [← readExactly?_atLineEnd hyear] at hdash
        simp only [afterDay?, hyear, hdash, Option.bind_eq_bind, Option.bind_some,
          Option.bind_none]
  have htime : afterTime? (atLineEnd digits rest) = none := by
    cases hhour : readExactly? 2 0 23 (atLineEnd digits rest) with
    | none => simp only [afterTime?, hhour, Option.bind_eq_bind, Option.bind_none]
    | some hour =>
        obtain ⟨n, s⟩ := hour
        have hcolon := after?_digits hdigits ':' (by decide) (by decide) 2 rest
        rw [← readExactly?_atLineEnd hhour] at hcolon
        simp only [afterTime?, hhour, hcolon, Option.bind_eq_bind, Option.bind_some,
          Option.bind_none]
  have hmoment : afterMoment? (atLineEnd digits rest) = none := by
    simp only [afterMoment?, hday, Option.bind_eq_bind, Option.bind_none]
  simp only [readDate?, hmoment, htime, Option.or_none]

/-- Digits without underscores are read up to the line end. -/
theorem readGrouped_digits {digits : List Char} (hdigits : ∀ c ∈ digits, isDecimalDigit c = true)
    (rest : List Char) : readGrouped 10 (atLineEnd digits rest) = (digits, '\n' :: rest) := by
  induction digits with
  | nil =>
      have hbreak : isDigit 10 '\n' = false := by decide
      rw [atLineEnd, List.nil_append, readGrouped.eq_def]
      simp [hbreak]
  | cons c digits ih =>
      have hread := ih fun d hd => hdigits d (List.mem_cons_of_mem _ hd)
      have hc : isDigit 10 c = true := hdigits c List.mem_cons_self
      have hunderscore : c ≠ '_' := ne_of_class hc (by decide)
      rw [atLineEnd, List.cons_append, readGrouped.eq_def]
      simp [hc, hunderscore, hread]

theorem readDigits?_digits {c : Char} {digits : List Char}
    (hdigits : ∀ d ∈ c :: digits, isDecimalDigit d = true) (rest : List Char) :
    readDigits? 10 (atLineEnd (c :: digits) rest) = some (c :: digits, '\n' :: rest) := by
  have hc : isDigit 10 c = true := hdigits c List.mem_cons_self
  have hread := readGrouped_digits (fun d hd => hdigits d (List.mem_cons_of_mem _ hd)) rest
  simp only [atLineEnd, List.cons_append, readDigits?, hc, if_true, hread]

/-- The numeral of a number is read whole. -/
theorem readWhole?_numeral (n : Nat) (rest : List Char) :
    readWhole? (atLineEnd (numeral 10 n) rest) = some (numeral 10 n, '\n' :: rest) := by
  have hdigits := forall_mem_decimal n
  rcases Text.numeral_head (by decide : 2 ≤ 10) (by decide) n with hhead | hzero
  · obtain ⟨c, digits, hnumeral⟩ :=
      List.exists_cons_of_ne_nil (Text.numeral_ne_nil (by decide : 2 ≤ 10) n)
    rw [hnumeral] at hhead hdigits ⊢
    have hc : c ≠ '0' := fun heq => hhead (congrArg some heq)
    rw [readWhole?]
    · exact readDigits?_digits hdigits rest
    · intro tail heq
      exact hc (List.cons.inj heq).1
  · rw [hzero]
    rfl

/-- The first character of a numeral is a digit. -/
theorem exists_numeral_cons (n : Nat) :
    ∃ c digits, numeral 10 n = c :: digits ∧ isDecimalDigit c = true := by
  obtain ⟨c, digits, hnumeral⟩ :=
    List.exists_cons_of_ne_nil (Text.numeral_ne_nil (by decide : 2 ≤ 10) n)
  refine ⟨c, digits, hnumeral, forall_mem_decimal n c ?_⟩
  rw [hnumeral]
  exact List.mem_cons_self

theorem readSign_numeral (n : Nat) (rest : List Char) :
    readSign (atLineEnd (numeral 10 n) rest) = (false, atLineEnd (numeral 10 n) rest) := by
  obtain ⟨c, digits, hnumeral, hc⟩ := exists_numeral_cons n
  rw [hnumeral, atLineEnd, List.cons_append, readSign]
  · intro tail heq
    exact ne_of_class hc (by decide) (List.cons.inj heq).1
  · intro tail heq
    exact ne_of_class hc (by decide) (List.cons.inj heq).1

/-- A number without a fraction or an exponent is no floating point number. -/
theorem readFloat?_numeral (n : Nat) (rest : List Char) :
    readFloat? (atLineEnd (numeral 10 n) rest) = none := by
  have hdecimal : readDecimal? false (atLineEnd (numeral 10 n) rest) = none := by
    simp only [readDecimal?, readWhole?_numeral, Option.bind_eq_bind, Option.bind_some,
      Option.bind_none]
    rfl
  obtain ⟨c, digits, hnumeral, hc⟩ := exists_numeral_cons n
  simp only [readFloat?, readSign_numeral]
  rw [hnumeral] at hdecimal ⊢
  split
  · next heq => exact absurd (List.cons.inj heq).1 (ne_of_class hc (by decide))
  · next heq => exact absurd (List.cons.inj heq).1 (ne_of_class hc (by decide))
  · exact hdecimal

/-- Nothing but the line end comes behind a zero that a numeral starts with. -/
theorem zero_prefix {n : Nat} {rest tail : List Char} {c : Char}
    (h : atLineEnd (numeral 10 n) rest = '0' :: c :: tail) : c = '\n' := by
  rcases Text.numeral_head (by decide : 2 ≤ 10) (by decide) n with hhead | hzero
  · obtain ⟨d, digits, hnumeral, -⟩ := exists_numeral_cons n
    rw [hnumeral] at hhead h
    exact absurd (congrArg some (List.cons.inj h).1) hhead
  · rw [hzero] at h
    exact (List.cons.inj (List.cons.inj h).2).1.symm

theorem integer?_of_lt {n : Nat} (hn : n < signedSize) : integer? false n = some (.integer n) := by
  have hlow : -(signedSize : Int) ≤ n := by omega
  have hhigh : (n : Int) < signedSize := by omega
  simp only [integer?, Bool.false_eq_true, if_false, hlow, hhigh, and_self, if_true]

/-- Decimal digits are read as the value they have, if it fits. -/
theorem readInteger?_of_readWhole? {s digits rest : List Char} {n : Nat} {value : Data}
    (hradix : ∀ c tail, s = '0' :: c :: tail → c = '\n') (hsign : readSign s = (false, s))
    (hwhole : readWhole? s = some (digits, rest)) (hread : Text.readNumeral? 10 digits = some n)
    (hvalue : integer? false n = some value) : readInteger? s = some (value, rest) := by
  have hnot : ∀ (d : Char) (tail : List Char), d ≠ '\n' → s = '0' :: d :: tail → False :=
    fun d tail hd heq => hd (hradix d tail heq)
  rw [readInteger?]
  · rw [hsign]
    dsimp only
    rw [hwhole, Option.bind_eq_bind, Option.bind_some]
    dsimp only
    rw [hread, Option.bind_eq_bind, Option.bind_some, hvalue, Option.bind_eq_bind, Option.bind_some]
  · intro tail
    exact hnot 'x' tail (by decide)
  · intro tail
    exact hnot 'o' tail (by decide)
  · intro tail
    exact hnot 'b' tail (by decide)

theorem readInteger?_numeral {n : Nat} (hn : n < signedSize) (rest : List Char) :
    readInteger? (atLineEnd (numeral 10 n) rest) = some (.integer n, '\n' :: rest) :=
  readInteger?_of_readWhole? (fun _ _ => zero_prefix) (readSign_numeral n rest)
    (readWhole?_numeral n rest) (Text.readNumeral?_numeral (by decide) (by decide) n)
    (integer?_of_lt hn)

/-! ## Values of their own -/

/-- A number of at most sixty-three bits at the end of a line is read back. -/
theorem readScalar?_number {n : Nat} (hn : n < signedSize) (rest : List Char) :
    readScalar? (atLineEnd (numeral 10 n) rest) = some (.integer n, '\n' :: rest) := by
  have hdate := readDate?_digits (forall_mem_decimal n) rest
  have hfloat := readFloat?_numeral n rest
  have hinteger := readInteger?_numeral hn rest
  obtain ⟨c, digits, hnumeral, hc⟩ := exists_numeral_cons n
  rw [hnumeral] at hdate hfloat hinteger ⊢
  simp only [readScalar?]
  split
  · next heq => cases heq
  · next heq => exact absurd (List.cons.inj heq).1 (ne_of_class hc (by decide))
  · next heq => exact absurd (List.cons.inj heq).1 (ne_of_class hc (by decide))
  · next d tail _ _ heq =>
    obtain ⟨rfl, -⟩ := List.cons.inj heq
    have hquote : ¬ (c = '"' ∨ c = '\'') :=
      not_or.mpr ⟨ne_of_class hc (by decide), ne_of_class hc (by decide)⟩
    rw [if_neg hquote, hdate, hfloat, hinteger]
    rfl

theorem readScalar?_boolValue (b : Bool) (rest : List Char) :
    readScalar? (boolValue b ++ rest) = some (.bool b, rest) := by
  cases b <;> rfl

/-- A text as a value starts with a quote. -/
theorem exists_textValue_cons (s : List Char) :
    ∃ c tail, textValue s = c :: tail ∧ (c = '"' ∨ c = '\'') := by
  unfold textValue
  cases Spelling.choose s with
  | escaped => exact ⟨'"', _, rfl, Or.inl rfl⟩
  | literal => exact ⟨'\'', _, rfl, Or.inr rfl⟩
  | escapedLines => exact ⟨'"', _, rfl, Or.inl rfl⟩
  | literalLines => exact ⟨'\'', _, rfl, Or.inr rfl⟩

/-- A text is read back, unless another quote follows it. -/
theorem readScalar?_textValue (s : List Char) {rest : List Char} (hdouble : rest.head? ≠ some '"')
    (hsingle : rest.head? ≠ some '\'') :
    readScalar? (textValue s ++ rest) = some (.text (String.ofList s), rest) := by
  have hread := readString?_textValue s hdouble hsingle
  obtain ⟨c, tail, hvalue, hquote⟩ := exists_textValue_cons s
  rw [hvalue] at hread ⊢
  rw [List.cons_append] at hread ⊢
  simp only [readScalar?]
  split
  · next heq => cases heq
  · next heq => rcases hquote with rfl | rfl <;> cases heq
  · next heq => rcases hquote with rfl | rfl <;> cases heq
  · next d _ _ _ heq =>
    obtain ⟨rfl, -⟩ := List.cons.inj heq
    rw [if_pos hquote, hread]
    rfl

/-- What is no list and no table is a value of its own. -/
theorem readValue?_of_readScalar? (depth : Nat) {c : Char} {s : List Char} (hlist : c ≠ '[')
    (htable : c ≠ '\x7b') : readValue? depth (c :: s) = readScalar? (c :: s) := by
  cases depth with
  | zero => rfl
  | succ depth =>
      rw [readValue?]
      · intro rest heq
        exact hlist (List.cons.inj heq).1
      · intro rest heq
        exact htable (List.cons.inj heq).1

theorem readValue?_textValue (depth : Nat) (s : List Char) {rest : List Char}
    (hdouble : rest.head? ≠ some '"') (hsingle : rest.head? ≠ some '\'') :
    readValue? depth (textValue s ++ rest) = some (.text (String.ofList s), rest) := by
  have hread := readScalar?_textValue s hdouble hsingle
  obtain ⟨c, tail, hvalue, hquote⟩ := exists_textValue_cons s
  rw [hvalue, List.cons_append] at hread ⊢
  rw [readValue?_of_readScalar? depth (by rcases hquote with rfl | rfl <;> decide)
    (by rcases hquote with rfl | rfl <;> decide)]
  exact hread

/-! ## Lists of texts -/

/-- A text as a value has nothing in front that is passed over. -/
theorem skipLines_textValue (s rest : List Char) :
    skipLines false (textValue s ++ rest) = textValue s ++ rest := by
  obtain ⟨c, tail, hvalue, hquote⟩ := exists_textValue_cons s
  rw [hvalue, List.cons_append]
  rcases hquote with rfl | rfl <;> rfl

/-- The item of a list with what stands in front of it and behind it on its line. -/
def itemLine (item : List Char) : List Char :=
  "    ".toList ++ item ++ [',', '\n']

theorem skipLines_itemLine (s rest : List Char) :
    skipLines false ('\n' :: (itemLine (textValue s) ++ rest)) =
      textValue s ++ ',' :: '\n' :: rest := by
  have hindent : skipLines false ('\n' :: (itemLine (textValue s) ++ rest)) =
      skipLines false (textValue s ++ ',' :: '\n' :: rest) := by
    simp only [itemLine, List.append_assoc]
    rfl
  rw [hindent, skipLines_textValue]

/-- The value of a list of texts. -/
def textsData (texts : List (List Char)) : List Data :=
  texts.map fun s => .text (String.ofList s)

/-- A text in front of what is not a quote is read as an item. -/
theorem readItems?_textValue (depth steps : Nat) (item : List Char) {s rest : List Char}
    (hskip : skipLines false s = textValue item ++ rest) (hdouble : rest.head? ≠ some '"')
    (hsingle : rest.head? ≠ some '\'') :
    readItems? (readValue? depth) (steps + 1) s =
      match skipLines false rest with
      | ',' :: rest => do
        let (items, rest) ← readItems? (readValue? depth) steps rest
        some (.text (String.ofList item) :: items, rest)
      | ']' :: rest => some ([.text (String.ofList item)], rest)
      | _ => none := by
  have hread := readValue?_textValue depth item hdouble hsingle
  obtain ⟨c, tail, hvalue, hquote⟩ := exists_textValue_cons item
  rw [readItems?, hskip]
  rw [hvalue, List.cons_append] at hread ⊢
  split
  · next heq => rcases hquote with rfl | rfl <;> cases heq
  · exact congrArg (fun read : Option (Data × List Char) => read >>= _) hread

/-- The items of a list with a line for each are read back, in as many steps as there are. -/
theorem readItems?_lines (depth : Nat) (texts : List (List Char)) (steps : Nat)
    (rest : List Char) :
    readItems? (readValue? depth) (texts.length + 1 + steps)
      ('\n' :: ((texts.flatMap fun s => itemLine (textValue s)) ++ ']' :: rest)) =
      some (textsData texts, rest) := by
  induction texts with
  | nil =>
      rw [List.length_nil, Nat.zero_add, Nat.add_comm, readItems?]
      rfl
  | cons s texts ih =>
      -- one step for this item, and the line break behind its comma is in front of the next one
      have hsteps : (s :: texts).length + 1 + steps = (texts.length + 1 + steps) + 1 := by
        rw [List.length_cons]
        omega
      rw [hsteps, List.flatMap_cons, List.append_assoc,
        readItems?_textValue depth _ s (skipLines_itemLine s _) (by simp) (by simp)]
      show (readItems? (readValue? depth) (texts.length + 1 + steps) _).bind _ = _
      rw [ih]
      rfl

/-- Every item line has a character. -/
theorem length_le_flatMap_itemLine (texts : List (List Char)) :
    texts.length ≤ (texts.flatMap fun s => itemLine (textValue s)).length := by
  induction texts with
  | nil => exact Nat.le_refl 0
  | cons s texts ih =>
      have hpos : 0 < (itemLine (textValue s)).length := by simp [itemLine]
      rw [List.flatMap_cons, List.length_append, List.length_cons]
      omega

/-- A list of texts is read back. -/
theorem readValue?_listValue (depth : Nat) (texts : List (List Char)) (rest : List Char) :
    readValue? (depth + 1) (listValue (texts.map textValue) ++ rest) =
      some (.list (textsData texts), rest) := by
  match texts with
  | [] => rfl
  | [s] =>
      have hvalue : listValue ([s].map textValue) ++ rest =
          '[' :: (textValue s ++ ']' :: rest) := by
        simp only [listValue, List.map_cons, List.map_nil, List.cons_append, List.append_assoc,
          List.nil_append]
      rw [hvalue, readValue?, readItems?_textValue depth _ s (skipLines_textValue s _) (by simp)
        (by simp)]
      rfl
  | first :: second :: others =>
      have hvalue : listValue ((first :: second :: others).map textValue) ++ rest =
          '[' :: '\n' :: (((first :: second :: others).flatMap fun s => itemLine (textValue s)) ++
            ']' :: rest) := by
        simp only [listValue, List.map_cons, List.flatMap_cons, List.flatMap_map, itemLine,
          List.cons_append, List.append_assoc, List.nil_append]
      have hlength := length_le_flatMap_itemLine (first :: second :: others)
      generalize first :: second :: others = texts at hvalue hlength ⊢
      rw [hvalue, readValue?]
      have hsteps : ∃ steps, ('\n' :: ((texts.flatMap fun s => itemLine (textValue s)) ++
          ']' :: rest)).length + 1 = texts.length + 1 + steps := by
        refine Nat.exists_eq_add_of_le ?_
        rw [List.length_cons, List.length_append]
        omega
      obtain ⟨steps, hsteps⟩ := hsteps
      rw [hsteps, readItems?_lines]
      rfl

end VpnClient.Toml
