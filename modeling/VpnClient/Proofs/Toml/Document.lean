import VpnClient.Proofs.Toml.Values

/-!
# TOML documents are read back

Sections of pairs, each on a line of its own, are read as the expressions they were written for.

## Main Definitions

* `IsValueOf` — characters that are read as a value in front of a line end

## Main Statements

* `readExpressions?_pair`, `readExpressions?_header` — the lines of a document
-/

namespace VpnClient.Toml

open Text (numeral)

/-! ## Keys -/

theorem skipBlanks_cons {c : Char} (hspace : c ≠ ' ') (htab : c ≠ '\t') (s : List Char) :
    skipBlanks (c :: s) = c :: s := by
  have hblank : isBlank c = false := by
    simp only [isBlank, Bool.or_eq_false_iff, beq_eq_false_iff_ne]
    exact ⟨hspace, htab⟩
  rw [skipBlanks, List.dropWhile_cons, hblank]
  rfl

/-- Characters that make up a key without quotes. -/
def IsBareKey (key : List Char) : Prop :=
  (!key.isEmpty && key.all isBare) = true

instance (key : List Char) : Decidable (IsBareKey key) :=
  inferInstanceAs (Decidable (_ = true))

namespace IsBareKey

theorem isBare_of_mem {key : List Char} (h : IsBareKey key) : ∀ c ∈ key, isBare c = true :=
  List.all_eq_true.mp (Bool.and_eq_true_iff.mp h).2

theorem exists_cons {key : List Char} (h : IsBareKey key) :
    ∃ c tail, key = c :: tail ∧ isBare c = true := by
  cases key with
  | nil => cases h
  | cons c tail => exact ⟨c, tail, rfl, h.isBare_of_mem c List.mem_cons_self⟩

/-- A character that cannot stand in a key is not its first one. -/
theorem ne_of_cons {c d : Char} {tail : List Char} (h : IsBareKey (c :: tail))
    (hd : isBare d = false) : c ≠ d :=
  ne_of_class (h.isBare_of_mem c List.mem_cons_self) hd

/-- A key has no blanks in front of it. -/
theorem skipBlanks_append {key : List Char} (h : IsBareKey key) (rest : List Char) :
    skipBlanks (key ++ rest) = key ++ rest := by
  obtain ⟨c, tail, rfl, -⟩ := h.exists_cons
  exact skipBlanks_cons (h.ne_of_cons (by decide)) (h.ne_of_cons (by decide)) _

/-- A key is read up to the first character that cannot stand in it. -/
theorem readKeyPart?_append {key rest : List Char} {d : Char} (h : IsBareKey key)
    (hd : isBare d = false) :
    readKeyPart? (key ++ d :: rest) = some (String.ofList key, d :: rest) := by
  have htake : (key ++ d :: rest).takeWhile isBare = key := by
    rw [List.takeWhile_append_of_pos h.isBare_of_mem, List.takeWhile_cons, hd]
    exact List.append_nil key
  have hdrop : (key ++ d :: rest).dropWhile isBare = d :: rest := by
    rw [List.dropWhile_append_of_pos h.isBare_of_mem, List.dropWhile_cons, hd]
    rfl
  obtain ⟨c, tail, rfl, -⟩ := h.exists_cons
  have hdouble := h.ne_of_cons (d := '"') (by decide)
  have hsingle := h.ne_of_cons (d := '\'') (by decide)
  rw [List.cons_append] at htake hdrop ⊢
  simp only [readKeyPart?]
  split
  · next heq => exact absurd (List.cons.inj heq).1 hdouble
  · next heq => exact absurd (List.cons.inj heq).1 hsingle
  · rw [htake, hdrop]
    rfl

/-- A key in front of blanks and of what is not a point is a key of one part. -/
theorem readKey?_append {key rest : List Char} {d : Char} (h : IsBareKey key)
    (hd : isBare d = false) (hpoint : (skipBlanks (d :: rest)).head? ≠ some '.') :
    readKey? (key ++ d :: rest) = some (([], String.ofList key), skipBlanks (d :: rest)) := by
  have hparts : readKeyParts? (depthLimit - 1) (key ++ d :: rest) =
      some ([String.ofList key], skipBlanks (d :: rest)) := by
    have hlimit : depthLimit - 1 = 78 + 1 := rfl
    rw [hlimit, readKeyParts?, h.skipBlanks_append, h.readKeyPart?_append hd,
      Option.bind_eq_bind, Option.bind_some]
    dsimp only
    split
    · next heq =>
      rw [heq] at hpoint
      exact absurd rfl hpoint
    · rfl
  rw [readKey?, hparts]
  rfl

end IsBareKey

/-! ## Values in pairs -/

/-- Characters that are read as a value in front of a line end, and are no blanks. -/
structure IsValueOf (value : List Char) (data : Data) : Prop where
  skipBlanks (rest : List Char) : skipBlanks (value ++ '\n' :: rest) = value ++ '\n' :: rest
  readValue? (rest : List Char) :
    readValue? (depthLimit - 1) (value ++ '\n' :: rest) = some (data, '\n' :: rest)

namespace IsValueOf

theorem number {n : Nat} (hn : n < signedSize) : IsValueOf (numeral 10 n) (.integer n) := by
  obtain ⟨c, tail, hnumeral, hc⟩ := exists_numeral_cons n
  have hnot (d : Char) (hd : Text.isDecimalDigit d = false) : c ≠ d := ne_of_class hc hd
  constructor
  · intro rest
    rw [hnumeral, List.cons_append]
    exact skipBlanks_cons (hnot ' ' (by decide)) (hnot '\t' (by decide)) _
  · intro rest
    have hread := readScalar?_number hn rest
    rw [atLineEnd] at hread
    rw [hnumeral, List.cons_append] at hread ⊢
    rw [readValue?_of_readScalar? _ (hnot '[' (by decide)) (hnot '\x7b' (by decide)), hread]

theorem truth (b : Bool) : IsValueOf (boolValue b) (.bool b) := by
  constructor
  · intro rest
    cases b <;> rfl
  · intro rest
    have hread := readScalar?_boolValue b ('\n' :: rest)
    cases b with
    | false => exact (readValue?_of_readScalar? _ (by decide) (by decide)).trans hread
    | true => exact (readValue?_of_readScalar? _ (by decide) (by decide)).trans hread

theorem text (s : List Char) : IsValueOf (textValue s) (.text (String.ofList s)) := by
  constructor
  · intro rest
    obtain ⟨c, tail, hvalue, hquote⟩ := exists_textValue_cons s
    rw [hvalue, List.cons_append]
    rcases hquote with rfl | rfl
    · exact skipBlanks_cons (by decide) (by decide) _
    · exact skipBlanks_cons (by decide) (by decide) _
  · intro rest
    exact readValue?_textValue _ s (by simp) (by simp)

theorem texts (items : List (List Char)) :
    IsValueOf (listValue (items.map textValue)) (.list (textsData items)) := by
  constructor
  · intro rest
    have hhead : ∃ tail, listValue (items.map textValue) = '[' :: tail := by
      match items with
      | [] => exact ⟨_, rfl⟩
      | [_] => exact ⟨_, rfl⟩
      | _ :: _ :: _ => exact ⟨_, rfl⟩
    obtain ⟨tail, htail⟩ := hhead
    rw [htail]
    rfl
  · intro rest
    exact readValue?_listValue _ items _

end IsValueOf

/-! ## Lines -/

/-- A line with a pair is read as the pair. -/
theorem readExpression?_pair {key value : List Char} {data : Data} (hkey : IsBareKey key)
    (hvalue : IsValueOf value data) (rest : List Char) :
    readExpression? (pair key value ++ rest) =
      some (.pair [] (String.ofList key) data, rest) := by
  have hline : pair key value ++ rest = key ++ ' ' :: '=' :: ' ' :: (value ++ '\n' :: rest) := by
    simp only [pair, List.append_assoc, List.cons_append, List.nil_append]
  have hread : readKey? (key ++ ' ' :: '=' :: ' ' :: (value ++ '\n' :: rest)) =
      some (([], String.ofList key), '=' :: ' ' :: (value ++ '\n' :: rest)) :=
    hkey.readKey?_append (by decide) (by simp [skipBlanks, isBlank])
  have hskip : skipBlanks (' ' :: (value ++ '\n' :: rest)) = value ++ '\n' :: rest :=
    hvalue.skipBlanks rest
  have hpair : readPair? (readValue? (depthLimit - 1)) (pair key value ++ rest) =
      some ((([], String.ofList key), data), '\n' :: rest) := by
    rw [hline, readPair?, hread, Option.bind_eq_bind, Option.bind_some]
    show (readValue? (depthLimit - 1) (skipBlanks (' ' :: (value ++ '\n' :: rest)))).bind _ = _
    rw [hskip, hvalue.readValue? rest]
    rfl
  obtain ⟨c, tail, rfl, hc⟩ := hkey.exists_cons
  rw [readExpression?]
  · rw [hpair]
    rfl
  · intro s heq
    rw [hline, List.cons_append] at heq
    exact hkey.ne_of_cons (by decide) (List.cons.inj heq).1
  · intro s heq
    rw [hline, List.cons_append] at heq
    exact hkey.ne_of_cons (by decide) (List.cons.inj heq).1

/-- The header of a section is read as that. -/
theorem readExpression?_header {name : List Char} (hname : IsBareKey name) (rest : List Char) :
    readExpression? (header name ++ rest) = some (.table [] (String.ofList name), rest) := by
  have hline : header name ++ rest = '[' :: (name ++ ']' :: '\n' :: rest) := by
    simp only [header, List.append_assoc, List.cons_append, List.nil_append]
  have hread : readKey? (name ++ ']' :: '\n' :: rest) =
      some (([], String.ofList name), ']' :: '\n' :: rest) :=
    hname.readKey?_append (by decide) (by simp [skipBlanks, isBlank])
  obtain ⟨c, tail, rfl, hc⟩ := hname.exists_cons
  rw [hline, readExpression?]
  · rw [hread]
    rfl
  · intro s heq
    rw [List.cons_append] at heq
    exact hname.ne_of_cons (by decide) (List.cons.inj heq).1

/-- A line that starts with a character of a key or with a bracket is not blank. -/
theorem readExpressions?_of_readExpression? {c : Char} {s rest : List Char}
    {expression : Expression} (hc : isBare c = true ∨ c = '[')
    (hread : readExpression? (c :: s) = some (expression, rest)) (steps : Nat) :
    readExpressions? (steps + 1) (c :: s) =
      (readExpressions? steps rest).map fun others => expression :: others := by
  have hnot (d : Char) (hd : isBare d = false) (hbracket : d ≠ '[') : c ≠ d := by
    rcases hc with hc | rfl
    · exact ne_of_class hc hd
    · exact Ne.symm hbracket
  rw [readExpressions?, skipBlanks_cons (hnot ' ' (by decide) (by decide))
    (hnot '\t' (by decide) (by decide))]
  dsimp only
  rw [if_neg, hread, Option.bind_eq_bind, Option.bind_some]
  · cases readExpressions? steps rest <;> rfl
  · rintro (rfl | rfl | rfl)
    · exact hnot '#' (by decide) (by decide) rfl
    · exact hnot '\n' (by decide) (by decide) rfl
    · exact hnot '\r' (by decide) (by decide) rfl

theorem readExpressions?_pair {key value : List Char} {data : Data} (hkey : IsBareKey key)
    (hvalue : IsValueOf value data) (steps : Nat) (rest : List Char) :
    readExpressions? (steps + 1) (pair key value ++ rest) =
      (readExpressions? steps rest).map fun others =>
        .pair [] (String.ofList key) data :: others := by
  have hread := readExpression?_pair hkey hvalue rest
  obtain ⟨c, tail, rfl, hc⟩ := hkey.exists_cons
  exact readExpressions?_of_readExpression? (Or.inl hc) hread steps

theorem readExpressions?_header {name : List Char} (hname : IsBareKey name) (steps : Nat)
    (rest : List Char) :
    readExpressions? (steps + 1) (header name ++ rest) =
      (readExpressions? steps rest).map fun others => .table [] (String.ofList name) :: others :=
  readExpressions?_of_readExpression? (Or.inr rfl) (readExpression?_header hname rest) steps

/-- A blank line says nothing. -/
theorem readExpressions?_blank (steps : Nat) (rest : List Char) :
    readExpressions? (steps + 1) ('\n' :: rest) = readExpressions? steps rest :=
  rfl

end VpnClient.Toml
