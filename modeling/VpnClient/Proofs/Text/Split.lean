import VpnClient.Text.Split

/-!
# Parts are taken apart again

A text that was put together from parts with a separator between them is cut into these parts
again, if none of them has the separator in it.

## Main Statements

* `splitAt_joined`, `splitAt_lines` — cutting a text undoes putting it together
* `cut?_append` — a text is cut at its first separator
-/

namespace VpnClient.Text

variable {separator : Char}

theorem splitAt_of_not_mem {s : List Char} (h : separator ∉ s) : splitAt separator s = [s] := by
  induction s with
  | nil => rfl
  | cons c s ih =>
      rw [List.mem_cons, not_or] at h
      simp only [splitAt, if_neg (Ne.symm h.1), ih h.2]

/-- The first part ends at the first separator. -/
theorem splitAt_append {part : List Char} (h : separator ∉ part) (rest : List Char) :
    splitAt separator (part ++ separator :: rest) = part :: splitAt separator rest := by
  induction part with
  | nil => simp only [List.nil_append, splitAt, if_pos]
  | cons c part ih =>
      rw [List.mem_cons, not_or] at h
      simp only [List.cons_append, splitAt, if_neg (Ne.symm h.1), ih h.2]

theorem splitAt_ne_nil (separator : Char) (s : List Char) : splitAt separator s ≠ [] := by
  cases s with
  | nil => exact List.cons_ne_nil _ _
  | cons c s =>
      rw [splitAt]
      split
      · exact List.cons_ne_nil _ _
      · split <;> exact List.cons_ne_nil _ _

/-- A text that goes on behind a separator has the parts of what stands before it and behind it. -/
theorem splitAt_append_separator (s rest : List Char) :
    splitAt separator (s ++ separator :: rest) = splitAt separator s ++ splitAt separator rest := by
  induction s with
  | nil => simp only [List.nil_append, splitAt, if_pos, List.singleton_append]
  | cons c s ih =>
      by_cases hc : c = separator
      · simp only [List.cons_append, splitAt, if_pos hc, ih]
      · obtain ⟨part, parts, hparts⟩ := List.exists_cons_of_ne_nil (splitAt_ne_nil separator s)
        simp only [List.cons_append, splitAt, if_neg hc, ih, hparts]

/-- Cutting a text undoes putting it together. -/
theorem splitAt_joined {parts : List (List Char)} (hne : parts ≠ [])
    (h : ∀ part ∈ parts, separator ∉ part) :
    splitAt separator (joined [separator] parts) = parts := by
  induction parts with
  | nil => exact absurd rfl hne
  | cons part parts ih =>
      have hpart := h part List.mem_cons_self
      cases parts with
      | nil => exact splitAt_of_not_mem hpart
      | cons next parts =>
          have hrest := ih (List.cons_ne_nil _ _) fun p hp => h p (List.mem_cons_of_mem _ hp)
          rw [joined, List.append_assoc, List.singleton_append, splitAt_append hpart, hrest]
          exact List.cons_ne_nil _ _

theorem joined_eq_intercalate (separator : List Char) (parts : List (List Char)) :
    joined separator parts = separator.intercalate parts := by
  induction parts with
  | nil => rfl
  | cons part parts ih =>
      cases parts with
      | nil => rw [joined, List.intercalate_singleton]
      | cons next parts =>
          rw [List.intercalate_cons_cons, ← ih, joined]
          exact List.cons_ne_nil _ _

/-- Lines that are put together are the lines of the text. -/
theorem splitAt_lines {lines : List String} (hne : lines ≠ [])
    (h : ∀ line ∈ lines, '\n' ∉ line.toList) :
    splitAt '\n' (String.intercalate "\n" lines).toList = lines.map String.toList := by
  have hjoined : (String.intercalate "\n" lines).toList =
      joined ['\n'] (lines.map String.toList) := by
    rw [String.toList_intercalate, joined_eq_intercalate]
    rfl
  rw [hjoined]
  refine splitAt_joined (mt List.map_eq_nil_iff.mp hne) fun part hpart => ?_
  obtain ⟨line, hline, rfl⟩ := List.mem_map.mp hpart
  exact h line hline

/-- What holds of all characters of the parts and of the separator holds of all characters. -/
theorem forall_mem_joined {P : Char → Prop} {parts : List (List Char)}
    (hparts : ∀ part ∈ parts, ∀ c ∈ part, P c) (hseparator : P separator) :
    ∀ c ∈ joined [separator] parts, P c := by
  induction parts with
  | nil =>
      intro c hc
      cases hc
  | cons part parts ih =>
      have hpart := hparts part List.mem_cons_self
      have hrest := ih fun p hp => hparts p (List.mem_cons_of_mem _ hp)
      cases parts with
      | nil => exact hpart
      | cons next parts =>
          intro c hc
          rw [joined, List.append_assoc, List.singleton_append, List.mem_append,
            List.mem_cons] at hc
          · rcases hc with hc | rfl | hc
            · exact hpart c hc
            · exact hseparator
            · exact hrest c hc
          · exact List.cons_ne_nil _ _

/-- A text is cut at its first separator. -/
theorem cut?_append {part : List Char} (h : separator ∉ part) (rest : List Char) :
    cut? separator (part ++ separator :: rest) = some (part, rest) := by
  induction part with
  | nil => simp only [List.nil_append, cut?, if_pos]
  | cons c part ih =>
      rw [List.mem_cons, not_or] at h
      simp only [List.cons_append, cut?, if_neg (Ne.symm h.1), ih h.2, Option.map_some]

theorem cut?_of_not_mem {s : List Char} (h : separator ∉ s) : cut? separator s = none := by
  induction s with
  | nil => rfl
  | cons c s ih =>
      rw [List.mem_cons, not_or] at h
      simp only [cut?, if_neg (Ne.symm h.1), ih h.2, Option.map_none]

end VpnClient.Text
