import Mathlib.Data.List.Basic
import VpnClient.Text.Blank

/-!
# White space around texts

White space in front of a text and behind it is cut off, and nothing else is.

## Main Statements

* `trimStart_cons` — nothing is cut off a text that does not start with white space
* `trim_padded` — white space around a text that has none of its own is cut off
-/

namespace VpnClient.Text

theorem trimStart_cons {c : Char} (h : isBlank c = false) (s : List Char) :
    trimStart (c :: s) = c :: s := by
  rw [trimStart, List.dropWhile_cons_of_neg]
  rw [h]
  decide

theorem trimStart_append {before : List Char} (h : ∀ c ∈ before, isBlank c = true)
    (s : List Char) : trimStart (before ++ s) = trimStart s :=
  List.dropWhile_append_of_pos h

/-- White space around a text that has none of its own is cut off. -/
theorem trim_padded {before after s : List Char} (hbefore : ∀ c ∈ before, isBlank c = true)
    (hafter : ∀ c ∈ after, isBlank c = true) (hs : ∀ c ∈ s, isBlank c = false) :
    trim (before ++ s ++ after) = s := by
  -- only white space is left behind the text, and less of it if there is no text
  have hstart : ∃ rest, trimStart (before ++ s ++ after) = s ++ rest ∧
      ∀ c ∈ rest, isBlank c = true := by
    rw [List.append_assoc, trimStart_append hbefore]
    cases s with
    | nil =>
        have hrest := (List.dropWhile_suffix isBlank (l := after)).subset
        exact ⟨trimStart after, rfl, fun c hc => hafter c (hrest hc)⟩
    | cons c s => exact ⟨after, trimStart_cons (hs c List.mem_cons_self) _, hafter⟩
  obtain ⟨rest, heq, hrest⟩ := hstart
  have hend : trimStart s.reverse = s.reverse := by
    cases hreverse : s.reverse with
    | nil => rfl
    | cons c t =>
        have hc : c ∈ s.reverse := hreverse ▸ List.mem_cons_self
        exact trimStart_cons (hs c (List.mem_reverse.mp hc)) t
  rw [trim, heq, List.reverse_append,
    trimStart_append fun c hc => hrest c (List.mem_reverse.mp hc), hend, List.reverse_reverse]

end VpnClient.Text
