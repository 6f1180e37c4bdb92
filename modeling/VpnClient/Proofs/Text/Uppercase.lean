import Mathlib.Data.Nat.Bitwise
import VpnClient.Proofs.Text.Words
import VpnClient.Text.Uppercase

/-!
# Capital forms

What the tables of capital letters are worth: no capital form has white space in it, and each starts
with a character that is its own capital form.  So a word with a capital letter is a word, and a
second capital letter changes nothing.

## Main Definitions

* `capitalForms` — every letter that has a capital form, with that form
* `codeSet` — a set of code points as a number

## Main Statements

* `not_isBlank_uppercase` — there is no white space in a capital form
* `exists_uppercase_cons` — a capital form starts with a character that is its own capital form
* `IsWord.capitalize`, `capitalize_capitalize` — words with a capital letter

## Design Notes

That two tables of more than a thousand code points have none in common is seen from two numbers
with a bit for every code point, at the cost of a single conjunction, and not by comparing each with
each.
-/

namespace VpnClient.Text

/-- The letters of a run. -/
def CaseRun.codes (run : CaseRun) : List Nat :=
  (List.range ((run.last - run.first) / run.step + 1)).map fun k => run.first + run.step * k

/-- Every letter that has a capital form, with the characters of that form. -/
def capitalForms : List (Nat × List Nat) :=
  expandingCapitals ++ caseRuns.flatMap fun run =>
    run.codes.map fun code : Nat => (code, [((code : Int) + run.offset).toNat])

/-- The code points of white space. -/
def blankCodes : List Nat :=
  blankRanges.flatMap fun (first, last) => List.range' first (last + 1 - first)

/-! ## Sets of code points -/

/-- The number with the bits at these places. -/
def codeSet (codes : List Nat) : Nat :=
  codes.foldr (fun code bits => 2 ^ code ||| bits) 0

theorem testBit_codeSet {codes : List Nat} {n : Nat} :
    (codeSet codes).testBit n = true ↔ n ∈ codes := by
  induction codes with
  | nil => simp [codeSet]
  | cons code codes ih =>
      rw [codeSet] at ih
      rw [codeSet, List.foldr_cons, Nat.testBit_or, Bool.or_eq_true, ih, Nat.testBit_two_pow,
        decide_eq_true_eq, List.mem_cons]
      exact or_congr eq_comm Iff.rfl

theorem not_mem_of_codeSet {first second : List Nat} (h : codeSet first &&& codeSet second = 0)
    {n : Nat} (hfirst : n ∈ first) : n ∉ second := by
  intro hsecond
  have hbit : (codeSet first &&& codeSet second).testBit n = true := by
    rw [Nat.testBit_and, testBit_codeSet.mpr hfirst, testBit_codeSet.mpr hsecond]
    rfl
  rw [h, Nat.zero_testBit] at hbit
  cases hbit

/-- The character of a code point has that code point, or zero if there is no such character. -/
theorem toNat_ofNat_not_mem {codes : List Nat} {n : Nat} (hzero : 0 ∉ codes) (h : n ∉ codes) :
    (Char.ofNat n).toNat ∉ codes := by
  by_cases hvalid : n.isValidChar
  · have hsame : (Char.ofNat n).toNat = n := by
      rw [Char.ofNat, dif_pos hvalid]
      rfl
    rwa [hsame]
  · have hnone : (Char.ofNat n).toNat = 0 := by
      rw [Char.ofNat, dif_neg hvalid]
      rfl
    rwa [hnone]

/-! ## The tables -/

theorem CaseRun.mem_codes {run : CaseRun} {code : Nat} (h : run.contains code = true) :
    code ∈ run.codes := by
  simp only [CaseRun.contains, Bool.and_eq_true, decide_eq_true_eq, beq_iff_eq] at h
  obtain ⟨⟨hfirst, hlast⟩, hstep⟩ := h
  refine List.mem_map.mpr ⟨(code - run.first) / run.step, List.mem_range.mpr ?_, ?_⟩
  · exact Nat.lt_succ_of_le (Nat.div_le_div_right (Nat.sub_le_sub_right hlast _))
  · have hdiv := Nat.div_add_mod (code - run.first) run.step
    omega

/-- A character is its own capital form, or it is a letter of the tables. -/
theorem uppercase_cases (c : Char) : uppercase c = [c] ∨
    ∃ codes, (c.toNat, codes) ∈ capitalForms ∧ uppercase c = codes.map Char.ofNat := by
  rw [uppercase]
  split
  · rename_i codes hlookup
    obtain ⟨before, after, heq, -⟩ := List.lookup_eq_some_iff.mp hlookup
    have hmem : (c.toNat, codes) ∈ expandingCapitals := by rw [heq]; simp
    exact .inr ⟨codes, List.mem_append_left _ hmem, rfl⟩
  · split
    · rename_i run hfind
      have hcontains := List.find?_some hfind
      have hcode : c.toNat ∈ run.codes := CaseRun.mem_codes hcontains
      have hrun := List.mem_of_find?_eq_some hfind
      refine .inr ⟨[((c.toNat : Int) + run.offset).toNat], List.mem_append_right _ ?_, rfl⟩
      exact List.mem_flatMap.mpr ⟨run, hrun, List.mem_map.mpr ⟨c.toNat, hcode, rfl⟩⟩
    · exact .inl rfl

theorem isBlank_iff (c : Char) : isBlank c = true ↔ c.toNat ∈ blankCodes := by
  simp only [isBlank, blankCodes, List.any_eq_true, List.mem_flatMap, List.mem_range',
    Bool.and_eq_true, decide_eq_true_eq]
  constructor
  · rintro ⟨⟨first, last⟩, hrange, hfirst, hlast⟩
    exact ⟨(first, last), hrange, c.toNat - first, by omega, by omega⟩
  · rintro ⟨⟨first, last⟩, hrange, k, hk, hcode⟩
    exact ⟨(first, last), hrange, by omega, by omega⟩

/-- No capital form has white space in it. -/
theorem capitals_not_blank :
    codeSet (capitalForms.flatMap Prod.snd) &&& codeSet blankCodes = 0 := by
  decide +kernel

/-- No capital form starts with a letter that has another capital form. -/
theorem capitals_not_letters :
    codeSet (capitalForms.filterMap fun form => form.2.head?) &&&
      codeSet (capitalForms.map Prod.fst) = 0 := by
  decide +kernel

theorem zero_not_letter : 0 ∉ capitalForms.map Prod.fst := by
  decide +kernel

theorem capitals_not_empty : ∀ form ∈ capitalForms, form.2 ≠ [] := by
  intro form hform
  rcases List.mem_append.mp hform with hexpanding | hrun
  · exact (by decide : ∀ form ∈ expandingCapitals, form.2 ≠ []) form hexpanding
  · obtain ⟨run, -, hcode⟩ := List.mem_flatMap.mp hrun
    obtain ⟨code, -, rfl⟩ := List.mem_map.mp hcode
    exact List.cons_ne_nil _ _

/-! ## Capital letters -/

theorem not_isBlank_uppercase {c : Char} (hc : isBlank c = false) :
    ∀ d ∈ uppercase c, isBlank d = false := by
  rcases uppercase_cases c with hsame | ⟨codes, hform, heq⟩
  · rw [hsame]
    exact List.forall_mem_singleton.mpr hc
  · intro d hd
    rw [heq] at hd
    obtain ⟨code, hcode, rfl⟩ := List.mem_map.mp hd
    have hcapital : code ∈ capitalForms.flatMap Prod.snd :=
      List.mem_flatMap.mpr ⟨_, hform, hcode⟩
    have hnot := toNat_ofNat_not_mem (by decide) (not_mem_of_codeSet capitals_not_blank hcapital)
    exact Bool.eq_false_iff.mpr fun hblank => hnot ((isBlank_iff _).mp hblank)

/-- The first character of a capital form is its own capital form. -/
theorem exists_uppercase_cons (c : Char) :
    ∃ d rest, uppercase c = d :: rest ∧ uppercase d = [d] := by
  rcases uppercase_cases c with hsame | ⟨codes, hform, heq⟩
  · exact ⟨c, [], hsame, hsame⟩
  · obtain ⟨code, more, rfl⟩ := List.exists_cons_of_ne_nil (capitals_not_empty _ hform)
    refine ⟨Char.ofNat code, more.map Char.ofNat, heq, ?_⟩
    have hhead : code ∈ capitalForms.filterMap fun form => form.2.head? :=
      List.mem_filterMap.mpr ⟨_, hform, rfl⟩
    have hnot := toNat_ofNat_not_mem zero_not_letter
      (not_mem_of_codeSet capitals_not_letters hhead)
    rcases uppercase_cases (Char.ofNat code) with hsame | ⟨others, hletter, -⟩
    · exact hsame
    · exact absurd (List.mem_map.mpr ⟨_, hletter, rfl⟩) hnot

/-- The uppercase mapping of the first character, if there is one, and then the rest. -/
theorem capitalize_eq (s : List Char) :
    capitalize s = (s.take 1).flatMap uppercase ++ s.drop 1 := by
  cases s with
  | nil => rfl
  | cons c rest => simp [capitalize]

/-- A word with a capital letter is a word. -/
theorem IsWord.capitalize {s : List Char} (h : IsWord s) : IsWord (capitalize s) := by
  obtain ⟨c, rest, rfl⟩ := List.exists_cons_of_ne_nil h.ne_nil
  obtain ⟨hc, hrest⟩ := List.forall_mem_cons.mp h.not_isBlank
  obtain ⟨d, more, heq, -⟩ := exists_uppercase_cons c
  constructor
  · rw [Text.capitalize, heq]
    exact List.cons_ne_nil _ _
  · exact List.forall_mem_append.mpr ⟨not_isBlank_uppercase hc, hrest⟩

/-- A word that has been given a capital letter keeps it. -/
theorem capitalize_capitalize (s : List Char) : capitalize (capitalize s) = capitalize s := by
  cases s with
  | nil => rfl
  | cons c rest =>
      obtain ⟨d, more, heq, hsame⟩ := exists_uppercase_cons c
      show capitalize (uppercase c ++ rest) = uppercase c ++ rest
      rw [heq, List.cons_append, capitalize, hsame, List.singleton_append]

end VpnClient.Text
