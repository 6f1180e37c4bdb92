import Mathlib.Data.List.Chain
import Mathlib.Data.List.TakeWhile
import VpnClient.Proofs.Text.Blank

/-!
# The words of a text

A text is white space, a word that goes on until there is white space or nothing, white space again,
and so on.  There is one way only to read it like that, and a text that was put together from words
with a space between them is read as these words.

## Main Definitions

* `IsWord`, `HasWords` — what a word is, and which words a text is made of
* `IsSpaced` — a text with single spaces between its words, and no other white space

## Main Statements

* `hasWords_iff` — a text is made of the words it is split into, and of no others
* `HasWords.flatten_eq` — no character of a word is lost
* `isSpaced_intercalate`, `words_intercalate` — words with spaces between them
-/

namespace VpnClient.Text

/-- Characters in a row, at least one, and none of them white space. -/
structure IsWord (s : List Char) : Prop where
  ne_nil : s ≠ []
  not_isBlank : ∀ c ∈ s, isBlank c = false

/-- The words that a text is made of: behind white space there is nothing more, or a word, and
behind a word there is white space or nothing. -/
inductive HasWords : List Char → List (List Char) → Prop
  | blank {gap : List Char} (hgap : ∀ c ∈ gap, isBlank c = true) : HasWords gap []
  | word {gap word rest : List Char} {more : List (List Char)}
      (hgap : ∀ c ∈ gap, isBlank c = true) (hword : IsWord word)
      (hrest : ∀ c ∈ rest.head?, isBlank c = true) (hmore : HasWords rest more) :
      HasWords (gap ++ word ++ rest) (word :: more)

/-- A text without white space at its ends, in which all white space is single spaces. -/
structure IsSpaced (s : List Char) : Prop where
  not_leading : ∀ c ∈ s.head?, isBlank c = false
  not_trailing : ∀ c ∈ s.getLast?, isBlank c = false
  not_doubled : s.IsChain fun c next => isBlank c = true → isBlank next = false
  eq_space : ∀ c ∈ s, isBlank c = true → c = ' '

variable {s : List Char} {parts : List (List Char)}

/-! ## Reading words -/

theorem words_of_trimStart_nil (h : trimStart s = []) : words s = [] := by
  rw [words]
  split
  · rfl
  · rename_i hcons
    rw [h] at hcons
    cases hcons

theorem words_of_trimStart_cons {c : Char} {rest : List Char} (h : trimStart s = c :: rest) :
    words s = (c :: rest.takeWhile fun d => !isBlank d) ::
      words (rest.dropWhile fun d => !isBlank d) := by
  rw [words]
  split
  · rename_i hnil
    rw [h] at hnil
    cases hnil
  · rename_i hcons
    rw [h] at hcons
    cases hcons
    rfl

/-- Behind a word, as far as it goes, there is white space or nothing. -/
theorem isBlank_head?_dropWhile (s : List Char) :
    ∀ c ∈ (s.dropWhile fun d => !isBlank d).head?, isBlank c = true := by
  intro c hc
  have hstop := List.head?_dropWhile_not (fun d => !isBlank d) s
  rw [Option.mem_def.mp hc] at hstop
  simpa using hstop

/-- A text is made of the words it is split into. -/
theorem hasWords_words (s : List Char) : HasWords s (words s) := by
  induction s using words.induct with
  | case1 s hstart =>
      rw [words_of_trimStart_nil hstart]
      exact .blank (List.dropWhile_eq_nil_iff.mp hstart)
  | case2 s c rest hstart ih =>
      have hc : isBlank c = false := by
        have hstop := List.head?_dropWhile_not isBlank s
        rw [trimStart] at hstart
        rw [hstart] at hstop
        exact hstop
      have hword : IsWord (c :: rest.takeWhile fun d => !isBlank d) := by
        refine ⟨List.cons_ne_nil _ _, List.forall_mem_cons.mpr ⟨hc, fun d hd => ?_⟩⟩
        simpa using List.mem_takeWhile_imp hd
      have hsplit : s = s.takeWhile isBlank ++ (c :: rest.takeWhile fun d => !isBlank d) ++
          rest.dropWhile fun d => !isBlank d := by
        rw [List.append_assoc, List.cons_append, List.takeWhile_append_dropWhile, ← hstart,
          trimStart, List.takeWhile_append_dropWhile]
      have hgap : ∀ d ∈ s.takeWhile isBlank, isBlank d = true := fun d hd =>
        List.mem_takeWhile_imp hd
      have hcut := HasWords.word hgap hword (isBlank_head?_dropWhile rest) ih
      rw [← hsplit] at hcut
      rw [words_of_trimStart_cons hstart]
      exact hcut

/-- A text is made of no other words than those it is split into. -/
theorem HasWords.eq_words (h : HasWords s parts) : parts = words s := by
  induction h with
  | blank hgap => exact (words_of_trimStart_nil (List.dropWhile_eq_nil_iff.mpr hgap)).symm
  | @word gap word rest more hgap hword hrest _ ih =>
      obtain ⟨c, tail, rfl⟩ := List.exists_cons_of_ne_nil hword.ne_nil
      have hstart : trimStart (gap ++ (c :: tail) ++ rest) = c :: (tail ++ rest) := by
        rw [List.append_assoc, trimStart_append hgap]
        exact trimStart_cons (hword.not_isBlank c List.mem_cons_self) _
      have htail : ∀ d ∈ tail, (!isBlank d) = true := by
        intro d hd
        rw [hword.not_isBlank d (List.mem_cons_of_mem c hd)]
        rfl
      -- the word ends where it did, for what comes behind it is white space or nothing
      have hend : rest.takeWhile (fun d => !isBlank d) = [] ∧
          rest.dropWhile (fun d => !isBlank d) = rest := by
        cases rest with
        | nil => exact ⟨rfl, rfl⟩
        | cons d rest => simp [hrest d rfl]
      rw [words_of_trimStart_cons hstart, List.takeWhile_append_of_pos htail,
        List.dropWhile_append_of_pos htail, hend.1, hend.2, List.append_nil, ih]

/-- A text is made of the words it is split into, and of no others. -/
theorem hasWords_iff : HasWords s parts ↔ parts = words s := by
  constructor
  · exact HasWords.eq_words
  · rintro rfl
    exact hasWords_words s

namespace HasWords

theorem isWord_of_mem (h : HasWords s parts) : ∀ part ∈ parts, IsWord part := by
  induction h with
  | blank => exact nofun
  | word _ hword _ _ ih => exact List.forall_mem_cons.mpr ⟨hword, ih⟩

/-- The words hold all characters that are not white space, in the order of the text. -/
theorem flatten_eq (h : HasWords s parts) : parts.flatten = s.filter fun c => !isBlank c := by
  induction h with
  | blank hgap => simp_all
  | @word gap word rest more hgap hword _ _ ih =>
      have hblank : gap.filter (fun c => !isBlank c) = [] :=
        List.filter_eq_nil_iff.mpr fun c hc => by simp [hgap c hc]
      have hall : word.filter (fun c => !isBlank c) = word :=
        List.filter_eq_self.mpr fun c hc => by simp [hword.not_isBlank c hc]
      rw [List.flatten_cons, ih, List.filter_append, List.filter_append, hblank, hall,
        List.nil_append]

/-- There are no words in white space, and in nothing else. -/
theorem eq_nil_iff (h : HasWords s parts) : parts = [] ↔ ∀ c ∈ s, isBlank c = true := by
  cases h with
  | blank hgap => exact iff_of_true rfl hgap
  | word _ hword _ _ =>
      refine iff_of_false (List.cons_ne_nil _ _) fun hblank => ?_
      obtain ⟨c, tail, rfl⟩ := List.exists_cons_of_ne_nil hword.ne_nil
      have hc := hblank c (by simp)
      rw [hword.not_isBlank c List.mem_cons_self] at hc
      cases hc

/-- White space in front of a text adds no word. -/
theorem cons_blank {c : Char} (hc : isBlank c = true) (h : HasWords s parts) :
    HasWords (c :: s) parts := by
  cases h with
  | blank hgap => exact .blank (List.forall_mem_cons.mpr ⟨hc, hgap⟩)
  | @word gap _ _ _ hgap hword hrest hmore =>
      have hlonger : ∀ d ∈ c :: gap, isBlank d = true := List.forall_mem_cons.mpr ⟨hc, hgap⟩
      exact .word hlonger hword hrest hmore

end HasWords

/-! ## Spaces between words -/

/-- Words with a space between them make a text of these words. -/
theorem hasWords_intercalate (h : ∀ part ∈ parts, IsWord part) :
    HasWords ([' '].intercalate parts) parts := by
  induction parts with
  | nil => exact .blank nofun
  | cons part parts ih =>
      obtain ⟨hpart, hparts⟩ := List.forall_mem_cons.mp h
      cases parts with
      | nil =>
          have hone := @HasWords.word [] part [] [] nofun hpart nofun (.blank nofun)
          rw [List.nil_append, List.append_nil] at hone
          rw [List.intercalate_singleton]
          exact hone
      | cons next parts =>
          have hspace : ∀ c ∈ (' ' :: [' '].intercalate (next :: parts)).head?,
              isBlank c = true := by
            intro c hc
            obtain rfl := Option.some.inj hc
            rfl
          rw [List.intercalate_cons_cons, List.append_assoc, List.singleton_append]
          exact @HasWords.word [] part _ _ nofun hpart hspace ((ih hparts).cons_blank rfl)

theorem words_intercalate (h : ∀ part ∈ parts, IsWord part) :
    words ([' '].intercalate parts) = parts :=
  (hasWords_intercalate h).eq_words.symm

/-- A word has no white space anywhere. -/
theorem IsWord.isSpaced (h : IsWord s) : IsSpaced s where
  not_leading c hc := h.not_isBlank c (List.mem_of_mem_head? hc)
  not_trailing c hc := h.not_isBlank c (List.mem_of_mem_getLast? hc)
  not_doubled := by
    refine List.Pairwise.isChain (List.pairwise_iff_forall_sublist.mpr ?_)
    intro c next hsublist _
    exact h.not_isBlank next (hsublist.subset (by simp))
  eq_space := by
    intro c hc hblank
    rw [h.not_isBlank c hc] at hblank
    cases hblank

/-- A word, a space, and a text that is spaced and not empty. -/
theorem IsSpaced.append_word (h : IsSpaced s) (hne : s ≠ []) {word : List Char}
    (hword : IsWord word) : IsSpaced (word ++ ' ' :: s) where
  not_leading := by
    intro c hc
    rw [List.head?_append_of_ne_nil _ hword.ne_nil] at hc
    exact hword.isSpaced.not_leading c hc
  not_trailing := by
    intro c hc
    rw [← List.singleton_append, ← List.append_assoc, List.getLast?_append_of_ne_nil _ hne] at hc
    exact h.not_trailing c hc
  not_doubled := by
    refine List.isChain_append.mpr ⟨hword.isSpaced.not_doubled, ?_, ?_⟩
    · exact List.isChain_cons.mpr ⟨fun c hc _ => h.not_leading c hc, h.not_doubled⟩
    · intro c hc next _ hblank
      rw [hword.isSpaced.not_trailing c hc] at hblank
      cases hblank
  eq_space := by
    intro c hc hblank
    rcases List.mem_append.mp hc with hc | hc
    · exact hword.isSpaced.eq_space c hc hblank
    · rcases List.mem_cons.mp hc with rfl | hc
      · rfl
      · exact h.eq_space c hc hblank

/-- Words with a space between them, and not even white space at the ends. -/
theorem isSpaced_intercalate (h : ∀ part ∈ parts, IsWord part) :
    IsSpaced ([' '].intercalate parts) := by
  induction parts with
  | nil => exact ⟨nofun, nofun, .nil, nofun⟩
  | cons part parts ih =>
      obtain ⟨hpart, hparts⟩ := List.forall_mem_cons.mp h
      cases parts with
      | nil =>
          rw [List.intercalate_singleton]
          exact hpart.isSpaced
      | cons next parts =>
          have hne : [' '].intercalate (next :: parts) ≠ [] := by
            intro hnil
            have hwords := words_intercalate hparts
            rw [hnil] at hwords
            exact List.cons_ne_nil _ _ (hwords.symm.trans (by rw [words]; rfl))
          rw [List.intercalate_cons_cons, List.append_assoc, List.singleton_append]
          exact (ih hparts).append_word hne hpart

end VpnClient.Text
