import VpnClient.Proofs.Text.Numeral
import VpnClient.Toml.Strings
import VpnClient.Toml.Writer

/-!
# TOML strings are read back

However a text is spelt in a document, between double or single quotes, on one line or several,
it is read as that text.

## Main Definitions

* `front` — what is read, with one more character in front

## Main Statements

* `readEscaped?_escapeAll_line`, `readEscaped?_escapeAll_lines` — strings between double quotes
* `readLiteral?_append`, `readLiteralLines?_append` — strings between single quotes
* `readString?_textValue` — every text is read back

## Design Notes

In a string of several lines up to two quotes in a row are not escaped, so that what comes behind a
quote decides what it means. The proof by induction over the text therefore looks at the quotes at
its end, which stand next to the closing ones, before all others.
-/

namespace VpnClient.Toml

/-- What is read, with one more character in front. -/
def front (c : Char) (r : Option (List Char × List Char)) : Option (List Char × List Char) :=
  r.map fun (cs, rest) => (c :: cs, rest)

theorem bind_front (c : Char) (r : Option (List Char × List Char)) :
    (r.bind fun read => some (c :: read.1, read.2)) = front c r := by
  cases r <;> rfl

theorem ne_break_of_isPlain {c : Char} (h : isPlain c = true) : c ≠ '\n' ∧ c ≠ '\r' := by
  constructor
  all_goals
    rintro rfl
    revert h
    decide

/-! ## One character between double quotes -/

section Escaped

variable {mode : Mode} {c x : Char}

theorem readEscaped?_simple (h : simpleEscape? x = some c) (mode : Mode) (s : List Char) :
    readEscaped? mode ('\\' :: x :: s) = front c (readEscaped? mode.resumed s) := by
  -- the letters are told apart first, so that each case is one branch of the reader
  unfold simpleEscape? at h
  split at h
  case h_8 => cases h
  all_goals
    cases h
    exact bind_front _ _

theorem readEscaped?_codePoint {d₁ d₂ d₃ d₄ : Char} (h : codePoint? [d₁, d₂, d₃, d₄] = some c)
    (mode : Mode) (s : List Char) :
    readEscaped? mode ('\\' :: 'u' :: d₁ :: d₂ :: d₃ :: d₄ :: s) =
      front c (readEscaped? mode.resumed s) := by
  show (codePoint? [d₁, d₂, d₃, d₄]).bind _ = _
  rw [h]
  exact bind_front c _

theorem readEscaped?_break (s : List Char) :
    readEscaped? .lines ('\n' :: s) = front '\n' (readEscaped? .lines s) :=
  bind_front '\n' _

/-- A character that is plain, neither a quote nor a backslash stands for itself. -/
theorem readEscaped?_plain (hmode : mode ≠ .skipping) (hplain : isPlain c = true)
    (hslash : c ≠ '\\') (hquote : c ≠ '"') (s : List Char) :
    readEscaped? mode (c :: s) = front c (readEscaped? mode s) := by
  have hresumed : mode.resumed = mode := by cases mode <;> trivial
  obtain ⟨hbreak, hreturn⟩ := ne_break_of_isPlain hplain
  rw [readEscaped?.eq_def]
  simp [hslash, hreturn, hplain, hmode, hresumed, bind_front]

/-! ## Quotes in a string of several lines -/

/-- A quote with fewer than two behind it stands for itself. -/
theorem readEscaped?_quote {s : List Char} (h : ∀ rest, s ≠ '"' :: '"' :: rest) :
    readEscaped? .lines ('"' :: s) = front '"' (readEscaped? .lines s) := by
  rw [readEscaped?.eq_def]
  simp only [reduceCtorEq, if_false]
  split
  · next rest => exact absurd rfl (h _)
  · next rest => exact absurd rfl (h _)
  · next rest => exact absurd rfl (h _)
  · simp [bind_front]

variable {rest : List Char}

/-- Three quotes end a string, and up to two more in front of them belong to it. -/
theorem readEscaped?_close (h : rest.head? ≠ some '"') (count : Nat) (hcount : count ≤ 2) :
    readEscaped? .lines (List.replicate count '"' ++ ('"' :: '"' :: '"' :: rest)) =
      some (List.replicate count '"', rest) := by
  have hcases : count = 0 ∨ count = 1 ∨ count = 2 := by omega
  rw [readEscaped?.eq_def]
  rcases hcases with rfl | rfl | rfl
  all_goals
    cases rest with
    | nil => rfl
    | cons c rest =>
        have hc : c ≠ '"' := by simpa using h
        simp [hc]

end Escaped

/-! ## Characters and their escapes -/

/-- An escape is one of a letter or of a code point, and is read as the character; any other
character is plain, or is a line break in a string of several lines. -/
def IsEscapeOf (lines : Bool) (c : Char) (written : List Char) : Prop :=
  (∃ x, written = ['\\', x] ∧ simpleEscape? x = some c) ∨
    (∃ d₁ d₂ d₃ d₄, written = ['\\', 'u', d₁, d₂, d₃, d₄] ∧
      codePoint? [d₁, d₂, d₃, d₄] = some c) ∨
    (written = [c] ∧ c ≠ '"' ∧ c ≠ '\\' ∧ (isPlain c = true ∨ lines = true ∧ c = '\n'))

/-- Whether a control character is read back from its code point. -/
def isReadBack (c : Char) : Bool :=
  match codePointEscape c with
  | ['\\', 'u', d₁, d₂, d₃, d₄] => codePoint? [d₁, d₂, d₃, d₄] == some c
  | _ => false

theorem isReadBack_control : ∀ code < 128, code < 0x20 ∨ code = 0x7f →
    isReadBack (Char.ofNat code) = true := by
  decide +kernel

theorem exists_codePointEscape {c : Char} (h : c.toNat < 0x20 ∨ c.toNat = 0x7f) :
    ∃ d₁ d₂ d₃ d₄, codePointEscape c = ['\\', 'u', d₁, d₂, d₃, d₄] ∧
      codePoint? [d₁, d₂, d₃, d₄] = some c := by
  -- there are few control characters, and each of them has been tried
  have hread := isReadBack_control c.toNat (by omega) h
  rw [Char.ofNat_toNat, isReadBack] at hread
  split at hread
  · next d₁ d₂ d₃ d₄ heq => exact ⟨d₁, d₂, d₃, d₄, heq, eq_of_beq hread⟩
  · cases hread

/-- A character that is not a quote is written as an escape of it. -/
theorem isEscapeOf_escape (lines : Bool) (c : Char) (hquote : c ≠ '"') :
    IsEscapeOf lines c (escape lines c) := by
  unfold escape
  split
  · exact Or.inl ⟨'b', rfl, rfl⟩
  · exact Or.inl ⟨'t', rfl, rfl⟩
  · cases lines with
    | true => exact Or.inr (Or.inr ⟨rfl, by decide, by decide, Or.inr ⟨rfl, rfl⟩⟩)
    | false => exact Or.inl ⟨'n', rfl, rfl⟩
  · exact Or.inl ⟨'f', rfl, rfl⟩
  · exact Or.inl ⟨'r', rfl, rfl⟩
  · exact Or.inl ⟨'\\', rfl, rfl⟩
  · next hslash =>
    by_cases hcontrol : c.toNat < 0x20 ∨ c.toNat = 0x7f
    · rw [if_pos (by simpa using hcontrol)]
      exact Or.inr (Or.inl (exists_codePointEscape hcontrol))
    · rw [if_neg (by simpa using hcontrol)]
      refine Or.inr (Or.inr ⟨rfl, hquote, hslash, Or.inl ?_⟩)
      simp only [isPlain, Bool.or_eq_true, Bool.and_eq_true, decide_eq_true_eq, bne_iff_ne]
      omega

/-- What is written for a character is read as that character. -/
theorem readEscaped?_of_isEscapeOf (mode : Mode) (hmode : mode ≠ .skipping) {c : Char}
    {written : List Char} (h : IsEscapeOf (mode == .lines) c written) (s : List Char) :
    readEscaped? mode (written ++ s) = front c (readEscaped? mode s) := by
  have hresumed : mode.resumed = mode := by cases mode <;> trivial
  rcases h with ⟨x, rfl, hx⟩ | ⟨d₁, d₂, d₃, d₄, rfl, hcode⟩ | ⟨rfl, hquote, hslash, hplain⟩
  · exact (readEscaped?_simple hx mode s).trans (by rw [hresumed])
  · exact (readEscaped?_codePoint hcode mode s).trans (by rw [hresumed])
  · rcases hplain with hplain | ⟨hlines, rfl⟩
    · exact readEscaped?_plain hmode hplain hslash hquote s
    · rw [eq_of_beq hlines]
      exact readEscaped?_break s

/-! ## Whole strings between double quotes -/

theorem escapeAll_of_ne (lines : Bool) (run : Nat) {c : Char} (h : c ≠ '"') (s : List Char) :
    escapeAll lines run (c :: s) = escape lines c ++ escapeAll lines 0 s := by
  rw [escapeAll]
  exact h

theorem escapeAll_quote_line (run : Nat) (s : List Char) :
    escapeAll false run ('"' :: s) = '\\' :: '"' :: escapeAll false 0 s :=
  if_neg (Nat.not_lt_zero run)

theorem escapeAll_quote_raw {run : Nat} (h : run < 2) (s : List Char) :
    escapeAll true run ('"' :: s) = '"' :: escapeAll true (run + 1) s :=
  if_pos h

theorem escapeAll_quote_escaped {run : Nat} (h : ¬ run < 2) (s : List Char) :
    escapeAll true run ('"' :: s) = '\\' :: '"' :: escapeAll true 0 s :=
  if_neg h

/-- A string of one line between double quotes is read back. -/
theorem readEscaped?_escapeAll_line (run : Nat) (s rest : List Char) :
    readEscaped? .line (escapeAll false run s ++ '"' :: rest) = some (s, rest) := by
  induction s generalizing run with
  | nil =>
      rw [readEscaped?.eq_def]
      rfl
  | cons c s ih =>
      by_cases hquote : c = '"'
      · subst hquote
        have hread := readEscaped?_simple (x := '"') (c := '"') rfl .line
          (escapeAll false 0 s ++ '"' :: rest)
        rw [escapeAll_quote_line]
        exact hread.trans (congrArg (front '"') (ih 0))
      · have hread := readEscaped?_of_isEscapeOf .line (by decide)
          (isEscapeOf_escape false c hquote) (escapeAll false 0 s ++ '"' :: rest)
        rw [escapeAll_of_ne false run hquote, List.append_assoc]
        exact hread.trans (congrArg (front c) (ih 0))

/-- What is written for a character that is not a quote does not start with one. -/
theorem escape_head (lines : Bool) {c : Char} (hquote : c ≠ '"') (s : List Char) :
    (escape lines c ++ s).head? ≠ some '"' := by
  rcases isEscapeOf_escape lines c hquote with ⟨x, heq, -⟩ | ⟨d₁, d₂, d₃, d₄, heq, -⟩ | ⟨heq, -⟩
  · rw [heq]
    simp
  · rw [heq]
    simp
  · rw [heq]
    intro h
    exact hquote (Option.some_inj.mp h)

/-- Behind two quotes in a row the next one is escaped, so that what is written does not start with
a quote unless it is the closing ones. -/
theorem escapeAll_head {run : Nat} (hrun : ¬ run < 2) {s : List Char} (hne : s ≠ [])
    (rest : List Char) : (escapeAll true run s ++ rest).head? ≠ some '"' := by
  cases s with
  | nil => exact absurd rfl hne
  | cons c s =>
      by_cases hquote : c = '"'
      · subst hquote
        rw [escapeAll_quote_escaped hrun]
        simp
      · rw [escapeAll_of_ne true _ hquote, List.append_assoc]
        exact escape_head true hquote _

/-- A quote that is written as it is either has fewer than two others behind it, or is one of the
last characters of the text. -/
theorem raw_quote_cases (run : Nat) (s rest : List Char) :
    (∀ tail, escapeAll true (run + 1) s ++ '"' :: '"' :: '"' :: rest ≠ '"' :: '"' :: tail) ∨
      s = [] ∨ (s = ['"'] ∧ run = 0) := by
  cases s with
  | nil => exact Or.inr (Or.inl rfl)
  | cons c s =>
      by_cases hquote : c = '"'
      · subst hquote
        by_cases hraw : run + 1 < 2
        · by_cases hlast : s = []
          · exact Or.inr (Or.inr ⟨by rw [hlast], by omega⟩)
          · refine Or.inl ?_
            intro tail heq
            rw [escapeAll_quote_raw hraw, List.cons_append, List.cons.injEq] at heq
            exact escapeAll_head (by omega) hlast _ (congrArg List.head? heq.2)
        · refine Or.inl ?_
          intro tail heq
          exact escapeAll_head hraw (List.cons_ne_nil _ _) _ (congrArg List.head? heq)
      · refine Or.inl ?_
        intro tail heq
        rw [escapeAll_of_ne true _ hquote, List.append_assoc] at heq
        exact escape_head true hquote _ (congrArg List.head? heq)

/-- A string of several lines between double quotes is read back, unless another quote follows
it. -/
theorem readEscaped?_escapeAll_lines {rest : List Char} (hrest : rest.head? ≠ some '"') (run : Nat)
    (s : List Char) :
    readEscaped? .lines (escapeAll true run s ++ '"' :: '"' :: '"' :: rest) = some (s, rest) := by
  -- quotes at the end of the text join the closing ones, which are then read all at once
  induction s generalizing run with
  | nil => exact readEscaped?_close hrest 0 (by decide)
  | cons c s ih =>
      by_cases hquote : c = '"'
      · subst hquote
        by_cases hraw : run < 2
        · rw [escapeAll_quote_raw hraw, List.cons_append]
          rcases raw_quote_cases run s rest with halone | rfl | ⟨rfl, rfl⟩
          · exact (readEscaped?_quote halone).trans (congrArg (front '"') (ih (run + 1)))
          · exact readEscaped?_close hrest 1 (by decide)
          · exact readEscaped?_close hrest 2 (by decide)
        · have hread := readEscaped?_simple (x := '"') (c := '"') rfl .lines
            (escapeAll true 0 s ++ '"' :: '"' :: '"' :: rest)
          rw [escapeAll_quote_escaped hraw]
          exact hread.trans (congrArg (front '"') (ih 0))
      · have hread := readEscaped?_of_isEscapeOf .lines (by decide)
          (isEscapeOf_escape true c hquote) (escapeAll true 0 s ++ '"' :: '"' :: '"' :: rest)
        rw [escapeAll_of_ne true run hquote, List.append_assoc]
        exact hread.trans (congrArg (front c) (ih 0))

/-! ## Strings between single quotes -/

/-- A string of one line between single quotes is read back, if it has only plain characters and no
quotes. -/
theorem readLiteral?_append {s : List Char} (h : ∀ c ∈ s, isPlain c = true ∧ c ≠ '\'')
    (rest : List Char) : readLiteral? (s ++ '\'' :: rest) = some (s, rest) := by
  induction s with
  | nil => rfl
  | cons c s ih =>
      obtain ⟨hplain, hquote⟩ := h c List.mem_cons_self
      have hread := ih fun d hd => h d (List.mem_cons_of_mem _ hd)
      simp only [List.cons_append, readLiteral?, if_neg hquote, if_pos hplain, hread,
        Option.map_some]

theorem longestRun_cons (c d : Char) (run : Nat) (s : List Char) :
    longestRun c run (d :: s) =
      if d = c then longestRun c (run + 1) s else max run (longestRun c 0 s) :=
  rfl

theorem le_longestRun (c : Char) (run : Nat) (s : List Char) : run ≤ longestRun c run s := by
  induction s generalizing run with
  | nil => exact Nat.le_refl run
  | cons d s ih =>
      rw [longestRun_cons]
      split
      · exact Nat.le_trans (Nat.le_succ run) (ih (run + 1))
      · exact Nat.le_max_left _ _

theorem longestRun_mono (c : Char) {run run' : Nat} (h : run ≤ run') (s : List Char) :
    longestRun c run s ≤ longestRun c run' s := by
  induction s generalizing run run' with
  | nil => exact h
  | cons d s ih =>
      rw [longestRun_cons, longestRun_cons]
      split
      · exact ih (Nat.succ_le_succ h)
      · omega

/-- The longest run of a text is no longer than that of a longer text. -/
theorem longestRun_le_cons (c d : Char) (s : List Char) :
    longestRun c 0 s ≤ longestRun c 0 (d :: s) := by
  rw [longestRun_cons]
  split
  · exact longestRun_mono c (Nat.zero_le 1) s
  · exact Nat.le_max_right _ _

/-- A text without any run of a character does not have that character. -/
theorem not_mem_of_longestRun_eq_zero {c : Char} {s : List Char} (h : longestRun c 0 s = 0) :
    c ∉ s := by
  induction s with
  | nil => exact List.not_mem_nil
  | cons d s ih =>
      have hrest := longestRun_le_cons c d s
      have hd : c ≠ d := by
        rintro rfl
        have hone := le_longestRun c 1 s
        have hrun : longestRun c 0 (c :: s) = longestRun c 1 s := if_pos rfl
        omega
      rw [List.mem_cons, not_or]
      exact ⟨hd, ih (by omega)⟩

/-- A single quote with fewer than two behind it stands for itself. -/
theorem readLiteralLines?_quote {s : List Char} (h : ∀ rest, s ≠ '\'' :: '\'' :: rest) :
    readLiteralLines? ('\'' :: s) = front '\'' (readLiteralLines? s) := by
  have hplain : isPlain '\'' = true := by decide
  rw [readLiteralLines?.eq_def]
  split
  · next heq => cases heq
  · next heq => exact absurd (List.cons.inj heq).2 (h _)
  · next heq => exact absurd (List.cons.inj heq).2 (h _)
  · next heq => exact absurd (List.cons.inj heq).2 (h _)
  · next heq => exact absurd (List.cons.inj heq).1 (by decide)
  · next heq => exact absurd (List.cons.inj heq).1 (by decide)
  · next heq =>
    obtain ⟨rfl, rfl⟩ := List.cons.inj heq
    rw [if_pos hplain]
    rfl

/-- Any other character of a string of several lines stands for itself. -/
theorem readLiteralLines?_other {c : Char} (hquote : c ≠ '\'')
    (hplain : isPlain c = true ∨ c = '\n') (s : List Char) :
    readLiteralLines? (c :: s) = front c (readLiteralLines? s) := by
  rw [readLiteralLines?.eq_def]
  split
  · next heq => cases heq
  · next heq => exact absurd (List.cons.inj heq).1 hquote
  · next heq => exact absurd (List.cons.inj heq).1 hquote
  · next heq => exact absurd (List.cons.inj heq).1 hquote
  · next heq =>
    obtain ⟨rfl, rfl⟩ := List.cons.inj heq
    rfl
  · next heq =>
    obtain ⟨rfl, -⟩ := List.cons.inj heq
    exact absurd hplain (by decide)
  · next hbreak _ heq =>
    obtain ⟨rfl, rfl⟩ := List.cons.inj heq
    rcases hplain with hplain | rfl
    · rw [if_pos hplain]
      rfl
    · exact (hbreak rfl).elim

/-- Three single quotes end a string, and up to two more in front of them belong to it. -/
theorem readLiteralLines?_close {rest : List Char} (h : rest.head? ≠ some '\'') (count : Nat)
    (hcount : count ≤ 2) :
    readLiteralLines? (List.replicate count '\'' ++ ('\'' :: '\'' :: '\'' :: rest)) =
      some (List.replicate count '\'', rest) := by
  have hcases : count = 0 ∨ count = 1 ∨ count = 2 := by omega
  rw [readLiteralLines?.eq_def]
  rcases hcases with rfl | rfl | rfl
  all_goals
    cases rest with
    | nil => rfl
    | cons c rest =>
        have hc : c ≠ '\'' := by simpa using h
        simp [hc]

/-- A single quote in a text without long runs of them either has fewer than two others behind it,
or is one of the last characters of the text. -/
theorem literal_quote_cases {s : List Char} (hrun : longestRun '\'' 0 ('\'' :: s) ≤ 2)
    (rest : List Char) :
    (∀ tail, s ++ '\'' :: '\'' :: '\'' :: rest ≠ '\'' :: '\'' :: tail) ∨ s = [] ∨ s = ['\''] := by
  cases s with
  | nil => exact Or.inr (Or.inl rfl)
  | cons c s =>
      by_cases hfirst : c = '\''
      · subst hfirst
        cases s with
        | nil => exact Or.inr (Or.inr rfl)
        | cons d s =>
            refine Or.inl ?_
            intro tail heq
            -- with two more behind it the run would be too long to be written this way
            have hsecond : d = '\'' := (List.cons.inj (List.cons.inj heq).2).1
            subst hsecond
            have hthree := le_longestRun '\'' 3 s
            have hlong : longestRun '\'' 0 ('\'' :: '\'' :: '\'' :: s) = longestRun '\'' 3 s := rfl
            omega
      · exact Or.inl fun tail heq => hfirst (List.cons.inj heq).1

/-- A string of several lines between single quotes is read back, if it has only plain characters
and line breaks and never more than two quotes in a row, and no other quote follows it. -/
theorem readLiteralLines?_append {rest : List Char} (hrest : rest.head? ≠ some '\'')
    {s : List Char} (h : ∀ c ∈ s, isPlain c = true ∨ c = '\n') (hrun : longestRun '\'' 0 s ≤ 2) :
    readLiteralLines? (s ++ '\'' :: '\'' :: '\'' :: rest) = some (s, rest) := by
  induction s with
  | nil => exact readLiteralLines?_close hrest 0 (by decide)
  | cons c s ih =>
      have hread := ih (fun d hd => h d (List.mem_cons_of_mem _ hd))
        (Nat.le_trans (longestRun_le_cons _ c s) hrun)
      by_cases hquote : c = '\''
      · subst hquote
        rcases literal_quote_cases hrun rest with halone | rfl | rfl
        · exact (readLiteralLines?_quote halone).trans (congrArg (front '\'') hread)
        · exact readLiteralLines?_close hrest 1 (by decide)
        · exact readLiteralLines?_close hrest 2 (by decide)
      · exact (readLiteralLines?_other hquote (h c List.mem_cons_self) _).trans
          (congrArg (front c) hread)

/-! ## The spelling of a text -/

theorem isPlain_of_not_needsEscape {c : Char} (h : needsEscape c = false) :
    isPlain c = true ∨ c = '\n' := by
  by_cases hbreak : c = '\n'
  · exact Or.inr hbreak
  · refine Or.inl ?_
    by_cases htab : c = '\t'
    · rw [htab]
      decide
    · simp only [needsEscape, bne_iff_ne.mpr htab, bne_iff_ne.mpr hbreak, Bool.true_and,
        Bool.or_eq_false_iff, decide_eq_false_iff_not, beq_eq_false_iff_ne] at h
      simp only [isPlain, Bool.or_eq_true, Bool.and_eq_true, decide_eq_true_eq, bne_iff_ne]
      omega

theorem not_needsEscape_of_any {s : List Char} (h : (!s.any needsEscape) = true) :
    ∀ c ∈ s, needsEscape c = false := by
  simpa using h

/-- A text that is written on one line as it is has plain characters only, and no single quotes. -/
theorem choose_literal {s : List Char} (h : Spelling.choose s = .literal) :
    ∀ c ∈ s, isPlain c = true ∧ c ≠ '\'' := by
  simp only [Spelling.choose] at h
  split at h
  · cases h
  · split at h
    · next hliteral =>
      simp only [Bool.and_eq_true, beq_iff_eq] at hliteral
      obtain ⟨⟨hcontrols, hsingle⟩, hbreak⟩ := hliteral
      intro c hc
      have hquote : c ≠ '\'' := by
        rintro rfl
        exact not_mem_of_longestRun_eq_zero hsingle hc
      rcases isPlain_of_not_needsEscape (not_needsEscape_of_any hcontrols c hc) with
        hplain | rfl
      · exact ⟨hplain, hquote⟩
      · simp [hc] at hbreak
    · split at h
      · cases h
      · split at h
        · cases h
        · split at h <;> cases h

/-- A text that is written on several lines as it is has plain characters and line breaks only, and
no more than two single quotes in a row. -/
theorem choose_literalLines {s : List Char} (h : Spelling.choose s = .literalLines) :
    (∀ c ∈ s, isPlain c = true ∨ c = '\n') ∧ longestRun '\'' 0 s ≤ 2 := by
  simp only [Spelling.choose] at h
  split at h
  · cases h
  · split at h
    · cases h
    · split at h
      · cases h
      · split at h
        · next hliteral =>
          simp only [Bool.and_eq_true, decide_eq_true_eq] at hliteral
          obtain ⟨hcontrols, hsingle⟩ := hliteral
          exact ⟨fun c hc => isPlain_of_not_needsEscape (not_needsEscape_of_any hcontrols c hc),
            hsingle⟩
        · split at h <;> cases h

/-- The line break in front of a text of several lines does not count, and without one a text does
not start with one. -/
theorem skipBreak_opening {s : List Char} (body : List Char)
    (h : '\n' ∉ s → body.head? ≠ some '\n' ∧ body.head? ≠ some '\r') :
    skipBreak ((if s.contains '\n' then ['\n'] else []) ++ body) = body := by
  by_cases hbreak : '\n' ∈ s
  · simp only [List.contains_iff_mem.mpr hbreak, if_true]
    rfl
  · obtain ⟨hnewline, hreturn⟩ := h hbreak
    have hnone : s.contains '\n' = false := by
      simpa using hbreak
    simp only [hnone, Bool.false_eq_true, if_false, List.nil_append]
    cases body with
    | nil => rfl
    | cons c body =>
        have hc : c ≠ '\n' ∧ c ≠ '\r' := by simpa using And.intro hnewline hreturn
        simp [skipBreak, afterBreak?, hc.1, hc.2]

/-- Neither spelling of several lines starts with a line break if the text has none. -/
theorem escapeAll_head_ne_break {s : List Char} (h : '\n' ∉ s) (rest : List Char) :
    (escapeAll true 0 s ++ '"' :: rest).head? ≠ some '\n' ∧
      (escapeAll true 0 s ++ '"' :: rest).head? ≠ some '\r' := by
  cases s with
  | nil =>
      exact ⟨fun hhead => absurd (Option.some_inj.mp hhead) (by decide),
        fun hhead => absurd (Option.some_inj.mp hhead) (by decide)⟩
  | cons c s =>
      rw [List.mem_cons, not_or] at h
      by_cases hquote : c = '"'
      · subst hquote
        rw [escapeAll_quote_raw (by decide)]
        exact ⟨by simp, by simp⟩
      · rw [escapeAll_of_ne true 0 hquote, List.append_assoc]
        rcases isEscapeOf_escape true c hquote with
          ⟨x, heq, -⟩ | ⟨d₁, d₂, d₃, d₄, heq, -⟩ | ⟨heq, -, -, hplain | ⟨-, hbreak⟩⟩
        · rw [heq]
          exact ⟨by simp, by simp⟩
        · rw [heq]
          exact ⟨by simp, by simp⟩
        · rw [heq]
          obtain ⟨hnewline, hreturn⟩ := ne_break_of_isPlain hplain
          exact ⟨fun hhead => hnewline (Option.some_inj.mp hhead),
            fun hhead => hreturn (Option.some_inj.mp hhead)⟩
        · exact absurd hbreak.symm h.1

theorem literal_head_ne_break {s : List Char} (hplain : ∀ c ∈ s, isPlain c = true ∨ c = '\n')
    (h : '\n' ∉ s) (rest : List Char) :
    (s ++ '\'' :: rest).head? ≠ some '\n' ∧ (s ++ '\'' :: rest).head? ≠ some '\r' := by
  cases s with
  | nil => exact ⟨by simp, by simp⟩
  | cons c s =>
      rw [List.mem_cons, not_or] at h
      rcases hplain c List.mem_cons_self with hc | hbreak
      · obtain ⟨hnewline, hreturn⟩ := ne_break_of_isPlain hc
        exact ⟨fun hhead => hnewline (Option.some_inj.mp hhead),
          fun hhead => hreturn (Option.some_inj.mp hhead)⟩
      · exact absurd hbreak.symm h.1

/-! ## Every text -/

/-- The first quote of a string of one line is not the first of three. -/
theorem readString?_line {body : List Char} (h : ∀ rest, body ≠ '"' :: '"' :: rest) :
    readString? ('"' :: body) = readEscaped? .line body := by
  rw [readString?]
  exact h

theorem readString?_literal {body : List Char} (h : ∀ rest, body ≠ '\'' :: '\'' :: rest) :
    readString? ('\'' :: body) = readLiteral? body := by
  rw [readString?]
  exact h

/-- Every text is read back from the way it is written, unless another quote follows it. -/
theorem readString?_textValue (s : List Char) {rest : List Char} (hdouble : rest.head? ≠ some '"')
    (hsingle : rest.head? ≠ some '\'') : readString? (textValue s ++ rest) = some (s, rest) := by
  unfold textValue
  cases hspelling : Spelling.choose s with
  | escaped =>
      -- an empty text has two quotes, of which the second is not followed by a third
      have hone : ∀ tail, escapeAll false 0 s ++ '"' :: rest ≠ '"' :: '"' :: tail := by
        intro tail heq
        cases s with
        | nil => exact hdouble (congrArg List.head? (List.cons.inj heq).2)
        | cons c s =>
            by_cases hquote : c = '"'
            · rw [hquote, escapeAll_quote_line] at heq
              exact absurd (List.cons.inj heq).1 (by decide)
            · rw [escapeAll_of_ne false 0 hquote, List.append_assoc] at heq
              exact escape_head false hquote _ (congrArg List.head? heq)
      have hread := (readString?_line hone).trans (readEscaped?_escapeAll_line 0 s rest)
      simpa [Spelling.delimiter, Spelling.hasLines] using hread
  | literal =>
      have hplain := choose_literal hspelling
      have hone : ∀ tail, s ++ '\'' :: rest ≠ '\'' :: '\'' :: tail := by
        intro tail heq
        cases s with
        | nil => exact hsingle (congrArg List.head? (List.cons.inj heq).2)
        | cons c s => exact (hplain c List.mem_cons_self).2 (List.cons.inj heq).1
      have hread := (readString?_literal hone).trans (readLiteral?_append hplain rest)
      simpa [Spelling.delimiter, Spelling.hasLines] using hread
  | escapedLines =>
      have hskip := skipBreak_opening (escapeAll true 0 s ++ '"' :: '"' :: '"' :: rest)
        fun hnoBreak => escapeAll_head_ne_break hnoBreak _
      have hread := readEscaped?_escapeAll_lines hdouble 0 s
      rw [← hskip] at hread
      simpa [Spelling.delimiter, Spelling.hasLines, readString?] using hread
  | literalLines =>
      obtain ⟨hplain, hrun⟩ := choose_literalLines hspelling
      have hskip := skipBreak_opening (s ++ '\'' :: '\'' :: '\'' :: rest)
        fun hnoBreak => literal_head_ne_break hplain hnoBreak _
      have hread := readLiteralLines?_append hsingle hplain hrun
      rw [← hskip] at hread
      simpa [Spelling.delimiter, Spelling.hasLines, readString?] using hread

end VpnClient.Toml
