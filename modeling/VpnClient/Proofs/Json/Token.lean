import Mathlib.Data.List.TakeWhile
import VpnClient.Json.Reader
import VpnClient.Json.Writer
import VpnClient.Proofs.Text.Numeral

/-!
# Numbers and strings in JSON text

A number is read alike wherever it stands, so that one that is read back from its digits alone is
read back inside a text.  Whole numbers of sixty-four bits are.  Of the others most are, but not
all, since the reader rounds twice: once when it takes the digits, and once when it moves the point.
A string is always read back from its quoted form.

## Main Definitions

* `Json.BeginsNumber`, `Json.EndsNumber` — what a number begins with, and what may stand behind it
* `Json.isReadBack` — whether a number is read back from its digits

## Main Statements

* `Json.readNumber?_append` — a number is read alike with more text behind it
* `Json.readNumber?_signedDecimal` — a whole number is read back from its digits
* `Json.readString?_quote` — a string is read back from its quoted form
-/

namespace VpnClient

namespace Json

open Text (numeral digit padLeft isDecimalDigit)

variable {s rest : List Char}

/-! ## Numbers -/

/-- What may stand behind a number: nothing that would make it another one. -/
def EndsNumber (rest : List Char) : Prop :=
  ∀ c ∈ rest.head?, isDecimalDigit c = false ∧ c ≠ '.' ∧ c ≠ 'e' ∧ c ≠ 'E'

theorem endsNumber_cons {c : Char}
    (h : isDecimalDigit c = false ∧ c ≠ '.' ∧ c ≠ 'e' ∧ c ≠ 'E') (s : List Char) :
    EndsNumber (c :: s) := by
  intro d hd
  exact Option.some.inj hd ▸ h

/-- What a number begins with: its sign or a digit. -/
def BeginsNumber (c : Char) : Prop :=
  c = '-' ∨ isDecimalDigit c = true

theorem BeginsNumber.ne {c c' : Char} (h : BeginsNumber c) (hsign : c' ≠ '-')
    (hdigit : isDecimalDigit c' = false) : c ≠ c' := by
  rintro rfl
  rcases h with h | h
  · exact hsign h
  · exact Bool.noConfusion (h.symm.trans hdigit)

theorem spanDigits_append (hend : EndsNumber rest) (s : List Char) :
    spanDigits (s ++ rest) = ((spanDigits s).1, (spanDigits s).2 ++ rest) := by
  have hstop : rest.takeWhile isDecimalDigit = [] ∧ rest.dropWhile isDecimalDigit = rest := by
    cases rest with
    | nil => exact ⟨rfl, rfl⟩
    | cons c rest =>
        have hc : ¬ isDecimalDigit c = true := by
          rw [(hend c rfl).1]
          decide
        exact ⟨List.takeWhile_cons_of_neg hc, List.dropWhile_cons_of_neg hc⟩
  induction s with
  | nil => rw [List.nil_append, spanDigits, hstop.1, hstop.2]; rfl
  | cons c s ih =>
      simp only [spanDigits, Prod.mk.injEq] at ih ⊢
      by_cases hc : isDecimalDigit c = true
      · simp only [List.cons_append, List.takeWhile_cons_of_pos hc, List.dropWhile_cons_of_pos hc,
          List.filterMap_cons, ih, and_self]
      · simp only [List.cons_append, List.takeWhile_cons_of_neg hc, List.dropWhile_cons_of_neg hc,
          and_self]

/-- The sign of an exponent, and what stands behind it. -/
def exponentSign : List Char → Bool × List Char
  | '-' :: r => (true, r)
  | '+' :: r => (false, r)
  | r => (false, r)

/-- The digits of an exponent behind its sign. -/
def exponentDigits? (negative : Bool) : List Nat × List Char → Option (Option Int × List Char)
  | ([], _) => none
  | (ds, rest) =>
    let n : Nat := ds.foldl (fun n d => n * 10 + d) 0
    some (some (if negative then -(n : Int) else n), rest)

theorem readExponent?_mark {c : Char} (hmark : c = 'e' ∨ c = 'E') (s : List Char) :
    readExponent? (c :: s) =
      exponentDigits? (exponentSign s).1 (spanDigits (exponentSign s).2) := by
  rw [readExponent?.eq_def]
  simp only [if_pos hmark]
  rfl

/-- What begins without the mark of an exponent has none. -/
theorem readExponent?_of_not_mark {c : Char} (hmark : ¬ (c = 'e' ∨ c = 'E')) (s : List Char) :
    readExponent? (c :: s) = some (none, c :: s) := by
  rw [readExponent?.eq_def]
  simp only [if_neg hmark]

theorem exponentSign_append (h : s ≠ []) (rest : List Char) :
    exponentSign (s ++ rest) = ((exponentSign s).1, (exponentSign s).2 ++ rest) := by
  cases s with
  | nil => exact absurd rfl h
  | cons c s =>
      simp only [List.cons_append, exponentSign]
      split <;> split <;> simp_all

/-- An exponent is read alike with more text behind it. -/
theorem readExponent?_append (hend : EndsNumber rest) {exponent : Option Int} {t : List Char}
    (h : readExponent? s = some (exponent, t)) :
    readExponent? (s ++ rest) = some (exponent, t ++ rest) := by
  cases s with
  | nil =>
      obtain ⟨rfl, rfl⟩ : none = exponent ∧ [] = t := Prod.mk.inj (Option.some.inj h)
      cases rest with
      | nil => rfl
      | cons c rest =>
          obtain ⟨-, -, hlower, hupper⟩ := hend c rfl
          exact readExponent?_of_not_mark (not_or.mpr ⟨hlower, hupper⟩) rest
  | cons c s =>
      by_cases hmark : c = 'e' ∨ c = 'E'
      · rw [List.cons_append, readExponent?_mark hmark]
        rw [readExponent?_mark hmark] at h
        have hne : s ≠ [] := by
          rintro rfl
          cases h
        rw [exponentSign_append hne, spanDigits_append hend]
        cases hspan : spanDigits (exponentSign s).2 with
        | mk ds r =>
            rw [hspan] at h
            cases ds with
            | nil => cases h
            | cons d ds =>
                simp only [exponentDigits?, Option.some_inj, Prod.mk.injEq] at h ⊢
                exact ⟨h.1, h.2 ▸ rfl⟩
      · rw [readExponent?_of_not_mark hmark] at h
        obtain ⟨rfl, rfl⟩ : none = exponent ∧ c :: s = t := Prod.mk.inj (Option.some.inj h)
        exact readExponent?_of_not_mark hmark (s ++ rest)

/-- A number behind its fraction, if it has one. -/
def behindFraction? (negative : Bool) (wholePart withFraction : Significand) (pointed : Bool)
    (s : List Char) : Option (Data × List Char) := do
  let (exponent, rest) ← readExponent? s
  let number ← match exponent with
    | some e => assemble? negative { withFraction with exponent := withFraction.exponent + e } e
    | none =>
      if pointed || wholePart.full then (withFraction.toFloat? negative).map .float
      else if !negative then some (.integer wholePart.value)
      else if wholePart.value = 0 ∨ signedSize < wholePart.value then
        some (.float (-(UInt64.ofNat wholePart.value).toFloat))
      else some (.integer (-(wholePart.value : Int)))
  some (number, rest)

/-- A number behind its digits in front of the point. -/
def behindWhole? (negative : Bool) (s : List Char) (wholePart : Significand) :
    Option (Data × List Char) := do
  let (withFraction, pointed, rest) ← match s with
    | '.' :: r =>
      match spanDigits r with
      | ([], _) => none
      | (fs, r) => some (fs.foldl Significand.fraction { wholePart with full := false }, true, r)
    | r => some (wholePart, false, r)
  behindFraction? negative wholePart withFraction pointed rest

/-- The digits in front of the point. -/
def wholePart? : List Nat → Option Significand
  | [] => none
  | 0 :: _ :: _ => none
  | ds => some (ds.foldl Significand.whole ⟨0, 0, false⟩)

theorem readMagnitude?_eq (negative : Bool) (s : List Char) :
    readMagnitude? negative s =
      (wholePart? (spanDigits s).1).bind (behindWhole? negative (spanDigits s).2) := by
  rw [readMagnitude?.eq_def]
  rcases spanDigits s with ⟨_ | ⟨_ | d, _ | ⟨e, ds⟩⟩, r⟩ <;> rfl

section Append

variable {negative pointed : Bool} {wholePart withFraction : Significand} {d : Data}
  {t : List Char}

/-- Which number it is does not depend on what stands behind it. -/
theorem behindFraction?_append (hend : EndsNumber rest)
    (h : behindFraction? negative wholePart withFraction pointed s = some (d, t)) :
    behindFraction? negative wholePart withFraction pointed (s ++ rest) = some (d, t ++ rest) := by
  rw [behindFraction?, Option.bind_eq_bind] at h
  obtain ⟨⟨exponent, u⟩, hexponent, h⟩ := Option.bind_eq_some_iff.mp h
  rw [behindFraction?, Option.bind_eq_bind, readExponent?_append hend hexponent, Option.bind_some]
  cases exponent with
  | some e =>
      obtain ⟨number, hnumber, h⟩ := Option.bind_eq_some_iff.mp h
      obtain ⟨rfl, rfl⟩ := Prod.mk.inj (Option.some.inj h)
      simp only [hnumber, Option.bind_eq_bind, Option.bind_some]
  | none =>
      simp only [Option.bind_eq_bind, Option.bind_some] at h ⊢
      cases hfloat : withFraction.toFloat? negative with
      | none => grind
      | some x => grind

theorem behindWhole?_of_head (h : s.head? ≠ some '.') :
    behindWhole? negative s wholePart = behindFraction? negative wholePart wholePart false s := by
  rw [behindWhole?.eq_def]
  split
  · exact absurd rfl h
  · rfl

theorem behindWhole?_point (s : List Char) : behindWhole? negative ('.' :: s) wholePart =
    match spanDigits s with
    | ([], _) => none
    | (fs, r) => behindFraction? negative wholePart
        (fs.foldl Significand.fraction { wholePart with full := false }) true r := by
  simp only [behindWhole?]
  rcases spanDigits s with ⟨_ | ⟨f, fs⟩, r⟩ <;> rfl

theorem behindWhole?_append (hend : EndsNumber rest)
    (h : behindWhole? negative s wholePart = some (d, t)) :
    behindWhole? negative (s ++ rest) wholePart = some (d, t ++ rest) := by
  by_cases hpoint : s.head? = some '.'
  · obtain ⟨s, rfl⟩ := List.head?_eq_some_iff.mp hpoint
    rw [behindWhole?_point] at h
    rw [List.cons_append, behindWhole?_point, spanDigits_append hend]
    generalize spanDigits s = span at h ⊢
    obtain ⟨_ | ⟨f, fs⟩, r⟩ := span
    · cases h
    · exact behindFraction?_append hend h
  · have hrest : (s ++ rest).head? ≠ some '.' := by
      cases s with
      | nil => exact fun hhead => (hend '.' hhead).2.1 rfl
      | cons c s => exact hpoint
    rw [behindWhole?_of_head hpoint] at h
    rw [behindWhole?_of_head hrest]
    exact behindFraction?_append hend h

theorem readNumber?_of_ne {c : Char} (h : c ≠ '-') (s : List Char) :
    readNumber? (c :: s) = readMagnitude? false (c :: s) := by
  rw [readNumber?]
  rintro s ⟨⟩
  exact h rfl

/-- A number is read alike with more text behind it. -/
theorem readNumber?_append (hend : EndsNumber rest) (h : readNumber? s = some (d, t)) :
    readNumber? (s ++ rest) = some (d, t ++ rest) := by
  have hmagnitude (negative : Bool) (s : List Char)
      (h : readMagnitude? negative s = some (d, t)) :
      readMagnitude? negative (s ++ rest) = some (d, t ++ rest) := by
    rw [readMagnitude?_eq] at h ⊢
    obtain ⟨whole, hwhole, h⟩ := Option.bind_eq_some_iff.mp h
    rw [spanDigits_append hend, hwhole, Option.bind_some]
    exact behindWhole?_append hend h
  cases s with
  | nil => cases h
  | cons c s =>
      by_cases hminus : c = '-'
      · subst hminus
        exact hmagnitude true s h
      · rw [readNumber?_of_ne hminus] at h
        rw [List.cons_append, readNumber?_of_ne hminus]
        exact hmagnitude false (c :: s) h

/-- A number begins with its sign or with a digit. -/
theorem beginsNumber_of_readNumber? (h : readNumber? s = some (d, t)) :
    ∃ c s', s = c :: s' ∧ BeginsNumber c := by
  cases s with
  | nil => cases h
  | cons c s =>
      refine ⟨c, s, rfl, ?_⟩
      by_cases hminus : c = '-'
      · exact Or.inl hminus
      · refine Or.inr (Classical.byContradiction fun hdigit => ?_)
        rw [readNumber?_of_ne hminus, readMagnitude?_eq, spanDigits,
          List.takeWhile_cons_of_neg hdigit] at h
        cases h

end Append

/-! ### Whole numbers -/

section Whole

open Text (digitValue?)

variable {n : Nat}

/-- The digits of a number are taken as that number if it fits into sixty-four bits. -/
theorem foldl_whole_numeral (hn : n < UInt64.size) :
    ((numeral 10 n).filterMap (digitValue? 10)).foldl Significand.whole ⟨0, 0, false⟩ =
      ⟨n, 0, false⟩ := by
  induction n using Text.numeral_induction (by decide : 2 ≤ 10) with
  | hlast n hlast =>
      have hdigit := Text.digitValue?_digit 10 (by decide) n hlast
      rw [Text.numeral_of_lt hlast, List.filterMap_cons_some hdigit]
      simp only [List.filterMap_nil, List.foldl_cons, List.foldl_nil, Significand.whole]
      rw [if_neg (by simp; omega), Nat.zero_mul, Nat.zero_add]
  | hstep n hle ih =>
      have hdigit := Text.digitValue?_digit 10 (by decide) (n % 10) (Nat.mod_lt n (by decide))
      rw [Text.numeral_of_le (by decide) hle, List.filterMap_append, List.foldl_append,
        ih (by omega), List.filterMap_cons_some hdigit]
      simp only [List.filterMap_nil, List.foldl_cons, List.foldl_nil, Significand.whole]
      rw [if_neg (by simp; omega), Nat.div_add_mod']

theorem spanDigits_numeral (n : Nat) :
    spanDigits (numeral 10 n) = ((numeral 10 n).filterMap (digitValue? 10), []) := by
  have hdigits : ∀ c ∈ numeral 10 n, isDecimalDigit c = true :=
    Text.forall_mem_numeral (by decide) Text.isDecimalDigit_digit n
  rw [spanDigits, List.takeWhile_eq_self_iff.mpr hdigits, List.dropWhile_eq_nil_iff.mpr hdigits]

theorem wholePart?_of_head {ds : List Nat} (hne : ds ≠ []) (hzero : ds.head? = some 0 → ds = [0]) :
    wholePart? ds = some (ds.foldl Significand.whole ⟨0, 0, false⟩) := by
  rw [wholePart?.eq_def]
  split
  · exact absurd rfl hne
  · exact absurd (hzero rfl) (by simp)
  · rfl

/-- Nothing is wrong with the digits of a number: there are some, and none is a zero in front. -/
theorem wholePart?_numeral (hn : n < UInt64.size) :
    wholePart? ((numeral 10 n).filterMap (digitValue? 10)) = some ⟨n, 0, false⟩ := by
  have hdigits : ∀ c ∈ numeral 10 n, ∃ value, digitValue? 10 c = some value ∧
      (value = 0 → c = '0') := by
    refine Text.forall_mem_numeral (by decide) (fun value hvalue => ?_) n
    exact ⟨value, Text.digitValue?_digit 10 (by decide) value hvalue, fun hzero => hzero ▸ rfl⟩
  obtain ⟨c, rest, hnumeral⟩ :=
    List.exists_cons_of_ne_nil (Text.numeral_ne_nil (by decide : 2 ≤ 10) n)
  obtain ⟨value, hvalue, hzero⟩ := hdigits c (hnumeral ▸ List.mem_cons_self)
  have hhead := Text.numeral_head (by decide : 2 ≤ 10) (by decide) n
  rw [← foldl_whole_numeral hn]
  rw [hnumeral] at hhead ⊢
  rw [List.filterMap_cons_some hvalue]
  refine wholePart?_of_head (List.cons_ne_nil _ _) ?_
  intro h
  have hc : c = '0' := hzero (Option.some.inj h)
  rcases hhead with hhead | hhead
  · exact absurd (congrArg some hc) hhead
  · rw [(List.cons.inj hhead).2, Option.some.inj h]
    rfl

theorem readMagnitude?_numeral (negative : Bool) (hn : n < UInt64.size) :
    readMagnitude? negative (numeral 10 n) =
      behindFraction? negative ⟨n, 0, false⟩ ⟨n, 0, false⟩ false [] := by
  rw [readMagnitude?_eq, spanDigits_numeral, wholePart?_numeral hn, Option.bind_some,
    behindWhole?_of_head (by simp)]

/-- A whole number of sixty-four bits is read back from its digits. -/
theorem readNumber?_signedDecimal {n : Int} (hlow : -(signedSize : Int) ≤ n)
    (hhigh : n < UInt64.size) :
    readNumber? (Text.signedDecimal n).toList = some (.integer n, []) := by
  have hsize : signedSize < UInt64.size := by decide
  have habs : n.natAbs < UInt64.size := by omega
  by_cases hnegative : n < 0
  · have hvalue : ¬ (n.natAbs = 0 ∨ signedSize < n.natAbs) := by omega
    have hsign : (Text.signedDecimal n).toList = '-' :: numeral 10 n.natAbs := by
      simp [Text.signedDecimal, hnegative, Text.decimal]
    rw [hsign, readNumber?, readMagnitude?_numeral true habs, behindFraction?, readExponent?]
    simp only [Option.bind_eq_bind, Option.bind_some, Bool.or_self, Bool.false_eq_true, if_false,
      Bool.not_true, if_neg hvalue]
    rw [(by omega : -(n.natAbs : Int) = n)]
  · have hsign : (Text.signedDecimal n).toList = numeral 10 n.natAbs := by
      simp [Text.signedDecimal, hnegative, Text.decimal]
    have hmagnitude : readNumber? (numeral 10 n.natAbs) =
        readMagnitude? false (numeral 10 n.natAbs) := by
      have hdigits : ∀ c ∈ numeral 10 n.natAbs, c ≠ '-' :=
        Text.forall_mem_numeral (by decide) (by decide +kernel) n.natAbs
      obtain ⟨c, s, hs⟩ :=
        List.exists_cons_of_ne_nil (Text.numeral_ne_nil (by decide : 2 ≤ 10) n.natAbs)
      rw [hs]
      exact readNumber?_of_ne (hdigits c (hs ▸ List.mem_cons_self)) s
    rw [hsign, hmagnitude, readMagnitude?_numeral false habs, behindFraction?, readExponent?]
    simp only [Option.bind_eq_bind, Option.bind_some, Bool.or_self, Bool.false_eq_true, if_false,
      Bool.not_false, if_true]
    rw [(by omega : (n.natAbs : Int) = n)]

end Whole

/-! ### Numbers with a fraction -/

/-- Whether a number is read back from the digits it is written with. -/
def isReadBack (x : Float) : Bool :=
  match readNumber? (write (.float x)).toList with
  | some (.float y, []) => decide (y = x)
  | _ => false

theorem readNumber?_of_isReadBack {x : Float} (h : isReadBack x = true) :
    readNumber? (write (.float x)).toList = some (.float x, []) := by
  rw [isReadBack] at h
  split at h
  · next y hread => rw [hread, of_decide_eq_true h]
  · exact absurd h Bool.false_ne_true

/-! ## Strings -/

/-- What has been read, with a character in front of the string. -/
def withChar (c : Char) (read : List Char × List Char) : List Char × List Char :=
  (c :: read.1, read.2)

theorem bind_withChar (c : Char) (read? : Option (List Char × List Char)) :
    (read?.bind fun read => some (c :: read.1, read.2)) = read?.map (withChar c) := by
  cases read? <;> rfl

/-- A character of its own is read as itself. -/
theorem readString?_plain {c : Char} (hquote : c ≠ '"') (hmark : c ≠ '\\')
    (hcontrol : 0x20 ≤ c.toNat) (s : List Char) :
    readString? (c :: s) = (readString? s).map (withChar c) := by
  have hallowed : (decide (c.toNat < 0x20) || c == '\\') = false := by
    simpa [hmark] using hcontrol
  rw [readString?, hallowed, ← bind_withChar]
  · rfl
  · exact hquote
  · exact fun _ _ _ _ _ _ _ _ _ h => absurd h hmark
  · exact fun _ _ _ _ _ h => absurd h hmark
  · exact fun _ _ h => absurd h hmark

/-- A mark behind a backslash is read as the character it stands for. -/
theorem readString?_mark {mark c : Char} (h : simpleEscape? mark = some c) (s : List Char) :
    readString? ('\\' :: mark :: s) = (readString? s).map (withChar c) := by
  have hmark : mark ≠ 'u' := by
    rintro rfl
    cases h
  rw [readString?, h, ← bind_withChar]
  · rfl
  · exact fun _ _ _ _ _ _ _ _ _ h => absurd h hmark
  · exact fun _ _ _ _ _ h => absurd h hmark

/-- A code unit that belongs to no pair is read as the character it stands for. -/
theorem readString?_unit {a b c d : Char} {unit : Nat} (h : readHex4? a b c d = some unit)
    (hunit : unit < 0xd800) (s : List Char) :
    readString? ('\\' :: 'u' :: a :: b :: c :: d :: s) =
      (readString? s).map (withChar (Char.ofNat unit)) := by
  have hpair : ¬ (0xd800 ≤ unit ∧ unit < 0xdc00) := by omega
  have hlow : ¬ (0xdc00 ≤ unit ∧ unit < 0xe000) := by omega
  have hsurrogate : ¬ (0xd800 ≤ unit ∧ unit < 0xe000) := by omega
  rw [← bind_withChar]
  -- another code unit may follow, which the reader looks at in case the two are a pair
  by_cases hnext : ∃ a' b' c' d' t, s = '\\' :: 'u' :: a' :: b' :: c' :: d' :: t
  · obtain ⟨a', b', c', d', t, rfl⟩ := hnext
    rw [readString?, h, Option.bind_eq_bind, Option.bind_some, if_neg hpair, if_neg hlow]
    rfl
  · rw [readString?, h, Option.bind_eq_bind, Option.bind_some, if_neg hsurrogate]
    · rfl
    · exact fun a' b' c' d' t hs => hnext ⟨a', b', c', d', t, hs⟩

/-- Two of four hexadecimal digits are enough for a control character. -/
theorem readHex4?_digit : ∀ n < 0x20,
    padLeft '0' 4 (numeral 16 n) = ['0', '0', digit (n / 16), digit (n % 16)] ∧
      readHex4? '0' '0' (digit (n / 16)) (digit (n % 16)) = some n := by
  decide +kernel

/-- A character is read from what stands for it inside a string. -/
theorem readString?_escape (c : Char) (s : List Char) :
    readString? (escape c ++ s) = (readString? s).map (withChar c) := by
  rw [escape.eq_def]
  split
  case h_8 hquote hmark _ _ _ _ _ =>
    split
    · next hcontrol =>
      obtain ⟨htext, hread⟩ := readHex4?_digit c.toNat hcontrol
      rw [htext]
      have hunit := readString?_unit hread (by omega) s
      rwa [Char.ofNat_toNat] at hunit
    · next hcontrol => exact readString?_plain hquote hmark (by omega) s
  all_goals exact readString?_mark rfl s

/-- A string is read back from its quoted form. -/
theorem readString?_quote (s rest : List Char) :
    readString? (s.flatMap escape ++ '"' :: rest) = some (s, rest) := by
  induction s with
  | nil => rw [List.flatMap_nil, List.nil_append, readString?]
  | cons c s ih =>
      rw [List.flatMap_cons, List.append_assoc, readString?_escape, ih]
      rfl

end Json

end VpnClient
