import VpnClient.Proofs.Text.Blank
import VpnClient.Proofs.Text.Numeral
import VpnClient.Proofs.Time.Calendar
import VpnClient.Proofs.Time.Position
import VpnClient.Time.Timestamp

/-!
# Timestamps are read back

The canonical text of an instant outside the leap seconds is read as that instant, whatever its year
and however many digits its fraction has.

## Main Statements

* `Instant.readDate?_dateText`, `Instant.readFraction?_fractionText` — the parts of a timestamp
* `Instant.IsRegular.ofTimestamp?_timestamp` — whole timestamps
-/

namespace VpnClient

namespace Instant

open Text (numeral padLeft zeroPadded isDecimalDigit isBlank trimStart trimStart_cons readNumeral?)

variable {rest : List Char} {n : Nat}

/-! ## Numbers -/

/-- Digits are read up to the end of the number, which is where the width is used up or where
something else begins. -/
theorem readDigits?_append {digits : List Char} {most : Nat}
    (hdigits : ∀ c ∈ digits, isDecimalDigit c = true) (hread : readNumeral? 10 digits = some n)
    (hlength : digits.length ≤ most) (rest : List Char)
    (hend : digits.length = most ∨ ∀ c ∈ rest.head?, isDecimalDigit c = false) :
    readDigits? most (digits ++ rest) = some (n, rest) := by
  have hstop : (rest.take (most - digits.length)).takeWhile isDecimalDigit = [] := by
    rcases hend with hfull | hother
    · rw [hfull, Nat.sub_self]
      rfl
    · cases rest with
      | nil => rw [List.take_nil, List.takeWhile_nil]
      | cons c rest =>
          cases most - digits.length with
          | zero => rfl
          | succ count =>
              rw [List.take_succ_cons, List.takeWhile_cons_of_neg]
              rw [hother c rfl]
              decide
  have hspan : ((digits ++ rest).take most).takeWhile isDecimalDigit = digits := by
    rw [List.take_append, List.take_of_length_le hlength, List.takeWhile_append_of_pos hdigits,
      hstop, List.append_nil]
  simp only [readDigits?, hspan, hread, Option.map_some, List.drop_left]

theorem isDecimalDigit_of_mem_padLeft (width n : Nat) :
    ∀ c ∈ padLeft '0' width (numeral 10 n), isDecimalDigit c = true :=
  Text.forall_mem_padLeft (by decide) Text.isDecimalDigit_digit width n

/-- A padded numeral starts with a digit, so that no blank and no sign stands in front of it. -/
theorem exists_padLeft_cons (width n : Nat) (rest : List Char) :
    ∃ c s, padLeft '0' width (numeral 10 n) ++ rest = c :: s ∧
      isBlank c = false ∧ c ≠ '-' ∧ c ≠ '+' := by
  obtain ⟨c, s, hcons⟩ := List.exists_cons_of_ne_nil (Text.padLeft_ne_nil width n)
  have hclass : isBlank c = false ∧ c ≠ '-' ∧ c ≠ '+' :=
    Text.forall_mem_padLeft (P := fun c => isBlank c = false ∧ c ≠ '-' ∧ c ≠ '+')
      (by decide) (by decide +kernel) width n c (hcons ▸ List.mem_cons_self)
  exact ⟨c, s ++ rest, by rw [hcons, List.cons_append], hclass⟩

theorem trimStart_padLeft (width n : Nat) (rest : List Char) :
    trimStart (padLeft '0' width (numeral 10 n) ++ rest) =
      padLeft '0' width (numeral 10 n) ++ rest := by
  obtain ⟨c, s, hcons, hblank, -⟩ := exists_padLeft_cons width n rest
  rw [hcons, trimStart_cons hblank]

/-- A number of two digits is read where a field of a date or a time of day is expected. -/
theorem readField?_padLeft {least greatest : Nat} (hlow : least ≤ n) (hhigh : n ≤ greatest)
    (hwidth : n < 100) (rest : List Char) :
    readField? least greatest (padLeft '0' 2 (numeral 10 n) ++ rest) = some (n, rest) := by
  have hlength := Text.length_padLeft (by decide : 1 ≤ 2) hwidth
  have hdigits := readDigits?_append (isDecimalDigit_of_mem_padLeft 2 n)
    (Text.readNumeral?_padLeft 2 n) (Nat.le_of_eq hlength) rest (Or.inl hlength)
  simp only [readField?, trimStart_padLeft, hdigits, Option.bind_eq_bind, Option.bind_some]
  rw [if_pos ⟨hlow, hhigh⟩]

theorem readSeparator?_cons {separator : Char} (h : isBlank separator = false) (s : List Char) :
    readSeparator? separator (separator :: s) = some s := by
  simp only [readSeparator?, trimStart_cons h, if_true]

/-! ## Dates -/

/-- A year is read back, with a sign in front of it or without one. -/
theorem readYear?_yearText (year : Int) (rest : List Char) :
    readYear? ((yearText year).toList ++ '-' :: rest) = some (year, '-' :: rest) := by
  have hread (most : Nat) (hlength : (padLeft '0' 4 (numeral 10 year.natAbs)).length ≤ most) :
      readDigits? most (padLeft '0' 4 (numeral 10 year.natAbs) ++ '-' :: rest) =
        some (year.natAbs, '-' :: rest) := by
    refine readDigits?_append (isDecimalDigit_of_mem_padLeft 4 _) (Text.readNumeral?_padLeft 4 _)
      hlength _ (Or.inr ?_)
    rintro c hc
    obtain rfl := Option.some.inj hc
    decide
  have hlong : (padLeft '0' 4 (numeral 10 year.natAbs)).length ≤
      (padLeft '0' 4 (numeral 10 year.natAbs) ++ '-' :: rest).length := by
    rw [List.length_append]
    omega
  rw [yearText]
  split
  · next hplain =>
    have hlength := Text.length_padLeft (n := year.natAbs) (by decide : 1 ≤ 4) (by omega)
    obtain ⟨c, s, hcons, -, hminus, hplus⟩ := exists_padLeft_cons 4 year.natAbs ('-' :: rest)
    have hdigits := hread 4 (Nat.le_of_eq hlength)
    rw [zeroPadded, String.toList_ofList, readYear?, trimStart_padLeft]
    rw [hcons] at hdigits ⊢
    split
    · next heq => exact absurd (List.cons.inj heq).1 hminus
    · next heq => exact absurd (List.cons.inj heq).1 hplus
    · simp only [hdigits, Option.map_some, Int.natAbs_of_nonneg hplain.1]
  · next hsigned =>
    rw [String.toList_append, zeroPadded, String.toList_ofList]
    by_cases hnegative : year < 0
    · have hsign : "-".toList = ['-'] := by decide
      rw [if_pos hnegative, hsign, List.append_assoc, List.singleton_append, readYear?,
        trimStart_cons (by decide)]
      simp only [hread _ hlong, Option.map_some, Option.some_inj, Prod.mk.injEq, and_true]
      omega
    · have hsign : "+".toList = ['+'] := by decide
      rw [if_neg hnegative, hsign, List.append_assoc, List.singleton_append, readYear?,
        trimStart_cons (by decide)]
      simp only [hread _ hlong, Option.map_some, Option.some_inj, Prod.mk.injEq, and_true]
      omega

variable {t : Instant}

/-- Between the ends of time there are no other years than those that can be read. -/
theorem year_bounds (h : hasSecond t.seconds = true) :
    firstYear ≤ t.date.year ∧ t.date.year ≤ lastYear := by
  obtain ⟨hbegun, hnext⟩ := Date.year_ofDayNumber_bounds (t.seconds / 86400)
  have hfirst : earliest.seconds = (Date.mk firstYear 1 1).dayNumber * 86400 := rfl
  have hlast : latest.seconds = (Date.mk (lastYear + 1) 1 1).dayNumber * 86400 - 1 := rfl
  simp only [hasSecond, Bool.and_eq_true, decide_eq_true_eq] at h
  rw [date]
  constructor
  · by_contra hearly
    have hmono := Date.dayNumber_newYear_mono
      (show (Date.ofDayNumber (t.seconds / 86400)).year + 1 ≤ firstYear by omega)
    omega
  · by_contra hlate
    have hmono := Date.dayNumber_newYear_mono
      (show lastYear + 1 ≤ (Date.ofDayNumber (t.seconds / 86400)).year by omega)
    omega

/-- The date of an instant between the ends of time is read back. -/
theorem readDate?_dateText (h : hasSecond t.seconds = true) (rest : List Char) :
    readDate? (t.dateText.toList ++ rest) = some (t.date, rest) := by
  have hvalid : t.date.isValid = true := Date.isValid_ofDayNumber _
  obtain ⟨hmonth, hmonths, hday, hdays⟩ := Date.bounds_of_isValid hvalid
  have hdash : "-".toList = ['-'] := by decide
  simp only [dateText, String.toList_append, hdash, zeroPadded, String.toList_ofList,
    List.append_assoc, List.cons_append, List.nil_append]
  simp only [readDate?, readYear?_yearText, Option.bind_eq_bind, Option.bind_some,
    readSeparator?_cons (by decide : isBlank '-' = false),
    readField?_padLeft hmonth hmonths (by omega), readField?_padLeft hday hdays (by omega)]
  rw [if_pos ⟨hvalid, year_bounds h⟩]

/-! ## Times of day -/

/-- The digits behind a point are read as so many nanoseconds. -/
theorem readFraction?_zeroPadded {width : Nat} (hpos : 1 ≤ width) (hwidth : width ≤ 9)
    (h : n < 10 ^ width) {c : Char} (hc : isDecimalDigit c = false) (rest : List Char) :
    readFraction? (("." ++ zeroPadded width n).toList ++ c :: rest) =
      some (n * 10 ^ (9 - width), c :: rest) := by
  have hpoint : ".".toList = ['.'] := by decide
  have hdigits := isDecimalDigit_of_mem_padLeft width n
  have hlength := Text.length_padLeft hpos h
  have hstop : isDecimalDigit c ≠ true := by
    rw [hc]
    decide
  have htake : (padLeft '0' width (numeral 10 n) ++ c :: rest).takeWhile isDecimalDigit =
      padLeft '0' width (numeral 10 n) := by
    rw [List.takeWhile_append_of_pos hdigits, List.takeWhile_cons_of_neg hstop, List.append_nil]
  have hdrop : (padLeft '0' width (numeral 10 n) ++ c :: rest).dropWhile isDecimalDigit =
      c :: rest := by
    rw [List.dropWhile_append_of_pos hdigits, List.dropWhile_cons_of_neg hstop]
  rw [String.toList_append, hpoint, zeroPadded, String.toList_ofList, List.append_assoc,
    List.singleton_append]
  simp only [readFraction?, htake, hdrop, List.take_of_length_le (hlength ▸ hwidth), hlength,
    Text.readNumeral?_padLeft, Option.map_some]
  rfl

/-- The fraction of a second is read back. -/
theorem readFraction?_fractionText {nanos : Nat} (h : nanos < 1000000000) {c : Char}
    (hc : isDecimalDigit c = false) (hpoint : c ≠ '.') (rest : List Char) :
    readFraction? ((fractionText nanos).toList ++ c :: rest) = some (nanos, c :: rest) := by
  rw [fractionText]
  split
  · next hnone =>
    rw [hnone, show "".toList ++ c :: rest = c :: rest from rfl, readFraction?]
    intro s heq
    exact absurd (List.cons.inj heq).1 hpoint
  · split
    · rw [readFraction?_zeroPadded (by decide) (by decide) (by omega) hc]
      simp only [Option.some_inj, Prod.mk.injEq, and_true]
      omega
    · split
      · rw [readFraction?_zeroPadded (by decide) (by decide) (by omega) hc]
        simp only [Option.some_inj, Prod.mk.injEq, and_true]
        omega
      · rw [readFraction?_zeroPadded (by decide) (by decide) h hc]
        simp only [Nat.sub_self, Nat.pow_zero, Nat.mul_one]

/-- The time of day of a regular instant is read back. -/
theorem IsRegular.readTime?_clockText (h : t.IsRegular) (rest : List Char) :
    readTime? (t.clockText.toList ++ ':' ::
        (padLeft '0' 2 (numeral 10 (t.secondOfDay.toNat % 60)) ++
          ((fractionText t.nanos).toList ++ 'Z' :: rest))) =
      some ((t.secondOfDay.toNat, t.nanos), 'Z' :: rest) := by
  have hday : t.secondOfDay.toNat < 86400 := by
    rw [secondOfDay]
    omega
  have hhour := readField?_padLeft (Nat.zero_le (t.secondOfDay.toNat / 3600))
    (show _ ≤ 23 by omega) (by omega)
  have hminute := readField?_padLeft (Nat.zero_le (t.secondOfDay.toNat / 60 % 60))
    (show _ ≤ 59 by omega) (by omega)
  have hsecond := readField?_padLeft (Nat.zero_le (t.secondOfDay.toNat % 60))
    (show _ ≤ 60 by omega) (by omega)
  have hfraction := readFraction?_fractionText h.nanos_lt (by decide : isDecimalDigit 'Z' = false)
    (by decide)
  have hplain : t.secondOfDay.toNat % 60 ≠ 60 := by omega
  have hcolon : ":".toList = [':'] := by decide
  simp only [clockText, String.toList_append, hcolon, zeroPadded, String.toList_ofList,
    List.append_assoc, List.cons_append, List.nil_append]
  simp only [readTime?, Option.bind_eq_bind, Option.bind_some,
    readSeparator?_cons (by decide : isBlank ':' = false), hhour, hminute, hsecond, hfraction,
    if_neg hplain, Option.some_inj, Prod.mk.injEq, and_true]
  omega

/-! ## Timestamps -/

/-- The canonical text of a regular instant is read as that instant. -/
theorem IsRegular.ofTimestamp?_timestamp (h : t.IsRegular) :
    ofTimestamp? t.timestamp.toList = some t := by
  have hleap := h.not_inLeapSecond
  have htext : t.timestamp.toList = t.dateText.toList ++ 'T' :: (t.clockText.toList ++ ':' ::
      (padLeft '0' 2 (numeral 10 (t.secondOfDay.toNat % 60)) ++
        ((fractionText t.nanos).toList ++ ['Z']))) := by
    have hmarks : "T".toList = ['T'] ∧ ":".toList = [':'] ∧ "Z".toList = ['Z'] := by decide
    simp only [timestamp, hleap, Bool.false_eq_true, if_false, Nat.add_zero, String.toList_append,
      hmarks, zeroPadded, String.toList_ofList, List.append_assoc, List.cons_append,
      List.nil_append]
  have hnumber : t.date.dayNumber = t.seconds / 86400 := Date.dayNumber_ofDayNumber _
  have hseconds : t.date.dayNumber * 86400 + (t.secondOfDay.toNat : Int) - 0 = t.seconds := by
    rw [hnumber, secondOfDay]
    omega
  have hclock : atClock? t.date t.secondOfDay.toNat t.nanos 0 = some t := by
    simp only [atClock?, hseconds]
    rw [if_pos ⟨by decide, h.inRange⟩]
  have hoffset : readOffset? (trimStart ['Z']) = some (0, []) := by decide
  simp only [ofTimestamp?, htext, readDate?_dateText h.inRange, Option.bind_eq_bind,
    Option.bind_some, true_or, if_true, h.readTime?_clockText, hoffset, List.isEmpty_nil, hclock]

/-- The document form of a regular instant is decoded to the instant. -/
theorem IsRegular.ofData?_toData (h : t.IsRegular) : ofData? t.toData = some t :=
  h.ofTimestamp?_timestamp

end Instant

end VpnClient
