import Mathlib.Tactic.ByContra
import VpnClient.Clock

/-!
# Positions on the time line

Away from leap seconds an instant is its distance from the epoch, and everything that is said about
instants can be said about whole numbers of nanoseconds.

## Main Definitions

* `Instant.IsRegular` — an instant of the time line that lies in no leap second
* `Instant.position` — the nanoseconds from the epoch to an instant

## Main Statements

* `Instant.IsRegular.le_iff` — the order in time is the order of the positions
* `Instant.IsRegular.since_eq` — a span is the difference of two positions
* `Instant.IsRegular.add?_eq_some_iff`, `Instant.IsRegular.add?_eq_none` — adding a span moves the
  position by it, unless that leads beyond the ends of time
-/

namespace VpnClient

namespace Instant

/-- An instant between the beginning and the end of time that lies in no leap second. -/
structure IsRegular (t : Instant) : Prop where
  inRange : hasSecond t.seconds = true
  nanos_lt : t.nanos < 1000000000

instance (t : Instant) : Decidable t.IsRegular :=
  decidable_of_iff (hasSecond t.seconds = true ∧ t.nanos < 1000000000)
    ⟨fun h => ⟨h.1, h.2⟩, fun h => ⟨h.inRange, h.nanos_lt⟩⟩

/-- The nanoseconds from the epoch to an instant. -/
def position (t : Instant) : Int :=
  t.seconds * secondSpan + t.nanos

theorem earliest_isRegular : earliest.IsRegular := by decide

theorem latest_isRegular : latest.IsRegular := by decide

theorem le_def (a b : Instant) :
    a ≤ b ↔ a.seconds < b.seconds ∨ a.seconds = b.seconds ∧ a.nanos ≤ b.nanos := by
  show Instant.le a b = true ↔ _
  simp [Instant.le]

theorem lt_iff_not_le (a b : Instant) : a < b ↔ ¬ b ≤ a := Iff.rfl

protected theorem le_refl (a : Instant) : a ≤ a := by
  rw [le_def]
  omega

protected theorem le_trans {a b c : Instant} (hab : a ≤ b) (hbc : b ≤ c) : a ≤ c := by
  rw [le_def] at *
  omega

protected theorem not_lt {a b : Instant} : ¬ a < b ↔ b ≤ a := not_not

protected theorem lt_irrefl (a : Instant) : ¬ a < a :=
  fun h => h (Instant.le_refl a)

protected theorem le_of_lt {a b : Instant} (h : a < b) : a ≤ b := by
  rw [lt_iff_not_le, le_def] at h
  rw [le_def]
  omega

protected theorem lt_of_le_of_lt {a b c : Instant} (hab : a ≤ b) (hbc : b < c) : a < c :=
  fun hca => hbc (Instant.le_trans hca hab)

protected theorem lt_of_lt_of_le {a b c : Instant} (hab : a < b) (hbc : b ≤ c) : a < c :=
  fun hca => hab (Instant.le_trans hbc hca)

protected theorem le_antisymm {a b : Instant} (hab : a ≤ b) (hba : b ≤ a) : a = b := by
  rw [le_def] at hab hba
  cases a
  cases b
  simp only [Instant.mk.injEq] at *
  omega

namespace IsRegular

variable {a b t : Instant}

/-- The order in time is the order of the positions. -/
theorem le_iff (ha : a.IsRegular) (hb : b.IsRegular) : a ≤ b ↔ a.position ≤ b.position := by
  have hna := ha.nanos_lt
  have hnb := hb.nanos_lt
  rw [le_def]
  unfold position secondSpan
  omega

theorem lt_iff (ha : a.IsRegular) (hb : b.IsRegular) : a < b ↔ a.position < b.position := by
  rw [lt_iff_not_le, hb.le_iff ha, Int.not_le]

theorem not_inLeapSecond (ht : t.IsRegular) : t.inLeapSecond = false := by
  have h := ht.nanos_lt
  simp only [inLeapSecond, decide_eq_false_iff_not]
  omega

/-- A span between instants outside the leap seconds is the difference of their positions. -/
theorem since_eq (ha : a.IsRegular) (hb : b.IsRegular) :
    a.since b = a.position - b.position := by
  have hcorrection : leapCorrection a b = 0 := by
    simp [leapCorrection, ha.not_inLeapSecond, hb.not_inLeapSecond]
  unfold since position
  rw [hcorrection]
  unfold secondSpan
  omega

theorem position_le_latest (ht : t.IsRegular) : t.position ≤ latest.position := by
  have hrange := ht.inRange
  have hnanos := ht.nanos_lt
  have hlatest : latest.nanos = 999999999 := rfl
  simp only [hasSecond, Bool.and_eq_true, decide_eq_true_eq] at hrange
  unfold position secondSpan
  omega

theorem le_latest (ht : t.IsRegular) : t ≤ latest :=
  (ht.le_iff latest_isRegular).mpr ht.position_le_latest

theorem earliest_le (ht : t.IsRegular) : earliest ≤ t := by
  have hrange := ht.inRange
  have hfirst : earliest.nanos = 0 := rfl
  simp only [hasSecond, Bool.and_eq_true, decide_eq_true_eq] at hrange
  rw [le_def]
  omega

theorem earliest_position_le (ht : t.IsRegular) : earliest.position ≤ t.position :=
  (earliest_isRegular.le_iff ht).mp ht.earliest_le

end IsRegular

/-! ## Adding a span -/

/-- Seconds and nanoseconds that are counted from some second make up a regular instant, if there
is one there, and its position is their sum. -/
theorem ofSecond?_eq_some_iff (second nanos : Int) (u : Instant) :
    ofSecond? second nanos = some u ↔
      u.IsRegular ∧ u.position = second * secondSpan + nanos := by
  have hdiv : nanos / secondSpan * secondSpan + nanos % secondSpan = nanos :=
    Int.ediv_mul_add_emod nanos secondSpan
  have hnonneg : 0 ≤ nanos % secondSpan := Int.emod_nonneg nanos (by decide)
  have hlt : nanos % secondSpan < secondSpan := Int.emod_lt_of_pos nanos (by decide)
  simp only [ofSecond?]
  constructor
  · intro h
    by_cases hrange : hasSecond (second + nanos / secondSpan) = true
    · rw [if_pos hrange, Option.some_inj] at h
      subst h
      refine ⟨⟨hrange, ?_⟩, ?_⟩
      · unfold secondSpan at *
        simp only
        omega
      · unfold position secondSpan at *
        simp only
        omega
    · rw [if_neg hrange] at h
      cases h
  · rintro ⟨hu, hposition⟩
    have hnanos := hu.nanos_lt
    have hseconds : second + nanos / secondSpan = u.seconds := by
      unfold position secondSpan at *
      omega
    have hrest : (nanos % secondSpan).toNat = u.nanos := by
      unfold position secondSpan at *
      omega
    simp only [hseconds, hrest, hu.inRange, if_true]

variable {t : Instant}

/-- Away from leap seconds a span moves the position. -/
theorem IsRegular.add?_eq_some_iff (ht : t.IsRegular) (span : Int) (u : Instant) :
    t.add? span = some u ↔ u.IsRegular ∧ u.position = t.position + span := by
  have hsplit : span.tdiv secondSpan * secondSpan + span.tmod secondSpan = span :=
    Int.tdiv_mul_add_tmod span secondSpan
  have hsum : (t.seconds + span.tdiv secondSpan) * secondSpan
      + ((t.nanos : Int) + span.tmod secondSpan) = t.position + span := by
    unfold position
    rw [Int.add_mul]
    omega
  unfold add?
  simp only [ht.not_inLeapSecond, Bool.false_eq_true, if_false]
  rw [ofSecond?_eq_some_iff, hsum]

/-- A position between the ends of time is that of a regular instant. -/
theorem exists_of_position (p : Int) (hlow : earliest.position ≤ p)
    (hhigh : p ≤ latest.position) : ∃ u : Instant, u.IsRegular ∧ u.position = p := by
  have hdiv : p / secondSpan * secondSpan + p % secondSpan = p :=
    Int.ediv_mul_add_emod p secondSpan
  have hnonneg : 0 ≤ p % secondSpan := Int.emod_nonneg p (by decide)
  have hlt : p % secondSpan < secondSpan := Int.emod_lt_of_pos p (by decide)
  have hfirst : earliest.nanos = 0 := rfl
  have hlast : latest.nanos = 999999999 := rfl
  refine ⟨⟨p / secondSpan, (p % secondSpan).toNat⟩, ⟨?_, ?_⟩, ?_⟩
  · unfold position at hlow hhigh
    simp only [hasSecond, Bool.and_eq_true, decide_eq_true_eq]
    unfold secondSpan at *
    omega
  · unfold secondSpan at *
    simp only
    omega
  · unfold position
    unfold secondSpan at *
    simp only
    omega

/-- A span forward from a regular instant is only refused when it leads beyond the end of time. -/
theorem IsRegular.add?_eq_none (ht : t.IsRegular) {span : Int} (hspan : 0 ≤ span)
    (hnone : t.add? span = none) : latest.position < t.position + span := by
  by_contra hle
  have hlow := ht.earliest_position_le
  obtain ⟨u, hu, hposition⟩ :=
    exists_of_position (t.position + span) (by omega) (by omega)
  have hsome : t.add? span = some u := (ht.add?_eq_some_iff span u).mpr ⟨hu, hposition⟩
  rw [hnone] at hsome
  cases hsome

/-- Days later than a regular instant there is a regular instant, if there is one at all. -/
theorem IsRegular.addDays? (ht : t.IsRegular) {days : Int} {u : Instant}
    (h : t.addDays? days = some u) : u.IsRegular :=
  ((ht.add?_eq_some_iff _ u).mp h).1

end Instant

end VpnClient
