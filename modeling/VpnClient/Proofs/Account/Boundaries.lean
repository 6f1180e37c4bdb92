import VpnClient.Proofs.Account.Window

/-!
# The boundaries of the warning

The user is warned in the last days of an account.  When the warning next appears or disappears is
computed by a function of its own, for which a timer is set; it aims at exactly the moments at which
the warning does change.

## Main Definitions

* `Account.VisitsBoundaries` — the boundaries after an instant, each the next one of the one before
* `Account.ChangesAt` — the warning at an instant is another one than just before it

## Main Statements

* `Account.position_warningStart` — the warning starts as many days early as it should, or at the
  beginning of time
* `Account.ofAccount?_eq_of_lt_boundary`, `Account.ofAccount?_ne_at_boundary` — the warning does not
  change before the next boundary, and changes there
* `Account.VisitsBoundaries.mem_iff` — the boundaries are the moments of change
* `Account.boundaries_follow_warning` — all of this
-/

namespace VpnClient

open Notification (ofAccount?)

namespace Account

/-! ## The start of the warning -/

variable {account : Account} {warningDays : Nat} {now later : Instant}

/-- The warning starts as many days before the expiry as it should.  If that lies before the
beginning of time, it starts there. -/
theorem position_warningStart (h : account.expiry.IsRegular) (warningDays : Nat) :
    (account.warningStart warningDays).position =
      max Instant.earliest.position (account.expiry.position - warningDays * daySpan) := by
  have hspan : (0 : Int) ≤ warningDays * daySpan := by
    unfold daySpan secondSpan
    omega
  have hback : -(warningDays : Int) * daySpan = -(warningDays * daySpan) := Int.neg_mul _ _
  unfold warningStart Instant.addDays?
  cases hstart : account.expiry.add? (-(warningDays : Int) * daySpan) with
  | some start =>
      obtain ⟨hregular, hposition⟩ := (h.add?_eq_some_iff _ start).mp hstart
      have hlow := hregular.earliest_position_le
      rw [Option.getD_some]
      omega
  | none =>
      -- only the beginning of time can be in the way
      have hbefore : account.expiry.position - warningDays * daySpan
          < Instant.earliest.position := by
        by_contra hwithin
        have hhigh := h.position_le_latest
        obtain ⟨start, hregular, hposition⟩ := Instant.exists_of_position
          (account.expiry.position - warningDays * daySpan) (by omega) (by omega)
        have hsome := (h.add?_eq_some_iff (-(warningDays : Int) * daySpan) start).mpr
          ⟨hregular, by omega⟩
        rw [hstart] at hsome
        cases hsome
      rw [Option.getD_none]
      omega

/-- A warning of at least one day that does not start with time itself ends after its start. -/
theorem warningStart_lt_expiry (h : account.expiry.IsRegular) (hdays : 1 ≤ warningDays)
    (hnow : now.IsRegular) (hbefore : now < account.warningStart warningDays) :
    account.warningStart warningDays < account.expiry := by
  have hstart := warningStart_isRegular h warningDays
  have hposition := position_warningStart h warningDays
  have hlow := hnow.earliest_position_le
  rw [hnow.lt_iff hstart] at hbefore
  rw [hstart.lt_iff h]
  unfold daySpan secondSpan at hposition
  omega

/-! ## Before a boundary and at a boundary -/

theorem ofAccount?_some (account : Account) (warningDays : Nat) (now : Instant) :
    ofAccount? (some account) warningDays now =
      if account.isEnding warningDays now then some (.accountExpiry account.expiry) else none := rfl

/-- Without a next boundary there is no warning, now or later. -/
theorem ofAccount?_eq_none_of_boundary (hnone : account.nextBoundary? warningDays now = none)
    (hle : now ≤ later) : ofAccount? (some account) warningDays later = none := by
  rw [nextBoundary?_eq] at hnone
  split at hnone
  · cases hnone
  · split at hnone
    · next hexpired =>
      rw [ofAccount?_some, if_neg]
      rw [isEnding_iff]
      exact fun hending => hending.2 (Instant.le_trans hexpired hle)
    · cases hnone

/-- Before the next boundary the warning stays as it is. -/
theorem ofAccount?_eq_of_lt_boundary {b : Instant}
    (hb : account.nextBoundary? warningDays now = some b) (hle : now ≤ later) (hlt : later < b) :
    ofAccount? (some account) warningDays later = ofAccount? (some account) warningDays now := by
  have hbefore : ∀ b', account.nextBoundary? warningDays now = some b' → later < b' := by
    intro b' hb'
    rw [hb, Option.some_inj] at hb'
    exact hb' ▸ hlt
  rw [ofAccount?_some, ofAccount?_some, (boundaries_of_before_boundary hle hbefore).2]

/-- At the next boundary the warning changes: it appears at its start and disappears at the
expiry. -/
theorem ofAccount?_ne_at_boundary (h : account.expiry.IsRegular) (hdays : 1 ≤ warningDays)
    (hnow : now.IsRegular) {b : Instant} (hb : account.nextBoundary? warningDays now = some b) :
    ofAccount? (some account) warningDays b ≠ ofAccount? (some account) warningDays now := by
  rw [nextBoundary?_eq] at hb
  simp only [ofAccount?_some, isEnding_iff]
  split at hb
  · next hbefore =>
    cases hb
    have hlt := warningStart_lt_expiry h hdays hnow hbefore
    rw [if_pos ⟨Instant.le_refl _, hlt⟩, if_neg fun hending => hbefore hending.1]
    exact Option.some_ne_none _
  · next hstarted =>
    split at hb
    · cases hb
    · next hnotExpired =>
      cases hb
      rw [if_neg fun hending => hending.2 (Instant.le_refl _),
        if_pos ⟨Instant.not_lt.mp hstarted, hnotExpired⟩]
      exact (Option.some_ne_none _).symm

/-! ## One boundary after the other -/

/-- The boundaries after an instant: the next one, then the next one of that, until there is
none. -/
inductive VisitsBoundaries (account : Option Account) (warningDays : Nat) :
    Instant → List Instant → Prop where
  | stop {now : Instant} (h : account.bind (·.nextBoundary? warningDays now) = none) :
      VisitsBoundaries account warningDays now []
  | visit {now b : Instant} {rest : List Instant}
      (h : account.bind (·.nextBoundary? warningDays now) = some b)
      (hrest : VisitsBoundaries account warningDays b rest) :
      VisitsBoundaries account warningDays now (b :: rest)

/-- After an instant, the warning at a later one is another one than at all times just before it. -/
def ChangesAt (account : Option Account) (warningDays : Nat) (now t : Instant) : Prop :=
  now < t ∧ ∃ since, now ≤ since ∧ since < t ∧ ∀ u, since ≤ u → u < t →
    ofAccount? account warningDays u ≠ ofAccount? account warningDays t

/-- The boundaries end: there are at most the start of the warning and the expiry. -/
theorem exists_visitsBoundaries (account : Account) (warningDays : Nat) (now : Instant) :
    ∃ visited, VisitsBoundaries (some account) warningDays now visited ∧ visited.length ≤ 2 := by
  have hstop : ∀ t, ¬ t < account.warningStart warningDays → account.expiry ≤ t →
      VisitsBoundaries (some account) warningDays t [] := by
    intro t hstarted hexpired
    refine .stop ?_
    rw [Option.bind_some, nextBoundary?_eq, if_neg hstarted, if_pos hexpired]
  -- behind the start of the warning there is at most the expiry
  have hwarned : ∀ t, ¬ t < account.warningStart warningDays →
      ∃ visited, VisitsBoundaries (some account) warningDays t visited ∧ visited.length ≤ 1 := by
    intro t hstarted
    by_cases hexpired : account.expiry ≤ t
    · exact ⟨[], hstop t hstarted hexpired, Nat.zero_le 1⟩
    · refine ⟨[account.expiry], .visit ?_ (hstop _ ?_ (Instant.le_refl _)), Nat.le_refl 1⟩
      · rw [Option.bind_some, nextBoundary?_eq, if_neg hstarted, if_neg hexpired]
      · exact fun hlt => hstarted (Instant.lt_of_le_of_lt (Instant.le_of_lt hexpired) hlt)
  by_cases hbefore : now < account.warningStart warningDays
  · obtain ⟨visited, hvisits, hlength⟩ := hwarned _ (Instant.lt_irrefl _)
    refine ⟨account.warningStart warningDays :: visited, .visit ?_ hvisits,
      Nat.succ_le_succ hlength⟩
    rw [Option.bind_some, nextBoundary?_eq, if_pos hbefore]
  · obtain ⟨visited, hvisits, hlength⟩ := hwarned now hbefore
    exact ⟨visited, hvisits, Nat.le_succ_of_le hlength⟩

/-- The next boundary is the first moment of change. -/
theorem changesAt_boundary (h : account.expiry.IsRegular) (hdays : 1 ≤ warningDays)
    (hnow : now.IsRegular) {b : Instant} (hb : account.nextBoundary? warningDays now = some b) :
    ChangesAt (some account) warningDays now b := by
  have hlt := (nextBoundary?_spec h hb).2
  refine ⟨hlt, now, Instant.le_refl _, hlt, ?_⟩
  intro u hle hbefore
  rw [ofAccount?_eq_of_lt_boundary hb hle hbefore]
  exact (ofAccount?_ne_at_boundary h hdays hnow hb).symm

/-- Nothing changes before the next boundary. -/
theorem le_of_changesAt {b t : Instant} (hb : account.nextBoundary? warningDays now = some b)
    (ht : ChangesAt (some account) warningDays now t) : b ≤ t := by
  obtain ⟨-, since, hsince, hlt, hdiffers⟩ := ht
  by_contra hbefore
  have hbt : t < b := hbefore
  refine hdiffers since (Instant.le_refl _) hlt ?_
  rw [ofAccount?_eq_of_lt_boundary hb hsince (Instant.lt_of_lt_of_le hlt (Instant.le_of_lt hbt)),
    ofAccount?_eq_of_lt_boundary hb (Instant.le_of_lt (Instant.lt_of_le_of_lt hsince hlt)) hbt]

/-- What changes after an instant also changes after an earlier one, and the other way round if it
lies behind the later one. -/
theorem changesAt_iff_of_lt {account : Option Account} {b t : Instant} (hle : now ≤ b)
    (hbt : b < t) :
    ChangesAt account warningDays now t ↔ ChangesAt account warningDays b t := by
  constructor
  · rintro ⟨-, since, hsince, hlt, hdiffers⟩
    -- the later one of the two instants is just before the change as well
    by_cases hb : b ≤ since
    · exact ⟨hbt, since, hb, hlt, hdiffers⟩
    · exact ⟨hbt, b, Instant.le_refl _, hbt, fun u hu =>
        hdiffers u (Instant.le_trans (Instant.le_of_lt hb) hu)⟩
  · rintro ⟨-, since, hsince, hlt, hdiffers⟩
    exact ⟨Instant.lt_of_le_of_lt hle hbt, since, Instant.le_trans hle hsince, hlt, hdiffers⟩

/-- The boundaries after an instant are the moments at which the warning changes after it. -/
theorem VisitsBoundaries.mem_iff (h : account.expiry.IsRegular) (hdays : 1 ≤ warningDays)
    {visited : List Instant} (hvisits : VisitsBoundaries (some account) warningDays now visited)
    (hnow : now.IsRegular) (t : Instant) :
    t ∈ visited ↔ ChangesAt (some account) warningDays now t := by
  induction hvisits with
  | @stop now hnone =>
      refine iff_of_false List.not_mem_nil ?_
      rintro ⟨hlt, since, hsince, hbefore, hdiffers⟩
      refine hdiffers since (Instant.le_refl _) hbefore ?_
      rw [ofAccount?_eq_none_of_boundary hnone hsince,
        ofAccount?_eq_none_of_boundary hnone (Instant.le_of_lt hlt)]
  | @visit now b rest hb hrest ih =>
      obtain ⟨hregular, hlt⟩ := nextBoundary?_spec h hb
      have hchange := changesAt_boundary h hdays hnow hb
      rw [List.mem_cons, ih hregular]
      constructor
      · rintro (rfl | ht)
        · exact hchange
        · exact (changesAt_iff_of_lt (Instant.le_of_lt hlt) ht.1).mpr ht
      · intro ht
        have hle := le_of_changesAt hb ht
        by_cases hsame : t ≤ b
        · exact Or.inl (Instant.le_antisymm hsame hle)
        · exact Or.inr ((changesAt_iff_of_lt (Instant.le_of_lt hlt) hsame).mp ht)

theorem VisitsBoundaries.unique {account : Option Account} {visited other : List Instant}
    (hvisits : VisitsBoundaries account warningDays now visited)
    (hother : VisitsBoundaries account warningDays now other) : visited = other := by
  induction hvisits generalizing other with
  | stop hnone =>
      cases hother with
      | stop _ => rfl
      | visit hb _ => cases hnone.symm.trans hb
  | visit hb _ ih =>
      cases hother with
      | stop hnone => cases hb.symm.trans hnone
      | visit hb' hrest =>
          obtain rfl := Option.some.inj (hb.symm.trans hb')
          rw [ih hrest]

/-! ## The boundaries and the warning -/

/-- What can be said about the next boundary of the warning at an instant: the days of the warning
make up a span in milliseconds that is a number of sixty-four bits, and subtracting them does not
lead out of time; without a boundary there is no warning from now on; a boundary is to come, and it
is the first moment at which the warning changes.  One boundary after the other, the moments of
change are visited, which are at most two. -/
structure BoundariesFollowWarning (account : Option Account) (warningDays : Nat) (now : Instant) :
    Prop where
  span : warningDays < UInt32.size → warningDays * 86400 * 1000 < signedSize
  start : ∀ a, account = some a → (a.warningStart warningDays).IsRegular ∧
    (a.warningStart warningDays).position =
      max Instant.earliest.position (a.expiry.position - warningDays * daySpan)
  none_after : account.bind (·.nextBoundary? warningDays now) = none →
    ∀ later, now ≤ later → ofAccount? account warningDays later = none
  lt_boundary : ∀ b, account.bind (·.nextBoundary? warningDays now) = some b →
    b.IsRegular ∧ now < b
  same_before : ∀ b, account.bind (·.nextBoundary? warningDays now) = some b →
    ∀ t, now ≤ t → t < b →
      ofAccount? account warningDays t = ofAccount? account warningDays now
  changes : 1 ≤ warningDays → ∀ b, account.bind (·.nextBoundary? warningDays now) = some b →
    ofAccount? account warningDays b ≠ ofAccount? account warningDays now
  visits : ∃ visited, VisitsBoundaries account warningDays now visited ∧ visited.length ≤ 2 ∧
    (∀ other, VisitsBoundaries account warningDays now other → other = visited) ∧
    (1 ≤ warningDays → ∀ t, t ∈ visited ↔ ChangesAt account warningDays now t)

/-- For every account or none, every number of days and every instant outside the leap seconds, the
next boundary is the next moment at which the warning changes. -/
theorem boundaries_follow_warning {account : Option Account}
    (haccount : ∀ a, account = some a → a.expiry.IsRegular) (warningDays : Nat)
    (hnow : now.IsRegular) : BoundariesFollowWarning account warningDays now := by
  have hspan : warningDays < UInt32.size → warningDays * 86400 * 1000 < signedSize := by
    unfold UInt32.size signedSize
    omega
  cases account with
  | none =>
      have hstop : VisitsBoundaries none warningDays now [] := .stop rfl
      refine ⟨hspan, nofun, fun _ _ _ => rfl, nofun, nofun, nofun,
        [], hstop, Nat.zero_le 2, fun other hother => hother.unique hstop, fun _ t => ?_⟩
      refine iff_of_false List.not_mem_nil ?_
      rintro ⟨-, since, -, hlt, hdiffers⟩
      exact hdiffers since (Instant.le_refl _) hlt rfl
  | some account =>
      have hexpiry := haccount account rfl
      obtain ⟨visited, hvisits, hlength⟩ := exists_visitsBoundaries account warningDays now
      refine ⟨hspan, ?_, fun hnone later => ofAccount?_eq_none_of_boundary hnone,
        fun b hb => nextBoundary?_spec hexpiry hb, fun b hb t => ofAccount?_eq_of_lt_boundary hb,
        fun hdays b hb => ofAccount?_ne_at_boundary hexpiry hdays hnow hb,
        visited, hvisits, hlength, fun other hother => hother.unique hvisits,
        fun hdays t => hvisits.mem_iff hexpiry hdays hnow t⟩
      rintro a ⟨⟩
      exact ⟨warningStart_isRegular hexpiry warningDays, position_warningStart hexpiry warningDays⟩

/-- The warning of thirty days of an account that ends one day after the beginning of time starts
with time itself, and its only boundary is the expiry. -/
theorem boundaries_follow_warning_of_earliest :
    let account : Account := ⟨"1", ⟨Instant.earliest.seconds + 86400, 0⟩⟩
    account.expiry.IsRegular ∧ Instant.earliest.IsRegular ∧
      account.warningStart 30 = .earliest ∧
      VisitsBoundaries (some account) 30 .earliest [account.expiry] ∧
      BoundariesFollowWarning (some account) 30 .earliest := by
  intro account
  have hexpiry : account.expiry.IsRegular := by decide
  refine ⟨hexpiry, Instant.earliest_isRegular, by decide, .visit (by decide) (.stop (by decide)),
    boundaries_follow_warning ?_ 30 Instant.earliest_isRegular⟩
  rintro a ⟨⟩
  exact hexpiry

end Account

end VpnClient
