import Mathlib.Logic.ExistsUnique
import VpnClient.Proofs.Account.Boundaries
import VpnClient.Screen.Watch

/-!
# How users are told of the time that is left

There are three views of the time an account has left: the days that are counted, the warning that
it runs out, and the rule that it is over.  They agree on one of three stages, which follow each
other.

## Main Definitions

* `TimeLeft` — the stages
* `Account.Tells` — what the three views say in a stage
* `Account.CountsDays` — how the days that are counted go down

## Main Statements

* `Account.daysLeft_eq` — the days that are counted are the exact distance, rounded toward zero
* `Account.tells_ample`, `Account.tells_ending`, `Account.tells_over` — the stages follow each other
  at the start of the warning and at the expiry
* `Account.views_agree` — the views agree on exactly one stage
* `Account.not_views_agree_in_leapSecond` — they need not if the expiry lies in a leap second
-/

namespace VpnClient

open Notification (ofAccount?)

/-- A stage in the time of an account: there is plenty left, it runs out, or it is over. -/
inductive TimeLeft where
  | ample
  | ending
  | over
  deriving DecidableEq, Repr

namespace Account

variable {account : Account} {warningDays : Nat} {tunnel : TunnelState} {now later : Instant}

/-- What the warning, the rule that the time is over, and the days that are counted say in a
stage. -/
def Tells (account : Account) (warningDays : Nat) (tunnel : TunnelState) (now : Instant) :
    TimeLeft → Prop
  | .ample => ofAccount? (some account) warningDays now = none ∧
      isOutOfTime (some account) tunnel now = false ∧ warningDays ≤ account.daysLeft now
  | .ending => ofAccount? (some account) warningDays now = some (.accountExpiry account.expiry) ∧
      isOutOfTime (some account) tunnel now = false ∧
      0 ≤ account.daysLeft now ∧ account.daysLeft now ≤ warningDays
  | .over => ofAccount? (some account) warningDays now = none ∧
      isOutOfTime (some account) tunnel now = true ∧ account.daysLeft now ≤ 0

/-! ## Counting days -/

/-- The days that are counted are the exact distance to the expiry, rounded toward zero. -/
theorem daysLeft_eq (h : account.expiry.IsRegular) (hnow : now.IsRegular) :
    account.daysLeft now = (account.expiry.position - now.position).tdiv daySpan := by
  rw [daysLeft, Instant.daysSince, h.since_eq hnow]

/-- Rounding toward zero is rounding down the days to come and the days gone by alike. -/
theorem tdiv_day (distance : Int) : distance.tdiv daySpan =
    if 0 ≤ distance then distance / daySpan else -(-distance / daySpan) := by
  split
  · next hpos => exact Int.tdiv_eq_ediv_of_nonneg hpos
  · next hneg =>
    rw [← Int.tdiv_eq_ediv_of_nonneg (by omega : 0 ≤ -distance), Int.neg_tdiv, Int.neg_neg]

/-- The days that are counted at the instants outside the leap seconds: the exact distance rounded
toward zero, which never goes up, and in twenty-four hours goes down by one at most. -/
structure CountsDays (account : Account) (now : Instant) : Prop where
  exact : account.daysLeft now = (account.expiry.position - now.position).tdiv daySpan
  antitone : ∀ later : Instant, later.IsRegular → now ≤ later →
    account.daysLeft later ≤ account.daysLeft now
  drop_le_one : ∀ later : Instant, later.IsRegular → now ≤ later →
    later.position ≤ now.position + daySpan →
    account.daysLeft now ≤ account.daysLeft later + 1

theorem countsDays (h : account.expiry.IsRegular) (hnow : now.IsRegular) :
    account.CountsDays now where
  exact := daysLeft_eq h hnow
  antitone later hlater hle := by
    have hpositions := (hnow.le_iff hlater).mp hle
    rw [daysLeft_eq h hnow, daysLeft_eq h hlater]
    exact Int.tdiv_le_tdiv (by decide) (by omega)
  drop_le_one later hlater hle hday := by
    have hpositions := (hnow.le_iff hlater).mp hle
    rw [daysLeft_eq h hnow, daysLeft_eq h hlater, tdiv_day, tdiv_day]
    unfold daySpan secondSpan at *
    omega

/-! ## The stages -/

/-- With a tunnel that is not in error, the time of an account is over when it is expired. -/
theorem isOutOfTime_eq (htunnel : ∀ error, tunnel ≠ .error error) (account : Account)
    (now : Instant) : isOutOfTime (some account) tunnel now = account.isExpired now := by
  have hnotRejected : tunnel.isRejected = false := by
    cases tunnel with
    | error state => exact absurd rfl (htunnel state)
    | _ => rfl
  rw [isOutOfTime, Option.any_some, hnotRejected, Bool.or_false]

/-- Before the warning there are at least the days of the warning left. -/
theorem tells_ample (h : account.expiry.IsRegular) (hnow : now.IsRegular)
    (htunnel : ∀ error, tunnel ≠ .error error)
    (hbefore : now < account.warningStart warningDays) :
    account.Tells warningDays tunnel now .ample := by
  have hstart := warningStart_isRegular h warningDays
  have hposition := position_warningStart h warningDays
  have hfirst := hnow.earliest_position_le
  have hdistance := (hnow.lt_iff hstart).mp hbefore
  -- an instant before the start shows that the start is not that of time itself
  have hspan : warningDays * daySpan < account.expiry.position - now.position := by omega
  have hnotExpired : ¬ account.expiry ≤ now := by
    rw [h.le_iff hnow]
    unfold daySpan secondSpan at hspan
    omega
  refine ⟨?_, ?_, ?_⟩
  · rw [ofAccount?_some, if_neg]
    rw [isEnding_iff]
    exact fun hending => hbefore hending.1
  · rw [isOutOfTime_eq htunnel, isExpired, decide_eq_false hnotExpired]
  · rw [daysLeft_eq h hnow, tdiv_day]
    unfold daySpan secondSpan at *
    omega

/-- In the warning there are at most the days of the warning left. -/
theorem tells_ending (h : account.expiry.IsRegular) (hnow : now.IsRegular)
    (htunnel : ∀ error, tunnel ≠ .error error)
    (hstarted : account.warningStart warningDays ≤ now) (hnotExpired : now < account.expiry) :
    account.Tells warningDays tunnel now .ending := by
  have hposition := position_warningStart h warningDays
  have hsince := ((warningStart_isRegular h warningDays).le_iff hnow).mp hstarted
  have hahead := (hnow.lt_iff h).mp hnotExpired
  refine ⟨?_, ?_, ?_, ?_⟩
  · rw [ofAccount?_some,
      if_pos ((isEnding_iff account warningDays now).mpr ⟨hstarted, hnotExpired⟩)]
  · rw [isOutOfTime_eq htunnel, isExpired, decide_eq_false hnotExpired]
  · rw [daysLeft_eq h hnow, tdiv_day]
    unfold daySpan secondSpan at *
    omega
  · rw [daysLeft_eq h hnow, tdiv_day]
    unfold daySpan secondSpan at *
    omega

/-- After the expiry no days are left. -/
theorem tells_over (h : account.expiry.IsRegular) (hnow : now.IsRegular)
    (htunnel : ∀ error, tunnel ≠ .error error) (hexpired : account.expiry ≤ now) :
    account.Tells warningDays tunnel now .over := by
  have hpassed := (h.le_iff hnow).mp hexpired
  refine ⟨?_, ?_, ?_⟩
  · rw [ofAccount?_some, if_neg]
    rw [isEnding_iff]
    exact fun hending => hending.2 hexpired
  · rw [isOutOfTime_eq htunnel, isExpired, decide_eq_true hexpired]
  · rw [daysLeft_eq h hnow, tdiv_day]
    unfold daySpan secondSpan at *
    omega

/-- No two stages are told of at once: they differ in the warning or in the rule. -/
theorem Tells.unique {stage other : TimeLeft} (h : account.Tells warningDays tunnel now stage)
    (hother : account.Tells warningDays tunnel now other) : stage = other := by
  cases stage <;> cases other <;> first
    | rfl
    | (obtain ⟨hwarning, hrule, -⟩ := h
       obtain ⟨hwarning', hrule', -⟩ := hother
       simp [hwarning, hrule] at hwarning' hrule')

/-- For every account, every number of days and every tunnel that is not in error, outside the leap
seconds, the views agree on exactly one stage, and the days go down evenly. -/
theorem views_agree (h : account.expiry.IsRegular)
    (htunnel : ∀ error, tunnel ≠ .error error) (hnow : now.IsRegular) :
    (∃! stage, account.Tells warningDays tunnel now stage) ∧ account.CountsDays now := by
  refine ⟨?_, countsDays h hnow⟩
  have hsome : ∃ stage, account.Tells warningDays tunnel now stage := by
    by_cases hstarted : account.warningStart warningDays ≤ now
    · by_cases hexpired : account.expiry ≤ now
      · exact ⟨.over, tells_over h hnow htunnel hexpired⟩
      · exact ⟨.ending, tells_ending h hnow htunnel hstarted hexpired⟩
    · exact ⟨.ample, tells_ample h hnow htunnel hstarted⟩
  obtain ⟨stage, hstage⟩ := hsome
  exact ⟨stage, hstage, fun other hother => hother.unique hstage⟩

/-- An account that ends one day and half a second after the beginning of time is ending from there
on, although not as many days are left as the user is to be warned of. -/
theorem views_agree_at_earliest :
    let account : Account := ⟨"1", ⟨Instant.earliest.seconds + 86400, 500000000⟩⟩
    let tunnel : TunnelState := .connecting none none
    account.expiry.IsRegular ∧ (∀ error, tunnel ≠ .error error) ∧ Instant.earliest.IsRegular ∧
      account.daysLeft .earliest = 1 ∧ account.Tells 30 tunnel .earliest .ending ∧
      (∃! stage, account.Tells 30 tunnel .earliest stage) ∧ account.CountsDays .earliest := by
  intro account tunnel
  have hexpiry : account.expiry.IsRegular := by decide
  have htunnel : ∀ error, tunnel ≠ .error error := nofun
  exact ⟨hexpiry, htunnel, Instant.earliest_isRegular, by decide,
    tells_ending hexpiry Instant.earliest_isRegular htunnel (by decide) (by decide),
    views_agree hexpiry htunnel Instant.earliest_isRegular⟩

/-- The account ends in a leap second, 12:00:60.5.  Three days of warning then start at 12:01:00.5,
but at 12:01:00.2 of that day only two whole days are counted: the distance leaves the leap second
out.  No stage fits. -/
theorem not_views_agree_in_leapSecond :
    let account : Account := ⟨"1", ⟨1718020859, 1500000000⟩⟩
    let now : Instant := ⟨1717761660, 200000000⟩
    now.IsRegular ∧ account.daysLeft now = 2 ∧
      ¬ ∃ stage, account.Tells 3 .initial now stage := by
  intro account now
  refine ⟨by decide, by decide, ?_⟩
  rintro ⟨stage, htells⟩
  cases stage <;> exact absurd htells (by unfold Tells; decide)

end Account

end VpnClient
