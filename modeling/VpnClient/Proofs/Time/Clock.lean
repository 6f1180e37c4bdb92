import VpnClient.Proofs.Time.Position

/-!
# Clocks and runs

What a clock shows at a time, when its timers go off, and how a property of a machine at rest is
carried through all the times at which the machine moves.

## Main Definitions

* `Clock.IsRegular` — a clock that was not started in a leap second
* `Clock.AgreesWithTimers` — the clock and the timers count time alike

## Main Statements

* `Clock.le_now_iff` — when the clock has reached an instant
* `Clock.exists_timerFor?` — a timer that is set to an instant to come goes off at the first
  millisecond at which the clock has reached it
* `Clock.IsRegular.agreesWithTimers` — regular clocks agree with the timers
* `Machine.advance_preserves` — the induction over the moves of a machine while time passes
* `Machine.runBefore_map` — a view of a machine moves as the machine does
-/

namespace VpnClient

namespace Clock

/-- A clock that was started at a regular instant. -/
def IsRegular (clock : Clock) : Prop :=
  clock.start.IsRegular

instance (clock : Clock) : Decidable clock.IsRegular :=
  inferInstanceAs (Decidable clock.start.IsRegular)

variable {clock : Clock}

@[simp]
theorem withElapsed_elapsed (clock : Clock) (elapsed : Nat) :
    (clock.withElapsed elapsed).elapsed = elapsed := rfl

@[simp]
theorem withElapsed_start (clock : Clock) (elapsed : Nat) :
    (clock.withElapsed elapsed).start = clock.start := rfl

@[simp]
theorem withElapsed_self (clock : Clock) : clock.withElapsed clock.elapsed = clock := rfl

theorem IsRegular.withElapsed (h : clock.IsRegular) (elapsed : Nat) :
    (clock.withElapsed elapsed).IsRegular := h

/-- The clock either shows its start moved by the time that has passed, or stands at the end of
time because that would lie beyond it. -/
theorem IsRegular.now_cases (h : clock.IsRegular) :
    clock.now.IsRegular ∧
      (clock.now.position = clock.start.position + clock.elapsed * millisecondSpan ∨
        clock.now = .latest ∧
          Instant.latest.position < clock.start.position + clock.elapsed * millisecondSpan) := by
  cases hadd : clock.start.add? (clock.elapsed * millisecondSpan) with
  | some u =>
      have hnow : clock.now = u := by simp [now, hadd]
      obtain ⟨hu, hposition⟩ := (Instant.IsRegular.add?_eq_some_iff h _ u).mp hadd
      exact ⟨hnow ▸ hu, Or.inl (hnow ▸ hposition)⟩
  | none =>
      have hnow : clock.now = .latest := by simp [now, hadd]
      have hspan : 0 ≤ (clock.elapsed : Int) * millisecondSpan := by
        unfold millisecondSpan
        omega
      exact ⟨hnow ▸ Instant.latest_isRegular,
        Or.inr ⟨hnow, Instant.IsRegular.add?_eq_none h hspan hadd⟩⟩

theorem IsRegular.now (h : clock.IsRegular) : clock.now.IsRegular :=
  h.now_cases.1

/-- The clock has reached an instant once as much time has passed as lies between the start and
that instant.  This also holds of a clock that stands at the end of time. -/
theorem le_now_iff (h : clock.IsRegular) {t : Instant} (ht : t.IsRegular) :
    t ≤ clock.now ↔
      t.position ≤ clock.start.position + clock.elapsed * millisecondSpan := by
  rw [ht.le_iff h.now]
  rcases h.now_cases.2 with hrunning | ⟨hstopped, hbeyond⟩
  · rw [hrunning]
  · have hlast := ht.position_le_latest
    rw [hstopped]
    constructor <;> intro _ <;> omega

/-- The clock never goes back. -/
theorem le_now_mono (h : clock.IsRegular) {t : Instant} (ht : t.IsRegular) {later : Nat}
    (hlater : clock.elapsed ≤ later) (hle : t ≤ clock.now) :
    t ≤ (clock.withElapsed later).now := by
  rw [le_now_iff h ht] at hle
  rw [le_now_iff (h.withElapsed later) ht]
  simp only [withElapsed_start, withElapsed_elapsed]
  unfold millisecondSpan at *
  omega

/-- A timer for an instant to come goes off at a later time, and the clock has reached the instant
from that time on and not before. -/
theorem exists_timerFor? (h : clock.IsRegular) {t : Instant} (ht : t.IsRegular)
    (hlt : clock.now < t) :
    ∃ due, clock.timerFor? clock.now t = some due ∧ clock.elapsed < due ∧
      ∀ time, clock.elapsed ≤ time → (t ≤ (clock.withElapsed time).now ↔ due ≤ time) := by
  have hnotReached : ¬ t ≤ clock.now := hlt
  have hspan : t.since clock.now = t.position - clock.now.position := ht.since_eq h.now
  have hahead : clock.now.position < t.position := (h.now.lt_iff ht).mp hlt
  -- a clock that stands at the end of time has no instant to come
  have hrunning : clock.now.position
      = clock.start.position + clock.elapsed * millisecondSpan := by
    rcases h.now_cases.2 with hrunning | ⟨hstopped, -⟩
    · exact hrunning
    · exact absurd (hstopped ▸ ht.le_latest) hnotReached
  have htimer : clock.timerFor? clock.now t = some (clock.elapsed + max 1
      ((t.position - clock.now.position + millisecondSpan - 1) / millisecondSpan).toNat) := by
    simp only [timerFor?, hspan]
    rw [if_neg (by omega)]
  refine ⟨_, htimer, by omega, ?_⟩
  intro time htime
  rw [le_now_iff (h.withElapsed time) ht, withElapsed_start, withElapsed_elapsed]
  unfold millisecondSpan at *
  omega

/-- The clock and the timers count time alike: the clock never goes back, and a timer that is set to
a regular instant to come goes off at the first millisecond at which the clock has reached it. -/
structure AgreesWithTimers (clock : Clock) : Prop where
  le_now : ∀ {t : Instant} {earlier later : Nat}, earlier ≤ later →
    t ≤ (clock.withElapsed earlier).now → t ≤ (clock.withElapsed later).now
  timer : ∀ {t : Instant} {elapsed : Nat}, t.IsRegular → (clock.withElapsed elapsed).now < t →
    ∃ due, (clock.withElapsed elapsed).timerFor? (clock.withElapsed elapsed).now t = some due ∧
      elapsed < due ∧ ∀ time, elapsed ≤ time → (t ≤ (clock.withElapsed time).now ↔ due ≤ time)

theorem AgreesWithTimers.withElapsed (h : clock.AgreesWithTimers) (elapsed : Nat) :
    (clock.withElapsed elapsed).AgreesWithTimers :=
  ⟨h.le_now, h.timer⟩

theorem AgreesWithTimers.le_now_mono (h : clock.AgreesWithTimers) {t : Instant} {later : Nat}
    (hlater : clock.elapsed ≤ later) (hle : t ≤ clock.now) : t ≤ (clock.withElapsed later).now :=
  @AgreesWithTimers.le_now clock h t clock.elapsed later hlater hle

theorem AgreesWithTimers.exists_timerFor? (h : clock.AgreesWithTimers) {t : Instant}
    (ht : t.IsRegular) (hlt : clock.now < t) :
    ∃ due, clock.timerFor? clock.now t = some due ∧ clock.elapsed < due ∧
      ∀ time, clock.elapsed ≤ time → (t ≤ (clock.withElapsed time).now ↔ due ≤ time) :=
  @AgreesWithTimers.timer clock h t clock.elapsed ht hlt

/-- They do so in every run that does not start in a leap second. -/
theorem IsRegular.agreesWithTimers (h : clock.IsRegular) : clock.AgreesWithTimers where
  le_now {t earlier later} hle ht := by
    have hearlier := h.withElapsed earlier
    exact Instant.le_trans ht
      (le_now_mono hearlier hearlier.now hle (Instant.le_refl _))
  timer {t elapsed} ht hlt := exists_timerFor? (h.withElapsed elapsed) ht hlt

end Clock

/-- What is before the earlier of two times is before both. -/
theorem lt_of_lt_earlier {a b : Option Nat} {time : Nat}
    (h : ∀ due, earlier a b = some due → time < due) :
    (∀ due, a = some due → time < due) ∧ ∀ due, b = some due → time < due := by
  cases a with
  | none =>
      refine ⟨?_, h⟩
      intro due hdue
      cases hdue
  | some first =>
      cases b with
      | none =>
          refine ⟨h, ?_⟩
          intro due hdue
          cases hdue
      | some second =>
          have hboth := h (min first second) rfl
          refine ⟨?_, ?_⟩ <;> intro due hdue <;> cases hdue <;> omega

/-! ## Runs of a machine -/

namespace Machine

variable {σ : Type} {machine : Machine σ} {P : Clock → σ → Prop}

/-- What holds of a machine at rest, and is carried from one of its moves to the next one, holds
after all its moves before a bound; the next move is not before the bound then. -/
theorem runBefore_preserves
    (hmove : ∀ clock state time, P clock state → clock.elapsed < time →
      P (clock.withElapsed time) (machine.settle (clock.withElapsed time) state))
    (bound : Nat) (clock : Clock) (state : σ) (h : P clock state) :
    ∃ time, clock.elapsed ≤ time ∧ (time < bound ∨ time = clock.elapsed) ∧
      P (clock.withElapsed time) (machine.runBefore bound clock state) ∧
      ∀ due, machine.nextDue? (machine.runBefore bound clock state) = some due →
        bound ≤ max due (time + 1) := by
  -- each move is later than the one before, so that the time grows along the recursion
  fun_induction machine.runBefore bound clock state with
  | case1 clock state hnone =>
      refine ⟨clock.elapsed, Nat.le_refl _, Or.inr rfl, h, ?_⟩
      intro due hdue
      rw [hnone] at hdue
      cases hdue
  | case2 clock state due hsome hbefore later ih =>
      have hlater : P later (machine.settle later state) :=
        hmove clock state _ h (by omega)
      obtain ⟨time, hle, hbound, hP, hrest⟩ := ih hlater
      have helapsed : later.elapsed = max due (clock.elapsed + 1) := rfl
      refine ⟨time, by omega, Or.inl (by omega), hP, hrest⟩
  | case3 clock state due hsome hlate =>
      refine ⟨clock.elapsed, Nat.le_refl _, Or.inr rfl, h, ?_⟩
      intro due' hdue'
      rw [hsome] at hdue'
      cases hdue'
      omega

/-- What holds of a machine at rest is preserved while time passes, if it is preserved by every
move of the machine and by the time between two moves. -/
theorem advance_preserves
    (hmove : ∀ clock state time, P clock state → clock.elapsed < time →
      P (clock.withElapsed time) (machine.settle (clock.withElapsed time) state))
    (hpass : ∀ clock state time, P clock state → clock.elapsed < time →
      (∀ due, machine.nextDue? state = some due → time < due) →
      P (clock.withElapsed time) state)
    (ms : Nat) (timed : Timed σ) (h : P timed.clock timed.state) :
    P (machine.advance ms timed).clock (machine.advance ms timed).state := by
  obtain ⟨time, hle, hbound, hP, hrest⟩ :=
    runBefore_preserves hmove (timed.clock.elapsed + ms + 1) timed.clock timed.state h
  -- the last move may fall on the very end, and then no more time is left to pass
  rcases Nat.lt_or_eq_of_le (show time ≤ timed.clock.elapsed + ms by omega) with hlt | heq
  · refine hpass (timed.clock.withElapsed time) _ (timed.clock.elapsed + ms) hP hlt ?_
    intro due hdue
    have hlate := hrest due hdue
    omega
  · rw [heq] at hP
    exact hP

section View

variable {τ : Type} {machine' : Machine τ} (view : σ → τ)

/-- Two machines of which one is a view of the other make the same moves. -/
theorem runBefore_map
    (hsettle : ∀ clock state,
      view (machine.settle clock state) = machine'.settle clock (view state))
    (hdue : ∀ state, machine'.nextDue? (view state) = machine.nextDue? state)
    (bound : Nat) (clock : Clock) (state : σ) :
    machine'.runBefore bound clock (view state) = view (machine.runBefore bound clock state) := by
  -- both recursions take the same branch, because the view keeps the time of the next move
  fun_induction machine.runBefore bound clock state with
  | case1 clock state hnone =>
      rw [runBefore, hdue, hnone]
  | case2 clock state due hsome hbefore later ih =>
      rw [runBefore, hdue, hsome]
      simp only [dif_pos hbefore, ← hsettle]
      exact ih
  | case3 clock state due hsome hlate =>
      rw [runBefore, hdue, hsome]
      simp only [dif_neg hlate]

/-- They do the same while time passes. -/
theorem advance_map
    (hsettle : ∀ clock state,
      view (machine.settle clock state) = machine'.settle clock (view state))
    (hdue : ∀ state, machine'.nextDue? (view state) = machine.nextDue? state)
    (ms : Nat) (timed : Timed σ) :
    machine'.advance ms ⟨timed.clock, view timed.state⟩ =
      ⟨(machine.advance ms timed).clock, view (machine.advance ms timed).state⟩ := by
  simp only [advance, runBefore_map view hsettle hdue]

/-- They do so when something else is about to happen at the end of the time. -/
theorem advanceTo_map
    (hsettle : ∀ clock state,
      view (machine.settle clock state) = machine'.settle clock (view state))
    (hdue : ∀ state, machine'.nextDue? (view state) = machine.nextDue? state)
    (ms : Nat) (timed : Timed σ) :
    machine'.advanceTo ms ⟨timed.clock, view timed.state⟩ =
      ⟨(machine.advanceTo ms timed).clock, view (machine.advanceTo ms timed).state⟩ := by
  simp only [advanceTo, runBefore_map view hsettle hdue]

end View

end Machine

end VpnClient
