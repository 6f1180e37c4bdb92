import VpnClient.Time.Instant

/-!
# Clocks and timed machines

Time passes in whole milliseconds. A machine is something whose parts react to each other until
they are at rest, and which may have set itself a time at which it moves again.

## Main Definitions

* `Clock` — the instant at which a run has started, and the milliseconds since
* `Machine` — how a state comes to rest, and when it moves next
* `Machine.runBefore` — a machine run up to a moment
* `Timed` — a state with its clock

## Design Notes

The clock is not part of a machine's state: a state comes to rest at a given time, and the run
decides which time that is. So a run ends because every step of it takes a later time.
-/

namespace VpnClient

/-- The instant at which a run has started, and the milliseconds that have passed since. -/
structure Clock where
  start : Instant
  elapsed : Nat
  deriving DecidableEq, Repr

namespace Clock

/-- The present instant. Time stands still at its end. -/
def now (clock : Clock) : Instant :=
  (clock.start.add? (clock.elapsed * millisecondSpan)).getD .latest

/-- The clock when that many milliseconds have passed in all. -/
def withElapsed (clock : Clock) (elapsed : Nat) : Clock :=
  { clock with elapsed := elapsed }

/-- When a timer goes off that is set to an instant, unless that is over. Timers go off at whole
milliseconds, never early and never at once. -/
def timerFor? (clock : Clock) (now instant : Instant) : Option Nat :=
  let span := instant.since now
  if span < 0 then none
  else some (clock.elapsed + max 1 ((span + millisecondSpan - 1) / millisecondSpan).toNat)

end Clock

/-- How a state comes to rest at a time, and when it moves by itself. -/
structure Machine (σ : Type) where
  settle : Clock → σ → σ
  nextDue? : σ → Option Nat

/-- A state with its clock. -/
structure Timed (σ : Type) where
  clock : Clock
  state : σ

namespace Machine

variable {σ : Type}

/-- A machine run through all times before `bound` at which it moves by itself. -/
def runBefore (machine : Machine σ) (bound : Nat) (clock : Clock) (state : σ) : σ :=
  match machine.nextDue? state with
  | none => state
  | some due =>
    if _h : max due (clock.elapsed + 1) < bound then
      let later := clock.withElapsed (max due (clock.elapsed + 1))
      machine.runBefore bound later (machine.settle later state)
    else state
termination_by bound - clock.elapsed
decreasing_by
  simp only [Clock.withElapsed]
  omega

/-- What becomes of a machine in some milliseconds, their end included. -/
def advance (machine : Machine σ) (ms : Nat) (timed : Timed σ) : Timed σ :=
  let finish := timed.clock.elapsed + ms
  ⟨timed.clock.withElapsed finish, machine.runBefore (finish + 1) timed.clock timed.state⟩

/-- What becomes of a machine in some milliseconds, when something else is about to happen at
their end. -/
def advanceTo (machine : Machine σ) (ms : Nat) (timed : Timed σ) : Timed σ :=
  let finish := timed.clock.elapsed + ms
  ⟨timed.clock.withElapsed finish, machine.runBefore finish timed.clock timed.state⟩

/-- A change of the state, after which the machine comes to rest without any time passing. -/
def act (machine : Machine σ) (change : σ → σ) (timed : Timed σ) : Timed σ :=
  { timed with state := machine.settle timed.clock (change timed.state) }

end Machine

/-- The earlier of two times, when there may be none. -/
def earlier : Option Nat → Option Nat → Option Nat
  | none, b => b
  | a, none => a
  | some a, some b => some (min a b)

end VpnClient
