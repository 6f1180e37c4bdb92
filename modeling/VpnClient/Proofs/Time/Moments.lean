import Mathlib.Data.List.Chain
import VpnClient.Proofs.Time.Clock

/-!
# The moments of a run

A run of a machine consists of things that are done to it and of time that passes.  Its moments are
what can be seen of it at rest: the state after everything that is done, and the state at every
whole millisecond that passes.

## Main Definitions

* `TimedStep`, `Machine.run` — what can happen to a machine, and its runs
* `Machine.moments` — the states of a run at its moments

## Main Statements

* `Machine.advance_add` — it makes no difference in how many portions time passes
* `Machine.advance_one` — what a single millisecond does
* `Machine.moments_preserve` — what holds between a moment and the next one is asked of a single
  millisecond and of a single thing that is done
-/

namespace VpnClient

/-- What can happen in a run: something is done, or some milliseconds pass. -/
inductive TimedStep (α : Type) where
  | act (action : α)
  | advance (ms : Nat)

namespace TimedStep

variable {α : Type} {allowed : α → Prop} {steps : List (TimedStep α)}

theorem forall_act_cons {action : α} :
    (∀ a, .act a ∈ TimedStep.act action :: steps → allowed a) ↔
      allowed action ∧ ∀ a, .act a ∈ steps → allowed a := by
  simp only [List.mem_cons, TimedStep.act.injEq, or_imp, forall_and, forall_eq]

theorem forall_advance_cons {ms : Nat} :
    (∀ a, .act a ∈ TimedStep.advance ms :: steps → allowed a) ↔
      ∀ a, .act a ∈ steps → allowed a := by
  simp only [List.mem_cons, reduceCtorEq, false_or]

instance decidableForallAct [DecidablePred allowed] :
    (steps : List (TimedStep α)) → Decidable (∀ a, .act a ∈ steps → allowed a)
  | [] => .isTrue nofun
  | .act _ :: steps =>
    have := decidableForallAct steps
    decidable_of_iff _ forall_act_cons.symm
  | .advance _ :: steps =>
    have := decidableForallAct steps
    decidable_of_iff _ forall_advance_cons.symm

end TimedStep

namespace Machine

variable {σ α : Type} (machine : Machine σ) (perform : α → σ → σ)

/-- A machine at rest after a step. -/
def step (timed : Timed σ) : TimedStep α → Timed σ
  | .act action => machine.act (perform action) timed
  | .advance ms => machine.advance ms timed

/-- A machine at rest after all steps of a run. -/
def run (timed : Timed σ) (steps : List (TimedStep α)) : Timed σ :=
  steps.foldl (machine.step perform) timed

/-- The states of a run after everything that is done and at every whole millisecond that passes,
the state at its beginning left out. -/
def moments : Timed σ → List (TimedStep α) → List (Timed σ)
  | _, [] => []
  | timed, .act action :: steps =>
      machine.act (perform action) timed :: moments (machine.act (perform action) timed) steps
  | timed, .advance ms :: steps =>
      ((List.range ms).map fun passed => machine.advance (passed + 1) timed)
        ++ moments (machine.advance ms timed) steps

variable {machine} {perform}

/-! ### Portions of time -/

/-- A machine that has been run up to a moment and is run on from there does what it would have done
without the stop. -/
theorem runBefore_runBefore (time bound : Nat) (clock : Clock) (state : σ)
    (htime : clock.elapsed ≤ time) (hbound : time < bound) :
    machine.runBefore bound (clock.withElapsed time) (machine.runBefore (time + 1) clock state) =
      machine.runBefore bound clock state := by
  -- the first run makes the moves up to `time`, and they are also the first ones of the whole run
  fun_induction machine.runBefore (time + 1) clock state with
  | case1 clock state hnone =>
      rw [runBefore, runBefore, hnone]
  | case2 clock state due hsome hbefore later ih =>
      refine (ih (by simp only [later, Clock.withElapsed_elapsed]; omega)).trans ?_
      have hmove : max due (clock.elapsed + 1) < bound := by omega
      conv_rhs => rw [runBefore, hsome]
      simp only [hmove, dite_true]
      rfl
  | case3 clock state due hsome hlate =>
      -- the next move is after `time`, so that the clock may as well start from there
      rw [runBefore, runBefore, hsome]
      simp only [Clock.withElapsed_elapsed]
      have hsame : max due (time + 1) = max due (clock.elapsed + 1) := by omega
      simp only [hsame]
      rfl

theorem advance_zero (timed : Timed σ) : machine.advance 0 timed = timed := by
  have hrest : machine.runBefore (timed.clock.elapsed + 0 + 1) timed.clock timed.state =
      timed.state := by
    rw [runBefore]
    split
    · rfl
    · exact dif_neg (by omega)
  simp only [advance, hrest]
  rfl

/-- It makes no difference in how many portions time passes. -/
theorem advance_add (m n : Nat) (timed : Timed σ) :
    machine.advance (m + n) timed = machine.advance n (machine.advance m timed) := by
  simp only [advance, Clock.withElapsed_elapsed, ← Nat.add_assoc]
  rw [runBefore_runBefore (timed.clock.elapsed + m) _ timed.clock timed.state (by omega)
    (by omega)]
  rfl

/-- A machine that is stopped at the end of some milliseconds has not made the moves of the last one
yet. -/
theorem advanceTo_succ (ms : Nat) (timed : Timed σ) :
    machine.advanceTo (ms + 1) timed =
      ⟨timed.clock.withElapsed (timed.clock.elapsed + ms + 1), (machine.advance ms timed).state⟩ :=
  rfl

/-- In a single millisecond a machine moves once if it is due by its end, and else it does not. -/
theorem advance_one (timed : Timed σ) :
    machine.advance 1 timed =
      ⟨timed.clock.withElapsed (timed.clock.elapsed + 1),
        if (machine.nextDue? timed.state).any (· ≤ timed.clock.elapsed + 1) then
          machine.settle (timed.clock.withElapsed (timed.clock.elapsed + 1)) timed.state
        else timed.state⟩ := by
  have hrun : machine.runBefore (timed.clock.elapsed + 1 + 1) timed.clock timed.state =
      if (machine.nextDue? timed.state).any (· ≤ timed.clock.elapsed + 1) then
        machine.settle (timed.clock.withElapsed (timed.clock.elapsed + 1)) timed.state
      else timed.state := by
    rw [runBefore]
    cases hdue : machine.nextDue? timed.state with
    | none => rfl
    | some due =>
        by_cases hle : due ≤ timed.clock.elapsed + 1
        · have hmax : max due (timed.clock.elapsed + 1) = timed.clock.elapsed + 1 := by omega
          simp only [hmax, Nat.lt_succ_self, dite_true, Option.any_some, hle, decide_true, if_true]
          -- after the move the millisecond is over
          rw [runBefore]
          split
          · rfl
          · exact dif_neg (by simp only [Clock.withElapsed_elapsed]; omega)
        · simp only [Option.any_some, hle, decide_false, Bool.false_eq_true, if_false]
          exact dif_neg (by omega)
  simp only [advance, hrun]

theorem elapsed_le_run (timed : Timed σ) (steps : List (TimedStep α)) :
    timed.clock.elapsed ≤ (machine.run perform timed steps).clock.elapsed := by
  induction steps generalizing timed with
  | nil => exact Nat.le_refl _
  | cons step steps ih =>
      refine Nat.le_trans ?_ (ih (machine.step perform timed step))
      cases step with
      | act action => exact Nat.le_refl _
      | advance ms => exact Nat.le_add_right _ _

/-! ### From one moment to the next -/

variable {P : Timed σ → Prop} {R : Timed σ → Timed σ → Prop}

/-- What is preserved by a single millisecond is preserved by any number of them, and what holds
between two neighbouring milliseconds holds all along. -/
theorem advance_moments
    (htick : ∀ timed, P timed → P (machine.advance 1 timed) ∧ R timed (machine.advance 1 timed))
    (ms : Nat) (rest : List (Timed σ)) (timed : Timed σ) (h : P timed)
    (hrest : P (machine.advance ms timed) →
      (machine.advance ms timed :: rest).IsChain R ∧ ∀ m ∈ rest, P m) :
    (timed :: (((List.range ms).map fun passed => machine.advance (passed + 1) timed)
        ++ rest)).IsChain R ∧
      ∀ m ∈ ((List.range ms).map fun passed => machine.advance (passed + 1) timed) ++ rest,
        P m := by
  induction ms generalizing timed with
  | zero =>
      rw [advance_zero] at hrest
      exact hrest h
  | succ ms ih =>
      obtain ⟨hnext, hstep⟩ := htick timed h
      have hshift : ∀ passed, machine.advance (passed + 1) (machine.advance 1 timed) =
          machine.advance (passed + 1 + 1) timed := by
        intro passed
        rw [← advance_add, Nat.add_comm 1]
      have hrange : ((List.range (ms + 1)).map fun passed => machine.advance (passed + 1) timed) =
          machine.advance 1 timed ::
            (List.range ms).map fun passed =>
              machine.advance (passed + 1) (machine.advance 1 timed) := by
        rw [List.range_succ_eq_map]
        simp only [List.map_cons, List.map_map, hshift]
        rfl
      have hlast : machine.advance ms (machine.advance 1 timed) =
          machine.advance (ms + 1) timed := by
        rw [Nat.add_comm ms 1, advance_add]
      obtain ⟨hchain, hall⟩ := ih (machine.advance 1 timed) hnext (by rw [hlast]; exact hrest)
      rw [hrange]
      refine ⟨List.isChain_cons_cons.mpr ⟨hstep, hchain⟩, ?_⟩
      intro m hm
      rcases List.mem_cons.mp hm with rfl | hm
      · exact hnext
      · exact hall m hm

/-- What is preserved by a single millisecond is preserved by any number of them. -/
theorem advance_preserves_of_tick (htick : ∀ timed, P timed → P (machine.advance 1 timed))
    (ms : Nat) (timed : Timed σ) (h : P timed) : P (machine.advance ms timed) := by
  induction ms generalizing timed with
  | zero =>
      rw [advance_zero]
      exact h
  | succ ms ih =>
      rw [Nat.add_comm, advance_add]
      exact ih _ (htick timed h)

variable {allowed : α → Prop}

/-- What is preserved by everything that may be done and by a single millisecond holds at all
moments of a run, and so does, between each moment and the next one, what they bring about. -/
theorem moments_preserve
    (hact : ∀ action timed, allowed action → P timed →
      P (machine.act (perform action) timed) ∧ R timed (machine.act (perform action) timed))
    (htick : ∀ timed, P timed → P (machine.advance 1 timed) ∧ R timed (machine.advance 1 timed))
    (steps : List (TimedStep α)) (hsteps : ∀ action, .act action ∈ steps → allowed action)
    (timed : Timed σ) (h : P timed) :
    (timed :: machine.moments perform timed steps).IsChain R ∧
      ∀ m ∈ machine.moments perform timed steps, P m := by
  induction steps generalizing timed with
  | nil =>
      refine ⟨List.isChain_singleton _, ?_⟩
      intro m hm
      cases hm
  | cons step steps ih =>
      cases step with
      | act action =>
          obtain ⟨hfirst, hlater⟩ := TimedStep.forall_act_cons.mp hsteps
          obtain ⟨hnext, hstep⟩ := hact action timed hfirst h
          obtain ⟨hchain, hall⟩ := ih hlater _ hnext
          refine ⟨List.isChain_cons_cons.mpr ⟨hstep, hchain⟩, ?_⟩
          intro m hm
          rcases List.mem_cons.mp hm with rfl | hm
          · exact hnext
          · exact hall m hm
      | advance ms =>
          have hlater := TimedStep.forall_advance_cons.mp hsteps
          exact advance_moments htick ms _ timed h (ih hlater _)

end Machine

end VpnClient
