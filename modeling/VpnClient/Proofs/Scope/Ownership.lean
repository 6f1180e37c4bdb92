import Mathlib.Data.List.Infix
import Mathlib.Data.List.Perm.Basic
import VpnClient.Proofs.Screen.Closing

/-!
# A scope owns its tasks

A scope is used for a while: tasks of any length are launched in it, time passes, and it may be
cancelled, once or several times.  Which tasks it takes, which of them get to their end and how many
it holds can be told from what has been done, without looking into the scope.

## Main Definitions

* `ScopeStep`, `ScopeSession` — what is done to a scope, and a scope with its clock and the tasks
  that have finished
* `Launch`, `ScopeStep.launches` — the launches before the first cancel, each with what was done
  after it
* `Launch.IsDone` — whether the time of a task has passed before a cancel

## Main Statements

* `Launch.launches_concat`, `Launch.isDone_followedBy` — what one more step makes of the launches
* `ScopeSession.Tracks.step` — a step keeps the scope in agreement with the launches
* `ScopeSession.scope_owns_tasks` — what every run makes of a scope
-/

namespace VpnClient

/-! ## What is done to a scope -/

/-- What is done to a scope: a task that takes some time is launched, the scope is cancelled, or
time passes.  If no time passes, the tasks still get their turn. -/
inductive ScopeStep where
  | launch (id : Int) (ms : Nat)
  | cancel
  | advance (ms : Nat)
  deriving DecidableEq, Repr

namespace ScopeStep

/-- The time that passes in a step. -/
def span : ScopeStep → Nat
  | advance ms => ms
  | _ => 0

/-- Whether the tasks get their turn in a step. -/
def isAdvance : ScopeStep → Bool
  | advance _ => true
  | _ => false

/-- The time that passes in several steps. -/
def totalSpan (steps : List ScopeStep) : Nat :=
  (steps.map ScopeStep.span).sum

@[simp] theorem totalSpan_nil : totalSpan [] = 0 := rfl

@[simp] theorem totalSpan_cons (step : ScopeStep) (steps : List ScopeStep) :
    totalSpan (step :: steps) = step.span + totalSpan steps := rfl

@[simp] theorem totalSpan_concat (steps : List ScopeStep) (step : ScopeStep) :
    totalSpan (steps ++ [step]) = totalSpan steps + step.span := by
  simp [totalSpan]

end ScopeStep

open ScopeStep (totalSpan totalSpan_concat totalSpan_cons)

/-- A scope in use: the time, the scope, and the names of the tasks that have done their work. -/
structure ScopeSession where
  now : Nat
  scope : TaskScope
  finished : List Int
  deriving DecidableEq, Repr

namespace ScopeSession

/-- A new scope. -/
def fresh (start : Nat) : ScopeSession := ⟨start, .empty, []⟩

/-- The scope after a step. -/
def step (session : ScopeSession) : ScopeStep → ScopeSession
  | .launch id ms => { session with scope := (session.scope.launch ⟨id, session.now + ms⟩).2 }
  | .cancel => { session with scope := session.scope.cancel }
  | .advance ms =>
      let (done, scope) := session.scope.runUntil (session.now + ms)
      ⟨session.now + ms, scope, session.finished ++ done⟩

/-- The scope after several steps. -/
def run (session : ScopeSession) (steps : List ScopeStep) : ScopeSession :=
  steps.foldl step session

theorem run_concat (session : ScopeSession) (steps : List ScopeStep) (last : ScopeStep) :
    session.run (steps ++ [last]) = (session.run steps).step last :=
  List.foldl_concat ..

end ScopeSession

/-! ## The launches of a run -/

/-- A launch of a task: its name, when it was launched, how long it takes, and what was done to the
scope afterwards. -/
structure Launch where
  id : Int
  start : Nat
  ms : Nat
  later : List ScopeStep

/-- The launches before the first cancel, in a run that starts at a time. -/
def ScopeStep.launches (now : Nat) : List ScopeStep → List Launch
  | [] => []
  | .launch id ms :: later => ⟨id, now, ms, later⟩ :: launches now later
  | .cancel :: _ => []
  | .advance ms :: later => launches (now + ms) later

open ScopeStep (launches)

namespace Launch

/-- The task that is launched. -/
def task (l : Launch) : Task := ⟨l.id, l.start + l.ms⟩

/-- The launch when one more step has been taken. -/
def followedBy (step : ScopeStep) (l : Launch) : Launch :=
  { l with later := l.later ++ [step] }

/-- A task is done if it has had its turn, after its launch and before any cancel, when the time
that it takes had passed. -/
def IsDone (l : Launch) : Prop :=
  ∃ ran, ran <+: l.later ∧ .cancel ∉ ran ∧ ran.any ScopeStep.isAdvance ∧ l.ms ≤ totalSpan ran

instance (l : Launch) : Decidable l.IsDone :=
  decidable_of_iff (∃ ran ∈ l.later.inits,
    .cancel ∉ ran ∧ ran.any ScopeStep.isAdvance ∧ l.ms ≤ totalSpan ran) <| by
      simp only [List.mem_inits, IsDone]

/-- No task is done at its launch. -/
theorem not_isDone_of_later_eq_nil {l : Launch} (h : l.later = []) : ¬ l.IsDone := by
  rintro ⟨ran, hran, -, hturn, -⟩
  rw [h, List.prefix_nil] at hran
  rw [hran] at hturn
  contradiction

/-- A task becomes done in a step if, with the step, it has had the time that it takes. -/
theorem isDone_followedBy (l : Launch) (step : ScopeStep) :
    (l.followedBy step).IsDone ↔ l.IsDone ∨
      .cancel ∉ l.later ++ [step] ∧ (l.later ++ [step]).any ScopeStep.isAdvance ∧
        l.ms ≤ totalSpan l.later + step.span := by
  simp only [IsDone, followedBy, List.prefix_concat_iff, or_and_right, exists_or, exists_eq_left,
    totalSpan_concat]
  exact or_comm

/-- Launches of other tasks and cancels finish no task. -/
theorem isDone_followedBy_of_not_isAdvance (l : Launch) {step : ScopeStep}
    (h : step.isAdvance = false) : (l.followedBy step).IsDone ↔ l.IsDone := by
  rw [isDone_followedBy, or_iff_left_iff_imp]
  rintro ⟨hcancel, hturn, hspan⟩
  have hnone : step.span = 0 := by
    cases step with
    | advance ms => contradiction
    | launch id ms => rfl
    | cancel => rfl
  refine ⟨l.later, List.prefix_rfl, ?_, ?_, ?_⟩
  · exact fun hmem => hcancel (List.mem_append_left _ hmem)
  · simpa only [List.any_append, List.any_cons, List.any_nil, h, Bool.or_false] using hturn
  · rwa [hnone] at hspan

/-- An advance finishes the tasks whose time has passed by its end, unless they were stopped. -/
theorem isDone_advance (l : Launch) (ms : Nat) :
    (l.followedBy (.advance ms)).IsDone ↔
      l.IsDone ∨ .cancel ∉ l.later ∧ l.ms ≤ totalSpan l.later + ms := by
  rw [isDone_followedBy]
  simp [ScopeStep.isAdvance, ScopeStep.span]

/-- One more step follows all launches; a launch joins them unless the scope has been cancelled. -/
theorem launches_concat (start : Nat) (steps : List ScopeStep) (step : ScopeStep) :
    launches start (steps ++ [step]) =
      (launches start steps).map (followedBy step) ++
        if .cancel ∈ steps then [] else launches (start + totalSpan steps) [step] := by
  induction steps generalizing start with
  | nil => simp [launches]
  | cons first steps ih =>
      cases first with
      | launch id ms => simp [launches, ih, followedBy, ScopeStep.span]
      | cancel => simp [launches]
      | advance ms => simp [launches, ih, ScopeStep.span, Nat.add_assoc]

/-- What was done after a launch that was taken. -/
theorem later_of_mem {start : Nat} {steps : List ScopeStep} {l : Launch}
    (h : l ∈ launches start steps) :
    l.start + totalSpan l.later = start + totalSpan steps ∧
      (.cancel ∈ l.later ↔ .cancel ∈ steps) := by
  induction steps generalizing start with
  | nil => contradiction
  | cons first steps ih =>
      cases first with
      | launch id ms =>
          rw [launches, List.mem_cons] at h
          obtain rfl | h := h
          · simp [ScopeStep.span]
          · simpa [ScopeStep.span] using ih h
      | cancel => contradiction
      | advance ms =>
          obtain ⟨htime, hcancel⟩ := ih h
          refine ⟨?_, by simpa using hcancel⟩
          rw [htime, totalSpan_cons, ScopeStep.span, Nat.add_assoc]

/-- In a run without a cancel, an advance finishes the tasks that are due by its end. -/
theorem isDone_advance_of_mem {start : Nat} {steps : List ScopeStep} {l : Launch}
    (h : l ∈ launches start steps) (hcancel : .cancel ∉ steps) (ms : Nat) :
    (l.followedBy (.advance ms)).IsDone ↔
      l.IsDone ∨ l.task.due ≤ start + totalSpan steps + ms := by
  obtain ⟨htime, hlater⟩ := later_of_mem h
  have hdue : l.ms ≤ totalSpan l.later + ms ↔ l.task.due ≤ start + totalSpan steps + ms := by
    simp only [Launch.task]
    omega
  rw [isDone_advance, hlater, hdue, and_iff_right hcancel]

/-- After a cancel no step finishes a task. -/
theorem isDone_followedBy_of_cancel {start : Nat} {steps : List ScopeStep} {l : Launch}
    (h : l ∈ launches start steps) (hcancel : .cancel ∈ steps) (step : ScopeStep) :
    (l.followedBy step).IsDone ↔ l.IsDone := by
  have hlater : .cancel ∈ l.later := (later_of_mem h).2.mpr hcancel
  rw [isDone_followedBy, or_iff_left]
  exact fun hnone => hnone.1 (List.mem_append_left _ hlater)

/-! ## Which tasks are done -/

/-- The names of the tasks that are done. -/
def doneIds (ls : List Launch) : List Int :=
  (ls.filter (·.IsDone)).map Launch.id

/-- The tasks that are not done. -/
def pendingTasks (ls : List Launch) : List Task :=
  (ls.filter (¬ ·.IsDone)).map Launch.task

theorem doneIds_append (ls rest : List Launch) :
    doneIds (ls ++ rest) = doneIds ls ++ doneIds rest := by
  rw [doneIds, List.filter_append, List.map_append]
  rfl

theorem pendingTasks_append (ls rest : List Launch) :
    pendingTasks (ls ++ rest) = pendingTasks ls ++ pendingTasks rest := by
  rw [pendingTasks, List.filter_append, List.map_append]
  rfl

section FollowedBy

variable {ls : List Launch} {step : ScopeStep}

/-- A step that finishes no task leaves all done that are done, and no others. -/
theorem doneIds_followedBy (h : ∀ l ∈ ls, (l.followedBy step).IsDone ↔ l.IsDone) :
    doneIds (ls.map (followedBy step)) = doneIds ls := by
  have hfilter : ls.filter (fun l => (l.followedBy step).IsDone) = ls.filter (·.IsDone) :=
    List.filter_congr fun l hl => decide_eq_decide.mpr (h l hl)
  rw [doneIds, List.filter_map, List.map_map, doneIds, ← hfilter]
  rfl

/-- A step that finishes no task leaves all pending that are. -/
theorem pendingTasks_followedBy (h : ∀ l ∈ ls, (l.followedBy step).IsDone ↔ l.IsDone) :
    pendingTasks (ls.map (followedBy step)) = pendingTasks ls := by
  have hfilter : ls.filter (fun l => ¬ (l.followedBy step).IsDone) = ls.filter (¬ ·.IsDone) :=
    List.filter_congr fun l hl => decide_eq_decide.mpr (not_congr (h l hl))
  rw [pendingTasks, List.filter_map, List.map_map, pendingTasks, ← hfilter]
  rfl

variable {now : Nat} (h : ∀ l ∈ ls, (l.followedBy step).IsDone ↔ l.IsDone ∨ l.task.due ≤ now)
include h

/-- Of the pending tasks, those remain that are due later. -/
theorem pendingTasks_followedBy_of_due :
    pendingTasks (ls.map (followedBy step)) =
      (pendingTasks ls).filter fun task => ¬ task.due ≤ now := by
  have hfilter : ls.filter (fun l => ¬ (l.followedBy step).IsDone) =
      (ls.filter (¬ ·.IsDone)).filter fun l => ¬ l.task.due ≤ now := by
    rw [List.filter_filter]
    refine List.filter_congr fun l hl => ?_
    rw [← Bool.decide_and, decide_eq_decide, h l hl, not_or, and_comm]
  rw [pendingTasks, List.filter_map, List.map_map, pendingTasks, List.filter_map]
  exact congrArg (List.map Launch.task) hfilter

/-- The pending tasks that are due join those that are done. -/
theorem doneIds_followedBy_of_due :
    (doneIds ls ++ ((pendingTasks ls).filter fun task => task.due ≤ now).map Task.id).Perm
      (doneIds (ls.map (followedBy step))) := by
  -- the tasks that are done after the step, split by whether they were done before it
  have hsplit := List.filter_append_perm (·.IsDone) (ls.filter fun l => (l.followedBy step).IsDone)
  have hbefore : (ls.filter fun l => (l.followedBy step).IsDone).filter (·.IsDone) =
      ls.filter (·.IsDone) := by
    rw [List.filter_filter]
    refine List.filter_congr fun l hl => ?_
    rw [← Bool.decide_and, decide_eq_decide, h l hl]
    exact and_iff_left_of_imp Or.inl
  have hnow : (ls.filter fun l => (l.followedBy step).IsDone).filter (! ·.IsDone) =
      (ls.filter (¬ ·.IsDone)).filter fun l => l.task.due ≤ now := by
    rw [List.filter_filter, List.filter_filter]
    refine List.filter_congr fun l hl => ?_
    rw [← decide_not, ← Bool.decide_and, ← Bool.decide_and, decide_eq_decide, h l hl]
    tauto
  rw [hbefore, hnow] at hsplit
  have hids := hsplit.map Launch.id
  rw [List.map_append] at hids
  rw [doneIds, pendingTasks, doneIds, List.filter_map, List.map_map, List.filter_map, List.map_map]
  exact hids

end FollowedBy

end Launch

open Launch (doneIds pendingTasks)

/-! ## What the scope knows about the launches -/

namespace TaskScope

theorem launch_of_isCancelled_eq_false {scope : TaskScope} (h : scope.isCancelled = false)
    (task : Task) : scope.launch task =
      (true, { scope with running := scope.running ++ [task], finished := 0 }) := by
  rw [launch, h]
  rfl

theorem runUntil_eq (scope : TaskScope) (now : Nat) :
    scope.runUntil now =
      ((scope.running.filter fun task => task.due ≤ now).map Task.id,
        { scope with
          running := scope.running.filter fun task => ¬ task.due ≤ now
          finished :=
            scope.finished + (scope.running.filter fun task => task.due ≤ now).length }) := by
  rw [runUntil, List.partition_eq_filter_filter]
  simp only [decide_not]
  rfl

/-- Finished tasks are still held. -/
theorem count_runUntil (scope : TaskScope) (now : Nat) :
    (scope.runUntil now).2.count = scope.count := by
  have hlength := List.length_eq_length_filter_add (l := scope.running)
    fun task => decide (task.due ≤ now)
  simp only [runUntil_eq, count, decide_not]
  omega

end TaskScope

namespace ScopeSession

/-- A session agrees with what has been done in it: a cancelled scope is empty, and one that is not
runs the tasks that are not done. -/
structure Tracks (session : ScopeSession) (start : Nat) (steps : List ScopeStep) : Prop where
  now_eq : session.now = start + totalSpan steps
  finished_perm : session.finished.Perm (doneIds (launches start steps))
  scope_of_mem : .cancel ∈ steps → session.scope = session.scope.cancel
  isCancelled_of_notMem : .cancel ∉ steps → session.scope.isCancelled = false
  running_of_notMem : .cancel ∉ steps →
    session.scope.running = pendingTasks (launches start steps)

namespace Tracks

variable {session : ScopeSession} {start : Nat} {steps : List ScopeStep}

theorem fresh (start : Nat) : (fresh start).Tracks start [] where
  now_eq := rfl
  finished_perm := .nil
  scope_of_mem h := absurd h List.not_mem_nil
  isCancelled_of_notMem _ := rfl
  running_of_notMem _ := rfl

theorem isOver (h : session.Tracks start steps) (hcancel : .cancel ∈ steps) :
    session.scope.IsOver := by
  rw [h.scope_of_mem hcancel]
  exact session.scope.isOver_cancel

/-- Once a scope has been cancelled, only the clock moves. -/
theorem step_eq_of_mem (h : session.Tracks start steps) (hcancel : .cancel ∈ steps)
    (step : ScopeStep) : session.step step = { session with now := session.now + step.span } := by
  have hover := h.isOver hcancel
  cases step with
  | launch id ms => simp only [ScopeSession.step, hover.launch_eq, ScopeStep.span, Nat.add_zero]
  | cancel => simp only [ScopeSession.step, ← h.scope_of_mem hcancel, ScopeStep.span, Nat.add_zero]
  | advance ms =>
      simp only [ScopeSession.step, hover.runUntil_eq, ScopeStep.span, List.append_nil]

/-- A cancelled scope stays so. -/
theorem step_of_mem (h : session.Tracks start steps) (hcancel : .cancel ∈ steps)
    (step : ScopeStep) : (session.step step).Tracks start (steps ++ [step]) := by
  have hids : doneIds (launches start (steps ++ [step])) = doneIds (launches start steps) := by
    rw [Launch.launches_concat, if_pos hcancel, List.append_nil]
    exact Launch.doneIds_followedBy fun l hl => Launch.isDone_followedBy_of_cancel hl hcancel step
  have hmem : ScopeStep.cancel ∈ steps ++ [step] := List.mem_append_left _ hcancel
  rw [h.step_eq_of_mem hcancel]
  refine ⟨?_, ?_, fun _ => h.scope_of_mem hcancel, fun hnot => absurd hmem hnot,
    fun hnot => absurd hmem hnot⟩
  · simp only [h.now_eq, totalSpan_concat, Nat.add_assoc]
  · rw [hids]
    exact h.finished_perm

/-- A launch adds a task to those that run. -/
theorem launch (h : session.Tracks start steps) (hcancel : .cancel ∉ steps) (id : Int) (ms : Nat) :
    (session.step (.launch id ms)).Tracks start (steps ++ [.launch id ms]) := by
  have hnot : ScopeStep.cancel ∉ steps ++ [.launch id ms] := by
    simpa using hcancel
  have hopen := h.isCancelled_of_notMem hcancel
  have hlaunches : launches start (steps ++ [.launch id ms]) =
      (launches start steps).map (Launch.followedBy (.launch id ms)) ++
        [⟨id, start + totalSpan steps, ms, []⟩] := by
    rw [Launch.launches_concat, if_neg hcancel]
    rfl
  have hnew : ¬ (⟨id, start + totalSpan steps, ms, []⟩ : Launch).IsDone :=
    Launch.not_isDone_of_later_eq_nil rfl
  have hsame : ∀ l ∈ launches start steps, (l.followedBy (.launch id ms)).IsDone ↔ l.IsDone :=
    fun l _ => l.isDone_followedBy_of_not_isAdvance rfl
  rw [ScopeSession.step, TaskScope.launch_of_isCancelled_eq_false hopen]
  refine ⟨?_, ?_, fun hmem => absurd hmem hnot, fun _ => hopen, fun _ => ?_⟩
  · simp only [h.now_eq, totalSpan_concat, ScopeStep.span, Nat.add_zero]
  · rw [hlaunches, Launch.doneIds_append, Launch.doneIds_followedBy hsame]
    simpa [doneIds, hnew] using h.finished_perm
  · rw [hlaunches, Launch.pendingTasks_append, Launch.pendingTasks_followedBy hsame]
    simp [pendingTasks, hnew, Launch.task, h.running_of_notMem hcancel, h.now_eq]

/-- A cancel stops the tasks that run, and finishes none of them. -/
theorem cancel (h : session.Tracks start steps) (hcancel : .cancel ∉ steps) :
    (session.step .cancel).Tracks start (steps ++ [.cancel]) := by
  have hmem : ScopeStep.cancel ∈ steps ++ [.cancel] := List.mem_concat_self
  have hids : doneIds (launches start (steps ++ [.cancel])) = doneIds (launches start steps) := by
    rw [Launch.launches_concat, if_neg hcancel]
    simp only [launches, List.append_nil]
    exact Launch.doneIds_followedBy fun l _ => l.isDone_followedBy_of_not_isAdvance rfl
  refine ⟨?_, ?_, fun _ => rfl, fun hnot => absurd hmem hnot, fun hnot => absurd hmem hnot⟩
  · simp only [ScopeSession.step, h.now_eq, totalSpan_concat, ScopeStep.span, Nat.add_zero]
  · rw [hids]
    exact h.finished_perm

/-- An advance finishes the tasks that are due by its end, and those alone. -/
theorem advance (h : session.Tracks start steps) (hcancel : .cancel ∉ steps) (ms : Nat) :
    (session.step (.advance ms)).Tracks start (steps ++ [.advance ms]) := by
  have hnot : ScopeStep.cancel ∉ steps ++ [.advance ms] := by
    simpa using hcancel
  have hlaunches : launches start (steps ++ [.advance ms]) =
      (launches start steps).map (Launch.followedBy (.advance ms)) := by
    rw [Launch.launches_concat, if_neg hcancel]
    simp only [launches, List.append_nil]
  have hdue : ∀ l ∈ launches start steps, (l.followedBy (.advance ms)).IsDone ↔
      l.IsDone ∨ l.task.due ≤ session.now + ms := by
    intro l hl
    rw [h.now_eq]
    exact Launch.isDone_advance_of_mem hl hcancel ms
  simp only [ScopeSession.step, TaskScope.runUntil_eq]
  refine ⟨?_, ?_, fun hmem => absurd hmem hnot, fun _ => h.isCancelled_of_notMem hcancel,
    fun _ => ?_⟩
  · simp only [h.now_eq, totalSpan_concat, ScopeStep.span, Nat.add_assoc]
  · rw [hlaunches, h.running_of_notMem hcancel]
    exact (h.finished_perm.append_right _).trans (Launch.doneIds_followedBy_of_due hdue)
  · rw [hlaunches, Launch.pendingTasks_followedBy_of_due hdue, h.running_of_notMem hcancel]

/-- Every step keeps the agreement. -/
theorem step (h : session.Tracks start steps) (step : ScopeStep) :
    (session.step step).Tracks start (steps ++ [step]) := by
  by_cases hcancel : .cancel ∈ steps
  · exact h.step_of_mem hcancel step
  · cases step with
    | launch id ms => exact h.launch hcancel id ms
    | cancel => exact h.cancel hcancel
    | advance ms => exact h.advance hcancel ms

/-- Every run agrees with what has been done in it. -/
theorem run (start : Nat) (steps : List ScopeStep) :
    ((ScopeSession.fresh start).run steps).Tracks start steps := by
  induction steps using List.reverseRecOn with
  | nil => exact fresh start
  | append_singleton steps last ih =>
      rw [run_concat]
      exact ih.step last

/-- Once a scope has been cancelled, only the clock moves, whatever is done. -/
theorem run_eq_of_mem (h : session.Tracks start steps) (hcancel : .cancel ∈ steps)
    (later : List ScopeStep) :
    session.run later = { session with now := session.now + totalSpan later } := by
  induction later generalizing session steps with
  | nil => rfl
  | cons step later ih =>
      have hnext := ih (h.step step) (List.mem_append_left _ hcancel)
      rw [h.step_eq_of_mem hcancel] at hnext
      rw [ScopeSession.run, List.foldl_cons, h.step_eq_of_mem hcancel]
      simpa only [ScopeSession.run, totalSpan_cons, Nat.add_assoc] using hnext

theorem isCancelled_iff (h : session.Tracks start steps) :
    session.scope.isCancelled = true ↔ .cancel ∈ steps := by
  by_cases hcancel : .cancel ∈ steps
  · rw [h.scope_of_mem hcancel]
    exact iff_of_true rfl hcancel
  · rw [h.isCancelled_of_notMem hcancel]
    exact iff_of_false Bool.false_ne_true hcancel

theorem launch_fst_iff (h : session.Tracks start steps) (task : Task) :
    (session.scope.launch task).1 = true ↔ .cancel ∉ steps := by
  rw [← h.isCancelled_iff, TaskScope.launch]
  cases session.scope.isCancelled <;> simp

/-- Right after a launch the finished tasks have been cleared away. -/
theorem count_launch (h : session.Tracks start steps) (hcancel : .cancel ∉ steps) (task : Task) :
    (session.scope.launch task).2.count =
      1 + (launches start steps).countP fun l => ¬ l.IsDone := by
  rw [TaskScope.launch_of_isCancelled_eq_false (h.isCancelled_of_notMem hcancel)]
  simp only [TaskScope.count, h.running_of_notMem hcancel, pendingTasks, List.length_append,
    List.length_map, List.length_singleton, ← List.countP_eq_length_filter]
  omega

end Tracks

/-- While nothing but time passes, the scope holds as many tasks as before. -/
theorem count_run_of_isAdvance (session : ScopeSession) {waits : List ScopeStep}
    (h : ∀ step ∈ waits, step.isAdvance = true) :
    (session.run waits).scope.count = session.scope.count := by
  induction waits generalizing session with
  | nil => rfl
  | cons step waits ih =>
      rw [List.forall_mem_cons] at h
      obtain ⟨hstep, hwaits⟩ := h
      have hcount : (session.step step).scope.count = session.scope.count := by
        cases step with
        | advance ms => exact session.scope.count_runUntil (session.now + ms)
        | launch id ms => contradiction
        | cancel => contradiction
      rw [← hcount]
      exact ih (session.step step) hwaits

/-- A scope owns its tasks.  It takes a task exactly if it has not been cancelled; the tasks that
have done their work are those whose time passed before a cancel, and after one there are no more of
them.  Right after a launch it holds the new task and those that are not done; that number stays
while nothing but time passes, and it is zero for ever after a cancel. -/
structure OwnsTasks (session : ScopeSession) (start : Nat) (steps : List ScopeStep) : Prop where
  launch_iff : ∀ task, (session.scope.launch task).1 = true ↔ .cancel ∉ steps
  finished_perm : session.finished.Perm (doneIds (launches start steps))
  finished_later : .cancel ∈ steps → ∀ later, (session.run later).finished = session.finished
  count_launch : ∀ task, (session.scope.launch task).1 = true →
    (session.scope.launch task).2.count = 1 + (launches start steps).countP fun l => ¬ l.IsDone
  count_waits : ∀ waits, (∀ step ∈ waits, step.isAdvance = true) →
    (session.run waits).scope.count = session.scope.count
  isCancelled_iff : session.scope.isCancelled = true ↔ .cancel ∈ steps
  count_later : .cancel ∈ steps → ∀ later, (session.run later).scope.count = 0
  isCancelled_later : .cancel ∈ steps → ∀ later, (session.run later).scope.isCancelled = true

/-- Whatever tasks are launched in a scope, however time passes and whenever it is cancelled, at
every moment it owns its tasks. -/
theorem scope_owns_tasks (start : Nat) (steps : List ScopeStep) :
    ((fresh start).run steps).OwnsTasks start steps := by
  have htracks := Tracks.run start steps
  refine ⟨htracks.launch_fst_iff, htracks.finished_perm, ?_, ?_, ?_, htracks.isCancelled_iff,
    ?_, ?_⟩
  · intro hcancel later
    rw [htracks.run_eq_of_mem hcancel]
  · intro task htaken
    exact htracks.count_launch ((htracks.launch_fst_iff task).mp htaken) task
  · intro waits hwaits
    exact count_run_of_isAdvance _ hwaits
  · intro hcancel later
    rw [htracks.run_eq_of_mem hcancel]
    exact (htracks.isOver hcancel).count_eq
  · intro hcancel later
    rw [htracks.run_eq_of_mem hcancel]
    exact htracks.isCancelled_iff.mpr hcancel

/-- A finished task is held until the next launch, and one that has been stopped never finishes. -/
example :
    let session := (fresh 5).run [.launch 1 10, .launch 2 30, .advance 10, .launch 3 0]
    session.finished = [1] ∧ session.scope.count = 2 ∧
      (session.run [.cancel, .advance 100]).finished = [1] := by
  decide

end ScopeSession

end VpnClient
