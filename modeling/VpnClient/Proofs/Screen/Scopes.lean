import VpnClient.Proofs.Scope.Ownership
import VpnClient.Proofs.Screen.Stillness

/-!
# The scopes of a screen

A presenter launches its tasks in a scope of its own, and the feeds of a screen run in another one.
All that is done to a screen is something that happens to these two scopes; to close the screen is
to cancel both of them.

A scope knows of a task when it is over.  The aggregation and the watches are only over with their
scope, and so later than any time that is looked at: they are due at a horizon that the clock does
not reach.

## Main Definitions

* `Presenter.RunsIn` — the tasks of a presenter are those that run in a scope
* `Screen.RunsIn` — the two scopes of a screen

## Main Statements

* `Screen.runsIn_wire`, `Screen.runsIn_close` — wiring a screen launches its feeds, and closing it
  cancels its scopes
* `Screen.RunsIn.use`, `Screen.RunsIn.settle` — what a use and coming to rest do to the scopes
* `Screen.RunsIn.useRun` — a run of a screen is a run of its scopes
* `Screen.scopes_over_after_close` — the scopes of a screen that is closed in a run are over
-/

namespace VpnClient

namespace TaskScope

theorem uses_append (scope : TaskScope) (first second : List ScopeUse) :
    scope.uses (first ++ second) = (scope.uses first).uses second :=
  List.foldl_append

theorem use_launch_of_open {scope : TaskScope} (h : scope.isCancelled = false) (task : Task) :
    scope.use (.launch task) = ⟨scope.running ++ [task], 0, false⟩ := by
  rw [use, launch_of_isCancelled_eq_false h, h]

/-- The tasks that are launched in a scope one after the other run in it. -/
theorem uses_launch_of_open {scope : TaskScope} (h : scope.isCancelled = false)
    (tasks : List Task) (last : Task) :
    scope.uses ((tasks ++ [last]).map .launch) =
      ⟨scope.running ++ (tasks ++ [last]), 0, false⟩ := by
  induction tasks generalizing scope with
  | nil => exact use_launch_of_open h last
  | cons task tasks ih =>
      rw [List.cons_append, List.map_cons, uses, List.foldl_cons, use_launch_of_open h]
      refine (ih rfl).trans ?_
      rw [List.append_assoc, List.singleton_append]

theorem use_launch_of_cancelled {scope : TaskScope} (h : scope.isCancelled = true) (task : Task) :
    scope.use (.launch task) = scope := by
  simp only [use, launch, h, if_true]

end TaskScope

/-! ## The scope of a presenter -/

namespace Presenter

/-- The number of tasks that are only over with the presenter. -/
def lastingTasks (p : Presenter) : Nat :=
  [p.aggregator.isSome, p.outOfTime.isSome, p.revoked.isSome].count true

/-- When the tasks of a presenter are due. -/
def dues (p : Presenter) (horizon : Nat) : List Nat :=
  List.replicate p.lastingTasks horizon ++ p.jobs.map Job.due

/-- The tasks of a presenter are those that run in a scope, which is cancelled if and only if the
presenter is closed.  Before its start a presenter has no lasting tasks. -/
structure RunsIn (p : Presenter) (horizon : Nat) (scope : TaskScope) : Prop where
  isCancelled_eq : scope.isCancelled = p.isClosed
  dues_perm : (scope.running.map Task.due).Perm (p.dues horizon)
  resting : p.isStarted = false → p.lastingTasks = 0

/-- A presenter without the jobs that are due. -/
def withoutDue (p : Presenter) (clock : Clock) : Presenter :=
  { p with jobs := p.jobs.filter fun job => !decide (job.due ≤ clock.elapsed) }

theorem runAll_lastingTasks (p : Presenter) (clock : Clock) (network : Network)
    (backend : Backend) (jobs : List Job) :
    (p.runAll clock network backend jobs).1.lastingTasks = p.lastingTasks := by
  induction jobs generalizing p backend with
  | nil => rfl
  | cons job jobs ih =>
      simp only [runAll]
      cases (p.perform network backend job.request).1 with
      | none => exact ih p _
      | some effect => exact ih (p.send clock effect) _

namespace RunsIn

variable {p q : Presenter} {horizon : Nat} {scope : TaskScope} {clock : Clock}

theorem of_livesAlike (h : p.RunsIn horizon scope) (halike : p.LivesAlike q)
    (hlasting : q.lastingTasks = p.lastingTasks) : q.RunsIn horizon scope where
  isCancelled_eq := h.isCancelled_eq.trans halike.isClosed_eq.symm
  dues_perm := by
    rw [dues, hlasting, halike.jobs_eq]
    exact h.dues_perm
  resting := by
    rw [halike.isStarted_eq, hlasting]
    exact h.resting

/-- A job is a task that is launched in the scope.  A closed presenter takes none, and its scope
refuses it. -/
theorem addJob (h : p.RunsIn horizon scope) (clock : Clock) (network : Network)
    (request : ScreenRequest) : ∃ task,
      (p.addJob clock network request).RunsIn horizon (scope.use (.launch task)) := by
  refine ⟨⟨0, clock.elapsed + if request.waits then network.latency else 0⟩, ?_⟩
  by_cases hclosed : p.isClosed = true
  · rw [TaskScope.use_launch_of_cancelled (h.isCancelled_eq.trans hclosed), Presenter.addJob,
      if_pos hclosed]
    exact h
  · have hopen := Bool.eq_false_iff.mpr hclosed
    rw [TaskScope.use_launch_of_open (h.isCancelled_eq.trans hopen), Presenter.addJob,
      if_neg hclosed]
    refine ⟨hopen.symm, ?_, h.resting⟩
    simp only [dues, List.map_append, ← List.append_assoc]
    exact h.dues_perm.append_right _

/-- The first start launches the lasting tasks and the look for purchases. -/
theorem start (h : p.RunsIn horizon scope) (clock : Clock) (network : Network) : ∃ uses,
    (p.start clock network).RunsIn horizon (scope.uses uses) := by
  by_cases hstarted : p.isStarted = true
  · rw [Presenter.start, if_pos hstarted]
    exact ⟨[], h⟩
  rw [Bool.not_eq_true] at hstarted
  by_cases hclosed : p.isClosed = true
  · rw [Presenter.start, if_neg (Bool.eq_false_iff.mp hstarted), if_pos hclosed]
    refine ⟨[], h.isCancelled_eq, h.dues_perm, ?_⟩
    intro hresting
    cases hresting
  have hopen := Bool.eq_false_iff.mpr hclosed
  let lasting : Task := ⟨0, horizon⟩
  let look : Task := ⟨0, clock.elapsed + network.latency⟩
  refine ⟨([lasting, lasting, lasting] ++ [look]).map .launch, ?_⟩
  rw [TaskScope.uses_launch_of_open (h.isCancelled_eq.trans hopen),
    start_of_resting clock network hopen hstarted]
  refine ⟨hopen.symm, ?_, ?_⟩
  · have hjobs := h.dues_perm
    rw [dues, h.resting hstarted, List.replicate_zero, List.nil_append] at hjobs
    simp only [dues, List.map_append, ← List.append_assoc]
    exact ((hjobs.append_right _).trans List.perm_append_comm).append_right _
  · intro hresting
    cases hresting

theorem publishDue (h : p.RunsIn horizon scope) (clock : Clock) :
    (p.publishDue clock).RunsIn horizon scope := by
  refine h.of_livesAlike (p.livesAlike_publishDue clock) ?_
  rw [Presenter.publishDue]
  split
  · rfl
  · next a haggregator =>
    split
    · rfl
    · simp only [lastingTasks, haggregator, publish, Option.isSome_some]

/-- No task begins or ends in a reaction. -/
theorem react (h : p.RunsIn horizon scope) (clock : Clock) (sources : ScreenSources) :
    (p.react clock sources).RunsIn horizon scope := by
  refine h.of_livesAlike (p.livesAlike_react clock sources) ?_
  simp only [lastingTasks, react_aggregator, react_outOfTime, react_revoked, Option.isSome_map]

/-- The jobs that are due are the tasks that are over by now. -/
theorem withoutDue (h : p.RunsIn horizon scope) (htime : clock.elapsed < horizon) :
    (p.withoutDue clock).RunsIn horizon (scope.use (.runUntil clock.elapsed)) := by
  refine ⟨h.isCancelled_eq, ?_, h.resting⟩
  have hdues := h.dues_perm.filter fun due => !decide (due ≤ clock.elapsed)
  rw [dues, List.filter_append, List.filter_map, List.filter_map, List.filter_replicate_of_pos]
    at hdues
  · simp only [TaskScope.use, TaskScope.runUntil_eq, decide_not]
    exact hdues
  · simpa using htime

/-- Requests that run begin no task and end no other one. -/
theorem runJobs (h : p.RunsIn horizon scope) (htime : clock.elapsed < horizon) (network : Network)
    (backend : Backend) : (p.runJobs clock network backend).1.RunsIn horizon
      (scope.use (.runUntil clock.elapsed)) := by
  simp only [Presenter.runJobs, List.partition_eq_filter_filter]
  exact (h.withoutDue htime).of_livesAlike
    ((agrees_runAll clock network _ (p.withoutDue clock) backend).1.livesAlike.trans
      ⟨rfl, rfl, rfl⟩)
    (runAll_lastingTasks (p.withoutDue clock) clock network backend _)

end RunsIn

end Presenter

/-! ## The scopes of a screen -/

/-- The feeds hold their tasks in a scope until they are cancelled with it. -/
structure Feeds.RunIn (feeds : Feeds) (scope : TaskScope) : Prop where
  isCancelled_eq : scope.isCancelled = feeds.isCancelled
  count_eq : scope.count = feeds.taskCount

namespace Screen

/-- The tasks of a screen run in one scope, and its feeds, if it has any, in another one. -/
structure RunsIn (screen : Screen) (horizon : Nat) (tasks useCases : TaskScope) : Prop where
  presenter : screen.presenter.RunsIn horizon tasks
  feeds : ∀ feeds, screen.supply = .derived feeds → feeds.RunIn useCases

/-- Wiring a screen launches the three feeds. -/
theorem runsIn_wire {config : ConnectConfig} {clock : Clock} {backend : Backend} {screen : Screen}
    (h : wire config clock backend = .ok screen) (horizon : Nat) :
    screen.RunsIn horizon .empty
      (TaskScope.empty.uses ((List.replicate 3 ⟨0, horizon⟩).map .launch)) := by
  rw [wire] at h
  cases hmake : Presenter.make config with
  | error failure =>
      rw [hmake] at h
      cases h
  | ok p =>
      rw [hmake] at h
      cases h
      refine ⟨?_, ?_⟩
      · rw [Presenter.make] at hmake
        split at hmake
        · cases hmake
        · cases hmake
          exact ⟨rfl, .refl _, fun _ => rfl⟩
      · intro feeds hfeeds
        cases hfeeds
        exact ⟨rfl, rfl⟩

/-- Closing a screen cancels both scopes, whatever runs in them. -/
theorem runsIn_close (screen : Screen) (horizon : Nat) (tasks useCases : TaskScope) :
    screen.close.RunsIn horizon tasks.cancel useCases.cancel := by
  refine ⟨⟨rfl, .refl _, fun _ => rfl⟩, ?_⟩
  obtain ⟨backend, network, supply, presenter⟩ := screen
  intro feeds hfeeds
  cases supply with
  | given sources => cases hfeeds
  | derived before =>
      cases hfeeds
      exact ⟨rfl, rfl⟩

namespace RunsIn

variable {screen : Screen} {horizon : Nat} {tasks useCases : TaskScope}

/-- Whatever is done to a screen, certain things happen to its scopes. -/
theorem use (h : screen.RunsIn horizon tasks useCases) (clock : Clock) (use : ScreenUse) :
    ∃ uses uses',
      (screen.use clock use).RunsIn horizon (tasks.uses uses) (useCases.uses uses') := by
  cases use with
  | act action =>
      cases action with
      | change change => exact ⟨[], [], h.presenter, h.feeds⟩
      | click click =>
          obtain ⟨task, htask⟩ := h.presenter.addJob clock screen.network click.request
          exact ⟨[.launch task], [], htask, h.feeds⟩
      | start =>
          obtain ⟨uses, huses⟩ := h.presenter.start clock screen.network
          exact ⟨uses, [], huses, h.feeds⟩
  | close => exact ⟨[.cancel], [.cancel], runsIn_close screen horizon tasks useCases⟩
  | subscribe =>
      exact ⟨[], [], h.presenter.of_livesAlike ⟨rfl, rfl, rfl⟩ rfl, h.feeds⟩
  | unsubscribe observer =>
      exact ⟨[], [], h.presenter.of_livesAlike ⟨rfl, rfl, rfl⟩ rfl, h.feeds⟩

theorem useAll (h : screen.RunsIn horizon tasks useCases) (clock : Clock) (done : List ScreenUse) :
    ∃ uses uses',
      (screen.useAll clock done).RunsIn horizon (tasks.uses uses) (useCases.uses uses') := by
  induction done generalizing screen tasks useCases with
  | nil => exact ⟨[], [], h⟩
  | cons first rest ih =>
      obtain ⟨uses, uses', hfirst⟩ := h.use clock first
      obtain ⟨more, more', hrest⟩ := ih hfirst
      rw [← TaskScope.uses_append, ← TaskScope.uses_append] at hrest
      exact ⟨_, _, hrest⟩

theorem react (h : screen.RunsIn horizon tasks useCases) (clock : Clock) :
    (screen.react clock).RunsIn horizon tasks useCases := by
  have hpublished := h.presenter.publishDue clock
  rw [Screen.react, publishDue_eq]
  generalize screen.presenter.publishDue clock = published at hpublished
  cases hsupply : screen.supply with
  | given sources =>
      simp only [reactFeeds]
      refine ⟨hpublished.react clock _, ?_⟩
      intro later hlater
      simp only [reduceCtorEq] at hlater
  | derived feeds =>
      simp only [reactFeeds]
      refine ⟨hpublished.react clock _, ?_⟩
      intro later hlater
      rw [Supply.derived.injEq] at hlater
      subst hlater
      exact ⟨(h.feeds feeds hsupply).isCancelled_eq, (h.feeds feeds hsupply).count_eq⟩

theorem runJobs (h : screen.RunsIn horizon tasks useCases) {clock : Clock}
    (htime : clock.elapsed < horizon) :
    (screen.runJobs clock).RunsIn horizon (tasks.use (.runUntil clock.elapsed)) useCases := by
  obtain ⟨backend, network, supply, presenter⟩ := screen
  exact ⟨h.presenter.runJobs htime network backend, h.feeds⟩

/-- When a screen comes to rest, the tasks are over whose time has come. -/
theorem settle (h : screen.RunsIn horizon tasks useCases) {clock : Clock}
    (htime : clock.elapsed < horizon) :
    (Screen.settle clock screen).RunsIn horizon (tasks.use (.runUntil clock.elapsed)) useCases :=
  ((h.react clock).runJobs htime).react clock

theorem useStep {timed : Timed Screen} (h : timed.state.RunsIn horizon tasks useCases)
    (step : TimedStep (List ScreenUse))
    (htime : (Screen.useStep timed step).clock.elapsed < horizon) :
    ∃ uses uses', (Screen.useStep timed step).state.RunsIn horizon (tasks.uses uses)
      (useCases.uses uses') := by
  cases step with
  | act done =>
      obtain ⟨uses, uses', hdone⟩ := h.useAll timed.clock done
      refine ⟨uses ++ [.runUntil timed.clock.elapsed], uses', ?_⟩
      rw [TaskScope.uses_append]
      exact hdone.settle htime
  | advance ms =>
      -- only times before the horizon are looked at
      refine Machine.advance_preserves
        (P := fun clock screen => clock.elapsed < horizon → ∃ uses uses',
          screen.RunsIn horizon (tasks.uses uses) (useCases.uses uses'))
        ?_ ?_ ms timed (fun _ => ⟨[], [], h⟩) htime
      · intro clock state time hstate hlater htime
        obtain ⟨uses, uses', hruns⟩ := hstate (Nat.lt_trans hlater htime)
        refine ⟨uses ++ [.runUntil time], uses', ?_⟩
        rw [TaskScope.uses_append]
        exact hruns.settle htime
      · intro clock state time hstate hlater _ htime
        exact hstate (Nat.lt_trans hlater htime)

theorem elapsed_le_useRun (timed : Timed Screen) (steps : List (TimedStep (List ScreenUse))) :
    timed.clock.elapsed ≤ (Screen.useRun timed steps).clock.elapsed := by
  refine List.foldlRecOn
    (motive := fun later => timed.clock.elapsed ≤ later.clock.elapsed) steps Screen.useStep
    (Nat.le_refl _) ?_
  intro later hlater step _
  cases step with
  | act done => exact hlater
  | advance ms => exact Nat.le_trans hlater (Nat.le_add_right _ _)

/-- A run of a screen is a run of its scopes. -/
theorem useRun {timed : Timed Screen} (h : timed.state.RunsIn horizon tasks useCases)
    (steps : List (TimedStep (List ScreenUse)))
    (htime : (Screen.useRun timed steps).clock.elapsed < horizon) :
    ∃ uses uses', (Screen.useRun timed steps).state.RunsIn horizon (tasks.uses uses)
      (useCases.uses uses') := by
  induction steps generalizing timed tasks useCases with
  | nil => exact ⟨[], [], h⟩
  | cons step steps ih =>
      have hstep := Nat.lt_of_le_of_lt (elapsed_le_useRun (Screen.useStep timed step) steps) htime
      obtain ⟨uses, uses', hfirst⟩ := h.useStep step hstep
      obtain ⟨more, more', hrest⟩ := ih hfirst htime
      rw [← TaskScope.uses_append, ← TaskScope.uses_append] at hrest
      exact ⟨_, _, hrest⟩

end RunsIn

/-- What has been closed stays in its cancelled scopes. -/
theorem Remains.runsIn {opened last : Screen} {changes : List BackendChange}
    (h : opened.close.Remains last changes) (horizon : Nat) (tasks useCases : TaskScope) :
    last.RunsIn horizon tasks.cancel useCases.cancel := by
  have hclosed := runsIn_close opened horizon tasks useCases
  obtain ⟨isStarted, hub, rfl, -⟩ := h
  exact ⟨⟨rfl, .refl _, fun _ => rfl⟩, hclosed.feeds⟩

/-- The tasks of a screen run in two scopes, to which something happens whenever something is done
to the screen.  Its close cancels both, and with them all that is left: from then on they refuse all
tasks, and they are the scopes of the screen for the rest of the run. -/
theorem scopes_over_after_close {config : ConnectConfig} {clock : Clock} {backend : Backend}
    {screen : Screen} (hwire : wire config clock backend = .ok screen)
    (before : List (TimedStep (List ScreenUse))) (earlier later : List ScreenUse)
    (after : List (TimedStep (List ScreenUse))) :
    let reached := useRun ⟨clock, screen⟩ before
    let opened := reached.state.useAll reached.clock earlier
    let last := useRun ⟨clock, screen⟩ (before ++ .act (earlier ++ .close :: later) :: after)
    ∀ horizon, reached.clock.elapsed < horizon → ∃ uses uses',
      let tasks := TaskScope.empty.uses uses
      let useCases := TaskScope.empty.uses uses'
      opened.RunsIn horizon tasks useCases ∧
        opened.close.RunsIn horizon tasks.cancel useCases.cancel ∧
        last.state.RunsIn horizon tasks.cancel useCases.cancel ∧
        tasks.cancel.IsOver ∧ useCases.cancel.IsOver := by
  intro reached opened last horizon htime
  obtain ⟨uses, uses', hreached⟩ := (runsIn_wire hwire horizon).useRun before htime
  obtain ⟨more, more', hopened⟩ := hreached.useAll reached.clock earlier
  simp only [← TaskScope.uses_append] at hopened
  exact ⟨_, _, hopened, runsIn_close opened horizon _ _,
    (remains_after_close ⟨clock, screen⟩ before earlier later after).runsIn horizon _ _,
    TaskScope.isOver_cancel _, TaskScope.isOver_cancel _⟩

end Screen

end VpnClient
