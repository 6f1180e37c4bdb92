import VpnClient.Proofs.Screen.Convergence
import VpnClient.Proofs.Time.Moments
import VpnClient.Scope

/-!
# Nothing happens after the close

A screen can be closed at any time: before or after its start, with a state held back, with timers
that are set, with requests on their way, in the middle of other things that are done to it.  From
then on nothing but its observers and its backend can change, and the backend only from outside.

## Main Definitions

* `ScreenUse`, `Screen.useRun` — all that can be done to a screen, and its runs
* `Screen.Remains` — what a screen can be like after its close
* `Screen.HasEnded` — the end of a screen

## Main Statements

* `Screen.Remains.use`, `Screen.Remains.settle` — neither what is done to a closed screen nor its
  coming to rest brings it back
* `TaskScope.isOver_uses` — a cancelled scope takes no task, whatever happens
* `Screen.nothing_after_close` — a screen that is closed in a run has ended
-/

namespace VpnClient

/-! ## Cancelled scopes -/

/-- What can happen to a scope. -/
inductive ScopeUse where
  | launch (task : Task)
  | cancel
  | runUntil (now : Nat)
  deriving DecidableEq, Repr

namespace TaskScope

/-- The scope after something has happened to it. -/
def use (scope : TaskScope) : ScopeUse → TaskScope
  | .launch task => (scope.launch task).2
  | .cancel => scope.cancel
  | .runUntil now => (scope.runUntil now).2

/-- The scope after all that has happened to it. -/
def uses (scope : TaskScope) (uses : List ScopeUse) : TaskScope :=
  uses.foldl use scope

/-- A scope that takes no task and holds none. -/
structure IsOver (scope : TaskScope) : Prop where
  launch_eq : ∀ task, scope.launch task = (false, scope)
  runUntil_eq : ∀ now, scope.runUntil now = ([], scope)
  count_eq : scope.count = 0

theorem isOver_cancel (scope : TaskScope) : scope.cancel.IsOver where
  launch_eq _ := rfl
  runUntil_eq _ := rfl
  count_eq := rfl

theorem IsOver.use {scope : TaskScope} (h : scope.IsOver) (use : ScopeUse) :
    (scope.use use).IsOver := by
  cases use with
  | launch task =>
      have hsame : scope.use (.launch task) = scope := congrArg Prod.snd (h.launch_eq task)
      rw [hsame]
      exact h
  | cancel => exact isOver_cancel scope
  | runUntil now =>
      have hsame : scope.use (.runUntil now) = scope := congrArg Prod.snd (h.runUntil_eq now)
      rw [hsame]
      exact h

theorem isOver_uses (scope : TaskScope) (uses : List ScopeUse) :
    (scope.cancel.uses uses).IsOver := by
  refine List.foldlRecOn (motive := IsOver) uses TaskScope.use (isOver_cancel scope) ?_
  intro later hlater use _
  exact hlater.use use

end TaskScope

/-! ## Cancelled feeds -/

theorem DerivedSource.react_cancel {α β : Type} [BEq β] (derive : α → Option β)
    (d : DerivedSource β) (followed : Source α) : d.cancel.react derive followed = d.cancel :=
  if_pos rfl

theorem NotificationFeed.react_cancel (feed : NotificationFeed) (clock : Clock)
    (backend : Backend) : feed.cancel.react clock backend = feed.cancel :=
  if_pos rfl

/-- Feeds that have been cancelled write nothing. -/
theorem Feeds.react_cancel (feeds : Feeds) (clock : Clock) (backend : Backend) :
    feeds.cancel.react clock backend = feeds.cancel := by
  simp only [react, cancel, DerivedSource.react_cancel, NotificationFeed.react_cancel]

/-! ## What observers have not read -/

namespace Hub

variable {ε : Type}

/-- What an observer has not read yet. -/
def unread (hub : Hub ε) (number : Nat) : List ε :=
  ((hub.observers[number]?).map Observer.queue).getD []

/-- A new observer has nothing to read. -/
theorem unread_subscribe (hub : Hub ε) (number : Nat) :
    hub.subscribe.2.unread number = hub.unread number := by
  unfold unread subscribe
  rcases Nat.lt_trichotomy number hub.observers.length with hlt | heq | hgt
  · rw [List.getElem?_append_left hlt]
  · rw [heq, List.getElem?_concat_length, List.getElem?_eq_none (Nat.le_refl _)]
    rfl
  · rw [List.getElem?_eq_none (by simp only [List.length_append, List.length_singleton]; omega),
      List.getElem?_eq_none (Nat.le_of_lt hgt)]

/-- What an observer had not read is lost when it goes away. -/
theorem unread_drop (hub : Hub ε) (number gone : Nat) :
    (hub.drop gone).unread number <:+ hub.unread number := by
  unfold unread drop change
  rw [List.getElem?_modify]
  cases hub.observers[number]? with
  | none => exact List.suffix_refl _
  | some observer =>
      by_cases hsame : gone = number
      · simp only [hsame, if_true]
        exact List.nil_suffix
      · simp only [hsame, if_false]
        exact List.suffix_refl _

theorem unread_drained (hub : Hub ε) (number : Nat) : hub.drained.unread number = [] := by
  unfold unread drained
  rw [List.getElem?_map]
  cases hub.observers[number]? <;> rfl

end Hub

/-! ## Runs -/

/-- What can be done to a screen: what can be done to one that is not closed, closing it, and
observing its effects. -/
inductive ScreenUse where
  | act (action : ScreenAction)
  | close
  | subscribe
  | unsubscribe (observer : Nat)

/-- The change of the backend from outside that a use is, if it is one. -/
def ScreenUse.change? : ScreenUse → Option BackendChange
  | act (.change change) => some change
  | _ => none

/-- The changes of the backend from outside in a step. -/
def TimedStep.changes : TimedStep (List ScreenUse) → List BackendChange
  | .act uses => uses.filterMap ScreenUse.change?
  | .advance _ => []

namespace Screen

/-- The screen after a use, before it comes to rest. -/
def use (clock : Clock) (screen : Screen) : ScreenUse → Screen
  | .act action => screen.perform clock action
  | .close => screen.close
  | .subscribe => screen.subscribe.2
  | .unsubscribe observer => screen.unsubscribe observer

/-- The screen after several uses, before it comes to rest. -/
def useAll (clock : Clock) (screen : Screen) (uses : List ScreenUse) : Screen :=
  uses.foldl (use clock) screen

/-- The screen at rest after a step, in which several things may be done at once. -/
def useStep (timed : Timed Screen) : TimedStep (List ScreenUse) → Timed Screen
  | .act uses => machine.act (fun screen => screen.useAll timed.clock uses) timed
  | .advance ms => machine.advance ms timed

/-- The screen at rest after all steps of a run. -/
def useRun (timed : Timed Screen) (steps : List (TimedStep (List ScreenUse))) : Timed Screen :=
  steps.foldl useStep timed

/-! ## What a closed screen remains -/

/-- A screen with another backend and other observers, on which somebody may have tried to start
it. -/
def moved (screen : Screen) (backend : Backend) (isStarted : Bool) (hub : Hub Effect) : Screen :=
  { screen with
    backend := backend
    presenter := { screen.presenter with isStarted := isStarted, hub := hub } }

/-- Closing a closed screen does nothing. -/
theorem close_again (opened : Screen) (backend : Backend) (isStarted : Bool) (hub : Hub Effect) :
    (opened.close.moved backend isStarted hub).close =
      opened.close.moved backend isStarted hub := by
  cases hsupply : opened.supply with
  | given sources =>
      simp only [close, hsupply]
      rfl
  | derived feeds =>
      simp only [close, hsupply]
      rfl

/-- A closed screen has nothing left that could look at anything; its observers read what they have
got before. -/
theorem react_close (opened : Screen) (backend : Backend) (isStarted : Bool) (hub : Hub Effect)
    (clock : Clock) : (opened.close.moved backend isStarted hub).react clock =
      opened.close.moved backend isStarted hub.drained := by
  cases hsupply : opened.supply with
  | given sources =>
      simp only [close, hsupply]
      rfl
  | derived feeds =>
      have hfeeds : (opened.close.moved backend isStarted hub).reactFeeds clock =
          opened.close.moved backend isStarted hub := by
        simp only [close, hsupply, moved, reactFeeds, Feeds.react_cancel]
      have hpublish : (opened.close.moved backend isStarted hub).publishDue clock =
          opened.close.moved backend isStarted hub := rfl
      rw [react, hpublish, hfeeds]
      rfl

/-- A screen differs from what it was at its close in nothing but its backend, on which certain
changes have been made, its observers, who have got nothing new, and whether somebody has tried to
start it. -/
def Remains (closed screen : Screen) (changes : List BackendChange) : Prop :=
  ∃ isStarted hub,
    screen = closed.moved (changes.foldl Backend.apply closed.backend) isStarted hub ∧
      ∀ observer, hub.unread observer <:+ closed.presenter.hub.unread observer

namespace Remains

variable {opened screen : Screen} {changes : List BackendChange}

theorem refl (closed : Screen) : Remains closed closed [] :=
  ⟨closed.presenter.isStarted, closed.presenter.hub, rfl, fun _ => List.suffix_refl _⟩

/-- Whatever is done to a closed screen, it changes in nothing else. -/
theorem use (h : opened.close.Remains screen changes) (clock : Clock) (use : ScreenUse) :
    opened.close.Remains (screen.use clock use) (changes ++ use.change?.toList) := by
  obtain ⟨isStarted, hub, rfl, hunread⟩ := h
  cases use with
  | act action =>
      cases action with
      | change change =>
          refine ⟨isStarted, hub, ?_, hunread⟩
          simp only [ScreenUse.change?, Option.toList_some, List.foldl_append, List.foldl_cons,
            List.foldl_nil]
          rfl
      | click click =>
          -- a closed presenter takes no job
          refine ⟨isStarted, hub, ?_, hunread⟩
          simp only [ScreenUse.change?, Option.toList_none, List.append_nil]
          rfl
      | start =>
          refine ⟨true, hub, ?_, hunread⟩
          simp only [ScreenUse.change?, Option.toList_none, List.append_nil]
          cases isStarted <;> rfl
  | close =>
      refine ⟨isStarted, hub, ?_, hunread⟩
      simp only [ScreenUse.change?, Option.toList_none, List.append_nil]
      exact close_again opened _ isStarted hub
  | subscribe =>
      refine ⟨isStarted, hub.subscribe.2, ?_, ?_⟩
      · simp only [ScreenUse.change?, Option.toList_none, List.append_nil]
        rfl
      · intro observer
        rw [hub.unread_subscribe]
        exact hunread observer
  | unsubscribe gone =>
      refine ⟨isStarted, hub.drop gone, ?_, ?_⟩
      · simp only [ScreenUse.change?, Option.toList_none, List.append_nil]
        rfl
      · intro observer
        exact (hub.unread_drop observer gone).trans (hunread observer)

theorem useAll (h : opened.close.Remains screen changes) (clock : Clock) (uses : List ScreenUse) :
    opened.close.Remains (screen.useAll clock uses)
      (changes ++ uses.filterMap ScreenUse.change?) := by
  induction uses generalizing screen changes with
  | nil =>
      rw [List.filterMap_nil, List.append_nil]
      exact h
  | cons use uses ih =>
      have hrest := ih (h.use clock use)
      rw [List.append_assoc] at hrest
      have hchanges : use.change?.toList ++ uses.filterMap ScreenUse.change? =
          (use :: uses).filterMap ScreenUse.change? := by
        rw [List.filterMap_cons]
        cases use.change? <;> rfl
      rw [← hchanges]
      exact hrest

/-- Nothing that a closed screen could look at leads to anything when it comes to rest; its
observers read what they had got before. -/
theorem settle (h : opened.close.Remains screen changes) (clock : Clock) :
    opened.close.Remains (Screen.settle clock screen) changes := by
  obtain ⟨isStarted, hub, rfl, hunread⟩ := h
  have hjobs : ∀ hub : Hub Effect,
      (opened.close.moved (changes.foldl Backend.apply opened.close.backend) isStarted hub).runJobs
        clock =
      opened.close.moved (changes.foldl Backend.apply opened.close.backend) isStarted
        hub.drained := fun _ => rfl
  refine ⟨isStarted, hub.drained.drained.drained, ?_, ?_⟩
  · rw [Screen.settle, react_close, hjobs, react_close]
  · intro observer
    rw [Hub.unread_drained]
    exact List.nil_suffix

/-- A closed screen does not move by itself. -/
theorem nextDue?_eq (h : opened.close.Remains screen changes) : screen.nextDue? = none := by
  obtain ⟨isStarted, hub, rfl, -⟩ := h
  have hpresenter : (opened.close.moved (changes.foldl Backend.apply opened.close.backend) isStarted
      hub).presenter.nextDue? = none := rfl
  cases hsupply : opened.supply with
  | given sources =>
      simp only [nextDue?, moved, close, hsupply]
      exact hpresenter
  | derived feeds =>
      simp only [nextDue?, moved, close, hsupply, Feeds.cancel, Feeds.nextDue?,
        NotificationFeed.cancel, Source.close, if_true]
      exact hpresenter

theorem useStep (clock : Clock) (h : opened.close.Remains screen changes)
    (step : TimedStep (List ScreenUse)) :
    opened.close.Remains (Screen.useStep ⟨clock, screen⟩ step).state
      (changes ++ step.changes) := by
  cases step with
  | act uses => exact (h.useAll clock uses).settle clock
  | advance ms =>
      have hrest : (Screen.useStep ⟨clock, screen⟩ (.advance ms)).state = screen := by
        have hdue : machine.nextDue? screen = none := h.nextDue?_eq
        simp only [Screen.useStep, Machine.advance]
        rw [Machine.runBefore, hdue]
      rw [hrest, TimedStep.changes, List.append_nil]
      exact h

theorem useRun (timed : Timed Screen) (h : opened.close.Remains timed.state changes)
    (steps : List (TimedStep (List ScreenUse))) :
    opened.close.Remains (Screen.useRun timed steps).state
      (changes ++ steps.flatMap TimedStep.changes) := by
  induction steps generalizing timed changes with
  | nil =>
      rw [List.flatMap_nil, List.append_nil]
      exact h
  | cons step steps ih =>
      rw [List.flatMap_cons, ← List.append_assoc]
      exact ih (Screen.useStep timed step) (h.useStep timed.clock step)

end Remains

/-- The end of a screen: since it was closed, its backend has only been changed from outside; it has
published nothing and delivered nothing, its sources have not been written, and what observers have
not read is from before.  No task of it is left, it will not move by itself, and no further task is
launched. -/
structure HasEnded (closed last : Screen) (changes : List BackendChange) : Prop where
  backend_eq : last.backend = changes.foldl Backend.apply closed.backend
  state_eq : last.presenter.state = closed.presenter.state
  published_eq : last.presenter.published = closed.presenter.published
  delivered_eq : last.presenter.delivered = closed.presenter.delivered
  unread : ∀ observer,
    last.presenter.hub.unread observer <:+ closed.presenter.hub.unread observer
  supply_eq : last.supply = closed.supply
  taskCount_eq : ∀ feeds, last.supply = .derived feeds → feeds.taskCount = 0
  aggregator_eq : last.presenter.aggregator = none
  outOfTime_eq : last.presenter.outOfTime = none
  revoked_eq : last.presenter.revoked = none
  jobs_eq : last.presenter.jobs = []
  nextDue?_eq : last.nextDue? = none
  addJob_eq : ∀ clock network request,
    last.presenter.addJob clock network request = last.presenter

theorem Remains.hasEnded {opened last : Screen} {changes : List BackendChange}
    (h : opened.close.Remains last changes) : HasEnded opened.close last changes := by
  have hdue := h.nextDue?_eq
  obtain ⟨isStarted, hub, rfl, hunread⟩ := h
  refine ⟨rfl, rfl, rfl, rfl, hunread, rfl, ?_, rfl, rfl, rfl, rfl, hdue, fun _ _ _ => rfl⟩
  intro feeds hfeeds
  cases hsupply : opened.supply with
  | given sources =>
      simp only [moved, close, hsupply, reduceCtorEq] at hfeeds
  | derived before =>
      simp only [moved, close, hsupply, Supply.derived.injEq] at hfeeds
      rw [← hfeeds]
      rfl

/-- What a screen that is closed in a step remains, for the rest of the step and of the run. -/
theorem remains_after_close (timed : Timed Screen) (before : List (TimedStep (List ScreenUse)))
    (earlier later : List ScreenUse) (after : List (TimedStep (List ScreenUse))) :
    let reached := useRun timed before
    let opened := reached.state.useAll reached.clock earlier
    opened.close.Remains
      (useRun timed (before ++ .act (earlier ++ .close :: later) :: after)).state
      (later.filterMap ScreenUse.change? ++ after.flatMap TimedStep.changes) := by
  intro reached opened
  have hclosed := (Remains.refl opened.close).useAll reached.clock later
  have hrun : useRun timed (before ++ .act (earlier ++ .close :: later) :: after) =
      useRun (useStep reached (.act (earlier ++ .close :: later))) after := by
    simp only [reached, useRun, List.foldl_append, List.foldl_cons]
  have hstep : (useStep reached (.act (earlier ++ .close :: later))).state =
      Screen.settle reached.clock (opened.close.useAll reached.clock later) := by
    simp only [useStep, Machine.act, machine, opened, useAll, List.foldl_append, List.foldl_cons]
    rfl
  have hreached := hclosed.settle reached.clock
  rw [← hstep] at hreached
  rw [hrun]
  exact hreached.useRun _ after

/-- Whatever state a screen is in and whatever has been done to it, by itself or together with other
things: once it is closed it has ended, and it is as it was then whatever is done to it afterwards,
but that its backend is changed from outside.  Scopes that have been cancelled refuse all tasks. -/
theorem nothing_after_close (timed : Timed Screen) (before : List (TimedStep (List ScreenUse)))
    (earlier later : List ScreenUse) (after : List (TimedStep (List ScreenUse)))
    (scope : TaskScope) (uses : List ScopeUse) :
    let reached := useRun timed before
    let closed := (reached.state.useAll reached.clock earlier).close
    let last := useRun timed (before ++ .act (earlier ++ .close :: later) :: after)
    HasEnded closed last.state
        (later.filterMap ScreenUse.change? ++ after.flatMap TimedStep.changes) ∧
      (scope.cancel.uses uses).IsOver :=
  ⟨(remains_after_close timed before earlier later after).hasEnded, scope.isOver_uses uses⟩

end Screen

end VpnClient
