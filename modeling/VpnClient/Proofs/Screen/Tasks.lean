import VpnClient.Proofs.Source.Events
import VpnClient.Screen.Presenter

/-!
# The tasks of a presenter

A presenter that has been started runs several tasks, each of which follows some of the sources and
has a timer of its own.  Here each of them is a machine by itself, driven by what happens to the
sources.  Several things may happen before a task looks at them.

## Main Definitions

* `ScreenSourceEvent`, `ScreenSources.afterAll` — what can happen to the sources of the screen
* `SourcedPresenter.aggregation`, `SourcedPresenter.outOfTimeWatching` — the tasks as machines

## Main Statements

* `ScreenSources.becomes_afterAll` — what a task has seen of the account and the tunnel is known by
  their revisions
-/

namespace VpnClient

/-- What can happen to the sources of the screen. -/
inductive ScreenSourceEvent where
  | title (event : SourceEvent (Option String))
  | notifications (event : SourceEvent (List Notification))
  | tunnel (event : SourceEvent TunnelState)
  | lastKnown (event : SourceEvent (Option Location))
  | account (event : SourceEvent (Option Account))
  | device (event : SourceEvent DeviceState)

namespace ScreenSources

variable {s t u : ScreenSources}

/-- The sources of the screen after an event. -/
def after (sources : ScreenSources) : ScreenSourceEvent → ScreenSources
  | .title event => { sources with title := sources.title.after event }
  | .notifications event => { sources with notifications := sources.notifications.after event }
  | .tunnel event => { sources with tunnel := sources.tunnel.after event }
  | .lastKnown event => { sources with lastKnown := sources.lastKnown.after event }
  | .account event => { sources with account := sources.account.after event }
  | .device event => { sources with device := sources.device.after event }

/-- The sources of the screen after some events. -/
def afterAll (sources : ScreenSources) (events : List ScreenSourceEvent) : ScreenSources :=
  events.foldl after sources

/-- The account and the tunnel, and what has become of them. -/
structure Becomes (s t : ScreenSources) : Prop where
  account : s.account.Becomes t.account
  tunnel : s.tunnel.Becomes t.tunnel

theorem becomes_after (s : ScreenSources) (event : ScreenSourceEvent) :
    Becomes s (s.after event) := by
  cases event with
  | account event => exact ⟨s.account.becomes_after event, .refl _⟩
  | tunnel event => exact ⟨.refl _, s.tunnel.becomes_after event⟩
  | title | notifications | lastKnown | device => exact ⟨.refl _, .refl _⟩

theorem becomes_afterAll (s : ScreenSources) (events : List ScreenSourceEvent) :
    Becomes s (s.afterAll events) := by
  refine List.foldlRecOn (motive := Becomes s) events after ⟨.refl _, .refl _⟩ ?_
  intro later hlater event _
  have hstep := becomes_after later event
  exact ⟨hlater.account.trans hstep.account, hlater.tunnel.trans hstep.tunnel⟩

end ScreenSources

/-- A presenter that has not been started. -/
def Presenter.atRest (window : Nat) (isPlayBuild : Bool) (accountPage : Url) : Presenter where
  window := window
  isPlayBuild := isPlayBuild
  accountPage := accountPage
  state := .initial
  hub := .empty
  isStarted := false
  isClosed := false
  aggregator := none
  outOfTime := none
  revoked := none
  jobs := []
  published := []
  delivered := []

/-- A presenter with the sources that it follows. -/
structure SourcedPresenter where
  sources : ScreenSources
  presenter : Presenter

namespace SourcedPresenter

/-- A presenter whose sources have been through some events that it has not looked at yet. -/
def follow (events : List ScreenSourceEvent) (s : SourcedPresenter) : SourcedPresenter :=
  { s with sources := s.sources.afterAll events }

/-- The task that publishes what follows from the sources. -/
def aggregation : Machine SourcedPresenter where
  settle clock s := { s with presenter := s.presenter.reactAggregator clock s.sources }
  nextDue? s := s.presenter.aggregator.bind Aggregator.nextDue?

/-- The task that watches for an account that runs out of time. -/
def outOfTimeWatching : Machine SourcedPresenter where
  settle clock s := { s with presenter := s.presenter.reactOutOfTime clock s.sources }
  nextDue? s := s.presenter.outOfTime.bind OutOfTimeWatch.nextDue?

end SourcedPresenter

end VpnClient
