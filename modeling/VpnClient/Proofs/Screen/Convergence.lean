import VpnClient.Proofs.Config.Document
import VpnClient.Proofs.Screen.Rest

/-!
# Convergence of the connect screen

A screen works with several tasks that wake each other up, and holds back what it is going to
publish.  Once nothing has been written to its sources for as long as it holds back, it shows
exactly what follows from the backend at that moment: no write is ever missed.

## Main Definitions

* `ScreenStep`, `Screen.run` — what can happen to a screen that is not closed, and its runs
* `ScreenHistory` — a screen with what an onlooker remembers of its run
* `Screen.Converges` — what a screen shows at the end of a run

## Main Statements

* `ScreenHistory.run_screen` — an onlooker does not disturb the run
* `Screen.converges` — every run of a screen converges, if the clock agrees with the timers and no
  account runs out of time in a leap second

## Design Notes

The last write to a source and the locations the tunnel has been disconnected at are no part of a
screen.  They are remembered beside it, from what can be seen of it before and after it comes to
rest.  A request to reconnect passes through a state without a location that nobody sees.
-/

namespace VpnClient

/-- What can be done to a screen that is not closed: its backend is written from outside, the user
clicks, or it is started. -/
inductive ScreenAction where
  | change (change : BackendChange)
  | click (click : Click)
  | start

/-- What can happen to a screen: something is done to it, or time passes. -/
inductive ScreenStep where
  | act (action : ScreenAction)
  | advance (ms : Nat)

/-- An action after which the time of the account still runs out at a regular instant. -/
def ScreenAction.IsRegular : ScreenAction → Prop
  | .change written => written.IsRegular
  | _ => True

/-- A step after which the time of the account still runs out at a regular instant. -/
def ScreenStep.IsRegular : ScreenStep → Prop
  | .act action => action.IsRegular
  | .advance _ => True

namespace Screen

/-- The screen after an action, before it comes to rest. -/
def perform (clock : Clock) (screen : Screen) : ScreenAction → Screen
  | .change change => screen.change change
  | .click click => screen.click clock click
  | .start => screen.start clock

/-- The screen at rest after a step. -/
def step (timed : Timed Screen) : ScreenStep → Timed Screen
  | .act action => machine.act (fun screen => screen.perform timed.clock action) timed
  | .advance ms => machine.advance ms timed

/-- The screen at rest after all steps of a run. -/
def run (timed : Timed Screen) (steps : List ScreenStep) : Timed Screen :=
  steps.foldl step timed

end Screen

/-! ## What an onlooker remembers -/

/-- A screen, the time of the last write to one of its sources or of its start, and the states that
the tunnel has been in, the newest first. -/
structure ScreenHistory where
  screen : Screen
  changedAt : Nat
  tunnels : List TunnelState

namespace ScreenHistory

/-- The history of a screen at its beginning. -/
def begin (clock : Clock) (screen : Screen) : ScreenHistory :=
  ⟨screen, clock.elapsed, [screen.backend.tunnel.value]⟩

/-- The location that the tunnel has last been disconnected at. -/
def reported (history : ScreenHistory) : Option Location :=
  history.tunnels.findSome? TunnelState.disconnectedLocation?

/-- The history after something has happened to the screen, which then comes to rest. -/
def settle (clock : Clock) (history : ScreenHistory) (disturbed : Screen) : ScreenHistory :=
  let rested := Screen.settle clock disturbed
  { screen := rested
    changedAt :=
      if rested.sources.revisions = history.screen.sources.revisions
          ∧ rested.presenter.isStarted = history.screen.presenter.isStarted then
        history.changedAt
      else clock.elapsed
    tunnels :=
      rested.backend.tunnel.value :: disturbed.backend.tunnel.value :: history.tunnels }

/-- A screen that is looked at while time passes. -/
def machine : Machine ScreenHistory where
  settle clock history := history.settle clock history.screen
  nextDue? history := history.screen.nextDue?

/-- The history after a step. -/
def step (timed : Timed ScreenHistory) : ScreenStep → Timed ScreenHistory
  | .act action =>
    ⟨timed.clock,
      timed.state.settle timed.clock (timed.state.screen.perform timed.clock action)⟩
  | .advance ms => machine.advance ms timed

/-- The history after all steps of a run. -/
def run (timed : Timed ScreenHistory) (steps : List ScreenStep) : Timed ScreenHistory :=
  steps.foldl step timed

theorem step_screen (timed : Timed ScreenHistory) (step : ScreenStep) :
    Screen.step ⟨timed.clock, timed.state.screen⟩ step =
      ⟨(ScreenHistory.step timed step).clock, (ScreenHistory.step timed step).state.screen⟩ := by
  cases step with
  | act action => rfl
  | advance ms =>
      have hdue : ∀ history : ScreenHistory,
          Screen.machine.nextDue? history.screen = machine.nextDue? history := fun _ => rfl
      exact Machine.advance_map ScreenHistory.screen (fun _ _ => rfl) hdue ms timed

/-- An onlooker does not disturb the run of a screen. -/
theorem run_screen (timed : Timed ScreenHistory) (steps : List ScreenStep) :
    Screen.run ⟨timed.clock, timed.state.screen⟩ steps =
      ⟨(run timed steps).clock, (run timed steps).state.screen⟩ := by
  induction steps generalizing timed with
  | nil => rfl
  | cons step steps ih =>
      simp only [Screen.run, run, List.foldl_cons]
      rw [step_screen]
      exact ih (ScreenHistory.step timed step)

/-! ## The invariant of a run -/

/-- A screen at rest that is current, as far as an onlooker can tell, and has no jobs left. -/
structure IsCurrent (history : ScreenHistory) (config : ConnectConfig) (clock : Clock) : Prop where
  screen : history.screen.IsCurrent config clock history.changedAt history.reported
  jobs_eq : history.screen.presenter.jobs = []

variable {history : ScreenHistory} {config : ConnectConfig} {clock : Clock}

theorem reported_begin (clock : Clock) (screen : Screen) :
    (begin clock screen).reported = screen.backend.tunnel.value.disconnectedLocation? := by
  simp only [reported, begin, List.findSome?_cons, List.findSome?_nil]
  cases screen.backend.tunnel.value.disconnectedLocation? <;> rfl

theorem reported_settle (clock : Clock) (history : ScreenHistory) (disturbed : Screen) :
    (history.settle clock disturbed).reported =
      (Screen.settle clock disturbed).backend.tunnel.value.disconnectedLocation?.or
        (disturbed.backend.tunnel.value.disconnectedLocation?.or history.reported) := by
  simp only [reported, settle, List.findSome?_cons]
  cases (Screen.settle clock disturbed).backend.tunnel.value.disconnectedLocation? <;>
    cases disturbed.backend.tunnel.value.disconnectedLocation? <;> rfl

namespace IsCurrent

/-- A screen that was written or has got requests is current again when it has come to rest. -/
theorem settle (h : history.IsCurrent config clock) (hclock : clock.AgreesWithTimers)
    {disturbed : Screen} (hlater : history.screen.Later disturbed) {time : Nat}
    (htime : clock.elapsed ≤ time)
    (hdue : ∀ job ∈ disturbed.presenter.jobs, job.due ≤ time) :
    (history.settle (clock.withElapsed time) disturbed).IsCurrent config
      (clock.withElapsed time) := by
  obtain ⟨hcurrent, hstarted, hjobs⟩ := h.screen.settle hclock hlater htime hdue
  refine ⟨?_, hjobs⟩
  rw [reported_settle]
  simp only [ScreenHistory.settle, hstarted, and_true]
  exact hcurrent

/-- An action leaves a current screen current when it has come to rest. -/
theorem act (h : history.IsCurrent config clock) (hclock : clock.AgreesWithTimers)
    {action : ScreenAction} (hregular : action.IsRegular) :
    (history.settle clock (history.screen.perform clock action)).IsCurrent config clock := by
  have hsettle : ∀ {disturbed}, history.screen.Later disturbed →
      (∀ job ∈ disturbed.presenter.jobs, job.due ≤ clock.elapsed) →
      (history.settle clock disturbed).IsCurrent config clock :=
    fun hlater hdue => h.settle hclock hlater (Nat.le_refl _) hdue
  have hnoJobs : ∀ job ∈ history.screen.presenter.jobs, job.due ≤ clock.elapsed := by
    intro job hjob
    rw [h.jobs_eq] at hjob
    cases hjob
  cases action with
  | change written =>
      refine hsettle ⟨rfl, rfl, Backend.later_apply _ written, ?_, .refl _⟩ hnoJobs
      intro hbackend
      exact hbackend.apply hregular
  | click click =>
      -- the network loses no time, so that the request is due when the screen comes to rest
      have hclick : (history.screen.click clock click).presenter =
          { history.screen.presenter with jobs := [⟨click.request, clock.elapsed⟩] } := by
        simp only [Screen.click, Presenter.click, Presenter.addJob, h.jobs_eq,
          h.screen.presenter.isClosed_eq, h.screen.network_eq, Network.perfect,
          Bool.false_eq_true, if_false, ite_self, Nat.add_zero, List.nil_append]
      refine hsettle ⟨rfl, rfl, .refl _, id, ?_⟩ ?_
      · rw [Screen.perform, hclick]
        exact ⟨rfl, rfl, rfl, rfl, rfl, rfl, rfl, rfl⟩
      · intro job hjob
        rw [Screen.perform, hclick, List.mem_singleton] at hjob
        exact hjob ▸ Nat.le_refl _
  | start =>
      cases hstarted : history.screen.presenter.isStarted with
      | true =>
          -- a second start does nothing, and counts as no change
          have hsame : history.screen.start clock = history.screen := by
            simp only [Screen.start, Presenter.start, hstarted, if_true]
          rw [Screen.perform, hsame]
          exact hsettle ⟨rfl, rfl, .refl _, id, .refl _⟩ hnoJobs
      | false =>
          obtain ⟨hcurrent, hnowStarted, hjobs⟩ :=
            h.screen.settle_start hclock hstarted h.jobs_eq
          refine ⟨?_, hjobs⟩
          rw [reported_settle]
          simp only [ScreenHistory.settle, Screen.perform, hnowStarted, hstarted,
            Bool.true_eq_false, and_false, if_false]
          exact hcurrent

/-- Time that passes leaves a current screen current. -/
theorem advance (h : history.IsCurrent config clock) (hclock : clock.AgreesWithTimers) (ms : Nat) :
    (machine.advance ms ⟨clock, history⟩).clock.AgreesWithTimers ∧
      (machine.advance ms ⟨clock, history⟩).state.IsCurrent config
        (machine.advance ms ⟨clock, history⟩).clock := by
  refine Machine.advance_preserves
    (P := fun clock history => clock.AgreesWithTimers ∧ history.IsCurrent config clock)
    ?_ ?_ ms ⟨clock, history⟩ ⟨hclock, h⟩
  · rintro clock history time ⟨hclock, hcurrent⟩ hlt
    refine ⟨hclock.withElapsed time,
      hcurrent.settle hclock ⟨rfl, rfl, .refl _, id, .refl _⟩ (Nat.le_of_lt hlt) ?_⟩
    intro job hjob
    rw [hcurrent.jobs_eq] at hjob
    cases hjob
  · rintro clock history time ⟨hclock, hcurrent⟩ hlt hbefore
    exact ⟨hclock.withElapsed time, hcurrent.screen.pass hclock (Nat.le_of_lt hlt) hbefore,
      hcurrent.jobs_eq⟩

end IsCurrent

/-- At the end of every run of a current screen the screen is current. -/
theorem isCurrent_run (steps : List ScreenStep) (hsteps : ∀ step ∈ steps, step.IsRegular)
    (h : history.IsCurrent config clock) (hclock : clock.AgreesWithTimers) :
    (run ⟨clock, history⟩ steps).clock.AgreesWithTimers ∧
      (run ⟨clock, history⟩ steps).state.IsCurrent config (run ⟨clock, history⟩ steps).clock := by
  -- the screen is at rest after every step, so that the invariant can be asked for between steps
  induction steps generalizing clock history with
  | nil => exact ⟨hclock, h⟩
  | cons step steps ih =>
      have hrest : ∀ step ∈ steps, step.IsRegular :=
        fun step hstep => hsteps step (List.mem_cons_of_mem _ hstep)
      cases step with
      | act action =>
          have hregular : action.IsRegular := hsteps _ List.mem_cons_self
          exact ih hrest (h.act hclock hregular) hclock
      | advance ms =>
          obtain ⟨hlater, hcurrent⟩ := h.advance hclock ms
          exact ih hrest hcurrent hlater

end ScreenHistory

namespace Screen

/-- A screen on a backend with valid settings is current from the beginning. -/
theorem exists_wire {config : ConnectConfig} (hconfig : config.problem? = none) {clock : Clock}
    (hclock : clock.AgreesWithTimers) {backend : Backend} (hopen : backend.IsOpen)
    (hregular : backend.HasRegularExpiry) :
    ∃ screen, wire config clock backend = .ok screen ∧
      (ScreenHistory.begin clock screen).IsCurrent config clock := by
  obtain ⟨page, hparse⟩ := ConnectConfig.exists_accountPage hconfig
  refine ⟨_, by simp only [wire, Presenter.make, hparse]; rfl, ⟨?_, rfl⟩⟩
  refine ⟨rfl, hopen, hregular, ⟨rfl, rfl, rfl, Or.inl ⟨rfl, rfl⟩⟩, _, rfl, ?_, rfl⟩
  rw [ScreenHistory.reported_begin]
  exact Feeds.isCurrent_launch hclock hregular config.expiryWarningDays

/-- A run of a screen on a backend converges: if nothing has been written to the six sources for as
long as the screen holds back, it shows what follows from the backend at this moment and, as the
location known last, from the one that the tunnel has last been disconnected at.  The days that are
left of the account are those that were left at the last write. -/
def Converges (config : ConnectConfig) (clock : Clock) (backend : Backend)
    (steps : List ScreenStep) : Prop :=
  ∃ screen, wire config clock backend = .ok screen ∧
    let last := run ⟨clock, screen⟩ steps
    let past := (ScreenHistory.run ⟨clock, .begin clock screen⟩ steps).state
    last.state.presenter.isStarted = true →
      past.changedAt + config.debounceMs ≤ last.clock.elapsed →
        ∃ known, Location.Stands known past.reported ∧
          last.state.presenter.state =
            ({ title := Feeds.titleOf last.state.backend.selection.value
               notifications := last.state.backend.notificationInputs.current
                 config.expiryWarningDays last.clock.now
               tunnel := last.state.backend.tunnel.value
               lastKnown := known
               account := last.state.backend.account.value
               device := last.state.backend.device.value } : ScreenInputs).uiState
              config.isPlayBuild (last.clock.withElapsed past.changedAt).now

/-- A screen that is current and has held back nothing for long enough shows what follows from the
backend. -/
theorem IsCurrent.state_eq {screen : Screen} {config : ConnectConfig} {clock : Clock}
    {changedAt : Nat} {reported : Option Location}
    (h : screen.IsCurrent config clock changedAt reported)
    (hstarted : screen.presenter.isStarted = true)
    (hquiet : changedAt + config.debounceMs ≤ clock.elapsed) :
    ∃ known, Location.Stands known reported ∧
      screen.presenter.state =
        ({ title := Feeds.titleOf screen.backend.selection.value
           notifications := screen.backend.notificationInputs.current config.expiryWarningDays
             clock.now
           tunnel := screen.backend.tunnel.value
           lastKnown := known
           account := screen.backend.account.value
           device := screen.backend.device.value } : ScreenInputs).uiState
          config.isPlayBuild (clock.withElapsed changedAt).now := by
  obtain ⟨feeds, hderived, hfeeds, hdays⟩ := h.following
  rcases h.presenter.aggregation with ⟨hnotStarted, -⟩ | ⟨-, a, -, hcurrent⟩
  · rw [hstarted] at hnotStarted
    cases hnotStarted
  · refine ⟨feeds.lastKnown.output.value, hfeeds.lastKnown_stands, ?_⟩
    -- nothing is held back any more, because its time has come
    rcases hcurrent.punctual with ⟨-, hlt⟩ | ⟨-, hstate, -⟩
    · omega
    · rw [hstate, sources_of_derived hderived, ← hfeeds.title_eq, ← hdays,
        ← hfeeds.notifications.value_eq]
      rfl

/-- Every run of a screen with valid settings converges, whatever the state of the backend is when
the screen is made: no write to it is ever missed.  The clock has to agree with the timers, and the
time of the account must not run out in a leap second. -/
theorem converges (config : ConnectConfig) (hconfig : config.problem? = none) (clock : Clock)
    (hclock : clock.AgreesWithTimers) (backend : Backend) (hopen : backend.IsOpen)
    (hregular : backend.HasRegularExpiry) (steps : List ScreenStep)
    (hsteps : ∀ step ∈ steps, step.IsRegular) : Converges config clock backend steps := by
  obtain ⟨screen, hwire, hbegin⟩ := exists_wire hconfig hclock hopen hregular
  obtain ⟨-, hcurrent⟩ := ScreenHistory.isCurrent_run steps hsteps hbegin hclock
  refine ⟨screen, hwire, ?_⟩
  intro last past hstarted hquiet
  have hlast : last = ⟨_, _⟩ := ScreenHistory.run_screen ⟨clock, .begin clock screen⟩ steps
  clear_value last
  subst hlast
  exact hcurrent.screen.state_eq hstarted hquiet

/-- A user disconnects two seconds before the time of the account is up.  The last write to a source
is that the notice of it is taken back, and long enough after it the run has converged. -/
theorem converges_at_expiry :
    (wire .initial ⟨⟨1717243258, 0⟩, 0⟩ .initial).toOption.map (fun screen =>
        (ScreenHistory.run ⟨⟨⟨1717243258, 0⟩, 0⟩, .begin ⟨⟨1717243258, 0⟩, 0⟩ screen⟩ [.act .start,
          .act (.change (.account (some ⟨"1", ⟨1717243260, 0⟩⟩))), .act (.click .disconnect),
          .advance 2200]).state.changedAt) = some 2000 ∧
      Converges .initial ⟨⟨1717243258, 0⟩, 0⟩ .initial [.act .start,
        .act (.change (.account (some ⟨"1", ⟨1717243260, 0⟩⟩))), .act (.click .disconnect),
        .advance 2200] := by
  have hclock : Clock.AgreesWithTimers ⟨⟨1717243258, 0⟩, 0⟩ :=
    Clock.IsRegular.agreesWithTimers (by decide)
  refine ⟨by decide +kernel, converges _ (by decide +kernel) _ hclock _
    ⟨rfl, rfl, rfl, rfl, rfl, rfl⟩ ?_ _ ?_⟩
  · intro account haccount
    cases haccount
  · intro step hstep
    simp only [List.mem_cons, List.not_mem_nil, or_false] at hstep
    rcases hstep with rfl | rfl | rfl | rfl
    · trivial
    · exact ⟨by decide, by decide⟩
    · trivial
    · trivial

/-- A run does not converge in which the notice that is shown in the end is not the one that
applies. -/
theorem not_converges_of_notification {config : ConnectConfig} {clock : Clock} {backend : Backend}
    {steps : List ScreenStep} (shown applying : Option Notification)
    (h : (wire config clock backend).toOption.map (fun screen =>
      let last := run ⟨clock, screen⟩ steps
      let past := (ScreenHistory.run ⟨clock, .begin clock screen⟩ steps).state
      (last.state.presenter.isStarted,
        decide (past.changedAt + config.debounceMs ≤ last.clock.elapsed),
        last.state.presenter.state.notification,
        (last.state.backend.notificationInputs.current config.expiryWarningDays
          last.clock.now).head?)) = some (true, true, shown, applying))
    (hne : shown ≠ applying) : ¬ Converges config clock backend steps := by
  rintro ⟨screen, hwire, hlast⟩
  rw [hwire] at h
  simp only [Except.toOption, Option.map_some, Option.some_inj, Prod.mk.injEq,
    decide_eq_true_eq] at h
  obtain ⟨hstarted, hquiet, hshown, happlying⟩ := h
  obtain ⟨known, -, hstate⟩ := hlast hstarted hquiet
  refine hne ?_
  rw [← hshown, ← happlying, hstate]
  rfl

/-- In a leap second a screen may not converge.  The first run reaches the end of the account's
time, which lies in one, while the timer that counts it is still running; the second run starts in
one, and its timer goes off a second too early. -/
theorem not_converges_in_leapSecond :
    ConnectConfig.initial.problem? = none ∧ Backend.initial.IsOpen ∧
      ¬ Converges .initial ⟨⟨1717243258, 0⟩, 0⟩ .initial [.act .start,
        .act (.change (.account (some ⟨"1", ⟨1717243259, 1500000000⟩⟩))), .advance 2200] ∧
      ¬ Converges .initial ⟨⟨1717199999, 1500000000⟩, 0⟩ .initial [.act .start,
        .act (.change (.account (some ⟨"1", ⟨1717200002, 0⟩⟩))), .advance 1800] := by
  refine ⟨by decide +kernel, ⟨rfl, rfl, rfl, rfl, rfl, rfl⟩, ?_, ?_⟩
  · exact not_converges_of_notification (some (.accountExpiry ⟨1717243259, 1500000000⟩)) none
      (by decide +kernel) (by decide)
  · exact not_converges_of_notification none (some (.accountExpiry ⟨1717200002, 0⟩))
      (by decide +kernel) (by decide)

end Screen

end VpnClient
