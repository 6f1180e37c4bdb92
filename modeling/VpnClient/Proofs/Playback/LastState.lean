import VpnClient.Playback.Play
import VpnClient.Proofs.Screen.Published

/-!
# The last state of a playback

After the last step a playback goes on for one window and a margin, so that the state that follows
from the last change is still printed.  What counts is the last change of all, and the notices also
change when the time of an account comes near its end: that calls for a new state in the middle of
the wait, and the window begins anew.  The state is printed exactly if the last change comes within
the margin.

## Main Definitions

* `Playback.printed` — the states that are printed
* `WatchedPlayback`, `Script.watch` — a playback with what an onlooker remembers of it
* `WatchedPlayback.LastStatePrinted` — when the state that follows from the last change is printed

## Main Statements

* `Playback.printed_eq` — the states are printed in the order in which they were published
* `Script.map_watch` — an onlooker does not disturb a playback
* `ScreenHistory.isReady_playSteps` — the screen of a playback is on time after every step
* `Script.lastStatePrinted` — the last state is printed exactly if the last change comes soon enough
-/

namespace VpnClient

/-! ## What is printed -/

/-- The state that an event is about, if it is about one. -/
def ScreenEvent.publication? : ScreenEvent → Option Publication
  | .published publication => some publication
  | .delivered _ => none

namespace Playback

/-- The states that are printed, in the order of their lines. -/
def printed (playback : Playback) : List Publication :=
  playback.events.filterMap ScreenEvent.publication?

/-- States are printed in the order in which they were published, whatever effects come in
between. -/
theorem printed_eq {playback : Playback}
    (h : playback.screen.presenter.published.Pairwise fun first second =>
      first.time ≤ second.time) :
    playback.printed = playback.screen.presenter.published := by
  have hstates : ∀ states : List Publication,
      (states.map ScreenEvent.published).filterMap ScreenEvent.publication? = states := by
    intro states
    rw [List.filterMap_map]
    exact List.filterMap_some
  have heffects : ∀ effects : List Delivery,
      (effects.map ScreenEvent.delivered).filterMap ScreenEvent.publication? = [] := by
    intro effects
    rw [List.filterMap_map]
    exact List.filterMap_eq_nil_iff.mpr fun _ _ => rfl
  -- the states keep their order when the events are sorted, and no other events tell of states
  have hsublist : (playback.screen.presenter.published.map ScreenEvent.published).Sublist
      playback.events := by
    refine List.sublist_mergeSort ?_ ?_ ?_ (List.sublist_append_left _ _)
    · intro a b c hab hbc
      simp only [decide_eq_true_eq] at hab hbc ⊢
      exact hab.trans hbc
    · intro a b
      simp only [Bool.or_eq_true, decide_eq_true_eq]
      exact Nat.le_total _ _
    · exact List.pairwise_map.mpr (h.imp fun hle => decide_eq_true hle)
  have hprinted := hsublist.filterMap ScreenEvent.publication?
  rw [hstates] at hprinted
  refine (hprinted.eq_of_length ?_).symm
  have hperm := (List.mergeSort_perm (playback.screen.presenter.published.map ScreenEvent.published
    ++ playback.screen.presenter.delivered.map ScreenEvent.delivered)
    fun a b => decide (a.time ≤ b.time)).filterMap ScreenEvent.publication?
  rw [List.filterMap_append, hstates, heffects, List.append_nil] at hperm
  exact hperm.length_eq.symm

end Playback

/-! ## Playbacks and onlookers -/

namespace ScreenHistory

/-- The history at the end of a delay. -/
def afterDelay (ms : Nat) (timed : Timed ScreenHistory) : Timed ScreenHistory :=
  if ms = 0 then timed else machine.advanceTo ms (machine.act id timed)

/-- The history after some steps, and how they have ended. -/
def playSteps (timed : Timed ScreenHistory) :
    List ScriptStep → Timed ScreenHistory × Except Failure Unit
  | [] => (timed, .ok ())
  | step :: steps =>
    let timed := afterDelay step.delayMs timed
    match step.perform timed.clock timed.state.screen with
    | .error failure => (timed, .error failure)
    | .ok screen => playSteps ⟨timed.clock, timed.state.settle timed.clock screen⟩ steps

/-- The screen of a history, with its clock. -/
def timedScreen (timed : Timed ScreenHistory) : Timed Screen :=
  ⟨timed.clock, timed.state.screen⟩

theorem afterDelay_screen (ms : Nat) (timed : Timed ScreenHistory) :
    Script.afterDelay ms (timedScreen timed) = timedScreen (afterDelay ms timed) := by
  rw [Script.afterDelay, afterDelay]
  by_cases hnone : ms = 0
  · rw [if_pos hnone, if_pos hnone]
  · rw [if_neg hnone, if_neg hnone]
    exact Machine.advanceTo_map ScreenHistory.screen (fun _ _ => rfl) (fun _ => rfl) ms
      (machine.act id timed)

theorem playSteps_screen (timed : Timed ScreenHistory) (steps : List ScriptStep) :
    Script.playSteps (timedScreen timed) steps =
      (timedScreen (playSteps timed steps).1, (playSteps timed steps).2) := by
  induction steps generalizing timed with
  | nil => rfl
  | cons step steps ih =>
      simp only [Script.playSteps, playSteps, afterDelay_screen]
      generalize afterDelay step.delayMs timed = delayed
      rw [timedScreen]
      cases step.perform delayed.clock delayed.state.screen with
      | error failure => rfl
      | ok screen => exact ih ⟨delayed.clock, delayed.state.settle delayed.clock screen⟩

end ScreenHistory

/-- A playback with what an onlooker remembers of it: when the last step was played, and when a
source of the screen was written last, or the screen was started if that was later. -/
structure WatchedPlayback where
  playback : Playback
  lastStep : Nat
  changedAt : Nat

namespace Script

/-- A script played from its start to its end while somebody looks on. -/
def watch (script : Script) (config : ConnectConfig) (clock : Clock) :
    Except Failure WatchedPlayback := do
  let screen ← stage config clock
  let (played, result) := ScreenHistory.playSteps ⟨clock, .begin clock screen⟩ script.steps
  let finished := match result with
    | .error _ => played
    | .ok () => ScreenHistory.afterDelay (config.debounceMs + margin) played
  .ok ⟨⟨finished.state.screen, result⟩, played.clock.elapsed, finished.state.changedAt⟩

/-- An onlooker does not disturb a playback. -/
theorem map_watch (script : Script) (config : ConnectConfig) (clock : Clock) :
    (script.watch config clock).map WatchedPlayback.playback = script.play config clock := by
  cases hstage : stage config clock with
  | error failure => simp only [watch, play, hstage, bind, Except.bind, Except.map]
  | ok screen =>
      have hplayed := ScreenHistory.playSteps_screen ⟨clock, .begin clock screen⟩ script.steps
      rw [ScreenHistory.timedScreen,
        show (ScreenHistory.begin clock screen).screen = screen from rfl] at hplayed
      simp only [watch, play, hstage, bind, Except.bind, hplayed, Except.map]
      obtain ⟨played, result⟩ :=
        ScreenHistory.playSteps ⟨clock, .begin clock screen⟩ script.steps
      cases result with
      | error failure => rfl
      | ok done =>
          dsimp only
          rw [ScreenHistory.afterDelay_screen]
          rfl

theorem play_of_watch {script : Script} {config : ConnectConfig} {clock : Clock}
    {watched : WatchedPlayback} (h : script.watch config clock = .ok watched) :
    script.play config clock = .ok watched.playback := by
  rw [← map_watch, h]
  rfl

/-- Somebody can have looked on at every playback. -/
theorem exists_watch_of_play {script : Script} {config : ConnectConfig} {clock : Clock}
    {playback : Playback} (h : script.play config clock = .ok playback) :
    ∃ watched, script.watch config clock = .ok watched ∧ watched.playback = playback := by
  rw [← map_watch] at h
  cases hwatch : script.watch config clock with
  | error failure =>
      rw [hwatch] at h
      cases h
  | ok watched =>
      rw [hwatch] at h
      exact ⟨watched, rfl, Except.ok.inj h⟩

end Script

/-! ## The screen of a playback -/

namespace Screen

variable {screen disturbed : Screen} {clock : Clock}

theorem follows_change (screen : Screen) (change : BackendChange) :
    screen.Follows (screen.change change) where
  network_eq := rfl
  supply_eq := rfl
  backend := Backend.later_apply _ change
  isStarted_eq := rfl
  isClosed_eq := rfl
  publishesAlike := ⟨rfl, rfl, rfl⟩

/-- Changes of the backend bring no jobs along. -/
theorem follows_changes (screen : Screen) (changes : List BackendChange) :
    screen.Follows (changes.foldl Screen.change screen) ∧
      (changes.foldl Screen.change screen).presenter.jobs = screen.presenter.jobs := by
  induction changes generalizing screen with
  | nil => exact ⟨.refl screen, rfl⟩
  | cons change changes ih =>
      obtain ⟨hfollows, hjobs⟩ := ih (screen.change change)
      exact ⟨(screen.follows_change change).trans hfollows, hjobs⟩

/-- A click brings a job along, which is due at once if the network loses no time. -/
theorem follows_click (clock : Clock) (click : Click) (hnetwork : screen.network = .perfect)
    (hjobs : ∀ job ∈ screen.presenter.jobs, job.due ≤ clock.elapsed) :
    screen.Follows (screen.click clock click) ∧
      ∀ job ∈ (screen.click clock click).presenter.jobs, job.due ≤ clock.elapsed := by
  have hwait : (if click.request.waits then screen.network.latency else 0) = 0 := by
    rw [hnetwork]
    exact ite_self 0
  simp only [Screen.click, Presenter.click, Presenter.addJob, hwait, Nat.add_zero]
  split
  · exact ⟨.refl screen, hjobs⟩
  · refine ⟨⟨rfl, rfl, .refl _, rfl, rfl, ⟨rfl, rfl, rfl⟩⟩, ?_⟩
    intro job hjob
    rcases List.mem_append.mp hjob with hjob | hjob
    · exact hjobs job hjob
    · rw [List.mem_singleton.mp hjob]

end Screen

/-- What happens in a step writes to the backend and brings jobs along that are due. -/
theorem ScriptStep.follows_perform {step : ScriptStep} {clock : Clock} {screen disturbed : Screen}
    (h : step.perform clock screen = .ok disturbed) (hnetwork : screen.network = .perfect)
    (hjobs : ∀ job ∈ screen.presenter.jobs, job.due ≤ clock.elapsed) :
    screen.Follows disturbed ∧ ∀ job ∈ disturbed.presenter.jobs, job.due ≤ clock.elapsed := by
  rw [perform] at h
  cases hchanges : step.changes clock.now with
  | error failure =>
      rw [hchanges] at h
      cases h
  | ok changes =>
      rw [hchanges] at h
      obtain rfl := Except.ok.inj h
      obtain ⟨hfollows, hsame⟩ := screen.follows_changes changes
      rw [← hsame] at hjobs
      cases step.action with
      | none => exact ⟨hfollows, hjobs⟩
      | some click =>
          obtain ⟨hclick, hdue⟩ :=
            Screen.follows_click clock click (hfollows.network_eq.trans hnetwork) hjobs
          exact ⟨hfollows.trans hclick, hdue⟩

namespace ScreenHistory

variable {config : ConnectConfig} {timed : Timed ScreenHistory}

/-- A screen that has been brought to rest is on time until the last millisecond of a delay. -/
theorem isOnTime_afterDelay_succ (h : timed.state.IsReady config timed.clock) (ms : Nat) :
    (afterDelay (ms + 1) timed).clock.elapsed = timed.clock.elapsed + ms + 1 ∧
      (afterDelay (ms + 1) timed).state.IsOnTime config
        (timed.clock.withElapsed (timed.clock.elapsed + ms)) := by
  have hrested := h.settle (.refl _) h.jobsDue
  rw [afterDelay, if_neg (Nat.succ_ne_zero ms), Machine.advanceTo_succ]
  exact ⟨rfl, hrested.advance ms⟩

theorem afterDelay_start (ms : Nat) (timed : Timed ScreenHistory) :
    (afterDelay ms timed).clock.start = timed.clock.start := by
  rw [afterDelay]
  split <;> rfl

theorem playSteps_start (timed : Timed ScreenHistory) (steps : List ScriptStep) :
    (playSteps timed steps).1.clock.start = timed.clock.start := by
  induction steps generalizing timed with
  | nil => rfl
  | cons step steps ih =>
      have hdelay := afterDelay_start step.delayMs timed
      rw [playSteps]
      split
      · exact hdelay
      · exact (ih _).trans hdelay

/-- What is about to happen at the end of a delay happens to a screen that is ready for it. -/
theorem isReady_afterDelay (h : timed.state.IsReady config timed.clock) (ms : Nat) :
    (afterDelay ms timed).state.IsReady config (afterDelay ms timed).clock := by
  cases ms with
  | zero => exact h
  | succ ms =>
      have hrested := (isOnTime_afterDelay_succ h ms).2
      exact hrested.isReady (Nat.le_succ _) (Nat.le_refl _)

/-- The screen of a playback is ready for whatever comes after the steps. -/
theorem isReady_playSteps (h : timed.state.IsReady config timed.clock) (steps : List ScriptStep) :
    (playSteps timed steps).1.state.IsReady config (playSteps timed steps).1.clock := by
  induction steps generalizing timed with
  | nil => exact h
  | cons step steps ih =>
      have hready := isReady_afterDelay h step.delayMs
      rw [playSteps]
      split
      · exact hready
      · next screen hperform =>
        obtain ⟨hfollows, hdue⟩ := ScriptStep.follows_perform hperform hready.network_eq
          hready.jobsDue
        have hrested := hready.settle hfollows hdue
        exact ih (hrested.isReady (Nat.le_refl _) (Nat.le_succ _))

/-- A screen that has just been started for a playback is ready for its first step. -/
theorem isReady_stage {clock : Clock} {screen : Screen}
    (h : Script.stage config clock = .ok screen) : (begin clock screen).IsReady config clock := by
  rw [Script.stage, Screen.wire, Presenter.make] at h
  cases hpage : Url.parse config.accountUrl with
  | error error =>
      rw [hpage] at h
      cases h
  | ok page =>
      rw [hpage] at h
      obtain rfl := Except.ok.inj h
      refine ⟨⟨⟨rfl, rfl, rfl, rfl, rfl, rfl⟩, _, rfl, ⟨rfl, rfl⟩⟩, rfl, rfl, ?_,
        Or.inr ⟨rfl, rfl, rfl, rfl⟩⟩
      intro job hjob
      obtain rfl := List.mem_singleton.mp hjob
      exact Nat.le_refl _

end ScreenHistory

/-! ## The last state -/

namespace WatchedPlayback

/-- What follows from the sources as they are in the end, at the time of the last write to them. -/
def lastState (watched : WatchedPlayback) (config : ConnectConfig) (clock : Clock) : UiState :=
  watched.playback.screen.sources.inputs.uiState config.isPlayBuild
    (clock.withElapsed watched.changedAt).now

/-- The state that is printed last is the one that follows from the sources in the end. -/
def ShowsLastState (watched : WatchedPlayback) (config : ConnectConfig) (clock : Clock) : Prop :=
  ∃ publication, watched.playback.printed.getLast? = some publication ∧
    publication.state = watched.lastState config clock

/-- Whether the last state is printed.  If the last change comes within the margin after the last
step, the state that follows from it is printed last, one window after it.  If it comes later,
nothing that is printed is from after the last change. -/
structure LastStatePrinted (watched : WatchedPlayback) (config : ConnectConfig) (clock : Clock) :
    Prop where
  shows : watched.changedAt < watched.lastStep + Script.margin →
    watched.ShowsLastState config clock
  printed_iff : watched.playback.printed.getLast? =
      some ⟨watched.changedAt + config.debounceMs, watched.lastState config clock⟩ ↔
    watched.changedAt < watched.lastStep + Script.margin
  unprinted : watched.lastStep + Script.margin ≤ watched.changedAt →
    ∀ publication ∈ watched.playback.printed, publication.time ≤ watched.changedAt

end WatchedPlayback

namespace Script

/-- What an onlooker has seen of a playback that has come to its end. -/
theorem exists_of_watch {script : Script} {config : ConnectConfig} {clock : Clock}
    {watched : WatchedPlayback} (hwatch : script.watch config clock = .ok watched)
    (hend : watched.playback.result = .ok ()) :
    ∃ screen, stage config clock = .ok screen ∧
      let played := (ScreenHistory.playSteps ⟨clock, .begin clock screen⟩ script.steps).1
      let finished := ScreenHistory.afterDelay (config.debounceMs + margin) played
      watched.playback.screen = finished.state.screen ∧
        watched.lastStep = played.clock.elapsed ∧ watched.changedAt = finished.state.changedAt := by
  cases hstage : stage config clock with
  | error failure =>
      simp only [watch, hstage, bind, Except.bind] at hwatch
      cases hwatch
  | ok screen =>
      refine ⟨screen, rfl, ?_⟩
      simp only [watch, hstage, bind, Except.bind] at hwatch
      generalize ScreenHistory.playSteps ⟨clock, .begin clock screen⟩ script.steps = outcome
        at hwatch
      obtain ⟨played, result⟩ := outcome
      obtain rfl := Except.ok.inj hwatch
      obtain rfl : result = .ok () := hend
      exact ⟨rfl, rfl, rfl⟩

theorem lastStatePrinted_of_watch {script : Script} {config : ConnectConfig} {clock : Clock}
    {watched : WatchedPlayback} (hwatch : script.watch config clock = .ok watched)
    (hend : watched.playback.result = .ok ()) : watched.LastStatePrinted config clock := by
  obtain ⟨screen, hstage, hscreen, hlastStep, hchangedAt⟩ := exists_of_watch hwatch hend
  have hready := @ScreenHistory.isReady_playSteps config ⟨clock, .begin clock screen⟩
    (ScreenHistory.isReady_stage hstage) script.steps
  have hstart := ScreenHistory.playSteps_start ⟨clock, .begin clock screen⟩ script.steps
  generalize (ScreenHistory.playSteps ⟨clock, .begin clock screen⟩ script.steps).1 = played at *
  -- the playback is closed at the end of its last millisecond, before what is due then
  have htime : config.debounceMs + margin = config.debounceMs + 49 + 1 := rfl
  rw [htime] at hscreen hchangedAt
  have honTime :=
    (ScreenHistory.isOnTime_afterDelay_succ hready (config.debounceMs + 49)).2.presenter
  rw [← hscreen, ← hchangedAt] at honTime
  have hnotLater := honTime.changedAt_le
  have hprinted := Playback.printed_eq honTime.published_pairwise
  rw [Clock.withElapsed_elapsed] at hnotLater
  rcases honTime.published_cases with ⟨hover, hlast⟩ | ⟨hahead, hearlier⟩
  · rw [Clock.withElapsed_elapsed] at hover
    rw [Publication.ofWrite, Clock.withElapsed_start, hstart, ← hprinted] at hlast
    have hsoon : watched.changedAt < watched.lastStep + margin := by
      unfold margin
      omega
    refine ⟨fun _ => ⟨_, hlast, rfl⟩, iff_of_true hlast hsoon, ?_⟩
    intro hlate
    omega
  · rw [Clock.withElapsed_elapsed] at hahead
    have hlate : ¬ watched.changedAt < watched.lastStep + margin := by
      unfold margin
      omega
    rw [← hprinted] at hearlier
    refine ⟨fun hsoon => absurd hsoon hlate, iff_of_false ?_ hlate, fun _ => hearlier⟩
    -- the window is not over yet, so that it is not over at once
    intro hlast
    have htooEarly := hearlier _ (List.mem_of_getLast? hlast)
    dsimp only at htooEarly
    omega

/-- The last state of a playback that has come to its end is printed exactly if the last change
comes within the margin after the last step. -/
theorem lastStatePrinted (script : Script) (config : ConnectConfig) (clock : Clock)
    {playback : Playback} (hplay : script.play config clock = .ok playback)
    (hend : playback.result = .ok ()) :
    ∃ watched, script.watch config clock = .ok watched ∧ watched.playback = playback ∧
      watched.LastStatePrinted config clock := by
  obtain ⟨watched, hwatch, rfl⟩ := exists_watch_of_play hplay
  exact ⟨watched, hwatch, rfl, lastStatePrinted_of_watch hwatch hend⟩

/-- What an onlooker sees of a playback that is known to come to its end. -/
theorem exists_watch (script : Script) (config : ConnectConfig) (clock : Clock)
    (changedAt lastStep : Nat) (times : List Nat)
    (h : ((script.watch config clock).toOption.map fun watched =>
      (watched.changedAt, watched.lastStep,
        watched.playback.screen.presenter.published.map Publication.time,
        watched.playback.result.toOption)) = some (changedAt, lastStep, times, some ())) :
    ∃ watched, script.watch config clock = .ok watched ∧ watched.playback.result = .ok () ∧
      watched.changedAt = changedAt ∧ watched.lastStep = lastStep ∧
      watched.playback.screen.presenter.published.map Publication.time = times := by
  obtain ⟨watched, hwatched, hseen⟩ := Option.map_eq_some_iff.mp h
  simp only [Prod.mk.injEq] at hseen
  obtain ⟨hchangedAt, hlastStep, htimes, hresult⟩ := hseen
  refine ⟨watched, ?_, ?_, hchangedAt, hlastStep, htimes⟩
  · cases hwatch : script.watch config clock with
    | error failure =>
        rw [hwatch] at hwatched
        cases hwatched
    | ok other =>
        rw [hwatch] at hwatched
        rw [Option.some.inj hwatched]
  · cases hend : watched.playback.result with
    | error failure =>
        rw [hend] at hresult
        cases hresult
    | ok done => rfl

/-- A step that is nothing but a delay. -/
def idle (delayMs : Nat) : ScriptStep where
  delayMs := delayMs
  tunnel := none
  selection := none
  account := none
  device := none
  newDevice := none
  version := none
  permission := none
  alwaysOnApp := none
  connectFailure := none
  authToken := none
  pendingDays := none
  action := none

/-- A step with an account whose time is up a second later. -/
def expiring : ScriptStep :=
  { idle 0 with account := some ⟨"1", 0, 1⟩ }

/-- A last step a little before the time of the account is up leaves time enough for the state
without the notice of it. -/
theorem lastStatePrinted_of_expiring :
    ∃ playback, (Script.mk [expiring, idle 990]).play .initial ⟨⟨1717243258, 0⟩, 0⟩ = .ok playback ∧
      playback.result = .ok () ∧
      (∃ watched, (Script.mk [expiring, idle 990]).watch .initial ⟨⟨1717243258, 0⟩, 0⟩ =
          .ok watched ∧ watched.changedAt = 1000 ∧ watched.lastStep = 990) ∧
      ∃ watched, (Script.mk [expiring, idle 990]).watch .initial ⟨⟨1717243258, 0⟩, 0⟩ =
          .ok watched ∧ watched.playback = playback ∧
        watched.LastStatePrinted .initial ⟨⟨1717243258, 0⟩, 0⟩ := by
  obtain ⟨watched, hwatch, hend, hchangedAt, hlastStep, -⟩ :=
    exists_watch ⟨[expiring, idle 990]⟩ .initial ⟨⟨1717243258, 0⟩, 0⟩ 1000 990 [200, 1200]
      (by decide +kernel)
  have hplay := play_of_watch hwatch
  exact ⟨watched.playback, hplay, hend, ⟨watched, hwatch, hchangedAt, hlastStep⟩,
    lastStatePrinted _ _ _ hplay hend⟩

/-- A configuration with a window of two seconds. -/
def slow : ConnectConfig :=
  { ConnectConfig.initial with debounceMs := 2000 }

/-- Without that step, and with a longer window, the time of the account is up in the middle of the
wait.  The window begins anew then and is not over when the playback is, so that no state is printed
at all. -/
theorem not_showsLastState_of_expiring :
    slow.problem? = none ∧
    ∃ watched, (Script.mk [expiring]).watch slow ⟨⟨1717243258, 0⟩, 0⟩ = .ok watched ∧
      (Script.mk [expiring]).play slow ⟨⟨1717243258, 0⟩, 0⟩ = .ok watched.playback ∧
      watched.playback.result = .ok () ∧ watched.changedAt = 1000 ∧ watched.lastStep = 0 ∧
      watched.playback.printed = [] ∧ ¬ watched.ShowsLastState slow ⟨⟨1717243258, 0⟩, 0⟩ := by
  refine ⟨by decide +kernel, ?_⟩
  obtain ⟨watched, hwatch, hend, hchangedAt, hlastStep, htimes⟩ :=
    exists_watch ⟨[expiring]⟩ slow ⟨⟨1717243258, 0⟩, 0⟩ 1000 0 [] (by decide +kernel)
  have hnothing : watched.playback.screen.presenter.published = [] :=
    List.map_eq_nil_iff.mp htimes
  have hprinted : watched.playback.printed = [] := by
    rw [Playback.printed_eq]
    · exact hnothing
    · rw [hnothing]
      exact .nil
  refine ⟨watched, hwatch, play_of_watch hwatch, hend, hchangedAt, hlastStep, hprinted, ?_⟩
  rintro ⟨publication, hlast, -⟩
  rw [hprinted] at hlast
  cases hlast

end Script

end VpnClient
