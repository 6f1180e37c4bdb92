import VpnClient.Proofs.Feed.Derived
import VpnClient.Proofs.Screen.Presenter
import VpnClient.Screen.Screen

/-!
# A screen at rest is current

When a screen has come to rest, all its parts have seen all that was written: the feeds hold what
follows from the backend, and the presenter has published, or is going to, what follows from the
six sources.

## Main Definitions

* `Screen.IsCurrent` — a screen on an open backend, all parts of which are current

## Main Statements

* `Screen.IsCurrent.settle` — a screen whose backend was changed, or that was clicked, is current
  again once it has come to rest
* `Screen.IsCurrent.settle_start` — the same after its start
* `Screen.IsCurrent.pass` — nothing changes before the screen moves by itself
-/

namespace VpnClient

namespace Feeds

/-- The six sources that a screen follows when they are derived from a backend. -/
def sources (feeds : Feeds) (backend : Backend) : ScreenSources where
  title := feeds.title.output
  notifications := feeds.notifications.output
  tunnel := backend.tunnel
  lastKnown := feeds.lastKnown.output
  account := backend.account
  device := backend.device

theorem later_sources {feeds feeds' : Feeds} {b b' : Backend} (h : feeds.Later feeds')
    (hlater : b.Later b') : (feeds.sources b).Later (feeds'.sources b') where
  title := h.title
  notifications := h.notifications
  tunnel := hlater.tunnel
  lastKnown := h.lastKnown
  account := hlater.account
  device := hlater.device

end Feeds

namespace Screen

/-- All parts of a screen are current.  `changedAt` is the time of the last write to one of its
sources, or of its start if that was later; `reported` is the location that the tunnel has last been
disconnected at. -/
structure IsCurrent (screen : Screen) (config : ConnectConfig) (clock : Clock) (changedAt : Nat)
    (reported : Option Location) : Prop where
  network_eq : screen.network = .perfect
  backendOpen : screen.backend.IsOpen
  backendRegular : screen.backend.HasRegularExpiry
  presenter : screen.presenter.IsCurrent config clock screen.sources changedAt
  following : ∃ feeds, screen.supply = .derived feeds ∧
    feeds.IsCurrent clock screen.backend reported ∧
    feeds.notifications.warningDays = config.expiryWarningDays

/-- What can happen to a screen between two reactions: its backend is written, and jobs come and
go. -/
structure Later (screen screen' : Screen) : Prop where
  network_eq : screen'.network = screen.network
  supply_eq : screen'.supply = screen.supply
  backend : screen.backend.Later screen'.backend
  backendRegular : screen.backend.HasRegularExpiry → screen'.backend.HasRegularExpiry
  presenter : ({ screen.presenter with jobs := screen'.presenter.jobs } : Presenter).Agrees
    screen'.presenter

variable {screen screen' : Screen} {config : ConnectConfig} {clock : Clock} {changedAt : Nat}
  {reported : Option Location} {time : Nat}

theorem sources_of_derived {feeds : Feeds} (h : screen.supply = .derived feeds) :
    screen.sources = feeds.sources screen.backend := by
  simp only [sources, h]
  rfl

/-- A state that is due is published before anything else happens. -/
theorem exists_publishDue {sources : ScreenSources}
    (h : screen.presenter.IsCurrent config clock sources changedAt) (htime : clock.elapsed ≤ time) :
    ∃ p, screen.publishDue (clock.withElapsed time) = { screen with presenter := p } ∧
      p.IsCurrent config (clock.withElapsed time) sources changedAt ∧
      p.isStarted = screen.presenter.isStarted ∧ p.jobs = screen.presenter.jobs := by
  rcases h.aggregation with ⟨hnotStarted, hnone⟩ | ⟨hstarted, a, ha, hcurrent⟩
  · refine ⟨screen.presenter, ?_, ?_, rfl, rfl⟩
    · simp only [publishDue, hnone]
    · exact ⟨h.window_eq, h.isPlayBuild_eq, h.isClosed_eq, Or.inl ⟨hnotStarted, hnone⟩⟩
  · have hpublished := hcurrent.publish htime
    cases hdue : (a.publish (clock.withElapsed time)).1 with
    | none =>
        rw [Aggregator.publish_of_none hdue, hdue] at hpublished
        refine ⟨screen.presenter, ?_, ?_, rfl, rfl⟩
        · simp only [publishDue, ha]
          split
          · rfl
          · next hsome =>
            rw [hsome] at hdue
            cases hdue
        · exact ⟨h.window_eq, h.isPlayBuild_eq, h.isClosed_eq,
            Or.inr ⟨hstarted, a, ha, hpublished⟩⟩
    | some state =>
        rw [hdue] at hpublished
        refine ⟨{ screen.presenter with
          aggregator := some (a.publish (clock.withElapsed time)).2 }.publish
            (clock.withElapsed time) state, ?_, ?_, rfl, rfl⟩
        · simp only [publishDue, ha]
          split
          · next hnone =>
            rw [hnone] at hdue
            cases hdue
          · next hsome =>
            rw [hsome] at hdue ⊢
            cases hdue
            rfl
        · exact ⟨h.window_eq, h.isPlayBuild_eq, h.isClosed_eq,
            Or.inr ⟨hstarted, _, rfl, hpublished⟩⟩

/-- A reaction of a screen with derived sources: the feeds look at the backend, and then the
presenter at what has become of the sources. -/
theorem react_of_derived {feeds : Feeds} (hsupply : screen.supply = .derived feeds) {p : Presenter}
    (hpublish : screen.publishDue clock = { screen with presenter := p }) :
    screen.react clock = { screen with
      supply := .derived (feeds.react clock screen.backend)
      presenter := p.react clock
        ((feeds.react clock screen.backend).sources screen.backend) } := by
  simp only [react, hpublish, reactFeeds, hsupply]
  rfl

/-- The requests of a screen whose jobs are all due reach the backend, which is what can happen
between two reactions; no jobs are left. -/
theorem later_runJobs (hdue : ∀ job ∈ screen.presenter.jobs, job.due ≤ clock.elapsed) :
    screen.Later (screen.runJobs clock) ∧ (screen.runJobs clock).presenter.jobs = [] := by
  obtain ⟨hagrees, hlater, hregular⟩ :=
    Presenter.agrees_runJobs screen.network screen.backend hdue
  have hjobs : (screen.runJobs clock).presenter.jobs = [] := hagrees.jobs_eq
  refine ⟨⟨rfl, rfl, hlater, hregular, ?_⟩, hjobs⟩
  rw [hjobs]
  exact hagrees

namespace IsCurrent

/-- The feeds of a current screen are current again after their next reaction, and have written
their outputs at most. -/
theorem exists_feeds (h : screen.IsCurrent config clock changedAt reported)
    (hclock : clock.AgreesWithTimers) (screen' : Screen) (hsupply : screen'.supply = screen.supply)
    (hlater : screen.backend.Later screen'.backend)
    (hregular : screen'.backend.HasRegularExpiry) (htime : clock.elapsed ≤ time) :
    ∃ feeds, screen'.supply = .derived feeds ∧
      screen.sources.Later ((feeds.react (clock.withElapsed time) screen'.backend).sources
        screen'.backend) ∧
      (feeds.react (clock.withElapsed time) screen'.backend).IsCurrent (clock.withElapsed time)
        screen'.backend (screen'.backend.tunnel.value.disconnectedLocation?.or reported) ∧
      (feeds.react (clock.withElapsed time) screen'.backend).notifications.warningDays =
        config.expiryWarningDays := by
  obtain ⟨feeds, hderived, hcurrent, hdays⟩ := h.following
  have hopen := h.backendOpen.of_later hlater
  refine ⟨feeds, hsupply.trans hderived, ?_, ?_, ?_⟩
  · rw [sources_of_derived hderived]
    exact Feeds.later_sources (hcurrent.isOpen.later_react _ hopen) hlater
  · exact hcurrent.react hclock h.backendRegular hlater hopen hregular htime
  · exact (NotificationFeed.react_warningDays _ _ _).trans hdays

/-- A screen that reacts is current again.  If nothing was written to its sources, the last write to
them is still the last one; else it is now. -/
theorem react (h : screen.IsCurrent config clock changedAt reported)
    (hclock : clock.AgreesWithTimers) (hlater : screen.Later screen')
    (htime : clock.elapsed ≤ time) :
    let rested := screen'.react (clock.withElapsed time)
    rested.IsCurrent config (clock.withElapsed time)
        (if rested.sources.revisions = screen.sources.revisions then changedAt else time)
        (screen'.backend.tunnel.value.disconnectedLocation?.or reported) ∧
      screen.sources.Later rested.sources ∧ rested.backend = screen'.backend ∧
      rested.presenter.isStarted = screen.presenter.isStarted ∧
      rested.presenter.jobs = screen'.presenter.jobs := by
  intro rested
  have hregular := hlater.backendRegular h.backendRegular
  obtain ⟨feeds, hderived, hsources, hfeeds, hdays⟩ :=
    h.exists_feeds hclock screen' hlater.supply_eq hlater.backend hregular htime
  -- the presenter may have got jobs since, which its published state does not depend on
  have hjobs : ({ screen.presenter with jobs := screen'.presenter.jobs } : Presenter).IsCurrent
      config clock screen.sources changedAt :=
    ⟨h.presenter.window_eq, h.presenter.isPlayBuild_eq, h.presenter.isClosed_eq,
      h.presenter.aggregation⟩
  obtain ⟨p, hpublish, hp, hpstarted, hpjobs⟩ :=
    exists_publishDue (hjobs.of_agrees hlater.presenter) htime
  obtain ⟨hpresenter, hstarted, hpresenterJobs⟩ := hp.react hsources (Nat.le_refl time)
  have hrested : rested = _ := react_of_derived hderived hpublish
  clear_value rested
  subst hrested
  refine ⟨⟨?_, ?_, hregular, hpresenter, _, rfl, hfeeds, hdays⟩, hsources, rfl, ?_, ?_⟩
  · exact hlater.network_eq.trans h.network_eq
  · exact h.backendOpen.of_later hlater.backend
  · exact (hstarted.trans hpstarted).trans hlater.presenter.isStarted_eq
  · exact hpresenterJobs.trans hpjobs

/-- A screen that has just been started is current after its next reaction, and its start counts as
a write. -/
theorem react_start (h : screen.IsCurrent config clock changedAt reported)
    (hclock : clock.AgreesWithTimers) (hnotStarted : screen.presenter.isStarted = false) :
    let rested := (screen.start clock).react clock
    rested.IsCurrent config clock clock.elapsed
        (screen.backend.tunnel.value.disconnectedLocation?.or reported) ∧
      screen.sources.Later rested.sources ∧ rested.backend = screen.backend ∧
      rested.presenter.isStarted = true ∧
      rested.presenter.jobs = (screen.start clock).presenter.jobs := by
  intro rested
  obtain ⟨feeds, hderived, hsources, hfeeds, hdays⟩ :=
    h.exists_feeds hclock screen rfl (Backend.Later.refl _) h.backendRegular (Nat.le_refl _)
  rw [Clock.withElapsed_self] at hsources hfeeds hdays
  have hstart := Presenter.start_of_resting clock screen.network h.presenter.isClosed_eq
    hnotStarted
  have hlaunched : (screen.start clock).presenter.aggregator =
      some (.launch config.debounceMs) := by
    rw [← h.presenter.window_eq]
    exact congrArg Presenter.aggregator hstart
  -- an aggregation that has just been launched has nothing to publish
  have hpublish : (screen.start clock).publishDue clock = { screen.start clock with
      presenter := (screen.start clock).presenter } := by
    simp only [publishDue, hlaunched]
    rfl
  obtain ⟨hpresenter, hstarted, hjobs⟩ := Presenter.isCurrent_react_of_started
    ((congrArg Presenter.window hstart).trans h.presenter.window_eq)
    ((congrArg Presenter.isPlayBuild hstart).trans h.presenter.isPlayBuild_eq)
    ((congrArg Presenter.isClosed hstart).trans h.presenter.isClosed_eq)
    (congrArg Presenter.isStarted hstart) hlaunched clock
    ((feeds.react clock screen.backend).sources screen.backend)
  have hderived' : (screen.start clock).supply = .derived feeds := hderived
  have hrested : rested = _ := react_of_derived hderived' hpublish
  clear_value rested
  subst hrested
  exact ⟨⟨h.network_eq, h.backendOpen, h.backendRegular, hpresenter, _, rfl, hfeeds, hdays⟩,
    hsources, rfl, hstarted, hjobs⟩

/-- A screen comes to rest: after a first reaction its requests run, and then everything looks at
what they have written. -/
theorem settle_of_react (changedAt : Nat) (hclock : clock.AgreesWithTimers) {rested : Screen}
    {firstChange : Nat}
    (hbefore : screen.sources.Later rested.sources)
    (h : rested.IsCurrent config clock firstChange reported)
    (hfirst : rested.sources.revisions = screen.sources.revisions → firstChange = changedAt)
    (hnew : rested.sources.revisions ≠ screen.sources.revisions → firstChange = clock.elapsed)
    (hdue : ∀ job ∈ rested.presenter.jobs, job.due ≤ clock.elapsed) :
    let last := (rested.runJobs clock).react clock
    last.IsCurrent config clock
        (if last.sources.revisions = screen.sources.revisions then changedAt else clock.elapsed)
        (last.backend.tunnel.value.disconnectedLocation?.or reported) ∧
      last.presenter.isStarted = rested.presenter.isStarted ∧ last.presenter.jobs = [] := by
  intro last
  obtain ⟨hlater, hnoJobs⟩ := later_runJobs hdue
  obtain ⟨hcurrent, hsources, hbackend, hstarted, hjobs⟩ :=
    h.react hclock hlater (Nat.le_refl _)
  rw [Clock.withElapsed_self] at hcurrent hsources hbackend hstarted hjobs
  refine ⟨?_, hstarted, hjobs.trans hnoJobs⟩
  -- a source may be written before the requests run or by what they write, and either way now
  have hchange : (if last.sources.revisions = screen.sources.revisions then changedAt
      else clock.elapsed) =
      if last.sources.revisions = rested.sources.revisions then firstChange else clock.elapsed := by
    by_cases hsame : last.sources.revisions = screen.sources.revisions
    · have hbetween := hbefore.revisions_eq_between hsources hsame
      rw [if_pos hsame, if_pos (hsame.trans hbetween.symm), hfirst hbetween]
    · rw [if_neg hsame]
      by_cases hrest : last.sources.revisions = rested.sources.revisions
      · rw [if_pos hrest, hnew (fun hfirst => hsame (hrest.trans hfirst))]
      · rw [if_neg hrest]
  rw [hchange, show last.backend = _ from hbackend]
  exact hcurrent

/-- A screen whose backend was written, or that has got requests, is current again once it has come
to rest. -/
theorem settle (h : screen.IsCurrent config clock changedAt reported)
    (hclock : clock.AgreesWithTimers) (hlater : screen.Later screen') (htime : clock.elapsed ≤ time)
    (hdue : ∀ job ∈ screen'.presenter.jobs, job.due ≤ time) :
    let rested := Screen.settle (clock.withElapsed time) screen'
    rested.IsCurrent config (clock.withElapsed time)
        (if rested.sources.revisions = screen.sources.revisions then changedAt else time)
        (rested.backend.tunnel.value.disconnectedLocation?.or
          (screen'.backend.tunnel.value.disconnectedLocation?.or reported)) ∧
      rested.presenter.isStarted = screen.presenter.isStarted ∧ rested.presenter.jobs = [] := by
  obtain ⟨hcurrent, hsources, -, hstarted, hjobs⟩ := h.react hclock hlater htime
  obtain ⟨hlast, hlastStarted, hnoJobs⟩ := settle_of_react changedAt (hclock.withElapsed time)
    hsources hcurrent (fun hsame => if_pos hsame) (fun hnew => if_neg hnew) (hjobs.symm ▸ hdue)
  exact ⟨hlast, hlastStarted.trans hstarted, hnoJobs⟩

/-- A screen is current once it has come to rest after its start, which counts as a write. -/
theorem settle_start (h : screen.IsCurrent config clock changedAt reported)
    (hclock : clock.AgreesWithTimers) (hnotStarted : screen.presenter.isStarted = false)
    (hnoJobs : screen.presenter.jobs = []) :
    let rested := Screen.settle clock (screen.start clock)
    rested.IsCurrent config clock clock.elapsed
        (rested.backend.tunnel.value.disconnectedLocation?.or
          (screen.backend.tunnel.value.disconnectedLocation?.or reported)) ∧
      rested.presenter.isStarted = true ∧ rested.presenter.jobs = [] := by
  obtain ⟨hcurrent, hsources, -, hstarted, hjobs⟩ := h.react_start hclock hnotStarted
  have hdue : ∀ job ∈ (screen.start clock).presenter.jobs, job.due ≤ clock.elapsed := by
    have hstart : (screen.start clock).presenter.jobs =
        [⟨.verifyPurchases, clock.elapsed + screen.network.latency⟩] := by
      refine (congrArg Presenter.jobs (Presenter.start_of_resting clock screen.network
        h.presenter.isClosed_eq hnotStarted)).trans ?_
      simp only [hnoJobs, List.nil_append]
    intro job hjob
    rw [hstart, h.network_eq, List.mem_singleton] at hjob
    rw [hjob]
    exact Nat.le_refl _
  obtain ⟨hlast, hlastStarted, hlastJobs⟩ := settle_of_react clock.elapsed hclock hsources
    hcurrent (fun _ => rfl) (fun _ => rfl) (hjobs.symm ▸ hdue)
  rw [ite_self] at hlast
  exact ⟨hlast, hlastStarted.trans hstarted, hlastJobs⟩

/-- Nothing changes in a current screen before it moves by itself. -/
theorem pass (h : screen.IsCurrent config clock changedAt reported)
    (hclock : clock.AgreesWithTimers) (htime : clock.elapsed ≤ time)
    (hbefore : ∀ due, screen.nextDue? = some due → time < due) :
    screen.IsCurrent config (clock.withElapsed time) changedAt reported := by
  obtain ⟨feeds, hderived, hcurrent, hdays⟩ := h.following
  simp only [nextDue?, hderived] at hbefore
  obtain ⟨hfeeds, hpresenter⟩ := lt_of_lt_earlier hbefore
  have haggregator := (lt_of_lt_earlier (lt_of_lt_earlier hpresenter).1).1
  exact ⟨h.network_eq, h.backendOpen, h.backendRegular, h.presenter.pass htime haggregator,
    feeds, hderived, hcurrent.pass hclock htime hfeeds, hdays⟩

end IsCurrent

end Screen

end VpnClient
