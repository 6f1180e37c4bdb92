import VpnClient.Proofs.Screen.Convergence
import VpnClient.Proofs.Screen.Emissions

/-!
# What a screen has published

Whatever happens to a screen that has been started, and whatever its clock shows, the state that
follows from the last write to its sources is held back for exactly one window, and has been
published then; all that has been published besides goes back to earlier writes.

The invariant is asked for at two kinds of moments.  A screen that has just come to rest has
published what was due.  A screen to which something is about to happen may still have to publish
what is due in this very millisecond.

## Main Definitions

* `Presenter.IsOnTime`, `Presenter.IsReady` — the invariant at rest, and when something is about to
  happen
* `ScreenHistory.IsOnTime`, `ScreenHistory.IsReady` — the same for a screen and an onlooker

## Main Statements

* `Aggregates.publishDue`, `Presenter.IsReady.react` — what is due is published when it is due
* `Screen.IsOpen.settle` — what a screen does until it is at rest
* `ScreenHistory.IsReady.settle` — a screen that comes to rest is on time
* `ScreenHistory.IsOnTime.advance` — and stays so while time passes
-/

namespace VpnClient

/-! ## The presenter -/

namespace Presenter

/-- Two presenters that have published the same and are going to. -/
structure PublishesAlike (p q : Presenter) : Prop where
  isPlayBuild_eq : q.isPlayBuild = p.isPlayBuild
  aggregator_eq : q.aggregator = p.aggregator
  published_eq : q.published = p.published

theorem PublishesAlike.trans {p q r : Presenter} (h₁ : p.PublishesAlike q)
    (h₂ : q.PublishesAlike r) : p.PublishesAlike r where
  isPlayBuild_eq := h₂.isPlayBuild_eq.trans h₁.isPlayBuild_eq
  aggregator_eq := h₂.aggregator_eq.trans h₁.aggregator_eq
  published_eq := h₂.published_eq.trans h₁.published_eq

theorem Agrees.publishesAlike {p q : Presenter} (h : p.Agrees q) : p.PublishesAlike q :=
  ⟨h.isPlayBuild_eq, h.aggregator_eq, h.published_eq⟩

/-- Two presenters at the same point of their lives, with the same jobs to do. -/
structure LivesAlike (p q : Presenter) : Prop where
  isStarted_eq : q.isStarted = p.isStarted
  isClosed_eq : q.isClosed = p.isClosed
  jobs_eq : q.jobs = p.jobs

theorem LivesAlike.trans {p q r : Presenter} (h₁ : p.LivesAlike q) (h₂ : q.LivesAlike r) :
    p.LivesAlike r where
  isStarted_eq := h₂.isStarted_eq.trans h₁.isStarted_eq
  isClosed_eq := h₂.isClosed_eq.trans h₁.isClosed_eq
  jobs_eq := h₂.jobs_eq.trans h₁.jobs_eq

theorem Agrees.livesAlike {p q : Presenter} (h : p.Agrees q) : p.LivesAlike q :=
  ⟨h.isStarted_eq, h.isClosed_eq, h.jobs_eq⟩

/-- A presenter that has published what is due. -/
def publishDue (p : Presenter) (clock : Clock) : Presenter :=
  match p.aggregator with
  | none => p
  | some a =>
    match a.publish clock with
    | (none, _) => p
    | (some state, a) => { p with aggregator := some a }.publish clock state

theorem livesAlike_publishDue (p : Presenter) (clock : Clock) :
    p.LivesAlike (p.publishDue clock) := by
  rw [publishDue]
  split
  · exact ⟨rfl, rfl, rfl⟩
  · split
    · exact ⟨rfl, rfl, rfl⟩
    · exact ⟨rfl, rfl, rfl⟩

theorem livesAlike_react (p : Presenter) (clock : Clock) (sources : ScreenSources) :
    p.LivesAlike (p.react clock sources) := by
  refine LivesAlike.trans ?_ (agrees_react p clock sources).livesAlike
  cases haggregator : p.aggregator with
  | none =>
      rw [reactAggregator, haggregator]
      exact ⟨rfl, rfl, rfl⟩
  | some a =>
      rw [reactAggregator_eq haggregator]
      exact ⟨rfl, rfl, rfl⟩

end Presenter

namespace Aggregates

variable {window : Nat} {isPlayBuild : Bool} {before : List Publication} {last : Publication}
  {elapsed : Nat} {clock : Clock} {sources : ScreenSources} {p q : Presenter}

theorem of_publishesAlike (h : Aggregates window isPlayBuild before last elapsed ⟨sources, p⟩)
    (halike : p.PublishesAlike q) :
    Aggregates window isPlayBuild before last elapsed ⟨sources, q⟩ := by
  cases h with
  | waiting hbuild haggregator hpublished hahead =>
      exact .waiting (halike.isPlayBuild_eq.trans hbuild) (halike.aggregator_eq.trans haggregator)
        (halike.published_eq.trans hpublished) hahead
  | published hbuild haggregator hpublished hover =>
      exact .published (halike.isPlayBuild_eq.trans hbuild) (halike.aggregator_eq.trans haggregator)
        (halike.published_eq.trans hpublished) hover

/-- If no more than a millisecond has passed, what is due has just become so. -/
theorem publishDue (h : Aggregates window isPlayBuild before last elapsed ⟨sources, p⟩)
    (hle : elapsed ≤ clock.elapsed) (hsoon : clock.elapsed ≤ elapsed + 1) :
    Aggregates window isPlayBuild before last clock.elapsed ⟨sources, p.publishDue clock⟩ := by
  cases h with
  | published hbuild haggregator hpublished hover =>
      have hsame : p.publishDue clock = p := by
        simp only [Presenter.publishDue, show p.aggregator = _ from haggregator]
        rfl
      rw [hsame]
      exact .published hbuild haggregator hpublished (hover.trans hle)
  | waiting hbuild haggregator hpublished hahead =>
      simp only [Presenter.publishDue, show p.aggregator = _ from haggregator]
      by_cases hdue : last.time ≤ clock.elapsed
      · have hnow : clock.elapsed = last.time := by omega
        simp only [Aggregator.publish_due hdue]
        refine .published hbuild rfl ?_ hdue
        simp only [Presenter.publish, show p.published = _ from hpublished, hnow]
      · simp only [Aggregator.publish_waiting (Nat.lt_of_not_le hdue)]
        exact .waiting hbuild haggregator hpublished (Nat.lt_of_not_le hdue)

/-- Nothing is due before the time at which the aggregation moves by itself. -/
theorem pass (h : Aggregates window isPlayBuild before last elapsed ⟨sources, p⟩) {time : Nat}
    (hle : elapsed ≤ time)
    (hbefore : ∀ due, p.aggregator.bind Aggregator.nextDue? = some due → time < due) :
    Aggregates window isPlayBuild before last time ⟨sources, p⟩ := by
  cases h with
  | published hbuild haggregator hpublished hover =>
      exact .published hbuild haggregator hpublished (hover.trans hle)
  | waiting hbuild haggregator hpublished hahead =>
      refine .waiting hbuild haggregator hpublished (hbefore last.time ?_)
      rw [show p.aggregator = _ from haggregator]
      rfl

end Aggregates

namespace Presenter

/-- What follows from the last write to the sources has been published one window later, or is held
back until then; all that has been published before goes back to earlier writes. -/
structure IsOnTime (p : Presenter) (config : ConnectConfig) (clock : Clock)
    (sources : ScreenSources) (changedAt : Nat) : Prop where
  changedAt_le : changedAt ≤ clock.elapsed
  exists_aggregates : ∃ before,
    Aggregates config.debounceMs config.isPlayBuild before
      (.ofWrite config.debounceMs config.isPlayBuild clock.start (changedAt, sources.inputs))
      clock.elapsed ⟨sources, p⟩ ∧
    (∀ earlier ∈ before, earlier.time ≤ changedAt) ∧
    before.Pairwise fun first second => first.time ≤ second.time

/-- A presenter that was on time at most a millisecond ago, or has just been started. -/
def IsReady (p : Presenter) (config : ConnectConfig) (clock : Clock) (sources : ScreenSources)
    (changedAt : Nat) : Prop :=
  (∃ rested, rested ≤ clock.elapsed ∧ clock.elapsed ≤ rested + 1 ∧
    p.IsOnTime config (clock.withElapsed rested) sources changedAt) ∨
  (p.isPlayBuild = config.isPlayBuild ∧ p.aggregator = some (.launch config.debounceMs) ∧
    p.published = [] ∧ changedAt = clock.elapsed)

variable {p q : Presenter} {config : ConnectConfig} {clock : Clock}
  {sources sources' : ScreenSources} {changedAt : Nat}

namespace IsOnTime

theorem isReady (h : p.IsOnTime config clock sources changedAt) :
    p.IsReady config clock sources changedAt :=
  Or.inl ⟨clock.elapsed, Nat.le_refl _, Nat.le_succ _, h⟩

/-- What has been published is in the order of its time, and none of it is from the future. -/
theorem published_pairwise (h : p.IsOnTime config clock sources changedAt) :
    p.published.Pairwise fun first second => first.time ≤ second.time := by
  obtain ⟨before, haggregates, hbefore, hordered⟩ := h.exists_aggregates
  rw [show p.published = _ from haggregates.published_eq]
  split
  · refine List.pairwise_append.mpr ⟨hordered, List.pairwise_singleton _ _, ?_⟩
    intro earlier hearlier last hlast
    rw [List.mem_singleton.mp hlast]
    exact (hbefore earlier hearlier).trans (Nat.le_add_right _ _)
  · rw [List.append_nil]
    exact hordered

/-- Either a window has passed since the last write, and what follows from that was published last,
or all that has been published goes back to earlier writes. -/
theorem published_cases (h : p.IsOnTime config clock sources changedAt) :
    (changedAt + config.debounceMs ≤ clock.elapsed ∧
      p.published.getLast? = some (.ofWrite config.debounceMs config.isPlayBuild clock.start
        (changedAt, sources.inputs))) ∨
    (clock.elapsed < changedAt + config.debounceMs ∧
      ∀ earlier ∈ p.published, earlier.time ≤ changedAt) := by
  obtain ⟨before, haggregates, hbefore, -⟩ := h.exists_aggregates
  cases haggregates with
  | published hbuild haggregator hpublished hover =>
      refine Or.inl ⟨hover, ?_⟩
      rw [show p.published = _ from hpublished]
      exact List.getLast?_concat
  | waiting hbuild haggregator hpublished hahead =>
      refine Or.inr ⟨hahead, ?_⟩
      rw [show p.published = _ from hpublished]
      exact hbefore

/-- A presenter stays on time until it moves by itself. -/
theorem pass (h : p.IsOnTime config clock sources changedAt) {time : Nat}
    (hle : clock.elapsed ≤ time)
    (hbefore : ∀ due, p.aggregator.bind Aggregator.nextDue? = some due → time < due) :
    p.IsOnTime config (clock.withElapsed time) sources changedAt := by
  obtain ⟨before, haggregates, hordered⟩ := h.exists_aggregates
  exact ⟨h.changedAt_le.trans hle, before, haggregates.pass hle hbefore, hordered⟩

/-- A presenter on time that looks at its sources is on time. -/
theorem react (h : p.IsOnTime config clock sources changedAt) (hlater : sources.Later sources') :
    (p.react clock sources').IsOnTime config clock sources'
      (if sources'.revisions = sources.revisions then changedAt else clock.elapsed) := by
  obtain ⟨before, haggregates, hbefore, hordered⟩ := h.exists_aggregates
  have halike := (agrees_react p clock sources').publishesAlike
  by_cases hsame : sources'.revisions = sources.revisions
  · rw [if_pos hsame]
    have heq : sources' = sources := hlater.eq_of_revisions_eq hsame
    subst heq
    have hseen := @Aggregates.act_of_seen _ _ _ _ ⟨clock, ⟨sources', p⟩⟩ haggregates [] rfl
    exact ⟨h.changedAt_le, before, hseen.of_publishesAlike halike, hbefore, hordered⟩
  · rw [if_neg hsame]
    obtain ⟨a, haggregator, hseen, hwindow, hnothing⟩ := haggregates.exists_aggregator
    have hnew : a.seen ≠ some sources'.revisions := by
      rw [hseen]
      intro heq
      exact hsame (Option.some.inj heq).symm
    have hsettled := Aggregates.settle_of_new (s := ⟨sources', p⟩) clock haggregates.isPlayBuild_eq
      haggregator hwindow hnothing hnew
    refine ⟨Nat.le_refl _, p.published, hsettled.of_publishesAlike halike, ?_,
      h.published_pairwise⟩
    rw [show p.published = _ from haggregates.published_eq]
    intro earlier hearlier
    rcases List.mem_append.mp hearlier with hearlier | hearlier
    · exact (hbefore earlier hearlier).trans h.changedAt_le
    · split at hearlier
      · next hover =>
        rw [List.mem_singleton.mp hearlier]
        exact hover
      · cases hearlier

end IsOnTime

namespace IsReady

theorem of_publishesAlike (h : p.IsReady config clock sources changedAt)
    (halike : p.PublishesAlike q) : q.IsReady config clock sources changedAt := by
  rcases h with ⟨rested, hle, hsoon, h⟩ | ⟨hbuild, haggregator, hpublished, hnow⟩
  · obtain ⟨before, haggregates, hordered⟩ := h.exists_aggregates
    exact Or.inl ⟨rested, hle, hsoon, h.changedAt_le, before,
      haggregates.of_publishesAlike halike, hordered⟩
  · exact Or.inr ⟨halike.isPlayBuild_eq.trans hbuild, halike.aggregator_eq.trans haggregator,
      halike.published_eq.trans hpublished, hnow⟩

/-- A presenter that is ready is on time once it has published what is due and looked at its
sources.  The first look counts as a write. -/
theorem react (h : p.IsReady config clock sources changedAt) (hlater : sources.Later sources') :
    ((p.publishDue clock).react clock sources').IsOnTime config clock sources'
      (if sources'.revisions = sources.revisions then changedAt else clock.elapsed) := by
  rcases h with ⟨rested, hle, hsoon, h⟩ | ⟨hbuild, haggregator, hpublished, hnow⟩
  · obtain ⟨before, haggregates, hordered⟩ := h.exists_aggregates
    have hdue : (p.publishDue clock).IsOnTime config clock sources changedAt :=
      ⟨h.changedAt_le.trans hle, before, haggregates.publishDue hle hsoon, hordered⟩
    exact hdue.react hlater
  · have hsame : p.publishDue clock = p := by
      rw [publishDue, haggregator]
      rfl
    have hsettled := Aggregates.settle_of_new (s := ⟨sources', p⟩) clock hbuild haggregator rfl rfl
      nofun
    have halike := (agrees_react p clock sources').publishesAlike
    rw [hsame, hnow, ite_self]
    refine ⟨Nat.le_refl _, p.published, hsettled.of_publishesAlike halike, ?_, ?_⟩
    · intro earlier hearlier
      rw [hpublished] at hearlier
      cases hearlier
    · rw [hpublished]
      exact .nil

end IsReady

end Presenter

/-! ## The screen -/

namespace Screen

variable {screen screen' later : Screen} {clock : Clock}

/-- A screen with derived sources, none of which will be closed before its backend is. -/
structure IsOpen (screen : Screen) : Prop where
  backend : screen.backend.IsOpen
  feeds : ∃ feeds, screen.supply = .derived feeds ∧ feeds.IsOpen

/-- A screen whose backend has been written at most. -/
structure Follows (screen screen' : Screen) : Prop where
  network_eq : screen'.network = screen.network
  supply_eq : screen'.supply = screen.supply
  backend : screen.backend.Later screen'.backend
  isStarted_eq : screen'.presenter.isStarted = screen.presenter.isStarted
  isClosed_eq : screen'.presenter.isClosed = screen.presenter.isClosed
  publishesAlike : screen.presenter.PublishesAlike screen'.presenter

theorem Later.follows (h : screen.Later screen') : screen.Follows screen' where
  network_eq := h.network_eq
  supply_eq := h.supply_eq
  backend := h.backend
  isStarted_eq := h.presenter.isStarted_eq
  isClosed_eq := h.presenter.isClosed_eq
  publishesAlike :=
    ⟨h.presenter.isPlayBuild_eq, h.presenter.aggregator_eq, h.presenter.published_eq⟩

theorem Follows.refl (screen : Screen) : screen.Follows screen :=
  ⟨rfl, rfl, .refl _, rfl, rfl, ⟨rfl, rfl, rfl⟩⟩

theorem Follows.trans (h₁ : screen.Follows screen') (h₂ : screen'.Follows later) :
    screen.Follows later where
  network_eq := h₂.network_eq.trans h₁.network_eq
  supply_eq := h₂.supply_eq.trans h₁.supply_eq
  backend := h₁.backend.trans h₂.backend
  isStarted_eq := h₂.isStarted_eq.trans h₁.isStarted_eq
  isClosed_eq := h₂.isClosed_eq.trans h₁.isClosed_eq
  publishesAlike := h₁.publishesAlike.trans h₂.publishesAlike

theorem IsOpen.of_follows (h : screen.IsOpen) (hfollows : screen.Follows screen') :
    screen'.IsOpen ∧ screen.sources.Later screen'.sources := by
  obtain ⟨feeds, hderived, hopen⟩ := h.feeds
  have hderived' := hfollows.supply_eq.trans hderived
  refine ⟨⟨h.backend.of_later hfollows.backend, feeds, hderived', hopen⟩, ?_⟩
  rw [sources_of_derived hderived, sources_of_derived hderived']
  exact Feeds.later_sources ⟨.refl _, .refl _, .refl _⟩ hfollows.backend

theorem publishDue_eq (screen : Screen) (clock : Clock) :
    screen.publishDue clock =
      { screen with presenter := screen.presenter.publishDue clock } := by
  rw [publishDue, Presenter.publishDue]
  cases screen.presenter.aggregator with
  | none => rfl
  | some a =>
      dsimp only
      obtain ⟨state, a⟩ := a.publish clock
      cases state <;> rfl

/-- In a reaction the feeds look at the backend, and then the presenter, which has published what is
due, at the sources. -/
theorem IsOpen.react (h : screen.IsOpen) (clock : Clock) :
    (screen.react clock).IsOpen ∧ (screen.react clock).network = screen.network ∧
      screen.sources.Later (screen.react clock).sources ∧
      (screen.react clock).presenter =
        (screen.presenter.publishDue clock).react clock (screen.react clock).sources := by
  obtain ⟨feeds, hderived, hopen⟩ := h.feeds
  have hreact := react_of_derived hderived (screen.publishDue_eq clock)
  have hfeeds := hopen.later_react clock h.backend
  rw [hreact, sources_of_derived hderived]
  exact ⟨⟨h.backend, _, rfl, hopen.of_later hfeeds⟩, rfl, Feeds.later_sources hfeeds (.refl _), rfl⟩

/-- A screen at rest, and what it has done until it was: it has looked at its sources, its requests
have run, and it has looked again. -/
structure Settled (clock : Clock) (screen rested : Screen) : Prop where
  isOpen : rested.IsOpen
  network_eq : rested.network = screen.network
  isStarted_eq : rested.presenter.isStarted = screen.presenter.isStarted
  isClosed_eq : rested.presenter.isClosed = screen.presenter.isClosed
  jobs_eq : rested.presenter.jobs = []
  exists_between : ∃ between p, screen.sources.Later between ∧ between.Later rested.sources ∧
    ((screen.presenter.publishDue clock).react clock between).PublishesAlike p ∧
    rested.presenter = (p.publishDue clock).react clock rested.sources

theorem IsOpen.settle (h : screen.IsOpen)
    (hdue : ∀ job ∈ screen.presenter.jobs, job.due ≤ clock.elapsed) :
    Settled clock screen (Screen.settle clock screen) := by
  have hlook : ∀ looking : Screen, looking.IsOpen →
      looking.presenter.LivesAlike (looking.react clock).presenter := by
    intro looking hlooking
    rw [(hlooking.react clock).2.2.2]
    exact (looking.presenter.livesAlike_publishDue clock).trans
      (Presenter.livesAlike_react _ clock _)
  obtain ⟨hopen, hnetwork, hbetween, hpresenter⟩ := h.react clock
  have hlives := hlook screen h
  obtain ⟨hlater, hnoJobs⟩ := later_runJobs (hlives.jobs_eq ▸ hdue)
  obtain ⟨hran, hwritten⟩ := hopen.of_follows hlater.follows
  obtain ⟨hrested, hnetwork', hlast, hpresenter'⟩ := hran.react clock
  have hlives' := hlook _ hran
  refine ⟨hrested, ?_, ?_, ?_, ?_, _, _, hbetween, hwritten.trans hlast, ?_, hpresenter'⟩
  · exact (hnetwork'.trans hlater.network_eq).trans hnetwork
  · exact (hlives'.isStarted_eq.trans hlater.follows.isStarted_eq).trans hlives.isStarted_eq
  · exact (hlives'.isClosed_eq.trans hlater.follows.isClosed_eq).trans hlives.isClosed_eq
  · exact hlives'.jobs_eq.trans hnoJobs
  · rw [← hpresenter]
    exact hlater.follows.publishesAlike

end Screen

/-! ## The screen and an onlooker -/

/-- The time of the last write between the first and the last of three moments at which sources are
looked at, if all that is written is written now. -/
theorem ScreenSources.Later.changedAt_trans {s t u : ScreenSources} (h₁ : s.Later t)
    (h₂ : t.Later u) (changedAt now : Nat) :
    (if u.revisions = t.revisions then if t.revisions = s.revisions then changedAt else now
      else now) = if u.revisions = s.revisions then changedAt else now := by
  by_cases hsame : u.revisions = s.revisions
  · have hbetween := h₁.revisions_eq_between h₂ hsame
    rw [if_pos hsame, if_pos (hsame.trans hbetween.symm), if_pos hbetween]
  · rw [if_neg hsame]
    by_cases hlast : u.revisions = t.revisions
    · rw [if_pos hlast, if_neg (fun hfirst => hsame (hlast.trans hfirst))]
    · rw [if_neg hlast]

namespace ScreenHistory

/-- A screen that has come to rest and is on time, as far as an onlooker can tell. -/
structure IsOnTime (history : ScreenHistory) (config : ConnectConfig) (clock : Clock) : Prop where
  isOpen : history.screen.IsOpen
  network_eq : history.screen.network = .perfect
  isClosed_eq : history.screen.presenter.isClosed = false
  jobs_eq : history.screen.presenter.jobs = []
  presenter : history.screen.presenter.IsOnTime config clock history.screen.sources
    history.changedAt

/-- A screen to which something is about to happen, or that has just been started. -/
structure IsReady (history : ScreenHistory) (config : ConnectConfig) (clock : Clock) : Prop where
  isOpen : history.screen.IsOpen
  network_eq : history.screen.network = .perfect
  isClosed_eq : history.screen.presenter.isClosed = false
  jobsDue : ∀ job ∈ history.screen.presenter.jobs, job.due ≤ clock.elapsed
  presenter : history.screen.presenter.IsReady config clock history.screen.sources
    history.changedAt

variable {history : ScreenHistory} {config : ConnectConfig} {clock : Clock}

/-- A screen at rest is ready for what happens within a millisecond. -/
theorem IsOnTime.isReady (h : history.IsOnTime config clock) {time : Nat}
    (hle : clock.elapsed ≤ time) (hsoon : time ≤ clock.elapsed + 1) :
    history.IsReady config (clock.withElapsed time) where
  isOpen := h.isOpen
  network_eq := h.network_eq
  isClosed_eq := h.isClosed_eq
  jobsDue := by
    rw [h.jobs_eq]
    exact nofun
  presenter := Or.inl ⟨clock.elapsed, hle, hsoon, h.presenter⟩

/-- Whatever happens to a screen that is ready, it is on time when it has come to rest. -/
theorem IsReady.settle (h : history.IsReady config clock) {disturbed : Screen}
    (hfollows : history.screen.Follows disturbed)
    (hdue : ∀ job ∈ disturbed.presenter.jobs, job.due ≤ clock.elapsed) :
    (history.settle clock disturbed).IsOnTime config clock := by
  obtain ⟨hopen, hsources⟩ := h.isOpen.of_follows hfollows
  have hsettled := hopen.settle hdue
  obtain ⟨between, p, hfirst, hlast, halike, hpresenter⟩ := hsettled.exists_between
  -- the screen looks twice, and what its requests write in between counts as written now
  have hbetween := (h.presenter.of_publishesAlike hfollows.publishesAlike).react
    (hsources.trans hfirst)
  have hrested := (hbetween.isReady.of_publishesAlike halike).react hlast
  rw [← hpresenter, (hsources.trans hfirst).changedAt_trans hlast] at hrested
  refine ⟨hsettled.isOpen, ?_, ?_, hsettled.jobs_eq, ?_⟩
  · exact (hsettled.network_eq.trans hfollows.network_eq).trans h.network_eq
  · exact (hsettled.isClosed_eq.trans hfollows.isClosed_eq).trans h.isClosed_eq
  · simp only [ScreenHistory.settle, hsettled.isStarted_eq.trans hfollows.isStarted_eq, and_true]
    exact hrested

/-- A millisecond leaves a screen on time. -/
theorem IsOnTime.tick (h : history.IsOnTime config clock) :
    (machine.advance 1 ⟨clock, history⟩).state.IsOnTime config
      (machine.advance 1 ⟨clock, history⟩).clock := by
  rw [Machine.advance_one]
  dsimp only
  split
  · have hready := h.isReady (Nat.le_succ clock.elapsed) (Nat.le_refl _)
    exact hready.settle (.refl _) hready.jobsDue
  · next hnotDue =>
    have hbefore : ∀ due, history.screen.nextDue? = some due → clock.elapsed + 1 < due := by
      intro due hdue
      have hnotYet : ¬ due ≤ clock.elapsed + 1 := by
        intro hle
        refine hnotDue ?_
        rw [show machine.nextDue? history = some due from hdue]
        simpa using hle
      omega
    obtain ⟨feeds, hderived, -⟩ := h.isOpen.feeds
    simp only [Screen.nextDue?, hderived] at hbefore
    have hpresenter := (lt_of_lt_earlier hbefore).2
    have haggregator := (lt_of_lt_earlier (lt_of_lt_earlier hpresenter).1).1
    exact ⟨h.isOpen, h.network_eq, h.isClosed_eq, h.jobs_eq,
      h.presenter.pass (Nat.le_succ _) haggregator⟩

/-- Time that passes leaves a screen on time. -/
theorem IsOnTime.advance (h : history.IsOnTime config clock) (ms : Nat) :
    (machine.advance ms ⟨clock, history⟩).state.IsOnTime config
      (machine.advance ms ⟨clock, history⟩).clock :=
  Machine.advance_preserves_of_tick (P := fun timed => timed.state.IsOnTime config timed.clock)
    (fun _ h => h.tick) ms ⟨clock, history⟩ h

end ScreenHistory

end VpnClient
