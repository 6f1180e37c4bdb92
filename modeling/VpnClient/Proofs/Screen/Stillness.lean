import VpnClient.Proofs.Screen.Published

/-!
# A screen at rest stays at rest

Once all parts of a screen have looked at what was written, another look finds nothing, publishes
nothing and sets no timer anew, until a timer goes off or something is written.  This asks nothing
of the clock: also in leap seconds no timer goes off at the moment at which it is set.

## Main Definitions

* `Feeds.IsStill`, `Presenter.IsStill` — a part that has seen everything and has nothing due
* `Screen.IsLive`, `Screen.IsStill` — a screen whose sources will still be written, and one all
  parts of which are still

## Main Statements

* `Screen.IsStill.react_eq` — in a still screen only the observers read what they have got
* `Screen.IsLive.react` — a screen is still after every reaction
* `Screen.IsStill.pass` — it stays so until it moves by itself
-/

namespace VpnClient

/-- A timer never goes off at once. -/
theorem Clock.lt_of_timerFor? {clock : Clock} {now instant : Instant} {due : Nat}
    (h : clock.timerFor? now instant = some due) : clock.elapsed < due := by
  simp only [timerFor?] at h
  split at h
  · cases h
  · rw [Option.some_inj] at h
    omega

/-- A timer that does not go off is still ahead. -/
theorem isAhead_iff {timer : Option (Nat × Instant)} {elapsed : Nat} :
    (timer.any fun timer => timer.1 ≤ elapsed) = false ↔
      ∀ set, timer = some set → elapsed < set.1 := by
  cases timer with
  | none => simp
  | some set => simp

/-! ## Feeds -/

theorem DerivedSource.react_of_seen {α β : Type} [BEq β] (derive : α → Option β)
    {d : DerivedSource β} {followed : Source α} (hfollowed : followed.isClosed = false)
    (hseen : d.seen = followed.revision) : d.react derive followed = d := by
  simp only [react, hfollowed, hseen, Bool.false_eq_true, if_false, if_true]
  rw [← hseen]
  exact ite_self d

namespace NotificationFeed

variable {feed : NotificationFeed} {clock : Clock} {backend : Backend}

/-- The feed has seen everything, and its timer does not go off yet. -/
structure IsStill (feed : NotificationFeed) (clock : Clock) (backend : Backend) : Prop where
  seen_eq : feed.seen = revisions backend
  ahead : ∀ timer, feed.timer = some timer → clock.elapsed < timer.1

theorem lt_of_nextTimer? {warningDays : Nat} {reached : Option Instant} {timer : Nat × Instant}
    (h : nextTimer? clock warningDays reached backend = some timer) :
    clock.elapsed < timer.1 := by
  simp only [nextTimer?, Option.bind_eq_bind, Option.bind_eq_some_iff] at h
  obtain ⟨boundary, -, due, hdue, htimer⟩ := h
  cases htimer
  exact Clock.lt_of_timerFor? hdue

theorem isStill_launch (clock : Clock) (warningDays : Nat) (backend : Backend) :
    (launch clock warningDays backend).IsStill clock backend :=
  ⟨rfl, fun _ htimer => lt_of_nextTimer? htimer⟩

theorem IsStill.react_eq (h : feed.IsStill clock backend) (hopen : backend.IsOpen) :
    feed.react clock backend = feed := by
  have hcutOff : isCutOff backend = false := by
    simp [isCutOff, hopen.tunnel]
  have hnotDue : feed.isDue clock = false := isAhead_iff.mpr h.ahead
  simp only [react, hnotDue, h.seen_eq, hcutOff, bne_self_eq_false, Bool.or_self, Bool.false_and,
    Bool.false_eq_true, if_false, ite_self]

theorem isStill_react (hlive : feed.output.isClosed = false) (hopen : backend.IsOpen) :
    (feed.react clock backend).IsStill clock backend := by
  have hcutOff : isCutOff backend = false := by
    simp [isCutOff, hopen.tunnel]
  rw [react_of_open hlive, hcutOff, Bool.false_and, if_neg Bool.false_ne_true, look]
  split
  · exact ⟨rfl, fun _ htimer => lt_of_nextTimer? htimer⟩
  · next hquiet =>
    rw [Bool.or_eq_true, not_or, Bool.not_eq_true, bne_iff_ne, not_not] at hquiet
    exact ⟨hquiet.2, isAhead_iff.mp hquiet.1⟩

end NotificationFeed

namespace Feeds

variable {feeds : Feeds} {clock : Clock} {backend : Backend}

/-- None of the feeds has come to its end. -/
structure IsLive (feeds : Feeds) : Prop extends feeds.IsOpen where
  notifications : feeds.notifications.output.isClosed = false

/-- The feeds have seen everything, and no timer goes off yet. -/
structure IsStill (feeds : Feeds) (clock : Clock) (backend : Backend) : Prop where
  title_seen : feeds.title.seen = backend.selection.revision
  lastKnown_seen : feeds.lastKnown.seen = backend.tunnel.revision
  notifications : feeds.notifications.IsStill clock backend

theorem isStill_launch (clock : Clock) (warningDays : Nat) (backend : Backend) :
    (launch clock warningDays backend).IsStill clock backend :=
  ⟨rfl, rfl, NotificationFeed.isStill_launch clock warningDays backend⟩

theorem IsStill.react_eq (h : feeds.IsStill clock backend) (hopen : backend.IsOpen) :
    feeds.react clock backend = feeds := by
  simp only [react, DerivedSource.react_of_seen _ hopen.selection h.title_seen,
    DerivedSource.react_of_seen _ hopen.tunnel h.lastKnown_seen, h.notifications.react_eq hopen]

theorem IsLive.react (h : feeds.IsLive) (clock : Clock) (hopen : backend.IsOpen) :
    (feeds.react clock backend).IsLive ∧ (feeds.react clock backend).IsStill clock backend := by
  have hlater := h.toIsOpen.later_react clock hopen
  refine ⟨⟨h.toIsOpen.of_later hlater, ?_⟩, ?_⟩
  · exact hlater.notifications.isClosed_eq.trans h.notifications
  · exact ⟨DerivedSource.react_seen _ h.title hopen.selection,
      DerivedSource.react_seen _ h.lastKnown hopen.tunnel,
      NotificationFeed.isStill_react h.notifications hopen⟩

end Feeds

/-! ## The tasks of a presenter -/

namespace Aggregator

variable {a : Aggregator} {clock : Clock} {sources : ScreenSources}

/-- The aggregation has seen everything, and what it holds back is not due yet. -/
structure IsStill (a : Aggregator) (clock : Clock) (sources : ScreenSources) : Prop where
  seen_eq : a.seen = some sources.revisions
  ahead : ∀ due, a.nextDue? = some due → clock.elapsed < due

theorem publish_of_ahead (h : ∀ due, a.nextDue? = some due → clock.elapsed < due) :
    a.publish clock = (none, a) := by
  obtain ⟨⟨window, pending⟩, seen⟩ := a
  cases pending with
  | none => rfl
  | some held => exact publish_waiting (h held.1 rfl)

theorem IsStill.react_eq (h : a.IsStill clock sources) (isPlayBuild : Bool) :
    a.react clock isPlayBuild sources = ([], a) :=
  react_of_none isPlayBuild (congrArg Prod.fst (publish_of_ahead h.ahead)) h.seen_eq

/-- What is held back after a state has been published is not due. -/
theorem ahead_publish (a : Aggregator) (clock : Clock) :
    ∀ due, (a.publish clock).2.nextDue? = some due → clock.elapsed < due := by
  obtain ⟨⟨window, pending⟩, seen⟩ := a
  intro due hdue
  cases pending with
  | none => cases hdue
  | some held =>
      obtain ⟨time, state⟩ := held
      by_cases hover : time ≤ clock.elapsed
      · rw [publish_due hover] at hdue
        cases hdue
      · rw [publish_waiting (Nat.lt_of_not_le hover)] at hdue
        cases hdue
        exact Nat.lt_of_not_le hover

theorem isStill_react (a : Aggregator) (clock : Clock) (isPlayBuild : Bool)
    (sources : ScreenSources) : (a.react clock isPlayBuild sources).2.IsStill clock sources where
  seen_eq := look_seen _ clock isPlayBuild sources
  ahead := ahead_publish _ clock

end Aggregator

namespace OutOfTimeWatch

variable {w : OutOfTimeWatch} {clock : Clock} {account : Source (Option Account)}
  {tunnel : Source TunnelState}

/-- The watch has seen everything, and its timer does not go off yet. -/
structure IsStill (w : OutOfTimeWatch) (clock : Clock) (account : Source (Option Account))
    (tunnel : Source TunnelState) : Prop where
  seen_eq : w.seen = some (account.revision, tunnel.revision)
  ahead : ∀ timer, w.timer = some timer → clock.elapsed < timer.1

theorem IsStill.react_eq (h : w.IsStill clock account tunnel) :
    w.react clock account tunnel = (false, w) := by
  have hnotDue : w.isDue clock = false := isAhead_iff.mpr h.ahead
  simp only [react, hnotDue, h.seen_eq, bne_self_eq_false, Bool.or_self, Bool.false_eq_true,
    if_false]

theorem isStill_react (w : OutOfTimeWatch) (clock : Clock) (account : Source (Option Account))
    (tunnel : Source TunnelState) :
    (w.react clock account tunnel).2.IsStill clock account tunnel := by
  unfold react
  split
  · refine ⟨rfl, ?_⟩
    intro timer htimer
    obtain ⟨-, hset⟩ := Option.ite_none_left_eq_some.mp htimer
    simp only [nextTimer?, Option.bind_eq_bind, Option.bind_eq_some_iff] at hset
    obtain ⟨account, -, due, hdue, htimer⟩ := hset
    cases htimer
    exact Clock.lt_of_timerFor? hdue
  · next hquiet =>
    rw [Bool.or_eq_true, not_or, Bool.not_eq_true, bne_iff_ne, not_not] at hquiet
    exact ⟨hquiet.2, isAhead_iff.mp hquiet.1⟩

end OutOfTimeWatch

namespace RevokedWatch

variable {w : RevokedWatch} {device : Source DeviceState}

theorem react_of_seen (h : w.seen = some device.revision) : w.react device = (false, w) :=
  if_pos h

theorem react_seen (w : RevokedWatch) (device : Source DeviceState) :
    (w.react device).2.seen = some device.revision := by
  unfold react
  split
  · next hseen => exact hseen
  · rfl

end RevokedWatch

namespace Presenter

variable {p : Presenter} {clock : Clock} {sources : ScreenSources}

/-- All tasks of the presenter have seen everything, and none has anything due. -/
structure IsStill (p : Presenter) (clock : Clock) (sources : ScreenSources) : Prop where
  aggregator : ∀ a, p.aggregator = some a → a.IsStill clock sources
  outOfTime : ∀ w, p.outOfTime = some w → w.IsStill clock sources.account sources.tunnel
  revoked_seen : ∀ w, p.revoked = some w → w.seen = some sources.device.revision

theorem IsStill.publishDue_eq (h : p.IsStill clock sources) : p.publishDue clock = p := by
  unfold publishDue
  split
  · rfl
  · next a ha => rw [Aggregator.publish_of_ahead (h.aggregator a ha).ahead]

theorem IsStill.reactAggregator_eq (h : p.IsStill clock sources) :
    p.reactAggregator clock sources = p := by
  unfold reactAggregator
  split
  · rfl
  · next a ha =>
    rw [(h.aggregator a ha).react_eq p.isPlayBuild]
    simp only [List.foldl_nil, ← ha]

/-- A watch that finds nothing, and is after its look what it was, leaves no trace. -/
theorem lookOut_of_quiet {ω : Type} {watch : Option ω} {look : ω → Bool × ω}
    {keep : ω → Presenter} (hquiet : ∀ w, watch = some w → look w = (false, w) ∧ keep w = p)
    (effect : Effect) : p.lookOut clock effect watch look keep = p := by
  unfold lookOut
  split
  · rfl
  · next w =>
    obtain ⟨hlook, hkeep⟩ := hquiet w rfl
    rw [hlook]
    exact hkeep

theorem IsStill.reactOutOfTime_eq (h : p.IsStill clock sources) :
    p.reactOutOfTime clock sources = p := by
  refine lookOut_of_quiet (fun w hw => ⟨(h.outOfTime w hw).react_eq, ?_⟩) .outOfTime
  simp only [← hw]

theorem IsStill.reactRevoked_eq (h : p.IsStill clock sources) :
    p.reactRevoked clock sources = p := by
  refine lookOut_of_quiet
    (fun w hw => ⟨RevokedWatch.react_of_seen (h.revoked_seen w hw), ?_⟩) .revokedDevice
  simp only [← hw]

/-- A still presenter does nothing, but its observers read what they have got. -/
theorem IsStill.react_eq (h : p.IsStill clock sources) :
    p.react clock sources = { p with hub := p.hub.drained } := by
  simp only [react, h.reactAggregator_eq, h.reactOutOfTime_eq, h.reactRevoked_eq]

/-! ### What a reaction makes of the tasks -/

/-- Two presenters whose watches, effects and observers are the same. -/
structure WatchesAlike (p q : Presenter) : Prop where
  accountPage_eq : q.accountPage = p.accountPage
  hub_eq : q.hub = p.hub
  outOfTime_eq : q.outOfTime = p.outOfTime
  revoked_eq : q.revoked = p.revoked
  delivered_eq : q.delivered = p.delivered

theorem watchesAlike_reactAggregator (p : Presenter) (clock : Clock) (sources : ScreenSources) :
    p.WatchesAlike (p.reactAggregator clock sources) := by
  cases ha : p.aggregator with
  | none =>
      rw [reactAggregator, ha]
      exact ⟨rfl, rfl, rfl, rfl, rfl⟩
  | some a =>
      rw [Presenter.reactAggregator_eq ha]
      exact ⟨rfl, rfl, rfl, rfl, rfl⟩

theorem watchesAlike_publishDue (p : Presenter) (clock : Clock) :
    p.WatchesAlike (p.publishDue clock) := by
  rw [publishDue]
  split
  · exact ⟨rfl, rfl, rfl, rfl, rfl⟩
  · split
    · exact ⟨rfl, rfl, rfl, rfl, rfl⟩
    · exact ⟨rfl, rfl, rfl, rfl, rfl⟩

/-- Whether the watch finds that the account has run out of time. -/
def findsOutOfTime (p : Presenter) (clock : Clock) (sources : ScreenSources) : Bool :=
  p.outOfTime.any fun w => (w.react clock sources.account sources.tunnel).1

/-- Whether the watch finds that the device has been revoked. -/
def findsRevoked (p : Presenter) (sources : ScreenSources) : Bool :=
  p.revoked.any fun w => (w.react sources.device).1

/-- What a watch finds is sent, and then the watch is put back: `put` is where the presenter keeps
it, which no effect touches. -/
theorem lookOut_eq {ω : Type} {p : Presenter} {clock : Clock} {effect : Effect} {watch : Option ω}
    (put : Presenter → Option ω → Presenter) (hput : put p watch = p)
    (hsend : ∀ w, (put p w).send clock effect = put (p.send clock effect) w)
    (look : ω → Bool × ω) :
    p.lookOut clock effect watch look (fun w => put p (some w)) =
      put (p.sendIf clock (watch.any fun w => (look w).1) effect)
        (watch.map fun w => (look w).2) := by
  cases watch with
  | none => exact hput.symm
  | some w =>
      simp only [lookOut, sendIf, Option.any_some, Option.map_some]
      split
      · exact hsend _
      · rfl

theorem reactOutOfTime_eq (p : Presenter) (clock : Clock) (sources : ScreenSources) :
    p.reactOutOfTime clock sources =
      { p.sendIf clock (p.findsOutOfTime clock sources) .outOfTime with
        outOfTime := p.outOfTime.map fun w =>
          (w.react clock sources.account sources.tunnel).2 } :=
  lookOut_eq (fun p w => { p with outOfTime := w }) rfl (fun _ => rfl) _

theorem reactRevoked_eq (p : Presenter) (clock : Clock) (sources : ScreenSources) :
    p.reactRevoked clock sources =
      { p.sendIf clock (p.findsRevoked sources) .revokedDevice with
        revoked := p.revoked.map fun w => (w.react sources.device).2 } :=
  lookOut_eq (fun p w => { p with revoked := w }) rfl (fun _ => rfl) _

@[simp]
theorem sendIf_revoked (p : Presenter) (clock : Clock) (reason : Bool) (effect : Effect) :
    (p.sendIf clock reason effect).revoked = p.revoked := by
  unfold sendIf
  split <;> rfl

@[simp]
theorem sendIf_accountPage (p : Presenter) (clock : Clock) (reason : Bool) (effect : Effect) :
    (p.sendIf clock reason effect).accountPage = p.accountPage := by
  unfold sendIf
  split <;> rfl

/-- A reaction sends what the watches find, and all tasks have looked then. -/
theorem react_eq (p : Presenter) (clock : Clock) (sources : ScreenSources) :
    p.react clock sources =
      let sent := ((p.reactAggregator clock sources).sendIf clock
        (p.findsOutOfTime clock sources) .outOfTime).sendIf clock
          (p.findsRevoked sources) .revokedDevice
      { sent with
        hub := sent.hub.drained
        outOfTime := p.outOfTime.map fun w => (w.react clock sources.account sources.tunnel).2
        revoked := p.revoked.map fun w => (w.react sources.device).2 } := by
  have halike := p.watchesAlike_reactAggregator clock sources
  have houtOfTime : (p.reactAggregator clock sources).findsOutOfTime clock sources =
      p.findsOutOfTime clock sources := by
    unfold findsOutOfTime
    rw [halike.outOfTime_eq]
  have hrevoked : ((p.reactAggregator clock sources).reactOutOfTime clock sources).revoked =
      p.revoked := by
    rw [reactOutOfTime_eq]
    exact (sendIf_revoked _ clock _ _).trans halike.revoked_eq
  have hfinds : ((p.reactAggregator clock sources).reactOutOfTime clock sources).findsRevoked
      sources = p.findsRevoked sources := by
    unfold findsRevoked
    rw [hrevoked]
  rw [react, reactRevoked_eq, hfinds, hrevoked, reactOutOfTime_eq, houtOfTime,
    halike.outOfTime_eq]
  -- a watch that has looked is put in its place before or after the effect is sent
  cases p.findsOutOfTime clock sources <;> cases p.findsRevoked sources <;> rfl

@[simp]
theorem react_accountPage (p : Presenter) (clock : Clock) (sources : ScreenSources) :
    (p.react clock sources).accountPage = p.accountPage := by
  rw [react_eq]
  dsimp only
  rw [sendIf_accountPage, sendIf_accountPage]
  exact (p.watchesAlike_reactAggregator clock sources).accountPage_eq

theorem react_outOfTime (p : Presenter) (clock : Clock) (sources : ScreenSources) :
    (p.react clock sources).outOfTime =
      p.outOfTime.map fun w => (w.react clock sources.account sources.tunnel).2 := by
  rw [react_eq]

theorem react_revoked (p : Presenter) (clock : Clock) (sources : ScreenSources) :
    (p.react clock sources).revoked = p.revoked.map fun w => (w.react sources.device).2 := by
  rw [react_eq]

/-- What a reaction makes of the aggregation. -/
theorem react_aggregator (p : Presenter) (clock : Clock) (sources : ScreenSources) :
    (p.react clock sources).aggregator =
      p.aggregator.map fun a => (a.react clock p.isPlayBuild sources).2 := by
  rw [(agrees_react p clock sources).aggregator_eq]
  cases ha : p.aggregator with
  | none => simp only [reactAggregator, ha, Option.map_none]
  | some a => rw [Presenter.reactAggregator_eq ha, Option.map_some]

/-- A presenter is still after every reaction. -/
theorem isStill_react (p : Presenter) (clock : Clock) (sources : ScreenSources) :
    (p.react clock sources).IsStill clock sources where
  aggregator := by
    intro a ha
    rw [react_aggregator] at ha
    obtain ⟨before, -, rfl⟩ := Option.map_eq_some_iff.mp ha
    exact before.isStill_react clock p.isPlayBuild sources
  outOfTime := by
    intro w hw
    rw [react_outOfTime] at hw
    obtain ⟨before, -, rfl⟩ := Option.map_eq_some_iff.mp hw
    exact before.isStill_react clock sources.account sources.tunnel
  revoked_seen := by
    intro w hw
    rw [react_revoked] at hw
    obtain ⟨before, -, rfl⟩ := Option.map_eq_some_iff.mp hw
    exact before.react_seen sources.device

/-- A still presenter stays so until one of its tasks moves by itself. -/
theorem IsStill.pass {p : Presenter} {clock : Clock} {sources : ScreenSources}
    (h : p.IsStill clock sources) {time : Nat}
    (hbefore : ∀ due, p.nextDue? = some due → time < due) :
    p.IsStill (clock.withElapsed time) sources := by
  obtain ⟨haggregator, houtOfTime⟩ := lt_of_lt_earlier (lt_of_lt_earlier hbefore).1
  refine ⟨?_, ?_, h.revoked_seen⟩
  · intro a ha
    refine ⟨(h.aggregator a ha).seen_eq, fun due hdue => haggregator due ?_⟩
    rw [ha]
    exact hdue
  · intro w hw
    refine ⟨(h.outOfTime w hw).seen_eq, fun timer htimer => houtOfTime timer.1 ?_⟩
    rw [hw]
    exact Option.map_eq_some_iff.mpr ⟨timer, htimer, rfl⟩

end Presenter

/-! ## The screen -/

namespace Screen

variable {screen : Screen} {clock : Clock}

/-- A screen with derived sources, none of which has come to its end. -/
structure IsLive (screen : Screen) : Prop where
  backend : screen.backend.IsOpen
  feeds : ∃ feeds, screen.supply = .derived feeds ∧ feeds.IsLive

/-- All parts of a screen have seen everything, and none has anything due. -/
structure IsStill (screen : Screen) (clock : Clock) : Prop where
  feeds : ∀ feeds, screen.supply = .derived feeds → feeds.IsStill clock screen.backend
  presenter : screen.presenter.IsStill clock screen.sources

/-- In a still screen only the observers read what they have got. -/
theorem IsStill.react_eq (h : screen.IsStill clock) (hlive : screen.IsLive) :
    screen.react clock = { screen with
      presenter := { screen.presenter with hub := screen.presenter.hub.drained } } := by
  obtain ⟨feeds, hsupply, -⟩ := hlive.feeds
  have hfeeds := (h.feeds feeds hsupply).react_eq hlive.backend
  have hpublish := screen.publishDue_eq clock
  rw [h.presenter.publishDue_eq] at hpublish
  have hpresenter := h.presenter.react_eq
  rw [sources_of_derived hsupply] at hpresenter
  rw [react_of_derived hsupply hpublish, hfeeds, hpresenter, ← hsupply]

/-- A reaction leaves a screen that is alive alive and still. -/
theorem IsLive.react (h : screen.IsLive) (clock : Clock) :
    (screen.react clock).IsLive ∧ (screen.react clock).IsStill clock := by
  obtain ⟨feeds, hsupply, hfeeds⟩ := h.feeds
  obtain ⟨hlive, hstill⟩ := hfeeds.react clock h.backend
  rw [react_of_derived hsupply (screen.publishDue_eq clock)]
  refine ⟨⟨h.backend, _, rfl, hlive⟩, ?_, Presenter.isStill_react _ clock _⟩
  intro feeds' hsupply'
  cases hsupply'
  exact hstill

/-- Requests do not bring a source to its end. -/
theorem IsLive.runJobs (h : screen.IsLive) (clock : Clock) : (screen.runJobs clock).IsLive := by
  have hlater : screen.backend.Later (screen.runJobs clock).backend :=
    (Presenter.agrees_runAll clock screen.network _ _ screen.backend).2.1
  exact ⟨h.backend.of_later hlater, h.feeds⟩

/-- A still screen stays so until it moves by itself. -/
theorem IsStill.pass (h : screen.IsStill clock) (hlive : screen.IsLive) {time : Nat}
    (hbefore : ∀ due, screen.nextDue? = some due → time < due) :
    screen.IsStill (clock.withElapsed time) := by
  obtain ⟨feeds, hsupply, hfeeds⟩ := hlive.feeds
  simp only [nextDue?, hsupply] at hbefore
  obtain ⟨htimer, hpresenter⟩ := lt_of_lt_earlier hbefore
  refine ⟨?_, h.presenter.pass hpresenter⟩
  intro feeds' hsupply'
  cases hsupply.symm.trans hsupply'
  obtain ⟨htitle, hlastKnown, hnotifications⟩ := h.feeds feeds hsupply
  refine ⟨htitle, hlastKnown, hnotifications.seen_eq, fun timer hset => htimer timer.1 ?_⟩
  rw [Feeds.nextDue?, hfeeds.notifications, if_neg Bool.false_ne_true]
  exact Option.map_eq_some_iff.mpr ⟨timer, hset, rfl⟩

end Screen

end VpnClient
