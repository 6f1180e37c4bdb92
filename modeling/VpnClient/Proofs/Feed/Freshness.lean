import VpnClient.Proofs.Feed.Notifications
import VpnClient.Proofs.Time.Moments

/-!
# The notices are never stale

The notices follow from four sources and from the time.  Whatever happens to the sources, at every
moment of a run the feed holds the notices that apply at that moment, and it tells its subscribers
whenever these have changed and at no other moment.

## Main Definitions

* `NotificationSourceEvent`, `Backend.afterAll` — what can happen to the sources of the notices
* `NotificationFeed.IsFresh` — the feed is current, or has ended and will not have to change again
* `Feeds.KeepsFresh` — what a run of the feeds has to do with the notices that apply

## Main Statements

* `NotificationFeed.IsFresh.react` — a fresh feed stays fresh, and tells of the notices that are new
* `Feeds.notices_fresh` — in every run the notices are fresh
-/

namespace VpnClient

/-- What can happen to the sources of the notices. -/
inductive NotificationSourceEvent where
  | tunnel (event : SourceEvent TunnelState)
  | account (event : SourceEvent (Option Account))
  | newDevice (event : SourceEvent (Option String))
  | version (event : SourceEvent Version)

/-- The account gets a regular expiry if it gets one. -/
def NotificationSourceEvent.IsRegular : NotificationSourceEvent → Prop
  | .account event => event.IsRegular
  | _ => True

instance NotificationSourceEvent.decidableIsRegular :
    (event : NotificationSourceEvent) → Decidable event.IsRegular
  | .account event => inferInstanceAs (Decidable event.IsRegular)
  | .tunnel _ | .newDevice _ | .version _ => .isTrue trivial

namespace Backend

variable {b c d : Backend}

/-- A backend after something has happened to one of the sources of the notices. -/
def after (backend : Backend) : NotificationSourceEvent → Backend
  | .tunnel event => { backend with tunnel := backend.tunnel.after event }
  | .account event => { backend with account := backend.account.after event }
  | .newDevice event => { backend with newDevice := backend.newDevice.after event }
  | .version event => { backend with version := backend.version.after event }

/-- A backend after some events. -/
def afterAll (backend : Backend) (events : List NotificationSourceEvent) : Backend :=
  events.foldl after backend

theorem NoticesBecome.refl (b : Backend) : b.NoticesBecome b :=
  ⟨.refl _, .refl _, .refl _, .refl _⟩

theorem NoticesBecome.trans (h₁ : b.NoticesBecome c) (h₂ : c.NoticesBecome d) :
    b.NoticesBecome d where
  tunnel := h₁.tunnel.trans h₂.tunnel
  account := h₁.account.trans h₂.account
  newDevice := h₁.newDevice.trans h₂.newDevice
  version := h₁.version.trans h₂.version

theorem noticesBecome_after (b : Backend) (event : NotificationSourceEvent) :
    b.NoticesBecome (b.after event) := by
  cases event with
  | tunnel event => exact ⟨b.tunnel.becomes_after event, .refl _, .refl _, .refl _⟩
  | account event => exact ⟨.refl _, b.account.becomes_after event, .refl _, .refl _⟩
  | newDevice event => exact ⟨.refl _, .refl _, b.newDevice.becomes_after event, .refl _⟩
  | version event => exact ⟨.refl _, .refl _, .refl _, b.version.becomes_after event⟩

theorem noticesBecome_afterAll (b : Backend) (events : List NotificationSourceEvent) :
    b.NoticesBecome (b.afterAll events) := by
  refine List.foldlRecOn (motive := b.NoticesBecome) events after (.refl b) ?_
  intro later hlater event _
  exact hlater.trans (later.noticesBecome_after event)

theorem HasRegularExpiry.afterAll (h : b.HasRegularExpiry) (events : List NotificationSourceEvent)
    (hevents : ∀ event ∈ events, event.IsRegular) : (b.afterAll events).HasRegularExpiry := by
  refine List.foldlRecOn (motive := Backend.HasRegularExpiry) events Backend.after h ?_
  intro later hlater event hmem
  have hevent : event.IsRegular := hevents event hmem
  cases event with
  | tunnel | newDevice | version => exact hlater
  | account event => exact Source.HasRegularExpiry.after hlater hevent

/-- Nothing happens any more to a backend of which all these sources are closed. -/
theorem afterAll_of_isCutOff (h : NotificationFeed.isCutOff b = true)
    (events : List NotificationSourceEvent) : b.afterAll events = b := by
  simp only [NotificationFeed.isCutOff, Bool.and_eq_true] at h
  obtain ⟨⟨⟨htunnel, haccount⟩, hnewDevice⟩, hversion⟩ := h
  refine List.foldlRecOn (motive := fun later => later = b) events after rfl ?_
  rintro later rfl event _
  cases event with
  | tunnel event => simp only [after, Source.after_of_isClosed htunnel]
  | account event => simp only [after, Source.after_of_isClosed haccount]
  | newDevice event => simp only [after, Source.after_of_isClosed hnewDevice]
  | version event => simp only [after, Source.after_of_isClosed hversion]

end Backend

/-! ## The feed -/

theorem Source.update_revision {α : Type} [BEq α] [LawfulBEq α] [DecidableEq α] (s : Source α)
    (value : α) :
    (s.update value).revision = if value = s.value then s.revision else s.revision + 1 := by
  unfold update
  by_cases hsame : value = s.value
  · rw [if_pos hsame, if_pos (beq_iff_eq.mpr hsame.symm)]
  · rw [if_neg hsame, if_neg (fun heq => hsame (beq_iff_eq.mp heq).symm)]
    rfl

namespace NotificationFeed

/-- A feed has ended with the sources it follows, and neither they nor the time will call for other
notices than it holds. -/
structure HasEnded (feed : NotificationFeed) (clock : Clock) (backend : Backend) : Prop where
  isClosed : feed.output.isClosed = true
  isCutOff : isCutOff backend = true
  value_eq : feed.output.value = backend.notificationInputs.current feed.warningDays clock.now
  nextBoundary_eq : backend.notificationInputs.nextBoundary? feed.warningDays clock.now = none

/-- A feed is current or has ended. -/
def IsFresh (feed : NotificationFeed) (clock : Clock) (backend : Backend) : Prop :=
  feed.IsCurrent clock backend ∨ feed.HasEnded clock backend

variable {feed : NotificationFeed} {clock : Clock} {backend backend' : Backend}

theorem look_warningDays (feed : NotificationFeed) (clock : Clock) (backend : Backend) :
    (feed.look clock backend).warningDays = feed.warningDays := by
  unfold look
  split <;> rfl

/-- A look writes the output at most, and only what is new. -/
theorem exists_look (feed : NotificationFeed) (clock : Clock) (backend : Backend) :
    ∃ notices, (feed.look clock backend).output = feed.output.update notices := by
  unfold look
  split
  · exact ⟨_, rfl⟩
  · refine ⟨feed.output.value, ?_⟩
    rw [Source.update, if_pos (beq_self_eq_true _)]

/-- The end of a feed is final: there is no boundary that could still be reached. -/
theorem HasEnded.pass (h : feed.HasEnded clock backend) (hclock : clock.AgreesWithTimers)
    {time : Nat} (htime : clock.elapsed ≤ time) :
    feed.HasEnded (clock.withElapsed time) backend := by
  have hle : clock.now ≤ (clock.withElapsed time).now :=
    hclock.le_now_mono htime (Instant.le_refl _)
  have hbefore : ∀ b,
      backend.notificationInputs.nextBoundary? feed.warningDays clock.now = some b →
        (clock.withElapsed time).now < b := by
    intro b hb
    cases h.nextBoundary_eq.symm.trans hb
  obtain ⟨hboundary, hcurrent⟩ :=
    NotificationInputs.current_eq_of_before_boundary hle hbefore
  exact ⟨h.isClosed, h.isCutOff, h.value_eq.trans hcurrent.symm,
    hboundary.trans h.nextBoundary_eq⟩

namespace IsFresh

theorem value_eq (h : feed.IsFresh clock backend) :
    feed.output.value = backend.notificationInputs.current feed.warningDays clock.now := by
  rcases h with hcurrent | hended
  · exact hcurrent.value_eq
  · exact hended.value_eq

/-- A fresh feed stays fresh when it reacts, and writes its output if other notices apply than
before. -/
theorem react (h : feed.IsFresh clock backend) (hclock : clock.AgreesWithTimers)
    (hbackend : backend.HasRegularExpiry) (hbecomes : backend.NoticesBecome backend')
    (hkept : isCutOff backend = true → backend' = backend) (hbackend' : backend'.HasRegularExpiry)
    {time : Nat} (htime : clock.elapsed ≤ time) :
    (feed.react (clock.withElapsed time) backend').IsFresh (clock.withElapsed time) backend' ∧
      (feed.react (clock.withElapsed time) backend').output.revision =
        (feed.output.update (backend'.notificationInputs.current feed.warningDays
          (clock.withElapsed time).now)).revision := by
  rcases h with hcurrent | hended
  · have hlooked := hcurrent.look hclock hbackend hbecomes hbackend' htime
    -- what the look has written is what applies now
    obtain ⟨notices, houtput⟩ := exists_look feed (clock.withElapsed time) backend'
    have hnotices : notices = backend'.notificationInputs.current feed.warningDays
        (clock.withElapsed time).now := by
      have hvalue := hlooked.value_eq
      rwa [houtput, Source.update_value_of_lawful, look_warningDays] at hvalue
    subst hnotices
    have hrevision := congrArg Source.revision houtput
    rw [react_of_open hcurrent.isOpen]
    split
    · next hends =>
      obtain ⟨hcutOff, hnoTimer⟩ := Bool.and_eq_true_iff.mp hends
      refine ⟨Or.inr ⟨rfl, hcutOff, hlooked.value_eq, ?_⟩, hrevision⟩
      -- a feed without a timer has no boundary to wait for
      cases hboundary : backend'.notificationInputs.nextBoundary?
          (feed.look (clock.withElapsed time) backend').warningDays
          (clock.withElapsed time).now with
      | none => rfl
      | some b =>
          obtain ⟨due, htimer, -⟩ := hlooked.timer_eq_some b hboundary
          rw [htimer] at hnoTimer
          cases hnoTimer
    · exact ⟨Or.inl hlooked, hrevision⟩
  · obtain rfl : backend' = backend := hkept hended.isCutOff
    have hstays : feed.react (clock.withElapsed time) backend' = feed := by
      rw [NotificationFeed.react, if_pos hended.isClosed]
    have hlater := hended.pass hclock htime
    rw [hstays, ← hlater.value_eq]
    refine ⟨Or.inr hlater, ?_⟩
    rw [Source.update, if_pos (beq_self_eq_true _)]

end IsFresh

end NotificationFeed

/-! ## Runs -/

/-- A backend whose sources have been through some events that its feeds have not looked at yet. -/
def FedBackend.follow (events : List NotificationSourceEvent) (s : FedBackend) : FedBackend :=
  { s with backend := s.backend.afterAll events }

namespace Timed

/-- The notices that the feed of a backend holds. -/
def notices (timed : Timed FedBackend) : Source (List Notification) :=
  timed.state.feeds.notifications.output

/-- The notices that apply at a moment of a run. -/
def applyingNotices (warningDays : Nat) (timed : Timed FedBackend) : List Notification :=
  timed.state.backend.notificationInputs.current warningDays timed.clock.now

end Timed

/-- Between two moments the subscribers of the notices are told once if other notices apply than
before, and else they are not. -/
def FedBackend.TellsNew (warningDays : Nat) (before after : Timed FedBackend) : Prop :=
  after.notices.revision =
    if after.applyingNotices warningDays = before.applyingNotices warningDays then
      before.notices.revision
    else before.notices.revision + 1

/-- In a run of feeds from their launch on, the notices at each moment are those that apply, and the
subscribers are told whenever these have changed and at no other moment. -/
structure Feeds.KeepsFresh (warningDays : Nat) (moments : List (Timed FedBackend)) : Prop where
  value_eq : ∀ m ∈ moments, m.notices.value = m.applyingNotices warningDays
  tells : moments.IsChain (FedBackend.TellsNew warningDays)

namespace FedBackend

/-- The notices of a backend are fresh, and its account has a regular expiry. -/
structure IsFresh (warningDays : Nat) (timed : Timed FedBackend) : Prop where
  clock_agrees : timed.clock.AgreesWithTimers
  expiry_regular : timed.state.backend.HasRegularExpiry
  warningDays_eq : timed.state.feeds.notifications.warningDays = warningDays
  notifications : timed.state.feeds.notifications.IsFresh timed.clock timed.state.backend

namespace IsFresh

variable {warningDays : Nat} {timed : Timed FedBackend}

theorem value_eq (h : IsFresh warningDays timed) :
    timed.notices.value = timed.applyingNotices warningDays := by
  have hvalue := h.notifications.value_eq
  rwa [h.warningDays_eq] at hvalue

/-- The notices are fresh again when the feeds have reacted. -/
theorem settle (h : IsFresh warningDays timed) (backend : Backend)
    (hbecomes : timed.state.backend.NoticesBecome backend)
    (hkept : NotificationFeed.isCutOff timed.state.backend = true → backend = timed.state.backend)
    (hregular : backend.HasRegularExpiry) {time : Nat} (htime : timed.clock.elapsed ≤ time) :
    let after : Timed FedBackend :=
      ⟨timed.clock.withElapsed time, Feeds.machine.settle (timed.clock.withElapsed time)
        { timed.state with backend := backend }⟩
    IsFresh warningDays after ∧ TellsNew warningDays timed after := by
  intro after
  obtain ⟨hfresh, hrevision⟩ := h.notifications.react h.clock_agrees h.expiry_regular hbecomes hkept
    hregular htime
  rw [h.warningDays_eq] at hrevision
  constructor
  · exact ⟨h.clock_agrees.withElapsed time, hregular,
      (NotificationFeed.react_warningDays _ _ _).trans h.warningDays_eq, hfresh⟩
  · unfold TellsNew
    rw [← h.value_eq, ← Source.update_revision]
    exact hrevision

/-- What happens to the sources is looked at. -/
theorem act (h : IsFresh warningDays timed) {events : List NotificationSourceEvent}
    (hevents : ∀ event ∈ events, event.IsRegular) :
    IsFresh warningDays (Feeds.machine.act (follow events) timed) ∧
      TellsNew warningDays timed (Feeds.machine.act (follow events) timed) :=
  h.settle (timed.state.backend.afterAll events)
    (timed.state.backend.noticesBecome_afterAll events)
    (fun hcutOff => Backend.afterAll_of_isCutOff hcutOff events)
    (h.expiry_regular.afterAll events hevents) (Nat.le_refl timed.clock.elapsed)

/-- In a millisecond the clock may reach a boundary, and then the feed looks again. -/
theorem tick (h : IsFresh warningDays timed) :
    IsFresh warningDays (Feeds.machine.advance 1 timed) ∧
      TellsNew warningDays timed (Feeds.machine.advance 1 timed) := by
  have htime : timed.clock.elapsed ≤ timed.clock.elapsed + 1 := Nat.le_succ _
  rw [Machine.advance_one]
  split
  · exact h.settle timed.state.backend (.refl _) (fun _ => rfl) h.expiry_regular htime
  · next hnotDue =>
    have hfresh : timed.state.feeds.notifications.IsFresh
        (timed.clock.withElapsed (timed.clock.elapsed + 1)) timed.state.backend := by
      rcases h.notifications with hcurrent | hended
      · refine Or.inl (hcurrent.pass h.clock_agrees htime ?_)
        intro timer htimer
        have hdue : Feeds.machine.nextDue? timed.state = some timer.1 := by
          show (if timed.state.feeds.notifications.output.isClosed then none
            else timed.state.feeds.notifications.timer.map (·.1)) = _
          rw [hcurrent.isOpen, htimer]
          rfl
        rw [hdue, Option.any_some, decide_eq_true_eq] at hnotDue
        exact Nat.lt_of_not_le hnotDue
      · exact Or.inr (hended.pass h.clock_agrees htime)
    have hlater : IsFresh warningDays
        ⟨timed.clock.withElapsed (timed.clock.elapsed + 1), timed.state⟩ :=
      ⟨h.clock_agrees.withElapsed _, h.expiry_regular, h.warningDays_eq, hfresh⟩
    refine ⟨hlater, ?_⟩
    unfold TellsNew
    rw [← h.value_eq, ← hlater.value_eq]
    exact (if_pos rfl).symm

end IsFresh

/-- The notices are fresh at the launch of the feeds. -/
theorem isFresh_launch (warningDays : Nat) {clock : Clock} (hclock : clock.AgreesWithTimers)
    {backend : Backend} (hbackend : backend.HasRegularExpiry) :
    IsFresh warningDays ⟨clock, backend, .launch clock warningDays backend⟩ where
  clock_agrees := hclock
  expiry_regular := hbackend
  warningDays_eq := rfl
  notifications := Or.inl (NotificationFeed.isCurrent_launch hclock hbackend warningDays)

end FedBackend

/-- In every run of the feeds in which the clock agrees with the timers, and no account runs out of
time in a leap second, the notices are fresh at every moment, whatever becomes of their sources. -/
theorem Feeds.notices_fresh (warningDays : Nat) (clock : Clock) (hclock : clock.AgreesWithTimers)
    (backend : Backend) (hbackend : backend.HasRegularExpiry)
    (steps : List (TimedStep (List NotificationSourceEvent)))
    (hsteps : ∀ events, .act events ∈ steps → ∀ event ∈ events, event.IsRegular) :
    let launched : Timed FedBackend := ⟨clock, backend, .launch clock warningDays backend⟩
    KeepsFresh warningDays (launched :: machine.moments .follow launched steps) := by
  intro launched
  have hlaunched := FedBackend.isFresh_launch warningDays hclock hbackend
  obtain ⟨htells, hfresh⟩ := Machine.moments_preserve (P := FedBackend.IsFresh warningDays)
    (fun _ _ hevents h => h.act hevents) (fun _ h => h.tick) steps hsteps launched hlaunched
  refine ⟨?_, htells⟩
  intro m hm
  rcases List.mem_cons.mp hm with rfl | hm
  · exact hlaunched.value_eq
  · exact (hfresh m hm).value_eq

/-- A run in which the warning of the account begins, the account then gets a nearer expiry just
before all sources are closed, and that passes. -/
def Feeds.warningRun : List (TimedStep (List NotificationSourceEvent)) :=
  [.act [.account (.write (some ⟨"1", ⟨1717502460, 0⟩⟩))], .advance 3000,
    .act [.account (.write (some ⟨"1", ⟨1717243263, 0⟩⟩)), .tunnel .close, .account .close,
      .newDevice .close, .version .close], .advance 4000]

/-- The subscribers are told three times in that run: when the warning begins, when it is for
another expiry, and when that has passed, after which the feed has ended. -/
theorem Feeds.notices_fresh_through_warning :
    let clock : Clock := ⟨⟨1717243258, 0⟩, 0⟩
    let launched : Timed FedBackend := ⟨clock, .initial, .launch clock 3 .initial⟩
    let finished := machine.run .follow launched warningRun
    clock.AgreesWithTimers ∧ Backend.initial.HasRegularExpiry ∧
      (∀ events, .act events ∈ warningRun → ∀ event ∈ events, event.IsRegular) ∧
      (finished.notices.revision = 3 ∧ finished.notices.isClosed = true) ∧
      KeepsFresh 3 (launched :: machine.moments .follow launched warningRun) := by
  intro clock launched finished
  have hclock : clock.AgreesWithTimers :=
    Clock.IsRegular.agreesWithTimers (by decide)
  have hbackend : Backend.initial.HasRegularExpiry := by
    intro account haccount
    cases haccount
  have hsteps : ∀ events, .act events ∈ warningRun → ∀ event ∈ events, event.IsRegular := by
    decide
  exact ⟨hclock, hbackend, hsteps, by decide +kernel,
    notices_fresh 3 clock hclock .initial hbackend warningRun hsteps⟩

end VpnClient
