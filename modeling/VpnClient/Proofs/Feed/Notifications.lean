import VpnClient.Proofs.Account.Window
import VpnClient.Proofs.Feed.Writes
import VpnClient.Proofs.Time.Clock

/-!
# The feed of notifications is current

At every moment the feed holds the notices that apply at that moment, and its timer is set so that
this stays true while time passes.

## Main Definitions

* `NotificationFeed.IsCurrent` — the feed follows a backend and has missed nothing

## Main Statements

* `NotificationFeed.IsCurrent.pass` — a current feed stays current until its timer goes off
* `NotificationFeed.IsCurrent.look` — when its timer goes off, or something was written, a look
  makes it current again
-/

namespace VpnClient

/-- The four sources of the notices and what has become of them, closed or not. -/
structure Backend.NoticesBecome (b c : Backend) : Prop where
  tunnel : b.tunnel.Becomes c.tunnel
  account : b.account.Becomes c.account
  newDevice : b.newDevice.Becomes c.newDevice
  version : b.version.Becomes c.version

theorem Backend.Later.noticesBecome {b c : Backend} (h : b.Later c) : b.NoticesBecome c where
  tunnel := h.tunnel.becomes
  account := h.account.becomes
  newDevice := h.newDevice.becomes
  version := h.version.becomes

/-- Whoever has seen all revisions has seen all that the notices follow from. -/
theorem Backend.NoticesBecome.inputs_eq {b c : Backend} (h : b.NoticesBecome c)
    (hsame : NotificationFeed.revisions c = NotificationFeed.revisions b) :
    c.notificationInputs = b.notificationInputs := by
  simp only [NotificationFeed.revisions, List.cons.injEq, and_true] at hsame
  obtain ⟨htunnel, haccount, hnewDevice, hversion⟩ := hsame
  simp only [Backend.notificationInputs, h.tunnel.value_eq htunnel, h.account.value_eq haccount,
    h.newDevice.value_eq hnewDevice, h.version.value_eq hversion]

theorem Backend.HasRegularExpiry.notificationInputs {b : Backend} (h : b.HasRegularExpiry) :
    ∀ account, b.notificationInputs.account = some account → account.expiry.IsRegular := h

namespace NotificationFeed

theorem isDue_iff {feed : NotificationFeed} {timer : Nat × Instant} (h : feed.timer = some timer)
    (clock : Clock) : feed.isDue clock = true ↔ timer.1 ≤ clock.elapsed := by
  simp [isDue, h]

theorem lt_of_not_isDue {feed : NotificationFeed} {clock : Clock} {time : Nat}
    (h : feed.isDue (clock.withElapsed time) = false) :
    ∀ timer, feed.timer = some timer → time < timer.1 := by
  intro timer htimer
  have hnotDue : ¬ timer.1 ≤ time := by
    rw [← Clock.withElapsed_elapsed clock time, ← isDue_iff htimer, h]
    exact Bool.false_ne_true
  exact Nat.lt_of_not_le hnotDue

/-- The feed after it has looked at what it follows, if its timer goes off or something was
written. -/
def look (feed : NotificationFeed) (clock : Clock) (backend : Backend) : NotificationFeed :=
  if feed.isDue clock || feed.seen != revisions backend then feed.refresh clock backend else feed

/-- A reaction is a look, after which the feed may come to its end. -/
theorem react_of_open {feed : NotificationFeed} {clock : Clock} {backend : Backend}
    (h : feed.output.isClosed = false) :
    feed.react clock backend =
      if isCutOff backend && (feed.look clock backend).timer.isNone then
        { feed.look clock backend with output := (feed.look clock backend).output.close }
      else feed.look clock backend := by
  simp only [react, h, Bool.false_eq_true, if_false]
  rfl

/-- The feed holds the notices that apply now, has seen all that was written, and its timer goes off
at the first millisecond at which other notices may apply. -/
structure IsCurrent (feed : NotificationFeed) (clock : Clock) (backend : Backend) : Prop where
  isOpen : feed.output.isClosed = false
  seen_eq : feed.seen = revisions backend
  value_eq : feed.output.value = backend.notificationInputs.current feed.warningDays clock.now
  reached_le : ∀ t, feed.reached = some t → t.IsRegular ∧ t ≤ clock.now
  timer_eq_none : backend.notificationInputs.nextBoundary? feed.warningDays clock.now = none →
    feed.timer = none
  timer_eq_some : ∀ b,
    backend.notificationInputs.nextBoundary? feed.warningDays clock.now = some b →
      ∃ due, feed.timer = some (due, b) ∧ clock.elapsed < due ∧
        ∀ time, clock.elapsed ≤ time → (b ≤ (clock.withElapsed time).now ↔ due ≤ time)

/-- An instant that the clock has reached does not change what the present is. -/
theorem present_eq {clock : Clock} {reached : Option Instant}
    (h : ∀ t, reached = some t → t.IsRegular ∧ t ≤ clock.now) :
    present clock reached = clock.now := by
  cases hreached : reached with
  | none => rfl
  | some t =>
      obtain ⟨ht, hle⟩ := h t hreached
      exact if_pos hle

/-- The timer that is set at a present instant goes off at the first millisecond of the next
boundary. -/
theorem nextTimer?_spec {clock : Clock} (hclock : clock.AgreesWithTimers) {backend : Backend}
    (hbackend : backend.HasRegularExpiry) {reached : Option Instant}
    (hreached : ∀ t, reached = some t → t.IsRegular ∧ t ≤ clock.now) (warningDays : Nat) :
    (backend.notificationInputs.nextBoundary? warningDays clock.now = none →
      nextTimer? clock warningDays reached backend = none) ∧
    ∀ b, backend.notificationInputs.nextBoundary? warningDays clock.now = some b →
      ∃ due, nextTimer? clock warningDays reached backend = some (due, b) ∧ clock.elapsed < due ∧
        ∀ time, clock.elapsed ≤ time → (b ≤ (clock.withElapsed time).now ↔ due ≤ time) := by
  have hpresent := present_eq hreached
  refine ⟨?_, ?_⟩
  · intro hnone
    simp only [nextTimer?, hpresent, hnone]
    rfl
  · intro b hb
    obtain ⟨hregular, hlt⟩ := NotificationInputs.nextBoundary?_spec hbackend.notificationInputs hb
    obtain ⟨due, htimer, hafter, hgoesOff⟩ := hclock.exists_timerFor? hregular hlt
    refine ⟨due, ?_, hafter, hgoesOff⟩
    simp only [nextTimer?, hpresent, hb, htimer, Option.bind_eq_bind, Option.bind_some]

/-- A feed is current at its start. -/
theorem isCurrent_launch {clock : Clock} (hclock : clock.AgreesWithTimers) {backend : Backend}
    (hbackend : backend.HasRegularExpiry) (warningDays : Nat) :
    (launch clock warningDays backend).IsCurrent clock backend := by
  have hreached : ∀ t, none = some t → t.IsRegular ∧ t ≤ clock.now := by
    intro t ht
    cases ht
  obtain ⟨hnone, hsome⟩ := nextTimer?_spec hclock hbackend hreached warningDays
  exact ⟨rfl, rfl, rfl, hreached, hnone, hsome⟩

/-- A feed that looks again at what it follows is current, if its timer does not go off early. -/
theorem isCurrent_refresh {feed : NotificationFeed} {clock : Clock}
    (hclock : clock.AgreesWithTimers) {backend : Backend} (hbackend : backend.HasRegularExpiry)
    (hopen : feed.output.isClosed = false)
    (hreached : ∀ t, (if feed.isDue clock then feed.timer.map (·.2) else feed.reached) = some t →
      t.IsRegular ∧ t ≤ clock.now) :
    (feed.refresh clock backend).IsCurrent clock backend := by
  obtain ⟨hnone, hsome⟩ := nextTimer?_spec hclock hbackend hreached feed.warningDays
  refine ⟨?_, rfl, ?_, hreached, hnone, hsome⟩
  · simp only [refresh, Source.update_isClosed, hopen]
  · simp only [refresh, Source.update_value_of_lawful, present_eq hreached]

namespace IsCurrent

variable {feed : NotificationFeed} {clock : Clock} {backend : Backend}

/-- Nothing changes before the timer of a current feed goes off. -/
theorem pass (h : feed.IsCurrent clock backend) (hclock : clock.AgreesWithTimers) {time : Nat}
    (htime : clock.elapsed ≤ time)
    (hbefore : ∀ timer, feed.timer = some timer → time < timer.1) :
    feed.IsCurrent (clock.withElapsed time) backend := by
  have hle : clock.now ≤ (clock.withElapsed time).now :=
    hclock.le_now_mono htime (Instant.le_refl _)
  -- the timer stands for the boundary: what is before the one is before the other
  have hbeforeBoundary : ∀ b,
      backend.notificationInputs.nextBoundary? feed.warningDays clock.now = some b →
        (clock.withElapsed time).now < b := by
    intro b hb
    obtain ⟨due, htimer, -, hgoesOff⟩ := h.timer_eq_some b hb
    have hlt := hbefore _ htimer
    rw [Instant.lt_iff_not_le, hgoesOff time htime]
    exact Nat.not_le_of_lt hlt
  obtain ⟨hsame, hcurrent⟩ := NotificationInputs.current_eq_of_before_boundary hle hbeforeBoundary
  refine ⟨h.isOpen, h.seen_eq, by rw [h.value_eq, hcurrent], ?_, ?_, ?_⟩
  · intro t ht
    obtain ⟨hregular, hreached⟩ := h.reached_le t ht
    exact ⟨hregular, hclock.le_now_mono htime hreached⟩
  · rw [hsame]
    exact h.timer_eq_none
  · intro b hb
    rw [hsame] at hb
    obtain ⟨due, htimer, -, hgoesOff⟩ := h.timer_eq_some b hb
    refine ⟨due, htimer, hbefore _ htimer, ?_⟩
    intro later hlater
    simp only [Clock.withElapsed_elapsed] at hlater
    exact hgoesOff later (by omega)

/-- A feed that is not behind stays current when nothing it follows was written. -/
theorem of_revisions_eq {backend' : Backend} (h : feed.IsCurrent clock backend)
    (hbecomes : backend.NoticesBecome backend') (hsame : feed.seen = revisions backend') :
    feed.IsCurrent clock backend' := by
  have hinputs := hbecomes.inputs_eq (hsame.symm.trans h.seen_eq)
  refine ⟨h.isOpen, hsame, ?_, h.reached_le, ?_, ?_⟩ <;> rw [hinputs]
  · exact h.value_eq
  · exact h.timer_eq_none
  · exact h.timer_eq_some

/-- The boundary that a current feed waits for is reached when its timer goes off. -/
theorem reached_of_isDue (h : feed.IsCurrent clock backend) (hbackend : backend.HasRegularExpiry)
    {time : Nat} (htime : clock.elapsed ≤ time)
    (hdue : feed.isDue (clock.withElapsed time) = true) :
    ∀ t, feed.timer.map (·.2) = some t → t.IsRegular ∧ t ≤ (clock.withElapsed time).now := by
  intro t ht
  cases hboundary : backend.notificationInputs.nextBoundary? feed.warningDays clock.now with
  | none =>
      rw [h.timer_eq_none hboundary] at ht
      cases ht
  | some b =>
      obtain ⟨due, htimer, -, hgoesOff⟩ := h.timer_eq_some b hboundary
      have hreached : due ≤ time := (isDue_iff htimer _).mp hdue
      simp only [htimer, Option.map_some, Option.some_inj] at ht
      subst ht
      exact ⟨(NotificationInputs.nextBoundary?_spec hbackend.notificationInputs hboundary).1,
        (hgoesOff time htime).mpr hreached⟩

/-- A current feed is current again after its next look, whatever has happened to what it follows in
the meantime and however much time has passed. -/
theorem look (h : feed.IsCurrent clock backend) (hclock : clock.AgreesWithTimers)
    (hbackend : backend.HasRegularExpiry) {backend' : Backend}
    (hbecomes : backend.NoticesBecome backend') (hbackend' : backend'.HasRegularExpiry) {time : Nat}
    (htime : clock.elapsed ≤ time) :
    (feed.look (clock.withElapsed time) backend').IsCurrent (clock.withElapsed time) backend' := by
  have hclock' := hclock.withElapsed time
  unfold NotificationFeed.look
  cases hdue : feed.isDue (clock.withElapsed time) with
  | true =>
      simp only [Bool.true_or, if_true]
      refine isCurrent_refresh hclock' hbackend' h.isOpen ?_
      rw [if_pos hdue]
      exact h.reached_of_isDue hbackend htime hdue
  | false =>
      have hpassed := h.pass hclock htime (lt_of_not_isDue hdue)
      simp only [Bool.false_or]
      -- a feed that keeps what it has is not made stale by the time that has passed
      by_cases hsame : feed.seen = revisions backend'
      · simp only [hsame, bne_self_eq_false, Bool.false_eq_true, if_false]
        exact hpassed.of_revisions_eq hbecomes hsame
      · simp only [bne_iff_ne, ne_eq, hsame, not_false_eq_true, if_true]
        refine isCurrent_refresh hclock' hbackend' h.isOpen ?_
        rw [hdue]
        exact hpassed.reached_le

/-- A current feed is current again after its next reaction, if what it follows is only written. -/
theorem react (h : feed.IsCurrent clock backend) (hclock : clock.AgreesWithTimers)
    (hbackend : backend.HasRegularExpiry) {backend' : Backend} (hlater : backend.Later backend')
    (hopen' : backend'.IsOpen) (hbackend' : backend'.HasRegularExpiry) {time : Nat}
    (htime : clock.elapsed ≤ time) :
    (feed.react (clock.withElapsed time) backend').IsCurrent (clock.withElapsed time) backend' := by
  have hcutOff : isCutOff backend' = false := by
    simp [isCutOff, hopen'.tunnel]
  rw [react_of_open h.isOpen, hcutOff, Bool.false_and, if_neg Bool.false_ne_true]
  exact h.look hclock hbackend hlater.noticesBecome hbackend' htime

end IsCurrent

/-- Whatever a feed does that follows an open backend, its output is written at most. -/
theorem later_react (feed : NotificationFeed) (clock : Clock) {backend : Backend}
    (hopen : backend.IsOpen) : feed.output.Later (feed.react clock backend).output := by
  have hcutOff : isCutOff backend = false := by
    simp [isCutOff, hopen.tunnel]
  simp only [react, hcutOff, Bool.false_and, Bool.false_eq_true, if_false]
  split
  · exact Source.Later.refl _
  · split
    · exact Source.later_update _ _
    · exact Source.Later.refl _

@[simp]
theorem react_warningDays (feed : NotificationFeed) (clock : Clock) (backend : Backend) :
    (feed.react clock backend).warningDays = feed.warningDays := by
  simp only [react]
  split
  · rfl
  · split <;> split <;> rfl

end NotificationFeed

end VpnClient
