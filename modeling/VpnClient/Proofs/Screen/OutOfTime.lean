import VpnClient.Proofs.Screen.Tasks
import VpnClient.Proofs.Time.Moments

/-!
# An account that runs out of time is told of once

Whether an account is out of time changes when the sources are written and when the clock reaches
the expiry.  The watch tells of it at the moments at which it comes true, whichever of the two has
happened, and at no others.

## Main Definitions

* `OutOfTimeWatch.IsCurrent` — a watch that knows whether the account is out of time now and when it
  will be if nothing is written
* `Timed.isOutOfTime` — whether the account is out of time at a moment of a run
* `Presenter.FiresOncePerRise` — the effect is sent whenever that comes true, and only then

## Main Statements

* `EdgeDetector.observeAll_eq` — a detector tells of every rise once
* `OutOfTimeWatch.IsCurrent.react` — a current watch tells of a rise and is current again
* `Presenter.fires_once_per_rise` — the effect is sent once per rise in every run
-/

namespace VpnClient

/-- The account gets a regular expiry if it gets one. -/
def ScreenSourceEvent.IsRegular : ScreenSourceEvent → Prop
  | .account event => event.IsRegular
  | _ => True

instance ScreenSourceEvent.decidableIsRegular :
    (event : ScreenSourceEvent) → Decidable event.IsRegular
  | .account event => inferInstanceAs (Decidable event.IsRegular)
  | .title _ | .notifications _ | .tunnel _ | .lastKnown _ | .device _ => .isTrue trivial

theorem ScreenSources.account_afterAll_regular {sources : ScreenSources}
    (h : sources.account.HasRegularExpiry) (events : List ScreenSourceEvent)
    (hevents : ∀ event ∈ events, event.IsRegular) :
    (sources.afterAll events).account.HasRegularExpiry := by
  refine List.foldlRecOn (motive := fun later => later.account.HasRegularExpiry) events
    ScreenSources.after h ?_
  intro later hlater event hmem
  have hevent : event.IsRegular := hevents event hmem
  cases event with
  | title | notifications | tunnel | lastKnown | device => exact hlater
  | account event => exact hlater.after hevent

/-! ## The watch -/

/-- A detector tells of the looks at which the condition holds, and did not hold at the look
before. -/
theorem EdgeDetector.observeAll_eq (edge : EdgeDetector) (looks : List Bool) :
    edge.observeAll looks =
      List.zipWith (fun before now => now && !before) (edge.isActive :: looks) looks := by
  induction looks generalizing edge with
  | nil => rfl
  | cons active rest ih =>
      rw [observeAll, List.zipWith_cons_cons]
      exact congrArg _ (ih ⟨active⟩)

namespace OutOfTimeWatch

/-- A watch that has looked at the last writes.  It knows whether the account is out of time, and
its timer goes off at the time at which it will be. -/
structure IsCurrent (w : OutOfTimeWatch) (clock : Clock) (account : Source (Option Account))
    (tunnel : Source TunnelState) : Prop where
  seen_eq : w.seen = some (account.revision, tunnel.revision)
  edge_eq : w.edge.isActive = isOutOfTime account.value tunnel.value clock.now
  reached_le : ∀ t, w.reached = some t → t ≤ clock.now
  /-- Without a timer it stays as it is. -/
  timer_none : w.timer = none → ∀ time, clock.elapsed ≤ time →
    isOutOfTime account.value tunnel.value (clock.withElapsed time).now = w.edge.isActive
  timer_some : ∀ due t, w.timer = some (due, t) → clock.elapsed < due ∧
    ∀ time, clock.elapsed ≤ time →
      (t ≤ (clock.withElapsed time).now ↔ due ≤ time) ∧
      isOutOfTime account.value tunnel.value (clock.withElapsed time).now = decide (due ≤ time)

variable {w : OutOfTimeWatch} {clock : Clock} {account account' : Source (Option Account)}
  {tunnel tunnel' : Source TunnelState}

theorem isDue_iff (w : OutOfTimeWatch) (clock : Clock) :
    w.isDue clock = true ↔ ∃ due t, w.timer = some (due, t) ∧ due ≤ clock.elapsed := by
  simp [isDue, Option.any_eq_true]

/-- The expiry that the timer has reached by a look. -/
def reachedBy (w : OutOfTimeWatch) (clock : Clock) : Option Instant :=
  if w.isDue clock then w.timer.map (·.2) else w.reached

/-- A look finds out whether the account is out of time, if no expiry is remembered that is still to
come. -/
theorem look_eq (hreached : ∀ t, w.reachedBy clock = some t → t ≤ clock.now) :
    w.look clock account tunnel =
      let outOfTime := isOutOfTime account.value tunnel.value clock.now
      (outOfTime && !w.edge.isActive, {
        seen := some (account.revision, tunnel.revision)
        edge := ⟨outOfTime⟩
        reached := w.reachedBy clock
        timer := if outOfTime then none else nextTimer? clock account.value }) := by
  have hsame : ((account.value.any fun a => some a.expiry == w.reachedBy clock) ||
      isOutOfTime account.value tunnel.value clock.now) =
      isOutOfTime account.value tunnel.value clock.now := by
    cases haccount : account.value with
    | none => rfl
    | some a =>
        simp only [Option.any_some, isOutOfTime]
        by_cases hremembered : w.reachedBy clock = some a.expiry
        · have hexpired : a.isExpired clock.now = true :=
            decide_eq_true (hreached a.expiry hremembered)
          simp only [hexpired, Bool.true_or, Bool.or_true]
        · have hother : (some a.expiry == w.reachedBy clock) = false :=
            beq_eq_false_iff_ne.mpr fun heq => hremembered heq.symm
          simp only [hother, Bool.false_or]
  have hlook : w.look clock account tunnel =
      let outOfTime := (account.value.any fun a => some a.expiry == w.reachedBy clock) ||
        isOutOfTime account.value tunnel.value clock.now
      (outOfTime && !w.edge.isActive, {
        seen := some (account.revision, tunnel.revision)
        edge := ⟨outOfTime⟩
        reached := w.reachedBy clock
        timer := if outOfTime then none else nextTimer? clock account.value }) := rfl
  rw [hlook, hsame]

/-- An account that is out of time stays so. -/
theorem isOutOfTime_mono (hclock : clock.AgreesWithTimers)
    (hnow : isOutOfTime account.value tunnel.value clock.now = true) {time : Nat}
    (htime : clock.elapsed ≤ time) :
    isOutOfTime account.value tunnel.value (clock.withElapsed time).now = true := by
  unfold isOutOfTime at hnow ⊢
  rcases Bool.or_eq_true_iff.mp hnow with hexpired | hrejected
  · cases hvalue : account.value with
    | none =>
        rw [hvalue] at hexpired
        cases hexpired
    | some a =>
        rw [hvalue, Option.any_some] at hexpired
        have hle : a.expiry ≤ clock.now := of_decide_eq_true hexpired
        have hlater := hclock.le_now_mono htime hle
        rw [Option.any_some, Account.isExpired, decide_eq_true hlater, Bool.true_or]
  · rw [hrejected, Bool.or_true]

/-- For an account that is not out of time there is a timer, unless there is no account. -/
theorem nextTimer?_spec (hclock : clock.AgreesWithTimers)
    (haccount : account.HasRegularExpiry)
    (hnow : isOutOfTime account.value tunnel.value clock.now = false) :
    (nextTimer? clock account.value = none ∧ account.value = none) ∨
      ∃ due a, nextTimer? clock account.value = some (due, a.expiry) ∧ account.value = some a ∧
        clock.elapsed < due ∧ ∀ time, clock.elapsed ≤ time →
          (a.expiry ≤ (clock.withElapsed time).now ↔ due ≤ time) := by
  obtain ⟨hnotExpired, -⟩ := Bool.or_eq_false_iff.mp hnow
  cases hvalue : account.value with
  | none => exact Or.inl ⟨rfl, rfl⟩
  | some a =>
      rw [hvalue, Option.any_some] at hnotExpired
      have hahead : clock.now < a.expiry := of_decide_eq_false hnotExpired
      obtain ⟨due, htimer, hdue, hreached⟩ :=
        hclock.exists_timerFor? (haccount a hvalue) hahead
      refine Or.inr ⟨due, a, ?_, rfl, hdue, hreached⟩
      simp [nextTimer?, htimer]

/-- A watch is current after a look, and tells of a rise. -/
theorem isCurrent_look (hclock : clock.AgreesWithTimers)
    (haccount : account.HasRegularExpiry)
    (hreached : ∀ t, w.reachedBy clock = some t → t ≤ clock.now) :
    (w.look clock account tunnel).1 =
        (isOutOfTime account.value tunnel.value clock.now && !w.edge.isActive) ∧
      (w.look clock account tunnel).2.IsCurrent clock account tunnel := by
  rw [look_eq hreached]
  cases hnow : isOutOfTime account.value tunnel.value clock.now with
  | true =>
      refine ⟨rfl, rfl, hnow.symm, hreached, ?_, nofun⟩
      intro _ time htime
      exact isOutOfTime_mono hclock hnow htime
  | false =>
      have hnotRejected : tunnel.value.isRejected = false := (Bool.or_eq_false_iff.mp hnow).2
      refine ⟨rfl, rfl, hnow.symm, hreached, ?_, ?_⟩
      · intro hnone time _
        rcases nextTimer?_spec hclock haccount hnow with ⟨-, hvalue⟩ | ⟨due, a, htimer, -⟩
        · rw [hvalue, isOutOfTime, hnotRejected]
          rfl
        · cases hnone.symm.trans htimer
      · intro due t hsome
        rcases nextTimer?_spec hclock haccount hnow with ⟨hnone, -⟩ |
          ⟨due', a, htimer, hvalue, hdue, hreaches⟩
        · cases hnone.symm.trans hsome
        · obtain ⟨rfl, rfl⟩ := Prod.mk.inj (Option.some.inj (hsome.symm.trans htimer))
          refine ⟨hdue, ?_⟩
          intro time htime
          refine ⟨hreaches time htime, ?_⟩
          rw [hvalue, isOutOfTime, hnotRejected, Bool.or_false, Option.any_some, Account.isExpired]
          exact decide_eq_decide.mpr (hreaches time htime)

namespace IsCurrent

/-- A current watch stays current until its timer goes off, and nothing has come true until then. -/
theorem pass (h : w.IsCurrent clock account tunnel) (hclock : clock.AgreesWithTimers) {time : Nat}
    (htime : clock.elapsed ≤ time) (hnotDue : w.isDue (clock.withElapsed time) = false) :
    isOutOfTime account.value tunnel.value (clock.withElapsed time).now = w.edge.isActive ∧
      w.IsCurrent (clock.withElapsed time) account tunnel := by
  have hreached : ∀ t, w.reached = some t → t ≤ (clock.withElapsed time).now := by
    intro t ht
    exact hclock.le_now_mono htime (h.reached_le t ht)
  cases htimer : w.timer with
  | none =>
      have hsame := h.timer_none htimer time htime
      refine ⟨hsame, h.seen_eq, hsame.symm, hreached, ?_, ?_⟩
      · intro _ later hlater
        exact h.timer_none htimer later (htime.trans hlater)
      · intro due t hsome
        cases htimer.symm.trans hsome
  | some timer =>
      obtain ⟨due, t⟩ := timer
      obtain ⟨hdue, hreaches⟩ := h.timer_some due t htimer
      have hahead : ¬ due ≤ time := by
        intro hle
        have hgoesOff : w.isDue (clock.withElapsed time) = true :=
          (isDue_iff w _).mpr ⟨due, t, htimer, hle⟩
        cases hgoesOff.symm.trans hnotDue
      have hbefore : w.edge.isActive = false := by
        rw [h.edge_eq, ← Clock.withElapsed_self clock,
          (hreaches clock.elapsed (Nat.le_refl _)).2, decide_eq_false (Nat.not_le_of_lt hdue)]
      have hsame : isOutOfTime account.value tunnel.value (clock.withElapsed time).now =
          w.edge.isActive := by
        rw [(hreaches time htime).2, hbefore, decide_eq_false hahead]
      refine ⟨hsame, h.seen_eq, hsame.symm, hreached, ?_, ?_⟩
      · intro hnone
        cases htimer.symm.trans hnone
      · intro due' t' hsome
        obtain ⟨rfl, rfl⟩ := Prod.mk.inj (Option.some.inj (hsome.symm.trans htimer))
        refine ⟨Nat.lt_of_not_le hahead, ?_⟩
        intro later hlater
        exact hreaches later (htime.trans hlater)

/-- What a watch is current with are the values and the revisions of its sources. -/
theorem congr (h : w.IsCurrent clock account tunnel) (haccount : account'.value = account.value)
    (htunnel : tunnel'.value = tunnel.value)
    (hseen : w.seen = some (account'.revision, tunnel'.revision)) :
    w.IsCurrent clock account' tunnel' := by
  refine ⟨hseen, ?_, h.reached_le, ?_, ?_⟩
  · rw [haccount, htunnel]
    exact h.edge_eq
  · rw [haccount, htunnel]
    exact h.timer_none
  · rw [haccount, htunnel]
    exact h.timer_some

/-- A current watch that reacts tells of a rise, and is current again. -/
theorem react (h : w.IsCurrent clock account tunnel) (hclock : clock.AgreesWithTimers)
    (haccount : account.Becomes account') (htunnel : tunnel.Becomes tunnel')
    (hregular : account'.HasRegularExpiry) {time : Nat}
    (htime : clock.elapsed ≤ time) :
    (w.react (clock.withElapsed time) account' tunnel').1 =
        (isOutOfTime account'.value tunnel'.value (clock.withElapsed time).now &&
          !w.edge.isActive) ∧
      (w.react (clock.withElapsed time) account' tunnel').2.IsCurrent (clock.withElapsed time)
        account' tunnel' := by
  by_cases hlooks : (w.isDue (clock.withElapsed time) ||
      w.seen != some (account'.revision, tunnel'.revision)) = true
  · rw [OutOfTimeWatch.react, if_pos hlooks]
    refine isCurrent_look (hclock.withElapsed time) hregular ?_
    intro t ht
    unfold reachedBy at ht
    split at ht
    · next hdue =>
      -- the timer does not go off before the clock has reached its expiry
      obtain ⟨due, t', htimer, hle⟩ := (isDue_iff w _).mp hdue
      obtain ⟨-, hreaches⟩ := h.timer_some due t' htimer
      rw [htimer] at ht
      obtain rfl : t' = t := Option.some.inj ht
      exact (hreaches time htime).1.mpr hle
    · exact hclock.le_now_mono htime (h.reached_le t ht)
  · rw [OutOfTimeWatch.react, if_neg hlooks]
    obtain ⟨hnotDue, hseen⟩ := Bool.or_eq_false_iff.mp (Bool.eq_false_iff.mpr hlooks)
    have hseen' : w.seen = some (account'.revision, tunnel'.revision) :=
      bne_eq_false_iff_eq.mp hseen
    obtain ⟨haccountRevision, htunnelRevision⟩ :=
      Prod.mk.inj (Option.some.inj (hseen'.symm.trans h.seen_eq))
    have haccountValue := haccount.value_eq haccountRevision
    have htunnelValue := htunnel.value_eq htunnelRevision
    obtain ⟨hsame, hcurrent⟩ := h.pass hclock htime hnotDue
    refine ⟨?_, hcurrent.congr haccountValue htunnelValue hseen'⟩
    rw [haccountValue, htunnelValue, hsame, Bool.and_not_self]

end IsCurrent

end OutOfTimeWatch

/-! ## The presenter -/

/-- Whether the account of a presenter is out of time at a moment of a run. -/
def Timed.isOutOfTime (timed : Timed SourcedPresenter) : Bool :=
  VpnClient.isOutOfTime timed.state.sources.account.value timed.state.sources.tunnel.value
    timed.clock.now

/-- A presenter whose watch has just been launched and has not looked at the sources yet. -/
def SourcedPresenter.launchOutOfTimeWatching (presenter : Presenter) (sources : ScreenSources) :
    SourcedPresenter :=
  ⟨sources, { presenter with outOfTime := some .launch }⟩

/-- Between two moments an effect is sent if the account was not out of time before and is then; and
besides that, and what the watch keeps in mind, the presenter stays as it was. -/
def SourcedPresenter.FiresOnRise (wasOutOfTime : Bool) (before after : Timed SourcedPresenter) :
    Prop :=
  after.state.presenter =
    { before.state.presenter.sendIf after.clock (after.isOutOfTime && !wasOutOfTime) .outOfTime with
      outOfTime := after.state.presenter.outOfTime }

/-- The watch of a presenter sends the effect at its first look if the account is out of time then,
and later on whenever that comes true from one moment of the run to the next one. -/
def Presenter.FiresOncePerRise (presenter : Presenter) (clock : Clock) (sources : ScreenSources)
    (steps : List (TimedStep (List ScreenSourceEvent))) : Prop :=
  let launched : Timed SourcedPresenter := ⟨clock, .launchOutOfTimeWatching presenter sources⟩
  let first := SourcedPresenter.outOfTimeWatching.act id launched
  SourcedPresenter.FiresOnRise false launched first ∧
    (first :: SourcedPresenter.outOfTimeWatching.moments .follow first steps).IsChain
      fun before after => SourcedPresenter.FiresOnRise before.isOutOfTime before after

namespace SourcedPresenter

/-- The watch of a presenter is current, and the account has a regular expiry. -/
structure Watches (timed : Timed SourcedPresenter) : Prop where
  clock_agrees : timed.clock.AgreesWithTimers
  expiry_regular : timed.state.sources.account.HasRegularExpiry
  watch : ∃ w, timed.state.presenter.outOfTime = some w ∧
    w.IsCurrent timed.clock timed.state.sources.account timed.state.sources.tunnel

/-- What the watch's part of a reaction does to a presenter. -/
theorem reactOutOfTime_eq {p : Presenter} {w w' : OutOfTimeWatch} {clock : Clock}
    {sources : ScreenSources} {rising : Bool} (h : p.outOfTime = some w)
    (hreact : w.react clock sources.account sources.tunnel = (rising, w')) :
    p.reactOutOfTime clock sources =
      { p.sendIf clock rising .outOfTime with outOfTime := some w' } := by
  simp only [Presenter.reactOutOfTime, Presenter.lookOut, h, hreact, Presenter.sendIf]
  split <;> rfl

/-- A presenter whose watch has just reacted has sent the effect if the account had run out of
time. -/
theorem fires_settle {wasOutOfTime : Bool} (before : Timed SourcedPresenter) {w : OutOfTimeWatch}
    (clock : Clock) (sources : ScreenSources) (hclock : clock.AgreesWithTimers)
    (hregular : sources.account.HasRegularExpiry)
    (hwatch : before.state.presenter.outOfTime = some w)
    (hrises : (w.react clock sources.account sources.tunnel).1 =
      (isOutOfTime sources.account.value sources.tunnel.value clock.now && !wasOutOfTime))
    (hcurrent : (w.react clock sources.account sources.tunnel).2.IsCurrent clock sources.account
      sources.tunnel) :
    let after : Timed SourcedPresenter :=
      ⟨clock, outOfTimeWatching.settle clock { before.state with sources := sources }⟩
    Watches after ∧ FiresOnRise wasOutOfTime before after := by
  intro after
  have hpresenter : after.state.presenter =
      { before.state.presenter.sendIf clock (after.isOutOfTime && !wasOutOfTime) .outOfTime with
        outOfTime := some (w.react clock sources.account sources.tunnel).2 } :=
    reactOutOfTime_eq hwatch (Prod.ext hrises rfl)
  have hkept : after.state.presenter.outOfTime =
      some (w.react clock sources.account sources.tunnel).2 := by
    rw [hpresenter]
  constructor
  · exact ⟨hclock, hregular, _, hkept, hcurrent⟩
  · unfold FiresOnRise
    rw [hkept]
    exact hpresenter

/-- While nothing changes, nothing is sent. -/
theorem FiresOnRise.of_same {wasOutOfTime : Bool} {before after : Timed SourcedPresenter}
    (hsame : after.isOutOfTime = wasOutOfTime)
    (hpresenter : after.state.presenter = before.state.presenter) :
    FiresOnRise wasOutOfTime before after := by
  unfold FiresOnRise
  rw [hsame, Bool.and_not_self, hpresenter]
  rfl

/-- The first look at the sources. -/
theorem fires_start (presenter : Presenter) (clock : Clock) (sources : ScreenSources)
    (hclock : clock.AgreesWithTimers) (hregular : sources.account.HasRegularExpiry) :
    let launched : Timed SourcedPresenter := ⟨clock, launchOutOfTimeWatching presenter sources⟩
    Watches (outOfTimeWatching.act id launched) ∧
      FiresOnRise false launched (outOfTimeWatching.act id launched) := by
  intro launched
  -- a watch that has not looked yet looks at its first reaction
  have hlooks : OutOfTimeWatch.launch.react clock sources.account sources.tunnel =
      OutOfTimeWatch.launch.look clock sources.account sources.tunnel := rfl
  have hreached : ∀ t, OutOfTimeWatch.launch.reachedBy clock = some t → t ≤ clock.now := nofun
  obtain ⟨hrises, hcurrent⟩ := OutOfTimeWatch.isCurrent_look hclock hregular hreached
  rw [← hlooks] at hrises hcurrent
  exact fires_settle launched clock sources hclock hregular rfl hrises hcurrent

namespace Watches

variable {timed : Timed SourcedPresenter}

/-- What happens to the sources is looked at. -/
theorem act (h : Watches timed) {events : List ScreenSourceEvent}
    (hevents : ∀ event ∈ events, event.IsRegular) :
    Watches (outOfTimeWatching.act (follow events) timed) ∧
      FiresOnRise timed.isOutOfTime timed (outOfTimeWatching.act (follow events) timed) := by
  obtain ⟨hclock, hregular, w, hwatch, hcurrent⟩ := h
  have hbecomes := timed.state.sources.becomes_afterAll events
  have hregular' := ScreenSources.account_afterAll_regular hregular events hevents
  obtain ⟨hrises, hcurrent'⟩ := hcurrent.react hclock hbecomes.account hbecomes.tunnel hregular'
    (Nat.le_refl timed.clock.elapsed)
  rw [Clock.withElapsed_self, hcurrent.edge_eq] at hrises
  exact fires_settle timed timed.clock (timed.state.sources.afterAll events) hclock hregular' hwatch
    hrises hcurrent'

/-- In a millisecond the clock may reach the expiry. -/
theorem tick (h : Watches timed) :
    Watches (outOfTimeWatching.advance 1 timed) ∧
      FiresOnRise timed.isOutOfTime timed (outOfTimeWatching.advance 1 timed) := by
  obtain ⟨hclock, hregular, w, hwatch, hcurrent⟩ := h
  have hdue : outOfTimeWatching.nextDue? timed.state = w.nextDue? := by
    show timed.state.presenter.outOfTime.bind OutOfTimeWatch.nextDue? = _
    rw [hwatch, Option.bind_some]
  have hgoesOff : (w.nextDue?.any (· ≤ timed.clock.elapsed + 1)) =
      w.isDue (timed.clock.withElapsed (timed.clock.elapsed + 1)) := by
    unfold OutOfTimeWatch.nextDue? OutOfTimeWatch.isDue
    cases w.timer <;> rfl
  rw [Machine.advance_one, hdue, hgoesOff]
  have htime : timed.clock.elapsed ≤ timed.clock.elapsed + 1 := Nat.le_succ _
  cases hisDue : w.isDue (timed.clock.withElapsed (timed.clock.elapsed + 1)) with
  | true =>
      obtain ⟨hrises, hcurrent'⟩ :=
        hcurrent.react hclock (.refl _) (.refl _) hregular htime
      rw [hcurrent.edge_eq] at hrises
      exact fires_settle timed _ timed.state.sources (hclock.withElapsed _) hregular hwatch hrises
        hcurrent'
  | false =>
      obtain ⟨hsame, hcurrent'⟩ := hcurrent.pass hclock htime hisDue
      refine ⟨⟨hclock.withElapsed _, hregular, w, hwatch, hcurrent'⟩, ?_⟩
      rw [hcurrent.edge_eq] at hsame
      exact .of_same hsame rfl

end Watches

end SourcedPresenter

namespace Presenter

open SourcedPresenter

/-- The effect is sent once whenever the account runs out of time, by a write to its sources or by
the clock, in every run in which the clock agrees with the timers, and no account runs out of time
in a leap second. -/
theorem fires_once_per_rise (presenter : Presenter) (clock : Clock)
    (hclock : clock.AgreesWithTimers) (sources : ScreenSources)
    (hsources : sources.account.HasRegularExpiry)
    (steps : List (TimedStep (List ScreenSourceEvent)))
    (hsteps : ∀ events, .act events ∈ steps → ∀ event ∈ events, event.IsRegular) :
    presenter.FiresOncePerRise clock sources steps := by
  obtain ⟨hwatches, hfirst⟩ := fires_start presenter clock sources hclock hsources
  refine ⟨hfirst, (Machine.moments_preserve (P := Watches) ?_ ?_ steps hsteps _ hwatches).1⟩
  · intro events timed hevents h
    exact h.act hevents
  · intro timed h
    exact h.tick

/-- A presenter with an observer of its effects. -/
def observed : Presenter :=
  (atRest 200 false ⟨"https".toList, none, .segments [], none, none⟩).subscribe.2

/-- A run in which the tunnel is rejected one second before the time of the account is up, and time
is added later on, which runs out as well. -/
def toppedUpRun : List (TimedStep (List ScreenSourceEvent)) :=
  [.advance 1000, .act [.tunnel (.write (.error ⟨.authFailed (some "EXPIRED_ACCOUNT"), true⟩))],
    .advance 2000, .act [.account (.write (some ⟨"1", ⟨1717243265, 500000000⟩⟩)),
      .tunnel (.write (.disconnected none))], .advance 5000]

/-- The effect is sent when the tunnel is rejected and when the added time is up, but not when the
account's first expiry passes. -/
theorem fires_once_per_rise_after_topUp :
    let sources := ScreenSources.fresh { ScreenInputs.initial with
      account := some ⟨"1", ⟨1717243260, 0⟩⟩ }
    let clock : Clock := ⟨⟨1717243258, 0⟩, 0⟩
    clock.AgreesWithTimers ∧ sources.account.HasRegularExpiry ∧
      (∀ events, .act events ∈ toppedUpRun → ∀ event ∈ events, event.IsRegular) ∧
      (outOfTimeWatching.run follow
        (outOfTimeWatching.act id ⟨clock, launchOutOfTimeWatching observed sources⟩)
        toppedUpRun).state.presenter.delivered.map (·.time) = [1000, 7500] ∧
      observed.FiresOncePerRise clock sources toppedUpRun := by
  intro sources clock
  have hclock : clock.AgreesWithTimers := Clock.IsRegular.agreesWithTimers (by decide)
  have hsources : sources.account.HasRegularExpiry := by decide
  have hsteps : ∀ events, .act events ∈ toppedUpRun → ∀ event ∈ events, event.IsRegular := by
    decide
  exact ⟨hclock, hsources, hsteps, by decide +kernel,
    fires_once_per_rise observed clock hclock sources hsources toppedUpRun hsteps⟩

end Presenter

end VpnClient
