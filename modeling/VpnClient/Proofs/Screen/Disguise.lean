import VpnClient.Proofs.Time.Clock
import VpnClient.Screen.Screen

/-!
# Disguised screens

Much of what a screen holds is only passed on: the contents of a token goes from the backend into
an effect, an effect to an observer.  A disguise replaces such things.  If the sources, the requests
and the sending do not notice, a disguised screen does what the screen itself does, in disguise.

Which things are replaced is left to the disguise, so that nothing here is about tokens or about
observers.

## Main Definitions

* `Disguise` — what takes the place of effects, observers, deliveries and the backend
* `Disguise.presenter`, `Disguise.screen` — a presenter and a screen in disguise
* `Disguise.IsUnnoticed` — no part of a screen does anything else because of it

## Main Statements

* `Disguise.IsUnnoticed.presenter_react`, `Disguise.IsUnnoticed.presenter_runJobs` — a disguised
  presenter reacts and has its requests run as the presenter itself
* `Disguise.IsUnnoticed.screen_settle` — a disguised screen comes to rest as the screen itself
* `Disguise.IsUnnoticed.screen_advance`, `Disguise.IsUnnoticed.screen_advanceTo` — so it does while
  time passes
-/

namespace VpnClient

/-- What takes the place of the things that a screen passes on without a look at them. -/
structure Disguise where
  effect : Effect → Effect
  hub : Hub Effect → Hub Effect
  delivered : List Delivery → List Delivery
  backend : Backend → Backend

namespace Disguise

/-- A presenter in disguise. -/
def presenter (d : Disguise) (p : Presenter) : Presenter :=
  { p with hub := d.hub p.hub, delivered := d.delivered p.delivered }

/-- A screen in disguise. -/
def screen (d : Disguise) (s : Screen) : Screen :=
  { s with backend := d.backend s.backend, presenter := d.presenter s.presenter }

/-! ## What no disguise has a part in -/

section

variable (d : Disguise) (p : Presenter) (clock : Clock) (network : Network) (s : Screen)

theorem presenter_foldl_publish (states : List UiState) :
    states.foldl (fun p state => p.publish clock state) (d.presenter p) =
      d.presenter (states.foldl (fun p state => p.publish clock state) p) := by
  induction states generalizing p with
  | nil => rfl
  | cons state states ih => exact ih (p.publish clock state)

/-- What is published does not depend on what is sent. -/
theorem presenter_reactAggregator (sources : ScreenSources) :
    (d.presenter p).reactAggregator clock sources =
      d.presenter (p.reactAggregator clock sources) := by
  rw [Presenter.reactAggregator, Presenter.reactAggregator]
  simp only [presenter]
  split
  · rfl
  · next a _ =>
    exact d.presenter_foldl_publish
      { p with aggregator := some (a.react clock p.isPlayBuild sources).2 } clock _

theorem presenter_addJob (request : ScreenRequest) :
    (d.presenter p).addJob clock network request =
      d.presenter (p.addJob clock network request) := by
  rw [Presenter.addJob, Presenter.addJob, apply_ite d.presenter]
  rfl

theorem presenter_start :
    (d.presenter p).start clock network = d.presenter (p.start clock network) := by
  rw [Presenter.start, Presenter.start, apply_ite d.presenter, apply_ite d.presenter,
    ← d.presenter_addJob]
  rfl

theorem screen_publishDue : (d.screen s).publishDue clock = d.screen (s.publishDue clock) := by
  have haggregator : (d.screen s).presenter.aggregator = s.presenter.aggregator := rfl
  rw [Screen.publishDue, Screen.publishDue, haggregator]
  cases s.presenter.aggregator with
  | none => rfl
  | some a =>
      dsimp only
      obtain ⟨state, a⟩ := a.publish clock
      cases state <;> rfl

theorem screen_click (click : Click) :
    (d.screen s).click clock click = d.screen (s.click clock click) :=
  congrArg (fun p => { d.screen s with presenter := p })
    (d.presenter_addJob s.presenter clock s.network click.request)

theorem screen_start : (d.screen s).start clock = d.screen (s.start clock) :=
  congrArg (fun p => { d.screen s with presenter := p })
    (d.presenter_start s.presenter clock s.network)

/-- A disguised screen moves when the screen itself does. -/
theorem screen_nextDue? : (d.screen s).nextDue? = s.nextDue? := by
  obtain ⟨backend, network, supply, presenter⟩ := s
  cases supply <;> rfl

end

/-! ## What goes unnoticed -/

/-- No part of a screen does anything else because of a disguise. -/
structure IsUnnoticed (d : Disguise) : Prop where
  /-- The effects of the watches carry nothing that could be replaced. -/
  outOfTime : d.effect .outOfTime = .outOfTime
  revokedDevice : d.effect .revokedDevice = .revokedDevice
  /-- Sending does not look at what is sent. -/
  send : ∀ (p : Presenter) (clock : Clock) (effect : Effect),
    (d.presenter p).send clock (d.effect effect) = d.presenter (p.send clock effect)
  drained : ∀ hub, (d.hub hub).drained = d.hub hub.drained
  /-- The sources of a screen are derived from what the disguise leaves as it is. -/
  tunnel : ∀ backend, (d.backend backend).tunnel = backend.tunnel
  account : ∀ backend, (d.backend backend).account = backend.account
  device : ∀ backend, (d.backend backend).device = backend.device
  feeds : ∀ (feeds : Feeds) (clock : Clock) (backend : Backend),
    feeds.react clock (d.backend backend) = feeds.react clock backend
  /-- A request does the same, and its effect is that of the request, in disguise. -/
  perform : ∀ (p : Presenter) (network : Network) (backend : Backend) (request : ScreenRequest),
    (d.presenter p).perform network (d.backend backend) request =
      ((p.perform network backend request).1.map d.effect,
        d.backend (p.perform network backend request).2)

namespace IsUnnoticed

variable {d : Disguise} (h : d.IsUnnoticed)
include h

/-! ### The presenter -/

section Presenter

variable (p : Presenter) (clock : Clock) (network : Network)

theorem presenter_sendIf (reason : Bool) (effect : Effect) :
    (d.presenter p).sendIf clock reason (d.effect effect) =
      d.presenter (p.sendIf clock reason effect) := by
  cases reason with
  | false => rfl
  | true => exact h.send p clock effect

/-- A watch finds the same, and what it finds is sent in disguise. -/
theorem presenter_lookOut {ω : Type} (effect : Effect) (watch : Option ω) (look : ω → Bool × ω)
    (keep : ω → Presenter) :
    (d.presenter p).lookOut clock (d.effect effect) watch look (fun w => d.presenter (keep w)) =
      d.presenter (p.lookOut clock effect watch look keep) := by
  cases watch with
  | none => rfl
  | some w => exact h.presenter_sendIf _ clock (look w).1 effect

theorem presenter_reactOutOfTime (sources : ScreenSources) :
    (d.presenter p).reactOutOfTime clock sources =
      d.presenter (p.reactOutOfTime clock sources) := by
  have hlook := h.presenter_lookOut p clock .outOfTime p.outOfTime
    (·.react clock sources.account sources.tunnel) fun w => { p with outOfTime := some w }
  rw [h.outOfTime] at hlook
  exact hlook

theorem presenter_reactRevoked (sources : ScreenSources) :
    (d.presenter p).reactRevoked clock sources = d.presenter (p.reactRevoked clock sources) := by
  have hlook := h.presenter_lookOut p clock .revokedDevice p.revoked
    (·.react sources.device) fun w => { p with revoked := some w }
  rw [h.revokedDevice] at hlook
  exact hlook

theorem presenter_drained :
    { d.presenter p with hub := (d.presenter p).hub.drained } =
      d.presenter { p with hub := p.hub.drained } := by
  simp only [presenter, h.drained]

theorem presenter_react (sources : ScreenSources) :
    (d.presenter p).react clock sources = d.presenter (p.react clock sources) := by
  simp only [Presenter.react, d.presenter_reactAggregator, h.presenter_reactOutOfTime,
    h.presenter_reactRevoked, h.presenter_drained]

theorem presenter_runAll (backend : Backend) (jobs : List Job) :
    (d.presenter p).runAll clock network (d.backend backend) jobs =
      (d.presenter (p.runAll clock network backend jobs).1,
        d.backend (p.runAll clock network backend jobs).2) := by
  induction jobs generalizing p backend with
  | nil => rfl
  | cons job jobs ih =>
      simp only [Presenter.runAll, h.perform]
      cases (p.perform network backend job.request).1 with
      | none => exact ih p _
      | some effect =>
          simp only [Option.map_some, h.send]
          exact ih (p.send clock effect) _

theorem presenter_runJobs (backend : Backend) :
    (d.presenter p).runJobs clock network (d.backend backend) =
      (d.presenter (p.runJobs clock network backend).1,
        d.backend (p.runJobs clock network backend).2) := by
  have hrun := fun due waiting =>
    h.presenter_runAll { p with jobs := waiting } clock network backend due
  simp only [presenter] at hrun ⊢
  simp only [Presenter.runJobs, hrun, h.drained]

end Presenter

/-! ### The screen -/

section Screen

variable (s : Screen) (clock : Clock)

theorem screen_sources : (d.screen s).sources = s.sources := by
  obtain ⟨backend, network, supply, presenter⟩ := s
  cases supply with
  | given sources => rfl
  | derived feeds => simp only [Screen.sources, screen, h.tunnel, h.account, h.device]

theorem screen_reactFeeds : (d.screen s).reactFeeds clock = d.screen (s.reactFeeds clock) := by
  obtain ⟨backend, network, supply, presenter⟩ := s
  cases supply with
  | given sources => rfl
  | derived feeds => simp only [Screen.reactFeeds, screen, h.feeds]

theorem screen_react : (d.screen s).react clock = d.screen (s.react clock) := by
  simp only [Screen.react, d.screen_publishDue, h.screen_reactFeeds, h.screen_sources]
  simp only [screen, h.presenter_react]

theorem screen_runJobs : (d.screen s).runJobs clock = d.screen (s.runJobs clock) := by
  simp only [Screen.runJobs, screen, h.presenter_runJobs]

/-- A disguised screen comes to rest as the screen itself. -/
theorem screen_settle : d.screen (Screen.settle clock s) = Screen.settle clock (d.screen s) := by
  simp only [Screen.settle, h.screen_react, h.screen_runJobs]

end Screen

/-! ### Time that passes -/

theorem screen_advance (ms : Nat) (timed : Timed Screen) :
    Screen.machine.advance ms ⟨timed.clock, d.screen timed.state⟩ =
      ⟨(Screen.machine.advance ms timed).clock,
        d.screen (Screen.machine.advance ms timed).state⟩ :=
  Machine.advance_map d.screen (fun clock s => h.screen_settle s clock) d.screen_nextDue? ms timed

theorem screen_advanceTo (ms : Nat) (timed : Timed Screen) :
    Screen.machine.advanceTo ms ⟨timed.clock, d.screen timed.state⟩ =
      ⟨(Screen.machine.advanceTo ms timed).clock,
        d.screen (Screen.machine.advanceTo ms timed).state⟩ :=
  Machine.advanceTo_map d.screen (fun clock s => h.screen_settle s clock) d.screen_nextDue? ms
    timed

end IsUnnoticed

end Disguise

end VpnClient
