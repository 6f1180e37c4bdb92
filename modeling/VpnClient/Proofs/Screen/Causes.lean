import VpnClient.Proofs.Screen.Attended
import VpnClient.Proofs.Screen.Audience

/-!
# Every effect has one cause

Somebody listens to a screen from its beginning on and always reads what there is.  What they are
told in a run follows from the steps of the run, one by one: from the clicks, as the services were
at that moment, and from the device being revoked.  An account that runs out of time is left out,
since its effect comes with time that passes.

## Main Definitions

* `ScreenStep.effects`, `Screen.effectsAlong` — the effects of a step and of a run
* `ScreenStep.calls` — the requests of a step that reach the tunnel
* `Screen.EffectsHaveCauses` — what is told in a run has its causes in the run

## Main Statements

* `Screen.IsAtRest.act` — what the observer is told after an action
* `Screen.IsAtRest.settle_click` — a click with an effect touches no state
* `Screen.effects_have_causes` — what is told in a run has its causes in the run
-/

namespace VpnClient

/-! ## The causes -/

namespace ScreenAction

/-- The effects that an action has, except that an account runs out of time. -/
def effects (page : Url) (screen : Screen) : ScreenAction → List Effect
  | .click pressed => pressed.effects page screen.backend
  | .change written =>
    if screen.presenter.isStarted && (!screen.backend.device.value.isRevoked
        && (screen.backend.apply written).device.value.isRevoked) then
      [.revokedDevice]
    else []
  | .start =>
    if !screen.presenter.isStarted && screen.backend.device.value.isRevoked then [.revokedDevice]
    else []

/-- The requests of an action that reach the tunnel. -/
def calls : ScreenAction → List TunnelCall
  | .click pressed => pressed.calls
  | .change _ | .start => []

end ScreenAction

namespace ScreenStep

/-- The effects that a step has, except that an account runs out of time. -/
def effects (page : Url) (screen : Screen) : ScreenStep → List Effect
  | .act action => action.effects page screen
  | .advance _ => []

/-- The requests of a step that reach the tunnel. -/
def calls : ScreenStep → List TunnelCall
  | .act action => action.calls
  | .advance _ => []

end ScreenStep

namespace Screen

/-- The effects that the steps of a run have, each on the screen as it was before the step. -/
def effectsAlong (page : Url) : Timed Screen → List ScreenStep → List Effect
  | _, [] => []
  | timed, next :: steps =>
    next.effects page timed.state ++ effectsAlong page (step timed next) steps

/-- A screen with nothing due, after its backend was written or a request was made. -/
def disturbed (screen : Screen) (clock : Clock) (backend : Backend)
    (request : Option ScreenRequest) : Screen :=
  { screen with
    backend := backend
    presenter := { screen.presenter with jobs := request.toList.map (⟨·, clock.elapsed⟩) } }

/-- A screen after requests to the tunnel that change nothing and an effect that was delivered. -/
def answered (screen : Screen) (clock : Clock) (calls : List TunnelCall) (effect : Effect) :
    Screen :=
  { screen with
    backend := { screen.backend with calls := screen.backend.calls ++ calls }
    presenter := { screen.presenter with
      delivered := screen.presenter.delivered ++ [⟨clock.elapsed, 0, effect⟩] } }

namespace IsAtRest

variable {screen : Screen} {page : Url} {clock : Clock} {backend : Backend}

theorem isAttended_disturbed (h : screen.IsAtRest page clock)
    (hlater : screen.backend.Later backend) (request : Option ScreenRequest) :
    (screen.disturbed clock backend request).IsAttended page clock request where
  isLive := ⟨h.isAttended.isLive.backend.of_later hlater, h.isAttended.isLive.feeds⟩
  network_eq := h.isAttended.network_eq
  accountPage_eq := h.isAttended.accountPage_eq
  isClosed_eq := h.isAttended.isClosed_eq
  hub_eq := h.isAttended.hub_eq
  jobs_eq := rfl
  revoked_isSome := h.isAttended.revoked_isSome
  follows := by
    rintro w hw hseen
    obtain rfl := h.hasLooked w hw
    have hsame := hlater.device.eq_of_revision_eq (Option.some_inj.mp hseen).symm
    exact congrArg RevokedWatch.current hsame.symm

/-- The watch tells of a device that has been revoked since the screen was at rest. -/
theorem isNewlyRevoked_disturbed (h : screen.IsAtRest page clock)
    (hlater : screen.backend.Later backend) (request : Option ScreenRequest) :
    (screen.disturbed clock backend request).isNewlyRevoked =
      (screen.presenter.isStarted &&
        (!screen.backend.device.value.isRevoked && backend.device.value.isRevoked)) := by
  rw [← h.isAttended.revoked_isSome]
  show (screen.presenter.revoked.any fun w => (w.react backend.device).1) = _
  cases hw : screen.presenter.revoked with
  | none => rfl
  | some w =>
      obtain rfl := h.hasLooked w hw
      rw [Option.any_some, Option.isSome_some, Bool.true_and, RevokedWatch.react]
      split
      · next hseen =>
        rw [hlater.device.eq_of_revision_eq (Option.some_inj.mp hseen).symm, Bool.not_and_self]
      · exact Bool.and_comm _ _

/-- A screen at rest that is disturbed comes to rest again. -/
theorem settle_disturbed (h : screen.IsAtRest page clock) (hlater : screen.backend.Later backend)
    (request : Option ScreenRequest) :
    let answer := screen.presenter.answer backend request
    let rested := Screen.settle clock (screen.disturbed clock backend request)
    rested.IsAtRest page clock ∧ rested.backend = answer.2 ∧
      rested.presenter.told = screen.presenter.told ++
        (if screen.presenter.isStarted && (!screen.backend.device.value.isRevoked
            && backend.device.value.isRevoked) then
          [.revokedDevice]
        else []) ++ answer.1.toList.filter (· ≠ .outOfTime) := by
  intro answer rested
  have hanswer : (screen.disturbed clock backend request).presenter.answer backend request =
      answer := Presenter.answer_congr rfl backend request
  obtain ⟨hrest, hbackend, htold⟩ := (h.isAttended_disturbed hlater request).settle
  rw [h.isNewlyRevoked_disturbed hlater] at htold
  refine ⟨hrest, hbackend.trans (congrArg Prod.snd hanswer), htold.trans ?_⟩
  rw [← hanswer]
  rfl

/-- A request tells the observer what it is answered, and nothing else. -/
theorem settle_request (h : screen.IsAtRest page clock) (request : Option ScreenRequest) :
    let answer := screen.presenter.answer screen.backend request
    let rested := Screen.settle clock (screen.disturbed clock screen.backend request)
    rested.IsAtRest page clock ∧ rested.backend = answer.2 ∧
      rested.presenter.told =
        screen.presenter.told ++ answer.1.toList.filter (· ≠ .outOfTime) := by
  intro answer rested
  obtain ⟨hrest, hbackend, htold⟩ := h.settle_disturbed (.refl _) request
  rw [Bool.not_and_self, Bool.and_false, if_neg Bool.false_ne_true, List.append_nil] at htold
  exact ⟨hrest, hbackend, htold⟩

/-- A screen at rest is only disturbed by what happens to it. -/
theorem disturbed_none (h : screen.IsAtRest page clock) :
    screen.disturbed clock screen.backend none = screen := by
  have hjobs : screen.presenter.jobs = [] := h.isAttended.jobs_eq
  rw [disturbed, Option.toList_none, List.map_nil, ← hjobs]

/-- A click makes its request, which is due at once. -/
theorem click_eq (h : screen.IsAtRest page clock) (pressed : Click) :
    screen.click clock pressed =
      screen.disturbed clock screen.backend (some pressed.request) := by
  have hjobs : screen.presenter.jobs = [] := h.isAttended.jobs_eq
  simp only [Screen.click, Presenter.click, Presenter.addJob, h.isAttended.isClosed_eq,
    h.isAttended.network_eq, hjobs, Network.perfect, Bool.false_eq_true, if_false, ite_self,
    Nat.add_zero, List.nil_append, disturbed, Option.toList_some, List.map_cons, List.map_nil]

/-- A start is a look at everything, with a request that is answered nothing. -/
theorem start (h : screen.IsAtRest page clock) (hnotStarted : screen.presenter.isStarted = false) :
    let rested := Screen.settle clock (screen.start clock)
    rested.IsAtRest page clock ∧
      rested.presenter.told =
        screen.presenter.told ++ (if screen.backend.device.value.isRevoked then [.revokedDevice]
          else []) ∧
      rested.backend.calls = screen.backend.calls := by
  intro rested
  have hjobs : screen.presenter.jobs = [] := h.isAttended.jobs_eq
  have hstart : screen.start clock = { screen with
      presenter := { screen.presenter with
        isStarted := true
        aggregator := some (.launch screen.presenter.window)
        outOfTime := some .launch
        revoked := some .launch
        jobs := [⟨.verifyPurchases, clock.elapsed⟩] } } := by
    have hdue : clock.elapsed + screen.network.latency = clock.elapsed := by
      rw [h.isAttended.network_eq]
      rfl
    rw [Screen.start, Presenter.start_of_resting clock screen.network h.isAttended.isClosed_eq
      hnotStarted, hdue, hjobs, List.nil_append]
  have hattended : (screen.start clock).IsAttended page clock (some .verifyPurchases) := by
    rw [hstart]
    refine ⟨⟨h.isAttended.isLive.backend, h.isAttended.isLive.feeds⟩, h.isAttended.network_eq,
      h.isAttended.accountPage_eq, h.isAttended.isClosed_eq, h.isAttended.hub_eq, rfl, rfl, ?_⟩
    rintro w hw hseen
    cases hw
    cases hseen
  obtain ⟨hrest, hbackend, htold⟩ := hattended.settle
  have hrevoked : (screen.start clock).isNewlyRevoked = screen.backend.device.value.isRevoked := by
    rw [hstart]
    exact Bool.and_true _
  have hstarted : (screen.start clock).backend = screen.backend ∧
      (screen.start clock).presenter.told = screen.presenter.told := by
    rw [hstart]
    exact ⟨rfl, rfl⟩
  obtain ⟨hnone, hcalls⟩ := (screen.start clock).presenter.perform_verifyPurchases .perfect
    (screen.start clock).backend
  refine ⟨hrest, ?_, ?_⟩
  · rw [Presenter.answer, hnone, hrevoked, hstarted.2] at htold
    exact htold.trans (List.append_nil _)
  · rw [hbackend]
    exact hcalls.trans (congrArg Backend.calls hstarted.1)

/-- A screen at rest is at rest again after every action, of which the observer is told. -/
theorem act (h : screen.IsAtRest page clock) (action : ScreenAction) :
    let rested := Screen.settle clock (screen.perform clock action)
    rested.IsAtRest page clock ∧
      rested.presenter.told = screen.presenter.told ++ action.effects page screen ∧
      rested.backend.calls = screen.backend.calls ++ action.calls := by
  intro rested
  cases action with
  | change written =>
      have hperform : screen.perform clock (.change written) =
          screen.disturbed clock (screen.backend.apply written) none := by
        conv_lhs => rw [← h.disturbed_none]
        rfl
      obtain ⟨hrest, hbackend, htold⟩ := h.settle_disturbed (Backend.later_apply _ written) none
      rw [← hperform] at hrest hbackend htold
      refine ⟨hrest, htold.trans (List.append_nil _), ?_⟩
      rw [hbackend, ScreenAction.calls, List.append_nil]
      exact screen.backend.apply_calls written
  | click pressed =>
      have hperform : screen.perform clock (.click pressed) = _ := h.click_eq pressed
      obtain ⟨heffects, hcalls⟩ :=
        screen.presenter.perform_click screen.backend pressed
      obtain ⟨hrest, hbackend, htold⟩ := h.settle_request (some pressed.request)
      rw [← hperform] at hrest hbackend htold
      refine ⟨hrest, htold.trans ?_, ?_⟩
      · rw [Presenter.answer, heffects, h.isAttended.accountPage_eq, ScreenAction.effects,
          List.filter_eq_self.mpr]
        intro effect heffect
        refine decide_eq_true fun hout => ?_
        exact pressed.outOfTime_not_mem page screen.backend (hout ▸ heffect)
      · rw [hbackend]
        exact hcalls
  | start =>
      cases hstarted : screen.presenter.isStarted with
      | false =>
          obtain ⟨hrest, htold, hcalls⟩ := h.start hstarted
          refine ⟨hrest, ?_, hcalls.trans (List.append_nil _).symm⟩
          rw [ScreenAction.effects, hstarted]
          exact htold
      | true =>
          have hperform : screen.perform clock .start =
              screen.disturbed clock screen.backend none := by
            rw [h.disturbed_none]
            simp only [perform, Screen.start, Presenter.start, hstarted, if_true]
          obtain ⟨hrest, hbackend, htold⟩ := h.settle_request none
          rw [← hperform] at hrest hbackend htold
          refine ⟨hrest, ?_, ?_⟩
          · rw [ScreenAction.effects, hstarted]
            exact htold
          · rw [hbackend]
            exact (List.append_nil _).symm

/-- All parts of a screen at rest have looked at everything, and calls, requests and what has been
delivered are nothing to look at. -/
theorem react_eq (h : screen.IsAtRest page clock) (calls : List TunnelCall) (jobs : List Job)
    (delivered : List Delivery) :
    let looking : Screen := { screen with
      backend := { screen.backend with calls := calls }
      presenter := { screen.presenter with jobs := jobs, delivered := delivered } }
    looking.react clock = looking := by
  intro looking
  have hlive : looking.IsLive := by
    refine ⟨h.isAttended.isLive.backend.of_later ?_, h.isAttended.isLive.feeds⟩
    exact ⟨.refl _, .refl _, .refl _, .refl _, .refl _, .refl _⟩
  have hstill : looking.IsStill clock := by
    refine ⟨fun feeds hfeeds => ?_, ?_⟩
    · obtain ⟨htitle, hlastKnown, hnotifications⟩ := h.isStill.feeds feeds hfeeds
      exact ⟨htitle, hlastKnown, hnotifications.seen_eq, hnotifications.ahead⟩
    · obtain ⟨haggregator, houtOfTime, hrevoked⟩ := h.isStill.presenter
      exact ⟨haggregator, houtOfTime, hrevoked⟩
  have hread : looking.presenter.hub.drained = looking.presenter.hub := by
    have hhub : looking.presenter.hub = .holding [] := h.isAttended.hub_eq
    rw [hhub, Hub.drained_holding]
  rw [hstill.react_eq hlive, hread]

/-- A click with an effect touches no state: it is recorded if it reaches the tunnel, and the
observer gets the effect.  Nothing is published or written, and no timer is set anew. -/
theorem settle_click (h : screen.IsAtRest page clock) {pressed : Click} {effect : Effect}
    (heffect : pressed.effects page screen.backend = [effect]) :
    Screen.settle clock (screen.click clock pressed) =
      screen.answered clock pressed.calls effect := by
  rw [← h.isAttended.accountPage_eq] at heffect
  have hjobs : screen.presenter.jobs = [] := h.isAttended.jobs_eq
  have hrequest := h.isAttended_disturbed (.refl _) (some pressed.request)
  have hanswer : (screen.disturbed clock screen.backend (some pressed.request)).presenter.answer
      (screen.disturbed clock screen.backend (some pressed.request)).backend
        (some pressed.request) =
      (some effect, { screen.backend with calls := screen.backend.calls ++ pressed.calls }) :=
    Presenter.perform_of_effect _ heffect
  have hlook : (screen.disturbed clock screen.backend (some pressed.request)).react clock =
      screen.disturbed clock screen.backend (some pressed.request) :=
    h.react_eq screen.backend.calls _ screen.presenter.delivered
  rw [Screen.settle, h.click_eq, hlook, hrequest.runJobs_eq, hanswer]
  refine (h.react_eq _ [] _).trans ?_
  rw [answered, ← hjobs]
  rfl

/-- Time that passes leaves a screen at rest, and tells the observer nothing. -/
theorem advance (h : screen.IsAtRest page clock) (ms : Nat) :
    let last := machine.advance ms ⟨clock, screen⟩
    last.state.IsAtRest page last.clock ∧ last.state.presenter.told = screen.presenter.told ∧
      last.state.backend.calls = screen.backend.calls := by
  refine Machine.advance_preserves
    (P := fun clock later => later.IsAtRest page clock ∧
      later.presenter.told = screen.presenter.told ∧ later.backend.calls = screen.backend.calls)
    ?_ ?_ ms ⟨clock, screen⟩ ⟨h, rfl, rfl⟩
  · rintro clock later time ⟨hrest, htold, hcalls⟩ -
    obtain ⟨hrest', hbackend, htold'⟩ :=
      (hrest.isAttended.pass (clock.withElapsed time)).settle
    rw [IsAttended.isNewlyRevoked_eq hrest.hasLooked] at htold'
    refine ⟨hrest', htold'.trans ?_, ?_⟩
    · rw [if_neg Bool.false_ne_true, List.append_nil]
      exact (List.append_nil _).trans htold
    · exact (congrArg Backend.calls hbackend).trans hcalls
  · rintro clock later time ⟨hrest, hsame⟩ - hbefore
    exact ⟨⟨hrest.isAttended.pass _, hrest.isStill.pass hrest.isAttended.isLive hbefore,
      hrest.hasLooked⟩, hsame⟩

/-- A screen at rest is at rest after every step, of which the observer is told. -/
theorem step (h : screen.IsAtRest page clock) (next : ScreenStep) :
    let last := Screen.step ⟨clock, screen⟩ next
    last.state.IsAtRest page last.clock ∧
      last.state.presenter.told = screen.presenter.told ++ next.effects page screen ∧
      last.state.backend.calls = screen.backend.calls ++ next.calls := by
  cases next with
  | act action => exact h.act action
  | advance ms =>
      obtain ⟨hrest, htold, hcalls⟩ := h.advance ms
      exact ⟨hrest, htold.trans (List.append_nil _).symm, hcalls.trans (List.append_nil _).symm⟩

/-- In a run the observer is told of the effects of its steps, and the requests of the steps reach
the tunnel. -/
theorem run (h : screen.IsAtRest page clock) (steps : List ScreenStep) :
    let last := Screen.run ⟨clock, screen⟩ steps
    last.state.IsAtRest page last.clock ∧
      last.state.presenter.told =
        screen.presenter.told ++ effectsAlong page ⟨clock, screen⟩ steps ∧
      last.state.backend.calls = screen.backend.calls ++ steps.flatMap ScreenStep.calls := by
  -- the screen is at rest after every step, so that the next one is told by itself
  induction steps generalizing clock screen with
  | nil => exact ⟨h, (List.append_nil _).symm, (List.append_nil _).symm⟩
  | cons next steps ih =>
      obtain ⟨hrest, htold, hcalls⟩ := h.step next
      obtain ⟨hlast, htold', hcalls'⟩ := ih hrest
      refine ⟨hlast, htold'.trans ?_, hcalls'.trans ?_⟩
      · rw [htold, List.append_assoc]
        rfl
      · rw [hcalls, List.append_assoc, List.flatMap_cons]

end IsAtRest

/-! ## Runs from the beginning -/

/-- A screen that somebody listens to from its beginning on is at rest. -/
theorem exists_isAtRest {config : ConnectConfig} {page : Url}
    (hpage : Url.parse config.accountUrl = .ok page) (clock : Clock) {backend : Backend}
    (hopen : backend.IsOpen) :
    ∃ screen, wire config clock backend = .ok screen ∧ screen.backend = backend ∧
      screen.presenter.told = [] ∧ (screen.heardBy Hub.empty.subscribe.2).IsAtRest page clock := by
  refine ⟨_, by simp only [wire, Presenter.make, hpage]; rfl, rfl, rfl, ?_, ⟨?_, ?_⟩, ?_⟩
  · refine ⟨⟨hopen, _, rfl, ⟨rfl, rfl⟩, rfl⟩, rfl, rfl, rfl, rfl, rfl, rfl, ?_⟩
    intro _ hlaunched
    cases hlaunched
  · intro feeds hfeeds
    cases hfeeds
    exact Feeds.isStill_launch clock config.expiryWarningDays backend
  · refine ⟨?_, ?_, ?_⟩
    all_goals
      intro _ hlaunched
      cases hlaunched
  · intro _ hlaunched
    cases hlaunched

/-- What is told in a run of a screen has its causes in the run.  An observer who listens from the
beginning on is told of the effects of the steps and of nothing else, except that the account runs
out of time; the tunnel gets the requests of the steps.  A click that has an effect does nothing
besides, wherever the run has led to.  And whoever listens instead, whether they take what is sent
or not, the screen does the same. -/
def EffectsHaveCauses (config : ConnectConfig) (page : Url) (clock : Clock) (backend : Backend)
    (steps : List ScreenStep) : Prop :=
  ∃ screen, wire config clock backend = .ok screen ∧
    let first : Timed Screen := ⟨clock, screen.heardBy Hub.empty.subscribe.2⟩
    let last := run first steps
    last.state.presenter.told = effectsAlong page first steps ∧
      last.state.backend.calls = backend.calls ++ steps.flatMap ScreenStep.calls ∧
      (∀ pressed effect, pressed.effects page last.state.backend = [effect] →
        step last (.act (.click pressed)) =
          ⟨last.clock, last.state.answered last.clock pressed.calls effect⟩) ∧
      ∀ hub, (run ⟨clock, screen.heardBy hub⟩ steps).state.unheard = last.state.unheard

/-- Every effect of a run has one cause, and a click with an effect touches no state. -/
theorem effects_have_causes (config : ConnectConfig) {page : Url}
    (hpage : Url.parse config.accountUrl = .ok page) (clock : Clock) {backend : Backend}
    (hopen : backend.IsOpen) (steps : List ScreenStep) :
    EffectsHaveCauses config page clock backend steps := by
  obtain ⟨screen, hwire, rfl, hnothing, hbegin⟩ := exists_isAtRest hpage clock hopen
  obtain ⟨hlast, htold, hcalls⟩ := hbegin.run steps
  have hsilent : (screen.heardBy Hub.empty.subscribe.2).presenter.told = [] := hnothing
  rw [hsilent, List.nil_append] at htold
  refine ⟨screen, hwire, htold, hcalls, ?_, ?_⟩
  · intro pressed effect heffect
    exact congrArg (Timed.mk _) (hlast.settle_click heffect)
  · intro hub
    exact screen.run_heardBy clock hub Hub.empty.subscribe.2 steps

/-- A user has no permission to connect and is denied it.  Later there is the permission but no
route, the device is revoked, and the user looks at the account. -/
theorem effects_have_causes_without_route :
    let clock : Clock := ⟨⟨1717243258, 0⟩, 0⟩
    let steps : List ScreenStep := [.act .start, .act (.change (.permission false)),
      .act (.click .connect), .act (.click (.permissionResult false)),
      .act (.change (.permission true)), .act (.change (.connectFailure (some "No route"))),
      .act (.click (.permissionResult true)), .act (.change (.device .revoked)), .advance 500,
      .act (.change (.authToken (some "token"))), .act (.click .manageAccount)]
    (wire .initial clock .initial).toOption.map (fun screen =>
        let last := run ⟨clock, screen.heardBy Hub.empty.subscribe.2⟩ steps
        (last.state.presenter.told == [.noVpnPermission, .connectError .permissionDenied,
            .connectError .generic, .revokedDevice,
            .openAccount ⟨screen.presenter.accountPage, some "token"⟩],
          last.state.backend.calls)) = some (true, [.connect, .connect]) ∧
      ∃ page, Url.parse ConnectConfig.initial.accountUrl = .ok page ∧
        EffectsHaveCauses .initial page clock .initial steps := by
  intro clock steps
  refine ⟨by decide +kernel, ?_⟩
  have hpage : (Url.parse ConnectConfig.initial.accountUrl).toOption.isSome = true := by
    decide +kernel
  cases hparse : Url.parse ConnectConfig.initial.accountUrl with
  | error error =>
      rw [hparse] at hpage
      cases hpage
  | ok page =>
      have hopen : Backend.initial.IsOpen := ⟨rfl, rfl, rfl, rfl, rfl, rfl⟩
      exact ⟨page, rfl, effects_have_causes .initial hparse clock hopen steps⟩

end Screen

end VpnClient
