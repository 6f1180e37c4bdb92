import VpnClient.Proofs.Playback.Stage
import VpnClient.Proofs.Screen.Disguise

/-!
# Tokens stay out of reports

The token by which a user is logged in gets from a script into the backend, from there into the
effect of a click, and with that effect to an observer.  What is reported of a playback does not
depend on it.

The proof masks the tokens: the contents of every token is replaced by nothing, so that only its
presence is left.  A masked screen does what the screen itself does, with the tokens of its effects
masked, and no line about an effect says more of a token than that there is one.

## Main Definitions

* `Backend.masked`, `Effect.masked`, `Screen.masked` — without the contents of tokens
* `Disguise.ofTokens` — the disguise in which a masked screen is seen
* `Script.masked` — a script without the contents of its tokens
* `Playback.report` — what can be seen of a playback

## Main Statements

* `Disguise.isUnnoticed_ofTokens` — nothing on a screen looks at the contents of a token
* `Script.play_masked` — a masked script is played as the script itself
* `Playback.report_masked` — the contents of tokens is not reported
* `Script.report_eq_of_masked_eq` — scripts that differ in the contents of their tokens only have
  the same report
-/

namespace VpnClient

/-! ## Masks -/

/-- Whether there is a token, and nothing of its contents. -/
def maskToken (token : Option String) : Option String :=
  token.map fun _ => ""

namespace AccountLink

/-- A link without the contents of its token. -/
def masked (link : AccountLink) : AccountLink :=
  { link with token := maskToken link.token }

@[simp]
theorem hasToken_masked (link : AccountLink) : link.masked.hasToken = link.hasToken := by
  simp only [hasToken, masked, maskToken, Option.isSome_map]

end AccountLink

/-- An effect without the contents of a token. -/
def Effect.masked : Effect → Effect
  | .openAccount link => .openAccount link.masked
  | effect => effect

/-- A hub whose items have been replaced. -/
def Hub.map {ε : Type} (f : ε → ε) (hub : Hub ε) : Hub ε :=
  ⟨hub.observers.map fun observer => { observer with queue := observer.queue.map f }⟩

/-- A delivery without the contents of a token. -/
def Delivery.masked (delivery : Delivery) : Delivery :=
  { delivery with effect := delivery.effect.masked }

/-- A backend that knows of its token only whether there is one. -/
def Backend.masked (backend : Backend) : Backend :=
  { backend with authToken := maskToken backend.authToken }

/-- A change of the backend without the contents of a token. -/
def BackendChange.masked : BackendChange → BackendChange
  | .authToken token => .authToken (maskToken token)
  | change => change

/-- The disguise that leaves of every token only that there is one. -/
def Disguise.ofTokens : Disguise where
  effect := Effect.masked
  hub := Hub.map Effect.masked
  delivered := List.map Delivery.masked
  backend := Backend.masked

/-- A screen without the contents of tokens. -/
def Screen.masked (screen : Screen) : Screen :=
  Disguise.ofTokens.screen screen

/-- A step of a script in which only the presence of a token is left. -/
def ScriptStep.masked (step : ScriptStep) : ScriptStep :=
  { step with authToken := maskToken step.authToken }

/-- A script without the contents of its tokens. Two scripts are equal up to those if they are
equal so. -/
def Script.masked (script : Script) : Script :=
  ⟨script.steps.map ScriptStep.masked⟩

/-- A playback without the contents of tokens. -/
def Playback.masked (playback : Playback) : Playback :=
  { playback with screen := playback.screen.masked }

/-- An event without the contents of a token. -/
def ScreenEvent.masked : ScreenEvent → ScreenEvent
  | .published publication => .published publication
  | .delivered delivery => .delivered delivery.masked

/-! ## The backend -/

namespace Backend

/-- Whatever the tunnel is asked for, it does not need the token. -/
theorem connect_masked (backend : Backend) :
    backend.masked.connect = (backend.connect.1, backend.connect.2.masked) := by
  have hrecord : backend.masked.record .connect = (backend.record .connect).masked := rfl
  rw [connect, connect, hrecord]
  generalize backend.record .connect = called
  have hpermission : called.masked.hasPermission = called.hasPermission := rfl
  have hfailure : called.masked.connectFailure = called.connectFailure := rfl
  have htunnel : called.masked.tunnel = called.tunnel := rfl
  rw [hpermission, hfailure, htunnel]
  cases called.hasPermission with
  | false => rfl
  | true =>
      cases called.connectFailure with
      | some reason => rfl
      | none => cases called.tunnel.value.isConnected <;> rfl

theorem disconnect_masked (backend : Backend) :
    backend.masked.disconnect = (backend.disconnect.1, backend.disconnect.2.masked) :=
  rfl

theorem reconnect_masked (backend : Backend) :
    backend.masked.reconnect = (backend.reconnect.1, backend.reconnect.2.masked) := by
  have hrecord : backend.masked.record .reconnect = (backend.record .reconnect).masked := rfl
  rw [reconnect, reconnect, hrecord]
  generalize backend.record .reconnect = called
  change (if called.tunnel.value.isDisconnected then _ else _) = _
  cases called.tunnel.value.isDisconnected <;> rfl

theorem verifyPurchases_masked (backend : Backend) :
    backend.masked.verifyPurchases =
      (backend.verifyPurchases.1, backend.verifyPurchases.2.masked) := by
  rcases backend with ⟨_, _, _, _, _, _, _, _, _, _, pending, _, isProviderDown, _, _⟩
  cases isProviderDown with
  | true => rfl
  | false => cases pending <;> rfl

theorem refreshAccount_masked (backend : Backend) :
    backend.masked.refreshAccount = backend.refreshAccount.masked := by
  have haccount : backend.masked.account = backend.account := rfl
  have hdays : backend.masked.verifiedDays = backend.verifiedDays := rfl
  simp only [refreshAccount, haccount, hdays]
  by_cases hnone : backend.verifiedDays = 0
  · simp only [if_pos hnone]
  · simp only [if_neg hnone]
    cases backend.account.value with
    | none => rfl
    | some account =>
        dsimp only
        cases credit account backend.verifiedDays <;> rfl

theorem apply_masked (backend : Backend) (change : BackendChange) :
    backend.masked.apply change.masked = (backend.apply change).masked := by
  cases change <;> rfl

end Backend

/-! ## The hub -/

namespace Hub

variable {ε : Type} (f : ε → ε)

/-- Who takes an item does not depend on what the items are. -/
theorem deliver_map (item : ε) (observers : List (Observer ε)) :
    deliver (f item) (observers.map fun o => { o with queue := o.queue.map f }) =
      ((deliver item observers).1,
        (deliver item observers).2.map fun o => { o with queue := o.queue.map f }) := by
  induction observers with
  | nil => rfl
  | cons observer rest ih =>
      have haccepts : ({ observer with queue := observer.queue.map f } : Observer ε).accepts =
          observer.accepts := by
        simp only [Observer.accepts, List.length_map]
      simp only [List.map_cons, deliver, haccepts]
      split
      · simp only [List.map_cons, List.map_append, List.map_nil]
      · rw [ih]
        simp only [List.map_cons]

theorem send_map (hub : Hub ε) (item : ε) :
    (hub.map f).send (f item) = ((hub.send item).1, (hub.send item).2.map f) := by
  simp only [send, map, deliver_map f item hub.observers]

theorem drained_map (hub : Hub ε) : (hub.map f).drained = hub.drained.map f := by
  simp only [drained, map, List.map_map, Function.comp_def, List.map_nil]

end Hub

/-! ## The screen -/

namespace Disguise

variable (p : Presenter) (clock : Clock) (network : Network)

theorem send_ofTokens (effect : Effect) :
    (ofTokens.presenter p).send clock effect.masked = ofTokens.presenter (p.send clock effect) := by
  simp only [Presenter.send, presenter, ofTokens, Hub.send_map Effect.masked, List.map_append]
  cases (p.hub.send effect).1 <;> rfl

/-- A request makes no use of the contents of the token but to hand it on. -/
theorem perform_ofTokens (backend : Backend) (request : ScreenRequest) :
    (ofTokens.presenter p).perform network backend.masked request =
      ((p.perform network backend request).1.map Effect.masked,
        (p.perform network backend request).2.masked) := by
  have hask : ∀ ask : Backend → Except ConnectError Unit × Backend,
      ask backend.masked = ((ask backend).1, (ask backend).2.masked) →
      Presenter.ask network backend.masked ask =
        ((Presenter.ask network backend ask).1, (Presenter.ask network backend ask).2.masked) := by
    intro ask hmasked
    simp only [Presenter.ask, hmasked]
    split <;> rfl
  have heffect : ∀ result, (Presenter.effectOf? result).map Effect.masked =
      Presenter.effectOf? result := by
    rintro (error | done)
    · cases error <;> rfl
    · rfl
  cases request with
  | connect => simp only [Presenter.perform, hask _ backend.connect_masked, heffect]
  | disconnect => simp only [Presenter.perform, hask _ backend.disconnect_masked, Option.map_none]
  | reconnect => simp only [Presenter.perform, hask _ backend.reconnect_masked, Option.map_none]
  | manageAccount => rfl
  | dismissNewDevice => rfl
  | explainDenial => rfl
  | verifyPurchases =>
      simp only [Presenter.perform]
      cases network.failure with
      | some reason => rfl
      | none =>
          rw [backend.verifyPurchases_masked]
          obtain ⟨result, verified⟩ := backend.verifyPurchases
          rcases result with error | nothing | found
          · rfl
          · rfl
          · simp only [verified.refreshAccount_masked, Option.map_none]

/-- Nothing on a screen looks at the contents of a token. -/
theorem isUnnoticed_ofTokens : ofTokens.IsUnnoticed where
  outOfTime := rfl
  revokedDevice := rfl
  send := send_ofTokens
  drained := Hub.drained_map Effect.masked
  tunnel := fun _ => rfl
  account := fun _ => rfl
  device := fun _ => rfl
  feeds := fun _ _ _ => rfl
  perform := perform_ofTokens

end Disguise

namespace Screen

variable (screen : Screen) (clock : Clock)

/-- A masked screen comes to rest as the screen itself. -/
theorem settle_masked : (settle clock screen).masked = settle clock screen.masked :=
  Disguise.isUnnoticed_ofTokens.screen_settle screen clock

theorem change_masked (change : BackendChange) :
    screen.masked.change change.masked = (screen.change change).masked := by
  simp only [Screen.change, masked, Disguise.screen, Disguise.ofTokens, Backend.apply_masked]

theorem foldl_change_masked (changes : List BackendChange) :
    (changes.map BackendChange.masked).foldl Screen.change screen.masked =
      (changes.foldl Screen.change screen).masked := by
  induction changes generalizing screen with
  | nil => rfl
  | cons change changes ih =>
      simp only [List.map_cons, List.foldl_cons, change_masked, ih]

theorem click_masked (click : Click) :
    screen.masked.click clock click = (screen.click clock click).masked :=
  Disguise.ofTokens.screen_click clock screen click

end Screen

/-! ## The playback of a script -/

namespace ScriptStep

/-- The changes of a masked step are the masked changes of the step. -/
theorem changes_masked (step : ScriptStep) (now : Instant) :
    step.masked.changes now = (step.changes now).map (List.map BackendChange.masked) := by
  rw [changes, changes]
  change (step.account.mapM fun term => term.account now) >>= _ = _
  cases step.account.mapM fun term => term.account now with
  | error failure => rfl
  | ok account =>
      refine congrArg Except.ok ?_
      have hmap : ∀ changes : List (Option BackendChange),
          (changes.filterMap id).map BackendChange.masked =
            (changes.map (Option.map BackendChange.masked)).filterMap id := by
        intro changes
        rw [List.map_filterMap, List.filterMap_map]
        rfl
      rw [hmap]
      simp only [masked, maskToken, List.map_cons, List.map_nil, Option.map_map,
        Function.comp_def, BackendChange.masked]
      rfl

theorem perform_masked (step : ScriptStep) (clock : Clock) (screen : Screen) :
    step.masked.perform clock screen.masked = (step.perform clock screen).map Screen.masked := by
  have haction : step.masked.action = step.action := rfl
  rw [perform, perform, changes_masked, haction]
  cases step.changes clock.now with
  | error failure => rfl
  | ok changes =>
      refine congrArg Except.ok ?_
      rw [Screen.foldl_change_masked]
      cases step.action with
      | none => rfl
      | some click => exact Screen.click_masked _ clock click

end ScriptStep

namespace Script

/-- A screen without the contents of tokens, with its clock. -/
def maskTimed (timed : Timed Screen) : Timed Screen :=
  ⟨timed.clock, timed.state.masked⟩

theorem act_masked (timed : Timed Screen) :
    Screen.machine.act id (maskTimed timed) = maskTimed (Screen.machine.act id timed) := by
  simp only [Machine.act, maskTimed, Screen.machine, id, Screen.settle_masked]

theorem afterDelay_masked (ms : Nat) (timed : Timed Screen) :
    afterDelay ms (maskTimed timed) = maskTimed (afterDelay ms timed) := by
  rw [afterDelay, afterDelay]
  by_cases hnone : ms = 0
  · rw [if_pos hnone, if_pos hnone]
  · rw [if_neg hnone, if_neg hnone, act_masked]
    exact Disguise.isUnnoticed_ofTokens.screen_advanceTo ms _

theorem playSteps_masked (timed : Timed Screen) (steps : List ScriptStep) :
    playSteps (maskTimed timed) (steps.map ScriptStep.masked) =
      (maskTimed (playSteps timed steps).1, (playSteps timed steps).2) := by
  induction steps generalizing timed with
  | nil => rfl
  | cons step steps ih =>
      have hdelay : step.masked.delayMs = step.delayMs := rfl
      simp only [List.map_cons, playSteps, hdelay, afterDelay_masked]
      have hperform := step.perform_masked (afterDelay step.delayMs timed).clock
        (afterDelay step.delayMs timed).state
      cases hresult : step.perform (afterDelay step.delayMs timed).clock
          (afterDelay step.delayMs timed).state with
      | error failure =>
          rw [hresult] at hperform
          simp only [maskTimed, hperform, Except.map]
      | ok screen =>
          rw [hresult] at hperform
          simp only [maskTimed, hperform, Except.map]
          have hact := act_masked { afterDelay step.delayMs timed with state := screen }
          simp only [maskTimed] at hact
          rw [hact]
          exact ih _

/-- A screen at its start has neither a token nor an effect. -/
theorem stage_masked (config : ConnectConfig) (clock : Clock) :
    (stage config clock).map Screen.masked = stage config clock := by
  rw [stage, Screen.wire, Presenter.make]
  cases Url.parse config.accountUrl <;> rfl

/-- A masked script is played as the script itself, with its tokens masked. -/
theorem play_masked (script : Script) (config : ConnectConfig) (clock : Clock) :
    script.masked.play config clock = (script.play config clock).map Playback.masked := by
  have hstage := stage_masked config clock
  cases hscreen : stage config clock with
  | error failure => simp only [play, hscreen, bind, Except.bind, Except.map]
  | ok screen =>
      rw [hscreen, Except.map, Except.ok.injEq] at hstage
      have hstart : maskTimed ⟨clock, screen⟩ = ⟨clock, screen⟩ := congrArg (Timed.mk clock) hstage
      have hsteps := playSteps_masked ⟨clock, screen⟩ script.steps
      rw [hstart] at hsteps
      rw [play_of_stage hscreen, play_of_stage hscreen, Except.map, masked, hsteps]
      obtain ⟨timed, result⟩ := playSteps ⟨clock, screen⟩ script.steps
      cases result with
      | error failure => rfl
      | ok done =>
          dsimp only
          rw [afterDelay_masked]
          rfl

end Script

/-! ## Reports -/

namespace Effect

/-- A line about an effect says of a token only that there is one. -/
theorem sentence_masked (effect : Effect) : effect.masked.sentence = effect.sentence := by
  cases effect with
  | openAccount link => simp only [masked, sentence, AccountLink.hasToken_masked]
  | outOfTime => rfl
  | revokedDevice => rfl
  | noVpnPermission => rfl
  | connectError obstacle => rfl

theorem name_masked (effect : Effect) : effect.masked.name = effect.name := by
  cases effect <;> rfl

/-- A record of an effect says of a token only that there is one. -/
theorem particulars_masked (effect : Effect) :
    effect.masked.particulars = effect.particulars := by
  cases effect with
  | openAccount link => simp only [masked, particulars, AccountLink.hasToken_masked]
  | outOfTime => rfl
  | revokedDevice => rfl
  | noVpnPermission => rfl
  | connectError obstacle => rfl

end Effect

namespace ScreenEvent

theorem time_masked (event : ScreenEvent) : event.masked.time = event.time := by
  cases event <;> rfl

theorem line_masked (coloured : Bool) (event : ScreenEvent) :
    event.masked.line coloured = event.line coloured := by
  cases event with
  | published publication => rfl
  | delivered delivery =>
      simp only [masked, line, Delivery.line, Delivery.masked, Effect.sentence_masked]

theorem toData_masked (event : ScreenEvent) : event.masked.toData = event.toData := by
  cases event with
  | published publication => rfl
  | delivered delivery =>
      simp only [masked, toData, Delivery.toData, Delivery.masked, Effect.name_masked,
        Effect.particulars_masked]

end ScreenEvent

theorem PlayCommand.eventLine_masked (command : PlayCommand) (coloured : Bool)
    (event : ScreenEvent) :
    command.eventLine coloured event.masked = command.eventLine coloured event := by
  simp only [eventLine, ScreenEvent.recordLine, event.toData_masked, event.line_masked]

namespace Playback

/-- What can be seen of a playback: the lines that are printed, each with its time, and how the
playback has ended. -/
def report (playback : Playback) (command : PlayCommand) (coloured : Bool) :
    List (Nat × String) × Except Failure Unit :=
  (playback.events.map fun event => (event.time, command.eventLine coloured event),
    playback.result)

/-- The order of the events is that of their times. -/
theorem events_masked (playback : Playback) :
    playback.masked.events = playback.events.map ScreenEvent.masked := by
  rw [events, events, List.map_mergeSort (s := fun a b => decide (a.time ≤ b.time))]
  · simp only [masked, Screen.masked, Disguise.screen, Disguise.presenter, Disguise.ofTokens,
      List.map_append, List.map_map,
      Function.comp_def, ScreenEvent.masked]
  · intro a _ b _
    rw [a.time_masked, b.time_masked]

theorem report_masked (playback : Playback) (command : PlayCommand) (coloured : Bool) :
    playback.masked.report command coloured = playback.report command coloured := by
  simp only [report, events_masked, List.map_map, Function.comp_def, ScreenEvent.time_masked,
    PlayCommand.eventLine_masked]
  rfl

end Playback

namespace Script

/-- Scripts that have their tokens in the same steps, and differ in the contents of these only, have
the same report, whatever they are played with and however that is printed. -/
theorem report_eq_of_masked_eq {a b : Script} (h : a.masked = b.masked) (config : ConnectConfig)
    (clock : Clock) (command : PlayCommand) (coloured : Bool) :
    (a.play config clock).map (·.report command coloured) =
      (b.play config clock).map (·.report command coloured) := by
  have hreport : ∀ script : Script,
      (script.play config clock).map (·.report command coloured) =
        (script.masked.play config clock).map (·.report command coloured) := by
    intro script
    rw [play_masked]
    cases script.play config clock with
    | error failure => rfl
    | ok playback => exact congrArg Except.ok (playback.report_masked command coloured).symm
  rw [hreport a, hreport b, h]

/-- A script in which the user gets a token and then asks for the page of the account. -/
def login (token : String) : Script where
  steps := [{
    delayMs := 0, tunnel := none, selection := none, account := none, device := none,
    newDevice := none, version := none, permission := none, alwaysOnApp := none,
    connectFailure := none, authToken := some token, pendingDays := none,
    action := some .manageAccount }]

/-- Users with different tokens see the same: that they will be logged in. -/
theorem report_eq_of_logins :
    (login "sesame").masked = (login "12345").masked ∧
      (((login "sesame").play .initial ⟨⟨1717243258, 0⟩, 0⟩).toOption.map fun playback =>
        playback.screen.presenter.delivered.map (·.line false)) =
          some ["[+    0ms] effect open account page (logged in)"] ∧
      ((login "sesame").play .initial ⟨⟨1717243258, 0⟩, 0⟩).map
          (·.report ⟨"demo.toml", false⟩ false) =
        ((login "12345").play .initial ⟨⟨1717243258, 0⟩, 0⟩).map
          (·.report ⟨"demo.toml", false⟩ false) := by
  have hmasked : (login "sesame").masked = (login "12345").masked := rfl
  refine ⟨hmasked, by decide +kernel, ?_⟩
  exact report_eq_of_masked_eq hmasked .initial ⟨⟨1717243258, 0⟩, 0⟩ ⟨"demo.toml", false⟩ false

end Script

end VpnClient
