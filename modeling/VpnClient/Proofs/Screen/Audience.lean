import VpnClient.Proofs.Screen.Convergence
import VpnClient.Proofs.Screen.Disguise

/-!
# A screen does not depend on who listens

What a screen sends is not answered.  Whether an observer takes it, reads it or has gone away makes
no difference to anything but what the observers have got.

## Main Definitions

* `Presenter.unheard`, `Screen.unheard` — all of it but the observers and what they have got
* `Screen.heardBy` — a screen with certain observers

## Main Statements

* `Screen.run_unheard` — a run that nobody listens to is the run itself, but for the observers
* `Screen.run_heardBy` — a run is the same whoever listens
-/

namespace VpnClient

/-- A presenter nobody listens to, and nobody has. -/
def Presenter.unheard (p : Presenter) : Presenter :=
  { p with hub := .empty, delivered := [] }

namespace Screen

/-- A screen nobody listens to, and nobody has. -/
def unheard (screen : Screen) : Screen :=
  { screen with presenter := screen.presenter.unheard }

variable (screen : Screen) (clock : Clock)

/-- The disguise in which there are no observers. -/
def withoutObservers : Disguise where
  effect := id
  hub := fun _ => .empty
  delivered := fun _ => []
  backend := id

/-- Sending has no consequences but for those who listen, and no request is answered by them. -/
theorem isUnnoticed_withoutObservers : withoutObservers.IsUnnoticed where
  outOfTime := rfl
  revokedDevice := rfl
  send := fun _ _ _ => rfl
  drained := fun _ => rfl
  tunnel := fun _ => rfl
  account := fun _ => rfl
  device := fun _ => rfl
  feeds := fun _ _ _ => rfl
  perform := by
    intro p network backend request
    rw [show withoutObservers.effect = id from rfl, Option.map_id]
    cases request <;> rfl

/-- A screen comes to rest whoever listens. -/
theorem settle_unheard : (settle clock screen).unheard = settle clock screen.unheard :=
  isUnnoticed_withoutObservers.screen_settle screen clock

theorem perform_unheard (action : ScreenAction) :
    screen.unheard.perform clock action = (screen.perform clock action).unheard := by
  cases action with
  | change written => rfl
  | click click => exact withoutObservers.screen_click clock screen click
  | start => exact withoutObservers.screen_start clock screen

theorem step_unheard (timed : Timed Screen) (step : ScreenStep) :
    Screen.step ⟨timed.clock, timed.state.unheard⟩ step =
      ⟨(Screen.step timed step).clock, (Screen.step timed step).state.unheard⟩ := by
  cases step with
  | act action =>
      simp only [Screen.step, Machine.act, perform_unheard]
      exact congrArg (Timed.mk timed.clock) (settle_unheard _ timed.clock).symm
  | advance ms => exact isUnnoticed_withoutObservers.screen_advance ms timed

/-- A run that nobody listens to is the run itself, but for the observers. -/
theorem run_unheard (timed : Timed Screen) (steps : List ScreenStep) :
    run ⟨timed.clock, timed.state.unheard⟩ steps =
      ⟨(run timed steps).clock, (run timed steps).state.unheard⟩ := by
  induction steps generalizing timed with
  | nil => rfl
  | cons step steps ih =>
      simp only [run, List.foldl_cons]
      rw [step_unheard]
      exact ih (Screen.step timed step)

/-- A screen with certain observers. -/
def heardBy (screen : Screen) (hub : Hub Effect) : Screen :=
  { screen with presenter := { screen.presenter with hub := hub } }

/-- The observers have no influence on a run, whatever they have taken or will take. -/
theorem run_heardBy (hub other : Hub Effect) (steps : List ScreenStep) :
    (run ⟨clock, screen.heardBy hub⟩ steps).state.unheard =
      (run ⟨clock, screen.heardBy other⟩ steps).state.unheard := by
  have hunheard := fun hub => run_unheard ⟨clock, screen.heardBy hub⟩ steps
  exact congrArg Timed.state ((hunheard hub).symm.trans (hunheard other))

end Screen

end VpnClient
