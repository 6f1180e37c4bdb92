import VpnClient.Playback.Play
import VpnClient.Proofs.Config.Document

/-!
# The stage of a playback

A playback starts with a screen that is set up for it, and goes on by the delays of its steps.

## Main Definitions

* `Script.clockAfter` — the clock when some delays have passed

## Main Statements

* `Script.exists_stage` — a screen can be set up with a configuration that is in order
* `Script.play_of_stage` — what becomes of a playback once there is a screen for it
* `Script.afterDelay_clock` — a delay takes exactly its time
-/

namespace VpnClient

/-- A screen can be set up with a configuration that is in order: its web page is one. -/
theorem Screen.exists_wire_of_problem? {config : ConnectConfig} (h : config.problem? = none)
    (clock : Clock) (backend : Backend) :
    ∃ screen, Screen.wire config clock backend = .ok screen := by
  obtain ⟨page, hpage⟩ := ConnectConfig.exists_accountPage h
  simp only [Screen.wire, Presenter.make, hpage]
  exact ⟨_, rfl⟩

namespace Script

theorem exists_stage {config : ConnectConfig} (h : config.problem? = none) (clock : Clock) :
    ∃ screen, stage config clock = .ok screen := by
  obtain ⟨screen, hscreen⟩ := Screen.exists_wire_of_problem? h clock .initial
  rw [stage, hscreen]
  exact ⟨_, rfl⟩

/-- What becomes of a playback once there is a screen for it. -/
theorem play_of_stage {config : ConnectConfig} {clock : Clock} {screen : Screen}
    (h : stage config clock = .ok screen) (script : Script) :
    script.play config clock = .ok (match playSteps ⟨clock, screen⟩ script.steps with
      | (timed, .error failure) => ⟨timed.state, .error failure⟩
      | (timed, .ok ()) => ⟨(afterDelay (config.debounceMs + margin) timed).state, .ok ()⟩) := by
  rw [play, h]
  change (match playSteps ⟨clock, screen⟩ script.steps with
    | (timed, .error failure) => _
    | (timed, .ok ()) => _) = _
  split <;> rfl

/-- The clock when some delays have passed. -/
def clockAfter (clock : Clock) (delays : List Nat) : Clock :=
  clock.withElapsed (clock.elapsed + delays.sum)

/-- A delay takes exactly its time. -/
theorem afterDelay_clock (ms : Nat) (timed : Timed Screen) :
    (afterDelay ms timed).clock = clockAfter timed.clock [ms] := by
  rw [afterDelay]
  split
  · next hnone =>
    rw [hnone]
    rfl
  · rfl

end Script

end VpnClient
