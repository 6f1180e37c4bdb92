import VpnClient.Config.File
import VpnClient.Outcome
import VpnClient.Playback.Report
import VpnClient.Playback.Script
import VpnClient.Screen.Screen

/-!
# Playback

A script played on a connect screen.

## Main Definitions

* `Playback` — a screen, and how playing has ended
* `Script.play` — a script played from its start to its end
* `PlayCommand.run` — a script read from a file and played with the user's configuration

## Design Notes

A step happens at the end of its delay, before anything else that is due at that time. The screen
comes to rest between two steps, but not between its start and a first step without a delay. After
the last step the screen goes on until every state that is held back has been published. The first
step that fails ends the playback.
-/

namespace VpnClient

/-- A screen on which a script is played, and how that has ended. -/
structure Playback where
  screen : Screen
  result : Except Failure Unit

namespace Playback

/-- The events of a playback in the order of their time; the states of one moment first. -/
def events (playback : Playback) : List ScreenEvent :=
  let states := playback.screen.presenter.published.map ScreenEvent.published
  let effects := playback.screen.presenter.delivered.map ScreenEvent.delivered
  (states ++ effects).mergeSort fun a b => decide (a.time ≤ b.time)

end Playback

/-- The screen after what happens in a step at the end of its delay. -/
def ScriptStep.perform (step : ScriptStep) (clock : Clock) (screen : Screen) :
    Except Failure Screen := do
  let changes ← step.changes clock.now
  let changed := changes.foldl Screen.change screen
  .ok (match step.action with
    | some click => changed.click clock click
    | none => changed)

namespace Script

/-- The screen at the end of a delay. Without a delay nothing else happens in between. -/
def afterDelay (ms : Nat) (timed : Timed Screen) : Timed Screen :=
  if ms = 0 then timed else Screen.machine.advanceTo ms (Screen.machine.act id timed)

/-- The screen after some steps, and how they have ended. -/
def playSteps (timed : Timed Screen) : List ScriptStep → Timed Screen × Except Failure Unit
  | [] => (timed, .ok ())
  | step :: steps =>
    let timed := afterDelay step.delayMs timed
    match step.perform timed.clock timed.state with
    | .error failure => (timed, .error failure)
    | .ok screen => playSteps (Screen.machine.act id { timed with state := screen }) steps

/-- How long playing goes on after the last step, besides the time a state is held back. -/
def margin : Nat := 50

/-- A screen for a playback: started, with one observer of its effects. -/
def stage (config : ConnectConfig) (clock : Clock) : Except Failure Screen := do
  let screen ← Screen.wire config clock .initial
  .ok (screen.subscribe.2.start clock)

/-- A script played from its start to its end. -/
def play (script : Script) (config : ConnectConfig) (clock : Clock) : Except Failure Playback := do
  let screen ← stage config clock
  match playSteps ⟨clock, screen⟩ script.steps with
  | (timed, .error failure) => .ok ⟨timed.state, .error failure⟩
  | (timed, .ok ()) =>
    let finished := afterDelay (config.debounceMs + margin) timed
    .ok ⟨finished.state, .ok ()⟩

end Script

/-- The command to play a script: the path of the script, and whether to report in records. -/
structure PlayCommand where
  script : String
  inRecords : Bool
  deriving DecidableEq, Repr

namespace PlayCommand

/-- The script read from its file and played with the configuration of an environment. -/
def playback (command : PlayCommand) (env : Environment) (fs : FileSystem) (clock : Clock) :
    Except Failure Playback := do
  let config ← Config.load fs (← env.configPath)
  match fs.read command.script with
  | .error error => .error (.file error)
  | .ok text =>
    match Script.ofDocument? text with
    | none => .error .document
    | some script => script.play config.connect clock

/-- A line about an event. -/
def eventLine (command : PlayCommand) (coloured : Bool) (event : ScreenEvent) : String :=
  if command.inRecords then event.recordLine else event.line coloured

/-- What comes of the command. It leaves all files as they are. -/
def run (command : PlayCommand) (coloured : Bool) (env : Environment) (fs : FileSystem)
    (clock : Clock) : CommandOutcome :=
  match command.playback env fs clock with
  | .error failure => ⟨fs, [], .error failure⟩
  | .ok playback => ⟨fs, playback.events.map (command.eventLine coloured), playback.result⟩

end PlayCommand

end VpnClient
