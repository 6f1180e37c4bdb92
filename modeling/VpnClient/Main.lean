import VpnClient.CommandLine.Command
import Std.Time.DateTime.Timestamp

/-!
# The program

Finds out about the files that a command may look at, lets it run, and prints and writes what it has
left.

## Main Definitions

* `survey` — what there is on the way to a path
* `perform` — a command, performed
* `main` — the program
-/

namespace VpnClient

/-- What there is at a path. What cannot be looked into counts as a file that holds no text. -/
def entryAt (path : String) : IO (Option Entry) := do
  try
    let text ← IO.FS.readFile path
    return some (.file (.text text))
  catch error =>
    match error with
    | .noFileOrDirectory _ _ _ => return none
    | .inappropriateType _ code _ => return if code = 21 then some .directory else none
    | _ => return some (.file .binary)

/-- A path to the first names of another path. -/
def pathTo (path : String) (names : List String) : String :=
  (if path.startsWith "/" then "/" else "") ++ String.intercalate "/" names

/-- A file system that also knows what there is on the way to a path. -/
def survey (fs : FileSystem) (path : String) : IO FileSystem := do
  let names := FileSystem.parts path
  let ways := (List.range names.length).map fun n => pathTo path (names.take (n + 1))
  ways.foldlM (fun fs way => do
    match ← entryAt way, fs.resolve way with
    | some entry, .ok place => return fs.put place entry
    | _, _ => return fs) fs

/-- Writes a file in which something has changed. -/
def writeBack (before after : FileSystem) (path : String) : IO Unit := do
  match before.read path, after.read path with
  | .ok old, .ok new => if old ≠ new then IO.FS.writeFile path new
  | .error _, .ok new =>
    IO.FS.createDirAll (pathTo path (FileSystem.parentParts path))
    IO.FS.writeFile path new
  | _, .error _ => return

/-- The present instant. -/
def presentInstant : IO Instant := do
  let now ← Std.Time.Timestamp.now
  let nanos := now.toNanosecondsSinceUnixEpoch.val
  return ⟨nanos / secondSpan, (nanos % secondSpan).toNat⟩

/-- Prints events, each at its time. -/
def printEvents (start : Nat) (line : ScreenEvent → String) : List ScreenEvent → IO Unit
  | [] => return
  | event :: events => do
    let passed := (← IO.monoMsNow) - start
    IO.sleep (UInt32.ofNat (event.time - passed))
    IO.println (line event)
    printEvents start line events

/-- Tells how a command has ended, and gives its exit code. -/
def report (result : Except Failure Unit) : IO UInt32 := do
  match result with
  | .ok () => return 0
  | .error failure =>
    IO.eprintln failure.message
    return UInt32.ofNat failure.exitCode

/-- A command, performed. -/
def perform (env : Environment) (coloured : Bool) : Command → IO UInt32
  | .play command => do
    let fs ← match env.configPath with
      | .ok path => survey .empty path
      | .error _ => pure .empty
    let fs ← survey fs command.script
    let start ← IO.monoMsNow
    match command.playback env fs ⟨← presentInstant, 0⟩ with
    | .error failure => report (.error failure)
    | .ok playback =>
      printEvents start (command.eventLine coloured) playback.events
      report playback.result
  | .dns command => do
    match env.configPath with
    | .error failure => report (.error failure)
    | .ok path =>
      let fs ← survey .empty path
      let outcome := command.run coloured env fs
      writeBack fs outcome.files path
      IO.print outcome.output
      report outcome.result

/-- What the program tells a user whose words ask for no command. -/
def usage : String :=
  "Commands:\n  play SCRIPT [--json]\n  dns list\n  dns add ADDRESS\n"
    ++ "  dns edit INDEX ADDRESS\n  dns remove INDEX\n  dns allow-lan true|false"

/-- The program for the words of a command line. -/
def runWords (words : List String) : IO UInt32 := do
  match Command.ofWords? words with
  | none =>
    IO.eprintln usage
    return UInt32.ofNat usageExitCode
  | some command =>
    let env : Environment := ⟨← IO.getEnv "RELAYDECK_CONFIG_DIR", ← IO.getEnv "HOME"⟩
    let stdout ← IO.getStdout
    perform env (← stdout.isTty) command

end VpnClient

/-- The program. -/
def main (words : List String) : IO UInt32 :=
  VpnClient.runWords words
