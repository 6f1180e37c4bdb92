import VpnClient.File.System

/-!
# Outcomes

What comes of a command.

## Main Definitions

* `CommandOutcome` — the files a command leaves, the lines it prints, and how it ends
* `CommandOutcome.output`, `CommandOutcome.exitCode` — what the caller of the program sees of it
-/

namespace VpnClient

/-- What came of a command: the file system, the lines it has printed, and how it ended. -/
structure CommandOutcome where
  files : FileSystem
  lines : List String
  result : Except Failure Unit

/-- The exit code for a failure: two if the fault is in what the user has configured or written
down, one if it came up in doing what was asked. -/
def Failure.exitCode : Failure → Nat
  | config _ => 2
  | document => 2
  | unwritable => 2
  | connect _ => 1
  | dns _ => 1
  | file _ => 1

namespace CommandOutcome

/-- The text that a command has printed. -/
def output (outcome : CommandOutcome) : String :=
  String.join (outcome.lines.map (· ++ "\n"))

/-- The exit code of a command. -/
def exitCode (outcome : CommandOutcome) : Nat :=
  match outcome.result with
  | .ok () => 0
  | .error failure => failure.exitCode

end CommandOutcome

end VpnClient
