import VpnClient.CommandLine.Arguments
import VpnClient.Dns.Command
import VpnClient.Playback.Play

/-!
# Commands

What the program can be asked to do from the command line.

## Main Definitions

* `Command` — the commands
* `Command.ofWords?` — the command that some words ask for
* `Command.run` — what comes of a command
-/

namespace VpnClient

/-- A command of the program. -/
inductive Command where
  | play (command : PlayCommand)
  | dns (command : DnsCommand)
  deriving DecidableEq, Repr

/-- An index as it is written on the command line: digits, with a plus sign in front if need be. -/
def readIndex? (text : String) : Option Nat := do
  let digits := match text.toList with
    | '+' :: digits => digits
    | digits => digits
  let index ← Text.readNumeral? 10 digits
  if index < UInt64.size then some index else none

/-- A truth value as it is written on the command line. -/
def readSwitch? : String → Option Bool
  | "true" => some true
  | "false" => some false
  | _ => none

/-- The command to play a script that some words ask for. The script has to have a name. -/
def PlayCommand.ofWords? (words : List String) : Option PlayCommand :=
  match Arguments.ofWords? words with
  | some ⟨[], [script]⟩ => if script = "" then none else some ⟨script, false⟩
  | some ⟨["json"], [script]⟩ => if script = "" then none else some ⟨script, true⟩
  | _ => none

/-- The command for DNS servers that some words ask for: its name comes first. -/
def DnsCommand.ofWords? : List String → Option DnsCommand
  | [] => none
  | name :: words =>
    match name, Arguments.onlyValues? words with
    | "list", some [] => some list
    | "add", some [address] => some (add address)
    | "edit", some [index, address] => (readIndex? index).map fun index => edit index address
    | "remove", some [index] => (readIndex? index).map remove
    | "allow-lan", some [enabled] => (readSwitch? enabled).map allowLan
    | _, _ => none

namespace Command

/-- The command that some words ask for: its name comes first. -/
def ofWords? : List String → Option Command
  | "play" :: words => (PlayCommand.ofWords? words).map play
  | "dns" :: words => (DnsCommand.ofWords? words).map dns
  | _ => none

/-- What comes of a command. -/
def run (coloured : Bool) (env : Environment) (fs : FileSystem) (clock : Clock) :
    Command → CommandOutcome
  | play command => command.run coloured env fs clock
  | dns command => command.run coloured env fs

end Command

/-- The exit code for words that ask for no command. -/
def usageExitCode : Nat := 2

end VpnClient
