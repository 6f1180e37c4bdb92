import VpnClient.Dns.Store
import VpnClient.Outcome
import VpnClient.Text.Blank
import VpnClient.Text.Style

/-!
# DNS commands

What the commands for DNS servers do and print. Each of them opens the store afresh and works the
dialog the way a user would.

## Main Definitions

* `DnsCommand` — the commands
* `DnsCommand.run` — what a command does to the file system, what it prints, and how it ends
* `DnsSettings.listing` — the list of the servers
-/

namespace VpnClient

open Text (styled)

/-- A command for DNS servers. -/
inductive DnsCommand where
  | list
  | add (address : String)
  | edit (index : Nat) (address : String)
  | remove (index : Nat)
  | allowLan (enabled : Bool)
  deriving DecidableEq, Repr

namespace DnsSettings

/-- A line of the list: the index of an entry and its address, with a mark if it cannot be
reached. -/
def entryLine (coloured : Bool) (settings : DnsSettings) (index : Nat) (address : IpAddress) :
    String :=
  let mark := if address.isLocal && !settings.allowLan then
      "  " ++ styled coloured [.yellow] "(local, needs local network sharing)"
    else ""
  Text.spacePadded 3 index ++ "  " ++ address.text ++ mark

/-- Whether the local network may be reached, and the servers with their indices. -/
def listing (coloured : Bool) (settings : DnsSettings) : String :=
  let sharing := if settings.allowLan then styled coloured [.green] "allowed" else "blocked"
  let entries := settings.custom.mapIdx fun index address =>
    settings.entryLine coloured index address
  let body := if settings.custom.isEmpty then [styled coloured [.dimmed] "No custom DNS servers"]
    else entries
  String.intercalate "\n" (("Local network sharing: " ++ sharing) :: body)

end DnsSettings

namespace DnsCommand

/-- A text without white space around it. -/
def trimmed (s : String) : String :=
  String.ofList (Text.trim s.toList)

/-- The mark of a line that tells of something done. -/
def done (coloured : Bool) : String :=
  styled coloured [.green] "✓"

/-- The mark of a line that warns. -/
def caution (coloured : Bool) : String :=
  styled coloured [.yellow] "!"

/-- The address of an entry that has to be there. -/
def entry (settings : DnsSettings) (index : Nat) : Except Failure IpAddress :=
  match settings.custom[index]? with
  | some address => .ok address
  | none => .error (.dns (.indexOutOfBounds index settings.custom.length))

/-- What a dialog warns of before it saves. -/
def warnings (coloured : Bool) (view : DnsDialogView) : List String :=
  let subject := caution coloured ++ " " ++ trimmed view.input
  (if view.problem = some .duplicateAddress then [subject ++ " is already in the list"] else [])
    ++ (if view.showsLocalWarning then
        [subject ++ " is a local address and is only reachable with local network sharing enabled"]
      else [])

/-- Saves what a dialog holds. -/
def save (coloured : Bool) (store : DnsStore) (fs : FileSystem) (dialog : DnsDialog) :
    CommandOutcome :=
  let view := dialog.view store.settings
  if !view.isSaveEnabled then ⟨fs, [], .error (.dns (.invalidAddress dialog.input))⟩
  else
    let answer := store.answer fs (dialog.saveRequest store.settings)
    let lines := warnings coloured view
    match answer.result with
    | .success =>
      ⟨answer.files, lines ++ [done coloured ++ " Saved " ++ trimmed dialog.input], .ok ()⟩
    | _ =>
      ⟨answer.files, lines, .error (.dns (.storage ("could not save " ++ trimmed dialog.input)))⟩

/-- Removes the entry that a dialog was opened for. -/
def removeEntry (coloured : Bool) (store : DnsStore) (fs : FileSystem) (dialog : DnsDialog) :
    CommandOutcome :=
  let answer := store.answer fs dialog.removeRequest
  match answer.result with
  | .success => ⟨answer.files, [done coloured ++ " Removed " ++ dialog.input], .ok ()⟩
  | _ => ⟨answer.files, [], .error (.dns (.storage ("could not remove " ++ dialog.input)))⟩

/-- Allows or blocks the local network. -/
def setLan (coloured : Bool) (store : DnsStore) (fs : FileSystem) (enabled : Bool) :
    CommandOutcome :=
  match store.perform fs (.allowLan enabled) with
  | (fs, .ok _) =>
    ⟨fs, [done coloured ++ " Local network sharing " ++ (if enabled then "allowed" else "blocked")],
      .ok ()⟩
  | (fs, .error error) => ⟨fs, [], .error (.dns error)⟩

/-- What a command does with an open store. -/
def runOn (coloured : Bool) (store : DnsStore) (fs : FileSystem) : DnsCommand → CommandOutcome
  | list => ⟨fs, [store.settings.listing coloured], .ok ()⟩
  | add address => save coloured store fs ⟨address, none⟩
  | edit index address =>
    match entry store.settings index with
    | .ok _ => save coloured store fs ⟨address, some index⟩
    | .error failure => ⟨fs, [], .error failure⟩
  | remove index =>
    match entry store.settings index with
    | .ok current => removeEntry coloured store fs ⟨current.text, some index⟩
    | .error failure => ⟨fs, [], .error failure⟩
  | allowLan enabled => setLan coloured store fs enabled

/-- What a command does with the configuration file of an environment. -/
def run (coloured : Bool) (env : Environment) (fs : FileSystem) (command : DnsCommand) :
    CommandOutcome :=
  match env.configPath.bind (DnsStore.openFile fs) with
  | .ok store => command.runOn coloured store fs
  | .error failure => ⟨fs, [], .error failure⟩

end DnsCommand

end VpnClient
