import VpnClient.Backend
import VpnClient.Screen.Presenter
import VpnClient.Toml.Reader

/-!
# Scripts

A script plays the part of the user and of everything behind the screen. It is a document with a
list of steps.

## Main Definitions

* `Script` — the steps
* `ScriptStep` — what happens in one step, after a delay
* `ScriptStep.changes` — its changes of the backend
* `Script.ofDocument?` — the script a document describes

## Design Notes

The time of an account is given relative to the moment at which the step is played, so that it is
only known then whether there is such a time.
-/

namespace VpnClient

/-- An account whose time is up some days and seconds after the moment of the step. -/
structure AccountTerm where
  id : String
  days : Int
  seconds : Int
  deriving DecidableEq, Repr

namespace AccountTerm

/-- The longest term in seconds, in either direction. -/
def longest : Int := 9223372036854775

/-- Whether a term of some seconds is not too long. -/
def isTerm (seconds : Int) : Bool :=
  -longest ≤ seconds && seconds ≤ longest

/-- When the time of the account is up, if there is such an instant. -/
def expiry? (term : AccountTerm) (now : Instant) : Option Instant :=
  let days := term.days * 86400
  let seconds := days + term.seconds
  if isTerm days && isTerm term.seconds && isTerm seconds then now.add? (seconds * secondSpan)
  else none

/-- The failure of a step whose account has no end in time. -/
def outOfRange (term : AccountTerm) : Failure :=
  .config (.validation ("Account expiry out of range: days = " ++ Text.signedDecimal term.days
    ++ ", seconds = " ++ Text.signedDecimal term.seconds))

/-- The account at the moment of the step. -/
def account (term : AccountTerm) (now : Instant) : Except Failure Account :=
  match term.expiry? now with
  | some expiry => .ok ⟨term.id, expiry⟩
  | none => .error term.outOfRange

/-- The term a document value stands for. -/
def ofData? (d : Data) : Option AccountTerm := do
  let m ← d.members? .ignored 3
  if m.onlyNamed ["id", "days", "seconds"] then
    let id ← m.defaulted 0 "id" "1234567890123456" Data.text?
    let days ← m.defaulted 1 "days" 0 Data.signed64?
    let seconds ← m.defaulted 2 "seconds" 0 Data.signed64?
    some { id, days, seconds }
  else none

end AccountTerm

/-- The click a document value stands for: its name, or that name with nothing to say about it. -/
def Click.ofData? (d : Data) : Option Click := do
  let name ← match d with
    | .record [(name, .list [])] => some name
    | _ => d.choice?
  match name with
  | "connect" => some connect
  | "disconnect" => some disconnect
  | "reconnect" => some reconnect
  | "cancel" => some cancel
  | "manage_account" => some manageAccount
  | "permission_granted" => some (permissionResult true)
  | "permission_denied" => some (permissionResult false)
  | "dismiss_new_device" => some dismissNewDevice
  | _ => none

/-- What happens in a step: a delay, then changes of the backend, then a click. -/
structure ScriptStep where
  delayMs : Nat
  tunnel : Option TunnelState
  selection : Option RelaySelection
  account : Option AccountTerm
  device : Option DeviceState
  newDevice : Option String
  version : Option Version
  permission : Option Bool
  alwaysOnApp : Option String
  connectFailure : Option String
  authToken : Option String
  pendingDays : Option UInt32
  action : Option Click

namespace ScriptStep

/-- The changes of the backend in a step that is played now, in their order. -/
def changes (step : ScriptStep) (now : Instant) : Except Failure (List BackendChange) := do
  let account ← step.account.mapM fun term => term.account now
  .ok ([step.tunnel.map .tunnel,
    step.selection.map fun selection => .selection (some selection),
    account.map fun account => .account (some account),
    step.device.map .device,
    step.newDevice.map fun name => .newDevice (some name),
    step.version.map .version,
    step.permission.map .permission,
    step.alwaysOnApp.map fun name => .alwaysOnApp (some name),
    step.connectFailure.map fun reason => .connectFailure (some reason),
    step.authToken.map fun token => .authToken (some token),
    step.pendingDays.map fun days => .pendingPurchase (some days)].filterMap id)

/-- The names of what can happen in a step. -/
def memberNames : List String :=
  ["delay_ms", "tunnel", "selection", "account", "device", "new_device", "version",
    "vpn_permission", "always_on_app", "connect_failure", "auth_token", "pending_purchase_days",
    "action"]

/-- The step a document value stands for. -/
def ofData? (d : Data) : Option ScriptStep := do
  let m ← d.members? .ignored 13
  if m.onlyNamed memberNames then
    let delayMs ← m.defaulted 0 "delay_ms" 0 Data.word64?
    let tunnel ← m.placed 1 "tunnel" TunnelState.ofData?
    let selection ← m.placed 2 "selection" (RelaySelection.ofData? .ignored)
    let account ← m.placed 3 "account" AccountTerm.ofData?
    let device ← m.placed 4 "device" DeviceState.ofData?
    let newDevice ← m.placed 5 "new_device" Data.text?
    let version ← m.placed 6 "version" (Version.ofData? .ignored)
    let permission ← m.placed 7 "vpn_permission" Data.bool?
    let alwaysOnApp ← m.placed 8 "always_on_app" Data.text?
    let connectFailure ← m.placed 9 "connect_failure" Data.text?
    let authToken ← m.placed 10 "auth_token" Data.text?
    let pendingDays ← m.placed 11 "pending_purchase_days" Data.word32?
    let action ← m.placed 12 "action" Click.ofData?
    some {
      delayMs, tunnel, selection, account, device, newDevice, version, permission, alwaysOnApp,
      connectFailure, authToken, pendingDays := pendingDays.map UInt32.ofNat, action }
  else none

end ScriptStep

/-- The steps of a playback. -/
structure Script where
  steps : List ScriptStep

namespace Script

/-- The script a document value stands for. -/
def ofData? (d : Data) : Option Script := do
  let m ← d.members? .ignored 1
  if m.onlyNamed ["steps"] then
    let steps ← m.defaulted 0 "steps" [] (Data.listOf? ScriptStep.ofData?)
    some { steps }
  else none

/-- The script a document describes. -/
def ofDocument? (text : String) : Option Script :=
  (Toml.read? text).bind ofData?

end Script

end VpnClient
