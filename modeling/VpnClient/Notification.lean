import VpnClient.Account
import VpnClient.Tunnel.State
import VpnClient.Version

/-!
# Notifications

The notices on top of the connect screen: how they follow from the state of the tunnel, the
version, the account and the devices, and in which order they are shown.

## Main Definitions

* `Notification` — the notices there are
* `Notification.sorted` — the order of display
* `NotificationInputs.current` — the notices that apply at an instant

## Design Notes

Each rule gives at most one notice. The rules are collected in a fixed order and then sorted by
priority and severity, the most important first; sorting keeps the order of equals.
-/

namespace VpnClient

/-- How prominently a notice is placed. -/
inductive Priority where
  | low
  | medium
  | high
  deriving DecidableEq, Repr

/-- How severe the matter of a notice is. -/
inductive Severity where
  | info
  | warning
  | error
  deriving DecidableEq, Repr

namespace Priority

/-- The place of a priority among all, the least first. -/
def rank : Priority → Nat
  | low => 0
  | medium => 1
  | high => 2

/-- The name of a priority in documents. -/
def text : Priority → String
  | low => "low"
  | medium => "medium"
  | high => "high"

end Priority

namespace Severity

/-- The place of a severity among all, the least first. -/
def rank : Severity → Nat
  | info => 0
  | warning => 1
  | error => 2

/-- The name of a severity in documents. -/
def text : Severity → String
  | info => "info"
  | warning => "warning"
  | error => "error"

end Severity

/-- A notice to the user. -/
inductive Notification where
  | tunnelError (state : ErrorState)
  | tunnelBlocked
  | unsupportedVersion (version : String)
  | accountExpiry (expiry : Instant)
  | newDevice (deviceName : String)
  | updateAvailable (version : String)
  deriving DecidableEq

namespace Notification

/-- How prominently a notice is placed. -/
def priority : Notification → Priority
  | tunnelError _ => .high
  | tunnelBlocked => .high
  | unsupportedVersion _ => .high
  | accountExpiry _ => .medium
  | newDevice _ => .medium
  | updateAvailable _ => .low

/-- How severe the matter of a notice is. -/
def severity : Notification → Severity
  | tunnelError _ => .error
  | tunnelBlocked => .error
  | unsupportedVersion _ => .error
  | accountExpiry _ => .warning
  | newDevice _ => .info
  | updateAvailable _ => .info

/-- Whether a notice may stand in front of another one: it has a higher priority, or the same and
at least the severity. -/
def mayPrecede (a b : Notification) : Bool :=
  b.priority.rank < a.priority.rank
    || (a.priority.rank == b.priority.rank && b.severity.rank ≤ a.severity.rank)

/-- Notices in the order of display; those of one priority and severity keep their order. -/
def sorted (notices : List Notification) : List Notification :=
  notices.mergeSort mayPrecede

/-! ### Rules -/

/-- What the tunnel gives notice of: an error, or that traffic is blocked on the way to another
phase. -/
def ofTunnel? : TunnelState → Option Notification
  | .error state => some (tunnelError state)
  | .connecting _ _ => some tunnelBlocked
  | .disconnecting .block => some tunnelBlocked
  | _ => none

/-- What the version gives notice of: that it may not be used any more, else that there is a
newer one. -/
def ofVersion? (version : Version) : Option Notification :=
  if version.isSupported then version.suggestedUpgrade.map updateAvailable
  else some (unsupportedVersion version.current)

/-- The warning that the time of the account is running out. -/
def ofAccount? (account : Option Account) (warningDays : Nat) (now : Instant) :
    Option Notification :=
  match account with
  | some account =>
    if account.isEnding warningDays now then some (accountExpiry account.expiry) else none
  | none => none

/-! ### Documents -/

/-- The document form of a notice. -/
def toData : Notification → Data
  | tunnelError state =>
    .record [("kind", .text "tunnel_state_error"), ("error_state", state.toData)]
  | tunnelBlocked => .record [("kind", .text "tunnel_state_blocked")]
  | unsupportedVersion version =>
    .record [("kind", .text "unsupported_version"), ("version", .text version)]
  | accountExpiry expiry => .record [("kind", .text "account_expiry"), ("expiry", expiry.toData)]
  | newDevice deviceName =>
    .record [("kind", .text "new_device"), ("device_name", .text deviceName)]
  | updateAvailable version =>
    .record [("kind", .text "update_available"), ("version", .text version)]

/-- The notice a document value stands for. -/
def ofData? (d : Data) : Option Notification := do
  let (tag, m) ← d.tagged? "kind"
  match tag with
  | "tunnel_state_error" =>
    if m.fits 1 then (m.required 0 "error_state" ErrorState.ofData?).map tunnelError else none
  | "tunnel_state_blocked" => if m.fits 0 then some tunnelBlocked else none
  | "unsupported_version" =>
    if m.fits 1 then (m.required 0 "version" Data.text?).map unsupportedVersion else none
  | "account_expiry" =>
    if m.fits 1 then (m.required 0 "expiry" Instant.ofData?).map accountExpiry else none
  | "new_device" =>
    if m.fits 1 then (m.required 0 "device_name" Data.text?).map newDevice else none
  | "update_available" =>
    if m.fits 1 then (m.required 0 "version" Data.text?).map updateAvailable else none
  | _ => none

end Notification

/-- Everything that notices follow from. -/
structure NotificationInputs where
  tunnel : TunnelState
  version : Version
  account : Option Account
  newDevice : Option String

namespace NotificationInputs

/-- The notices that apply, rule by rule. -/
def applicable (inputs : NotificationInputs) (warningDays : Nat) (now : Instant) :
    List Notification :=
  [Notification.ofTunnel? inputs.tunnel, Notification.ofVersion? inputs.version,
    Notification.ofAccount? inputs.account warningDays now,
    inputs.newDevice.map Notification.newDevice].filterMap id

/-- The notices that apply at an instant, in the order of display. -/
def current (inputs : NotificationInputs) (warningDays : Nat) (now : Instant) :
    List Notification :=
  Notification.sorted (inputs.applicable warningDays now)

/-- The next instant at which the notices change though nothing else does. -/
def nextBoundary? (inputs : NotificationInputs) (warningDays : Nat) (now : Instant) :
    Option Instant :=
  inputs.account.bind fun account => account.nextBoundary? warningDays now

end NotificationInputs

end VpnClient
