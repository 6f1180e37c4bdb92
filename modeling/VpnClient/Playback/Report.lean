import VpnClient.Json.Writer
import VpnClient.Screen.Presenter
import VpnClient.Text.Style

/-!
# Reports

How people and programs are told what happens on a screen: in a line of text, or in a record.

## Main Definitions

* `Publication.line`, `Publication.toData` — a published state
* `Delivery.line`, `Delivery.toData` — a delivered effect
* `ScreenEvent` — either of them

## Design Notes

A report of an account page says whether the user will be logged in there, but never by which
token.
-/

namespace VpnClient

open Text (styled)

/-- The time of an event, in milliseconds since the start. -/
def timeStamp (coloured : Bool) (elapsed : Nat) : String :=
  styled coloured [.dimmed] ("[+" ++ Text.spacePadded 5 elapsed ++ "ms]")

/-! ### States -/

/-- The look of a phase of the tunnel. -/
def TunnelState.styles : TunnelState → List Text.Style
  | disconnected _ => []
  | connecting _ _ => [.yellow]
  | connected _ _ => [.bold, .green]
  | disconnecting _ => [.yellow]
  | error _ => [.bold, .red]

/-- The sentence of a notice. -/
def Notification.sentence : Notification → String
  | tunnelError state => "Tunnel error: " ++ state.cause.technicalText
  | tunnelBlocked => "Blocking internet"
  | unsupportedVersion version => "Version " ++ version ++ " is no longer supported"
  | accountExpiry expiry => "Account time runs out " ++ expiry.minuteText
  | newDevice name => "New device: " ++ name
  | updateAvailable version => "Update available: " ++ version

/-- The look of a severity. -/
def Severity.styles : Severity → List Text.Style
  | error => [.red]
  | warning => [.yellow]
  | info => [.cyan]

/-- A notice in the look of its severity. -/
def Notification.label (coloured : Bool) (notice : Notification) : String :=
  styled coloured notice.severity.styles notice.sentence

namespace UiState

/-- The parts of a line about what the screen shows. What it does not show has no part. -/
def parts (coloured : Bool) (state : UiState) : List String :=
  let tunnel := styled coloured state.tunnel.styles state.tunnel.text
  let location := if state.showsLocation then state.location else none
  let out := if state.outAddress = "" then none else some state.outAddress
  [some (styled coloured [.bold] "state" ++ " " ++ tunnel),
    state.relayTitle.map ("relay: " ++ ·),
    location.map fun location => "location: " ++ location.place,
    state.inAddress.map ("in: " ++ ·),
    out.map ("out: " ++ ·),
    state.deviceName.map ("device: " ++ ·),
    state.daysLeft.map fun days => "days left: " ++ Text.signedDecimal days,
    state.notification.map (Notification.label coloured)].filterMap id

end UiState

namespace Publication

/-- A published state in one line. -/
def line (coloured : Bool) (p : Publication) : String :=
  timeStamp coloured p.time ++ " " ++ String.intercalate " | " (p.state.parts coloured)

/-- A published state in a record. -/
def toData (p : Publication) : Data :=
  .record [("at_ms", .integer p.time), ("state", p.state.toData), ("type", .text "state")]

end Publication

/-! ### Effects -/

namespace Effect

/-- What happens to the user. -/
def sentence : Effect → String
  | openAccount link =>
    if link.hasToken then "open account page (logged in)" else "open account page"
  | outOfTime => "out of time"
  | revokedDevice => "device revoked"
  | noVpnPermission => "request VPN permission"
  | connectError .generic => "connect failed"
  | connectError .permissionDenied => "VPN permission denied"
  | connectError (.alwaysOnVpn appName) => appName ++ " is set as always-on VPN"

/-- The name of an effect in records. -/
def name : Effect → String
  | openAccount _ => "open_account_management_page"
  | outOfTime => "out_of_time"
  | revokedDevice => "revoked_device"
  | noVpnPermission => "no_vpn_permission"
  | connectError _ => "connect_error"

/-- What a record of an effect says besides its name. -/
def particulars : Effect → List (String × Data)
  | openAccount link => [("with_token", .bool link.hasToken)]
  | connectError .generic => [("error", .text "generic")]
  | connectError .permissionDenied => [("error", .text "permission_denied")]
  | connectError (.alwaysOnVpn appName) =>
    [("error", .record [("always_on_vpn", .text appName)])]
  | _ => []

end Effect

namespace Delivery

/-- A delivered effect in one line. -/
def line (coloured : Bool) (d : Delivery) : String :=
  timeStamp coloured d.time ++ " " ++ styled coloured [.bold, .magenta] "effect" ++ " "
    ++ d.effect.sentence

/-- A delivered effect in a record. -/
def toData (d : Delivery) : Data :=
  .record ([("type", .text "effect"), ("at_ms", .integer d.time),
    ("effect", .text d.effect.name)] ++ d.effect.particulars)

end Delivery

/-! ### Events -/

/-- Something that happens on a screen. -/
inductive ScreenEvent where
  | published (publication : Publication)
  | delivered (delivery : Delivery)

namespace ScreenEvent

/-- When an event happens. -/
def time : ScreenEvent → Nat
  | published p => p.time
  | delivered d => d.time

/-- An event in one line of text. -/
def line (coloured : Bool) : ScreenEvent → String
  | published p => p.line coloured
  | delivered d => d.line coloured

/-- An event in a record. -/
def toData : ScreenEvent → Data
  | published p => p.toData
  | delivered d => d.toData

/-- An event in one line for programs. -/
def recordLine (event : ScreenEvent) : String :=
  Json.write (Json.ordered event.toData)

end ScreenEvent

end VpnClient
