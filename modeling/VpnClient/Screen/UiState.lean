import VpnClient.Device
import VpnClient.Notification

/-!
# The state of the connect screen

What the screen shows, and how it follows from what is known.

## Main Definitions

* `UiState` — what the screen shows
* `ScreenInputs` — what it follows from
* `ScreenInputs.uiState` — how it follows
-/

namespace VpnClient

/-- What the connect screen shows. -/
structure UiState where
  location : Option Location
  relayTitle : Option String
  tunnel : TunnelState
  inAddress : Option String
  outAddress : String
  showsLocation : Bool
  notification : Option Notification
  deviceName : Option String
  daysLeft : Option Int
  isPlayBuild : Bool
  deriving BEq

namespace UiState

/-- What the screen shows before anything is known. -/
def initial : UiState where
  location := none
  relayTitle := none
  tunnel := .initial
  inAddress := none
  outAddress := ""
  showsLocation := false
  notification := none
  deviceName := none
  daysLeft := none
  isPlayBuild := false

/-- The document form of what the screen shows. -/
def toData (state : UiState) : Data :=
  .record [
    ("location", .ofOption Location.toData state.location),
    ("selected_relay_item_title", .ofText? state.relayTitle),
    ("tunnel_state", state.tunnel.toData),
    ("in_address", .ofText? state.inAddress),
    ("out_address", .text state.outAddress),
    ("show_location", .bool state.showsLocation),
    ("in_app_notification", .ofOption Notification.toData state.notification),
    ("device_name", .ofText? state.deviceName),
    ("days_left_until_expiry", .ofOption .integer state.daysLeft),
    ("is_play_build", .bool state.isPlayBuild)]

end UiState

/-- What the connect screen follows from. -/
structure ScreenInputs where
  title : Option String
  notifications : List Notification
  tunnel : TunnelState
  lastKnown : Option Location
  account : Option Account
  device : DeviceState

namespace ScreenInputs

/-- What is known at first. -/
def initial : ScreenInputs where
  title := none
  notifications := []
  tunnel := .initial
  lastKnown := none
  account := none
  device := .unknown

/-- What the screen shows at an instant. -/
def uiState (inputs : ScreenInputs) (isPlayBuild : Bool) (now : Instant) : UiState where
  location := inputs.tunnel.resolvedLocation inputs.lastKnown
  relayTitle := inputs.title
  tunnel := inputs.tunnel
  inAddress := inputs.tunnel.inAddress?
  outAddress := inputs.tunnel.outAddress
  showsLocation := inputs.tunnel.showsLocation
  notification := inputs.notifications.head?
  deviceName := inputs.device.displayName?
  daysLeft := inputs.account.map fun account => account.daysLeft now
  isPlayBuild := isPlayBuild

end ScreenInputs

end VpnClient
