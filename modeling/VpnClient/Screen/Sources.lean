import VpnClient.Screen.UiState
import VpnClient.Source

/-!
# The sources of the connect screen

## Main Definitions

* `ScreenSources` — the six sources
* `ScreenSources.inputs` — their values
-/

namespace VpnClient

/-- The six sources that the connect screen follows. -/
structure ScreenSources where
  title : Source (Option String)
  notifications : Source (List Notification)
  tunnel : Source TunnelState
  lastKnown : Source (Option Location)
  account : Source (Option Account)
  device : Source DeviceState

namespace ScreenSources

/-- Sources that have not been written since they were made. -/
def fresh (inputs : ScreenInputs) : ScreenSources where
  title := .fresh inputs.title
  notifications := .fresh inputs.notifications
  tunnel := .fresh inputs.tunnel
  lastKnown := .fresh inputs.lastKnown
  account := .fresh inputs.account
  device := .fresh inputs.device

/-- The values of the sources. -/
def inputs (sources : ScreenSources) : ScreenInputs where
  title := sources.title.value
  notifications := sources.notifications.value
  tunnel := sources.tunnel.value
  lastKnown := sources.lastKnown.value
  account := sources.account.value
  device := sources.device.value

/-- The revisions of the sources. -/
def revisions (sources : ScreenSources) : List Nat :=
  [sources.title.revision, sources.notifications.revision, sources.tunnel.revision,
    sources.lastKnown.revision, sources.account.revision, sources.device.revision]

end ScreenSources

end VpnClient
