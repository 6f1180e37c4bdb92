import VpnClient.Clock
import VpnClient.Device
import VpnClient.Failure
import VpnClient.Notification
import VpnClient.Relay
import VpnClient.Source

/-!
# The backend

The services behind the connect screen, kept in memory: the tunnel, the account, the device, the
versions, the relays and the shop.

## Main Definitions

* `Backend` — the state of all services
* `Backend.connect`, `Backend.disconnect`, `Backend.reconnect` — requests to the tunnel
* `Backend.verifyPurchases`, `Backend.refreshAccount` — how bought time gets to the account

## Design Notes

The tunnel remembers the last location it has been disconnected at, and returns to it. Verified
days are counted in a word of thirty-two bits until the account is refreshed.
-/

namespace VpnClient

/-- A request that has reached the tunnel. -/
inductive TunnelCall where
  | connect
  | disconnect
  | reconnect
  deriving DecidableEq, Repr

/-- The name of a request in documents. -/
def TunnelCall.text : TunnelCall → String
  | connect => "connect"
  | disconnect => "disconnect"
  | reconnect => "reconnect"

/-- Whether there was a purchase to verify. -/
inductive Verification where
  | nothingToVerify
  | verified
  deriving DecidableEq, Repr

/-- The state of all services behind the screen. -/
structure Backend where
  tunnel : Source TunnelState
  account : Source (Option Account)
  device : Source DeviceState
  newDevice : Source (Option String)
  version : Source Version
  selection : Source (Option RelaySelection)
  hasPermission : Bool
  alwaysOnApp : Option String
  connectFailure : Option String
  authToken : Option String
  pendingDays : Option UInt32
  verifiedDays : UInt32
  isProviderDown : Bool
  home : Option Location
  calls : List TunnelCall

namespace Backend

/-- Disconnected and not logged in, with the permission to connect. -/
def initial : Backend where
  tunnel := .fresh .initial
  account := .fresh none
  device := .fresh .unknown
  newDevice := .fresh none
  version := .fresh .own
  selection := .fresh none
  hasPermission := true
  alwaysOnApp := none
  connectFailure := none
  authToken := none
  pendingDays := none
  verifiedDays := 0
  isProviderDown := false
  home := none
  calls := []

/-- The backend with the tunnel in another phase. A location it is disconnected at becomes its
home. -/
def setTunnel (backend : Backend) (state : TunnelState) : Backend :=
  { backend with
    tunnel := backend.tunnel.set state
    home := state.disconnectedLocation?.or backend.home }

/-- The backend after a request has reached the tunnel. -/
def record (backend : Backend) (call : TunnelCall) : Backend :=
  { backend with calls := backend.calls ++ [call] }

/-- A request to connect. It needs the permission; a tunnel that is up stays as it is. -/
def connect (backend : Backend) : Except ConnectError Unit × Backend :=
  let called := backend.record .connect
  if !called.hasPermission then (.error .noVpnPermission, called)
  else match called.connectFailure with
    | some reason => (.error (.unknown reason), called)
    | none =>
      if called.tunnel.value.isConnected then (.ok (), called)
      else (.ok (), called.setTunnel (.connecting none none))

/-- A request to disconnect. -/
def disconnect (backend : Backend) : Except ConnectError Unit × Backend :=
  let called := backend.record .disconnect
  (.ok (), called.setTunnel (.disconnected called.home))

/-- A request to connect again. A tunnel that is down stays down. -/
def reconnect (backend : Backend) : Except ConnectError Unit × Backend :=
  let called := backend.record .reconnect
  if called.tunnel.value.isDisconnected then (.ok (), called)
  else (.ok (), (called.setTunnel (.disconnecting .reconnect)).setTunnel (.connecting none none))

/-- A look for a purchase. Its days wait for the account to be refreshed. -/
def verifyPurchases (backend : Backend) : Except PaymentError Verification × Backend :=
  if backend.isProviderDown then (.error .providerUnavailable, backend)
  else match backend.pendingDays with
    | none => (.ok .nothingToVerify, backend)
    | some days =>
      (.ok .verified,
        { backend with pendingDays := none, verifiedDays := backend.verifiedDays + days })

/-- An account with verified days added to its time, unless that ends beyond all time. -/
def credit (account : Account) (days : UInt32) : Option Account :=
  (account.expiry.addDays? days.toNat).map fun expiry => { account with expiry := expiry }

/-- Verified days added to the time of the account. Days that no account takes are lost, and so are
those that would lead beyond the end of time; then the account is not written. -/
def refreshAccount (backend : Backend) : Backend :=
  if backend.verifiedDays = 0 then backend
  else
    let taken := { backend with verifiedDays := 0 }
    match backend.account.value with
    | none => { taken with account := backend.account.set none }
    | some account =>
      match credit account backend.verifiedDays with
      | some account => { taken with account := backend.account.set (some account) }
      | none => taken

/-- The notice of a new device taken back. -/
def clearNewDevice (backend : Backend) : Backend :=
  { backend with newDevice := backend.newDevice.set none }

/-- The backend at its end: none of what it offers will be written again. -/
def close (backend : Backend) : Backend :=
  { backend with
    tunnel := backend.tunnel.close
    account := backend.account.close
    device := backend.device.close
    newDevice := backend.newDevice.close
    version := backend.version.close
    selection := backend.selection.close }

/-- What the notices follow from. -/
def notificationInputs (backend : Backend) : NotificationInputs where
  tunnel := backend.tunnel.value
  version := backend.version.value
  account := backend.account.value
  newDevice := backend.newDevice.value

end Backend

/-- A change of the backend from behind the screen. -/
inductive BackendChange where
  | tunnel (state : TunnelState)
  | account (account : Option Account)
  | device (state : DeviceState)
  | newDevice (name : Option String)
  | version (version : Version)
  | selection (selection : Option RelaySelection)
  | permission (granted : Bool)
  | alwaysOnApp (name : Option String)
  | connectFailure (reason : Option String)
  | authToken (token : Option String)
  | pendingPurchase (days : Option UInt32)
  | providerDown (isDown : Bool)

/-- The backend after a change. -/
def Backend.apply (backend : Backend) : BackendChange → Backend
  | .tunnel state => backend.setTunnel state
  | .account account => { backend with account := backend.account.set account }
  | .device state => { backend with device := backend.device.set state }
  | .newDevice name => { backend with newDevice := backend.newDevice.set name }
  | .version version => { backend with version := backend.version.set version }
  | .selection selection => { backend with selection := backend.selection.set selection }
  | .permission granted => { backend with hasPermission := granted }
  | .alwaysOnApp name => { backend with alwaysOnApp := name }
  | .connectFailure reason => { backend with connectFailure := reason }
  | .authToken token => { backend with authToken := token }
  | .pendingPurchase days => { backend with pendingDays := days }
  | .providerDown isDown => { backend with isProviderDown := isDown }

end VpnClient
