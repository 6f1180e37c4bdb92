import VpnClient.Data
import VpnClient.Text.Blank
import VpnClient.Text.Uppercase

/-!
# Devices

The device this program runs on, and whether it is logged in.

## Main Definitions

* `Device` — a device registered with an account
* `Device.displayName` — its name with every word capitalised
* `DeviceState` — the login state of this device
-/

namespace VpnClient

/-- A device that is registered with an account. -/
structure Device where
  id : String
  name : String
  deriving DecidableEq, Repr

namespace Device

/-- A name with every word capitalised and one space between words. -/
def displayChars (name : List Char) : List Char :=
  [' '].intercalate ((Text.words name).map Text.capitalize)

/-- The name of a device as users see it. -/
def displayName (device : Device) : String :=
  String.ofList (displayChars device.name.toList)

/-- The document form of a device. -/
def toData (device : Device) : Data :=
  .record [("id", .text device.id), ("name", .text device.name)]

/-- The device a document value stands for. -/
def ofData? (d : Data) : Option Device := do
  let m ← d.members? .refused 2
  let id ← m.required 0 "id" Data.text?
  let name ← m.required 1 "name" Data.text?
  some { id, name }

end Device

/-- The login state of this device. It is revoked when another client has removed it from the
account. -/
inductive DeviceState where
  | unknown
  | loggedIn (account : String) (device : Device)
  | loggedOut
  | revoked
  deriving DecidableEq, Repr

namespace DeviceState

/-- The name of the device that is logged in. -/
def displayName? : DeviceState → Option String
  | loggedIn _ device => some device.displayName
  | _ => none

/-- Whether the device has been removed from its account. -/
def isRevoked : DeviceState → Bool
  | revoked => true
  | _ => false

/-- The document form of a login state. -/
def toData : DeviceState → Data
  | unknown => .record [("state", .text "unknown")]
  | loggedIn account device =>
    .record [("state", .text "logged_in"), ("account", .text account), ("device", device.toData)]
  | loggedOut => .record [("state", .text "logged_out")]
  | revoked => .record [("state", .text "revoked")]

/-- The login state a document value stands for. -/
def ofData? (d : Data) : Option DeviceState := do
  let (tag, m) ← d.tagged? "state"
  match tag with
  | "unknown" => if m.fits 0 then some unknown else none
  | "logged_in" =>
    if m.fits 2 then do
      let account ← m.required 0 "account" Data.text?
      let device ← m.required 1 "device" Device.ofData?
      some (loggedIn account device)
    else none
  | "logged_out" => if m.fits 0 then some loggedOut else none
  | "revoked" => if m.fits 0 then some revoked else none
  | _ => none

end DeviceState

end VpnClient
