import VpnClient.Endpoint
import VpnClient.Location
import VpnClient.Tunnel.ErrorState

/-!
# Tunnel states

The phases of a tunnel and what is known in each of them.

## Main Definitions

* `TunnelState` — the phases
* `TunnelState.location?`, `TunnelState.endpoint?` — what a phase says about the tunnel
* `TunnelState.isBlocking` — whether no traffic passes
* `TunnelState.resolvedLocation`, `TunnelState.showsLocation` — what the screen makes of a phase
-/

namespace VpnClient

/-- What happens once a disconnect is done. -/
inductive AfterDisconnect where
  | nothing
  | block
  | reconnect
  deriving DecidableEq, Repr

namespace AfterDisconnect

/-- The document form of an action. -/
def toData : AfterDisconnect → Data
  | nothing => .text "nothing"
  | block => .text "block"
  | reconnect => .text "reconnect"

/-- The action a document value stands for. -/
def ofData? (d : Data) : Option AfterDisconnect := do
  match ← d.choice? with
  | "nothing" => some nothing
  | "block" => some block
  | "reconnect" => some reconnect
  | _ => none

end AfterDisconnect

/-- The phase a tunnel is in. -/
inductive TunnelState where
  | disconnected (location : Option Location)
  | connecting (endpoint : Option TunnelEndpoint) (location : Option Location)
  | connected (endpoint : TunnelEndpoint) (location : Option Location)
  | disconnecting (after : AfterDisconnect)
  | error (state : ErrorState)
  deriving BEq

namespace TunnelState

/-- A tunnel that has not been used yet. -/
def initial : TunnelState := disconnected none

/-- The name of a phase as users see it. -/
def text : TunnelState → String
  | disconnected _ => "disconnected"
  | connecting _ _ => "connecting"
  | connected _ _ => "connected"
  | disconnecting .nothing => "disconnecting"
  | disconnecting .block => "disconnecting (block)"
  | disconnecting .reconnect => "disconnecting (reconnect)"
  | error state => if state.isBlocking then "error (blocking)" else "error"

/-- The location that the phase itself carries. -/
def location? : TunnelState → Option Location
  | disconnected location => location
  | connecting _ location => location
  | connected _ location => location
  | disconnecting _ => none
  | error _ => none

/-- The endpoints of a tunnel that is up or being set up. -/
def endpoint? : TunnelState → Option TunnelEndpoint
  | connecting endpoint _ => endpoint
  | connected endpoint _ => some endpoint
  | _ => none

/-- The location that a disconnected tunnel reports. -/
def disconnectedLocation? : TunnelState → Option Location
  | disconnected location => location
  | _ => none

/-- The tunnel is down and stays down. -/
def isDisconnected : TunnelState → Bool
  | disconnected _ => true
  | _ => false

/-- The tunnel is up. -/
def isConnected : TunnelState → Bool
  | connected _ _ => true
  | _ => false

/-- Whether all traffic is blocked. -/
def isBlocking : TunnelState → Bool
  | connecting _ _ => true
  | disconnecting after => after == .block
  | error state => state.isBlocking
  | _ => false

/-- The inbound address of a tunnel with a known endpoint. -/
def inAddress? (state : TunnelState) : Option String :=
  state.endpoint?.map fun endpoint => endpoint.entry.text

/-- The outbound address, empty when it is not known. -/
def outAddress (state : TunnelState) : String :=
  (state.location?.bind Location.outAddress?).getD ""

/-- Whether the screen shows a location in this phase. -/
def showsLocation : TunnelState → Bool
  | disconnected _ => true
  | connecting _ _ => false
  | connected _ _ => false
  | disconnecting after => after == .block
  | error _ => true

/-- The location to show: the phase's own one; without it the last known one, as long as the
tunnel is down or going down. -/
def resolvedLocation (state : TunnelState) (lastKnown : Option Location) : Option Location :=
  match state.location? with
  | some location => some location
  | none =>
    match state with
    | disconnected _ => lastKnown
    | disconnecting _ => lastKnown
    | _ => none

/-- The document form of a tunnel state. -/
def toData : TunnelState → Data
  | disconnected location =>
    .record [("state", .text "disconnected"), ("location", .ofOption Location.toData location)]
  | connecting endpoint location =>
    .record [("state", .text "connecting"),
      ("endpoint", .ofOption TunnelEndpoint.toData endpoint),
      ("location", .ofOption Location.toData location)]
  | connected endpoint location =>
    .record [("state", .text "connected"), ("endpoint", endpoint.toData),
      ("location", .ofOption Location.toData location)]
  | disconnecting after =>
    .record [("state", .text "disconnecting"), ("action_after_disconnect", after.toData)]
  | error state => .record [("state", .text "error"), ("error_state", state.toData)]

/-- The tunnel state a document value stands for. -/
def ofData? (d : Data) : Option TunnelState := do
  let (tag, m) ← d.tagged? "state"
  match tag with
  | "disconnected" =>
    if m.fits 1 then (m.optional 0 "location" Location.ofData?).map disconnected else none
  | "connecting" =>
    if m.fits 2 then do
      let endpoint ← m.optional 0 "endpoint" TunnelEndpoint.ofData?
      let location ← m.optional 1 "location" Location.ofData?
      some (connecting endpoint location)
    else none
  | "connected" =>
    if m.fits 2 then do
      let endpoint ← m.required 0 "endpoint" TunnelEndpoint.ofData?
      let location ← m.optional 1 "location" Location.ofData?
      some (connected endpoint location)
    else none
  | "disconnecting" =>
    if m.fits 1 then
      (m.required 0 "action_after_disconnect" AfterDisconnect.ofData?).map disconnecting
    else none
  | "error" =>
    if m.fits 1 then (m.required 0 "error_state" ErrorState.ofData?).map error else none
  | _ => none

end TunnelState

end VpnClient
