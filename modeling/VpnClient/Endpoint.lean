import VpnClient.Address.Socket

/-!
# Endpoints

The socket addresses that make up a tunnel, and the protocols spoken on them.

## Main Definitions

* `Endpoint` — a socket address and a protocol
* `TunnelEndpoint` — the endpoints between this device and the exit relay
* `TunnelEndpoint.entry` — the one that packets leave this device for
-/

namespace VpnClient

/-- A transport protocol. -/
inductive Protocol where
  | udp
  | tcp
  deriving DecidableEq, Repr

namespace Protocol

/-- The name of a protocol as users see it. -/
def text : Protocol → String
  | udp => "UDP"
  | tcp => "TCP"

/-- The document form of a protocol. -/
def toData : Protocol → Data
  | udp => .text "udp"
  | tcp => .text "tcp"

/-- The protocol a document value stands for. -/
def ofData? (d : Data) : Option Protocol := do
  match ← d.choice? with
  | "udp" => some udp
  | "tcp" => some tcp
  | _ => none

end Protocol

/-- A socket address and the protocol spoken on it. -/
structure Endpoint where
  address : SocketAddress
  protocol : Protocol
  deriving DecidableEq, Repr

namespace Endpoint

/-- The text of an endpoint, such as `185.65.135.2:51820 UDP`. -/
def text (endpoint : Endpoint) : String :=
  endpoint.address.text ++ " " ++ endpoint.protocol.text

/-- The document form of an endpoint. -/
def toData (endpoint : Endpoint) : Data :=
  .record [("address", endpoint.address.toData), ("protocol", endpoint.protocol.toData)]

/-- The endpoint a document value stands for. -/
def ofData? (d : Data) : Option Endpoint := do
  let m ← d.members? .refused 2
  let address ← m.required 0 "address" SocketAddress.ofData?
  let protocol ← m.required 1 "protocol" Protocol.ofData?
  some { address, protocol }

end Endpoint

/-- The endpoints of a tunnel that is up or being set up: the exit relay, the entry relay when
there are two, and the proxy that hides the traffic, if any. -/
structure TunnelEndpoint where
  exit : Endpoint
  entryRelay : Option Endpoint
  obfuscation : Option Endpoint
  quantumResistant : Bool
  deriving DecidableEq, Repr

namespace TunnelEndpoint

/-- A tunnel to one relay without anything in between. -/
def direct (exit : Endpoint) : TunnelEndpoint where
  exit := exit
  entryRelay := none
  obfuscation := none
  quantumResistant := false

/-- The outermost endpoint: the one that packets leave this device for. -/
def entry (tunnel : TunnelEndpoint) : Endpoint :=
  (tunnel.obfuscation.or tunnel.entryRelay).getD tunnel.exit

/-- The document form of the endpoints of a tunnel. -/
def toData (tunnel : TunnelEndpoint) : Data :=
  .record [
    ("endpoint", tunnel.exit.toData),
    ("entry_endpoint", .ofOption Endpoint.toData tunnel.entryRelay),
    ("obfuscation", .ofOption Endpoint.toData tunnel.obfuscation),
    ("quantum_resistant", .bool tunnel.quantumResistant)]

/-- The endpoints of a tunnel a document value stands for. -/
def ofData? (d : Data) : Option TunnelEndpoint := do
  let m ← d.members? .refused 4
  let exit ← m.required 0 "endpoint" Endpoint.ofData?
  let entryRelay ← m.optional 1 "entry_endpoint" Endpoint.ofData?
  let obfuscation ← m.optional 2 "obfuscation" Endpoint.ofData?
  let quantumResistant ← m.defaulted 3 "quantum_resistant" false Data.bool?
  some { exit, entryRelay, obfuscation, quantumResistant }

end TunnelEndpoint

end VpnClient
