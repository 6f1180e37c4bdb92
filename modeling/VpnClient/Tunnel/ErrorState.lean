import VpnClient.Address.Ip
import VpnClient.Text.Quoted

/-!
# Tunnel errors

Why a tunnel could not be set up or was torn down, and whether traffic is still held back.

## Main Definitions

* `ErrorCause` — the reasons
* `ErrorState` — a reason, and whether all traffic is blocked meanwhile
* `ErrorState.isExpiredAccount` — the account was rejected because its time is up
-/

namespace VpnClient

/-- Why the tunnel is in the error state. -/
inductive ErrorCause where
  | authFailed (reason : Option String)
  | ipv6Unavailable
  | setFirewallPolicyError
  | setDnsError
  | startTunnelError
  | isOffline
  | noVpnPermission
  | otherAlwaysOnApp (appName : String)
  | invalidDnsServers (addresses : List IpAddress)
  deriving DecidableEq

namespace ErrorCause

/-- The tag of a cause in documents. -/
def tag : ErrorCause → String
  | authFailed _ => "auth_failed"
  | ipv6Unavailable => "ipv6_unavailable"
  | setFirewallPolicyError => "set_firewall_policy_error"
  | setDnsError => "set_dns_error"
  | startTunnelError => "start_tunnel_error"
  | isOffline => "is_offline"
  | noVpnPermission => "no_vpn_permission"
  | otherAlwaysOnApp _ => "other_always_on_app"
  | invalidDnsServers _ => "invalid_dns_servers"

/-- What a cause says besides its tag. -/
def details : ErrorCause → List (String × Data)
  | authFailed reason => [("reason", .ofText? reason)]
  | otherAlwaysOnApp appName => [("app_name", .text appName)]
  | invalidDnsServers addresses => [("addresses", .list (addresses.map IpAddress.toData))]
  | _ => []

/-- The document form of a cause. -/
def toData (cause : ErrorCause) : Data :=
  .record (("cause", .text cause.tag) :: cause.details)

/-- The cause a document value stands for. -/
def ofData? (d : Data) : Option ErrorCause := do
  let (tag, m) ← d.tagged? "cause"
  match tag with
  | "auth_failed" =>
    if m.fits 1 then (m.optional 0 "reason" Data.text?).map authFailed else none
  | "ipv6_unavailable" => if m.fits 0 then some ipv6Unavailable else none
  | "set_firewall_policy_error" => if m.fits 0 then some setFirewallPolicyError else none
  | "set_dns_error" => if m.fits 0 then some setDnsError else none
  | "start_tunnel_error" => if m.fits 0 then some startTunnelError else none
  | "is_offline" => if m.fits 0 then some isOffline else none
  | "no_vpn_permission" => if m.fits 0 then some noVpnPermission else none
  | "other_always_on_app" =>
    if m.fits 1 then (m.required 0 "app_name" Data.text?).map otherAlwaysOnApp else none
  | "invalid_dns_servers" =>
    if m.fits 1 then
      (m.required 0 "addresses" (Data.listOf? IpAddress.ofData?)).map invalidDnsServers
    else none
  | _ => none

/-- A cause in technical terms, for the details of an error message. -/
def technicalText : ErrorCause → String
  | authFailed none => "AuthFailed \x7b reason: None \x7d"
  | authFailed (some reason) =>
    "AuthFailed \x7b reason: Some(" ++ Text.quoted reason ++ ") \x7d"
  | ipv6Unavailable => "Ipv6Unavailable"
  | setFirewallPolicyError => "SetFirewallPolicyError"
  | setDnsError => "SetDnsError"
  | startTunnelError => "StartTunnelError"
  | isOffline => "IsOffline"
  | noVpnPermission => "NoVpnPermission"
  | otherAlwaysOnApp appName =>
    "OtherAlwaysOnApp \x7b app_name: " ++ Text.quoted appName ++ " \x7d"
  | invalidDnsServers addresses =>
    "InvalidDnsServers \x7b addresses: [" ++ String.intercalate ", " (addresses.map IpAddress.text)
      ++ "] \x7d"

end ErrorCause

/-- A tunnel error: its cause, and whether all traffic is blocked while it lasts. -/
structure ErrorState where
  cause : ErrorCause
  isBlocking : Bool
  deriving DecidableEq

namespace ErrorState

/-- The reason that is given for a rejected account without time left. -/
def expiredAccountReason : String := "EXPIRED_ACCOUNT"

/-- Whether the account was rejected because its time is up. -/
def isExpiredAccount (error : ErrorState) : Bool :=
  error.cause == .authFailed (some expiredAccountReason)

/-- The document form of a tunnel error. -/
def toData (error : ErrorState) : Data :=
  .record [("cause", error.cause.toData), ("is_blocking", .bool error.isBlocking)]

/-- The tunnel error a document value stands for. -/
def ofData? (d : Data) : Option ErrorState := do
  let m ← d.members? .refused 2
  let cause ← m.required 0 "cause" ErrorCause.ofData?
  let isBlocking ← m.defaulted 1 "is_blocking" false Data.bool?
  some { cause, isBlocking }

end ErrorState

end VpnClient
