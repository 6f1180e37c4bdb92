import VpnClient.Device
import VpnClient.Notification
import VpnClient.Proofs.Address.Socket
import VpnClient.Proofs.Config.Document
import VpnClient.Proofs.Document.Members
import VpnClient.Proofs.Time.Timestamp
import VpnClient.Relay

/-!
# States are decoded from their document forms

One lemma for each type, from the inside out: what stands in the document form of a value is decoded
to that value.

## Main Statements

* `TunnelState.ofData?_toData`, `DeviceState.ofData?_toData`, `RelaySelection.ofData?_toData`,
  `Notification.ofData?_toData`, `Version.ofData?_toData` — the types that documents are made of
-/

namespace VpnClient

open Data Members

/-! ## Addresses and places -/

theorem Ipv4.parsed?_text (address : Ipv4) : parsed? read? (.text address.text) = some address := by
  rw [parsed?, text, String.toList_ofList, read?_chars]

theorem Ipv6.parsed?_text (address : Ipv6) : parsed? read? (.text address.text) = some address := by
  rw [parsed?, text, String.toList_ofList, read?_chars]

/-- The document form of a location is decoded to the location. -/
theorem Location.ofData?_toData (location : Location) :
    ofData? location.toData = some location := by
  simp only [ofData?, toData, members?, Option.bind_eq_bind, Option.bind_some]
  rw [optional_of_lookup (fun address : Ipv4 => .text address.text) location.ipv4 rfl
      (fun _ => text_ne_null _) Ipv4.parsed?_text, Option.bind_some,
    optional_of_lookup (fun address : Ipv6 => .text address.text) location.ipv6 rfl
      (fun _ => text_ne_null _) Ipv6.parsed?_text, Option.bind_some,
    required_of_lookup (a := location.country) rfl rfl, Option.bind_some,
    optionalText_of_lookup location.city rfl, Option.bind_some,
    defaulted_of_lookup (a := location.latitude) rfl rfl, Option.bind_some,
    defaulted_of_lookup (a := location.longitude) rfl rfl, Option.bind_some,
    optionalText_of_lookup location.hostname rfl, Option.bind_some,
    optionalText_of_lookup location.entryHostname rfl, Option.bind_some]

/-! ## Endpoints -/

theorem Protocol.ofData?_toData (protocol : Protocol) :
    ofData? protocol.toData = some protocol := by
  cases protocol <;> rfl

/-- The document form of an endpoint is decoded to the endpoint. -/
theorem Endpoint.ofData?_toData (endpoint : Endpoint) :
    ofData? endpoint.toData = some endpoint := by
  simp only [ofData?, toData, members?, Option.bind_eq_bind, Option.bind_some]
  rw [required_of_lookup rfl (SocketAddress.ofData?_toData endpoint.address), Option.bind_some,
    required_of_lookup rfl (Protocol.ofData?_toData endpoint.protocol), Option.bind_some]

/-- The document form of the endpoints of a tunnel is decoded to these. -/
theorem TunnelEndpoint.ofData?_toData (tunnel : TunnelEndpoint) :
    ofData? tunnel.toData = some tunnel := by
  simp only [ofData?, toData, members?, Option.bind_eq_bind, Option.bind_some]
  rw [required_of_lookup rfl (Endpoint.ofData?_toData tunnel.exit), Option.bind_some,
    optional_of_lookup Endpoint.toData tunnel.entryRelay rfl (fun _ => record_ne_null _)
      Endpoint.ofData?_toData, Option.bind_some,
    optional_of_lookup Endpoint.toData tunnel.obfuscation rfl (fun _ => record_ne_null _)
      Endpoint.ofData?_toData, Option.bind_some,
    defaulted_of_lookup (a := tunnel.quantumResistant) rfl rfl, Option.bind_some]

/-! ## Tunnel errors -/

/-- The document form of a cause is decoded to the cause. -/
theorem ErrorCause.ofData?_toData (cause : ErrorCause) : ofData? cause.toData = some cause := by
  cases cause with
  | authFailed reason =>
      rw [ofData?, toData, tag, details, tagged?_record rfl]
      simp only [Option.bind_eq_bind, Option.bind_some, fits, if_true]
      rw [optionalText_of_lookup reason rfl, Option.map_some]
  | otherAlwaysOnApp appName => rfl
  | invalidDnsServers addresses =>
      have haddresses : listOf? IpAddress.ofData? (.list (addresses.map IpAddress.toData)) =
          some addresses := DnsSettings.mapM_ofData?_toData addresses
      rw [ofData?, toData, tag, details, tagged?_record rfl]
      simp only [Option.bind_eq_bind, Option.bind_some, fits, if_true]
      rw [required_of_lookup rfl haddresses, Option.map_some]
  | _ => rfl

/-- The document form of a tunnel error is decoded to the error. -/
theorem ErrorState.ofData?_toData (error : ErrorState) : ofData? error.toData = some error := by
  simp only [ofData?, toData, members?, Option.bind_eq_bind, Option.bind_some]
  rw [required_of_lookup rfl (ErrorCause.ofData?_toData error.cause), Option.bind_some,
    defaulted_of_lookup (a := error.isBlocking) rfl rfl, Option.bind_some]

/-! ## Tunnel states -/

theorem AfterDisconnect.ofData?_toData (after : AfterDisconnect) :
    ofData? after.toData = some after := by
  cases after <;> rfl

/-- The document form of a tunnel state is decoded to the state. -/
theorem TunnelState.ofData?_toData (state : TunnelState) : ofData? state.toData = some state := by
  cases state with
  | disconnected location =>
      rw [ofData?, toData, tagged?_record rfl]
      simp only [Option.bind_eq_bind, Option.bind_some, fits, if_true]
      rw [optional_of_lookup Location.toData location rfl (fun _ => record_ne_null _)
        Location.ofData?_toData, Option.map_some]
  | connecting endpoint location =>
      rw [ofData?, toData, tagged?_record rfl]
      simp only [Option.bind_eq_bind, Option.bind_some, fits, if_true]
      rw [optional_of_lookup TunnelEndpoint.toData endpoint rfl (fun _ => record_ne_null _)
          TunnelEndpoint.ofData?_toData, Option.bind_some,
        optional_of_lookup Location.toData location rfl (fun _ => record_ne_null _)
          Location.ofData?_toData, Option.bind_some]
  | connected endpoint location =>
      rw [ofData?, toData, tagged?_record rfl]
      simp only [Option.bind_eq_bind, Option.bind_some, fits, if_true]
      rw [required_of_lookup rfl (TunnelEndpoint.ofData?_toData endpoint),
        Option.bind_some,
        optional_of_lookup Location.toData location rfl (fun _ => record_ne_null _)
          Location.ofData?_toData, Option.bind_some]
  | disconnecting after =>
      rw [ofData?, toData, tagged?_record rfl]
      simp only [Option.bind_eq_bind, Option.bind_some, fits, if_true]
      rw [required_of_lookup rfl (AfterDisconnect.ofData?_toData after),
        Option.map_some]
  | error state =>
      rw [ofData?, toData, tagged?_record rfl]
      simp only [Option.bind_eq_bind, Option.bind_some, fits, if_true]
      rw [required_of_lookup rfl (ErrorState.ofData?_toData state), Option.map_some]

/-! ## Devices -/

theorem Device.ofData?_toData (device : Device) : ofData? device.toData = some device := rfl

theorem DeviceState.ofData?_toData (state : DeviceState) :
    ofData? state.toData = some state := by
  cases state with
  | loggedIn account device =>
      rw [ofData?, toData, tagged?_record rfl]
      simp only [Option.bind_eq_bind, Option.bind_some, fits, if_true]
      rw [required_of_lookup (a := account) rfl rfl, Option.bind_some,
        required_of_lookup rfl (Device.ofData?_toData device), Option.bind_some]
  | _ => rfl

/-! ## Relay selections -/

theorem RelayItem.ofData?_toData (item : RelayItem) : ofData? item.toData = some item := by
  cases item with
  | place place =>
      rw [ofData?, toData, tagged?_record rfl]
      simp only [Option.bind_eq_bind, Option.bind_some, fits, if_true]
      rw [required_of_lookup (a := place.country) rfl rfl, Option.bind_some,
        optionalText_of_lookup place.city rfl, Option.bind_some,
        optionalText_of_lookup place.hostname rfl, Option.bind_some]
  | customList name => rfl

/-- The document form of a relay selection is decoded to the selection. -/
theorem RelaySelection.ofData?_toData (surplus : Surplus) (selection : RelaySelection) :
    ofData? surplus selection.toData = some selection := by
  have hnull (item : RelayItem) : item.toData ≠ .null := by
    cases item <;> exact record_ne_null _
  simp only [ofData?, toData, members?, Option.bind_eq_bind, Option.bind_some]
  rw [required_of_lookup rfl (RelayItem.ofData?_toData selection.exit), Option.bind_some,
    optional_of_lookup RelayItem.toData selection.entry rfl hnull RelayItem.ofData?_toData,
    Option.bind_some]

/-! ## Notifications -/

/-- The document form of a notice is decoded to the notice, if the instant it may have in it lies in
no leap second. -/
theorem Notification.ofData?_toData {notice : Notification}
    (h : ∀ expiry, notice = accountExpiry expiry → expiry.IsRegular) :
    ofData? notice.toData = some notice := by
  cases notice with
  | tunnelError state =>
      rw [ofData?, toData, tagged?_record rfl]
      simp only [Option.bind_eq_bind, Option.bind_some, fits, if_true]
      rw [required_of_lookup rfl (ErrorState.ofData?_toData state), Option.map_some]
  | accountExpiry expiry =>
      rw [ofData?, toData, tagged?_record rfl]
      simp only [Option.bind_eq_bind, Option.bind_some, fits, if_true]
      rw [required_of_lookup rfl (h expiry rfl).ofData?_toData, Option.map_some]
  | _ => rfl

/-! ## Versions -/

/-- The document form of what is known about a version is decoded to it. -/
theorem Version.ofData?_toData (surplus : Surplus) (version : Version) :
    ofData? surplus version.toData = some version := by
  simp only [ofData?, toData, members?, Option.bind_eq_bind, Option.bind_some]
  rw [required_of_lookup (a := version.current) rfl rfl, Option.bind_some,
    defaulted_of_lookup (a := version.isSupported) rfl rfl, Option.bind_some,
    optionalText_of_lookup version.suggestedUpgrade rfl, Option.bind_some]

end VpnClient
