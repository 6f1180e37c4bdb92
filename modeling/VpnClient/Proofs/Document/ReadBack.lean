import VpnClient.Proofs.Document.States
import VpnClient.Proofs.Json.Text

/-!
# States are read back

A state that has been put into JSON is read back as it was, and so is a state that has been read
from any JSON value, however that was spelt: put into JSON again it has its canonical form, which is
read as the same state.  For the text of that form the coordinates of a location make an exception,
since the reader takes some numbers for their neighbours.

## Main Definitions

* `Location.HasPosition`, `TunnelState.HasPosition` — bounds on coordinates
* `Notification.ExpiresRegularly` — no instant in a leap second
* `Json.ReadsBack` — a type whose values are read back

## Main Statements

* `Json.states_read_back` — the types that documents are made of, with what is asked of their values
* `Json.tunnel_state_not_read_back` — a state whose text is read as another one
-/

namespace VpnClient

open Json

/-! ## The form of states -/

/-- Both coordinates of a location have a property. -/
def Location.HasPosition (p : Float → Prop) (location : Location) : Prop :=
  p location.latitude ∧ p location.longitude

/-- The coordinates of the location that a tunnel state carries, if it carries one, have a
property. -/
def TunnelState.HasPosition (p : Float → Prop) (state : TunnelState) : Prop :=
  ∀ location ∈ state.location?, location.HasPosition p

/-- The instant that a notice carries, if it carries one, lies in no leap second. -/
def Notification.ExpiresRegularly (notice : Notification) : Prop :=
  ∀ expiry, notice = accountExpiry expiry → expiry.IsRegular

section Plain

variable {p : Float → Prop} {depth : Nat}

theorem Location.plain_toData {location : Location} (h : location.HasPosition p) :
    Plain p (depth + 1) location.toData := by
  have hlatitude : Plain p depth (.float location.latitude) := .float h.1
  have hlongitude : Plain p depth (.float location.longitude) := .float h.2
  exact .record (by simp) (by simp [hlatitude, hlongitude])

theorem Endpoint.plain_toData (endpoint : Endpoint) : Plain p (depth + 1) endpoint.toData := by
  have hprotocol : Plain p depth endpoint.protocol.toData := by
    cases endpoint.protocol <;> exact .text _
  exact .record (by simp) (by simp [SocketAddress.toData, hprotocol])

theorem TunnelEndpoint.plain_toData (tunnel : TunnelEndpoint) :
    Plain p (depth + 2) tunnel.toData :=
  .record (by simp) (by simp [Endpoint.plain_toData])

theorem IpAddress.plain_toData (addresses : List IpAddress) :
    Plain p (depth + 1) (.list (addresses.map IpAddress.toData)) :=
  .list (by simp [toData])

theorem ErrorCause.plain_toData (cause : ErrorCause) : Plain p (depth + 2) cause.toData := by
  cases cause <;>
    exact .record (by simp [details]) (by simp [details, IpAddress.plain_toData])

theorem ErrorState.plain_toData (error : ErrorState) : Plain p (depth + 3) error.toData :=
  .record (by simp) (by simp [ErrorCause.plain_toData])

theorem TunnelState.plain_toData {state : TunnelState} (h : state.HasPosition p) :
    Plain p (depth + 4) state.toData := by
  have hlocation : Plain p (depth + 3) (.ofOption Location.toData state.location?) :=
    .ofOption fun location hmem => Location.plain_toData (h location hmem)
  cases state with
  | disconnected location => exact .record (by simp) (by simpa [location?] using hlocation)
  | connecting endpoint location =>
      exact .record (by simp)
        (by simpa [location?, TunnelEndpoint.plain_toData] using hlocation)
  | connected endpoint location =>
      exact .record (by simp)
        (by simpa [location?, TunnelEndpoint.plain_toData] using hlocation)
  | disconnecting after =>
      cases after <;> exact .record (by simp) (by simp [AfterDisconnect.toData])
  | error state => exact .record (by simp) (by simp [ErrorState.plain_toData])

theorem DeviceState.plain_toData (state : DeviceState) : Plain p (depth + 2) state.toData := by
  have hdevice (device : Device) : Plain p (depth + 1) device.toData :=
    .record (by simp) (by simp)
  cases state <;> exact .record (by simp) (by simp [hdevice])

theorem RelayItem.plain_toData (item : RelayItem) : Plain p (depth + 1) item.toData := by
  cases item <;> exact .record (by simp) (by simp)

theorem RelaySelection.plain_toData (selection : RelaySelection) :
    Plain p (depth + 2) selection.toData :=
  .record (by simp) (by simp [RelayItem.plain_toData])

theorem Notification.plain_toData (notice : Notification) : Plain p (depth + 4) notice.toData := by
  cases notice <;>
    exact .record (by simp) (by simp [ErrorState.plain_toData, Instant.toData])

theorem Version.plain_toData (version : Version) : Plain p (depth + 1) version.toData :=
  .record (by simp) (by simp)

theorem DnsSettings.plain_toData (settings : DnsSettings) : Plain p (depth + 2) settings.toData :=
  .record (by simp) (by simp [IpAddress.plain_toData])

end Plain

/-! ## Reading back -/

namespace Json

/-- Values are read back from JSON: a value that is encoded, and a value that has been decoded from
whatever stood for it and is encoded again.  There are bounds on the values, and on their numbers:
those that go into a JSON value are finite, and those that go into JSON text are read back from
their digits. -/
structure ReadsBack {α : Type} (encode : α → Data) (decode : Data → Option α)
    (bounds : (Float → Prop) → α → Prop) : Prop where
  encoded : ∀ a, bounds (·.isFinite = true) a → decode (value (encode a)) = some a
  decoded : ∀ d a, decode d = some a → bounds (·.isFinite = true) a →
    decode (value (encode a)) = decode d
  written : ∀ a, bounds (isReadBack · = true) a →
    (read? (write (encode a))).bind decode = some a
  rewritten : ∀ s a, (read? s).bind decode = some a → bounds (isReadBack · = true) a →
    (read? (write (encode a))).bind decode = (read? s).bind decode

/-- It takes a plain document form that is decoded to the value. -/
theorem ReadsBack.of_plain {α : Type} {encode : α → Data} {decode : Data → Option α}
    {bounds : (Float → Prop) → α → Prop}
    (hplain : ∀ p a, bounds p a → Plain p depthLimit (encode a))
    (hdecode : ∀ p a, bounds p a → decode (encode a) = some a) :
    ReadsBack encode decode bounds := by
  have hencoded : ∀ a, bounds (·.isFinite = true) a → decode (value (encode a)) = some a := by
    intro a ha
    rw [(hplain _ a ha).isValue]
    exact hdecode _ a ha
  have hwritten : ∀ a, bounds (isReadBack · = true) a →
      (read? (write (encode a))).bind decode = some a := by
    intro a ha
    rw [read?_write (hplain _ a ha), Option.bind_some]
    exact hdecode _ a ha
  refine ⟨hencoded, ?_, hwritten, ?_⟩
  · intro d a hd ha
    rw [hencoded a ha, hd]
  · intro s a hs ha
    rw [hwritten a ha, hs]

/-- States are read back from JSON: those of the tunnel within bounds on the coordinates of their
location, notices if their instant lies in no leap second, and all states of the login, all
selections, all versions and all DNS settings, with or without what may be left out. -/
theorem states_read_back (surplus : Data.Surplus) :
    ReadsBack TunnelState.toData TunnelState.ofData? TunnelState.HasPosition ∧
      ReadsBack DeviceState.toData DeviceState.ofData? (fun _ _ => True) ∧
      ReadsBack RelaySelection.toData (RelaySelection.ofData? surplus) (fun _ _ => True) ∧
      ReadsBack Notification.toData Notification.ofData?
        (fun _ notice => notice.ExpiresRegularly) ∧
      ReadsBack Version.toData (Version.ofData? surplus) (fun _ _ => True) ∧
      ReadsBack DnsSettings.toData (DnsSettings.ofData? surplus) (fun _ _ => True) := by
  refine ⟨?_, ?_, ?_, ?_, ?_, ?_⟩
  · exact .of_plain (fun _ _ h => TunnelState.plain_toData h)
      fun _ state _ => state.ofData?_toData
  · exact .of_plain (fun _ state _ => state.plain_toData) fun _ state _ => state.ofData?_toData
  · exact .of_plain (fun _ selection _ => selection.plain_toData)
      fun _ selection _ => selection.ofData?_toData surplus
  · exact .of_plain (fun _ notice _ => notice.plain_toData)
      fun _ _ h => Notification.ofData?_toData h
  · exact .of_plain (fun _ version _ => version.plain_toData)
      fun _ version _ => version.ofData?_toData surplus
  · exact .of_plain (fun _ settings _ => settings.plain_toData)
      fun _ settings _ => settings.ofData?_toData surplus

/-- Finite coordinates do not suffice for text: this latitude is read as its neighbour, so that the
state is not read back. -/
theorem tunnel_state_not_read_back :
    let location : Location :=
      { Location.ofCountry "Sweden" with latitude := 31.245270191439438 }
    let state : TunnelState := .disconnected (some location)
    state.HasPosition (·.isFinite = true) ∧
      (read? (write state.toData)).bind TunnelState.ofData? ≠ some state := by
  intro location state
  refine ⟨?_, ?_⟩
  · rintro location ⟨⟩
    exact ⟨by decide +kernel, by decide +kernel⟩
  · intro hread
    have hlatitude : (((read? (write state.toData)).bind TunnelState.ofData?).bind
        TunnelState.location?).map Location.latitude ≠ some location.latitude := by
      decide +kernel
    rw [hread] at hlatitude
    exact hlatitude rfl

/-- A tunnel state as it may come from elsewhere: with a member nobody asks for, with members that
are left out or given by position, and with addresses that are not in their canonical form. -/
def foreignTunnel : Data :=
  .record [("note", .integer 1), ("location", .record [("country", .text "Sweden"),
      ("latitude", .integer 59), ("ipv6", .text "2001:DB8:0:0:0::1")]),
    ("endpoint", .record [
      ("endpoint", .list [.text "[0:0:0:0:0:FFFF:7F00:1%0]:0443", .record [("tcp", .null)]]),
      ("obfuscation", .record [("protocol", .text "udp"), ("address", .text "[fe80::%3]:53")])]),
    ("state", .text "connected")]

/-- A notice whose instant is on a clock that is two hours ahead. -/
def foreignNotice : Data :=
  .record [("expiry", .text "2024-06-01 14:00:00.1250+0200"), ("kind", .text "account_expiry")]

/-- Such states are decoded, and what they are decoded to is read back. -/
theorem states_read_back_of_foreign :
    let location : Location := { Location.ofCountry "Sweden" with
      latitude := Data.floatOfInt 59, ipv6 := some ⟨0x2001, 0xdb8, 0, 0, 0, 0, 0, 1⟩ }
    let endpoint : TunnelEndpoint :=
      { TunnelEndpoint.direct ⟨.v6 ⟨0, 0, 0, 0, 0, 0xffff, 0x7f00, 1⟩ 0 443, .tcp⟩ with
        obfuscation := some ⟨.v6 ⟨0xfe80, 0, 0, 0, 0, 0, 0, 0⟩ 3 53, .udp⟩ }
    let state : TunnelState := .connected endpoint (some location)
    let notice : Notification := .accountExpiry ⟨1717243200, 125000000⟩
    (TunnelState.ofData? foreignTunnel = some state ∧
        TunnelState.ofData? (value state.toData) = some state ∧
        (read? (write state.toData)).bind TunnelState.ofData? = some state) ∧
      Notification.ofData? foreignNotice = some notice ∧
        Notification.ofData? (value notice.toData) = some notice ∧
        (read? (write notice.toData)).bind Notification.ofData? = some notice := by
  intro location endpoint state notice
  obtain ⟨htunnels, -, -, hnotices, -⟩ := states_read_back .refused
  have hstate : TunnelState.ofData? foreignTunnel = some state := by rfl
  have hfinite : state.HasPosition (·.isFinite = true) := by
    rintro location ⟨⟩
    exact ⟨by decide +kernel, by decide +kernel⟩
  have hdigits : state.HasPosition (isReadBack · = true) := by
    rintro location ⟨⟩
    exact ⟨by decide +kernel, by decide +kernel⟩
  have hnotice : Notification.ofData? foreignNotice = some notice := by decide +kernel
  have hexpiry : notice.ExpiresRegularly := by
    intro expiry heq
    rw [← Notification.accountExpiry.inj heq]
    decide
  refine ⟨⟨hstate, ?_, htunnels.written _ hdigits⟩, hnotice, ?_, hnotices.written _ hexpiry⟩
  · exact (htunnels.decoded _ _ hstate hfinite).trans hstate
  · exact (hnotices.decoded _ _ hnotice hexpiry).trans hnotice

end Json

end VpnClient
