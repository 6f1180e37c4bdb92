import VpnClient.Feed.Feeds
import VpnClient.Proofs.Source.Events
import VpnClient.Screen.Presenter

/-!
# Writes

What can become of a source, and of the sources of a backend, while they are written but not closed.
Whoever has seen the last revision has seen the last value: this is what every follower of a source
relies on.

## Main Definitions

* `Source.Later` — a source and what has become of it
* `Backend.Later` — the same for the six sources of a backend
* `Backend.IsOpen` — none of the sources of a backend is closed
* `Backend.HasRegularExpiry` — the time of the account runs out at a regular instant

## Main Statements

* `Backend.later_apply`, `Presenter.later_perform` — changes from outside and requests only write
-/

namespace VpnClient

namespace Source

variable {α : Type} {s t u : Source α}

/-- A source and what has become of it: either nothing has happened, or there is a new revision. -/
structure Later (s t : Source α) : Prop where
  isClosed_eq : t.isClosed = s.isClosed
  same_or_newer : t = s ∨ s.revision < t.revision

namespace Later

theorem refl (s : Source α) : Later s s :=
  ⟨rfl, Or.inl rfl⟩

theorem trans (h₁ : Later s t) (h₂ : Later t u) : Later s u := by
  refine ⟨h₂.isClosed_eq.trans h₁.isClosed_eq, ?_⟩
  rcases h₂.same_or_newer with rfl | hnewer
  · exact h₁.same_or_newer
  · rcases h₁.same_or_newer with rfl | hnewer'
    · exact Or.inr hnewer
    · exact Or.inr (Nat.lt_trans hnewer' hnewer)

theorem revision_le (h : Later s t) : s.revision ≤ t.revision := by
  rcases h.same_or_newer with rfl | hnewer
  · exact Nat.le_refl _
  · exact Nat.le_of_lt hnewer

theorem becomes (h : Later s t) : Becomes s t := by
  rcases h.same_or_newer with rfl | hnewer
  · exact Becomes.refl _
  · exact Or.inr hnewer

/-- Nothing has been missed of a source whose revision is the one that was seen. -/
theorem eq_of_revision_eq (h : Later s t) (hrevision : t.revision = s.revision) : t = s := by
  rcases h.same_or_newer with heq | hnewer
  · exact heq
  · omega

end Later

theorem later_set (s : Source α) (value : α) : Later s (s.set value) :=
  ⟨rfl, Or.inr (Nat.lt_succ_self _)⟩

theorem later_update [BEq α] (s : Source α) (value : α) : Later s (s.update value) := by
  unfold update
  split
  · exact Later.refl s
  · exact later_set s value

/-- After an update the value is the one that was written, or one that compares equal to it. -/
theorem update_value [BEq α] (s : Source α) (value : α) :
    (s.update value).value = value ∨ ((s.update value).value == value) = true := by
  unfold update
  split
  · next hsame => exact Or.inr hsame
  · exact Or.inl rfl

@[simp]
theorem update_value_of_lawful [BEq α] [LawfulBEq α] (s : Source α) (value : α) :
    (s.update value).value = value := by
  rcases update_value s value with heq | hsame
  · exact heq
  · exact eq_of_beq hsame

@[simp]
theorem update_isClosed [BEq α] (s : Source α) (value : α) :
    (s.update value).isClosed = s.isClosed :=
  (later_update s value).isClosed_eq

end Source

namespace Backend

/-- A backend and what has become of it by changes from outside and by requests. -/
structure Later (b c : Backend) : Prop where
  tunnel : b.tunnel.Later c.tunnel
  account : b.account.Later c.account
  device : b.device.Later c.device
  newDevice : b.newDevice.Later c.newDevice
  version : b.version.Later c.version
  selection : b.selection.Later c.selection

namespace Later

variable {b c d : Backend}

theorem refl (b : Backend) : Later b b :=
  ⟨.refl _, .refl _, .refl _, .refl _, .refl _, .refl _⟩

theorem trans (h₁ : Later b c) (h₂ : Later c d) : Later b d where
  tunnel := h₁.tunnel.trans h₂.tunnel
  account := h₁.account.trans h₂.account
  device := h₁.device.trans h₂.device
  newDevice := h₁.newDevice.trans h₂.newDevice
  version := h₁.version.trans h₂.version
  selection := h₁.selection.trans h₂.selection

end Later

/-- None of the sources of a backend is closed, as long as it is there. -/
structure IsOpen (b : Backend) : Prop where
  tunnel : b.tunnel.isClosed = false
  account : b.account.isClosed = false
  device : b.device.isClosed = false
  newDevice : b.newDevice.isClosed = false
  version : b.version.isClosed = false
  selection : b.selection.isClosed = false

theorem IsOpen.of_later {b c : Backend} (h : b.IsOpen) (hlater : b.Later c) : c.IsOpen where
  tunnel := hlater.tunnel.isClosed_eq.trans h.tunnel
  account := hlater.account.isClosed_eq.trans h.account
  device := hlater.device.isClosed_eq.trans h.device
  newDevice := hlater.newDevice.isClosed_eq.trans h.newDevice
  version := hlater.version.isClosed_eq.trans h.version
  selection := hlater.selection.isClosed_eq.trans h.selection

/-- The time of the account, if there is one, runs out at a regular instant. -/
def HasRegularExpiry (b : Backend) : Prop :=
  ∀ account, b.account.value = some account → account.expiry.IsRegular

end Backend

/-- A change after which the time of the account still runs out at a regular instant. -/
def BackendChange.IsRegular : BackendChange → Prop
  | .account (some a) => a.expiry.IsRegular
  | _ => True

namespace Backend

/-! ## Changes from outside -/

theorem later_setTunnel (b : Backend) (state : TunnelState) : b.Later (b.setTunnel state) :=
  { Later.refl b with tunnel := Source.later_set _ _ }

theorem later_apply (b : Backend) (change : BackendChange) : b.Later (b.apply change) := by
  cases change with
  | tunnel state => exact later_setTunnel b state
  | account account => exact { Later.refl b with account := Source.later_set _ _ }
  | device state => exact { Later.refl b with device := Source.later_set _ _ }
  | newDevice name => exact { Later.refl b with newDevice := Source.later_set _ _ }
  | version version => exact { Later.refl b with version := Source.later_set _ _ }
  | selection selection => exact { Later.refl b with selection := Source.later_set _ _ }
  | permission granted => exact { Later.refl b with }
  | alwaysOnApp name => exact { Later.refl b with }
  | connectFailure reason => exact { Later.refl b with }
  | authToken token => exact { Later.refl b with }
  | pendingPurchase days => exact { Later.refl b with }
  | providerDown isDown => exact { Later.refl b with }

theorem HasRegularExpiry.apply {b : Backend} (h : b.HasRegularExpiry) {change : BackendChange}
    (hchange : change.IsRegular) : (b.apply change).HasRegularExpiry := by
  cases change with
  | account account =>
      intro a ha
      have haccount : account = some a := ha
      subst haccount
      exact hchange
  | _ => exact h

/-! ## Requests -/

theorem later_record (b : Backend) (call : TunnelCall) : b.Later (b.record call) :=
  { Later.refl b with }

theorem later_connect (b : Backend) : b.Later b.connect.2 := by
  simp only [connect]
  split
  · exact later_record b .connect
  · split
    · exact later_record b .connect
    · split
      · exact later_record b .connect
      · exact (later_record b .connect).trans (later_setTunnel _ _)

theorem later_disconnect (b : Backend) : b.Later b.disconnect.2 :=
  (later_record b .disconnect).trans (later_setTunnel _ _)

theorem later_reconnect (b : Backend) : b.Later b.reconnect.2 := by
  simp only [reconnect]
  split
  · exact later_record b .reconnect
  · exact (later_record b .reconnect).trans
      ((later_setTunnel _ _).trans (later_setTunnel _ _))

theorem later_refreshAccount (b : Backend) : b.Later b.refreshAccount := by
  simp only [refreshAccount]
  split
  · exact Later.refl b
  · split
    · exact { Later.refl b with account := Source.later_set _ _ }
    · split
      · exact { Later.refl b with account := Source.later_set _ _ }
      · exact { Later.refl b with }

theorem later_verifyPurchases (b : Backend) : b.Later b.verifyPurchases.2 := by
  simp only [verifyPurchases]
  split
  · exact Later.refl b
  · split
    · exact Later.refl b
    · exact { Later.refl b with }

theorem later_clearNewDevice (b : Backend) : b.Later b.clearNewDevice :=
  { Later.refl b with newDevice := Source.later_set _ _ }

/-- Bought days move a regular expiry to a regular one. -/
theorem HasRegularExpiry.refreshAccount {b : Backend} (h : b.HasRegularExpiry) :
    b.refreshAccount.HasRegularExpiry := by
  simp only [Backend.refreshAccount]
  split
  · exact h
  · split
    · intro a ha
      cases ha
    · next account haccount =>
      split
      · next credited hcredit =>
        intro a ha
        obtain ⟨expiry, hexpiry, rfl⟩ := Option.map_eq_some_iff.mp hcredit
        cases ha
        exact (h account haccount).addDays? hexpiry
      · exact h

theorem HasRegularExpiry.of_account_eq {b c : Backend} (h : b.HasRegularExpiry)
    (heq : c.account = b.account) : c.HasRegularExpiry := by
  intro a ha
  exact h a (heq ▸ ha)

theorem connect_account (b : Backend) : b.connect.2.account = b.account := by
  simp only [connect]
  split
  · rfl
  · split
    · rfl
    · split <;> rfl

theorem reconnect_account (b : Backend) : b.reconnect.2.account = b.account := by
  simp only [reconnect]
  split <;> rfl

theorem verifyPurchases_account (b : Backend) : b.verifyPurchases.2.account = b.account := by
  simp only [verifyPurchases]
  split
  · rfl
  · split <;> rfl

end Backend

namespace Presenter

/-- A request over a network either reaches the backend or leaves it as it is. -/
theorem ask_backend (network : Network) (b : Backend)
    (request : Backend → Except ConnectError Unit × Backend) :
    (ask network b request).2 = b ∨ (ask network b request).2 = (request b).2 := by
  simp only [ask]
  split
  · exact Or.inl rfl
  · exact Or.inr rfl

/-- What a request preserves that is preserved by all the services. -/
theorem perform_preserves {R : Backend → Prop} (p : Presenter) (network : Network) (b : Backend)
    (request : ScreenRequest) (hsame : R b) (hconnect : R b.connect.2)
    (hdisconnect : R b.disconnect.2) (hreconnect : R b.reconnect.2)
    (hclear : R b.clearNewDevice) (hverify : R b.verifyPurchases.2)
    (hrefresh : R b.verifyPurchases.2.refreshAccount) :
    R (p.perform network b request).2 := by
  cases request with
  | connect =>
      rcases ask_backend network b Backend.connect with heq | heq
      · exact heq.symm ▸ hsame
      · exact heq.symm ▸ hconnect
  | disconnect =>
      rcases ask_backend network b Backend.disconnect with heq | heq
      · exact heq.symm ▸ hsame
      · exact heq.symm ▸ hdisconnect
  | reconnect =>
      rcases ask_backend network b Backend.reconnect with heq | heq
      · exact heq.symm ▸ hsame
      · exact heq.symm ▸ hreconnect
  | manageAccount => exact hsame
  | dismissNewDevice => exact hclear
  | explainDenial => exact hsame
  | verifyPurchases =>
      simp only [perform]
      split
      · exact hsame
      · split
        · next verified hverified =>
          rw [hverified] at hrefresh
          exact hrefresh
        · next other hother =>
          rw [hother] at hverify
          exact hverify

theorem later_perform (p : Presenter) (network : Network) (b : Backend)
    (request : ScreenRequest) : b.Later (p.perform network b request).2 :=
  p.perform_preserves network b request (Backend.Later.refl b) b.later_connect b.later_disconnect
    b.later_reconnect b.later_clearNewDevice b.later_verifyPurchases
    (b.later_verifyPurchases.trans (Backend.later_refreshAccount _))

theorem hasRegularExpiry_perform (p : Presenter) (network : Network) {b : Backend}
    (h : b.HasRegularExpiry) (request : ScreenRequest) :
    (p.perform network b request).2.HasRegularExpiry := by
  have hverify := h.of_account_eq b.verifyPurchases_account
  exact p.perform_preserves network b request h (h.of_account_eq b.connect_account) h
    (h.of_account_eq b.reconnect_account) h hverify hverify.refreshAccount

end Presenter

end VpnClient
