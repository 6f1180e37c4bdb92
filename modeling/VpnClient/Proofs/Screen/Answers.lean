import VpnClient.Proofs.Feed.Writes

/-!
# What clicks ask for and what they are answered

What the user is told when a request runs follows from the services as they are at that moment, and
from nothing else.  A request to connect that fails is recorded, and changes nothing besides.

## Main Definitions

* `Backend.objection?` — why a request to connect fails
* `Click.effects`, `Click.calls` — the effects of a click, and its requests to the tunnel

## Main Statements

* `Backend.connect_cases` — what a request to connect does, whether it fails or not
* `Presenter.perform_click` — a click has its effects and makes its requests, on a network that
  loses none
* `Presenter.perform_of_effect` — a click with an effect changes no state
-/

namespace VpnClient

/-! ## What requests answer -/

/-- Why a request to connect fails, if it does, as the user is told. -/
def Backend.objection? (backend : Backend) : Option Effect :=
  if !backend.hasPermission then some .noVpnPermission
  else backend.connectFailure.map fun _ => .connectError .generic

namespace Click

/-- The effects that a click has. -/
def effects (page : Url) (backend : Backend) : Click → List Effect
  | connect | permissionResult true => backend.objection?.toList
  | permissionResult false =>
    [.connectError (match backend.alwaysOnApp with
      | some app => .alwaysOnVpn app
      | none => .permissionDenied)]
  | manageAccount => [.openAccount ⟨page, backend.authToken⟩]
  | disconnect | reconnect | cancel | dismissNewDevice => []

/-- The requests of a click that reach the tunnel. -/
def calls : Click → List TunnelCall
  | connect | permissionResult true => [.connect]
  | disconnect | cancel => [.disconnect]
  | reconnect => [.reconnect]
  | permissionResult false | manageAccount | dismissNewDevice => []

end Click

namespace Backend

/-- A request to connect is recorded, and if it fails that is all. -/
theorem connect_cases (backend : Backend) :
    Presenter.effectOf? backend.connect.1 = backend.objection? ∧
      backend.connect.2.calls = backend.calls ++ [.connect] ∧
      (backend.objection?.isSome = true → backend.connect.2 = backend.record .connect) := by
  have hpermission : (backend.record .connect).hasPermission = backend.hasPermission := rfl
  have hfailure : (backend.record .connect).connectFailure = backend.connectFailure := rfl
  simp only [connect, objection?, hpermission, hfailure]
  split
  · exact ⟨rfl, rfl, fun _ => rfl⟩
  · cases backend.connectFailure with
    | some reason => exact ⟨rfl, rfl, fun _ => rfl⟩
    | none =>
        refine ⟨?_, ?_, fun hsome => ?_⟩
        · dsimp only
          split <;> rfl
        · dsimp only
          split <;> rfl
        · cases hsome

theorem reconnect_calls (backend : Backend) :
    backend.reconnect.2.calls = backend.calls ++ [.reconnect] := by
  unfold reconnect
  dsimp only
  split <;> rfl

/-- A change from outside is no request. -/
theorem apply_calls (backend : Backend) (written : BackendChange) :
    (backend.apply written).calls = backend.calls := by
  cases written <;> rfl

/-- A look for purchases does not concern the tunnel and the device. -/
theorem refreshAccount_same (backend : Backend) :
    backend.refreshAccount.calls = backend.calls ∧
      backend.refreshAccount.device = backend.device := by
  unfold refreshAccount
  split
  · exact ⟨rfl, rfl⟩
  · dsimp only
    split
    · exact ⟨rfl, rfl⟩
    · split <;> exact ⟨rfl, rfl⟩

theorem verifyPurchases_same (backend : Backend) :
    backend.verifyPurchases.2.calls = backend.calls ∧
      backend.verifyPurchases.2.device = backend.device := by
  unfold verifyPurchases
  split
  · exact ⟨rfl, rfl⟩
  · split <;> exact ⟨rfl, rfl⟩

theorem connect_device (backend : Backend) : backend.connect.2.device = backend.device := by
  unfold connect
  dsimp only
  split
  · rfl
  · split
    · rfl
    · split <;> rfl

theorem reconnect_device (backend : Backend) : backend.reconnect.2.device = backend.device := by
  unfold reconnect
  dsimp only
  split <;> rfl

end Backend

namespace Presenter

/-- No request writes the state of the device. -/
theorem perform_device (p : Presenter) (network : Network) (backend : Backend)
    (request : ScreenRequest) : (p.perform network backend request).2.device = backend.device := by
  have hverify := backend.verifyPurchases_same.2
  refine p.perform_preserves (R := fun later => later.device = backend.device) network backend
    request rfl backend.connect_device rfl backend.reconnect_device rfl hverify ?_
  exact (Backend.refreshAccount_same _).2.trans hverify

/-- A request answers with the effects of its click, and reaches the tunnel if it is for it. -/
theorem perform_click (p : Presenter) (backend : Backend) (click : Click) :
    (p.perform .perfect backend click.request).1.toList = click.effects p.accountPage backend ∧
      (p.perform .perfect backend click.request).2.calls = backend.calls ++ click.calls := by
  have hconnect := backend.connect_cases
  cases click with
  | connect => exact ⟨congrArg Option.toList hconnect.1, hconnect.2.1⟩
  | disconnect => exact ⟨rfl, rfl⟩
  | reconnect => exact ⟨rfl, backend.reconnect_calls⟩
  | cancel => exact ⟨rfl, rfl⟩
  | manageAccount => exact ⟨rfl, (List.append_nil _).symm⟩
  | dismissNewDevice => exact ⟨rfl, (List.append_nil _).symm⟩
  | permissionResult granted =>
      cases granted with
      | true => exact ⟨congrArg Option.toList hconnect.1, hconnect.2.1⟩
      | false => exact ⟨rfl, (List.append_nil _).symm⟩

/-- A click with an effect is recorded if it reaches the tunnel, and changes nothing besides. -/
theorem perform_of_effect (p : Presenter) {backend : Backend} {click : Click} {effect : Effect}
    (h : click.effects p.accountPage backend = [effect]) :
    p.perform .perfect backend click.request =
      (some effect, { backend with calls := backend.calls ++ click.calls }) := by
  have hnothing : ({ backend with calls := backend.calls ++ [] } : Backend) = backend := by
    rw [List.append_nil]
  have hconnect : backend.objection?.toList = [effect] →
      p.perform .perfect backend .connect = (some effect, backend.record .connect) := by
    intro hobjection
    have hsome : backend.objection? = some effect := Option.toList_eq_singleton_iff.mp hobjection
    obtain ⟨hanswer, -, hfails⟩ := backend.connect_cases
    exact Prod.ext (hanswer.trans hsome) (hfails (by rw [hsome, Option.isSome_some]))
  cases click with
  | connect => exact hconnect h
  | manageAccount =>
      obtain rfl := List.singleton_inj.mp h
      rw [Click.calls, hnothing]
      rfl
  | permissionResult granted =>
      cases granted with
      | true => exact hconnect h
      | false =>
          obtain rfl := List.singleton_inj.mp h
          rw [Click.calls, hnothing]
          rfl
  | disconnect | reconnect | cancel | dismissNewDevice => cases h

/-- The look for purchases at the start has no effect, and does not reach the tunnel. -/
theorem perform_verifyPurchases (p : Presenter) (network : Network) (backend : Backend) :
    (p.perform network backend .verifyPurchases).1 = none ∧
      (p.perform network backend .verifyPurchases).2.calls = backend.calls := by
  have hverify := backend.verifyPurchases_same.1
  have hrefresh := (Backend.refreshAccount_same backend.verifyPurchases.2).1
  simp only [perform]
  split
  · exact ⟨rfl, rfl⟩
  · split
    · next verified hverified =>
      rw [hverified] at hverify hrefresh
      exact ⟨rfl, hrefresh.trans hverify⟩
    · next other hother =>
      rw [hother] at hverify
      exact ⟨rfl, hverify⟩

end Presenter

/-- No effect of a click tells of an account that has run out of time. -/
theorem Click.outOfTime_not_mem (page : Url) (backend : Backend) (click : Click) :
    Effect.outOfTime ∉ click.effects page backend := by
  have hobjection : Effect.outOfTime ∉ backend.objection?.toList := by
    unfold Backend.objection?
    split
    · simp
    · cases backend.connectFailure <;> simp
  cases click with
  | permissionResult granted =>
      cases granted with
      | true => exact hobjection
      | false => simp [effects]
  | connect => exact hobjection
  | disconnect | reconnect | cancel | manageAccount | dismissNewDevice => simp [effects]

end VpnClient
