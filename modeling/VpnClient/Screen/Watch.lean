import VpnClient.Clock
import VpnClient.Screen.UiState
import VpnClient.Source

/-!
# Watches

Conditions whose coming true is told once: that the account has run out of time, and that the
device has been revoked.

## Main Definitions

* `EdgeDetector` — whether a condition has come true
* `OutOfTimeWatch`, `RevokedWatch` — the two watches
* `isOutOfTime` — when an account is out of time

## Design Notes

An account runs out of time in two ways: by the clock, for which there is a timer, and by the tunnel
being rejected. A timer is only set while the condition does not hold.
-/

namespace VpnClient

/-- Whether a condition held at the last look. -/
structure EdgeDetector where
  isActive : Bool
  deriving DecidableEq, Repr

namespace EdgeDetector

/-- A detector that has not looked yet. -/
def initial : EdgeDetector := ⟨false⟩

/-- Whether the condition has come true since the last look. -/
def observe (edge : EdgeDetector) (active : Bool) : Bool × EdgeDetector :=
  (active && !edge.isActive, ⟨active⟩)

/-- What a detector says to a run of looks. -/
def observeAll (edge : EdgeDetector) : List Bool → List Bool
  | [] => []
  | active :: rest =>
    let (rising, edge) := edge.observe active
    rising :: edge.observeAll rest

end EdgeDetector

/-- Whether a tunnel is rejected because the time of the account is up. -/
def TunnelState.isRejected : TunnelState → Bool
  | .error state => state.isExpiredAccount
  | _ => false

/-- Whether an account is out of time: its time is up, or the tunnel is rejected for that. -/
def isOutOfTime (account : Option Account) (tunnel : TunnelState) (now : Instant) : Bool :=
  account.any (fun a => a.isExpired now) || tunnel.isRejected

/-- The watch for an account that runs out of time: the revisions at the last look, the expiry that
the timer has reached, and when it goes off for which expiry. -/
structure OutOfTimeWatch where
  seen : Option (Nat × Nat)
  edge : EdgeDetector
  reached : Option Instant
  timer : Option (Nat × Instant)

namespace OutOfTimeWatch

/-- A watch that has not looked yet. -/
def launch : OutOfTimeWatch := ⟨none, .initial, none, none⟩

/-- Whether the timer goes off. -/
def isDue (w : OutOfTimeWatch) (clock : Clock) : Bool :=
  w.timer.any fun timer => timer.1 ≤ clock.elapsed

/-- The timer for the expiry of an account, if that is to come. -/
def nextTimer? (clock : Clock) (account : Option Account) : Option (Nat × Instant) := do
  let account ← account
  let due ← clock.timerFor? clock.now account.expiry
  some (due, account.expiry)

/-- Whether the account is out of time, and the watch after this look. An expiry that the timer has
reached is over even if the clock is not there yet. -/
def look (w : OutOfTimeWatch) (clock : Clock) (account : Source (Option Account))
    (tunnel : Source TunnelState) : Bool × OutOfTimeWatch :=
  let reached := if w.isDue clock then w.timer.map (·.2) else w.reached
  let timeIsUp := account.value.any fun a => some a.expiry == reached
  let outOfTime := timeIsUp || isOutOfTime account.value tunnel.value clock.now
  let (rising, edge) := w.edge.observe outOfTime
  (rising, {
    seen := some (account.revision, tunnel.revision)
    edge := edge
    reached := reached
    timer := if outOfTime then none else nextTimer? clock account.value })

/-- Whether the account has run out of time, and the watch when time has passed or a source was
written. -/
def react (w : OutOfTimeWatch) (clock : Clock) (account : Source (Option Account))
    (tunnel : Source TunnelState) : Bool × OutOfTimeWatch :=
  if w.isDue clock || w.seen != some (account.revision, tunnel.revision) then
    w.look clock account tunnel
  else (false, w)

/-- When the watch moves by itself. -/
def nextDue? (w : OutOfTimeWatch) : Option Nat :=
  w.timer.map (·.1)

end OutOfTimeWatch

/-- The watch for a device that is revoked, with the revision at the last look. -/
structure RevokedWatch where
  seen : Option Nat
  edge : EdgeDetector

namespace RevokedWatch

/-- A watch that has not looked yet. -/
def launch : RevokedWatch := ⟨none, .initial⟩

/-- Whether the device has been revoked, and the watch after it has looked if there is anything
new. -/
def react (w : RevokedWatch) (device : Source DeviceState) : Bool × RevokedWatch :=
  if w.seen = some device.revision then (false, w)
  else
    let (rising, edge) := w.edge.observe device.value.isRevoked
    (rising, ⟨some device.revision, edge⟩)

end RevokedWatch

end VpnClient
