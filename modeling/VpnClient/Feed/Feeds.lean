import VpnClient.Feed.Derived
import VpnClient.Feed.Notifications

/-!
# Feeds

The three derived sources of the connect screen: the title of the selected relay, the last known
location, and the notifications.

## Main Definitions

* `Feeds` — the three of them
* `Feeds.react` — what they do when something has happened
* `Feeds.machine` — the backend with its feeds
-/

namespace VpnClient

/-- The derived sources of the connect screen. They are cancelled together. -/
structure Feeds where
  title : DerivedSource (Option String)
  lastKnown : DerivedSource (Option Location)
  notifications : NotificationFeed
  isCancelled : Bool

namespace Feeds

/-- The title of a selection, if there is one. -/
def titleOf (selection : Option RelaySelection) : Option String :=
  selection.map RelaySelection.title

/-- The feeds at their start. -/
def launch (clock : Clock) (warningDays : Nat) (backend : Backend) : Feeds where
  title := .launch backend.selection (titleOf backend.selection.value)
  lastKnown := .launch backend.tunnel backend.tunnel.value.disconnectedLocation?
  notifications := .launch clock warningDays backend
  isCancelled := false

/-- What becomes of the feeds when time has passed or something was written. Only a location that
is known is remembered. -/
def react (feeds : Feeds) (clock : Clock) (backend : Backend) : Feeds :=
  { feeds with
    title := feeds.title.react (fun selection => some (titleOf selection)) backend.selection
    lastKnown := feeds.lastKnown.react (fun tunnel => tunnel.disconnectedLocation?.map some)
      backend.tunnel
    notifications := feeds.notifications.react clock backend }

/-- The feeds at their end. -/
def cancel (feeds : Feeds) : Feeds where
  title := feeds.title.cancel
  lastKnown := feeds.lastKnown.cancel
  notifications := feeds.notifications.cancel
  isCancelled := true

/-- When a feed moves by itself. -/
def nextDue? (feeds : Feeds) : Option Nat :=
  if feeds.notifications.output.isClosed then none else feeds.notifications.timer.map (·.1)

/-- The number of tasks that the feeds hold. A feed that has ended is held until all are
cancelled. -/
def taskCount (feeds : Feeds) : Nat :=
  if feeds.isCancelled then 0 else 3

end Feeds

/-- A backend and the feeds that follow it. -/
structure FedBackend where
  backend : Backend
  feeds : Feeds

/-- A backend whose feeds follow it. -/
def Feeds.machine : Machine FedBackend where
  settle clock s := { s with feeds := s.feeds.react clock s.backend }
  nextDue? s := s.feeds.nextDue?

end VpnClient
