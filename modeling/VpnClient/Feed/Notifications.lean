import VpnClient.Backend

/-!
# The feed of notifications

The list of notices, kept up to date: it is looked at again whenever something it follows from is
written, and at the instants at which the warning of the account begins and ends.

## Main Definitions

* `NotificationFeed` — the list and the timer of the next change in time
* `NotificationFeed.react` — what it does when time has passed or something was written

## Design Notes

A timer goes off at whole milliseconds, so that the clock may not have reached the instant it was
set to when time is counted in leap seconds. The feed remembers that instant and does not fall
behind it. It outlives what it follows as long as its timer is set.
-/

namespace VpnClient

/-- The list of notices, the revisions it was made of, the instant its timer has last reached, and
when the timer goes off for which instant. -/
structure NotificationFeed where
  warningDays : Nat
  seen : List Nat
  reached : Option Instant
  timer : Option (Nat × Instant)
  output : Source (List Notification)

namespace NotificationFeed

/-- The revisions of everything the notices follow from. -/
def revisions (backend : Backend) : List Nat :=
  [backend.tunnel.revision, backend.account.revision, backend.newDevice.revision,
    backend.version.revision]

/-- Whether nothing that the notices follow from will be written again. -/
def isCutOff (backend : Backend) : Bool :=
  backend.tunnel.isClosed && backend.account.isClosed && backend.newDevice.isClosed
    && backend.version.isClosed

/-- The present instant, or the one that the timer has reached if that is later. -/
def present (clock : Clock) (reached : Option Instant) : Instant :=
  match reached with
  | some instant => instant.max clock.now
  | none => clock.now

/-- The timer for the next change in time. -/
def nextTimer? (clock : Clock) (warningDays : Nat) (reached : Option Instant) (backend : Backend) :
    Option (Nat × Instant) := do
  let now := present clock reached
  let boundary ← backend.notificationInputs.nextBoundary? warningDays now
  let due ← clock.timerFor? now boundary
  some (due, boundary)

/-- The feed at its start. -/
def launch (clock : Clock) (warningDays : Nat) (backend : Backend) : NotificationFeed where
  warningDays := warningDays
  seen := revisions backend
  reached := none
  timer := nextTimer? clock warningDays none backend
  output := .fresh (backend.notificationInputs.current warningDays clock.now)

/-- Whether the timer goes off. -/
def isDue (feed : NotificationFeed) (clock : Clock) : Bool :=
  feed.timer.any fun timer => timer.1 ≤ clock.elapsed

/-- The feed after a new look at what the notices follow from. -/
def refresh (feed : NotificationFeed) (clock : Clock) (backend : Backend) : NotificationFeed :=
  let reached := if feed.isDue clock then feed.timer.map (·.2) else feed.reached
  let notices := backend.notificationInputs.current feed.warningDays (present clock reached)
  { feed with
    seen := revisions backend
    reached := reached
    timer := nextTimer? clock feed.warningDays reached backend
    output := feed.output.update notices }

/-- What becomes of the feed when time has passed or something was written. -/
def react (feed : NotificationFeed) (clock : Clock) (backend : Backend) : NotificationFeed :=
  if feed.output.isClosed then feed
  else
    let feed :=
      if feed.isDue clock || feed.seen != revisions backend then feed.refresh clock backend
      else feed
    if isCutOff backend && feed.timer.isNone then { feed with output := feed.output.close }
    else feed

/-- The feed at its end. -/
def cancel (feed : NotificationFeed) : NotificationFeed :=
  { feed with timer := none, output := feed.output.close }

end NotificationFeed

end VpnClient
