import VpnClient.Feed.Feeds
import VpnClient.Screen.Presenter

/-!
# The connect screen

A presenter together with the backend it works on and the sources it follows.

## Main Definitions

* `Screen` — the screen
* `Screen.wire` — a screen on a backend
* `Screen.machine` — how it comes to rest and when it moves by itself

## Design Notes

The sources are either derived from the backend or given from outside; in the latter case the
backend only serves requests. At any time, due states are published first, then the feeds and the
watches look at what was written, then requests reach the backend, and then all look again.
-/

namespace VpnClient

/-- Where the sources of a screen come from. -/
inductive Supply where
  | derived (feeds : Feeds)
  | given (sources : ScreenSources)

/-- A connect screen. -/
structure Screen where
  backend : Backend
  network : Network
  supply : Supply
  presenter : Presenter

namespace Screen

/-- A screen on a backend, with the sources that are derived from it. -/
def wire (config : ConnectConfig) (clock : Clock) (backend : Backend) : Except Failure Screen := do
  let presenter ← Presenter.make config
  let feeds := Feeds.launch clock config.expiryWarningDays backend
  .ok ⟨backend, .perfect, .derived feeds, presenter⟩

/-- A screen with sources of its own. -/
def standalone (config : ConnectConfig) (network : Network) (backend : Backend)
    (inputs : ScreenInputs) : Except Failure Screen := do
  let presenter ← Presenter.make config
  .ok ⟨backend, network, .given (.fresh inputs), presenter⟩

/-- The sources that the screen follows. -/
def sources (screen : Screen) : ScreenSources :=
  match screen.supply with
  | .given sources => sources
  | .derived feeds => {
      title := feeds.title.output
      notifications := feeds.notifications.output
      tunnel := screen.backend.tunnel
      lastKnown := feeds.lastKnown.output
      account := screen.backend.account
      device := screen.backend.device }

/-- The feeds' part of a reaction. -/
def reactFeeds (screen : Screen) (clock : Clock) : Screen :=
  match screen.supply with
  | .given _ => screen
  | .derived feeds => { screen with supply := .derived (feeds.react clock screen.backend) }

/-- A due state is published before anything new is looked at. -/
def publishDue (screen : Screen) (clock : Clock) : Screen :=
  match screen.presenter.aggregator with
  | none => screen
  | some a =>
    match a.publish clock with
    | (none, _) => screen
    | (some state, a) =>
      { screen with
        presenter := { screen.presenter with aggregator := some a }.publish clock state }

/-- The screen after everything has looked at what was written. -/
def react (screen : Screen) (clock : Clock) : Screen :=
  let screen := (screen.publishDue clock).reactFeeds clock
  { screen with presenter := screen.presenter.react clock screen.sources }

/-- The screen after the requests whose time has come have reached the backend. -/
def runJobs (screen : Screen) (clock : Clock) : Screen :=
  let (presenter, backend) := screen.presenter.runJobs clock screen.network screen.backend
  { screen with presenter := presenter, backend := backend }

/-- The screen at rest. -/
def settle (clock : Clock) (screen : Screen) : Screen :=
  ((screen.react clock).runJobs clock).react clock

/-- When the screen moves by itself. -/
def nextDue? (screen : Screen) : Option Nat :=
  match screen.supply with
  | .given _ => screen.presenter.nextDue?
  | .derived feeds => earlier feeds.nextDue? screen.presenter.nextDue?

/-- How a screen comes to rest and when it moves by itself. -/
def machine : Machine Screen where
  settle := settle
  nextDue? := nextDue?

/-! ### Actions -/

/-- The screen after a change of the backend from outside. -/
def change (screen : Screen) (change : BackendChange) : Screen :=
  { screen with backend := screen.backend.apply change }

/-- The screen after its start. -/
def start (screen : Screen) (clock : Clock) : Screen :=
  { screen with presenter := screen.presenter.start clock screen.network }

/-- The screen after a click. -/
def click (screen : Screen) (clock : Clock) (click : Click) : Screen :=
  { screen with presenter := screen.presenter.click clock screen.network click }

/-- The screen after its close, with which the feeds end. -/
def close (screen : Screen) : Screen :=
  { screen with
    presenter := screen.presenter.close
    supply := match screen.supply with
      | .given sources => .given sources
      | .derived feeds => .derived feeds.cancel }

/-- The screen with one more observer of its effects, and the number of the observer. -/
def subscribe (screen : Screen) : Nat × Screen :=
  let (number, presenter) := screen.presenter.subscribe
  (number, { screen with presenter := presenter })

/-- The screen after an observer has gone away. -/
def unsubscribe (screen : Screen) (observer : Nat) : Screen :=
  { screen with
    presenter := { screen.presenter with hub := screen.presenter.hub.drop observer } }

end Screen

end VpnClient
