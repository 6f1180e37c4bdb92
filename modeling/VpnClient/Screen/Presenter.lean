import VpnClient.Backend
import VpnClient.Config.Basic
import VpnClient.Screen.Aggregator
import VpnClient.Screen.Effect
import VpnClient.Screen.Hub
import VpnClient.Screen.Watch

/-!
# The presenter of the connect screen

Turns the sources into published states and the user's clicks into requests to the backend.

## Main Definitions

* `Presenter` — the presenter
* `Presenter.react` — what it publishes and sends when a source was written or time has passed
* `Presenter.click` — a click of the user
* `Presenter.runJobs` — the requests whose time has come

## Design Notes

What a presenter has published and what it has delivered is kept in the order in which it happened,
each with its time. A click becomes a job; a job that waits for the network has a later time than
its click. Closing a presenter stops everything it has begun and is final.
-/

namespace VpnClient

/-- What a click asks of the backend, and the look for purchases at the start. -/
inductive ScreenRequest where
  | connect
  | disconnect
  | reconnect
  | manageAccount
  | dismissNewDevice
  | explainDenial
  | verifyPurchases
  deriving DecidableEq, Repr

/-- Whether a request has to wait for the network. -/
def ScreenRequest.waits : ScreenRequest → Bool
  | connect => true
  | disconnect => true
  | reconnect => true
  | verifyPurchases => true
  | _ => false

/-- What a user does on the screen. -/
inductive Click where
  | connect
  | disconnect
  | reconnect
  | cancel
  | manageAccount
  | dismissNewDevice
  | permissionResult (granted : Bool)
  deriving DecidableEq, Repr

/-- What a click asks for. To cancel is to disconnect, and a granted permission to connect. -/
def Click.request : Click → ScreenRequest
  | connect => .connect
  | disconnect => .disconnect
  | reconnect => .reconnect
  | cancel => .disconnect
  | manageAccount => .manageAccount
  | dismissNewDevice => .dismissNewDevice
  | permissionResult true => .connect
  | permissionResult false => .explainDenial

/-- How the network treats requests: how long they take, and why they fail if they do. -/
structure Network where
  latency : Nat
  failure : Option String
  deriving DecidableEq, Repr

/-- A network without delays and failures. -/
def Network.perfect : Network := ⟨0, none⟩

/-- A request on its way. -/
structure Job where
  request : ScreenRequest
  due : Nat
  deriving DecidableEq, Repr

/-- A state that was published. -/
structure Publication where
  time : Nat
  state : UiState

/-- An effect that was delivered to an observer. -/
structure Delivery where
  time : Nat
  observer : Nat
  effect : Effect

/-- The presenter of the connect screen. -/
structure Presenter where
  window : Nat
  isPlayBuild : Bool
  accountPage : Url
  state : UiState
  hub : Hub Effect
  isStarted : Bool
  isClosed : Bool
  aggregator : Option Aggregator
  outOfTime : Option OutOfTimeWatch
  revoked : Option RevokedWatch
  jobs : List Job
  published : List Publication
  delivered : List Delivery

namespace Presenter

/-- A presenter at rest. It only needs the web page of the account to be one. -/
def make (config : ConnectConfig) : Except Failure Presenter :=
  match Url.parse config.accountUrl with
  | .error error => .error (.config (.validation ("Invalid account_url: " ++ error.message)))
  | .ok page => .ok {
      window := config.debounceMs
      isPlayBuild := config.isPlayBuild
      accountPage := page
      state := .initial
      hub := .empty
      isStarted := false
      isClosed := false
      aggregator := none
      outOfTime := none
      revoked := none
      jobs := []
      published := []
      delivered := [] }

/-- The presenter with one more job, unless it is closed. -/
def addJob (p : Presenter) (clock : Clock) (network : Network) (request : ScreenRequest) :
    Presenter :=
  if p.isClosed then p
  else
    let wait := if request.waits then network.latency else 0
    { p with jobs := p.jobs ++ [⟨request, clock.elapsed + wait⟩] }

/-- The presenter after a click. -/
def click (p : Presenter) (clock : Clock) (network : Network) (click : Click) : Presenter :=
  p.addJob clock network click.request

/-- The presenter after its start. Only the first start counts, and none after the close. -/
def start (p : Presenter) (clock : Clock) (network : Network) : Presenter :=
  if p.isStarted then p
  else if p.isClosed then { p with isStarted := true }
  else
    { p with
      isStarted := true
      aggregator := some (.launch p.window)
      outOfTime := some .launch
      revoked := some .launch }.addJob clock network .verifyPurchases

/-- The presenter after its close. -/
def close (p : Presenter) : Presenter :=
  { p with isClosed := true, aggregator := none, outOfTime := none, revoked := none, jobs := [] }

/-- The presenter with one more observer of its effects, and the number of the observer. -/
def subscribe (p : Presenter) : Nat × Presenter :=
  let (number, hub) := p.hub.subscribe
  (number, { p with hub := hub })

/-- The presenter after a state was published. -/
def publish (p : Presenter) (clock : Clock) (state : UiState) : Presenter :=
  { p with state := state, published := p.published ++ [⟨clock.elapsed, state⟩] }

/-- The presenter after an effect was sent, whether it was delivered or not. -/
def send (p : Presenter) (clock : Clock) (effect : Effect) : Presenter :=
  let (observer, hub) := p.hub.send effect
  { p with
    hub := hub
    delivered := p.delivered ++ (observer.map fun o => ⟨clock.elapsed, o, effect⟩).toList }

/-- The presenter after an effect was sent if there is reason to. -/
def sendIf (p : Presenter) (clock : Clock) (reason : Bool) (effect : Effect) : Presenter :=
  if reason then p.send clock effect else p

/-! ### Reactions -/

/-- The aggregation's part of a reaction. -/
def reactAggregator (p : Presenter) (clock : Clock) (sources : ScreenSources) : Presenter :=
  match p.aggregator with
  | none => p
  | some a =>
    let (states, a) := a.react clock p.isPlayBuild sources
    states.foldl (fun p state => p.publish clock state) { p with aggregator := some a }

/-- A watch's part of a reaction: what it finds is told by an effect, and the watch is kept as it is
after its look. -/
def lookOut {ω : Type} (p : Presenter) (clock : Clock) (effect : Effect) (watch : Option ω)
    (look : ω → Bool × ω) (keep : ω → Presenter) : Presenter :=
  match watch with
  | none => p
  | some w =>
    let (rising, w) := look w
    (keep w).sendIf clock rising effect

/-- The part of a reaction that watches for an account out of time. -/
def reactOutOfTime (p : Presenter) (clock : Clock) (sources : ScreenSources) : Presenter :=
  p.lookOut clock .outOfTime p.outOfTime (·.react clock sources.account sources.tunnel)
    fun w => { p with outOfTime := some w }

/-- The part of a reaction that watches for a revoked device. -/
def reactRevoked (p : Presenter) (clock : Clock) (sources : ScreenSources) : Presenter :=
  p.lookOut clock .revokedDevice p.revoked (·.react sources.device)
    fun w => { p with revoked := some w }

/-- The presenter when a source was written or time has passed. Its observers read at once what
they get. -/
def react (p : Presenter) (clock : Clock) (sources : ScreenSources) : Presenter :=
  let p := p.reactAggregator clock sources
  let p := p.reactOutOfTime clock sources
  let p := p.reactRevoked clock sources
  { p with hub := p.hub.drained }

/-- When the presenter moves by itself. -/
def nextDue? (p : Presenter) : Option Nat :=
  let job := p.jobs.foldl (fun due job => earlier due (some job.due)) none
  earlier (earlier (p.aggregator.bind Aggregator.nextDue?)
    (p.outOfTime.bind OutOfTimeWatch.nextDue?)) job

/-! ### Jobs -/

/-- A request to the tunnel over a network. A request that fails on its way does not reach it. -/
def ask (network : Network) (backend : Backend)
    (request : Backend → Except ConnectError Unit × Backend) :
    Except ConnectError Unit × Backend :=
  match network.failure with
  | some reason => (.error (.unknown reason), backend)
  | none => request backend

/-- The effect of a failed request to connect. -/
def effectOf? : Except ConnectError Unit → Option Effect
  | .ok () => none
  | .error .noVpnPermission => some .noVpnPermission
  | .error (.unknown _) => some (.connectError .generic)

/-- What a request does to the backend, and the effect it has. -/
def perform (p : Presenter) (network : Network) (backend : Backend) :
    ScreenRequest → Option Effect × Backend
  | .connect =>
    let (result, backend) := ask network backend Backend.connect
    (effectOf? result, backend)
  | .disconnect => (none, (ask network backend Backend.disconnect).2)
  | .reconnect => (none, (ask network backend Backend.reconnect).2)
  | .manageAccount => (some (.openAccount ⟨p.accountPage, backend.authToken⟩), backend)
  | .dismissNewDevice => (none, backend.clearNewDevice)
  | .explainDenial =>
    let obstacle := match backend.alwaysOnApp with
      | some app => ConnectObstacle.alwaysOnVpn app
      | none => ConnectObstacle.permissionDenied
    (some (.connectError obstacle), backend)
  | .verifyPurchases =>
    match network.failure with
    | some _ => (none, backend)
    | none =>
      match backend.verifyPurchases with
      | (.ok .verified, backend) => (none, backend.refreshAccount)
      | (_, backend) => (none, backend)

/-- The presenter and the backend after jobs have run. -/
def runAll (p : Presenter) (clock : Clock) (network : Network) (backend : Backend) :
    List Job → Presenter × Backend
  | [] => (p, backend)
  | job :: jobs =>
    let (effect, backend) := p.perform network backend job.request
    let p := match effect with
      | some effect => p.send clock effect
      | none => p
    runAll p clock network backend jobs

/-- The presenter and the backend after the jobs have run whose time has come. -/
def runJobs (p : Presenter) (clock : Clock) (network : Network) (backend : Backend) :
    Presenter × Backend :=
  let (due, waiting) := p.jobs.partition fun job => job.due ≤ clock.elapsed
  let (p, backend) := { p with jobs := waiting }.runAll clock network backend due
  ({ p with hub := p.hub.drained }, backend)

end Presenter

end VpnClient
