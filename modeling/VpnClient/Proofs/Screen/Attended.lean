import VpnClient.Proofs.Screen.Answers
import VpnClient.Proofs.Screen.Stillness

/-!
# A screen that is listened to

An observer who listens all along and always reads what there is gets everything that the screen
sends.  When the screen comes to rest after something was done to it, this is that the device has
been revoked, and what the request that was made is answered.

## Main Definitions

* `Presenter.told` — what observers have been told, except that the account runs out of time
* `Screen.IsAttended`, `Screen.IsAtRest` — a screen that is listened to, and one at rest

## Main Statements

* `Presenter.told_react`, `Presenter.runJobs_of_request` — what the observer is told by the watches
  and by a request
* `Screen.IsAttended.settle` — what the observer is told when a screen comes to rest
-/

namespace VpnClient

/-! ## An observer who listens all along -/

namespace Hub

variable {ε : Type} {queue : List ε}

/-- A hub with a single observer, who listens and has certain things to read. -/
def holding (queue : List ε) : Hub ε :=
  ⟨[⟨queue, .listening⟩]⟩

theorem send_holding (hroom : queue.length < observerCapacity) (item : ε) :
    (holding queue).send item = (some 0, holding (queue ++ [item])) := by
  have haccepts : (⟨queue, .listening⟩ : Observer ε).accepts = true := by
    simp [Observer.accepts, hroom]
  simp only [holding, send, deliver, haccepts, if_true]

theorem drained_holding (queue : List ε) : (holding queue).drained = holding [] := rfl

end Hub

namespace Presenter

variable {p : Presenter} {clock : Clock}

/-- What observers have been told, but for an account that has run out of time. -/
def told (p : Presenter) : List Effect :=
  (p.delivered.map Delivery.effect).filter (· ≠ .outOfTime)

/-- The observer gets what is sent, as long as it has room for it. -/
theorem send_of_holding {queue : List Effect} (h : p.hub = .holding queue)
    (hroom : queue.length < observerCapacity) (effect : Effect) :
    p.send clock effect = { p with
      hub := .holding (queue ++ [effect])
      delivered := p.delivered ++ [⟨clock.elapsed, 0, effect⟩] } := by
  unfold send
  rw [h, Hub.send_holding hroom]
  rfl

/-- The observer reads what is sent. -/
theorem read_of_send (h : p.hub = .holding []) (clock : Clock) (effect : Effect) :
    ({ p.send clock effect with hub := (p.send clock effect).hub.drained } : Presenter) =
      { p with delivered := p.delivered ++ [⟨clock.elapsed, 0, effect⟩] } := by
  rw [send_of_holding h (by decide)]
  dsimp only
  rw [Hub.drained_holding, ← h]

theorem sendIf_of_holding {queue : List Effect} (h : p.hub = .holding queue)
    (hroom : queue.length < observerCapacity) (clock : Clock) (reason : Bool) (effect : Effect) :
    (p.sendIf clock reason effect).hub = .holding (queue ++ if reason then [effect] else []) ∧
      (p.sendIf clock reason effect).told =
        p.told ++ (if reason then [effect] else []).filter (· ≠ .outOfTime) := by
  unfold sendIf
  cases reason with
  | false => simp [h]
  | true =>
      rw [if_pos rfl, if_pos rfl, send_of_holding h hroom]
      refine ⟨rfl, ?_⟩
      simp only [told, List.map_append, List.filter_append, List.map_cons, List.map_nil]

/-- The observer is told of a device that has been revoked, and has read everything after a
reaction. -/
theorem told_react (h : p.hub = .holding []) (clock : Clock) (sources : ScreenSources) :
    (p.react clock sources).hub = .holding [] ∧
      (p.react clock sources).told =
        p.told ++ if p.findsRevoked sources then [.revokedDevice] else [] := by
  have halike := p.watchesAlike_reactAggregator clock sources
  have hfirst := sendIf_of_holding (halike.hub_eq.trans h) (by decide) clock
    (p.findsOutOfTime clock sources) .outOfTime
  obtain ⟨hhub, htold⟩ := hfirst
  have hroom : ([] ++ if p.findsOutOfTime clock sources = true then [Effect.outOfTime]
      else []).length < observerCapacity := by
    split <;> decide
  obtain ⟨hhub', htold'⟩ := sendIf_of_holding hhub hroom clock
    (p.findsRevoked sources) .revokedDevice
  rw [react_eq]
  refine ⟨?_, ?_⟩
  · dsimp only
    rw [hhub', Hub.drained_holding]
  · have hsame : (p.reactAggregator clock sources).told = p.told := by
      unfold told
      rw [halike.delivered_eq]
    refine htold'.trans ?_
    rw [htold, hsame]
    cases p.findsOutOfTime clock sources <;> cases p.findsRevoked sources <;> simp

/-! ## A single request -/

/-- What a request is answered and does to the backend, if there is one. -/
def answer (p : Presenter) (backend : Backend) : Option ScreenRequest → Option Effect × Backend
  | none => (none, backend)
  | some request => p.perform .perfect backend request

/-- The answers depend on nothing but the web page of the account. -/
theorem answer_congr {q : Presenter} (h : q.accountPage = p.accountPage) (backend : Backend)
    (request : Option ScreenRequest) : q.answer backend request = p.answer backend request := by
  cases request with
  | none => rfl
  | some request => cases request <;> simp only [answer, perform, h]

/-- A request that is due runs, and its effect reaches the observer. -/
theorem runJobs_of_request (hhub : p.hub = .holding []) {request : Option ScreenRequest}
    (hjobs : p.jobs = request.toList.map (⟨·, clock.elapsed⟩)) (backend : Backend) :
    p.runJobs clock .perfect backend =
      ({ p with
          jobs := []
          delivered := p.delivered ++
            (p.answer backend request).1.toList.map (⟨clock.elapsed, 0, ·⟩) },
        (p.answer backend request).2) := by
  have hdue : ∀ job ∈ p.jobs, job.due ≤ clock.elapsed := by
    intro job hjob
    rw [hjobs] at hjob
    obtain ⟨_, -, rfl⟩ := List.mem_map.mp hjob
    exact Nat.le_refl _
  have hread : p.hub.drained = p.hub := by rw [hhub, Hub.drained_holding]
  rw [runJobs_of_due hdue, hjobs]
  cases request with
  | none =>
      show (({ p with jobs := [], hub := p.hub.drained } : Presenter), backend) = _
      rw [hread, answer, Option.toList_none, List.map_nil, List.append_nil]
  | some request =>
      have hanswer : ({ p with jobs := [] } : Presenter).perform .perfect backend request =
          p.perform .perfect backend request := answer_congr rfl backend (some request)
      simp only [Option.toList_some, List.map_cons, List.map_nil, runAll, answer, hanswer]
      cases (p.perform .perfect backend request).1 with
      | none =>
          rw [Option.toList_none, List.map_nil, List.append_nil]
          show (({ p with jobs := [], hub := p.hub.drained } : Presenter), _) = _
          rw [hread]
      | some effect =>
          have hsent := read_of_send (p := { p with jobs := [] }) hhub clock effect
          exact Prod.ext hsent rfl

end Presenter

/-! ## The watch for a revoked device -/

namespace RevokedWatch

variable {w : RevokedWatch} {device : Source DeviceState}

/-- The watch after it has looked at the device. -/
def current (device : Source DeviceState) : RevokedWatch :=
  ⟨some device.revision, ⟨device.value.isRevoked⟩⟩

/-- A watch that has seen the last write remembers what it was. -/
def Follows (w : RevokedWatch) (device : Source DeviceState) : Prop :=
  w.seen = some device.revision → w = current device

theorem Follows.react (h : w.Follows device) : (w.react device).2 = current device := by
  unfold RevokedWatch.react
  split
  · next hseen => exact h hseen
  · rfl

end RevokedWatch

/-! ## A screen that comes to rest -/

namespace Screen

/-- Whether the watch finds that the device has been revoked when it looks. -/
def isNewlyRevoked (screen : Screen) : Bool :=
  screen.presenter.revoked.any fun w => (w.react screen.backend.device).1

/-- A screen that is not closed, with an observer who has read everything, and a network without
delays and failures.  A request may be due. -/
structure IsAttended (screen : Screen) (page : Url) (clock : Clock)
    (request : Option ScreenRequest) : Prop where
  isLive : screen.IsLive
  network_eq : screen.network = .perfect
  accountPage_eq : screen.presenter.accountPage = page
  isClosed_eq : screen.presenter.isClosed = false
  hub_eq : screen.presenter.hub = .holding []
  jobs_eq : screen.presenter.jobs = request.toList.map (⟨·, clock.elapsed⟩)
  revoked_isSome : screen.presenter.revoked.isSome = screen.presenter.isStarted
  follows : ∀ w, screen.presenter.revoked = some w → w.Follows screen.backend.device

/-- The watch for a revoked device has looked. -/
def HasLooked (screen : Screen) : Prop :=
  ∀ w, screen.presenter.revoked = some w → w = .current screen.backend.device

/-- A screen at rest: all parts of it have looked at everything, and nothing is due. -/
structure IsAtRest (screen : Screen) (page : Url) (clock : Clock) : Prop where
  isAttended : screen.IsAttended page clock none
  isStill : screen.IsStill clock
  hasLooked : screen.HasLooked

namespace IsAttended

variable {screen : Screen} {page : Url} {clock : Clock} {request : Option ScreenRequest}

/-- The observer is told of a device that has been revoked, and nothing else changes that requests
depend on. -/
theorem react (h : screen.IsAttended page clock request) :
    let looked := screen.react clock
    looked.IsAttended page clock request ∧ looked.IsStill clock ∧ looked.HasLooked ∧
      looked.backend = screen.backend ∧
      looked.presenter.told =
        screen.presenter.told ++ if screen.isNewlyRevoked then [.revokedDevice] else [] := by
  intro looked
  obtain ⟨hlive, hstill⟩ := h.isLive.react clock
  obtain ⟨feeds, hsupply, hfeeds⟩ := h.isLive.feeds
  have hlooked : looked = _ := react_of_derived hsupply (screen.publishDue_eq clock)
  have hlives := (screen.presenter.livesAlike_publishDue clock).trans
    (Presenter.livesAlike_react _ clock ((feeds.react clock screen.backend).sources screen.backend))
  have hwatches := screen.presenter.watchesAlike_publishDue clock
  obtain ⟨hhub, htold⟩ := Presenter.told_react (hwatches.hub_eq.trans h.hub_eq) clock
    ((feeds.react clock screen.backend).sources screen.backend)
  have hrevoked : looked.presenter.revoked =
      screen.presenter.revoked.map fun w => (w.react screen.backend.device).2 := by
    rw [hlooked]
    dsimp only
    rw [Presenter.react_revoked, hwatches.revoked_eq]
    rfl
  have hcurrent : looked.HasLooked := by
    intro w hw
    rw [hrevoked] at hw
    obtain ⟨before, hbefore, rfl⟩ := Option.map_eq_some_iff.mp hw
    rw [hlooked]
    exact (h.follows before hbefore).react
  refine ⟨⟨hlive, ?_, ?_, ?_, ?_, ?_, ?_, ?_⟩, hstill, hcurrent, ?_, ?_⟩
  · rw [hlooked]
    exact h.network_eq
  · rw [hlooked]
    exact (Presenter.react_accountPage _ clock _).trans
      (hwatches.accountPage_eq.trans h.accountPage_eq)
  · rw [hlooked]
    exact hlives.isClosed_eq.trans h.isClosed_eq
  · rw [hlooked]
    exact hhub
  · rw [hlooked]
    exact hlives.jobs_eq.trans h.jobs_eq
  · rw [hrevoked, Option.isSome_map, h.revoked_isSome, hlooked]
    exact hlives.isStarted_eq.symm
  · intro w hw _
    exact hcurrent w hw
  · rw [hlooked]
  · have hfinds : (screen.presenter.publishDue clock).findsRevoked
        ((feeds.react clock screen.backend).sources screen.backend) = screen.isNewlyRevoked := by
      unfold Presenter.findsRevoked
      rw [hwatches.revoked_eq]
      rfl
    have hsame : (screen.presenter.publishDue clock).told = screen.presenter.told := by
      unfold Presenter.told
      rw [hwatches.delivered_eq]
    rw [hfinds, hsame] at htold
    rw [hlooked]
    exact htold

/-- The request that is due runs. -/
theorem runJobs_eq (h : screen.IsAttended page clock request) :
    screen.runJobs clock = { screen with
      backend := (screen.presenter.answer screen.backend request).2
      presenter := { screen.presenter with
        jobs := []
        delivered := screen.presenter.delivered ++
          (screen.presenter.answer screen.backend request).1.toList.map
            (⟨clock.elapsed, 0, ·⟩) } } := by
  simp only [Screen.runJobs, h.network_eq,
    Presenter.runJobs_of_request h.hub_eq h.jobs_eq screen.backend]

/-- The request that is due leaves the screen attended, and the observer is told what it is
answered. -/
theorem runJobs (h : screen.IsAttended page clock request) (hlooked : screen.HasLooked) :
    let answer := screen.presenter.answer screen.backend request
    let ran := screen.runJobs clock
    ran.IsAttended page clock none ∧ ran.HasLooked ∧ ran.backend = answer.2 ∧
      ran.presenter.told =
        screen.presenter.told ++ answer.1.toList.filter (· ≠ .outOfTime) := by
  intro answer ran
  have hran : ran = _ := h.runJobs_eq
  have hdevice : answer.2.device = screen.backend.device := by
    cases request with
    | none => rfl
    | some request => exact screen.presenter.perform_device .perfect screen.backend request
  have hlive := h.isLive.runJobs clock
  have hcurrent : ran.HasLooked := by
    intro w hw
    rw [hran] at hw ⊢
    dsimp only
    rw [hdevice]
    exact hlooked w hw
  refine ⟨⟨hlive, ?_, ?_, ?_, ?_, ?_, ?_, ?_⟩, hcurrent, ?_, ?_⟩
  · rw [hran]
    exact h.network_eq
  · rw [hran]
    exact h.accountPage_eq
  · rw [hran]
    exact h.isClosed_eq
  · rw [hran]
    exact h.hub_eq
  · rw [hran]
    rfl
  · rw [hran]
    exact h.revoked_isSome
  · intro w hw _
    exact hcurrent w hw
  · rw [hran]
  · rw [hran]
    have htold : ∀ effects : List Effect,
        (effects.map fun effect => (⟨clock.elapsed, 0, effect⟩ : Delivery)).map Delivery.effect =
          effects := by
      intro effects
      rw [List.map_map]
      exact List.map_id effects
    simp only [Presenter.told, List.map_append, List.filter_append, htold]
    rfl

/-- A reaction of a screen whose watch has looked tells the observer nothing. -/
theorem isNewlyRevoked_eq (hlooked : screen.HasLooked) : screen.isNewlyRevoked = false := by
  unfold isNewlyRevoked
  cases hw : screen.presenter.revoked with
  | none => rfl
  | some w =>
      have hseen : w.seen = some screen.backend.device.revision := by rw [hlooked w hw]; rfl
      rw [Option.any_some, RevokedWatch.react_of_seen hseen]

/-- A screen comes to rest: the observer is told of a device that has been revoked, and of what the
request that is due is answered. -/
theorem settle (h : screen.IsAttended page clock request) :
    let answer := screen.presenter.answer screen.backend request
    let rested := Screen.settle clock screen
    rested.IsAtRest page clock ∧ rested.backend = answer.2 ∧
      rested.presenter.told =
        screen.presenter.told ++ (if screen.isNewlyRevoked then [.revokedDevice] else []) ++
          answer.1.toList.filter (· ≠ .outOfTime) := by
  intro answer rested
  obtain ⟨hfirst, -, hlooked, hbackend, htold⟩ := h.react
  obtain ⟨hran, hlooked', hbackend', htold'⟩ := hfirst.runJobs hlooked
  obtain ⟨hlast, hstill, hlooked'', hbackend'', htold''⟩ := hran.react
  have hanswer : (screen.react clock).presenter.answer (screen.react clock).backend request =
      answer := by
    rw [hbackend]
    exact Presenter.answer_congr (hfirst.accountPage_eq.trans h.accountPage_eq.symm) _ request
  rw [hanswer] at hbackend' htold'
  refine ⟨⟨hlast, hstill, hlooked''⟩, hbackend''.trans hbackend', ?_⟩
  rw [isNewlyRevoked_eq hlooked', if_neg Bool.false_ne_true, List.append_nil] at htold''
  rw [← htold]
  exact htold''.trans htold'

/-- Time that passes makes no difference to who listens. -/
theorem pass (h : screen.IsAttended page clock none) (later : Clock) :
    screen.IsAttended page later none :=
  { h with jobs_eq := h.jobs_eq }

end IsAttended

end Screen

end VpnClient
