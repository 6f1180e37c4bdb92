import VpnClient.Proofs.Screen.Aggregator
import VpnClient.Screen.Presenter

/-!
# What a presenter leaves alone

The watches and the requests only send effects, so that the published state is the matter of the
aggregation alone; and the requests only write to the backend.

## Main Definitions

* `Presenter.Agrees` — two presenters that differ in effects and watches at most
* `Presenter.IsCurrent` — the aggregation of a presenter is current, if it has been started

## Main Statements

* `Presenter.IsCurrent.react` — a presenter that reacts is current, whatever was written
* `Presenter.agrees_runJobs` — the requests that are due reach the backend and send effects
-/

namespace VpnClient

namespace Presenter

/-- Two presenters agree in all that has to do with the published states, and in their jobs. -/
structure Agrees (p q : Presenter) : Prop where
  window_eq : q.window = p.window
  isPlayBuild_eq : q.isPlayBuild = p.isPlayBuild
  state_eq : q.state = p.state
  isStarted_eq : q.isStarted = p.isStarted
  isClosed_eq : q.isClosed = p.isClosed
  aggregator_eq : q.aggregator = p.aggregator
  jobs_eq : q.jobs = p.jobs
  published_eq : q.published = p.published

namespace Agrees

variable {p q r : Presenter}

theorem refl (p : Presenter) : Agrees p p :=
  ⟨rfl, rfl, rfl, rfl, rfl, rfl, rfl, rfl⟩

theorem trans (h₁ : Agrees p q) (h₂ : Agrees q r) : Agrees p r where
  window_eq := h₂.window_eq.trans h₁.window_eq
  isPlayBuild_eq := h₂.isPlayBuild_eq.trans h₁.isPlayBuild_eq
  state_eq := h₂.state_eq.trans h₁.state_eq
  isStarted_eq := h₂.isStarted_eq.trans h₁.isStarted_eq
  isClosed_eq := h₂.isClosed_eq.trans h₁.isClosed_eq
  aggregator_eq := h₂.aggregator_eq.trans h₁.aggregator_eq
  jobs_eq := h₂.jobs_eq.trans h₁.jobs_eq
  published_eq := h₂.published_eq.trans h₁.published_eq

end Agrees

theorem agrees_send (p : Presenter) (clock : Clock) (effect : Effect) :
    p.Agrees (p.send clock effect) :=
  ⟨rfl, rfl, rfl, rfl, rfl, rfl, rfl, rfl⟩

theorem agrees_sendIf (p : Presenter) (clock : Clock) (reason : Bool) (effect : Effect) :
    p.Agrees (p.sendIf clock reason effect) := by
  unfold sendIf
  split
  · exact agrees_send p clock effect
  · exact Agrees.refl p

/-- A watch touches only what the presenter keeps of it. -/
theorem agrees_lookOut {ω : Type} {p : Presenter} {keep : ω → Presenter}
    (hkeep : ∀ w, p.Agrees (keep w)) (clock : Clock) (effect : Effect) (watch : Option ω)
    (look : ω → Bool × ω) : p.Agrees (p.lookOut clock effect watch look keep) := by
  unfold lookOut
  split
  · exact Agrees.refl p
  · next w => exact (hkeep (look w).2).trans (agrees_sendIf _ clock (look w).1 effect)

theorem agrees_reactOutOfTime (p : Presenter) (clock : Clock) (sources : ScreenSources) :
    p.Agrees (p.reactOutOfTime clock sources) := by
  refine agrees_lookOut ?_ clock _ _ _
  intro w
  exact ⟨rfl, rfl, rfl, rfl, rfl, rfl, rfl, rfl⟩

theorem agrees_reactRevoked (p : Presenter) (clock : Clock) (sources : ScreenSources) :
    p.Agrees (p.reactRevoked clock sources) := by
  refine agrees_lookOut ?_ clock _ _ _
  intro w
  exact ⟨rfl, rfl, rfl, rfl, rfl, rfl, rfl, rfl⟩

/-- After the aggregation's part, a reaction does not touch the published state any more. -/
theorem agrees_react (p : Presenter) (clock : Clock) (sources : ScreenSources) :
    (p.reactAggregator clock sources).Agrees (p.react clock sources) :=
  ((agrees_reactOutOfTime _ clock sources).trans (agrees_reactRevoked _ clock sources)).trans
    ⟨rfl, rfl, rfl, rfl, rfl, rfl, rfl, rfl⟩

/-! ## Jobs -/

/-- Requests that run write to the backend and send effects. -/
theorem agrees_runAll (clock : Clock) (network : Network) (jobs : List Job) (p : Presenter)
    (b : Backend) :
    p.Agrees (p.runAll clock network b jobs).1 ∧ b.Later (p.runAll clock network b jobs).2 ∧
      (b.HasRegularExpiry → (p.runAll clock network b jobs).2.HasRegularExpiry) := by
  -- a request may write the backend that the next one finds
  induction jobs generalizing p b with
  | nil => exact ⟨Agrees.refl p, Backend.Later.refl b, id⟩
  | cons job jobs ih =>
      have hlater := p.later_perform network b job.request
      have hregular := fun h => p.hasRegularExpiry_perform (b := b) network h job.request
      simp only [runAll]
      cases (p.perform network b job.request).1 with
      | none =>
          obtain ⟨hagrees, hlater', hregular'⟩ := ih p (p.perform network b job.request).2
          exact ⟨hagrees, hlater.trans hlater', fun h => hregular' (hregular h)⟩
      | some effect =>
          obtain ⟨hagrees, hlater', hregular'⟩ :=
            ih (p.send clock effect) (p.perform network b job.request).2
          exact ⟨(agrees_send p clock effect).trans hagrees, hlater.trans hlater',
            fun h => hregular' (hregular h)⟩

/-- If all jobs are due, all of them run, and observers read what they get. -/
theorem runJobs_of_due {p : Presenter} {clock : Clock}
    (hdue : ∀ job ∈ p.jobs, job.due ≤ clock.elapsed) (network : Network) (b : Backend) :
    p.runJobs clock network b =
      let ran := ({ p with jobs := [] } : Presenter).runAll clock network b p.jobs
      ({ ran.1 with hub := ran.1.hub.drained }, ran.2) := by
  have hpartition : p.jobs.partition (fun job => decide (job.due ≤ clock.elapsed)) =
      (p.jobs, []) := by
    simp only [List.partition_eq_filter_filter, Prod.mk.injEq, List.filter_eq_self,
      List.filter_eq_nil_iff]
    constructor
    · intro job hjob
      exact decide_eq_true (hdue job hjob)
    · intro job hjob
      simp [hdue job hjob]
  simp only [runJobs, hpartition]

/-- If all jobs are due, the requests reach the backend and send effects, and no jobs are left. -/
theorem agrees_runJobs {p : Presenter} {clock : Clock} (network : Network) (b : Backend)
    (hdue : ∀ job ∈ p.jobs, job.due ≤ clock.elapsed) :
    ({ p with jobs := [] } : Presenter).Agrees (p.runJobs clock network b).1 ∧
      b.Later (p.runJobs clock network b).2 ∧
      (b.HasRegularExpiry → (p.runJobs clock network b).2.HasRegularExpiry) := by
  obtain ⟨hagrees, hlater, hregular⟩ :=
    agrees_runAll clock network p.jobs { p with jobs := [] } b
  rw [runJobs_of_due hdue]
  exact ⟨hagrees.trans ⟨rfl, rfl, rfl, rfl, rfl, rfl, rfl, rfl⟩, hlater, hregular⟩

/-! ## The published state -/

/-- A presenter that is not closed: before its start it aggregates nothing, and then the aggregation
of what it has published is current. -/
structure IsCurrent (p : Presenter) (config : ConnectConfig) (clock : Clock)
    (sources : ScreenSources) (changedAt : Nat) : Prop where
  window_eq : p.window = config.debounceMs
  isPlayBuild_eq : p.isPlayBuild = config.isPlayBuild
  isClosed_eq : p.isClosed = false
  aggregation : p.isStarted = false ∧ p.aggregator = none ∨
    p.isStarted = true ∧ ∃ a, p.aggregator = some a ∧
      a.IsCurrent config.debounceMs config.isPlayBuild clock sources changedAt p.state

theorem foldl_publish (clock : Clock) (states : List UiState) (p : Presenter) :
    states.foldl (fun p state => p.publish clock state) p =
      { p with
        state := states.getLast?.getD p.state
        published := p.published ++ states.map (⟨clock.elapsed, ·⟩) } := by
  induction states generalizing p with
  | nil =>
      rw [List.map_nil, List.append_nil]
      rfl
  | cons state states ih =>
      have hstate : (state :: states).getLast?.getD p.state = states.getLast?.getD state := by
        cases states <;> rfl
      rw [List.foldl_cons, ih, hstate]
      simp only [publish, List.map_cons, List.append_assoc, List.singleton_append]

/-- The aggregation's part of a reaction. -/
theorem reactAggregator_eq {p : Presenter} {a : Aggregator} (h : p.aggregator = some a)
    (clock : Clock) (sources : ScreenSources) :
    p.reactAggregator clock sources =
      { p with
        aggregator := some (a.react clock p.isPlayBuild sources).2
        state := (a.react clock p.isPlayBuild sources).1.getLast?.getD p.state
        published := p.published ++
          (a.react clock p.isPlayBuild sources).1.map (⟨clock.elapsed, ·⟩) } := by
  simp only [reactAggregator, h]
  exact foldl_publish clock (a.react clock p.isPlayBuild sources).1
    { p with aggregator := some (a.react clock p.isPlayBuild sources).2 }

theorem agrees_reactAggregator {p : Presenter} {a : Aggregator} (h : p.aggregator = some a)
    (clock : Clock) (sources : ScreenSources) :
    ({ p with
        aggregator := some (a.react clock p.isPlayBuild sources).2
        state := (a.react clock p.isPlayBuild sources).1.getLast?.getD p.state
        published := p.published ++
          (a.react clock p.isPlayBuild sources).1.map (⟨clock.elapsed, ·⟩) } :
      Presenter).Agrees (p.reactAggregator clock sources) := by
  rw [reactAggregator_eq h]
  exact ⟨rfl, rfl, rfl, rfl, rfl, rfl, rfl, rfl⟩

variable {p q : Presenter} {config : ConnectConfig} {clock : Clock}
  {sources sources' : ScreenSources} {changedAt : Nat}

theorem IsCurrent.of_agrees (h : p.IsCurrent config clock sources changedAt)
    (hagrees : p.Agrees q) : q.IsCurrent config clock sources changedAt where
  window_eq := hagrees.window_eq.trans h.window_eq
  isPlayBuild_eq := hagrees.isPlayBuild_eq.trans h.isPlayBuild_eq
  isClosed_eq := hagrees.isClosed_eq.trans h.isClosed_eq
  aggregation := by
    rw [hagrees.isStarted_eq, hagrees.aggregator_eq, hagrees.state_eq]
    exact h.aggregation

/-- A presenter stays current until it moves by itself. -/
theorem IsCurrent.pass (h : p.IsCurrent config clock sources changedAt) {time : Nat}
    (htime : clock.elapsed ≤ time)
    (hbefore : ∀ due, p.aggregator.bind Aggregator.nextDue? = some due → time < due) :
    p.IsCurrent config (clock.withElapsed time) sources changedAt where
  window_eq := h.window_eq
  isPlayBuild_eq := h.isPlayBuild_eq
  isClosed_eq := h.isClosed_eq
  aggregation := by
    rcases h.aggregation with hresting | ⟨hstarted, a, ha, hcurrent⟩
    · exact Or.inl hresting
    · refine Or.inr ⟨hstarted, a, ha, hcurrent.pass htime ?_⟩
      intro due hdue
      exact hbefore due (ha.symm ▸ hdue)

/-- A presenter that reacts is current again, whatever was written in the meantime. -/
theorem IsCurrent.react (h : p.IsCurrent config clock sources changedAt)
    (hlater : sources.Later sources') {time : Nat} (htime : clock.elapsed ≤ time) :
    (p.react (clock.withElapsed time) sources').IsCurrent config (clock.withElapsed time) sources'
        (if sources'.revisions = sources.revisions then changedAt else time) ∧
      (p.react (clock.withElapsed time) sources').isStarted = p.isStarted ∧
      (p.react (clock.withElapsed time) sources').jobs = p.jobs := by
  have hreact := agrees_react p (clock.withElapsed time) sources'
  rcases h.aggregation with ⟨hnotStarted, hnone⟩ | ⟨hstarted, a, ha, hcurrent⟩
  -- before the start there is no aggregation, and after it the one that is current
  · have hidle : p.reactAggregator (clock.withElapsed time) sources' = p := by
      simp only [reactAggregator, hnone]
    rw [hidle] at hreact
    refine ⟨IsCurrent.of_agrees ?_ hreact, hreact.isStarted_eq, hreact.jobs_eq⟩
    exact ⟨h.window_eq, h.isPlayBuild_eq, h.isClosed_eq, Or.inl ⟨hnotStarted, hnone⟩⟩
  · have hagrees := (agrees_reactAggregator ha (clock.withElapsed time) sources').trans hreact
    refine ⟨IsCurrent.of_agrees ?_ hagrees, hagrees.isStarted_eq, hagrees.jobs_eq⟩
    refine ⟨h.window_eq, h.isPlayBuild_eq, h.isClosed_eq, Or.inr ⟨hstarted, _, rfl, ?_⟩⟩
    simp only [h.isPlayBuild_eq]
    exact hcurrent.react hlater htime

/-- The start of a presenter that is not closed. -/
theorem start_of_resting (clock : Clock) (network : Network) (hclosed : p.isClosed = false)
    (hnotStarted : p.isStarted = false) :
    p.start clock network = { p with
      isStarted := true
      aggregator := some (.launch p.window)
      outOfTime := some .launch
      revoked := some .launch
      jobs := p.jobs ++ [⟨.verifyPurchases, clock.elapsed + network.latency⟩] } := by
  simp only [start, hnotStarted, hclosed, Bool.false_eq_true, if_false, addJob,
    ScreenRequest.waits, if_true]

/-- A presenter that has just been started is current after its first reaction. -/
theorem isCurrent_react_of_started (hwindow : p.window = config.debounceMs)
    (hplay : p.isPlayBuild = config.isPlayBuild) (hclosed : p.isClosed = false)
    (hstarted : p.isStarted = true) (haggregator : p.aggregator = some (.launch config.debounceMs))
    (clock : Clock) (sources : ScreenSources) :
    (p.react clock sources).IsCurrent config clock sources clock.elapsed ∧
      (p.react clock sources).isStarted = true ∧ (p.react clock sources).jobs = p.jobs := by
  have hagrees := (agrees_reactAggregator haggregator clock sources).trans
    (agrees_react p clock sources)
  refine ⟨IsCurrent.of_agrees ?_ hagrees, hagrees.isStarted_eq.trans hstarted, hagrees.jobs_eq⟩
  refine ⟨hwindow, hplay, hclosed, Or.inr ⟨hstarted, _, rfl, ?_⟩⟩
  simp only [hplay]
  exact Aggregator.isCurrent_react_launch config.debounceMs config.isPlayBuild clock sources _

end Presenter

end VpnClient
