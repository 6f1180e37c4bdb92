import VpnClient.Proofs.Screen.Presenter
import VpnClient.Proofs.Screen.Tasks
import VpnClient.Proofs.Time.Moments

/-!
# When states are published

What the aggregation publishes can be read off the times at which the sources were written: a write
leads to a publication one window later if nothing is written until then, and there are no other
publications.

## Main Definitions

* `ScreenSources.writes` — when the sources are written in a run, and what they are then
* `emissions` — the writes that are followed by a quiet window
* `Aggregator.isDone` — whether the aggregation will never publish again
* `EmitsExactly` — what is published are the emissions of the writes
* `Aggregates` — the aggregation after its last write

## Main Statements

* `Aggregates.tick`, `Aggregates.act_of_seen`, `Aggregates.act_of_new` — what a millisecond and what
  a look at the sources do
* `Aggregates.run` — the publications of a run are its emissions
* `Presenter.emissions_exact` — so they are from the start of the aggregation on
-/

namespace VpnClient

/-- When the sources are written in a run, and their values after that. -/
def ScreenSources.writes (time : Nat) (sources : ScreenSources) :
    List (TimedStep (List ScreenSourceEvent)) → List (Nat × ScreenInputs)
  | [] => []
  | .advance ms :: steps => sources.writes (time + ms) steps
  | .act events :: steps =>
      if (sources.afterAll events).revisions = sources.revisions then
        (sources.afterAll events).writes time steps
      else (time, (sources.afterAll events).inputs) :: (sources.afterAll events).writes time steps

/-- The writes after which nothing is written for a window that is over by the end. -/
def emissions {α : Type} (window finish : Nat) : List (Nat × α) → List (Nat × α)
  | [] => []
  | write :: rest =>
      if (∀ later ∈ rest, write.1 + window < later.1) ∧ write.1 + window ≤ finish then
        write :: emissions window finish rest
      else emissions window finish rest

/-- What a write leads to one window later: the state that follows from it at its own time. -/
def Publication.ofWrite (window : Nat) (isPlayBuild : Bool) (start : Instant)
    (write : Nat × ScreenInputs) : Publication :=
  ⟨write.1 + window, write.2.uiState isPlayBuild (Clock.mk start write.1).now⟩

/-- Whether none of the sources will be written again. -/
def ScreenSources.areClosed (sources : ScreenSources) : Bool :=
  sources.title.isClosed && sources.notifications.isClosed && sources.tunnel.isClosed
    && sources.lastKnown.isClosed && sources.account.isClosed && sources.device.isClosed

/-- Whether nothing will ever be published again: the sources are closed and their last values
have been. -/
def Aggregator.isDone (a : Aggregator) (sources : ScreenSources) : Bool :=
  sources.areClosed && a.seen == some sources.revisions && a.debouncer.pending.isNone

/-- What is published in a run of the aggregation: after what was there before, one state for each
write that is followed by a quiet window, and two states are more than a window apart.  The
aggregation is done as soon as the sources are closed and the window of the last write is over. -/
structure EmitsExactly (window : Nat) (isPlayBuild : Bool) (start : Instant)
    (before : List Publication) (written : List (Nat × ScreenInputs))
    (finished : Timed SourcedPresenter) : Prop where
  published_eq : finished.state.presenter.published =
    before ++ (emissions window finished.clock.elapsed written).map
      (.ofWrite window isPlayBuild start)
  spaced : ((emissions window finished.clock.elapsed written).map
      (Publication.ofWrite window isPlayBuild start)).Pairwise
    fun first second => first.time + window < second.time
  isDone_iff : ∃ a, finished.state.presenter.aggregator = some a ∧
    (a.isDone finished.state.sources = true ↔
      finished.state.sources.areClosed = true ∧
        ∀ write ∈ written, write.1 + window ≤ finished.clock.elapsed)

/-! ## Writes and emissions -/

/-- Writes come one after the other. -/
theorem ScreenSources.le_of_mem_writes {time : Nat} {sources : ScreenSources}
    {steps : List (TimedStep (List ScreenSourceEvent))} {write : Nat × ScreenInputs}
    (h : write ∈ sources.writes time steps) : time ≤ write.1 := by
  induction steps generalizing time sources with
  | nil => cases h
  | cons step steps ih =>
      cases step with
      | advance ms => exact (Nat.le_add_right time ms).trans (ih h)
      | act events =>
          unfold writes at h
          split at h
          · exact ih h
          · rcases List.mem_cons.mp h with rfl | hrest
            · exact Nat.le_refl _
            · exact ih hrest

section Emissions

variable {α : Type} {window finish : Nat}

theorem emissions_singleton (write : Nat × α) :
    emissions window finish [write] = if write.1 + window ≤ finish then [write] else [] := by
  simp [emissions]

/-- Whether a write leads to anything is decided when the next one comes. -/
theorem emissions_cons_cons {write next : Nat × α} {rest : List (Nat × α)}
    (hrest : ∀ later ∈ rest, next.1 ≤ later.1) (hfinish : next.1 ≤ finish)
    (hapart : next.1 ≠ write.1 + window) :
    emissions window finish (write :: next :: rest) =
      (if write.1 + window ≤ next.1 then [write] else []) ++
        emissions window finish (next :: rest) := by
  have hquiet : ((∀ later ∈ next :: rest, write.1 + window < later.1) ∧
      write.1 + window ≤ finish) ↔ write.1 + window ≤ next.1 := by
    constructor
    · rintro ⟨hlater, -⟩
      exact Nat.le_of_lt (hlater next List.mem_cons_self)
    · intro hle
      refine ⟨?_, hle.trans hfinish⟩
      intro later hmem
      rcases List.mem_cons.mp hmem with rfl | hmem
      · omega
      · have hafter := hrest later hmem
        omega
  rw [emissions]
  simp only [hquiet]
  split <;> rfl

theorem emissions_sublist (writes : List (Nat × α)) :
    (emissions window finish writes).Sublist writes := by
  induction writes with
  | nil => exact List.Sublist.refl _
  | cons write rest ih =>
      unfold emissions
      split
      · exact ih.cons_cons write
      · exact ih.cons write

/-- Between two emissions there is a quiet window. -/
theorem emissions_pairwise (writes : List (Nat × α)) :
    (emissions window finish writes).Pairwise
      fun first second => first.1 + window < second.1 := by
  induction writes with
  | nil => exact List.Pairwise.nil
  | cons write rest ih =>
      unfold emissions
      split
      · next hquiet =>
        refine List.Pairwise.cons ?_ ih
        intro later hlater
        exact hquiet.1 later ((emissions_sublist rest).subset hlater)
      · exact ih

end Emissions

theorem ofWrite_pairwise {window finish : Nat} {isPlayBuild : Bool} {start : Instant}
    (written : List (Nat × ScreenInputs)) :
    ((emissions window finish written).map
      (Publication.ofWrite window isPlayBuild start)).Pairwise
      fun first second => first.time + window < second.time := by
  refine (emissions_pairwise written).map _ ?_
  intro first second hquiet
  exact Nat.add_lt_add_right hquiet window

/-- What an earlier write leads to comes before all the rest. -/
theorem EmitsExactly.cons {window : Nat} {isPlayBuild : Bool} {start : Instant}
    {before : List Publication} {write next : Nat × ScreenInputs}
    {rest : List (Nat × ScreenInputs)} {finished : Timed SourcedPresenter}
    (h : EmitsExactly window isPlayBuild start
      (before ++
        if write.1 + window ≤ next.1 then [.ofWrite window isPlayBuild start write] else [])
      (next :: rest) finished)
    (hwrite : write.1 ≤ next.1) (hrest : ∀ later ∈ rest, next.1 ≤ later.1)
    (hfinish : next.1 ≤ finished.clock.elapsed) (hapart : next.1 ≠ write.1 + window) :
    EmitsExactly window isPlayBuild start before (write :: next :: rest) finished := by
  refine ⟨?_, ofWrite_pairwise _, ?_⟩
  · rw [emissions_cons_cons hrest hfinish hapart, h.published_eq, List.map_append,
      List.append_assoc]
    split <;> rfl
  · obtain ⟨a, haggregator, hdone⟩ := h.isDone_iff
    refine ⟨a, haggregator, hdone.trans ?_⟩
    constructor
    · rintro ⟨hclosed, hover⟩
      refine ⟨hclosed, ?_⟩
      intro w hw
      rcases List.mem_cons.mp hw with rfl | hw
      · have hnext := hover next List.mem_cons_self
        omega
      · exact hover w hw
    · rintro ⟨hclosed, hover⟩
      exact ⟨hclosed, fun w hw => hover w (List.mem_cons_of_mem _ hw)⟩

/-! ## The aggregation after its last write -/

namespace Aggregator

variable {a : Aggregator} {clock : Clock} {sources : ScreenSources} {window time : Nat}
  {state : UiState} {seen : Option (List Nat)}

theorem publish_due (h : time ≤ clock.elapsed) :
    publish ⟨⟨window, some (time, state)⟩, seen⟩ clock = (some state, ⟨⟨window, none⟩, seen⟩) := by
  simp only [publish, Debouncer.take?, if_pos h]
  rfl

theorem publish_waiting (h : clock.elapsed < time) :
    publish ⟨⟨window, some (time, state)⟩, seen⟩ clock =
      (none, ⟨⟨window, some (time, state)⟩, seen⟩) := by
  simp only [publish, Debouncer.take?, if_neg (Nat.not_le_of_lt h)]

/-- A state that is due is published, and if nothing is new that is all. -/
theorem react_due (clock : Clock) (isPlayBuild : Bool) (sources : ScreenSources)
    (h : time ≤ clock.elapsed) :
    react ⟨⟨window, some (time, state)⟩, some sources.revisions⟩ clock isPlayBuild sources =
      ([state], ⟨⟨window, none⟩, some sources.revisions⟩) := by
  have hlook : look ⟨⟨window, none⟩, some sources.revisions⟩ clock isPlayBuild sources =
      ⟨⟨window, none⟩, some sources.revisions⟩ := look_of_seen rfl
  simp only [react, publish_due h, hlook]
  rfl

/-- An aggregation that publishes nothing and finds nothing new stays as it is. -/
theorem react_of_none (isPlayBuild : Bool) (hnothing : (a.publish clock).1 = none)
    (hseen : a.seen = some sources.revisions) :
    a.react clock isPlayBuild sources = ([], a) := by
  simp only [react, hnothing, publish_of_none hnothing, look_of_seen hseen]
  rfl

/-- An aggregation that finds something new forgets what it holds back.  What follows from the new
values is held back in its turn, unless there is no window. -/
theorem react_of_new (isPlayBuild : Bool) (hnothing : (a.publish clock).1 = none)
    (hnew : a.seen ≠ some sources.revisions) :
    a.react clock isPlayBuild sources =
      let state := sources.inputs.uiState isPlayBuild clock.now
      if a.debouncer.window = 0 then
        ([state], ⟨⟨a.debouncer.window, none⟩, some sources.revisions⟩)
      else
        ([], ⟨⟨a.debouncer.window, some (clock.elapsed + a.debouncer.window, state)⟩,
          some sources.revisions⟩) := by
  simp only [react, hnothing, publish_of_none hnothing, look, if_neg hnew, Debouncer.push]
  split
  · next hopen =>
    rw [publish_due (by omega)]
    rfl
  · next hwindow =>
    rw [publish_waiting (by omega)]
    rfl

end Aggregator

/-- What a reaction of the aggregation publishes is published by the presenter. -/
theorem Presenter.reactAggregator_of_react {p : Presenter} {a a' : Aggregator} {clock : Clock}
    {sources : ScreenSources} {states : List UiState} (h : p.aggregator = some a)
    (hreact : a.react clock p.isPlayBuild sources = (states, a')) :
    (p.reactAggregator clock sources).isPlayBuild = p.isPlayBuild ∧
      (p.reactAggregator clock sources).aggregator = some a' ∧
      (p.reactAggregator clock sources).published =
        p.published ++ states.map (⟨clock.elapsed, ·⟩) := by
  rw [reactAggregator_eq h, hreact]
  exact ⟨rfl, rfl, rfl⟩

/-- A presenter whose aggregation has looked at its last write: either it holds the state that
follows from it back until its time, or it has published it. -/
inductive Aggregates (window : Nat) (isPlayBuild : Bool) (before : List Publication)
    (last : Publication) (elapsed : Nat) (s : SourcedPresenter) : Prop where
  | waiting (hbuild : s.presenter.isPlayBuild = isPlayBuild)
      (haggregator : s.presenter.aggregator =
        some ⟨⟨window, some (last.time, last.state)⟩, some s.sources.revisions⟩)
      (hpublished : s.presenter.published = before) (hahead : elapsed < last.time)
  | published (hbuild : s.presenter.isPlayBuild = isPlayBuild)
      (haggregator : s.presenter.aggregator = some ⟨⟨window, none⟩, some s.sources.revisions⟩)
      (hpublished : s.presenter.published = before ++ [last]) (hover : last.time ≤ elapsed)

namespace Aggregates

open SourcedPresenter

variable {window : Nat} {isPlayBuild : Bool} {before : List Publication} {last : Publication}
  {timed : Timed SourcedPresenter}

/-- In a millisecond the window may come to its end, and then the state is published. -/
theorem tick (h : Aggregates window isPlayBuild before last timed.clock.elapsed timed.state) :
    Aggregates window isPlayBuild before last (aggregation.advance 1 timed).clock.elapsed
      (aggregation.advance 1 timed).state := by
  have hdue : aggregation.nextDue? timed.state =
      timed.state.presenter.aggregator.bind Aggregator.nextDue? := rfl
  rw [Machine.advance_one, hdue]
  simp only [Clock.withElapsed_elapsed]
  cases h with
  | published hbuild haggregator hpublished hover =>
      rw [haggregator]
      exact .published hbuild haggregator hpublished (Nat.le_succ_of_le hover)
  | waiting hbuild haggregator hpublished hahead =>
      rw [haggregator]
      simp only [Option.bind_some, Aggregator.nextDue?, Debouncer.deadline?, Option.map_some,
        Option.any_some, decide_eq_true_eq]
      split
      · next hend =>
        -- the window is over just now
        have hnow : last.time = timed.clock.elapsed + 1 := by omega
        obtain ⟨hbuild', haggregator', hpublished'⟩ :=
          Presenter.reactAggregator_of_react haggregator (Aggregator.react_due
            (timed.clock.withElapsed (timed.clock.elapsed + 1)) _ timed.state.sources hend)
        refine .published (hbuild'.trans hbuild) haggregator' (hpublished'.trans ?_) hend
        rw [hpublished, List.map_singleton, Clock.withElapsed_elapsed, ← hnow]
      · next hnotYet => exact .waiting hbuild haggregator hpublished (Nat.lt_of_not_le hnotYet)

/-- While time passes, nothing but the end of the window happens. -/
theorem advance (h : Aggregates window isPlayBuild before last timed.clock.elapsed timed.state)
    (ms : Nat) :
    Aggregates window isPlayBuild before last (aggregation.advance ms timed).clock.elapsed
      (aggregation.advance ms timed).state :=
  Machine.advance_preserves_of_tick
    (P := fun timed => Aggregates window isPlayBuild before last timed.clock.elapsed timed.state)
    (fun _ h => h.tick) ms timed h

theorem published_eq {elapsed : Nat} {s : SourcedPresenter}
    (h : Aggregates window isPlayBuild before last elapsed s) :
    s.presenter.published = before ++ if last.time ≤ elapsed then [last] else [] := by
  cases h with
  | waiting _ _ hpublished hahead =>
      rw [if_neg (Nat.not_le_of_lt hahead), List.append_nil, hpublished]
  | published _ _ hpublished hover => rw [if_pos hover, hpublished]

theorem isPlayBuild_eq {elapsed : Nat} {s : SourcedPresenter}
    (h : Aggregates window isPlayBuild before last elapsed s) :
    s.presenter.isPlayBuild = isPlayBuild := by
  cases h with
  | waiting hbuild | published hbuild => exact hbuild

/-- What is held back is not due. -/
theorem exists_aggregator {clock : Clock} {s : SourcedPresenter}
    (h : Aggregates window isPlayBuild before last clock.elapsed s) :
    ∃ a, s.presenter.aggregator = some a ∧ a.seen = some s.sources.revisions ∧
      a.debouncer.window = window ∧ (a.publish clock).1 = none := by
  cases h with
  | waiting _ haggregator _ hahead =>
      refine ⟨_, haggregator, rfl, rfl, ?_⟩
      rw [Aggregator.publish_waiting hahead]
  | published _ haggregator _ _ => exact ⟨_, haggregator, rfl, rfl, rfl⟩

/-- A look at sources that were not written changes nothing. -/
theorem act_of_seen (h : Aggregates window isPlayBuild before last timed.clock.elapsed timed.state)
    {events : List ScreenSourceEvent}
    (hseen : (timed.state.sources.afterAll events).revisions = timed.state.sources.revisions) :
    Aggregates window isPlayBuild before last timed.clock.elapsed
      (aggregation.act (follow events) timed).state := by
  obtain ⟨a, haggregator, haseen, -, hnothing⟩ := h.exists_aggregator
  obtain ⟨hbuild', haggregator', hpublished'⟩ := Presenter.reactAggregator_of_react haggregator
    (Aggregator.react_of_none _ hnothing (haseen.trans (congrArg some hseen.symm)))
  rw [List.map_nil, List.append_nil] at hpublished'
  have hsame := haggregator'.trans haggregator.symm
  cases h with
  | waiting hbuild hheld hpublished hahead =>
      rw [← hseen] at hheld
      exact .waiting (hbuild'.trans hbuild) (hsame.trans hheld) (hpublished'.trans hpublished)
        hahead
  | published hbuild hfree hpublished hover =>
      rw [← hseen] at hfree
      exact .published (hbuild'.trans hbuild) (hsame.trans hfree) (hpublished'.trans hpublished)
        hover

/-- A look at something new begins a new window. -/
theorem settle_of_new {s : SourcedPresenter} (clock : Clock) {a : Aggregator}
    (hbuild : s.presenter.isPlayBuild = isPlayBuild) (haggregator : s.presenter.aggregator = some a)
    (hwindow : a.debouncer.window = window) (hnothing : (a.publish clock).1 = none)
    (hnew : a.seen ≠ some s.sources.revisions) :
    Aggregates window isPlayBuild s.presenter.published
      (.ofWrite window isPlayBuild clock.start (clock.elapsed, s.sources.inputs)) clock.elapsed
      (aggregation.settle clock s) := by
  have hreact := Aggregator.react_of_new s.presenter.isPlayBuild hnothing hnew
  rw [hwindow] at hreact
  by_cases hopen : window = 0
  · obtain ⟨hbuild', haggregator', hpublished'⟩ :=
      Presenter.reactAggregator_of_react haggregator (hreact.trans (if_pos hopen))
    subst hopen
    exact .published (hbuild'.trans hbuild) haggregator' (hbuild ▸ hpublished') (Nat.le_refl _)
  · obtain ⟨hbuild', haggregator', hpublished'⟩ :=
      Presenter.reactAggregator_of_react haggregator (hreact.trans (if_neg hopen))
    refine .waiting (hbuild'.trans hbuild) (hbuild ▸ haggregator')
      (hpublished'.trans (List.append_nil _)) ?_
    show clock.elapsed < clock.elapsed + window
    omega

/-- When something is written after the window or before its end, the next one begins. -/
theorem act_of_new (h : Aggregates window isPlayBuild before last timed.clock.elapsed timed.state)
    {events : List ScreenSourceEvent}
    (hnew : (timed.state.sources.afterAll events).revisions ≠ timed.state.sources.revisions) :
    Aggregates window isPlayBuild
      (before ++ if last.time ≤ timed.clock.elapsed then [last] else [])
      (.ofWrite window isPlayBuild timed.clock.start
        (timed.clock.elapsed, (timed.state.sources.afterAll events).inputs))
      timed.clock.elapsed (aggregation.act (follow events) timed).state := by
  obtain ⟨a, haggregator, hseen, hwindow, hnothing⟩ := h.exists_aggregator
  have hnew' : a.seen ≠ some (timed.state.sources.afterAll events).revisions := by
    rw [hseen]
    intro heq
    exact hnew (Option.some.inj heq).symm
  have hsettled := settle_of_new (s := follow events timed.state) timed.clock h.isPlayBuild_eq
    haggregator hwindow hnothing hnew'
  rwa [show (follow events timed.state).presenter.published = _ from h.published_eq] at hsettled

/-! ## Runs -/

/-- The aggregation is done once the sources are closed and the last window is over. -/
theorem isDone_iff {clock : Clock} {s : SourcedPresenter}
    (h : Aggregates window isPlayBuild before last clock.elapsed s) :
    ∃ a, s.presenter.aggregator = some a ∧
      (a.isDone s.sources = true ↔ s.sources.areClosed = true ∧ last.time ≤ clock.elapsed) := by
  cases h with
  | waiting _ haggregator _ hahead =>
      refine ⟨_, haggregator, ?_⟩
      simp [Aggregator.isDone, Nat.not_le_of_lt hahead]
  | published _ haggregator _ hover =>
      refine ⟨_, haggregator, ?_⟩
      simp [Aggregator.isDone, hover]

/-- Writing is up to the others. -/
theorem sources_advance (ms : Nat) (timed : Timed SourcedPresenter) :
    (aggregation.advance ms timed).state.sources = timed.state.sources := by
  refine Machine.advance_preserves_of_tick
    (P := fun later => later.state.sources = timed.state.sources) ?_ ms timed rfl
  intro later hlater
  rw [Machine.advance_one]
  show (if _ then aggregation.settle _ later.state else later.state).sources = _
  split
  · exact hlater
  · exact hlater

/-- What is published in a run are the emissions of its writes. -/
theorem run (timed : Timed SourcedPresenter) (before : List Publication)
    (write : Nat × ScreenInputs) (steps : List (TimedStep (List ScreenSourceEvent)))
    (h : Aggregates window isPlayBuild before (.ofWrite window isPlayBuild timed.clock.start write)
      timed.clock.elapsed timed.state)
    (hwrite : write.1 ≤ timed.clock.elapsed)
    (hapart : (write :: timed.state.sources.writes timed.clock.elapsed steps).IsChain
      fun first second => second.1 ≠ first.1 + window) :
    EmitsExactly window isPlayBuild timed.clock.start before
      (write :: timed.state.sources.writes timed.clock.elapsed steps)
      (aggregation.run follow timed steps) := by
  induction steps generalizing timed before write with
  | nil =>
      refine ⟨?_, ?_, ?_⟩
      · refine h.published_eq.trans ?_
        simp only [ScreenSources.writes, emissions_singleton, apply_ite (List.map _),
          List.map_singleton, List.map_nil]
        rfl
      · exact ofWrite_pairwise _
      · obtain ⟨a, haggregator, hdone⟩ := h.isDone_iff
        refine ⟨a, haggregator, hdone.trans ?_⟩
        simp [Publication.ofWrite, ScreenSources.writes, Machine.run]
  | cons step steps ih =>
      cases step with
      | advance ms =>
          have hlater := ih (aggregation.advance ms timed) before write (h.advance ms)
            (hwrite.trans (Nat.le_add_right _ _))
          rw [sources_advance] at hlater
          exact hlater hapart
      | act events =>
          unfold ScreenSources.writes at hapart ⊢
          by_cases hseen : (timed.state.sources.afterAll events).revisions =
            timed.state.sources.revisions
          · rw [if_pos hseen] at hapart ⊢
            exact ih (aggregation.act (follow events) timed) before write (h.act_of_seen hseen)
              hwrite hapart
          · rw [if_neg hseen] at hapart ⊢
            obtain ⟨hnext, hrest⟩ := List.isChain_cons_cons.mp hapart
            have hlater := ih (aggregation.act (follow events) timed) _ _ (h.act_of_new hseen)
              (Nat.le_refl _) hrest
            refine EmitsExactly.cons hlater hwrite ?_ (Machine.elapsed_le_run _ _) hnext
            intro later hmem
            exact ScreenSources.le_of_mem_writes hmem

end Aggregates

/-- A presenter whose aggregation has just been launched and has not looked at the sources yet. -/
def SourcedPresenter.launchAggregation (presenter : Presenter) (sources : ScreenSources) :
    SourcedPresenter :=
  ⟨sources, { presenter with aggregator := some (.launch presenter.window) }⟩

/-- What the aggregation of a presenter publishes from its start on are the emissions of the writes
to its sources, if none of them falls on the end of the window of the one before.  Closing the
sources makes no difference to that, but ends the aggregation. -/
theorem Presenter.emissions_exact (presenter : Presenter) (clock : Clock) (sources : ScreenSources)
    (steps : List (TimedStep (List ScreenSourceEvent)))
    (hapart : ((clock.elapsed, sources.inputs) :: sources.writes clock.elapsed steps).IsChain
      fun first second => second.1 ≠ first.1 + presenter.window) :
    EmitsExactly presenter.window presenter.isPlayBuild clock.start presenter.published
      ((clock.elapsed, sources.inputs) :: sources.writes clock.elapsed steps)
      (SourcedPresenter.aggregation.run .follow
        (SourcedPresenter.aggregation.act id ⟨clock, .launchAggregation presenter sources⟩)
        steps) := by
  have hfirst : Aggregates presenter.window presenter.isPlayBuild presenter.published
      (.ofWrite presenter.window presenter.isPlayBuild clock.start (clock.elapsed, sources.inputs))
      clock.elapsed
      (SourcedPresenter.aggregation.act id
        ⟨clock, .launchAggregation presenter sources⟩).state :=
    Aggregates.settle_of_new (s := .launchAggregation presenter sources) clock rfl rfl rfl rfl nofun
  exact Aggregates.run
    (SourcedPresenter.aggregation.act id ⟨clock, .launchAggregation presenter sources⟩) _ _ steps
    hfirst (Nat.le_refl _) hapart

/-- A run for windows of three milliseconds: two writes at its start, one before the first window is
over, and one together with which all sources are closed. -/
def ScreenSources.closingRun : List (TimedStep (List ScreenSourceEvent)) :=
  [.act [.title (.write (some "Gothenburg")), .account (.write (some ⟨"1", ⟨1717243260, 0⟩⟩))],
    .advance 2, .act [.title (.write none)], .advance 5,
    .act [.device (.write .revoked), .title .close, .notifications .close, .tunnel .close,
      .lastKnown .close, .account .close, .device .close], .advance 2, .advance 4]

/-- Of its four writes the last two lead to a state each, three milliseconds later. -/
theorem Presenter.emissions_exact_closing :
    let sources := ScreenSources.fresh .initial
    let presenter := atRest 3 false ⟨"https".toList, none, .segments [], none, none⟩
    let written := (0, sources.inputs) :: sources.writes 0 ScreenSources.closingRun
    written.IsChain (fun first second => second.1 ≠ first.1 + 3) ∧
      (emissions 3 13 written).map (·.1) = [2, 7] ∧
      EmitsExactly 3 false ⟨1717243258, 0⟩ [] written
        (SourcedPresenter.aggregation.run .follow
          (SourcedPresenter.aggregation.act id
            ⟨⟨⟨1717243258, 0⟩, 0⟩, .launchAggregation presenter sources⟩)
          ScreenSources.closingRun) := by
  intro sources presenter written
  have hapart : written.IsChain fun first second => second.1 ≠ first.1 + 3 := by decide
  exact ⟨hapart, by decide,
    emissions_exact presenter ⟨⟨1717243258, 0⟩, 0⟩ sources ScreenSources.closingRun hapart⟩

end VpnClient
