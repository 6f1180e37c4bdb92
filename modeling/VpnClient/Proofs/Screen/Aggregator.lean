import VpnClient.Proofs.Feed.Writes
import VpnClient.Proofs.Time.Clock
import VpnClient.Screen.Aggregator

/-!
# The aggregation is current

The state that follows from the last write to the sources is either published, or held back with a
deadline that is still to come.

## Main Definitions

* `ScreenSources.Later` — the six sources and what has become of them
* `Aggregator.IsCurrent` — nothing that was written to the sources has been missed

## Main Statements

* `Aggregator.IsCurrent.react` — an aggregation that reacts is current, whatever was written
* `Aggregator.isCurrent_react_launch` — the first look counts as a write
* `Aggregator.IsCurrent.pass` — a current aggregation stays current until its deadline
-/

namespace VpnClient

namespace ScreenSources

/-- The six sources and what has become of them. -/
structure Later (s t : ScreenSources) : Prop where
  title : s.title.Later t.title
  notifications : s.notifications.Later t.notifications
  tunnel : s.tunnel.Later t.tunnel
  lastKnown : s.lastKnown.Later t.lastKnown
  account : s.account.Later t.account
  device : s.device.Later t.device

namespace Later

variable {s t u : ScreenSources}

theorem trans (h₁ : Later s t) (h₂ : Later t u) : Later s u where
  title := h₁.title.trans h₂.title
  notifications := h₁.notifications.trans h₂.notifications
  tunnel := h₁.tunnel.trans h₂.tunnel
  lastKnown := h₁.lastKnown.trans h₂.lastKnown
  account := h₁.account.trans h₂.account
  device := h₁.device.trans h₂.device

/-- Nothing was written between two moments with the same revisions. -/
theorem eq_of_revisions_eq (h : Later s t) (hsame : t.revisions = s.revisions) : t = s := by
  simp only [revisions, List.cons.injEq, and_true] at hsame
  obtain ⟨htitle, hnotifications, htunnel, hlastKnown, haccount, hdevice⟩ := hsame
  obtain ⟨title, notifications, tunnel, lastKnown, account, device⟩ := s
  obtain ⟨title', notifications', tunnel', lastKnown', account', device'⟩ := t
  simp only [ScreenSources.mk.injEq]
  exact ⟨h.title.eq_of_revision_eq htitle, h.notifications.eq_of_revision_eq hnotifications,
    h.tunnel.eq_of_revision_eq htunnel, h.lastKnown.eq_of_revision_eq hlastKnown,
    h.account.eq_of_revision_eq haccount, h.device.eq_of_revision_eq hdevice⟩

/-- Revisions do not come back: if they are the same in the end, they were the same in between. -/
theorem revisions_eq_between (h₁ : Later s t) (h₂ : Later t u)
    (hsame : u.revisions = s.revisions) : t.revisions = s.revisions := by
  simp only [revisions, List.cons.injEq, and_true] at hsame ⊢
  obtain ⟨htitle, hnotifications, htunnel, hlastKnown, haccount, hdevice⟩ := hsame
  refine ⟨?_, ?_, ?_, ?_, ?_, ?_⟩
  · exact Nat.le_antisymm (htitle ▸ h₂.title.revision_le) h₁.title.revision_le
  · exact Nat.le_antisymm (hnotifications ▸ h₂.notifications.revision_le)
      h₁.notifications.revision_le
  · exact Nat.le_antisymm (htunnel ▸ h₂.tunnel.revision_le) h₁.tunnel.revision_le
  · exact Nat.le_antisymm (hlastKnown ▸ h₂.lastKnown.revision_le) h₁.lastKnown.revision_le
  · exact Nat.le_antisymm (haccount ▸ h₂.account.revision_le) h₁.account.revision_le
  · exact Nat.le_antisymm (hdevice ▸ h₂.device.revision_le) h₁.device.revision_le

end Later

end ScreenSources

namespace Aggregator

/-- What an aggregation owes to its deadline: the target is held back, or it has been published and
the deadline has come. -/
def Owes (a : Aggregator) (time deadline : Nat) (target published : UiState) : Prop :=
  a.debouncer.pending = some (deadline, target) ∨
    a.debouncer.pending = none ∧ published = target ∧ deadline ≤ time

/-- An aggregation that owes nothing for longer than it may: what it holds back is still to
come. -/
def IsPunctual (a : Aggregator) (time deadline : Nat) (target published : UiState) : Prop :=
  a.debouncer.pending = some (deadline, target) ∧ time < deadline ∨
    a.debouncer.pending = none ∧ published = target ∧ deadline ≤ time

variable {a : Aggregator} {time deadline : Nat} {target published : UiState}

theorem IsPunctual.owes (h : a.IsPunctual time deadline target published) {later : Nat}
    (hlater : time ≤ later) : a.Owes later deadline target published := by
  rcases h with ⟨hpending, -⟩ | ⟨hnone, heq, hdeadline⟩
  · exact Or.inl hpending
  · exact Or.inr ⟨hnone, heq, Nat.le_trans hdeadline hlater⟩

/-- What is owed is published once its deadline has come. -/
theorem Owes.publish {clock : Clock} (h : a.Owes clock.elapsed deadline target published) :
    (a.publish clock).2.IsPunctual clock.elapsed deadline target
      ((a.publish clock).1.getD published) := by
  rcases h with hpending | ⟨hnone, heq, hdeadline⟩
  · by_cases hdue : deadline ≤ clock.elapsed
    · refine Or.inr ?_
      simp only [Aggregator.publish, Debouncer.take?, hpending, if_pos hdue]
      exact ⟨rfl, rfl, hdue⟩
    · refine Or.inl ?_
      simp only [Aggregator.publish, Debouncer.take?, hpending, if_neg hdue]
      exact ⟨trivial, Nat.lt_of_not_le hdue⟩
  · refine Or.inr ?_
    simp only [Aggregator.publish, Debouncer.take?, hnone]
    exact ⟨trivial, heq, hdeadline⟩

@[simp]
theorem publish_seen (a : Aggregator) (clock : Clock) : (a.publish clock).2.seen = a.seen := rfl

@[simp]
theorem publish_window (a : Aggregator) (clock : Clock) :
    (a.publish clock).2.debouncer.window = a.debouncer.window := by
  simp only [publish, Debouncer.take?]
  split
  · split <;> rfl
  · rfl

/-- An aggregation that publishes nothing stays as it is. -/
theorem publish_of_none {clock : Clock} (h : (a.publish clock).1 = none) :
    (a.publish clock).2 = a := by
  simp only [publish, Debouncer.take?] at h ⊢
  split
  · next hpending =>
    simp only [hpending] at h
    split
    · next hdue =>
      rw [if_pos hdue] at h
      cases h
    · rfl
  · rfl

theorem look_of_seen {clock : Clock} {isPlayBuild : Bool} {sources : ScreenSources}
    (h : a.seen = some sources.revisions) : a.look clock isPlayBuild sources = a := by
  simp only [look, if_pos h]

/-- A look at something new owes the state that follows from it. -/
theorem look_owes (clock : Clock) (isPlayBuild : Bool) {sources : ScreenSources}
    (h : a.seen ≠ some sources.revisions) (published : UiState) :
    (a.look clock isPlayBuild sources).Owes clock.elapsed
      (clock.elapsed + a.debouncer.window) (sources.inputs.uiState isPlayBuild clock.now)
      published := by
  simp only [look, if_neg h]
  exact Or.inl rfl

@[simp]
theorem look_seen (a : Aggregator) (clock : Clock) (isPlayBuild : Bool) (sources : ScreenSources) :
    (a.look clock isPlayBuild sources).seen = some sources.revisions := by
  simp only [look]
  split
  · next h => exact h
  · rfl

@[simp]
theorem look_window (a : Aggregator) (clock : Clock) (isPlayBuild : Bool)
    (sources : ScreenSources) :
    (a.look clock isPlayBuild sources).debouncer.window = a.debouncer.window := by
  simp only [look]
  split <;> rfl

/-- An aggregation has seen all that was written to the sources, and the state that follows from the
last write, at the time of which the clock showed its `now`, is published or still to come. -/
structure IsCurrent (a : Aggregator) (window : Nat) (isPlayBuild : Bool) (clock : Clock)
    (sources : ScreenSources) (changedAt : Nat) (published : UiState) : Prop where
  window_eq : a.debouncer.window = window
  seen_eq : a.seen = some sources.revisions
  punctual : a.IsPunctual clock.elapsed (changedAt + window)
    (sources.inputs.uiState isPlayBuild (clock.withElapsed changedAt).now) published

variable {window changedAt : Nat} {isPlayBuild : Bool} {clock : Clock}
  {sources sources' : ScreenSources}

/-- What is published last in a reaction. -/
theorem getLast?_react (a : Aggregator) (clock : Clock) (isPlayBuild : Bool)
    (sources : ScreenSources) (published : UiState) :
    (a.react clock isPlayBuild sources).1.getLast?.getD published =
      (((a.publish clock).2.look clock isPlayBuild sources).publish clock).1.getD
        ((a.publish clock).1.getD published) := by
  simp only [react]
  generalize (((a.publish clock).2.look clock isPlayBuild sources).publish clock).1 = second
  generalize (a.publish clock).1 = first
  cases first <;> cases second <;> rfl

/-- An aggregation that looks at something new is current. -/
theorem isCurrent_react_of_new (published : UiState) (hwindow : a.debouncer.window = window)
    (hnew : a.seen ≠ some sources.revisions) :
    (a.react clock isPlayBuild sources).2.IsCurrent window isPlayBuild clock sources clock.elapsed
      ((a.react clock isPlayBuild sources).1.getLast?.getD published) := by
  refine ⟨?_, ?_, ?_⟩
  · simp only [react, publish_window, look_window, hwindow]
  · simp only [react, publish_seen, look_seen]
  -- publishing before the look does not make it see anything
  · have hnew' : (a.publish clock).2.seen ≠ some sources.revisions := hnew
    have howes := look_owes clock isPlayBuild hnew'
      ((a.publish clock).1.getD published)
    rw [publish_window, hwindow] at howes
    rw [getLast?_react]
    exact howes.publish

/-- The first look at the sources is at something new. -/
theorem isCurrent_react_launch (window : Nat) (isPlayBuild : Bool) (clock : Clock)
    (sources : ScreenSources) (published : UiState) :
    ((launch window).react clock isPlayBuild sources).2.IsCurrent window isPlayBuild clock sources
      clock.elapsed
      (((launch window).react clock isPlayBuild sources).1.getLast?.getD published) := by
  refine isCurrent_react_of_new published rfl ?_
  intro hseen
  cases hseen

namespace IsCurrent

/-- A current aggregation stays current until its deadline. -/
theorem pass (h : a.IsCurrent window isPlayBuild clock sources changedAt published) {time : Nat}
    (htime : clock.elapsed ≤ time) (hbefore : ∀ due, a.nextDue? = some due → time < due) :
    a.IsCurrent window isPlayBuild (clock.withElapsed time) sources changedAt published := by
  refine ⟨h.window_eq, h.seen_eq, ?_⟩
  rcases h.punctual with ⟨hpending, -⟩ | ⟨hnone, heq, hdeadline⟩
  · refine Or.inl ⟨hpending, hbefore _ ?_⟩
    simp only [nextDue?, Debouncer.deadline?, hpending, Option.map_some]
  · exact Or.inr ⟨hnone, heq, Nat.le_trans hdeadline htime⟩

/-- Publishing what is due leaves an aggregation current. -/
theorem publish (h : a.IsCurrent window isPlayBuild clock sources changedAt published) {time : Nat}
    (htime : clock.elapsed ≤ time) :
    (a.publish (clock.withElapsed time)).2.IsCurrent window isPlayBuild (clock.withElapsed time)
      sources changedAt ((a.publish (clock.withElapsed time)).1.getD published) := by
  have howes : a.Owes (clock.withElapsed time).elapsed (changedAt + window)
      (sources.inputs.uiState isPlayBuild (clock.withElapsed changedAt).now) published :=
    h.punctual.owes htime
  exact ⟨(publish_window a _).trans h.window_eq, h.seen_eq, howes.publish⟩

/-- A current aggregation is current again after its next reaction.  If nothing was written to the
sources, the last write to them is still the last one; else it is now. -/
theorem react (h : a.IsCurrent window isPlayBuild clock sources changedAt published)
    (hlater : sources.Later sources') {time : Nat} (htime : clock.elapsed ≤ time) :
    (a.react (clock.withElapsed time) isPlayBuild sources').2.IsCurrent window isPlayBuild
      (clock.withElapsed time) sources'
      (if sources'.revisions = sources.revisions then changedAt else time)
      ((a.react (clock.withElapsed time) isPlayBuild sources').1.getLast?.getD published) := by
  by_cases hsame : sources'.revisions = sources.revisions
  · rw [if_pos hsame]
    have hseen : a.seen = some sources'.revisions := by rw [h.seen_eq, hsame]
    have heq : sources' = sources := hlater.eq_of_revisions_eq hsame
    subst heq
    have howes : a.Owes (clock.withElapsed time).elapsed (changedAt + window)
        (sources'.inputs.uiState isPlayBuild (clock.withElapsed changedAt).now) published :=
      h.punctual.owes htime
    -- the second look finds nothing new, and publishing again changes nothing
    have hsecond := (howes.publish.owes (Nat.le_refl _)).publish
    refine ⟨?_, ?_, ?_⟩
    · simp only [Aggregator.react, publish_window, look_window, h.window_eq]
    · simp only [Aggregator.react, publish_seen, look_seen]
    · rw [getLast?_react]
      simp only [Aggregator.react, look_of_seen ((publish_seen a _).trans hseen)]
      exact hsecond
  · rw [if_neg hsame]
    refine isCurrent_react_of_new published h.window_eq ?_
    rw [h.seen_eq]
    intro hseen
    exact hsame (Option.some_inj.mp hseen).symm

end IsCurrent

end Aggregator

end VpnClient
