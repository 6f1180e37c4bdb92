import VpnClient.Proofs.Feed.Notifications

/-!
# The feeds are current

The derived sources of the screen have, after each of their reactions, the values that follow from
the backend and from the locations the tunnel has been disconnected at.

## Main Definitions

* `Location.Stands` — a remembered location stands for the one that was reported last
* `Feeds.IsCurrent` — the three feeds follow a backend and have missed nothing

## Main Statements

* `Feeds.IsCurrent.react` — feeds that react are current, whatever was written
* `Feeds.IsCurrent.pass` — current feeds stay current until they move by themselves
-/

namespace VpnClient

namespace DerivedSource

variable {α β : Type} {d : DerivedSource β} {followed : Source α}

/-- A source that does not end with the one it follows either has seen its last revision and stays
as it is, or sees it now. -/
theorem react_cases [BEq β] (derive : α → Option β) (hd : d.output.isClosed = false)
    (hfollowed : followed.isClosed = false) :
    (d.seen = followed.revision ∧ d.react derive followed = d) ∨
      (d.seen ≠ followed.revision ∧
        d.react derive followed = ⟨followed.revision,
          (derive followed.value).elim d.output d.output.update⟩) := by
  by_cases hseen : d.seen = followed.revision
  · refine Or.inl ⟨hseen, ?_⟩
    simp only [react, hd, hfollowed, hseen, Bool.false_eq_true, if_false, if_true]
    rw [← hseen]
  · refine Or.inr ⟨hseen, ?_⟩
    simp only [react, hd, hfollowed, hseen, Bool.false_eq_true, if_false]
    cases derive followed.value <;> rfl

theorem react_seen [BEq β] (derive : α → Option β) (hd : d.output.isClosed = false)
    (hfollowed : followed.isClosed = false) :
    (d.react derive followed).seen = followed.revision := by
  rcases react_cases derive hd hfollowed with ⟨hseen, heq⟩ | ⟨-, heq⟩
  · rw [heq, hseen]
  · rw [heq]

theorem later_react [BEq β] (derive : α → Option β) (hd : d.output.isClosed = false)
    (hfollowed : followed.isClosed = false) :
    d.output.Later (d.react derive followed).output := by
  rcases react_cases derive hd hfollowed with ⟨-, heq⟩ | ⟨-, heq⟩
  · rw [heq]
    exact Source.Later.refl _
  · rw [heq]
    cases derive followed.value with
    | none => exact Source.Later.refl _
    | some value => exact Source.later_update _ value

end DerivedSource

/-- A remembered location stands for the one that was reported last: it is that one, or one that
compares equal to it.  Two different ones can do so because coordinates compare as floating point
numbers. -/
def Location.Stands (known reported : Option Location) : Prop :=
  known = reported ∨ (known == reported) = true

namespace Feeds

/-- The feeds have seen all that was written to a backend, and hold what follows from it.
`reported` is the location that the tunnel has last been disconnected at. -/
structure IsCurrent (feeds : Feeds) (clock : Clock) (backend : Backend)
    (reported : Option Location) : Prop where
  titleOpen : feeds.title.output.isClosed = false
  titleSeen : feeds.title.seen = backend.selection.revision
  title_eq : feeds.title.output.value = titleOf backend.selection.value
  lastKnownOpen : feeds.lastKnown.output.isClosed = false
  lastKnownSeen : feeds.lastKnown.seen = backend.tunnel.revision
  lastKnown_stands : Location.Stands feeds.lastKnown.output.value reported
  reported_eq : backend.tunnel.value.disconnectedLocation?.or reported = reported
  notifications : feeds.notifications.IsCurrent clock backend

/-- Feeds are current at their start. -/
theorem isCurrent_launch {clock : Clock} (hclock : clock.AgreesWithTimers) {backend : Backend}
    (hbackend : backend.HasRegularExpiry) (warningDays : Nat) :
    (launch clock warningDays backend).IsCurrent clock backend
      backend.tunnel.value.disconnectedLocation? where
  titleOpen := rfl
  titleSeen := rfl
  title_eq := rfl
  lastKnownOpen := rfl
  lastKnownSeen := rfl
  lastKnown_stands := Or.inl rfl
  reported_eq := Option.or_self
  notifications := NotificationFeed.isCurrent_launch hclock hbackend warningDays

/-- The outputs of feeds and what has become of them. -/
structure Later (feeds feeds' : Feeds) : Prop where
  title : feeds.title.output.Later feeds'.title.output
  lastKnown : feeds.lastKnown.output.Later feeds'.lastKnown.output
  notifications : feeds.notifications.output.Later feeds'.notifications.output

/-- The feeds that end with what they follow have not done so. -/
structure IsOpen (feeds : Feeds) : Prop where
  title : feeds.title.output.isClosed = false
  lastKnown : feeds.lastKnown.output.isClosed = false

namespace IsOpen

variable {feeds feeds' : Feeds} {backend : Backend}

/-- Whatever open feeds do, their outputs are written at most. -/
theorem later_react (h : feeds.IsOpen) (clock : Clock) (hopen : backend.IsOpen) :
    feeds.Later (feeds.react clock backend) where
  title := DerivedSource.later_react _ h.title hopen.selection
  lastKnown := DerivedSource.later_react _ h.lastKnown hopen.tunnel
  notifications := NotificationFeed.later_react _ clock hopen

theorem of_later (h : feeds.IsOpen) (hlater : feeds.Later feeds') : feeds'.IsOpen where
  title := hlater.title.isClosed_eq.trans h.title
  lastKnown := hlater.lastKnown.isClosed_eq.trans h.lastKnown

end IsOpen

namespace IsCurrent

variable {feeds : Feeds} {clock : Clock} {backend backend' : Backend}
  {reported : Option Location}

/-- Feeds that move by themselves do so when the timer of the notifications goes off, so nothing
changes before. -/
theorem pass (h : feeds.IsCurrent clock backend reported) (hclock : clock.AgreesWithTimers)
    {time : Nat} (htime : clock.elapsed ≤ time)
    (hbefore : ∀ due, feeds.nextDue? = some due → time < due) :
    feeds.IsCurrent (clock.withElapsed time) backend reported where
  titleOpen := h.titleOpen
  titleSeen := h.titleSeen
  title_eq := h.title_eq
  lastKnownOpen := h.lastKnownOpen
  lastKnownSeen := h.lastKnownSeen
  lastKnown_stands := h.lastKnown_stands
  reported_eq := h.reported_eq
  notifications := by
    refine h.notifications.pass hclock htime ?_
    intro timer htimer
    refine hbefore timer.1 ?_
    simp [nextDue?, h.notifications.isOpen, htimer]

/-- The title is that of the selection again. -/
theorem title_react (h : feeds.IsCurrent clock backend reported) (hlater : backend.Later backend')
    (hopen' : backend'.IsOpen) :
    (feeds.title.react (fun selection => some (titleOf selection))
      backend'.selection).output.value = titleOf backend'.selection.value := by
  rcases DerivedSource.react_cases (fun selection => some (titleOf selection)) h.titleOpen
    hopen'.selection with ⟨hseen, heq⟩ | ⟨-, heq⟩
  · have hsame := hlater.selection.eq_of_revision_eq (hseen.symm.trans h.titleSeen)
    rw [heq, h.title_eq, hsame]
  · rw [heq]
    exact Source.update_value_of_lawful _ _

/-- The location that is remembered stands for the one that is reported now, if one is, else for
the one that was reported last. -/
theorem lastKnown_react (h : feeds.IsCurrent clock backend reported)
    (hlater : backend.Later backend') (hopen' : backend'.IsOpen) :
    Location.Stands
      (feeds.lastKnown.react (fun tunnel => tunnel.disconnectedLocation?.map some)
        backend'.tunnel).output.value
      (backend'.tunnel.value.disconnectedLocation?.or reported) := by
  rcases DerivedSource.react_cases (fun tunnel => tunnel.disconnectedLocation?.map some)
    h.lastKnownOpen hopen'.tunnel with ⟨hseen, heq⟩ | ⟨-, heq⟩
  · have hsame := hlater.tunnel.eq_of_revision_eq (hseen.symm.trans h.lastKnownSeen)
    rw [heq, hsame, h.reported_eq]
    exact h.lastKnown_stands
  · rw [heq]
    cases backend'.tunnel.value.disconnectedLocation? with
    | none => exact h.lastKnown_stands
    | some location => exact Source.update_value _ (some location)

/-- Feeds that react are current again, whatever was written in the meantime. -/
theorem react (h : feeds.IsCurrent clock backend reported) (hclock : clock.AgreesWithTimers)
    (hbackend : backend.HasRegularExpiry) (hlater : backend.Later backend')
    (hopen' : backend'.IsOpen) (hbackend' : backend'.HasRegularExpiry) {time : Nat}
    (htime : clock.elapsed ≤ time) :
    (feeds.react (clock.withElapsed time) backend').IsCurrent (clock.withElapsed time) backend'
      (backend'.tunnel.value.disconnectedLocation?.or reported) where
  titleOpen := (DerivedSource.later_react _ h.titleOpen hopen'.selection).isClosed_eq.trans
    h.titleOpen
  titleSeen := DerivedSource.react_seen _ h.titleOpen hopen'.selection
  title_eq := h.title_react hlater hopen'
  lastKnownOpen := (DerivedSource.later_react _ h.lastKnownOpen hopen'.tunnel).isClosed_eq.trans
    h.lastKnownOpen
  lastKnownSeen := DerivedSource.react_seen _ h.lastKnownOpen hopen'.tunnel
  lastKnown_stands := h.lastKnown_react hlater hopen'
  reported_eq := by rw [← Option.or_assoc, Option.or_self]
  notifications :=
    h.notifications.react hclock hbackend hlater hopen' hbackend' htime

theorem isOpen (h : feeds.IsCurrent clock backend reported) : feeds.IsOpen :=
  ⟨h.titleOpen, h.lastKnownOpen⟩

end IsCurrent

end Feeds

end VpnClient
