import VpnClient.Account
import VpnClient.Proofs.Time.Position
import VpnClient.Source

/-!
# What happens to sources

A source is written and at some time closed, and a closed source is not written any more.

## Main Definitions

* `SourceEvent`, `Source.after` — what can happen to a source, and the source after it
* `Source.Becomes` — a source and what has become of it, closed or not
* `Source.HasRegularExpiry` — the time of the account runs out at a regular instant

## Main Statements

* `Source.Becomes.value_eq` — whoever has seen the last revision of a source has seen its value
* `Source.HasRegularExpiry.after` — the expiry stays regular if only such are written
-/

namespace VpnClient

/-- What can happen to a source: a value is written, or there will be no more. -/
inductive SourceEvent (α : Type) where
  | write (value : α)
  | close

namespace Source

variable {α : Type} {s t u : Source α}

/-- A source after an event.  A closed source is not written. -/
def after (source : Source α) : SourceEvent α → Source α
  | .write value => if source.isClosed then source else source.set value
  | .close => source.close

/-- A source and what has become of it: there is a new revision, or still the value from before. -/
def Becomes (s t : Source α) : Prop :=
  t.revision = s.revision ∧ t.value = s.value ∨ s.revision < t.revision

namespace Becomes

theorem refl (s : Source α) : Becomes s s :=
  Or.inl ⟨rfl, rfl⟩

theorem trans (h₁ : Becomes s t) (h₂ : Becomes t u) : Becomes s u := by
  rcases h₂ with ⟨hrevision₂, hvalue₂⟩ | hnewer₂
  · rcases h₁ with ⟨hrevision₁, hvalue₁⟩ | hnewer₁
    · exact Or.inl ⟨hrevision₂.trans hrevision₁, hvalue₂.trans hvalue₁⟩
    · exact Or.inr (hrevision₂ ▸ hnewer₁)
  · rcases h₁ with ⟨hrevision₁, -⟩ | hnewer₁
    · exact Or.inr (hrevision₁ ▸ hnewer₂)
    · exact Or.inr (Nat.lt_trans hnewer₁ hnewer₂)

/-- Nothing has been missed of a source whose revision is the one that was seen. -/
theorem value_eq (h : Becomes s t) (hrevision : t.revision = s.revision) : t.value = s.value := by
  rcases h with ⟨-, hvalue⟩ | hnewer
  · exact hvalue
  · omega

end Becomes

theorem becomes_after (s : Source α) (event : SourceEvent α) : Becomes s (s.after event) := by
  cases event with
  | close => exact Becomes.refl s
  | write value =>
      show Becomes s (if s.isClosed then s else s.set value)
      split
      · exact Becomes.refl s
      · exact Or.inr (Nat.lt_succ_self _)

/-- Nothing happens to a closed source any more. -/
theorem after_of_isClosed (h : s.isClosed = true) (event : SourceEvent α) : s.after event = s := by
  obtain ⟨value, revision, isClosed⟩ := s
  obtain rfl : isClosed = true := h
  cases event <;> rfl

end Source

/-! ## The source of the account -/

/-- The time of an account is up at a regular instant, if there is an account. -/
def Source.HasRegularExpiry (source : Source (Option Account)) : Prop :=
  ∀ account, source.value = some account → account.expiry.IsRegular

instance Source.decidableHasRegularExpiry (source : Source (Option Account)) :
    Decidable source.HasRegularExpiry :=
  inferInstanceAs (Decidable (∀ account ∈ source.value, account.expiry.IsRegular))

/-- An account that is written has a regular expiry. -/
def SourceEvent.IsRegular : SourceEvent (Option Account) → Prop
  | .write (some account) => account.expiry.IsRegular
  | _ => True

instance SourceEvent.decidableIsRegular :
    (event : SourceEvent (Option Account)) → Decidable event.IsRegular
  | .write (some account) => inferInstanceAs (Decidable account.expiry.IsRegular)
  | .write none | .close => .isTrue trivial

theorem Source.HasRegularExpiry.after {source : Source (Option Account)}
    (h : source.HasRegularExpiry) {event : SourceEvent (Option Account)}
    (hevent : event.IsRegular) :
    (source.after event).HasRegularExpiry := by
  cases event with
  | close => exact h
  | write value =>
      show Source.HasRegularExpiry (if source.isClosed then source else source.set value)
      split
      · exact h
      · rintro account rfl
        exact hevent

end VpnClient
