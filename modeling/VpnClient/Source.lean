/-!
# Sources

A value that others follow. Every write counts, also one of an equal value, and a source may end.

## Main Definitions

* `Source` — a value with the number of times it has been written
* `Source.set`, `Source.update` — writing always, or only what is new
* `Source.close` — the last thing that happens to a source
-/

namespace VpnClient

/-- A value, how often it has been written, and whether it will never be written again. -/
structure Source (α : Type) where
  value : α
  revision : Nat
  isClosed : Bool
  deriving DecidableEq, Repr

namespace Source

variable {α : Type}

/-- A source that has not been written since it was made. -/
def fresh (value : α) : Source α := ⟨value, 0, false⟩

/-- The source after a write. -/
def set (source : Source α) (value : α) : Source α :=
  { source with value := value, revision := source.revision + 1 }

/-- The source after a write that only counts if the value is new. -/
def update [BEq α] (source : Source α) (value : α) : Source α :=
  if source.value == value then source else source.set value

/-- The source at its end. -/
def close (source : Source α) : Source α :=
  { source with isClosed := true }

end Source

end VpnClient
