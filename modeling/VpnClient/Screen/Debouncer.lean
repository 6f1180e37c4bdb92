/-!
# Debouncing

A value is held back until no newer one has come for a while.

## Main Definitions

* `Debouncer` — the window, and the value that is held back with its deadline
* `Debouncer.push` — a newer value
* `Debouncer.take?` — the value whose deadline has come
* `Debouncer.wait` — waiting for the value with a limit
-/

namespace VpnClient

/-- How long a value is held back, and the value that is, with the time at which it is not any
more. -/
structure Debouncer (α : Type) where
  window : Nat
  pending : Option (Nat × α)

namespace Debouncer

variable {α : Type}

/-- A debouncer that holds nothing back. -/
def idle (window : Nat) : Debouncer α := ⟨window, none⟩

/-- A newer value takes the place of the pending one, and its time starts anew. -/
def push (d : Debouncer α) (now : Nat) (value : α) : Debouncer α :=
  { d with pending := some (now + d.window, value) }

/-- When the pending value is due. -/
def deadline? (d : Debouncer α) : Option Nat :=
  d.pending.map (·.1)

/-- The debouncer without its pending value. -/
def cleared (d : Debouncer α) : Debouncer α :=
  { d with pending := none }

/-- The pending value, if it is due, and the debouncer without it. -/
def take? (d : Debouncer α) (now : Nat) : Option α × Debouncer α :=
  match d.pending with
  | some (deadline, value) => if deadline ≤ now then (some value, d.cleared) else (none, d)
  | none => (none, d)

/-- How a wait has ended: with a value or not, when, and what the debouncer is like then. -/
structure Wait (α : Type) where
  value : Option α
  time : Nat
  debouncer : Debouncer α

/-- A wait of at most `limit` from `start` on. A value that is due just at the end is waited for;
a wait without a value changes nothing. -/
def wait (d : Debouncer α) (start limit : Nat) : Wait α :=
  match d.pending with
  | some (deadline, value) =>
    if deadline ≤ start + limit then ⟨some value, max start deadline, d.cleared⟩
    else ⟨none, start + limit, d⟩
  | none => ⟨none, start + limit, d⟩

end Debouncer

end VpnClient
