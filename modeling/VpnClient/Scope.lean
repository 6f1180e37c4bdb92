/-!
# Task scopes

A scope owns the tasks that are launched in it. When it is cancelled, they stop and no further ones
are launched.

## Main Definitions

* `TaskScope` — the tasks of a scope
* `TaskScope.launch`, `TaskScope.cancel`, `TaskScope.runUntil` — what happens to it
* `TaskScope.count` — the number of tasks it holds

## Design Notes

A task that has finished is still held until the next launch, so that the count of a scope is the
number of tasks that have not been cleared away, not of those that run.
-/

namespace VpnClient

/-- A task: its name, and when it finishes. -/
structure Task where
  id : Int
  due : Nat
  deriving DecidableEq, Repr

/-- The tasks of a scope: those that run, and the number of those that have finished but are still
held. -/
structure TaskScope where
  running : List Task
  finished : Nat
  isCancelled : Bool
  deriving DecidableEq, Repr

namespace TaskScope

/-- A scope without tasks. -/
def empty : TaskScope := ⟨[], 0, false⟩

/-- The number of tasks that are held. -/
def count (scope : TaskScope) : Nat :=
  scope.running.length + scope.finished

/-- A scope with one more task, unless it has been cancelled; and whether the task was taken.
Finished tasks are cleared away first. -/
def launch (scope : TaskScope) (task : Task) : Bool × TaskScope :=
  if scope.isCancelled then (false, scope)
  else (true, { scope with running := scope.running ++ [task], finished := 0 })

/-- A scope whose tasks have been stopped. -/
def cancel (_scope : TaskScope) : TaskScope := ⟨[], 0, true⟩

/-- The names of the tasks that finish by a time, and the scope in which they have. -/
def runUntil (scope : TaskScope) (now : Nat) : List Int × TaskScope :=
  let (done, running) := scope.running.partition fun task => task.due ≤ now
  (done.map Task.id,
    { scope with running := running, finished := scope.finished + done.length })

end TaskScope

end VpnClient
