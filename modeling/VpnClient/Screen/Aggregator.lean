import VpnClient.Clock
import VpnClient.Screen.Debouncer
import VpnClient.Screen.Sources

/-!
# The aggregation of sources

Every write to a source calls for a new state of the screen, which is published when nothing has
been written for a while.

## Main Definitions

* `Aggregator` — the state that is held back, and the revisions it was made of
* `Aggregator.react` — what is published, and what is held back then
-/

namespace VpnClient

/-- The state of the screen that is held back, and the revisions of the sources at the last look,
if there was one. -/
structure Aggregator where
  debouncer : Debouncer UiState
  seen : Option (List Nat)

namespace Aggregator

/-- An aggregator that has not looked at its sources yet. -/
def launch (window : Nat) : Aggregator := ⟨.idle window, none⟩

/-- The aggregator after a look at the sources. Only if one has been written since the last look,
there is a new state to hold back. -/
def look (a : Aggregator) (clock : Clock) (isPlayBuild : Bool) (sources : ScreenSources) :
    Aggregator :=
  if a.seen = some sources.revisions then a
  else
    ⟨a.debouncer.push clock.elapsed (sources.inputs.uiState isPlayBuild clock.now),
      some sources.revisions⟩

/-- The state that is due, if any, and the aggregator without it. -/
def publish (a : Aggregator) (clock : Clock) : Option UiState × Aggregator :=
  let (state, debouncer) := a.debouncer.take? clock.elapsed
  (state, { a with debouncer := debouncer })

/-- The states that are published when time has passed or a source was written. What is due goes
first; what is new then is only due at once if there is no window. -/
def react (a : Aggregator) (clock : Clock) (isPlayBuild : Bool) (sources : ScreenSources) :
    List UiState × Aggregator :=
  let (first, a) := a.publish clock
  let (second, a) := (a.look clock isPlayBuild sources).publish clock
  (first.toList ++ second.toList, a)

/-- When the aggregator publishes by itself. -/
def nextDue? (a : Aggregator) : Option Nat :=
  a.debouncer.deadline?

end Aggregator

end VpnClient
