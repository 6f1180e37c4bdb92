/-!
# Delivery

Things that happen once are delivered to one of several observers. Each observer has a queue; what
is sent goes to the first one that still takes something.

## Main Definitions

* `Observer` — an observer and what it has not read yet
* `Hub` — the observers, the first one first
* `Hub.send` — the observer that something is delivered to, if any
* `Hub.receive` — what an observer reads next
-/

namespace VpnClient

/-- Whether an observer takes part: it may have closed its queue, which it can still read, or have
gone away. -/
inductive Presence where
  | listening
  | closed
  | gone
  deriving DecidableEq, Repr

/-- An observer: what it has not read yet, and whether it takes part. -/
structure Observer (ε : Type) where
  queue : List ε
  presence : Presence

/-- An observer holds this many unread things at most. -/
def observerCapacity : Nat := 16

/-- Whether an observer takes one more thing. -/
def Observer.accepts {ε : Type} (observer : Observer ε) : Bool :=
  observer.presence == .listening && observer.queue.length < observerCapacity

/-- The observers, in the order of their subscription. An observer is known by its number. -/
structure Hub (ε : Type) where
  observers : List (Observer ε)

/-- What an observer reads. -/
inductive Received (ε : Type) where
  | item (item : ε)
  | empty
  | disconnected
  | gone

namespace Hub

variable {ε : Type}

/-- A hub without observers. -/
def empty : Hub ε := ⟨[]⟩

/-- A hub with one more observer, and its number. -/
def subscribe (hub : Hub ε) : Nat × Hub ε :=
  (hub.observers.length, ⟨hub.observers ++ [⟨[], .listening⟩]⟩)

/-- Observers of which the first one that takes an item has got it, and its number among them. -/
def deliver (item : ε) : List (Observer ε) → Option Nat × List (Observer ε)
  | [] => (none, [])
  | observer :: rest =>
    if observer.accepts then (some 0, { observer with queue := observer.queue ++ [item] } :: rest)
    else
      let (number, rest) := deliver item rest
      (number.map (· + 1), observer :: rest)

/-- The hub after an item has been sent, and the number of the observer that has got it. -/
def send (hub : Hub ε) (item : ε) : Option Nat × Hub ε :=
  let (number, observers) := deliver item hub.observers
  (number, ⟨observers⟩)

/-- The hub after an item has been sent several times, and how often it was delivered. Once nobody
takes it, nobody will. -/
def sendMany (hub : Hub ε) (item : ε) : Nat → Nat × Hub ε
  | 0 => (0, hub)
  | times + 1 =>
    match hub.send item with
    | (none, hub) => (0, hub)
    | (some _, hub) =>
      let (delivered, hub) := sendMany hub item times
      (delivered + 1, hub)

/-- The hub with an observer changed. -/
def change (hub : Hub ε) (number : Nat) (f : Observer ε → Observer ε) : Hub ε :=
  ⟨hub.observers.modify number f⟩

/-- What an observer reads next, and the hub in which it has. There is no such observer: `none`. -/
def receive (hub : Hub ε) (number : Nat) : Option (Received ε × Hub ε) :=
  hub.observers[number]?.map fun observer =>
    match observer.presence, observer.queue with
    | .gone, _ => (.gone, hub)
    | _, item :: rest => (.item item, hub.change number fun o => { o with queue := rest })
    | .listening, [] => (.empty, hub)
    | .closed, [] => (.disconnected, hub)

/-- The hub after an observer has closed its queue. -/
def close (hub : Hub ε) (number : Nat) : Hub ε :=
  hub.change number fun o => { o with presence := .closed }

/-- The hub after an observer has gone away. What it had not read is lost. -/
def drop (hub : Hub ε) (number : Nat) : Hub ε :=
  hub.change number fun _ => ⟨[], .gone⟩

/-- The hub after all observers have read all they had. -/
def drained (hub : Hub ε) : Hub ε :=
  ⟨hub.observers.map fun o => { o with queue := [] }⟩

end Hub

end VpnClient
