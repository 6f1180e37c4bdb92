import Mathlib.Data.List.Perm.Subperm
import VpnClient.Screen.Hub

/-!
# What is done with a hub

Observers come, fill up, read, close their queues and go away while things are sent.  Whatever is
done, to a single observer it is one of few things; the proofs about runs of a hub start from there.

## Main Definitions

* `HubAction`, `HubAnswer`, `Hub.perform` — what can be done with a hub, and what comes of it
* `HubEntry` — an action with what has come of it
* `Hub.Delivers` — which observer gets what is sent
* `Observer.Step` — what an entry does to an observer

## Main Statements

* `Hub.delivers` — what is sent goes to the first observer that takes it, and to no other one
* `Hub.perform_step` — what an action does to an observer is nothing or one of four things
* `Hub.perform_others` — a number becomes that of an observer by a subscription only
* `Hub.held_perform` — what is read by an action or held after it was held before or is sent by it
-/

namespace VpnClient

/-- What can be done with a hub: somebody subscribes, something is sent, and an observer reads,
closes its queue or goes away. -/
inductive HubAction (ε : Type) where
  | subscribe
  | send (item : ε)
  | receive (observer : Nat)
  | close (observer : Nat)
  | drop (observer : Nat)

/-- What comes of an action: the number of the new observer, the one that something was delivered to
if there is one, or what was read.  An observer that is not there cannot do anything. -/
inductive HubAnswer (ε : Type) where
  | subscribed (observer : Nat)
  | sent (observer : Option Nat)
  | received (received : Received ε)
  | done
  | refused

/-- What was done with a hub and what came of it. -/
structure HubEntry (ε : Type) where
  action : HubAction ε
  answer : HubAnswer ε

variable {ε : Type}

namespace HubEntry

/-- What an entry says was delivered to an observer. -/
def deliveredTo? (number : Nat) : HubEntry ε → Option ε
  | ⟨.send item, .sent (some observer)⟩ => if observer = number then some item else none
  | _ => none

/-- What an entry says an observer has read. -/
def readBy? (number : Nat) : HubEntry ε → Option ε
  | ⟨.receive observer, .received (.item item)⟩ => if observer = number then some item else none
  | _ => none

/-- What an entry says was sent, whether it was delivered or not. -/
def sent? : HubEntry ε → Option ε
  | ⟨.send item, _⟩ => some item
  | _ => none

/-- What an entry says was read by anyone. -/
def read? : HubEntry ε → Option ε
  | ⟨_, .received (.item item)⟩ => some item
  | _ => none

end HubEntry

namespace Hub

/-- Whether there is an observer of a number that has not gone away. -/
def isPresent (hub : Hub ε) (number : Nat) : Bool :=
  hub.observers[number]?.any fun observer => observer.presence != .gone

/-- What comes of an action, and the hub after it. -/
def perform (hub : Hub ε) : HubAction ε → HubAnswer ε × Hub ε
  | .subscribe => (.subscribed hub.subscribe.1, hub.subscribe.2)
  | .send item => (.sent (hub.send item).1, (hub.send item).2)
  | .receive number =>
    match hub.receive number with
    | some (received, hub) => (.received received, hub)
    | none => (.refused, hub)
  | .close number => if hub.isPresent number then (.done, hub.close number) else (.refused, hub)
  | .drop number => if hub.isPresent number then (.done, hub.drop number) else (.refused, hub)

/-! ## Sending -/

/-- What it means that an item is sent by a hub: the observer that gets it is the first one that
takes part and holds less than sixteen unread things, its queue is longer by the item and nothing
else changes; if there is no such observer, nothing changes at all. -/
structure Delivers (hub : Hub ε) (item : ε) : Prop where
  isSome_iff : (hub.send item).1.isSome = true ↔
    ∃ observer ∈ hub.observers, observer.presence = .listening ∧ observer.queue.length < 16
  first : ∀ number, (hub.send item).1 = some number →
    (∃ observer, hub.observers[number]? = some observer ∧
      observer.presence = .listening ∧ observer.queue.length < 16) ∧
    ∀ first < number, ∀ observer, hub.observers[first]? = some observer →
      ¬ (observer.presence = .listening ∧ observer.queue.length < 16)
  appended : ∀ number, (hub.send item).1 = some number →
    (hub.send item).2 = hub.change number fun o => { o with queue := o.queue ++ [item] }
  unchanged : (hub.send item).1 = none → (hub.send item).2 = hub

theorem accepts_iff (observer : Observer ε) :
    observer.accepts = true ↔ observer.presence = .listening ∧ observer.queue.length < 16 := by
  simp only [Observer.accepts, Bool.and_eq_true, beq_iff_eq, decide_eq_true_eq]
  exact Iff.rfl

/-- An item is delivered to the first observer that takes one more. -/
theorem deliver_eq (item : ε) (observers : List (Observer ε)) :
    deliver item observers =
      (observers.findIdx? Observer.accepts,
        match observers.findIdx? Observer.accepts with
        | some number => observers.modify number fun o => { o with queue := o.queue ++ [item] }
        | none => observers) := by
  induction observers with
  | nil => rfl
  | cons observer rest ih =>
      simp only [deliver, List.findIdx?_cons]
      cases haccepts : observer.accepts with
      | true => simp
      | false =>
          simp only [ih, Bool.false_eq_true, if_false]
          cases rest.findIdx? Observer.accepts <;> rfl

theorem send_eq (hub : Hub ε) (item : ε) :
    hub.send item =
      (hub.observers.findIdx? Observer.accepts,
        match hub.observers.findIdx? Observer.accepts with
        | some number => hub.change number fun o => { o with queue := o.queue ++ [item] }
        | none => hub) := by
  simp only [send, deliver_eq]
  cases hub.observers.findIdx? Observer.accepts <;> rfl

/-- Sending is the same in every hub, however it has come about. -/
theorem delivers (hub : Hub ε) (item : ε) : hub.Delivers item where
  isSome_iff := by
    rw [send_eq, List.findIdx?_isSome, List.any_eq_true]
    simp only [accepts_iff]
  first := by
    intro number hnumber
    rw [send_eq] at hnumber
    obtain ⟨hlt, haccepts, hearlier⟩ := List.findIdx?_eq_some_iff_getElem.mp hnumber
    refine ⟨⟨_, List.getElem?_eq_getElem hlt, (accepts_iff _).mp haccepts⟩, ?_⟩
    intro first hfirst observer hobserver htakes
    obtain ⟨hin, rfl⟩ := List.getElem?_eq_some_iff.mp hobserver
    exact hearlier first hfirst ((accepts_iff _).mpr htakes)
  appended := by
    intro number hnumber
    rw [send_eq] at hnumber ⊢
    simp only at hnumber
    simp only [hnumber]
  unchanged := by
    intro hnone
    rw [send_eq] at hnone ⊢
    simp only at hnone
    simp only [hnone]

end Hub

/-! ## What an entry does to an observer -/

/-- An entry has nothing to do with an observer. -/
structure HubEntry.Spares (entry : HubEntry ε) (number : Nat) : Prop where
  subscribe : entry ≠ ⟨.subscribe, .subscribed number⟩
  close : entry ≠ ⟨.close number, .done⟩
  drop : entry ≠ ⟨.drop number, .done⟩
  delivered : entry.deliveredTo? number = none
  read : entry.readBy? number = none

/-- Who an action is about, if it is about an observer. -/
def HubAction.target? : HubAction ε → Option Nat
  | .receive observer | .close observer | .drop observer => some observer
  | _ => none

namespace HubEntry.Spares

variable {number target : Nat}

theorem of_refused (action : HubAction ε) : HubEntry.Spares ⟨action, .refused⟩ number where
  subscribe := nofun
  close := nofun
  drop := nofun
  delivered := by cases action <;> rfl
  read := by cases action <;> rfl

/-- An observer that comes has nothing to do with the ones of other numbers. -/
theorem of_newcomer {newcomer : Nat} (hne : newcomer ≠ number) :
    (⟨.subscribe, .subscribed newcomer⟩ : HubEntry ε).Spares number where
  subscribe := by
    rintro ⟨⟩
    exact hne rfl
  close := nofun
  drop := nofun
  delivered := rfl
  read := rfl

/-- What an observer does has nothing to do with any other one. -/
theorem of_target {entry : HubEntry ε} (htarget : entry.action.target? = some target)
    (hne : target ≠ number) : entry.Spares number := by
  obtain ⟨action, answer⟩ := entry
  have hself : action.target? ≠ some number := by
    rw [htarget]
    exact fun heq => hne (Option.some.inj heq)
  refine ⟨?_, ?_, ?_, ?_, ?_⟩
  · rintro ⟨⟩
    cases htarget
  · rintro ⟨⟩
    exact hself rfl
  · rintro ⟨⟩
    exact hself rfl
  · cases action with
    | subscribe | send => cases htarget
    | receive | close | drop => rfl
  · cases action with
    | receive observer =>
        obtain rfl : observer = target := Option.some.inj htarget
        simp only [readBy?]
        split
        · next heq =>
            obtain rfl := HubAction.receive.inj (HubEntry.mk.inj heq).1
            exact if_neg hne
        · rfl
    | subscribe | send | close | drop => rfl

end HubEntry.Spares

/-- What an entry does to the observer of a number: nothing, or one of four things.  An observer
that reads in vain has nothing to read. -/
inductive Observer.Step (number : Nat) : HubEntry ε → Observer ε → Observer ε → Prop
  | spared {entry : HubEntry ε} {observer : Observer ε} (hspares : entry.Spares number)
      (hread : entry.action = .receive number → observer.presence = .gone ∨ observer.queue = []) :
      Step number entry observer observer
  | delivered (item : ε) (queue : List ε) (hlength : queue.length < 16) :
      Step number ⟨.send item, .sent (some number)⟩ ⟨queue, .listening⟩
        ⟨queue ++ [item], .listening⟩
  | read (item : ε) (rest : List ε) (presence : Presence) (hpresent : presence ≠ .gone) :
      Step number ⟨.receive number, .received (.item item)⟩ ⟨item :: rest, presence⟩
        ⟨rest, presence⟩
  | closed (queue : List ε) (presence : Presence) (hpresent : presence ≠ .gone) :
      Step number ⟨.close number, .done⟩ ⟨queue, presence⟩ ⟨queue, .closed⟩
  | dropped (queue : List ε) (presence : Presence) (hpresent : presence ≠ .gone) :
      Step number ⟨.drop number, .done⟩ ⟨queue, presence⟩ ⟨[], .gone⟩

/-- Whether an action is that an observer reads. -/
def HubAction.reads (number : Nat) : HubAction ε → Bool
  | .receive observer => observer == number
  | _ => false

theorem HubAction.reads_of_ne {number : Nat} {action : HubAction ε}
    (h : action ≠ .receive number) : action.reads number = false := by
  cases action with
  | receive observer =>
      refine beq_false_of_ne ?_
      rintro rfl
      exact h rfl
  | subscribe | send | close | drop => rfl

namespace Observer.Step

variable {number : Nat} {entry : HubEntry ε} {observer observer' : Observer ε}

/-- An observer that has closed its queue or gone away gets nothing and stays so. -/
theorem of_ended (hstep : Observer.Step number entry observer observer')
    (h : observer.presence ≠ .listening) :
    observer'.presence ≠ .listening ∧ entry.deliveredTo? number = none := by
  cases hstep with
  | spared hspares _ => exact ⟨h, hspares.delivered⟩
  | delivered => exact absurd rfl h
  | read => exact ⟨h, rfl⟩
  | closed | dropped => exact ⟨nofun, rfl⟩

/-- An observer that has gone away reads nothing and stays away. -/
theorem of_gone (hstep : Observer.Step number entry observer observer')
    (h : observer.presence = .gone) :
    observer'.presence = .gone ∧ entry.readBy? number = none := by
  cases hstep with
  | spared hspares _ => exact ⟨h, hspares.read⟩
  | delivered => cases h
  | read _ _ _ hpresent | closed _ _ hpresent | dropped _ _ hpresent => exact absurd h hpresent

/-- An observer that has closed its queue reads on from it, unless it goes away. -/
theorem of_closed (hstep : Observer.Step number entry observer observer')
    (h : observer.presence = .closed) (hkept : entry.action ≠ .drop number) (times : Nat) :
    observer'.presence = .closed ∧
      (entry.readBy? number).toList ++ observer'.queue.take times =
        observer.queue.take (times + (entry.action.reads number).toNat) := by
  cases hstep with
  | spared hspares hread =>
      refine ⟨h, ?_⟩
      rw [hspares.read]
      by_cases heq : entry.action = .receive number
      · have hempty : observer.queue = [] :=
          (hread heq).resolve_left fun hgone => by cases h.symm.trans hgone
        simp [hempty]
      · simp [HubAction.reads_of_ne heq]
  | delivered => cases h
  | read item rest _ _ =>
      refine ⟨h, ?_⟩
      simp [HubEntry.readBy?, HubAction.reads]
  | closed queue _ _ => exact ⟨rfl, rfl⟩
  | dropped => exact absurd rfl hkept

end Observer.Step

namespace Hub

/-- What all observers together have not read yet. -/
def held (hub : Hub ε) : List ε :=
  hub.observers.flatMap Observer.queue

variable {hub : Hub ε} {number : Nat} {observer : Observer ε}

theorem isPresent_eq (h : hub.observers[number]? = some observer) :
    hub.isPresent number = (observer.presence != .gone) := by
  simp only [isPresent, h, Option.any_some]

/-- Changing the observer of a number leaves those of other numbers as they are. -/
theorem getElem?_change (h : hub.observers[number]? = some observer) (target : Nat)
    (f : Observer ε → Observer ε) :
    (hub.change target f).observers[number]? =
      some (if target = number then f observer else observer) := by
  simp only [change, List.getElem?_modify, h]
  split <;> rfl

theorem getElem?_change_self (h : hub.observers[number]? = some observer)
    (f : Observer ε → Observer ε) :
    (hub.change number f).observers[number]? = some (f observer) := by
  rw [getElem?_change h, if_pos rfl]

theorem length_change (hub : Hub ε) (target : Nat) (f : Observer ε → Observer ε) :
    (hub.change target f).observers.length = hub.observers.length := by
  simp only [change, List.length_modify]

theorem length_send (hub : Hub ε) (item : ε) :
    (hub.send item).2.observers.length = hub.observers.length := by
  rw [send_eq]
  cases hub.observers.findIdx? Observer.accepts with
  | none => rfl
  | some number => exact length_change hub _ _

/-- What is sent is given to an observer or it is not. -/
theorem send_step (h : hub.observers[number]? = some observer) (item : ε) :
    ∃ observer', (hub.send item).2.observers[number]? = some observer' ∧
      Observer.Step number ⟨.send item, .sent (hub.send item).1⟩ observer observer' := by
  have hdelivers := delivers hub item
  cases hsend : (hub.send item).1 with
  | none =>
      rw [hdelivers.unchanged hsend]
      exact ⟨observer, h, .spared ⟨nofun, nofun, nofun, rfl, rfl⟩ nofun⟩
  | some target =>
      rw [hdelivers.appended target hsend, getElem?_change h]
      refine ⟨_, rfl, ?_⟩
      by_cases htarget : target = number
      · subst htarget
        obtain ⟨⟨found, hfound, hlistens, hlength⟩, -⟩ := hdelivers.first target hsend
        obtain rfl : observer = found := Option.some.inj (h.symm.trans hfound)
        obtain ⟨queue, presence⟩ := observer
        simp only at hlistens hlength
        subst hlistens
        rw [if_pos rfl]
        exact .delivered item queue hlength
      · rw [if_neg htarget]
        exact .spared ⟨nofun, nofun, nofun, by simp [HubEntry.deliveredTo?, htarget], rfl⟩ nofun

/-- An observer reads what it holds, the oldest first, even if it has closed its queue. -/
theorem perform_receive (h : hub.observers[number]? = some observer) :
    hub.perform (.receive number) =
      match observer.presence, observer.queue with
      | .gone, _ => (.received .gone, hub)
      | _, item :: rest =>
          (.received (.item item), hub.change number fun o => { o with queue := rest })
      | .listening, [] => (.received .empty, hub)
      | .closed, [] => (.received .disconnected, hub) := by
  obtain ⟨queue, presence⟩ := observer
  cases presence <;> cases queue <;> simp only [perform, receive, h, Option.map_some]

/-- What an observer does makes it another one at most. -/
theorem perform_about (hub : Hub ε) {action : HubAction ε} {target : Nat}
    (htarget : action.target? = some target) :
    (hub.perform action).2 = hub ∨ ∃ f, (hub.perform action).2 = hub.change target f := by
  cases action with
  | subscribe | send => cases htarget
  | close observer | drop observer =>
      obtain rfl : observer = target := Option.some.inj htarget
      simp only [perform]
      split
      · exact Or.inr ⟨_, rfl⟩
      · exact Or.inl rfl
  | receive observer =>
      obtain rfl : observer = target := Option.some.inj htarget
      cases hfound : hub.observers[observer]? with
      | none =>
          left
          simp only [perform, receive, hfound, Option.map_none]
      | some found =>
          rw [perform_receive hfound]
          split
          · exact Or.inl rfl
          · exact Or.inr ⟨_, rfl⟩
          · exact Or.inl rfl
          · exact Or.inl rfl

theorem length_perform (hub : Hub ε) {action : HubAction ε} {target : Nat}
    (htarget : action.target? = some target) :
    (hub.perform action).2.observers.length = hub.observers.length := by
  rcases perform_about hub htarget with hsame | ⟨f, hchange⟩
  · rw [hsame]
  · rw [hchange, length_change]

/-- What an observer does leaves the other ones alone. -/
theorem perform_frame (hub : Hub ε) {action : HubAction ε} {target : Nat}
    (htarget : action.target? = some target) (hne : target ≠ number) :
    (hub.perform action).2.observers[number]? = hub.observers[number]? := by
  rcases perform_about hub htarget with hsame | ⟨f, hchange⟩
  · rw [hsame]
  · rw [hchange]
    exact List.getElem?_modify_ne _ _ hne

/-- What an observer does, it does to itself. -/
theorem own_step (h : hub.observers[number]? = some observer) {action : HubAction ε}
    (htarget : action.target? = some number) :
    ∃ observer', (hub.perform action).2.observers[number]? = some observer' ∧
      Observer.Step number ⟨action, (hub.perform action).1⟩ observer observer' := by
  obtain ⟨queue, presence⟩ := observer
  cases action with
  | subscribe | send => cases htarget
  | receive observer =>
      obtain rfl : observer = number := Option.some.inj htarget
      rw [perform_receive h]
      cases presence with
      | gone => exact ⟨_, h, .spared ⟨nofun, nofun, nofun, rfl, rfl⟩ fun _ => Or.inl rfl⟩
      | listening | closed =>
          cases queue with
          | nil => exact ⟨_, h, .spared ⟨nofun, nofun, nofun, rfl, rfl⟩ fun _ => Or.inr rfl⟩
          | cons item rest =>
              exact ⟨_, getElem?_change_self h _, .read item rest _ nofun⟩
  | close observer =>
      obtain rfl : observer = number := Option.some.inj htarget
      simp only [perform, isPresent_eq h]
      split
      · next hpresent =>
          exact ⟨_, getElem?_change_self h _, .closed queue presence (bne_iff_ne.mp hpresent)⟩
      · exact ⟨_, h, .spared (.of_refused _) nofun⟩
  | drop observer =>
      obtain rfl : observer = number := Option.some.inj htarget
      simp only [perform, isPresent_eq h]
      split
      · next hpresent =>
          exact ⟨_, getElem?_change_self h _, .dropped queue presence (bne_iff_ne.mp hpresent)⟩
      · exact ⟨_, h, .spared (.of_refused _) nofun⟩

/-- Every action does to an observer nothing or one of four things. -/
theorem perform_step (h : hub.observers[number]? = some observer) (action : HubAction ε) :
    ∃ observer', (hub.perform action).2.observers[number]? = some observer' ∧
      Observer.Step number ⟨action, (hub.perform action).1⟩ observer observer' := by
  cases htarget : action.target? with
  | some target =>
      by_cases hown : target = number
      · exact own_step h (htarget.trans (congrArg some hown))
      · have hframe := perform_frame hub htarget hown
        refine ⟨observer, hframe.trans h, .spared (.of_target htarget hown) ?_⟩
        rintro rfl
        exact absurd (Option.some.inj htarget).symm hown
  | none =>
      cases action with
      | receive | close | drop => cases htarget
      | send item => exact send_step h item
      | subscribe =>
          have hlt : number < hub.observers.length := (List.getElem?_eq_some_iff.mp h).1
          refine ⟨observer, ?_, .spared (.of_newcomer (Nat.ne_of_gt hlt)) nofun⟩
          simp only [perform, subscribe]
          rw [List.getElem?_append_left hlt]
          exact h

/-- A number that is not that of an observer stays so, unless somebody subscribes. -/
theorem perform_others (h : hub.observers.length ≤ number) (action : HubAction ε) :
    HubEntry.Spares ⟨action, (hub.perform action).1⟩ number ∧
        (hub.perform action).2.observers[number]? = none ∨
      (⟨action, (hub.perform action).1⟩ : HubEntry ε) = ⟨.subscribe, .subscribed number⟩ ∧
        (hub.perform action).2.observers[number]? = some ⟨[], .listening⟩ := by
  have hnone : hub.observers[number]? = none := List.getElem?_eq_none h
  have habsent : hub.isPresent number = false := by rw [isPresent, hnone]; rfl
  cases htarget : action.target? with
  | some target =>
      have hlength := length_perform hub htarget
      refine Or.inl ⟨?_, List.getElem?_eq_none (hlength ▸ h)⟩
      by_cases hown : target = number
      · have hrefused : (hub.perform action).1 = .refused := by
          subst hown
          cases action with
          | subscribe | send => cases htarget
          | receive observer | close observer | drop observer =>
              obtain rfl : observer = target := Option.some.inj htarget
              simp [perform, receive, hnone, habsent]
        rw [hrefused]
        exact .of_refused action
      · exact .of_target htarget hown
  | none =>
      cases action with
      | receive | close | drop => cases htarget
      | send item =>
          refine Or.inl ⟨⟨nofun, nofun, nofun, ?_, rfl⟩, List.getElem?_eq_none ?_⟩
          · simp only [perform]
            cases hsend : (hub.send item).1 with
            | none => rfl
            | some target =>
                obtain ⟨⟨found, hfound, -⟩, -⟩ := (delivers hub item).first target hsend
                have hlt := (List.getElem?_eq_some_iff.mp hfound).1
                exact if_neg (by omega)
          · simpa only [perform, length_send] using h
      | subscribe =>
          simp only [perform, subscribe]
          rcases Nat.eq_or_lt_of_le h with rfl | hlt
          · exact Or.inr ⟨rfl, by simp⟩
          · refine Or.inl ⟨.of_newcomer (Nat.ne_of_lt hlt), List.getElem?_eq_none ?_⟩
            rw [List.length_append, List.length_singleton]
            exact hlt

theorem exists_of_isPresent (h : hub.isPresent number = true) :
    ∃ observer, hub.observers[number]? = some observer := by
  obtain ⟨observer, hobserver, -⟩ := (Option.any_eq_true _ _).mp h
  exact ⟨observer, hobserver⟩

/-- What is held is what comes before the queue of an observer, the queue, and what comes after
it. -/
theorem held_change (h : hub.observers[number]? = some observer) :
    ∃ before after, hub.held = before ++ observer.queue ++ after ∧
      ∀ f, (hub.change number f).held = before ++ (f observer).queue ++ after := by
  obtain ⟨hlt, rfl⟩ := List.getElem?_eq_some_iff.mp h
  refine ⟨(hub.observers.take number).flatMap Observer.queue,
    (hub.observers.drop (number + 1)).flatMap Observer.queue, ?_, fun f => ?_⟩
  · conv_lhs => rw [held, ← List.take_append_drop number hub.observers,
      List.drop_eq_getElem_cons hlt]
    simp only [List.flatMap_append, List.flatMap_cons, List.append_assoc]
  · rw [held, change, List.modify_eq_take_cons_drop hlt]
    simp only [List.flatMap_append, List.flatMap_cons, List.append_assoc]

/-- What has been read by an action or is held after it was held before it or sent by it. -/
theorem held_perform (hub : Hub ε) (action : HubAction ε) :
    ((HubEntry.read? ⟨action, (hub.perform action).1⟩).toList ++
        (hub.perform action).2.held).Subperm
      (hub.held ++ (HubEntry.sent? ⟨action, (hub.perform action).1⟩).toList) := by
  -- an action that is refused or in vain
  have hstays : ∀ sent : List ε, hub.held.Subperm (hub.held ++ sent) :=
    fun sent => (List.sublist_append_left _ _).subperm
  cases action with
  | subscribe => simpa [perform, subscribe, held, HubEntry.read?, HubEntry.sent?] using hstays []
  | send item =>
      simp only [perform, HubEntry.read?, HubEntry.sent?, Option.toList_none, Option.toList_some,
        List.nil_append]
      cases hsend : (hub.send item).1 with
      | none =>
          rw [(delivers hub item).unchanged hsend]
          exact hstays _
      | some number =>
          obtain ⟨⟨observer, hobserver, -⟩, -⟩ := (delivers hub item).first number hsend
          obtain ⟨before, after, hheld, hchanged⟩ := held_change hobserver
          rw [(delivers hub item).appended number hsend, hchanged, hheld]
          simp only [List.append_assoc]
          exact ((List.perm_append_comm.append_left _).append_left _).subperm
  | receive number =>
      cases hobserver : hub.observers[number]? with
      | none => simpa [perform, receive, hobserver, HubEntry.read?, HubEntry.sent?] using hstays []
      | some observer =>
          obtain ⟨queue, presence⟩ := observer
          rw [perform_receive hobserver]
          cases presence with
          | gone => exact hstays []
          | listening | closed =>
              cases queue with
              | nil => exact hstays []
              | cons item rest =>
                  obtain ⟨before, after, hheld, hchanged⟩ := held_change hobserver
                  simp only [HubEntry.read?, HubEntry.sent?, Option.toList_none, Option.toList_some,
                    List.append_nil, List.singleton_append]
                  rw [hchanged, hheld]
                  simp only [List.append_assoc, List.cons_append]
                  exact List.perm_middle.symm.subperm
  | close number =>
      simp only [perform]
      split
      · obtain ⟨observer, hobserver⟩ := exists_of_isPresent ‹_›
        obtain ⟨before, after, hheld, hchanged⟩ := held_change hobserver
        simp only [HubEntry.read?, HubEntry.sent?, Option.toList_none, List.append_nil,
          List.nil_append, close, hchanged, hheld]
        exact List.Subperm.refl _
      · exact hstays []
  | drop number =>
      simp only [perform]
      split
      · obtain ⟨observer, hobserver⟩ := exists_of_isPresent ‹_›
        obtain ⟨before, after, hheld, hchanged⟩ := held_change hobserver
        simp only [HubEntry.read?, HubEntry.sent?, Option.toList_none, List.append_nil,
          List.nil_append, drop, hchanged, hheld, List.append_assoc]
        exact ((List.sublist_append_right _ _).append_left _).subperm
      · exact hstays []

end Hub

end VpnClient
