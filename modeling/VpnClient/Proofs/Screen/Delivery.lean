import VpnClient.Proofs.Screen.Observers

/-!
# Nothing that is delivered is lost, doubled or replayed

The log of a run keeps what was done with a hub and what came of it.  From it follows what each
observer has got and read, and with the queues it comes out even at every point.

## Main Definitions

* `Hub.run`, `Hub.log` — a run of a hub and its log
* `HubLog.delivered`, `HubLog.received` — what an observer has got and what it has read
* `Hub.Accounts` — the log of a hub and its observers agree
* `Hub.KeepsSpans` — an observer gets things between its subscription and its end only

## Main Statements

* `Hub.sendMany_eq` — sending an item several times is a run of sendings
* `Hub.Accounts.perform` — the log and the observers still agree after an action
* `Hub.Accounts.keepsSpans` — nobody gets anything from before its subscription or after its end
* `Hub.items_conserved` — all of this at every point of every run
-/

namespace VpnClient

/-- What was done with a hub and what came of it, the oldest entry first. -/
abbrev HubLog (ε : Type) := List (HubEntry ε)

variable {ε : Type}

namespace HubLog

/-- What was delivered to an observer, in the order in which it was sent. -/
def delivered (log : HubLog ε) (number : Nat) : List ε :=
  log.filterMap (HubEntry.deliveredTo? number)

/-- What an observer has read. -/
def received (log : HubLog ε) (number : Nat) : List ε :=
  log.filterMap (HubEntry.readBy? number)

/-- Everything that was sent. -/
def allSent (log : HubLog ε) : List ε :=
  log.filterMap HubEntry.sent?

/-- Everything that was read, by whatever observer. -/
def allReceived (log : HubLog ε) : List ε :=
  log.filterMap HubEntry.read?

/-- An observer has subscribed. -/
def Subscribed (log : HubLog ε) (number : Nat) : Prop :=
  ⟨.subscribe, .subscribed number⟩ ∈ log

/-- An observer has closed its queue. -/
def Closed (log : HubLog ε) (number : Nat) : Prop :=
  ⟨.close number, .done⟩ ∈ log

/-- An observer has gone away. -/
def Dropped (log : HubLog ε) (number : Nat) : Prop :=
  ⟨.drop number, .done⟩ ∈ log

end HubLog

/-- Whether an entry says that something was delivered, to whatever observer. -/
def HubEntry.isDelivery : HubEntry ε → Bool
  | ⟨_, .sent (some _)⟩ => true
  | _ => false

namespace Hub

/-- A hub after a run of actions. -/
def run (hub : Hub ε) : List (HubAction ε) → Hub ε
  | [] => hub
  | action :: actions => (hub.perform action).2.run actions

/-- The log of a run. -/
def log (hub : Hub ε) : List (HubAction ε) → HubLog ε
  | [] => []
  | action :: actions => ⟨action, (hub.perform action).1⟩ :: (hub.perform action).2.log actions

variable {hub : Hub ε} {item : ε}

/-- An item that nobody takes is not taken when it is sent again. -/
theorem run_send_of_none (h : (hub.send item).1 = none) (times : Nat) :
    hub.run (List.replicate times (.send item)) = hub ∧
      (hub.log (List.replicate times (.send item))).countP HubEntry.isDelivery = 0 := by
  have hsame := (hub.delivers item).unchanged h
  induction times with
  | zero => exact ⟨rfl, rfl⟩
  | succ times ih =>
      have hperform : hub.perform (.send item) = (.sent none, hub) := by
        rw [perform, h, hsame]
      simp only [List.replicate_succ, run, log, hperform, List.countP_cons]
      exact ⟨ih.1, by rw [ih.2]; rfl⟩

/-- Sending an item several times is a run of as many sendings, some of which are delivered. -/
theorem sendMany_eq (hub : Hub ε) (item : ε) (times : Nat) :
    hub.sendMany item times =
      ((hub.log (List.replicate times (.send item))).countP HubEntry.isDelivery,
        hub.run (List.replicate times (.send item))) := by
  induction times generalizing hub with
  | zero => rfl
  | succ times ih =>
      rw [sendMany]
      cases hsend : hub.send item with
      | mk observer after =>
          cases observer with
          | none =>
              obtain ⟨hrun, hcount⟩ := run_send_of_none (congrArg Prod.fst hsend) (times + 1)
              have hsame := (hub.delivers item).unchanged (congrArg Prod.fst hsend)
              rw [hrun, hcount, ← hsame, hsend]
          | some observer =>
              have hperform : hub.perform (.send item) = (.sent (some observer), after) := by
                rw [perform, hsend]
              simp only [List.replicate_succ, run, log, hperform, List.countP_cons, ih]
              rfl

end Hub

/-! ## The log and the observers agree -/

/-- What a log says of an observer is true of it: whether it takes part, and that what it has read,
followed by what it still holds, is what was delivered to it.  An observer that has gone away holds
nothing any more; what it had read was delivered to it, too. -/
structure HubLog.TellsOf (log : HubLog ε) (number : Nat) (observer : Observer ε) : Prop where
  subscribed : log.Subscribed number
  gone_iff : observer.presence = .gone ↔ log.Dropped number
  listening_iff : observer.presence = .listening ↔ ¬ log.Closed number ∧ ¬ log.Dropped number
  conserved : observer.presence ≠ .gone →
    log.received number ++ observer.queue = log.delivered number
  read_delivered : log.received number <+: log.delivered number
  length_le : observer.queue.length ≤ 16

/-- A log says nothing of a number that is not that of an observer yet. -/
structure HubLog.IsSilentOn (log : HubLog ε) (number : Nat) : Prop where
  not_subscribed : ¬ log.Subscribed number
  not_closed : ¬ log.Closed number
  not_dropped : ¬ log.Dropped number
  delivered_eq : log.delivered number = []
  received_eq : log.received number = []

namespace HubLog

variable {log : HubLog ε} {entry : HubEntry ε} {number : Nat} {observer observer' : Observer ε}

theorem subscribed_concat :
    HubLog.Subscribed (log ++ [entry]) number ↔
      log.Subscribed number ∨ entry = ⟨.subscribe, .subscribed number⟩ := by
  simp only [Subscribed, List.mem_append, List.mem_singleton, eq_comm]

theorem closed_concat :
    HubLog.Closed (log ++ [entry]) number ↔
      log.Closed number ∨ entry = ⟨.close number, .done⟩ := by
  simp only [Closed, List.mem_append, List.mem_singleton, eq_comm]

theorem dropped_concat :
    HubLog.Dropped (log ++ [entry]) number ↔
      log.Dropped number ∨ entry = ⟨.drop number, .done⟩ := by
  simp only [Dropped, List.mem_append, List.mem_singleton, eq_comm]

/-- What can be seen in a log with one more entry is what could be seen before and in the entry. -/
theorem filterMap_concat (log : HubLog ε) (entry : HubEntry ε) (view : HubEntry ε → Option ε) :
    (log ++ [entry]).filterMap view = log.filterMap view ++ (view entry).toList := by
  rw [List.filterMap_append]
  cases h : view entry <;> simp [h]

theorem delivered_concat :
    HubLog.delivered (log ++ [entry]) number =
      log.delivered number ++ (entry.deliveredTo? number).toList :=
  filterMap_concat log entry _

theorem received_concat :
    HubLog.received (log ++ [entry]) number =
      log.received number ++ (entry.readBy? number).toList :=
  filterMap_concat log entry _

theorem allSent_concat :
    HubLog.allSent (log ++ [entry]) = log.allSent ++ entry.sent?.toList :=
  filterMap_concat log entry _

theorem allReceived_concat :
    HubLog.allReceived (log ++ [entry]) = log.allReceived ++ entry.read?.toList :=
  filterMap_concat log entry _

/-- What a log says of an observer stays true. -/
theorem TellsOf.step (h : log.TellsOf number observer)
    (hstep : Observer.Step number entry observer observer') :
    HubLog.TellsOf (log ++ [entry]) number observer' := by
  have hsubscribed : HubLog.Subscribed (log ++ [entry]) number :=
    subscribed_concat.mpr (Or.inl h.subscribed)
  obtain ⟨-, hgone, hlistening, hconserved, hread, hlength⟩ := h
  cases hstep with
  | spared hspares _ =>
      refine ⟨hsubscribed, ?_, ?_, ?_, ?_, hlength⟩
      · simpa [dropped_concat, hspares.drop] using hgone
      · simpa [dropped_concat, closed_concat, hspares.drop, hspares.close] using hlistening
      · simpa [delivered_concat, received_concat, hspares.delivered, hspares.read] using hconserved
      · simpa [delivered_concat, received_concat, hspares.delivered, hspares.read] using hread
  | delivered item queue hshort =>
      have hdelivered : HubLog.delivered (log ++ [⟨.send item, .sent (some number)⟩]) number =
          log.delivered number ++ [item] := by
        rw [delivered_concat]
        simp [HubEntry.deliveredTo?]
      have hreceived : HubLog.received (log ++ [⟨.send item, .sent (some number)⟩]) number =
          log.received number := by
        rw [received_concat]
        exact List.append_nil _
      refine ⟨hsubscribed, ?_, ?_, ?_, ?_, ?_⟩
      · simpa [dropped_concat] using hgone
      · simpa [dropped_concat, closed_concat] using hlistening
      · intro _
        have hpresent : Presence.listening ≠ .gone := by decide
        rw [hdelivered, hreceived, ← List.append_assoc, hconserved hpresent]
      · rw [hdelivered, hreceived]
        exact hread.trans (List.prefix_append _ _)
      · rw [List.length_append, List.length_singleton]
        omega
  | read item rest presence hpresent =>
      have hdelivered :
          HubLog.delivered (log ++ [⟨.receive number, .received (.item item)⟩]) number =
            log.delivered number := by
        rw [delivered_concat]
        exact List.append_nil _
      have hreceived :
          HubLog.received (log ++ [⟨.receive number, .received (.item item)⟩]) number =
            log.received number ++ [item] := by
        rw [received_concat]
        simp [HubEntry.readBy?]
      have hout : log.received number ++ [item] ++ rest = log.delivered number := by
        rw [List.append_assoc, List.singleton_append]
        exact hconserved hpresent
      refine ⟨hsubscribed, ?_, ?_, ?_, ?_, ?_⟩
      · simpa [dropped_concat] using hgone
      · simpa [dropped_concat, closed_concat] using hlistening
      · intro _
        rw [hdelivered, hreceived, hout]
      · rw [hdelivered, hreceived, ← hout]
        exact List.prefix_append _ _
      · exact Nat.le_of_succ_le hlength
  | closed queue presence hpresent =>
      have hkept : ¬ log.Dropped number := fun hdropped => hpresent (hgone.mpr hdropped)
      refine ⟨hsubscribed, ?_, ?_, ?_, ?_, hlength⟩
      · simpa [dropped_concat] using hkept
      · simp [closed_concat]
      · intro _
        simpa [delivered_concat, received_concat, HubEntry.deliveredTo?, HubEntry.readBy?]
          using hconserved hpresent
      · simpa [delivered_concat, received_concat, HubEntry.deliveredTo?, HubEntry.readBy?]
          using hread
  | dropped queue presence hpresent =>
      refine ⟨hsubscribed, ?_, ?_, ?_, ?_, Nat.zero_le _⟩
      · simp [dropped_concat]
      · simp [dropped_concat]
      · exact fun hpresent => absurd rfl hpresent
      · simpa [delivered_concat, received_concat, HubEntry.deliveredTo?, HubEntry.readBy?]
          using hread

/-- A log that says nothing of a number may do so after an entry about something else. -/
theorem IsSilentOn.concat (h : log.IsSilentOn number) (hspares : entry.Spares number) :
    HubLog.IsSilentOn (log ++ [entry]) number where
  not_subscribed := by simp [subscribed_concat, hspares.subscribe, h.not_subscribed]
  not_closed := by simp [closed_concat, hspares.close, h.not_closed]
  not_dropped := by simp [dropped_concat, hspares.drop, h.not_dropped]
  delivered_eq := by simp [delivered_concat, hspares.delivered, h.delivered_eq]
  received_eq := by simp [received_concat, hspares.read, h.received_eq]

/-- An observer that has just subscribed has got nothing. -/
theorem IsSilentOn.subscribe (h : log.IsSilentOn number) :
    HubLog.TellsOf (log ++ [⟨.subscribe, .subscribed number⟩]) number ⟨[], .listening⟩ where
  subscribed := subscribed_concat.mpr (Or.inr rfl)
  gone_iff := by simp [dropped_concat, h.not_dropped]
  listening_iff := by simp [dropped_concat, closed_concat, h.not_closed, h.not_dropped]
  conserved _ := by
    simp [delivered_concat, received_concat, HubEntry.deliveredTo?, HubEntry.readBy?,
      h.delivered_eq, h.received_eq]
  read_delivered := by
    simp [delivered_concat, received_concat, HubEntry.deliveredTo?, HubEntry.readBy?,
      h.delivered_eq, h.received_eq]
  length_le := Nat.zero_le _

end HubLog

/-- The log of a hub agrees with all its observers and is silent on all other numbers, and nothing
was read or is held by anyone more often than it was sent. -/
structure Hub.Accounts (hub : Hub ε) (log : HubLog ε) : Prop where
  observers : ∀ number observer, hub.observers[number]? = some observer →
    log.TellsOf number observer
  others : ∀ number, hub.observers[number]? = none → log.IsSilentOn number
  once : (log.allReceived ++ hub.held).Subperm log.allSent

namespace Hub

variable {hub : Hub ε} {number : Nat} {observer : Observer ε}

/-- The log still agrees with the observers after an action. -/
theorem Accounts.perform {log : HubLog ε} (h : hub.Accounts log) (action : HubAction ε) :
    (hub.perform action).2.Accounts (log ++ [⟨action, (hub.perform action).1⟩]) where
  observers := by
    intro number observer hobserver
    cases hold : hub.observers[number]? with
    | some before =>
        obtain ⟨after, hafter, hstep⟩ := perform_step hold action
        obtain rfl : observer = after := Option.some.inj (hobserver.symm.trans hafter)
        exact (h.observers number before hold).step hstep
    | none =>
        rcases perform_others (List.getElem?_eq_none_iff.mp hold) action with
          ⟨-, hnone⟩ | ⟨hentry, hnew⟩
        · cases hobserver.symm.trans hnone
        · obtain rfl : observer = ⟨[], .listening⟩ := Option.some.inj (hobserver.symm.trans hnew)
          rw [hentry]
          exact (h.others number hold).subscribe
  others := by
    intro number hnone
    cases hold : hub.observers[number]? with
    | some before =>
        obtain ⟨after, hafter, -⟩ := perform_step hold action
        cases hafter.symm.trans hnone
    | none =>
        rcases perform_others (List.getElem?_eq_none_iff.mp hold) action with
          ⟨hspares, -⟩ | ⟨-, hnew⟩
        · exact (h.others number hold).concat hspares
        · cases hnew.symm.trans hnone
  once := by
    rw [HubLog.allReceived_concat, HubLog.allSent_concat, List.append_assoc]
    refine ((List.subperm_append_left log.allReceived).mpr (held_perform hub action)).trans ?_
    rw [← List.append_assoc]
    exact (List.subperm_append_right _).mpr h.once

/-- The log agrees with the observers all along a run. -/
theorem Accounts.run {log : HubLog ε} (h : hub.Accounts log) (actions : List (HubAction ε)) :
    (hub.run actions).Accounts (log ++ hub.log actions) := by
  induction actions generalizing hub log with
  | nil => simpa [run, Hub.log] using h
  | cons action actions ih =>
      have hlater := ih (h.perform action)
      rwa [List.append_assoc] at hlater

theorem accounts_empty : (empty : Hub ε).Accounts [] where
  observers := nofun
  others _ _ := ⟨nofun, nofun, nofun, rfl, rfl⟩
  once := List.Subperm.refl _

/-! ### Before an observer is there and after its end -/

/-- If no step leads out of some states of an observer, and nothing can be seen in the entries
there, then nothing can be seen from then on. -/
theorem filterMap_log_eq_nil {Ended : Observer ε → Prop} {view : HubEntry ε → Option ε}
    (hsteps : ∀ {entry observer observer'}, Observer.Step number entry observer observer' →
      Ended observer → Ended observer' ∧ view entry = none)
    (h : hub.observers[number]? = some observer) (hended : Ended observer)
    (future : List (HubAction ε)) : (hub.log future).filterMap view = [] := by
  induction future generalizing hub observer with
  | nil => rfl
  | cons action future ih =>
      obtain ⟨next, hnext, hstep⟩ := perform_step h action
      obtain ⟨hstill, hnothing⟩ := hsteps hstep hended
      exact (List.filterMap_cons_none hnothing).trans (ih hnext hstill)

/-- An observer that has closed its queue or gone away gets nothing any more. -/
theorem delivered_log_of_ended (h : hub.observers[number]? = some observer)
    (hended : observer.presence ≠ .listening) (future : List (HubAction ε)) :
    (hub.log future).delivered number = [] :=
  filterMap_log_eq_nil Observer.Step.of_ended h hended future

/-- An observer that has gone away reads nothing any more. -/
theorem received_log_of_gone (h : hub.observers[number]? = some observer)
    (hgone : observer.presence = .gone) (future : List (HubAction ε)) :
    (hub.log future).received number = [] :=
  filterMap_log_eq_nil Observer.Step.of_gone h hgone future

/-- An observer that has closed its queue reads what it still holds, as far as it reads at all. -/
theorem received_log_of_closed (h : hub.observers[number]? = some observer)
    (hclosed : observer.presence = .closed) (future : List (HubAction ε))
    (hkept : .drop number ∉ future) :
    (hub.log future).received number =
      observer.queue.take (future.countP (HubAction.reads number)) := by
  induction future generalizing hub observer with
  | nil => rfl
  | cons action future ih =>
      obtain ⟨next, hnext, hstep⟩ := perform_step h action
      have hfirst : action ≠ .drop number := fun heq => hkept (heq ▸ List.mem_cons_self)
      obtain ⟨hstill, hread⟩ :=
        hstep.of_closed hclosed hfirst (future.countP (HubAction.reads number))
      have hrest := ih hnext hstill fun hmem => hkept (List.mem_cons_of_mem _ hmem)
      have hlog : (hub.log (action :: future)).received number =
          (HubEntry.readBy? number ⟨action, (hub.perform action).1⟩).toList ++
            ((hub.perform action).2.log future).received number := by
        simp only [log, HubLog.received, List.filterMap_cons]
        cases HubEntry.readBy? number ⟨action, (hub.perform action).1⟩ <;> rfl
      rw [hlog, hrest, hread, List.countP_cons]
      congr 2
      cases action.reads number <;> rfl

end Hub

/-- Whatever comes after a log, nothing that was sent before an observer subscribes reaches it; an
observer that has closed its queue or gone away gets nothing more; and what it held when it closed
its queue it still reads. -/
structure Hub.KeepsSpans (hub : Hub ε) (log : HubLog ε) (future : List (HubAction ε)) : Prop where
  newcomer : ∀ number observer, ¬ log.Subscribed number →
    (hub.run future).observers[number]? = some observer → observer.presence ≠ .gone →
    (hub.log future).received number ++ observer.queue = (hub.log future).delivered number
  ended : ∀ number, log.Closed number ∨ log.Dropped number →
    (hub.log future).delivered number = []
  dropped : ∀ number, log.Dropped number → (hub.log future).received number = []
  buffered : ∀ number observer, hub.observers[number]? = some observer →
    observer.presence = .closed → .drop number ∉ future →
    (hub.log future).received number =
      observer.queue.take (future.countP (HubAction.reads number))

namespace Hub

theorem Accounts.keepsSpans {hub : Hub ε} {log : HubLog ε} (h : hub.Accounts log)
    (future : List (HubAction ε)) : hub.KeepsSpans log future where
  newcomer := by
    intro number observer hnew hobserver hpresent
    have hsilent : log.IsSilentOn number := by
      cases hold : hub.observers[number]? with
      | none => exact h.others number hold
      | some before => exact absurd (h.observers number before hold).subscribed hnew
    have hconserved := ((h.run future).observers number observer hobserver).conserved hpresent
    simpa [HubLog.received, HubLog.delivered, List.filterMap_append,
      show log.filterMap _ = _ from hsilent.received_eq,
      show log.filterMap _ = _ from hsilent.delivered_eq] using hconserved
  ended := by
    intro number hended
    cases hold : hub.observers[number]? with
    | none =>
        have hsilent := h.others number hold
        exact (hended.elim hsilent.not_closed hsilent.not_dropped).elim
    | some observer =>
        refine delivered_log_of_ended hold (fun hlistening => ?_) future
        have hopen := (h.observers number observer hold).listening_iff.mp hlistening
        exact hended.elim hopen.1 hopen.2
  dropped := by
    intro number hdropped
    cases hold : hub.observers[number]? with
    | none => exact absurd hdropped (h.others number hold).not_dropped
    | some observer =>
        exact received_log_of_gone hold ((h.observers number observer hold).gone_iff.mpr hdropped)
          future
  buffered number observer hobserver hclosed hkept :=
    received_log_of_closed hobserver hclosed future hkept

/-- At every point of a run, what is sent next goes to the first observer that takes it; what was
delivered so far is exactly what observers have read and still hold; and whatever comes then, nobody
gets anything from before its subscription or after its end. -/
theorem items_conserved (past future : List (HubAction ε)) (item : ε) :
    ((empty : Hub ε).run past).Delivers item ∧
      ((empty : Hub ε).run past).Accounts (empty.log past) ∧
      ((empty : Hub ε).run past).KeepsSpans (empty.log past) future := by
  have haccounts : ((empty : Hub ε).run past).Accounts (empty.log past) :=
    accounts_empty.run past
  exact ⟨delivers _ item, haccounts, haccounts.keepsSpans future⟩

end Hub

end VpnClient
