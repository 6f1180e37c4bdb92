import Mathlib.Data.List.Induction
import Mathlib.Tactic.ByContra
import VpnClient.Screen.Debouncer

/-!
# What a debouncer returns

Values are pushed, time passes, and somebody waits for a value, each time with a limit of its
own.  A wait that its limit ends can be taken up again: it has changed nothing.  What a wait returns
is read off the log of what has happened.

## Main Definitions

* `DebouncerUse`, `DebouncerEntry`, `DebouncerSession` — runs of a debouncer and their logs
* `DebouncerSession.held?` — the value that is held back after a log, with the time of its push
* `DebouncerSession.Waits` — what a wait does, by the value that is held back
* `DebouncerSession.Accounts` — which push every returned value comes from

## Main Statements

* `Debouncer.take?_eq_wait` — taking a value is waiting for it without any time
* `Debouncer.wait_of_none` — a wait that was given up is taken up where it ended
* `DebouncerSession.held?_eq_some_iff` — what is held back was pushed last, and only waits that were
  given up have come since
* `DebouncerSession.returns_latest_once` — what holds of every wait in every run
-/

namespace VpnClient

variable {α : Type}

/-! ## One wait -/

namespace Debouncer

variable {d : Debouncer α} {start limit deadline : Nat} {value : α}

/-- A value that is due within the limit is waited for. -/
theorem wait_of_due (hpending : d.pending = some (deadline, value))
    (hdue : deadline ≤ start + limit) :
    d.wait start limit = ⟨some value, max start deadline, d.cleared⟩ := by
  simp only [wait, hpending, if_pos hdue]

/-- A wait that ends before the value is due changes nothing. -/
theorem wait_of_ahead (hpending : d.pending = some (deadline, value))
    (hahead : start + limit < deadline) :
    d.wait start limit = ⟨none, start + limit, d⟩ := by
  simp only [wait, hpending, if_neg (Nat.not_le_of_lt hahead)]

/-- Without a pending value the limit is waited for. -/
theorem wait_of_idle (hpending : d.pending = none) :
    d.wait start limit = ⟨none, start + limit, d⟩ := by
  simp only [wait, hpending]

/-- Taking the value, if it is due, is waiting for it without any time. -/
theorem take?_eq_wait (d : Debouncer α) (now : Nat) :
    d.take? now = ((d.wait now 0).value, (d.wait now 0).debouncer) := by
  cases hpending : d.pending with
  | none => simp only [take?, hpending, wait_of_idle hpending]
  | some held =>
      obtain ⟨deadline, value⟩ := held
      by_cases hdue : deadline ≤ now
      · have hwait : d.wait now 0 = ⟨some value, max now deadline, d.cleared⟩ :=
          wait_of_due hpending hdue
        simp only [take?, hpending, if_pos hdue, hwait]
      · have hwait : d.wait now 0 = ⟨none, now + 0, d⟩ :=
          wait_of_ahead hpending (Nat.lt_of_not_le hdue)
        simp only [take?, hpending, if_neg hdue, hwait]

/-- A wait that was given up, and another one right after it, come to the same as a single wait. -/
theorem wait_of_none (d : Debouncer α) (start : Nat) {first : Nat} (second : Nat)
    (h : (d.wait start first).value = none) :
    (d.wait start first).debouncer.wait (d.wait start first).time second =
      d.wait start (first + second) := by
  cases hpending : d.pending with
  | none =>
      rw [wait_of_idle hpending, wait_of_idle hpending]
      simp only [wait_of_idle hpending, Nat.add_assoc]
  | some held =>
      obtain ⟨deadline, value⟩ := held
      rcases Nat.lt_or_ge (start + first) deadline with hahead | hdue
      · simp only [wait_of_ahead hpending hahead]
        rcases Nat.lt_or_ge (start + first + second) deadline with hlater | hlater
        · rw [wait_of_ahead hpending hlater, wait_of_ahead hpending (by omega), Nat.add_assoc]
        · rw [wait_of_due hpending hlater, wait_of_due hpending (by omega)]
          -- the value was due at neither start, so that both waits end when it is
          congr 1
          omega
      · rw [wait_of_due hpending hdue] at h
        cases h

end Debouncer

/-! ## Runs and their logs -/

/-- What can be done with a debouncer: a value is pushed, time passes, or a value is waited for. -/
inductive DebouncerUse (α : Type) where
  | push (value : α)
  | advance (ms : Nat)
  | ready (limit : Nat)

/-- What has happened to a debouncer at which time: a value was pushed, a wait has returned a value,
or a wait was given up. -/
inductive DebouncerEntry (α : Type) where
  | pushed (time : Nat) (value : α)
  | returned (time : Nat) (value : α)
  | timedOut (time : Nat)

namespace DebouncerEntry

/-- When it was. -/
def time : DebouncerEntry α → Nat
  | pushed time _ => time
  | returned time _ => time
  | timedOut time => time

/-- The value that was pushed. -/
def pushed? : DebouncerEntry α → Option α
  | pushed _ value => some value
  | _ => none

/-- The value that was returned. -/
def returned? : DebouncerEntry α → Option α
  | returned _ value => some value
  | _ => none

/-- Whether a wait was given up. -/
def isTimeout : DebouncerEntry α → Bool
  | timedOut _ => true
  | _ => false

/-- The value that is held back after an entry, with the time of its push. -/
def heldAfter (held : Option (Nat × α)) : DebouncerEntry α → Option (Nat × α)
  | pushed time value => some (time, value)
  | returned _ _ => none
  | timedOut _ => held

end DebouncerEntry

/-- A debouncer with the time, and what has happened to it so far. -/
structure DebouncerSession (α : Type) where
  now : Nat
  debouncer : Debouncer α
  log : List (DebouncerEntry α)

namespace DebouncerSession

/-- A debouncer to which nothing has happened yet. -/
def begin (window start : Nat) : DebouncerSession α :=
  ⟨start, .idle window, []⟩

/-- A session after somebody has waited for the value. -/
def awaited (s : DebouncerSession α) (limit : Nat) : DebouncerSession α :=
  let wait := s.debouncer.wait s.now limit
  ⟨wait.time, wait.debouncer, s.log ++ [match wait.value with
    | some value => .returned wait.time value
    | none => .timedOut wait.time]⟩

/-- A session after something has been done. -/
def use (s : DebouncerSession α) : DebouncerUse α → DebouncerSession α
  | .push value => ⟨s.now, s.debouncer.push s.now value, s.log ++ [.pushed s.now value]⟩
  | .advance ms => { s with now := s.now + ms }
  | .ready limit => s.awaited limit

/-- A session after all that has been done. -/
def run (s : DebouncerSession α) (uses : List (DebouncerUse α)) : DebouncerSession α :=
  uses.foldl use s

/-! ## What is held back -/

/-- The value that is held back after a log: the one that was pushed last, unless it has been
returned. -/
def held? (log : List (DebouncerEntry α)) : Option (Nat × α) :=
  log.foldl DebouncerEntry.heldAfter none

@[simp]
theorem held?_concat (log : List (DebouncerEntry α)) (entry : DebouncerEntry α) :
    held? (log ++ [entry]) = entry.heldAfter (held? log) := by
  simp only [held?, List.foldl_append, List.foldl_cons, List.foldl_nil]

/-- What is held back was pushed last, and only waits that were given up have come since. -/
theorem held?_eq_some_iff {log : List (DebouncerEntry α)} {time : Nat} {value : α} :
    held? log = some (time, value) ↔ ∃ earlier waits,
      log = earlier ++ .pushed time value :: waits ∧ ∀ entry ∈ waits, entry.isTimeout = true := by
  constructor
  · intro h
    induction log using List.reverseRecOn with
    | nil => cases h
    | append_singleton log entry ih =>
        rw [held?_concat] at h
        cases entry with
        | pushed pushed other =>
            cases h
            exact ⟨log, [], rfl, nofun⟩
        | returned returned other => cases h
        | timedOut given =>
            obtain ⟨earlier, waits, rfl, hwaits⟩ := ih h
            refine ⟨earlier, waits ++ [.timedOut given], by simp, ?_⟩
            intro entry hentry
            rcases List.mem_append.mp hentry with hold | hnew
            · exact hwaits entry hold
            · cases List.mem_singleton.mp hnew
              rfl
  · rintro ⟨earlier, waits, rfl, hwaits⟩
    induction waits using List.reverseRecOn with
    | nil => exact held?_concat earlier _
    | append_singleton waits entry ih =>
        rw [← List.cons_append, ← List.append_assoc, held?_concat,
          ih fun other hother => hwaits other (List.mem_append_left _ hother)]
        have htimeout := hwaits entry (List.mem_append_right _ (List.mem_singleton.mpr rfl))
        cases entry with
        | timedOut given => rfl
        | _ => cases htimeout

/-! ## What waits do -/

variable {window : Nat} {s : DebouncerSession α}

/-- What is held back is due at a time. -/
def IsDueBy (window : Nat) (s : DebouncerSession α) (time : Nat) : Prop :=
  ∃ pushed value, held? s.log = some (pushed, value) ∧ pushed + window ≤ time

/-- What a wait with a limit does: it returns a value if and only if one is held back and its time
comes within the limit; then it ends at that time, or at once if that is over, with nothing pending
any more; else it ends at the limit and leaves the debouncer as it is.  A wait that was given up is
taken up by the next one. -/
structure Waits (window : Nat) (s : DebouncerSession α) (limit : Nat) : Prop where
  returns_iff : (s.debouncer.wait s.now limit).value.isSome = true ↔
    s.IsDueBy window (s.now + limit)
  returned : ∀ pushed value, held? s.log = some (pushed, value) →
    pushed + window ≤ s.now + limit → s.use (.ready limit) =
      ⟨max s.now (pushed + window), .idle window,
        s.log ++ [.returned (max s.now (pushed + window)) value]⟩
  timedOut : ¬ s.IsDueBy window (s.now + limit) → s.use (.ready limit) =
    ⟨s.now + limit, s.debouncer, s.log ++ [.timedOut (s.now + limit)]⟩
  resumed : ∀ later, ¬ s.IsDueBy window (s.now + limit) →
    let given := s.use (.ready limit)
    given.debouncer.wait given.now later = s.debouncer.wait s.now (limit + later)

/-- What a debouncer and its log have to do with each other, and which push every returned value
comes from: the last one before it, a window ago or more, since which nothing has happened but waits
that were given up.  So every push is returned once at most. -/
structure Accounts (window : Nat) (s : DebouncerSession α) : Prop where
  window_eq : s.debouncer.window = window
  pending_eq : s.debouncer.pending = (held? s.log).map fun held => (held.1 + window, held.2)
  pushed_returned : ∀ earlier time value later, s.log = earlier ++ .returned time value :: later →
    ∃ before waits pushed, earlier = before ++ .pushed pushed value :: waits ∧
      pushed + window ≤ time ∧ ∀ entry ∈ waits, entry.isTimeout = true
  sublist : List.Sublist
    (s.log.filterMap DebouncerEntry.returned? ++ ((held? s.log).map (·.2)).toList)
    (s.log.filterMap DebouncerEntry.pushed?)
  le_now : ∀ entry ∈ s.log, entry.time ≤ s.now
  ordered : s.log.Pairwise fun first second => first.time ≤ second.time

namespace Accounts

theorem begin (window start : Nat) :
    (DebouncerSession.begin window start : DebouncerSession α).Accounts window where
  window_eq := rfl
  pending_eq := rfl
  pushed_returned := by
    intro earlier time value later h
    simp [DebouncerSession.begin] at h
  sublist := List.Sublist.refl _
  le_now := nofun
  ordered := List.Pairwise.nil

/-- An entry at the end of a log, at a time that is not before the present. -/
theorem extend (h : s.Accounts window) {debouncer : Debouncer α} (entry : DebouncerEntry α)
    (hnow : s.now ≤ entry.time) (hwindow : debouncer.window = window)
    (hpending : debouncer.pending =
      (entry.heldAfter (held? s.log)).map fun held => (held.1 + window, held.2))
    (hentry : ∀ time value, entry = .returned time value →
      ∃ pushed, held? s.log = some (pushed, value) ∧ pushed + window ≤ time) :
    Accounts window ⟨entry.time, debouncer, s.log ++ [entry]⟩ where
  window_eq := hwindow
  pending_eq := by rw [held?_concat, hpending]
  pushed_returned := by
    intro earlier time value later heq
    rcases List.eq_nil_or_concat later with rfl | ⟨init, last, rfl⟩
    · obtain ⟨rfl, hlast⟩ := List.append_inj' heq rfl
      obtain ⟨pushed, hheld, hdue⟩ := hentry time value (List.singleton_inj.mp hlast)
      obtain ⟨before, waits, hlog, hwaits⟩ := held?_eq_some_iff.mp hheld
      exact ⟨before, waits, pushed, hlog, hdue, hwaits⟩
    · rw [List.concat_eq_append, ← List.cons_append, ← List.append_assoc] at heq
      exact h.pushed_returned earlier time value init (List.append_inj' heq rfl).1
  sublist := by
    have hbefore := h.sublist
    rw [held?_concat, List.filterMap_append, List.filterMap_append]
    cases entry with
    | pushed time value =>
        -- a value that was held back before is left out
        have hreturned := (List.sublist_append_left _ _).trans hbefore
        have hconcat := hreturned.append (List.Sublist.refl [value])
        rw [List.append_assoc]
        exact hconcat
    | returned time value =>
        obtain ⟨pushed, hheld, -⟩ := hentry time value rfl
        rw [hheld] at hbefore
        have hnothing :
            [DebouncerEntry.returned time value].filterMap DebouncerEntry.pushed? = [] :=
          rfl
        rw [hnothing, List.append_nil, List.append_assoc]
        exact hbefore
    | timedOut time =>
        have hnothing : [DebouncerEntry.timedOut time].filterMap DebouncerEntry.pushed? =
            ([] : List α) := rfl
        rw [hnothing, List.append_nil, List.append_assoc]
        exact hbefore
  le_now := by
    intro other hother
    rcases List.mem_append.mp hother with hold | hnew
    · exact Nat.le_trans (h.le_now other hold) hnow
    · exact Nat.le_of_eq (congrArg DebouncerEntry.time (List.mem_singleton.mp hnew))
  ordered := by
    refine List.pairwise_append.mpr ⟨h.ordered, List.pairwise_singleton _ _, ?_⟩
    intro first hfirst second hsecond
    rw [List.mem_singleton.mp hsecond]
    exact Nat.le_trans (h.le_now first hfirst) hnow

/-- What is held back is pending, and due a window after its push. -/
theorem pending_of_held (h : s.Accounts window) {pushed : Nat} {value : α}
    (hheld : held? s.log = some (pushed, value)) :
    s.debouncer.pending = some (pushed + window, value) := by
  rw [h.pending_eq, hheld]
  rfl

theorem wait_of_isDueBy (h : s.Accounts window) {limit pushed : Nat} {value : α}
    (hheld : held? s.log = some (pushed, value)) (hdue : pushed + window ≤ s.now + limit) :
    s.debouncer.wait s.now limit =
      ⟨some value, max s.now (pushed + window), .idle window⟩ := by
  rw [Debouncer.wait_of_due (h.pending_of_held hheld) hdue, Debouncer.cleared, h.window_eq]
  rfl

theorem wait_of_not_isDueBy (h : s.Accounts window) {limit : Nat}
    (hnot : ¬ s.IsDueBy window (s.now + limit)) :
    s.debouncer.wait s.now limit = ⟨none, s.now + limit, s.debouncer⟩ := by
  cases hheld : held? s.log with
  | none => exact Debouncer.wait_of_idle (by rw [h.pending_eq, hheld]; rfl)
  | some held =>
      obtain ⟨pushed, value⟩ := held
      refine Debouncer.wait_of_ahead (h.pending_of_held hheld) ?_
      by_contra hdue
      exact hnot ⟨pushed, value, hheld, Nat.le_of_not_lt hdue⟩

theorem waits (h : s.Accounts window) (limit : Nat) : s.Waits window limit where
  returns_iff := by
    by_cases hdue : s.IsDueBy window (s.now + limit)
    · obtain ⟨pushed, value, hheld, hle⟩ := hdue
      rw [h.wait_of_isDueBy hheld hle]
      exact iff_of_true rfl ⟨pushed, value, hheld, hle⟩
    · rw [h.wait_of_not_isDueBy hdue]
      exact iff_of_false Bool.false_ne_true hdue
  returned := by
    intro pushed value hheld hdue
    simp only [use, awaited, h.wait_of_isDueBy hheld hdue]
  timedOut := by
    intro hnot
    simp only [use, awaited, h.wait_of_not_isDueBy hnot]
  resumed := by
    intro later hnot
    have hwait := h.wait_of_not_isDueBy hnot
    have hresumed := s.debouncer.wait_of_none s.now later
      (congrArg Debouncer.Wait.value hwait)
    simp only [use, awaited, hwait] at hresumed ⊢
    exact hresumed

theorem use (h : s.Accounts window) (use : DebouncerUse α) : (s.use use).Accounts window := by
  cases use with
  | push value =>
      refine h.extend (.pushed s.now value) (Nat.le_refl s.now) h.window_eq ?_ ?_
      · simp only [Debouncer.push, h.window_eq, DebouncerEntry.heldAfter, Option.map_some]
      · intro time other hentry
        cases hentry
  | advance ms =>
      have hlater : ∀ entry ∈ s.log, entry.time ≤ s.now + ms :=
        fun entry hentry => Nat.le_trans (h.le_now entry hentry) (Nat.le_add_right _ _)
      exact { h with le_now := hlater }
  | ready limit =>
      by_cases hdue : s.IsDueBy window (s.now + limit)
      · obtain ⟨pushed, value, hheld, hle⟩ := hdue
        rw [(h.waits limit).returned pushed value hheld hle]
        refine h.extend (.returned _ value) (Nat.le_max_left _ _) rfl rfl ?_
        intro time other hentry
        cases hentry
        exact ⟨pushed, hheld, Nat.le_max_right _ _⟩
      · rw [(h.waits limit).timedOut hdue]
        refine h.extend (.timedOut _) (Nat.le_add_right _ _) h.window_eq h.pending_eq ?_
        intro time other hentry
        cases hentry

theorem run (h : s.Accounts window) (uses : List (DebouncerUse α)) :
    (s.run uses).Accounts window := by
  induction uses generalizing s with
  | nil => exact h
  | cons use uses ih => exact ih (h.use use)

end Accounts

/-- However values are pushed, time passes and values are waited for: at every point a wait returns
the last pushed value if that is due within its limit, as soon as it is, and else changes nothing;
and every value that was returned comes from a push of its own, after a whole window without another
one. -/
theorem returns_latest_once (window start : Nat) (uses : List (DebouncerUse α)) :
    let s := (DebouncerSession.begin window start).run uses
    (∀ limit, s.Waits window limit) ∧ s.Accounts window := by
  intro s
  have haccounts : s.Accounts window := (Accounts.begin window start).run uses
  exact ⟨haccounts.waits, haccounts⟩

/-- Two values are pushed for a window of three, and a wait is given up before the last of them is
due; the next wait starts late and returns at once. -/
example :
    let uses : List (DebouncerUse Nat) :=
      [.push 1, .advance 2, .push 2, .ready 2, .advance 4, .ready 1, .ready 1]
    ((DebouncerSession.begin 3 0).run uses).log =
      [.pushed 0 1, .pushed 2 2, .timedOut 4, .returned 8 2, .timedOut 9] := rfl

end DebouncerSession

end VpnClient
