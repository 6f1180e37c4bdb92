import Mathlib.Data.List.Basic
import VpnClient.Proofs.Account.Window
import VpnClient.Screen.UiState

/-!
# The order of notices

Notices are shown by priority and severity, and in the order in which they were collected where
these are equal.  There is only one such order.  The rules are not collected in the order in which
their notices are shown: what the version gives notice of comes second or last.

## Main Definitions

* `Notification.IsDisplayOrder` — what the order of display of a list of notices has to be
* `NoticeRule` — the rules in the order in which their notices are shown
* `NotificationInputs.notice?` — when a rule applies, and what it then gives notice of

## Main Statements

* `Notification.isDisplayOrder_sorted`, `Notification.IsDisplayOrder.unique` — sorting gives the
  order of display, and there is no other one
* `NotificationInputs.current_eq` — the notices that apply are those of the rules, in their order
* `NotificationInputs.display_order` — how notices are sorted, and which of them is shown
-/

namespace VpnClient

theorem Priority.rank_injective : Function.Injective Priority.rank := by
  intro a b h
  cases a <;> cases b <;> first | rfl | cases h

theorem Severity.rank_injective : Function.Injective Severity.rank := by
  intro a b h
  cases a <;> cases b <;> first | rfl | cases h

namespace Notification

/-! ## Sorting -/

/-- Two notices have the same priority and the same severity. -/
def IsPeer (a b : Notification) : Prop :=
  a.priority = b.priority ∧ a.severity = b.severity

instance (a b : Notification) : Decidable (a.IsPeer b) :=
  inferInstanceAs (Decidable (a.priority = b.priority ∧ a.severity = b.severity))

/-- The notices of a list that are peers of one. -/
def peers (notices : List Notification) (notice : Notification) : List Notification :=
  notices.filter fun n => n.IsPeer notice

/-- The notices shown are the given ones; the priority never goes up, nor does the severity within a
priority; and those of one priority and severity keep their order. -/
structure IsDisplayOrder (notices shown : List Notification) : Prop where
  perm : shown.Perm notices
  priority : shown.Pairwise fun a b => b.priority.rank ≤ a.priority.rank
  severity : shown.Pairwise fun a b =>
    a.priority = b.priority → b.severity.rank ≤ a.severity.rank
  stable : ∀ notice, peers shown notice = peers notices notice

theorem mayPrecede_iff (a b : Notification) : a.mayPrecede b = true ↔
    b.priority.rank ≤ a.priority.rank ∧
      (a.priority = b.priority → b.severity.rank ≤ a.severity.rank) := by
  simp only [mayPrecede, Bool.or_eq_true, Bool.and_eq_true, decide_eq_true_eq, beq_iff_eq,
    ← Priority.rank_injective.eq_iff]
  omega

theorem mayPrecede_refl (a : Notification) : a.mayPrecede a = true :=
  (mayPrecede_iff a a).mpr ⟨Nat.le_refl _, fun _ => Nat.le_refl _⟩

theorem mayPrecede_trans (a b c : Notification) (hab : a.mayPrecede b = true)
    (hbc : b.mayPrecede c = true) : a.mayPrecede c = true := by
  rw [mayPrecede_iff, ← Priority.rank_injective.eq_iff] at *
  omega

theorem mayPrecede_total (a b : Notification) : (a.mayPrecede b || b.mayPrecede a) = true := by
  rw [Bool.or_eq_true, mayPrecede_iff, mayPrecede_iff, ← Priority.rank_injective.eq_iff,
    ← Priority.rank_injective.eq_iff]
  omega

/-- Peers are those of which each may precede the other. -/
theorem isPeer_iff (a b : Notification) :
    a.IsPeer b ↔ a.mayPrecede b = true ∧ b.mayPrecede a = true := by
  rw [IsPeer, mayPrecede_iff, mayPrecede_iff, ← Priority.rank_injective.eq_iff,
    ← Priority.rank_injective.eq_iff, ← Severity.rank_injective.eq_iff]
  omega

theorem IsDisplayOrder.pairwise {notices shown : List Notification}
    (h : IsDisplayOrder notices shown) : shown.Pairwise fun a b => a.mayPrecede b = true := by
  refine (h.priority.and h.severity).imp fun {a b} hboth => ?_
  exact (mayPrecede_iff a b).mpr hboth

theorem peers_cons (n : Notification) (notices : List Notification) (notice : Notification) :
    peers (n :: notices) notice =
      if n.IsPeer notice then n :: peers notices notice else peers notices notice := by
  simp only [peers, List.filter_cons, decide_eq_true_eq]

theorem mem_peers {notices : List Notification} {notice n : Notification} :
    n ∈ peers notices notice ↔ n ∈ notices ∧ n.IsPeer notice := by
  simp only [peers, List.mem_filter, decide_eq_true_eq]

/-- Every notice is a peer of itself. -/
theorem mem_iff_of_peers_eq {first second : List Notification}
    (h : ∀ notice, peers first notice = peers second notice) (n : Notification) :
    n ∈ first ↔ n ∈ second := by
  have hself : n.IsPeer n := ⟨rfl, rfl⟩
  have hpeers : n ∈ peers first n ↔ n ∈ peers second n := by rw [h]
  simpa only [mem_peers, hself, and_true] using hpeers

/-- Sorting gives the order of display. -/
theorem isDisplayOrder_sorted (notices : List Notification) :
    IsDisplayOrder notices (sorted notices) := by
  have hpairwise : (sorted notices).Pairwise fun a b => a.mayPrecede b = true :=
    List.pairwise_mergeSort mayPrecede_trans mayPrecede_total notices
  have hperm : (sorted notices).Perm notices := List.mergeSort_perm notices mayPrecede
  refine ⟨hperm, ?_, ?_, ?_⟩
  · exact hpairwise.imp fun {a b} hab => ((mayPrecede_iff a b).mp hab).1
  · exact hpairwise.imp fun {a b} hab => ((mayPrecede_iff a b).mp hab).2
  · intro notice
    -- a list of peers is in order, so that sorting a list that it is a part of leaves it as it is
    have hordered : (peers notices notice).Pairwise fun a b => a.mayPrecede b = true := by
      refine List.pairwise_of_forall_mem_list ?_
      intro a ha b hb
      have hpeers : a.IsPeer b :=
        ⟨(mem_peers.mp ha).2.1.trans (mem_peers.mp hb).2.1.symm,
          (mem_peers.mp ha).2.2.trans (mem_peers.mp hb).2.2.symm⟩
      exact ((isPeer_iff a b).mp hpeers).1
    have hpart : (peers notices notice).Sublist (sorted notices) :=
      List.sublist_mergeSort mayPrecede_trans mayPrecede_total hordered List.filter_sublist
    have hpeers := hpart.filter fun n => decide (n.IsPeer notice)
    rw [peers, List.filter_filter] at hpeers
    simp only [Bool.and_self] at hpeers
    exact (hpeers.eq_of_length (hperm.filter _).length_eq.symm).symm

/-- Two lists in order that have the same peers of every notice are equal. -/
theorem eq_of_peers_eq {first second : List Notification}
    (hfirst : first.Pairwise fun a b => a.mayPrecede b = true)
    (hsecond : second.Pairwise fun a b => a.mayPrecede b = true)
    (h : ∀ notice, peers first notice = peers second notice) : first = second := by
  have hmem := mem_iff_of_peers_eq h
  induction first generalizing second with
  | nil =>
      symm
      rw [List.eq_nil_iff_forall_not_mem]
      intro n hn
      exact List.not_mem_nil ((hmem n).mpr hn)
  | cons a first ih =>
      obtain ⟨hafter, hfirstTail⟩ := List.pairwise_cons.mp hfirst
      cases second with
      | nil => exact absurd ((hmem a).mp List.mem_cons_self) List.not_mem_nil
      | cons b second =>
          obtain ⟨hbefore, hsecondTail⟩ := List.pairwise_cons.mp hsecond
          -- each of the two lists has the head of the other one, behind its own or as its own
          have hab : a.mayPrecede b = true := by
            rcases List.mem_cons.mp ((hmem b).mpr List.mem_cons_self) with rfl | hb
            · exact mayPrecede_refl b
            · exact hafter b hb
          have hba : b.mayPrecede a = true := by
            rcases List.mem_cons.mp ((hmem a).mp List.mem_cons_self) with rfl | ha
            · exact mayPrecede_refl a
            · exact hbefore a ha
          have hpeer : b.IsPeer a := (isPeer_iff b a).mpr ⟨hba, hab⟩
          have hheads := h a
          rw [peers_cons, peers_cons, if_pos ⟨rfl, rfl⟩, if_pos hpeer, List.cons.injEq] at hheads
          obtain ⟨rfl, -⟩ := hheads
          have htails : ∀ notice, peers first notice = peers second notice := by
            intro notice
            have hlists := h notice
            rw [peers_cons, peers_cons] at hlists
            split at hlists
            · exact (List.cons.inj hlists).2
            · exact hlists
          exact congrArg (a :: ·)
            (ih hfirstTail hsecondTail htails (mem_iff_of_peers_eq htails))

/-- There is only one order of display. -/
theorem IsDisplayOrder.unique {notices shown other : List Notification}
    (h : IsDisplayOrder notices shown) (hother : IsDisplayOrder notices other) : shown = other :=
  eq_of_peers_eq h.pairwise hother.pairwise fun notice =>
    (h.stable notice).trans (hother.stable notice).symm

/-- What is sorted stays as it is. -/
theorem sorted_sorted (notices : List Notification) : sorted (sorted notices) = sorted notices := by
  have hagain := isDisplayOrder_sorted (sorted notices)
  have honce := isDisplayOrder_sorted notices
  exact IsDisplayOrder.unique
    ⟨hagain.perm.trans honce.perm, hagain.priority, hagain.severity,
      fun notice => (hagain.stable notice).trans (honce.stable notice)⟩ honce

end Notification

/-! ## The rules -/

/-- The rules by which notices are given, in the order in which the notices are shown. -/
inductive NoticeRule where
  | tunnel
  | unsupported
  | expiry
  | newDevice
  | update
  deriving DecidableEq, Repr

namespace NoticeRule

/-- All rules in the order in which their notices are shown. -/
def all : List NoticeRule :=
  [tunnel, unsupported, expiry, newDevice, update]

/-- All rules in the order in which they are collected: the version comes second. -/
def collected : List NoticeRule :=
  [tunnel, unsupported, update, expiry, newDevice]

/-- How prominently the notice of a rule is placed. -/
def priority : NoticeRule → Priority
  | tunnel => .high
  | unsupported => .high
  | expiry => .medium
  | newDevice => .medium
  | update => .low

/-- How severe the matter of a rule is. -/
def severity : NoticeRule → Severity
  | tunnel => .error
  | unsupported => .error
  | expiry => .warning
  | newDevice => .info
  | update => .info

theorem mem_all (rule : NoticeRule) : rule ∈ all := by
  cases rule <;> decide

end NoticeRule

/-- The rule by which a notice is given. -/
def Notification.rule : Notification → NoticeRule
  | tunnelError _ => .tunnel
  | tunnelBlocked => .tunnel
  | unsupportedVersion _ => .unsupported
  | accountExpiry _ => .expiry
  | newDevice _ => .newDevice
  | updateAvailable _ => .update

theorem Notification.priority_rule (notice : Notification) :
    notice.priority = notice.rule.priority ∧ notice.severity = notice.rule.severity := by
  cases notice <;> exact ⟨rfl, rfl⟩

namespace NotificationInputs

open Notification (IsDisplayOrder peers)

variable (inputs : NotificationInputs) (warningDays : Nat) (now : Instant)

/-- What a rule gives notice of, if it applies: an error of the tunnel, or else that it lets nothing
pass; a version that may not be used; the last days of an account; a device that was added; and
another version, if the present one may be used. -/
def notice? : NoticeRule → Option Notification
  | .tunnel =>
    match inputs.tunnel with
    | .error state => some (.tunnelError state)
    | tunnel => if tunnel.isBlocking then some .tunnelBlocked else none
  | .unsupported =>
    if inputs.version.isSupported then none
    else some (.unsupportedVersion inputs.version.current)
  | .expiry => inputs.account.bind fun account =>
    if account.warningStart warningDays ≤ now ∧ now < account.expiry then
      some (.accountExpiry account.expiry)
    else none
  | .newDevice => inputs.newDevice.map .newDevice
  | .update =>
    if inputs.version.isSupported then inputs.version.suggestedUpgrade.map .updateAvailable
    else none

/-- A notice is given by the rule that it belongs to. -/
theorem rule_of_notice? {rule : NoticeRule} {notice : Notification}
    (h : inputs.notice? warningDays now rule = some notice) : notice.rule = rule := by
  cases rule with
  | tunnel =>
      simp only [notice?] at h
      split at h
      · cases h
        rfl
      · split at h
        · cases h
          rfl
        · cases h
  | unsupported =>
      simp only [notice?] at h
      split at h
      · cases h
      · cases h
        rfl
  | expiry =>
      simp only [notice?] at h
      obtain ⟨account, -, hnotice⟩ := Option.bind_eq_some_iff.mp h
      split at hnotice
      · cases hnotice
        rfl
      · cases hnotice
  | newDevice =>
      obtain ⟨name, -, rfl⟩ := Option.map_eq_some_iff.mp h
      rfl
  | update =>
      simp only [notice?] at h
      split at h
      · obtain ⟨version, -, rfl⟩ := Option.map_eq_some_iff.mp h
        rfl
      · cases h

/-- Peers of a notice are given by the rules of its priority and severity. -/
theorem peers_filterMap (rules : List NoticeRule) (notice : Notification) :
    peers (rules.filterMap (inputs.notice? warningDays now)) notice =
      (rules.filter fun rule => rule.priority = notice.priority ∧
        rule.severity = notice.severity).filterMap (inputs.notice? warningDays now) := by
  rw [peers, List.filter_filterMap, List.filterMap_filter]
  refine List.filterMap_congr fun rule _ => ?_
  cases hnotice : inputs.notice? warningDays now rule with
  | none => simp
  | some given =>
      obtain ⟨hpriority, hseverity⟩ := given.priority_rule
      rw [inputs.rule_of_notice? warningDays now hnotice] at hpriority hseverity
      simp only [Option.filter_some, Notification.IsPeer, hpriority, hseverity]

/-- The notices that apply are collected rule by rule; there is one rule for the version. -/
theorem applicable_eq : inputs.applicable warningDays now =
    NoticeRule.collected.filterMap (inputs.notice? warningDays now) := by
  have htunnel : Notification.ofTunnel? inputs.tunnel =
      inputs.notice? warningDays now .tunnel := by
    simp only [notice?]
    cases inputs.tunnel with
    | disconnecting after => cases after <;> rfl
    | _ => rfl
  have hexpiry : Notification.ofAccount? inputs.account warningDays now =
      inputs.notice? warningDays now .expiry := by
    cases haccount : inputs.account with
    | none => simp only [notice?, haccount, Notification.ofAccount?, Option.bind_none]
    | some account =>
        simp only [notice?, haccount, Notification.ofAccount?, Option.bind_some,
          Account.isEnding_iff, Instant.lt_iff_not_le]
  have hversion : [Notification.ofVersion? inputs.version].filterMap id =
      [NoticeRule.unsupported, .update].filterMap (inputs.notice? warningDays now) := by
    simp only [List.filterMap_cons, List.filterMap_nil, notice?, Notification.ofVersion?]
    cases inputs.version.isSupported <;> rfl
  have hcollected : inputs.applicable warningDays now =
      ([inputs.notice? warningDays now .tunnel] ++ ([Notification.ofVersion? inputs.version] ++
        [inputs.notice? warningDays now .expiry, inputs.notice? warningDays now .newDevice])
      ).filterMap id := by
    rw [applicable, htunnel, hexpiry]
    rfl
  have hrules : NoticeRule.collected = [.tunnel] ++ ([.unsupported, .update] ++
    [.expiry, .newDevice]) := rfl
  rw [hcollected, hrules, List.filterMap_append, List.filterMap_append, hversion,
    List.filterMap_append, List.filterMap_append]
  rfl

/-- The notices that apply are those of the rules, in their order. -/
theorem current_eq : inputs.current warningDays now =
    NoticeRule.all.filterMap (inputs.notice? warningDays now) := by
  have hpriority : NoticeRule.all.Pairwise fun a b => b.priority.rank ≤ a.priority.rank := by decide
  have hseverity : NoticeRule.all.Pairwise fun a b =>
    a.priority = b.priority → b.severity.rank ≤ a.severity.rank := by decide
  refine (Notification.isDisplayOrder_sorted _).unique ⟨?_, ?_, ?_, ?_⟩
  · rw [applicable_eq]
    exact List.Perm.filterMap _ (by decide)
  · rw [List.pairwise_filterMap]
    refine hpriority.imp fun {a b} hab first hfirst second hsecond => ?_
    rw [first.priority_rule.1, second.priority_rule.1,
      inputs.rule_of_notice? warningDays now hfirst, inputs.rule_of_notice? warningDays now hsecond]
    exact hab
  · rw [List.pairwise_filterMap]
    refine hseverity.imp fun {a b} hab first hfirst second hsecond => ?_
    rw [first.priority_rule.1, second.priority_rule.1, first.priority_rule.2,
      second.priority_rule.2, inputs.rule_of_notice? warningDays now hfirst,
      inputs.rule_of_notice? warningDays now hsecond]
    exact hab
  · intro notice
    rw [applicable_eq, peers_filterMap, peers_filterMap]
    -- the two orders differ in the place of the last rule, which has a priority of its own
    cases notice.priority <;> cases notice.severity <;> rfl

/-! ## What is shown -/

/-- The notices that apply are those of the rules that do, each of them once and in the order of the
rules; the screen shows the first of them, and none exactly if no rule applies. -/
structure ShowsFirst (inputs : NotificationInputs) (warningDays : Nat) (now : Instant) : Prop where
  current_eq : inputs.current warningDays now =
    NoticeRule.all.filterMap (inputs.notice? warningDays now)
  once : (inputs.current warningDays now).Pairwise fun a b => a.rule ≠ b.rule
  shown : ∀ (screen : ScreenInputs) (isPlayBuild : Bool) (later : Instant),
    screen.notifications = inputs.current warningDays now →
    (screen.uiState isPlayBuild later).notification =
      NoticeRule.all.findSome? (inputs.notice? warningDays now)
  none_iff : ∀ (screen : ScreenInputs) (isPlayBuild : Bool) (later : Instant),
    screen.notifications = inputs.current warningDays now →
    ((screen.uiState isPlayBuild later).notification = none ↔
      ∀ rule, inputs.notice? warningDays now rule = none)

theorem showsFirst : inputs.ShowsFirst warningDays now where
  current_eq := inputs.current_eq warningDays now
  once := by
    have hdistinct : NoticeRule.all.Pairwise fun a b => a ≠ b := by decide
    rw [current_eq, List.pairwise_filterMap]
    refine hdistinct.imp fun {a b} hab first hfirst second hsecond => ?_
    rw [inputs.rule_of_notice? warningDays now hfirst,
      inputs.rule_of_notice? warningDays now hsecond]
    exact hab
  shown := by
    intro screen isPlayBuild later hnotices
    rw [ScreenInputs.uiState, hnotices, current_eq, List.head?_filterMap]
  none_iff := by
    intro screen isPlayBuild later hnotices
    rw [ScreenInputs.uiState, hnotices, current_eq, List.head?_filterMap,
      List.findSome?_eq_none_iff]
    exact forall_congr' fun rule => ⟨fun h => h rule.mem_all, fun h _ => h⟩

/-- Every list of notices has one order of display, which sorting gives, once and for all; and at
every instant the notices that apply are those of the rules in their order, of which the first one
is shown. -/
theorem display_order :
    (∀ notices, IsDisplayOrder notices (Notification.sorted notices) ∧
      Notification.sorted (Notification.sorted notices) = Notification.sorted notices ∧
      ∀ shown, IsDisplayOrder notices shown → shown = Notification.sorted notices) ∧
    ∀ (inputs : NotificationInputs) (warningDays : Nat) (now : Instant),
      inputs.ShowsFirst warningDays now := by
  refine ⟨fun notices => ?_, showsFirst⟩
  have hsorted := Notification.isDisplayOrder_sorted notices
  exact ⟨hsorted, Notification.sorted_sorted notices, fun shown hshown => hshown.unique hsorted⟩

end NotificationInputs

end VpnClient
