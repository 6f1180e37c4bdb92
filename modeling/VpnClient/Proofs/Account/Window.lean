import VpnClient.Notification
import VpnClient.Proofs.Time.Position

/-!
# The days of the warning

From when to when the user is warned that the time of the account is running out, and that nothing
changes before the next boundary of these days.

## Main Statements

* `Account.boundaries_of_before_boundary` — before the next boundary neither the warning nor the
  boundary changes
* `NotificationInputs.current_eq_of_before_boundary` — so all notices stay as they are
-/

namespace VpnClient

namespace Account

variable {account : Account}

theorem warningStart_isRegular (h : account.expiry.IsRegular) (warningDays : Nat) :
    (account.warningStart warningDays).IsRegular := by
  unfold warningStart
  cases hstart : account.expiry.addDays? (-(warningDays : Int)) with
  | some start => exact h.addDays? hstart
  | none => exact Instant.earliest_isRegular

theorem isExpired_iff (account : Account) (now : Instant) :
    account.isExpired now = true ↔ account.expiry ≤ now := by
  simp [isExpired]

theorem isEnding_iff (account : Account) (warningDays : Nat) (now : Instant) :
    account.isEnding warningDays now = true ↔
      account.warningStart warningDays ≤ now ∧ ¬ account.expiry ≤ now := by
  simp [isEnding, isExpired]

/-- The next boundary is the start of the warning if that is to come, else the expiry if that is,
else there is none. -/
theorem nextBoundary?_eq (account : Account) (warningDays : Nat) (now : Instant) :
    account.nextBoundary? warningDays now =
      if now < account.warningStart warningDays then some (account.warningStart warningDays)
      else if account.expiry ≤ now then none
      else some account.expiry := by
  simp only [nextBoundary?, isExpired_iff]

/-- A next boundary is a regular instant that is to come. -/
theorem nextBoundary?_spec (h : account.expiry.IsRegular) {warningDays : Nat} {now b : Instant}
    (hb : account.nextBoundary? warningDays now = some b) : b.IsRegular ∧ now < b := by
  rw [nextBoundary?_eq] at hb
  split at hb
  · next hbefore =>
    cases hb
    exact ⟨warningStart_isRegular h warningDays, hbefore⟩
  · split at hb
    · cases hb
    · next hnotExpired =>
      cases hb
      exact ⟨h, hnotExpired⟩

variable {warningDays : Nat} {now later : Instant}

/-- Before the next boundary the account stays on the same side of the start of the warning, and
of its expiry too unless the warning is to come. -/
theorem sides_of_before_boundary (hle : now ≤ later)
    (hbefore : ∀ b, account.nextBoundary? warningDays now = some b → later < b) :
    (account.warningStart warningDays ≤ later ↔ account.warningStart warningDays ≤ now) ∧
      (¬ now < account.warningStart warningDays →
        (account.expiry ≤ later ↔ account.expiry ≤ now)) := by
  rw [nextBoundary?_eq] at hbefore
  -- now is before the warning, in it, or after the expiry, when no boundary is left
  by_cases hwarned : now < account.warningStart warningDays
  · have hlt := hbefore _ (if_pos hwarned)
    exact ⟨iff_of_false hlt hwarned, fun hnotWarned => absurd hwarned hnotWarned⟩
  · rw [if_neg hwarned] at hbefore
    have hstarted : account.warningStart warningDays ≤ now := by
      rw [Instant.lt_iff_not_le] at hwarned
      exact not_not.mp hwarned
    refine ⟨iff_of_true (Instant.le_trans hstarted hle) hstarted, fun _ => ?_⟩
    by_cases hexpired : account.expiry ≤ now
    · exact iff_of_true (Instant.le_trans hexpired hle) hexpired
    · exact iff_of_false (hbefore _ (if_neg hexpired)) hexpired

/-- Before the next boundary neither the boundary nor the warning changes. -/
theorem boundaries_of_before_boundary (hle : now ≤ later)
    (hbefore : ∀ b, account.nextBoundary? warningDays now = some b → later < b) :
    account.nextBoundary? warningDays later = account.nextBoundary? warningDays now ∧
      account.isEnding warningDays later = account.isEnding warningDays now := by
  obtain ⟨hstart, hexpiry⟩ := sides_of_before_boundary hle hbefore
  have hwarned : ∀ t, t < account.warningStart warningDays ↔
      ¬ account.warningStart warningDays ≤ t := fun t => Instant.lt_iff_not_le t _
  refine ⟨?_, ?_⟩
  · rw [nextBoundary?_eq, nextBoundary?_eq]
    by_cases hnotWarned : now < account.warningStart warningDays
    · have hlaterNotWarned : later < account.warningStart warningDays := by
        rw [hwarned] at hnotWarned ⊢
        rwa [hstart]
      rw [if_pos hnotWarned, if_pos hlaterNotWarned]
    · have hlaterWarned : ¬ later < account.warningStart warningDays := by
        rw [hwarned] at hnotWarned ⊢
        rwa [hstart]
      have hsame := hexpiry hnotWarned
      simp only [if_neg hnotWarned, if_neg hlaterWarned, hsame]
  · rw [Bool.eq_iff_iff, isEnding_iff, isEnding_iff, hstart]
    by_cases hnotWarned : now < account.warningStart warningDays
    · rw [hwarned] at hnotWarned
      simp only [hnotWarned, false_and]
    · rw [hexpiry hnotWarned]

end Account

namespace NotificationInputs

variable {inputs : NotificationInputs} {warningDays : Nat} {now later : Instant}

/-- A next boundary is a regular instant that is to come. -/
theorem nextBoundary?_spec (h : ∀ account, inputs.account = some account → account.expiry.IsRegular)
    {b : Instant} (hb : inputs.nextBoundary? warningDays now = some b) :
    b.IsRegular ∧ now < b := by
  obtain ⟨account, haccount, hboundary⟩ := Option.bind_eq_some_iff.mp hb
  exact Account.nextBoundary?_spec (h account haccount) hboundary

/-- Before the next boundary all notices and the boundary itself stay as they are. -/
theorem current_eq_of_before_boundary (hle : now ≤ later)
    (hbefore : ∀ b, inputs.nextBoundary? warningDays now = some b → later < b) :
    inputs.nextBoundary? warningDays later = inputs.nextBoundary? warningDays now ∧
      inputs.current warningDays later = inputs.current warningDays now := by
  cases haccount : inputs.account with
  | none => simp [nextBoundary?, current, applicable, Notification.ofAccount?, haccount]
  | some account =>
      have hboundary : ∀ t, inputs.nextBoundary? warningDays t
          = account.nextBoundary? warningDays t := by
        intro t
        simp [nextBoundary?, haccount]
      obtain ⟨hsame, hending⟩ := Account.boundaries_of_before_boundary hle
        (fun b hb => hbefore b ((hboundary now).trans hb))
      refine ⟨by rw [hboundary, hboundary, hsame], ?_⟩
      simp [current, applicable, Notification.ofAccount?, haccount, hending]

end NotificationInputs

end VpnClient
