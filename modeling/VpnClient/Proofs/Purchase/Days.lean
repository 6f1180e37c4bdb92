import VpnClient.Proofs.Feed.Writes

/-!
# What becomes of the days that are bought

A purchase is verified first and its days wait; a later refresh adds them to the time of the
account.  Between the two anything can be changed from outside.  All days that have ever been
verified are accounted for: they have been added to the time of an account, or they wait, or they
have been lost, and there are exactly three ways to lose them.  None is added twice.

## Main Definitions

* `PurchaseStep`, `Backend.purchases` — what can happen to bought days, and runs of it
* `Backend.verifiedBy`, `Backend.creditedBy`, `Backend.lostBy` — the days that a step verifies,
  credits and loses
* `Backend.IsBalanced` — no day has been lost or credited twice

## Main Statements

* `Backend.step_balance` — what a step verifies is credited or lost by it, or waits afterwards
* `Backend.days_accounted` — so it is for every run, which is balanced exactly if no step of it
  loses days
-/

namespace VpnClient

/-! ## Days on the time line -/

namespace Instant

variable {t u : Instant}

/-- An instant that is at most a leap second beyond its second, as all instants on a clock are. -/
def IsOnClock (t : Instant) : Prop :=
  t.nanos < 2000000000

/-- A part of a second makes no more seconds. -/
theorem ofSecond?_of_part {second nanos : Int} (hnonneg : 0 ≤ nanos) (hlt : nanos < secondSpan)
    (h : ofSecond? second nanos = some u) : u.IsOnClock ∧ u.seconds = second := by
  obtain ⟨hregular, hposition⟩ := (ofSecond?_eq_some_iff second nanos u).mp h
  have hnanos := hregular.nanos_lt
  unfold position secondSpan at hposition
  unfold secondSpan at hlt
  unfold IsOnClock
  omega

/-- Days later the clock shows the same time of day. -/
theorem addDays?_eq_some (h : t.IsOnClock) {days : Nat} (hadd : t.addDays? days = some u) :
    u.IsOnClock ∧ u.seconds = t.seconds + 86400 * days := by
  have hspan : (days : Int) * daySpan = 86400 * days * secondSpan := by
    unfold daySpan
    rw [← Int.mul_assoc, Int.mul_comm (days : Int)]
  have hwhole : (86400 * (days : Int) * secondSpan).tdiv secondSpan = 86400 * days :=
    Int.mul_tdiv_cancel _ (by decide)
  have hpart : (86400 * (days : Int) * secondSpan).tmod secondSpan = 0 := Int.mul_tmod_left _ _
  unfold IsOnClock at h
  simp only [addDays?, add?, hspan, hwhole, hpart, inLeapSecond, decide_eq_true_eq] at hadd
  split at hadd
  · next hleap =>
    split at hadd
    · exact ofSecond?_of_part (by unfold secondSpan; omega) (by unfold secondSpan; omega) hadd
    · next hnone =>
      -- no time has passed, and the leap second stays one
      have hzero : days = 0 := by omega
      subst hzero
      rw [if_neg (by decide), Option.some_inj, Int.add_zero, Int.toNat_natCast] at hadd
      rw [← hadd]
      refine ⟨h, ?_⟩
      show t.seconds = t.seconds + 86400 * (0 : Nat)
      omega
  · next hregular =>
    exact ofSecond?_of_part (by omega) (by unfold secondSpan; omega) hadd

end Instant

/-- The whole days by which an account runs out later than it did. -/
def Account.daysGained (before after : Option Account) : Int :=
  match before, after with
  | some before, some after => (after.expiry.seconds - before.expiry.seconds) / 86400
  | _, _ => 0

theorem Account.daysGained_self (account : Option Account) :
    Account.daysGained account account = 0 := by
  cases account with
  | none => rfl
  | some account =>
      unfold daysGained
      simp

/-! ## Runs -/

/-- What can happen to bought days: the backend is changed from outside, purchases are looked for,
the account is refreshed, or a screen is started, which looks for purchases and refreshes the
account if there was one. -/
inductive PurchaseStep where
  | change (change : BackendChange)
  | verify
  | refresh
  | start (presenter : Presenter)

/-- A change after which the account runs out at an instant on the clock. -/
def PurchaseStep.IsOnClock : PurchaseStep → Prop
  | change (.account (some account)) => account.expiry.IsOnClock
  | _ => True

namespace Backend

/-- The backend after a step. -/
def purchase (backend : Backend) : PurchaseStep → Backend
  | .change change => backend.apply change
  | .verify => backend.verifyPurchases.2
  | .refresh => backend.refreshAccount
  | .start presenter => (presenter.perform .perfect backend .verifyPurchases).2

/-- The backend after all steps of a run. -/
def purchases (backend : Backend) (steps : List PurchaseStep) : Backend :=
  steps.foldl purchase backend

/-- The account, if there is one, runs out at an instant on the clock. -/
def IsOnClock (backend : Backend) : Prop :=
  ∀ account, backend.account.value = some account → account.expiry.IsOnClock

/-! ## Accounts of days -/

/-- The days that wait to be credited. -/
def waiting (backend : Backend) : Nat :=
  backend.verifiedDays.toNat

/-- The days of the purchase that a look finds. -/
def found (backend : Backend) : Nat :=
  match backend.verifyPurchases.1, backend.pendingDays with
  | .ok .verified, some days => days.toNat
  | _, _ => 0

/-- The days of the purchase that a step verifies. -/
def verifiedBy (backend : Backend) : PurchaseStep → Int
  | .verify | .start _ => backend.found
  | _ => 0

/-- The days by which a step other than a change from outside extends the time of the account. -/
def creditedBy (backend : Backend) : PurchaseStep → Int
  | .change _ => 0
  | step => Account.daysGained backend.account.value (backend.purchase step).account.value

/-- The days that a look for purchases loses: those that wait are counted in a word, which they can
exceed. -/
def lostByLook (backend : Backend) : Nat :=
  if backend.waiting + backend.found < UInt32.size then 0 else UInt32.size

/-- The days that a refresh loses: those that wait are taken, also if there is no account, or if its
time cannot end that much later. -/
def lostByRefresh (backend : Backend) : Nat :=
  match backend.account.value with
  | none => backend.waiting
  | some account =>
    if (account.expiry.addDays? backend.waiting).isSome then 0 else backend.waiting

/-- The days that a step loses. -/
def lostBy (backend : Backend) : PurchaseStep → Int
  | .change _ => 0
  | .verify => backend.lostByLook
  | .refresh => backend.lostByRefresh
  | .start _ =>
    match backend.verifyPurchases with
    | (.ok .verified, looked) => backend.lostByLook + looked.lostByRefresh
    | _ => backend.lostByLook

/-- All that is counted in a run. -/
def total (count : Backend → PurchaseStep → Int) (backend : Backend) : List PurchaseStep → Int
  | [] => 0
  | step :: steps => count backend step + total count (backend.purchase step) steps

/-! ## One step -/

variable {backend : Backend}

/-- A look finds a purchase, and its days wait in a word from then on; or it finds none, and the
backend stays as it is. -/
theorem verifyPurchases_cases (backend : Backend) :
    (∃ days, backend.pendingDays = some days ∧ backend.verifyPurchases = (.ok .verified,
        { backend with pendingDays := none, verifiedDays := backend.verifiedDays + days })) ∨
      (backend.verifyPurchases.1 ≠ .ok .verified ∧ backend.verifyPurchases.2 = backend) := by
  unfold verifyPurchases
  split
  · exact Or.inr ⟨by simp, rfl⟩
  · cases backend.pendingDays with
    | none => exact Or.inr ⟨by simp, rfl⟩
    | some days => exact Or.inl ⟨days, rfl, rfl⟩

theorem found_of_ne_verified (h : backend.verifyPurchases.1 ≠ .ok .verified) :
    backend.found = 0 := by
  unfold found
  split
  · next hverified _ => exact absurd hverified h
  · rfl

/-- The days that a look finds wait with the others, unless the word is too short for them. -/
theorem look_balance (backend : Backend) :
    backend.verifyPurchases.2.waiting + backend.lostByLook = backend.waiting + backend.found := by
  rcases backend.verifyPurchases_cases with ⟨days, hpending, heq⟩ | ⟨hnone, heq⟩
  · have hfound : backend.found = days.toNat := by
      simp only [found, heq, hpending]
    have hwaiting : backend.verifyPurchases.2.waiting =
        (backend.waiting + days.toNat) % UInt32.size := by
      rw [heq]
      exact UInt32.toNat_add backend.verifiedDays days
    have hbefore : backend.waiting < UInt32.size := backend.verifiedDays.toNat_lt
    have hdays : days.toNat < UInt32.size := days.toNat_lt
    rw [hwaiting, lostByLook, hfound]
    split
    · next hfits => rw [Nat.mod_eq_of_lt hfits, Nat.add_zero]
    · next hexceeds =>
      rw [Nat.mod_eq_sub_mod (Nat.le_of_not_lt hexceeds), Nat.mod_eq_of_lt (by omega)]
      omega
  · have hfound := found_of_ne_verified hnone
    have hbefore : backend.waiting < UInt32.size := backend.verifiedDays.toNat_lt
    rw [heq, lostByLook, hfound, Nat.add_zero, if_pos hbefore]
    rfl

/-- A refresh takes all days that wait, if there are any, and extends the account by them; or there
is nothing that it could extend, and no account is written. -/
theorem refreshAccount_cases (backend : Backend) :
    backend.refreshAccount.waiting = 0 ∧
      ((∃ account expiry, backend.account.value = some account ∧
          account.expiry.addDays? backend.waiting = some expiry ∧ backend.lostByRefresh = 0 ∧
          backend.refreshAccount.account.value = some { account with expiry := expiry }) ∨
        (backend.lostByRefresh = backend.waiting ∧
          backend.refreshAccount.account.value = backend.account.value)) := by
  have hwaiting : backend.verifiedDays.toNat = backend.waiting := rfl
  unfold refreshAccount
  split
  · next hzero =>
    have hnone : backend.waiting = 0 := by
      rw [waiting, hzero]
      rfl
    refine ⟨hnone, Or.inr ⟨?_, rfl⟩⟩
    unfold lostByRefresh
    rw [hnone]
    split
    · rfl
    · exact ite_self 0
  · cases haccount : backend.account.value with
    | none =>
        refine ⟨rfl, Or.inr ⟨?_, rfl⟩⟩
        simp only [lostByRefresh, haccount]
    | some account =>
        simp only [credit, hwaiting]
        cases hadd : account.expiry.addDays? backend.waiting with
        | none =>
            refine ⟨rfl, Or.inr ⟨?_, haccount⟩⟩
            simp only [lostByRefresh, haccount, hadd, Option.isSome_none, Bool.false_eq_true,
              if_false]
        | some expiry =>
            refine ⟨rfl, Or.inl ⟨account, expiry, rfl, hadd, ?_, rfl⟩⟩
            simp only [lostByRefresh, haccount, hadd, Option.isSome_some, if_true]

/-- What a refresh takes, it credits or loses. -/
theorem refresh_balance (h : backend.IsOnClock) :
    backend.refreshAccount.IsOnClock ∧ backend.refreshAccount.waiting = 0 ∧
      Account.daysGained backend.account.value backend.refreshAccount.account.value +
        backend.lostByRefresh = backend.waiting := by
  obtain ⟨hnone, ⟨account, expiry, haccount, hadd, hlost, hcredited⟩ | ⟨hlost, hsame⟩⟩ :=
    backend.refreshAccount_cases
  · obtain ⟨honClock, hseconds⟩ := Instant.addDays?_eq_some (h account haccount) hadd
    refine ⟨?_, hnone, ?_⟩
    · intro credited hsome
      rw [hcredited, Option.some_inj] at hsome
      rw [← hsome]
      exact honClock
    · simp only [haccount, hcredited, Account.daysGained, hseconds, hlost]
      omega
  · refine ⟨?_, hnone, ?_⟩
    · intro account hsome
      exact h account (hsame ▸ hsome)
    · rw [hsame, Account.daysGained_self, hlost, Int.zero_add]

/-- A screen that is started looks for purchases, and has the account refreshed if there was one. -/
theorem start_cases (presenter : Presenter) (backend : Backend) :
    let looked := backend.verifyPurchases.2
    (backend.purchase (.start presenter) = looked.refreshAccount ∧
        backend.lostBy (.start presenter) = backend.lostByLook + looked.lostByRefresh) ∨
      (backend.purchase (.start presenter) = looked ∧
        backend.lostBy (.start presenter) = backend.lostByLook) := by
  simp only [purchase, Presenter.perform, Network.perfect, lostBy]
  rcases backend.verifyPurchases with ⟨answer, looked⟩
  rcases answer with error | nothing | verified
  · exact Or.inr ⟨rfl, rfl⟩
  · exact Or.inr ⟨rfl, rfl⟩
  · exact Or.inl ⟨rfl, rfl⟩

/-- The days that waited before a step and those it verifies are credited by it or lost, or wait
after it. -/
theorem step_balance (h : backend.IsOnClock) {step : PurchaseStep} (hstep : step.IsOnClock) :
    (backend.purchase step).IsOnClock ∧
      backend.creditedBy step + (backend.purchase step).waiting + backend.lostBy step =
        backend.waiting + backend.verifiedBy step := by
  cases step with
  | change change =>
      have hbalance : (0 : Int) + backend.waiting + 0 = backend.waiting + 0 := by omega
      cases change with
      | account account =>
          refine ⟨?_, hbalance⟩
          intro other hother
          have hsome : account = some other := hother
          rw [hsome] at hstep
          exact hstep
      | tunnel _ | device _ | newDevice _ | version _ | selection _ | permission _ | alwaysOnApp _
      | connectFailure _ | authToken _ | pendingPurchase _ | providerDown _ =>
          exact ⟨h, hbalance⟩
  | verify =>
      have hlook := backend.look_balance
      have haccount := backend.verifyPurchases_account
      refine ⟨fun account hsome => h account (haccount ▸ hsome), ?_⟩
      simp only [creditedBy, purchase, lostBy, verifiedBy, haccount, Account.daysGained_self]
      omega
  | refresh =>
      obtain ⟨honClock, hnone, hrefresh⟩ := refresh_balance h
      refine ⟨honClock, ?_⟩
      simp only [creditedBy, purchase, lostBy, verifiedBy, hnone]
      omega
  | start presenter =>
      have hlook := backend.look_balance
      have haccount := backend.verifyPurchases_account
      have hlooked : backend.verifyPurchases.2.IsOnClock :=
        fun account hsome => h account (haccount ▸ hsome)
      simp only [creditedBy, verifiedBy]
      rcases backend.start_cases presenter with ⟨hafter, hlost⟩ | ⟨hafter, hlost⟩
      · obtain ⟨honClock, hnone, hrefresh⟩ := refresh_balance hlooked
        rw [haccount] at hrefresh
        refine ⟨hafter ▸ honClock, ?_⟩
        rw [hafter, hlost, hnone]
        omega
      · refine ⟨hafter ▸ hlooked, ?_⟩
        rw [hafter, hlost, haccount, Account.daysGained_self]
        omega

/-! ## All steps of a run -/

/-- No day that was verified has been lost or credited twice in a run: all that was waiting at first
or has been verified since has been credited once, or is waiting still. -/
def IsBalanced (backend : Backend) (steps : List PurchaseStep) : Prop :=
  backend.total creditedBy steps + (backend.purchases steps).waiting =
    backend.waiting + backend.total verifiedBy steps

theorem run_balance (h : backend.IsOnClock) (steps : List PurchaseStep)
    (hsteps : ∀ step ∈ steps, step.IsOnClock) :
    backend.total creditedBy steps + (backend.purchases steps).waiting +
      backend.total lostBy steps = backend.waiting + backend.total verifiedBy steps := by
  induction steps generalizing backend with
  | nil =>
      simp only [total, purchases, List.foldl_nil]
      omega
  | cons step steps ih =>
      obtain ⟨honClock, hstep⟩ := step_balance h (hsteps step List.mem_cons_self)
      have hrest := ih honClock fun step hstep => hsteps step (List.mem_cons_of_mem _ hstep)
      simp only [total]
      have hpurchases : backend.purchases (step :: steps) =
          (backend.purchase step).purchases steps := rfl
      rw [hpurchases]
      omega

theorem lostBy_nonneg (backend : Backend) (step : PurchaseStep) : 0 ≤ backend.lostBy step := by
  cases step with
  | change change => exact Int.le_refl 0
  | verify => exact Int.natCast_nonneg _
  | refresh => exact Int.natCast_nonneg _
  | start presenter =>
      rcases backend.start_cases presenter with ⟨-, hlost⟩ | ⟨-, hlost⟩
      · rw [hlost]
        omega
      · rw [hlost]
        exact Int.natCast_nonneg _

theorem total_lostBy_nonneg (backend : Backend) (steps : List PurchaseStep) :
    0 ≤ backend.total lostBy steps := by
  induction steps generalizing backend with
  | nil => exact Int.le_refl 0
  | cons step steps ih => exact Int.add_nonneg (backend.lostBy_nonneg step) (ih _)

/-- Nothing is lost in a run if nothing is lost by any of its steps. -/
theorem total_lostBy_eq_zero_iff (backend : Backend) (steps : List PurchaseStep) :
    backend.total lostBy steps = 0 ↔
      ∀ before step after, steps = before ++ step :: after →
        (backend.purchases before).lostBy step = 0 := by
  induction steps generalizing backend with
  | nil =>
      refine ⟨fun _ before step after h => ?_, fun _ => rfl⟩
      cases before <;> cases h
  | cons first steps ih =>
      have hnonneg := backend.lostBy_nonneg first
      have hnonneg' := total_lostBy_nonneg (backend.purchase first) steps
      have hsplit : backend.total lostBy (first :: steps) = 0 ↔
          backend.lostBy first = 0 ∧ (backend.purchase first).total lostBy steps = 0 := by
        rw [total]
        omega
      rw [hsplit, ih]
      constructor
      · rintro ⟨hfirst, hrest⟩ before step after h
        cases before with
        | nil =>
            cases h
            exact hfirst
        | cons _ before =>
            cases h
            exact hrest before step after rfl
      · intro hall
        refine ⟨hall [] first steps rfl, ?_⟩
        intro before step after h
        exact hall (first :: before) step after (by rw [h]; rfl)

/-- Whatever is done to a backend and whenever screens are started on it: all days that were waiting
at first or have been verified since have been credited or lost, or are waiting, and nothing is
credited twice.  A run is balanced exactly if no step of it has lost days: no refresh came while
days were waiting and nobody was logged in, or the account could not end that much later, and the
days that were waiting were never more than fit into their word. -/
theorem days_accounted (h : backend.IsOnClock) (steps : List PurchaseStep)
    (hsteps : ∀ step ∈ steps, step.IsOnClock) :
    backend.total creditedBy steps + (backend.purchases steps).waiting +
        backend.total lostBy steps = backend.waiting + backend.total verifiedBy steps ∧
      (backend.IsBalanced steps ↔
        ∀ before step after, steps = before ++ step :: after →
          (backend.purchases before).lostBy step = 0) := by
  have hbalance := run_balance h steps hsteps
  refine ⟨hbalance, ?_⟩
  rw [← total_lostBy_eq_zero_iff, IsBalanced]
  omega

/-- Two purchases are credited together when somebody has logged in after the second one. -/
theorem days_accounted_of_login :
    let steps : List PurchaseStep := [.change (.pendingPurchase (some 30)), .verify,
      .change (.pendingPurchase (some 5)), .change (.account (some ⟨"1", ⟨1717977600, 0⟩⟩)),
      .verify, .refresh]
    initial.IsOnClock ∧ (∀ step ∈ steps, step.IsOnClock) ∧ initial.total verifiedBy steps = 35 ∧
      initial.total lostBy steps = 0 ∧ initial.total creditedBy steps = 35 := by
  intro steps
  have hinitial : initial.IsOnClock := fun _ hsome => by cases hsome
  have hsteps : ∀ step ∈ steps, step.IsOnClock := by
    simp only [steps, List.forall_mem_cons, PurchaseStep.IsOnClock, Instant.IsOnClock]
    simp
  have hverified : initial.total verifiedBy steps = 35 := by decide +kernel
  have hlost : initial.total lostBy steps = 0 := by decide +kernel
  have hwaiting : (initial.purchases steps).waiting = 0 := by decide +kernel
  obtain ⟨hbalance, -⟩ := days_accounted hinitial steps hsteps
  rw [hverified, hlost, hwaiting] at hbalance
  exact ⟨hinitial, hsteps, hverified, hlost, hbalance⟩

/-- A purchase is verified and the account refreshed before anybody has logged in: its days are
gone, and the account that is logged in then gets none of them. -/
theorem not_isBalanced_of_logged_out :
    let before : List PurchaseStep := [.change (.pendingPurchase (some 30)), .verify, .refresh]
    let steps := before ++ [.change (.account (some ⟨"1", ⟨1717977600, 0⟩⟩)), .refresh]
    initial.total verifiedBy steps = 30 ∧ initial.total creditedBy steps = 0 ∧
      (initial.purchases steps).waiting = 0 ∧ (initial.purchases before).waiting = 0 ∧
      ¬ initial.IsBalanced before ∧ ¬ initial.IsBalanced steps := by
  intro before steps
  unfold IsBalanced
  decide +kernel

end Backend

end VpnClient
