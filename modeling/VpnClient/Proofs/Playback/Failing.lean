import VpnClient.Proofs.Config.File
import VpnClient.Proofs.Playback.Stage
import VpnClient.Proofs.Time.Position

/-!
# When a playback fails

A screen can always be set up with a configuration that has been loaded, so that a playback only
fails at a step whose account has no end in time.  Whether it has one is a matter of exact
arithmetic, of which three results have to fit a span and one has to lie within time.

## Main Definitions

* `AccountTerm.IsSpan`, `AccountTerm.EndsInTime` — the terms for which there is an end in time
* `Script.clockAt`, `Script.FailsAt` — the moment of a step, and a step that fails at its moment
* `Script.FailsFirstAt` — a failing step that none comes before

## Main Statements

* `AccountTerm.expiry?_eq_some_iff` — the end of a term is at the exact sum, if it is in time
* `Script.playSteps_of_failsFirstAt` — steps behind a failing one make no difference
* `Script.fails_at_first_unusable` — when a playback fails, and with what
-/

namespace VpnClient

/-! ## The end of a term -/

namespace AccountTerm

variable {term : AccountTerm} {now expiry : Instant}

/-- Whole seconds that make up a span: in milliseconds they are a number of sixty-three bits and a
sign. -/
def IsSpan (seconds : Int) : Prop :=
  (seconds * 1000).natAbs < signedSize

/-- The days, the seconds and their sum make up spans, and the exact sum does not lead beyond the
ends of time. -/
structure EndsInTime (term : AccountTerm) (now : Instant) : Prop where
  days : IsSpan (86400 * term.days)
  seconds : IsSpan term.seconds
  sum : IsSpan (86400 * term.days + term.seconds)
  earliest_le : Instant.earliest.position ≤
    now.position + (86400 * term.days + term.seconds) * secondSpan
  le_latest : now.position + (86400 * term.days + term.seconds) * secondSpan ≤
    Instant.latest.position

theorem isTerm_iff (seconds : Int) : isTerm seconds = true ↔ IsSpan seconds := by
  simp only [isTerm, Bool.and_eq_true, decide_eq_true_eq]
  unfold longest IsSpan signedSize
  omega

/-- The end of a term is the instant at the exact sum, if the sum makes up a span. -/
theorem expiry?_eq_some_iff (hnow : now.IsRegular) :
    term.expiry? now = some expiry ↔
      (IsSpan (86400 * term.days) ∧ IsSpan term.seconds ∧
        IsSpan (86400 * term.days + term.seconds)) ∧
      expiry.IsRegular ∧
      expiry.position = now.position + (86400 * term.days + term.seconds) * secondSpan := by
  simp only [expiry?, Int.mul_comm term.days, ← isTerm_iff]
  split
  · next hspans =>
    simp only [Bool.and_eq_true] at hspans
    rw [hnow.add?_eq_some_iff]
    exact ⟨fun h => ⟨⟨hspans.1.1, hspans.1.2, hspans.2⟩, h⟩, fun h => h.2⟩
  · next hspans =>
    simp only [Bool.and_eq_true] at hspans
    refine iff_of_false (Option.some_ne_none _).symm ?_
    rintro ⟨⟨hdays, hseconds, hsum⟩, -⟩
    exact hspans ⟨⟨hdays, hseconds⟩, hsum⟩

/-- There is an end of a term exactly if it ends in time. -/
theorem exists_expiry?_iff (hnow : now.IsRegular) :
    (∃ expiry, term.expiry? now = some expiry) ↔ term.EndsInTime now := by
  constructor
  · rintro ⟨expiry, hexpiry⟩
    obtain ⟨⟨hdays, hseconds, hsum⟩, hregular, hposition⟩ := (expiry?_eq_some_iff hnow).mp hexpiry
    exact ⟨hdays, hseconds, hsum, hposition ▸ hregular.earliest_position_le,
      hposition ▸ hregular.position_le_latest⟩
  · rintro ⟨hdays, hseconds, hsum, hlow, hhigh⟩
    obtain ⟨expiry, hregular, hposition⟩ := Instant.exists_of_position _ hlow hhigh
    exact ⟨expiry, (expiry?_eq_some_iff hnow).mpr ⟨⟨hdays, hseconds, hsum⟩, hregular, hposition⟩⟩

/-- What comes of a term at an instant: an account that ends at the exact sum if that is in time,
else the failure that names the days and the seconds. -/
structure AccountAtExactSum (term : AccountTerm) (now : Instant) : Prop where
  ok_iff : (∃ account, term.account now = .ok account) ↔ term.EndsInTime now
  exact : ∀ account, term.account now = .ok account → account.id = term.id ∧
    account.expiry.IsRegular ∧ account.expiry.position =
      now.position + (86400 * term.days + term.seconds) * secondSpan
  failure : ∀ failure, term.account now = .error failure → failure = term.outOfRange

theorem accountAtExactSum (hnow : now.IsRegular) (term : AccountTerm) :
    term.AccountAtExactSum now := by
  have hends : (∃ expiry, term.expiry? now = some expiry) ↔ term.EndsInTime now :=
    exists_expiry?_iff hnow
  cases hexpiry : term.expiry? now with
  | some expiry =>
      have haccount : term.account now = .ok ⟨term.id, expiry⟩ := by rw [account, hexpiry]
      refine ⟨iff_of_true ⟨_, haccount⟩ (hends.mp ⟨expiry, hexpiry⟩), ?_, ?_⟩
      · intro account hok
        obtain rfl := Except.ok.inj (haccount.symm.trans hok)
        exact ⟨rfl, ((expiry?_eq_some_iff hnow).mp hexpiry).2⟩
      · intro failure hfailure
        cases haccount.symm.trans hfailure
  | none =>
      have haccount : term.account now = .error term.outOfRange := by rw [account, hexpiry]
      refine ⟨iff_of_false ?_ ?_, ?_, ?_⟩
      · rintro ⟨account, hok⟩
        cases haccount.symm.trans hok
      · intro hinTime
        obtain ⟨expiry, hsome⟩ := hends.mpr hinTime
        cases hexpiry.symm.trans hsome
      · intro account hok
        cases haccount.symm.trans hok
      · intro failure hfailure
        exact (Except.error.inj (haccount.symm.trans hfailure)).symm

end AccountTerm

/-! ## A step at its moment -/

/-- A step fails at a moment exactly if its account has no end in time. -/
theorem ScriptStep.perform_error_iff (step : ScriptStep) (clock : Clock) (screen : Screen)
    (failure : Failure) :
    step.perform clock screen = .error failure ↔
      ∃ term, step.account = some term ∧ term.expiry? clock.now = none ∧
        failure = term.outOfRange := by
  cases haccount : step.account with
  | none =>
      simp only [perform, changes, haccount]
      refine iff_of_false ?_ (by simp)
      intro h
      cases h
  | some term =>
      cases hexpiry : term.expiry? clock.now with
      | none =>
          simp only [perform, changes, haccount, Option.mapM_some, AccountTerm.account, hexpiry]
          constructor
          · intro h
            exact ⟨term, rfl, hexpiry, (Except.error.inj h).symm⟩
          · rintro ⟨_, ⟨⟩, -, rfl⟩
            rfl
      | some expiry =>
          simp only [perform, changes, haccount, Option.mapM_some, AccountTerm.account, hexpiry]
          refine iff_of_false ?_ ?_
          · intro h
            cases h
          · rintro ⟨_, ⟨⟩, hnone, -⟩
            cases hexpiry.symm.trans hnone

namespace Script

/-- The clock at the moment of a step: its own delay and those of all steps before it have
passed. -/
def clockAt (steps : List ScriptStep) (clock : Clock) (index : Nat) : Clock :=
  clockAfter clock ((steps.take (index + 1)).map ScriptStep.delayMs)

/-- The step at an index has an account, of which there is no end in time at the moment of the
step. -/
def FailsAt (steps : List ScriptStep) (clock : Clock) (index : Nat) (term : AccountTerm) : Prop :=
  steps[index]?.bind ScriptStep.account = some term ∧
    term.expiry? (clockAt steps clock index).now = none

/-- The first step that fails. -/
def FailsFirstAt (steps : List ScriptStep) (clock : Clock) (index : Nat) (term : AccountTerm) :
    Prop :=
  FailsAt steps clock index term ∧ ∀ earlier < index, ∀ other, ¬ FailsAt steps clock earlier other

variable {steps : List ScriptStep} {clock : Clock} {index : Nat} {term : AccountTerm}

theorem exists_failsFirstAt (h : FailsAt steps clock index term) :
    ∃ first other, FailsFirstAt steps clock first other := by
  induction index using Nat.strongRecOn generalizing term with
  | ind index ih =>
      by_cases hearlier : ∃ earlier < index, ∃ other, FailsAt steps clock earlier other
      · obtain ⟨earlier, hlt, other, hfails⟩ := hearlier
        exact ih earlier hlt hfails
      · refine ⟨index, term, h, ?_⟩
        intro earlier hlt other hfails
        exact hearlier ⟨earlier, hlt, other, hfails⟩

theorem failsAt_cons_zero {step : ScriptStep} :
    FailsAt (step :: steps) clock 0 term ↔
      step.account = some term ∧ term.expiry? (clockAfter clock [step.delayMs]).now = none :=
  Iff.rfl

theorem failsAt_cons_succ {step : ScriptStep} :
    FailsAt (step :: steps) clock (index + 1) term ↔
      FailsAt steps (clockAfter clock [step.delayMs]) index term := by
  have hclock : clockAt (step :: steps) clock (index + 1) =
      clockAt steps (clockAfter clock [step.delayMs]) index := by
    simp only [clockAt, clockAfter, List.take_succ_cons, List.map_cons, List.sum_cons,
      List.sum_nil, Nat.add_zero, Clock.withElapsed, Nat.add_assoc]
  rw [FailsAt, FailsAt, hclock, List.getElem?_cons_succ]

/-! ## Playing steps -/

/-- Playing steps comes to an end if none of them fails. -/
theorem playSteps_of_not_failsAt (timed : Timed Screen)
    (h : ∀ index term, ¬ FailsAt steps timed.clock index term) :
    (playSteps timed steps).2 = .ok () := by
  induction steps generalizing timed with
  | nil => rfl
  | cons step steps ih =>
      have hclock := afterDelay_clock step.delayMs timed
      simp only [playSteps]
      cases hperform : step.perform (afterDelay step.delayMs timed).clock
          (afterDelay step.delayMs timed).state with
      | error failure =>
          obtain ⟨term, haccount, hexpiry, -⟩ :=
            (ScriptStep.perform_error_iff _ _ _ _).mp hperform
          rw [hclock] at hexpiry
          exact absurd (failsAt_cons_zero.mpr ⟨haccount, hexpiry⟩) (h 0 term)
      | ok screen =>
          refine ih _ ?_
          intro index term hfails
          exact h (index + 1) term (failsAt_cons_succ.mpr (hclock ▸ hfails))

/-- Playing steps ends with the first one that fails, whatever steps come behind it. -/
theorem playSteps_of_failsFirstAt (timed : Timed Screen)
    (h : FailsFirstAt steps timed.clock index term) :
    (playSteps timed steps).2 = .error term.outOfRange ∧
      ∀ later, playSteps timed (steps.take (index + 1) ++ later) = playSteps timed steps := by
  induction steps generalizing timed index with
  | nil =>
      obtain ⟨⟨hnone, -⟩, -⟩ := h
      cases hnone
  | cons step steps ih =>
      obtain ⟨hfails, hfirst⟩ := h
      have hclock := afterDelay_clock step.delayMs timed
      simp only [List.take_succ_cons, List.cons_append, playSteps]
      cases index with
      | zero =>
          obtain ⟨haccount, hexpiry⟩ := failsAt_cons_zero.mp hfails
          have hperform := (ScriptStep.perform_error_iff step (afterDelay step.delayMs timed).clock
            (afterDelay step.delayMs timed).state term.outOfRange).mpr
            ⟨term, haccount, hclock ▸ hexpiry, rfl⟩
          rw [hperform]
          exact ⟨rfl, fun _ => rfl⟩
      | succ index =>
          cases hperform : step.perform (afterDelay step.delayMs timed).clock
              (afterDelay step.delayMs timed).state with
          | error failure =>
              obtain ⟨other, haccount, hexpiry, -⟩ :=
                (ScriptStep.perform_error_iff _ _ _ _).mp hperform
              rw [hclock] at hexpiry
              exact absurd (failsAt_cons_zero.mpr ⟨haccount, hexpiry⟩)
                (hfirst 0 (Nat.succ_pos index) other)
          | ok screen =>
              refine ih _ ⟨hclock ▸ failsAt_cons_succ.mp hfails, ?_⟩
              intro earlier hlt other hearlier
              exact hfirst (earlier + 1) (Nat.succ_lt_succ hlt) other
                (failsAt_cons_succ.mpr (hclock ▸ hearlier))

/-! ## Whole playbacks -/

theorem FailsFirstAt.unique {other : Nat} {term' : AccountTerm}
    (h : FailsFirstAt steps clock index term) (hother : FailsFirstAt steps clock other term') :
    index = other ∧ term = term' := by
  have hindex : index = other := by
    rcases Nat.lt_trichotomy index other with hlt | heq | hgt
    · exact absurd h.1 (hother.2 index hlt term)
    · exact heq
    · exact absurd hother.1 (h.2 other hgt term')
  subst hindex
  exact ⟨rfl, Option.some.inj (h.1.1.symm.trans hother.1.1)⟩

/-- A playback with a step that fails has the failure of the first one as its result. -/
theorem exists_play_of_failsFirstAt {config : ConnectConfig} {screen : Screen}
    (hstage : stage config clock = .ok screen) (h : FailsFirstAt steps clock index term) :
    ∃ playback, (Script.mk steps).play config clock = .ok playback ∧
      playback.result = .error term.outOfRange ∧
      ∀ later, (Script.mk (steps.take (index + 1) ++ later)).play config clock = .ok playback := by
  obtain ⟨hresult, hlater⟩ := playSteps_of_failsFirstAt ⟨clock, screen⟩ h
  cases hplayed : playSteps ⟨clock, screen⟩ steps with
  | mk timed result =>
      rw [hplayed] at hresult
      obtain rfl : result = .error term.outOfRange := hresult
      refine ⟨⟨timed.state, .error term.outOfRange⟩, ?_, rfl, ?_⟩
      · rw [play_of_stage hstage, hplayed]
      · intro later
        rw [play_of_stage hstage, hlater later, hplayed]

/-- A playback without a step that fails comes to its end. -/
theorem exists_play_of_not_failsAt {config : ConnectConfig} {screen : Screen}
    (hstage : stage config clock = .ok screen)
    (h : ∀ index term, ¬ FailsAt steps clock index term) :
    ∃ playback, (Script.mk steps).play config clock = .ok playback ∧
      playback.result = .ok () := by
  have hresult := playSteps_of_not_failsAt ⟨clock, screen⟩ h
  cases hplayed : playSteps ⟨clock, screen⟩ steps with
  | mk timed result =>
      rw [hplayed] at hresult
      obtain rfl : result = .ok () := hresult
      exact ⟨_, by rw [play_of_stage hstage, hplayed], rfl⟩

/-- When a playback fails.  It comes to its end if no step fails; if one does, it has the failure of
the first such step as its result, and it is the same playback whatever steps come behind that. -/
structure FailsAtFirst (script : Script) (config : ConnectConfig) (clock : Clock)
    (playback : Playback) : Prop where
  ok_iff : playback.result = .ok () ↔ ∀ index term, ¬ FailsAt script.steps clock index term
  error_iff : ∀ failure, playback.result = .error failure ↔
    ∃ index term, FailsFirstAt script.steps clock index term ∧ failure = term.outOfRange
  ignores_later : ∀ index term, FailsFirstAt script.steps clock index term → ∀ later,
    (Script.mk (script.steps.take (index + 1) ++ later)).play config clock = .ok playback

/-- With every configuration that has been loaded a screen can be set up at any time, and a playback
fails exactly at the first step whose account has no end in time at the moment of the step.  At an
instant outside the leap seconds an account has an end in time exactly if its days, its seconds and
their sum make up spans and the exact sum lies in time, and there it ends. -/
theorem fails_at_first_unusable {fs : FileSystem} {path : String} {config : Config}
    (hload : Config.load fs path = .ok config) (script : Script) (clock : Clock) :
    (∃ screen, Screen.wire config.connect clock .initial = .ok screen) ∧
      (∃ playback, script.play config.connect clock = .ok playback ∧
        script.FailsAtFirst config.connect clock playback) ∧
      ∀ (term : AccountTerm) (now : Instant), now.IsRegular → term.AccountAtExactSum now := by
  have hproblem : config.connect.problem? = none := Config.problem?_of_load hload
  obtain ⟨screen, hstage⟩ := exists_stage hproblem clock
  refine ⟨Screen.exists_wire_of_problem? hproblem clock .initial, ?_,
    fun term now hnow => AccountTerm.accountAtExactSum hnow term⟩
  by_cases hfails : ∃ index term, FailsAt script.steps clock index term
  · obtain ⟨index, term, hfails⟩ := hfails
    obtain ⟨first, unusable, hfirst⟩ := exists_failsFirstAt hfails
    obtain ⟨playback, hplay, hresult, hlater⟩ := exists_play_of_failsFirstAt hstage hfirst
    refine ⟨playback, hplay, ?_, ?_, ?_⟩
    · rw [hresult]
      exact iff_of_false nofun fun hnone => hnone index term hfails
    · intro failure
      rw [hresult]
      constructor
      · intro h
        exact ⟨first, unusable, hfirst, (Except.error.inj h).symm⟩
      · rintro ⟨other, term', hother, rfl⟩
        rw [(hother.unique hfirst).2]
    · intro other term' hother
      rw [(hother.unique hfirst).1]
      exact hlater
  · have hnone : ∀ index term, ¬ FailsAt script.steps clock index term :=
      fun index term h => hfails ⟨index, term, h⟩
    obtain ⟨playback, hplay, hresult⟩ := exists_play_of_not_failsAt hstage hnone
    refine ⟨playback, hplay, iff_of_true hresult hnone, ?_, ?_⟩
    · intro failure
      rw [hresult]
      refine iff_of_false nofun ?_
      rintro ⟨index, term, hfirst, -⟩
      exact hnone index term hfirst.1
    · intro index term hfirst
      exact absurd hfirst.1 (hnone index term)

/-- A step that sets the account and does nothing else. -/
def promising (delayMs : Nat) (term : AccountTerm) : ScriptStep where
  delayMs := delayMs
  tunnel := none
  selection := none
  account := some term
  device := none
  newDevice := none
  version := none
  permission := none
  alwaysOnApp := none
  connectFailure := none
  authToken := none
  pendingDays := none
  action := none

/-- Of two accounts whose days and seconds cancel each other but for one second, the second one has
a day more, which is too many for a span. -/
theorem fails_at_first_unusable_of_cancelling :
    let usable : AccountTerm := ⟨"1", 106751991167, -9223372036828799⟩
    let unusable : AccountTerm := ⟨"1", 106751991168, -9223372036915199⟩
    let script : Script := ⟨[promising 0 usable, promising 500 unusable, promising 0 usable]⟩
    let clock : Clock := ⟨⟨1717243258, 0⟩, 0⟩
    Config.load .empty "config.toml" = .ok .initial ∧
      FailsFirstAt script.steps clock 1 unusable ∧ clock.now.IsRegular ∧
      usable.expiry? clock.now = some ⟨1717243259, 0⟩ ∧
      ∃ playback, script.play .initial clock = .ok playback ∧
        playback.result = .error unusable.outOfRange ∧
        (Script.mk [promising 0 usable, promising 500 unusable]).play .initial clock =
          .ok playback := by
  intro usable unusable script clock
  have hload : Config.load .empty "config.toml" = .ok .initial :=
    Config.load_of_notFound
      (FileSystem.read_empty (by simp) (by decide +kernel) (by decide +kernel))
  have hfirst : FailsFirstAt script.steps clock 1 unusable := by
    refine ⟨⟨rfl, by decide⟩, ?_⟩
    intro earlier hearlier other hother
    obtain rfl : earlier = 0 := by omega
    obtain rfl : usable = other := Option.some.inj hother.1
    exact absurd hother.2 (by decide)
  have hnow : clock.now.IsRegular := by decide
  obtain ⟨-, ⟨playback, hplay, hfails⟩, -⟩ := fails_at_first_unusable hload script clock
  refine ⟨hload, hfirst, hnow, by decide, playback, hplay,
    (hfails.error_iff _).mpr ⟨1, unusable, hfirst, rfl⟩, hfails.ignores_later 1 unusable hfirst []⟩

end Script

end VpnClient
