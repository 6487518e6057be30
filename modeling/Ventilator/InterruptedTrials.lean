import Ventilator.FtstCheck
import Ventilator.WindowRuns

/-! Trials interrupted by a flag that stays set. The windows that verify a recovery poll the same
flag, so that no recovery of an interrupted trial is ever reported as verified. -/
namespace Ventilator
open Double CallTree

namespace TrialBackend
open TrialM

variable {backend : TrialBackend} {plan : TrialPlan} {baselineRpm : Fin 2 → Double}

/-- What the polls of a trace were answered, in order. -/
def stopAnswers (trace : List TrialEvent) : List Bool :=
  trace.filterMap fun e => match e with
    | ⟨.shouldStop, stop⟩ => some stop
    | _ => none

lemma stopAnswers_append (xs ys : List TrialEvent) :
    stopAnswers (xs ++ ys) = stopAnswers xs ++ stopAnswers ys := List.filterMap_append ..

/-- Once true, the flag stays true. -/
def Sticky (stops : List Bool) : Prop :=
  stops.Pairwise fun earlier later => earlier = true → later = true

def observerStops (outer : List ObserverEvent) : List Bool :=
  outer.filterMap fun e => match e with
    | ⟨.shouldStop, stop⟩ => some stop
    | _ => none

lemma observerStops_append (xs ys : List ObserverEvent) :
    observerStops (xs ++ ys) = observerStops xs ++ observerStops ys := List.filterMap_append ..

/-- The observer's polls are the backend's. -/
lemma handled_stops {s s' : Bool} {outer : List ObserverEvent} {inner : List TrialEvent}
    (h : Handled backend.observerHandler s outer inner s') :
    stopAnswers inner = observerStops outer := by
  induction h with
  | nil s => rfl
  | @cons s s₁ s' c answer outer xs ys hcall hrest ih =>
    have hone : stopAnswers xs = observerStops [⟨c, answer⟩] := by
      cases c with
      | shouldStop =>
        obtain ⟨rfl, -⟩ := gives_ask.mp hcall
        rfl
      | monotonicSeconds =>
        obtain ⟨rfl, -⟩ := gives_ask.mp hcall
        rfl
      | readObservation =>
        obtain ⟨read, rest, rfl, hread⟩ := gives_ask_bind.mp hcall
        cases read with
        | none =>
          obtain ⟨rfl, rfl, -⟩ := gives_pure.mp hread
          rfl
        | some current =>
          obtain ⟨xs, ys, a, s₂, rfl, hnote, hdone⟩ := gives_bind.mp hread
          obtain ⟨rfl, -⟩ := gives_noteFanState hnote
          obtain ⟨rfl, rfl, -⟩ := gives_pure.mp hdone
          rfl
      | recordObservation second observation =>
        obtain ⟨-, rfl | rfl⟩ := gives_record hcall
        · rfl
        · rfl
      | waitMilliseconds milliseconds =>
        obtain ⟨rfl, -⟩ := gives_ask.mp hcall
        rfl
    rw [stopAnswers_append, hone, ih, ← observerStops_append]
    rfl

lemma observerStops_accepted (samples : List WindowSample) :
    ∀ stop ∈ observerStops (acceptedEvents samples), stop = false := by
  induction samples using List.reverseRecOn with
  | nil => exact nofun
  | append_singleton samples s ih =>
    rw [acceptedEvents_concat, observerStops_append]
    refine List.forall_mem_append.mpr ⟨ih, fun stop hstop => ?_⟩
    have hstops : observerStops (s.observerEvents samples.length ++ waitedEvents true) =
        [false, false, false] := rfl
    rw [hstops] at hstop
    simpa using hstop

/-- A stable observation polled, and was never told to stop. -/
lemma stable_unstopped {s s' : Bool} {window : List TrialEvent} {result : TrialBaselineResult}
    (h : Gives backend.trialObserveAfterFtst s window result s') (hstable : result.status = .stable) :
    false ∈ stopAnswers window ∧ ∀ stop ∈ stopAnswers window, stop = false := by
  obtain ⟨outer, hends, hhandled⟩ := gives_handle h
  rw [handled_stops hhandled]
  cases trialObserveBaselineWindow_runs.mp hends with
  | invalid hcomplete => cases hstable
  | @stable samples last hcomplete hregular hlast hlong =>
    have hstops : observerStops (last.observerEvents 60) = [false, false, false] := rfl
    rw [observerStops_append, hstops]
    refine ⟨by simp, List.forall_mem_append.mpr ⟨observerStops_accepted samples, by simp⟩⟩
  | violated hcomplete hregular hbound hviolates =>
    have hstatus : _ = TrialBaselineStatus.stable := hstable
    cases hviolates with
    | waitFailed _ _ _ stop => cases stop <;> cases hstatus
    | _ => cases hstatus

/-- A trace that ends with a stable observation was never told to stop before. -/
lemma EndsStable.unstopped {trace : List TrialEvent} (h : backend.EndsStable trace)
    (hsticky : Sticky (stopAnswers trace)) : true ∉ stopAnswers trace := by
  obtain ⟨before, window, s, result, s', rfl, hobserve, hstable⟩ := h
  obtain ⟨hpolled, hfalse⟩ := stable_unstopped hobserve hstable
  rw [stopAnswers_append] at hsticky ⊢
  intro hstopped
  rcases List.mem_append.mp hstopped with hbefore | hwindow
  · exact absurd ((List.pairwise_append.mp hsticky).2.2 _ hbefore _ hpolled rfl) Bool.false_ne_true
  · exact absurd (hfalse true hwindow) nofun

/-! A rejected check. -/

lemma recoverEffect_status {unlockOk s s' : Bool} {trace : List TrialEvent}
    {status : TrialRunStatus} (h : Gives (backend.recoverEffect unlockOk) s trace status s') :
    status ≠ .baselineRejected := by
  rintro rfl
  obtain ⟨xs, rest₁, restored, s₁, rfl, -, h₁⟩ := gives_bind.mp h
  split at h₁
  · obtain ⟨ys, rest₂, result, s₂, rfl, -, h₂⟩ := gives_bind.mp h₁
    have hstatus := (gives_pure.mp h₂).2.1
    split at hstatus <;> cases hstatus
  · obtain ⟨ys, rest₂, result, s₂, rfl, -, h₂⟩ := gives_bind.mp h₁
    split at h₂
    · obtain ⟨zs, rest₃, both, s₃, rfl, -, h₃⟩ := gives_bind.mp h₂
      cases (gives_pure.mp (h₃.past_return nofun).2).2.1
    · obtain ⟨zs, rest₃, changed, s₃, rfl, -, h₃⟩ := gives_bind.mp h₂
      have hstatus := (gives_pure.mp h₃).2.1
      split at hstatus <;> cases hstatus

lemma releaseUnseen_status {s s' : Bool} {trace : List TrialEvent} {status : TrialRunStatus}
    (h : Gives backend.releaseUnseen s trace status s') : status ≠ .baselineRejected := by
  rintro rfl
  obtain ⟨releaseOk, rest₁, rfl, h₁⟩ := gives_ask_bind.mp h
  obtain ⟨xs, rest₂, later, s₁, rfl, -, h₂⟩ := gives_bind.mp h₁
  split at h₂
  · obtain ⟨ys, rest₃, both, s₂, rfl, -, h₃⟩ := gives_bind.mp h₂
    have hstatus := (gives_pure.mp (h₃.past_return nofun).2).2.1
    split at hstatus <;> cases hstatus
  · have hstatus := (gives_pure.mp h₂).2.1
    split at hstatus <;> cases hstatus

/-- A refused admission read one observation, and polled after it only at the baseline. -/
lemma admitFtst_refused {s s' : Bool} {trace : List TrialEvent}
    (h : Gives admitFtst s trace none s') :
    ∃ answer rest, trace = safetyRead answer :: rest ∧ (∀ e ∈ rest, e.1.reads = false) ∧
      (rest = [] ∨ answer.any trialObservationIsBaseline = true) := by
  obtain ⟨answer, rest₁, rfl, h₁⟩ := gives_ask_bind.mp h
  refine ⟨answer, rest₁, rfl, ?_⟩
  cases answer with
  | none => exact ⟨by simp [(gives_pure.mp h₁).1], .inl (gives_pure.mp h₁).1⟩
  | some baseline =>
  dsimp only at h₁
  split at h₁
  · exact ⟨by simp [(gives_pure.mp h₁).1], .inl (gives_pure.mp h₁).1⟩
  rename_i hchecks
  simp only [Bool.or_eq_true, Bool.not_eq_true', not_or, Bool.not_eq_false] at hchecks
  refine ⟨?_, .inr hchecks.1⟩
  obtain ⟨stop, rest₂, rfl, h₂⟩ := gives_ask_bind.mp h₁
  split at h₂
  · obtain ⟨rfl, -⟩ := gives_pure.mp h₂
    simp [TrialCall.reads]
  · obtain ⟨started, rest₃, rfl, h₃⟩ := gives_ask_bind.mp h₂
    obtain ⟨rfl, -⟩ := gives_pure.mp h₃
    simp [TrialCall.reads]

/-- A rejected check was not interrupted after an observation of `Ftst = 1`. -/
lemma check_rejected {before after : List TrialEvent} {o : TrialObservation} (hseen : o.ftst = 1)
    (h : Ends backend.trialCheckFtst (before ++ safetyRead (some o) :: after) .baselineRejected) :
    after = [] := by
  obtain ⟨-, h₁⟩ := h.past_return nofun
  obtain ⟨s', hcheck⟩ := ends_run' h₁
  obtain ⟨xs, rest₁, admitted, s₁, htrace, hadmit, h₂⟩ := gives_bind.mp hcheck
  cases admitted with
  | some started =>
    obtain ⟨writeOk, rest₂, rfl, h₃⟩ := gives_ask_bind.mp h₂
    obtain ⟨ys, rest₃, seen, s₂, rfl, -, h₄⟩ := gives_bind.mp h₃
    cases seen with
    | none => exact absurd rfl (releaseUnseen_status h₄)
    | some afterWrite =>
      obtain ⟨zs, rest₄, unlockOk, s₃, rfl, -, h₅⟩ := gives_bind.mp h₄
      exact absurd rfl (recoverEffect_status h₅)
  | none =>
    obtain ⟨rfl, -⟩ := gives_pure.mp h₂
    obtain ⟨answer, rest, rfl, hreads, hrest⟩ := admitFtst_refused hadmit
    rw [List.append_nil] at htrace
    cases before with
    | cons e before =>
      rw [List.cons_append, List.cons.injEq] at htrace
      have hread := hreads (safetyRead (some o)) (by rw [← htrace.2]; simp)
      cases hread
    | nil =>
      rw [List.nil_append, List.cons.injEq] at htrace
      rcases hrest with rfl | hbaseline
      · exact htrace.2
      · have hanswer : some o = answer := by simpa [safetyRead] using htrace.1
        rw [← hanswer, Option.any_some, baseline_iff] at hbaseline
        rw [hbaseline.1] at hseen
        exact absurd hseen (by decide)

/-- No interrupted trial is reported as verified: with a flag that stays set, a check that is told
to stop after it observed `Ftst = 1` reports a failed restoration, and so does a direct trial that is
told to stop after it observed the manual state, whatever their recoveries come to. -/
theorem interrupted_trials_unverified (backend : TrialBackend) :
    (∀ (trace : List TrialEvent) (status : TrialRunStatus) (before : List TrialEvent)
      (o : TrialObservation) (after : List TrialEvent),
      Ends backend.trialCheckFtst trace status → Sticky (stopAnswers trace) →
      trace = before ++ safetyRead (some o) :: after → o.ftst = 1 → true ∈ stopAnswers after →
      status = .restoreFailed) ∧
    ∀ (plan : TrialPlan) (baselineRpm : Fin 2 → Double) (s : Bool) (trace : List TrialEvent)
      (status : TrialRunStatus) (s' : Bool) (before : List TrialEvent) (o : TrialObservation)
      (after : List TrialEvent),
      Gives (backend.trialExecuteDirect plan baselineRpm) s trace status s' →
      Sticky (stopAnswers trace) → trace = before ++ safetyRead (some o) :: after →
      manualStateMatches o plan true backend.round = true → true ∈ stopAnswers after →
      status = .restoreFailed := by
  have hinterrupted : ∀ {before after : List TrialEvent} {o : TrialObservation},
      true ∈ stopAnswers after → true ∈ stopAnswers (before ++ safetyRead (some o) :: after) := by
    intro before after o hstop
    rw [← List.singleton_append, stopAnswers_append, stopAnswers_append]
    simp [hstop]
  constructor
  · rintro trace status before o after h hsticky rfl hseen hstop
    by_contra hstatus
    have hrejected : status ≠ .baselineRejected := by
      rintro rfl
      rw [check_rejected hseen h] at hstop
      cases hstop
    exact (check_settles h hrejected hstatus).unstopped hsticky (hinterrupted hstop)
  · rintro plan baselineRpm s trace status s' before o after h hsticky rfl - hstop
    by_contra hstatus
    exact (executeDirect_settles h hstatus).unstopped hsticky (hinterrupted hstop)

/-! A check that recovers and is told to stop. -/

/-- A system whose Ftst is what was written last, a clock that shows the milliseconds waited, and a
flag that is set from a given poll on. -/
def interruptedFrom (poll : ℕ) (env : UInt8 × ℕ × ℕ) : (c : TrialCall) →
    c.Answer × (UInt8 × ℕ × ℕ)
  | .writeMode _ _ => (true, env)
  | .writeTarget _ _ => (true, env)
  | .writeFtst value => (true, (value, env.2))
  | .readObservation _ => (some (quietObservation env.1), env)
  | .waitMilliseconds milliseconds => (true, (env.1, env.2.1 + milliseconds, env.2.2))
  | .monotonicSeconds => (finite (env.2.1 / 1000), env)
  | .shouldStop => (decide (poll ≤ env.2.2), (env.1, env.2.1, env.2.2 + 1))
  | .recordObservation _ _ => ((), env)

/-- The run up to its recovery, and the recovery that succeeds. -/
abbrev untilRecovery : List TrialEvent × (Bool × Bool) × (UInt8 × ℕ × ℕ) :=
  play (interruptedFrom 2) ((do
    match ← admitFtst with
    | none => pure false
    | some started =>
      let writeOk ← writeFtst 1
      match ← exact.awaitEffect with
      | some afterWrite => exact.unlockChecked writeOk afterWrite started
      | none => pure false : TrialM Bool).run false) (0, 0, 0)

abbrev recoveryRun : List TrialEvent × (Bool × Bool) × (UInt8 × ℕ × ℕ) :=
  play (interruptedFrom 2) (exact.trialRestoreUnlock.run untilRecovery.2.1.2) untilRecovery.2.2

abbrev afterRecovery : List TrialEvent × (TrialRunStatus × Bool) × (UInt8 × ℕ × ℕ) :=
  play (interruptedFrom 2) ((do
    let result ← exact.trialObserveAfterFtst
    if result.status ≠ .stable then
      if !(← exact.restoredAndStable exact.trialRestoreUnlock) then pure .restoreFailed
      else pure .controlFailedSystemVerified
    else settleEffect untilRecovery.2.1.1 : TrialM TrialRunStatus).run recoveryRun.2.1.2)
    recoveryRun.2.2

instance decidableAnswer : (c : TrialCall) → DecidableEq c.Answer
  | .writeMode _ _ => inferInstanceAs (DecidableEq Bool)
  | .writeTarget _ _ => inferInstanceAs (DecidableEq Bool)
  | .writeFtst _ => inferInstanceAs (DecidableEq Bool)
  | .readObservation _ => inferInstanceAs (DecidableEq (Option TrialObservation))
  | .waitMilliseconds _ => inferInstanceAs (DecidableEq Bool)
  | .monotonicSeconds => inferInstanceAs (DecidableEq Double)
  | .shouldStop => inferInstanceAs (DecidableEq Bool)
  | .recordObservation _ _ => inferInstanceAs (DecidableEq Unit)

def baselineReads (trace : List TrialEvent) : Bool :=
  trace.all fun e => match e with
    | ⟨.readObservation _, answer⟩ => answer.any trialObservationIsBaseline
    | _ => true

lemma interruptedRun_parts : (play (interruptedFrom 2) exact.trialCheckFtst (0, 0, 0)).1 =
    untilRecovery.1 ++ (recoveryRun.1 ++ afterRecovery.1) := by decide +kernel

/-- A check whose recovery succeeds, and which is told to stop in the observation after it, reports
a failed restoration although every later read is the baseline. -/
theorem interrupted_check_fails :
    ¬ ∀ (backend : TrialBackend) (before unlock later : List TrialEvent) (status : TrialRunStatus)
      (o : TrialObservation) (s s₁ : Bool),
      Ends backend.trialCheckFtst (before ++ (unlock ++ later)) status →
      safetyRead (some o) ∈ before → o.ftst = 1 →
      Gives backend.trialRestoreUnlock s unlock true s₁ →
      Sticky (stopAnswers (before ++ (unlock ++ later))) → true ∈ stopAnswers later →
      baselineReads later = true → SteadyClock (clockReadings (before ++ (unlock ++ later))) →
      status = .controlFailedSystemVerified := by
  intro h
  have hrun := ends_play (interruptedFrom 2) exact.trialCheckFtst (0, 0, 0)
  have hrecovery := ends_play (interruptedFrom 2) (exact.trialRestoreUnlock.run untilRecovery.2.1.2)
    untilRecovery.2.2
  have hstatus : (play (interruptedFrom 2) exact.trialCheckFtst (0, 0, 0)).2.1 = .restoreFailed := by
    decide +kernel
  have hrestored : recoveryRun.2.1 = (true, recoveryRun.2.1.2) := by decide +kernel
  have hseen : safetyRead (some (quietObservation 1)) ∈ untilRecovery.1 := by decide +kernel
  have hsticky : Sticky (stopAnswers (untilRecovery.1 ++ (recoveryRun.1 ++ afterRecovery.1))) := by
    unfold Sticky
    decide +kernel
  have hstop : true ∈ stopAnswers afterRecovery.1 := by decide +kernel
  have hreads : baselineReads afterRecovery.1 = true := by decide +kernel
  have hclock : SteadyClock
      (clockReadings (untilRecovery.1 ++ (recoveryRun.1 ++ afterRecovery.1))) :=
    steadyClock_of_chain (by decide +kernel) (by decide +kernel)
  rw [interruptedRun_parts, hstatus] at hrun
  rw [hrestored] at hrecovery
  have hclaim := h exact _ _ _ _ _ _ _ hrun hseen rfl hrecovery hsticky hstop hreads hclock
  cases hclaim

end TrialBackend
end Ventilator
