import Ventilator.TrialObserver

/-! The trial's actions of `trial_actions.c` as programs over their backend callbacks. Every
callback may answer anything at any time. -/
namespace Ventilator
open Double CallTree

/-- The callbacks of `TrialBackend`; a read that fails gives no observation. -/
inductive TrialCall
  | writeMode (fan : Fin 2) (mode : UInt8)
  | writeTarget (fan : Fin 2) (rpm : Double)
  | writeFtst (value : UInt8)
  | readObservation (includeTemperatures : Bool)
  | waitMilliseconds (milliseconds : ℕ)
  | monotonicSeconds
  | shouldStop
  | recordObservation (second : ℕ) (observation : TrialObservation)
  deriving DecidableEq

abbrev TrialCall.Answer : TrialCall → Type
  | writeMode _ _ => Bool
  | writeTarget _ _ => Bool
  | writeFtst _ => Bool
  | readObservation _ => Option TrialObservation
  | waitMilliseconds _ => Bool
  | monotonicSeconds => Double
  | shouldStop => Bool
  | recordObservation _ _ => Unit

/-- The fixed part of a backend: which callbacks are set, and how the platform rounds. -/
structure TrialBackend where
  hasWriteMode : Bool
  hasWriteTarget : Bool
  hasWriteFtst : Bool
  hasReadObservation : Bool
  hasWaitMilliseconds : Bool
  hasMonotonicSeconds : Bool
  hasShouldStop : Bool
  hasRecordObservation : Bool
  round : ℚ → Double

inductive TrialRunStatus
  | succeeded
  | baselineRejected
  | controlFailedSystemVerified
  | writeEffectUnverified
  | restoreFailed
  deriving DecidableEq

/-- A program over the backend. Its state is `*observed_fan_state_change`, kept whether or not
the caller gave a pointer to it. -/
abbrev TrialM := StateT Bool (CallTree TrialCall TrialCall.Answer)

namespace TrialM

abbrev writeMode (fan : Fin 2) (mode : UInt8) : TrialM Bool := ask (TrialCall.writeMode fan mode)
abbrev writeTarget (fan : Fin 2) (rpm : Double) : TrialM Bool :=
  ask (TrialCall.writeTarget fan rpm)
abbrev writeFtst (value : UInt8) : TrialM Bool := ask (TrialCall.writeFtst value)
abbrev readObservation (includeTemperatures : Bool) : TrialM (Option TrialObservation) :=
  ask (TrialCall.readObservation includeTemperatures)
abbrev waitMilliseconds (milliseconds : ℕ) : TrialM Bool :=
  ask (TrialCall.waitMilliseconds milliseconds)
abbrev monotonicSeconds : TrialM Double := ask TrialCall.monotonicSeconds
abbrev shouldStop : TrialM Bool := ask TrialCall.shouldStop

end TrialM

namespace TrialBackend
open TrialM

def record (backend : TrialBackend) (second : ℕ) (observation : TrialObservation) :
    TrialM Unit :=
  if backend.hasRecordObservation then ask (TrialCall.recordObservation second observation)
  else pure ()

def noteFanState (observation : TrialObservation) : TrialM Unit :=
  modify fun changed => changed || !systemModesAndZeroTargets observation

/-- The wait of a loop that goes on with another attempt. -/
def pauseIf (more : Bool) (milliseconds : ℕ) : TrialM Unit :=
  if more then discard (waitMilliseconds milliseconds) else pure ()

/-- The loop of `retry_mode` and `retry_target`. -/
def retry (write : TrialM Bool) : TrialM Bool :=
  forLoop (fun attempt () => do
    if ← write then pure (.inl true)
    else
      pauseIf (attempt + 1 < 10) 50
      pure (.inr ())) 10 () fun () => pure false

def retryMode (fan : Fin 2) (mode : UInt8) : TrialM Bool := retry (writeMode fan mode)

def retryTarget (fan : Fin 2) (rpm : Double) : TrialM Bool := retry (writeTarget fan rpm)

def restoreFan (fan : Fin 2) : TrialM Unit := do
  discard (retryMode fan 0)
  discard (retryTarget fan (finite 0))

def verifySystem : TrialM Bool :=
  forLoop (fun second () => do
    if (← readObservation false).any trialObservationIsBaseline then pure (.inl true)
    else
      pauseIf (second < 5) 1000
      pure (.inr ())) 6 () fun () => pure false

def trialRestoreSystem (backend : TrialBackend) : TrialM Bool :=
  if !backend.hasWriteMode || !backend.hasWriteTarget || !backend.hasReadObservation ||
      !backend.hasWaitMilliseconds then pure false
  else do
    if (← readObservation false).any trialObservationIsBaseline then pure true
    else
      restoreFan 0
      restoreFan 1
      verifySystem

/-- The observer's callbacks as `trial_observe_after_ftst` builds them from a backend's. -/
def observerHandler (backend : TrialBackend) : (c : ObserverCall) → TrialM c.Answer
  | .shouldStop => shouldStop
  | .monotonicSeconds => monotonicSeconds
  | .readObservation => do
    let observation ← readObservation false
    match observation with
    | none => pure none
    | some current => do
      noteFanState current
      pure (some current)
  | .recordObservation second observation => backend.record second observation
  | .waitMilliseconds milliseconds => waitMilliseconds milliseconds

def observer (backend : TrialBackend) : TrialBaselineObserver :=
  ⟨true, true, true, true, true, backend.round⟩

def trialObserveAfterFtst (backend : TrialBackend) : TrialM TrialBaselineResult :=
  handle backend.observerHandler (trialObserveBaselineWindow backend.observer 60)

/-- `restore(backend) && trial_observe_after_ftst(backend).status == TRIAL_BASELINE_STABLE`. -/
def restoredAndStable (backend : TrialBackend) (restore : TrialM Bool) : TrialM Bool := do
  if !(← restore) then pure false
  else
    let result ← backend.trialObserveAfterFtst
    pure (result.status == .stable)

/-- The callbacks `trial_restore_unlock` and both Ftst trials refuse to go without. -/
def ftstCallbacks (backend : TrialBackend) : Bool :=
  backend.hasWriteFtst && backend.hasWriteMode && backend.hasWriteTarget &&
    backend.hasReadObservation && backend.hasWaitMilliseconds && backend.hasMonotonicSeconds &&
    backend.hasShouldStop

/-! `trial_restore_unlock`, in the order of its phases. -/

/-- The first successful read of at most three. -/
def readForRelease : TrialM (Option TrialObservation) :=
  forLoop (fun attempt () => do
    match ← readObservation false with
    | some current =>
      noteFanState current
      pure (.inl (some current))
    | none =>
      pauseIf (attempt + 1 < 3) 50
      pure (.inr ())) 3 () fun () => pure none

def releaseManualMode (current : TrialObservation) (fan : Fin 2) : TrialM Bool :=
  if current.mode fan = 1 then retryMode fan 0 else pure true

/-- One fan of the single zero-target pass; `false` leaves the pass. -/
def lowerTarget (fan : Fin 2) : TrialM Bool := do
  match ← readObservation false with
  | none => pure false
  | some current =>
    if current.ftst ≠ 1 ∨ current.mode 0 ≠ 0 ∨ current.mode 1 ≠ 0 ∨
        ¬ modesReleased current then pure false
    else do
      noteFanState current
      if lt (finite 1) (current.targetRpm fan) then
        discard (writeTarget fan (finite 0))
        pure true
      else pure true

def lowerPass : TrialM Unit := do
  if ← lowerTarget 0 then discard (lowerTarget 1) else pure ()

def lowerTargets (backend : TrialBackend) (current : TrialObservation) : TrialM Bool :=
  if current.mode 0 = 0 ∧ current.mode 1 = 0 ∧
      (lt (finite 1) (current.targetRpm 0) ∨ lt (finite 1) (current.targetRpm 1)) then do
    lowerPass
    match ← readObservation false with
    | none => pure false
    | some current =>
      if ¬ modesReleased current then pure false
      else do
        noteFanState current
        backend.record 0 current
        pure (current.ftst == 1)
  else pure true

/-- What the phases before the release came to: a return, or the release with
`delayed_change`. -/
inductive Preparation
  | returned (result : Bool)
  | ready (delayedChange : Bool)
  deriving DecidableEq

def prepareFrom (backend : TrialBackend) (current : TrialObservation) (delayedChange : Bool) :
    TrialM Preparation :=
  if current.ftst = 0 then do
    let restored ← backend.restoredAndStable backend.trialRestoreSystem
    pure (.returned (restored && !delayedChange))
  else if current.ftst ≠ 1 then pure (.returned false)
  else do
    if !(← releaseManualMode current 0) then pure (.returned false)
    else if !(← releaseManualMode current 1) then pure (.returned false)
    else
      match ← readObservation false with
      | none => pure (.returned false)
      | some current =>
        if current.ftst ≠ 1 ∨ ¬ modesReleased current then pure (.returned false)
        else do
          noteFanState current
          backend.record 0 current
          if ← backend.lowerTargets current then pure (.ready delayedChange)
          else pure (.returned false)

def prepareRelease (backend : TrialBackend) : TrialM Preparation := do
  match ← readForRelease with
  | none => pure (.returned false)
  | some current => do
    backend.record 0 current
    if trialObservationIsBaseline current then
      let result ← backend.trialObserveAfterFtst
      if result.status = .stable then pure (.returned true)
      else if result.status ≠ .changed then pure (.returned false)
      else
        match ← readObservation false with
        | none => pure (.returned false)
        | some current => do
          noteFanState current
          backend.prepareFrom current true
    else backend.prepareFrom current false

inductive ReleaseResult
  | cleared
  | pending
  | failed
  deriving DecidableEq

/-- One read after an `Ftst = 0` write. -/
def awaitClearedSecond (backend : TrialBackend) (second : ℕ) :
    TrialM (ReleaseResult ⊕ Unit) := do
  match ← readObservation false with
  | none => pure (.inl .failed)
  | some afterWrite =>
    if ¬ modesReleased afterWrite then pure (.inl .failed)
    else
      noteFanState afterWrite
      backend.record second afterWrite
      if afterWrite.ftst = 0 then pure (.inl .cleared)
      else if afterWrite.ftst ≠ 1 then pure (.inl .failed)
      else if !(← waitMilliseconds 1000) then pure (.inl .failed)
      else pure (.inr ())

def awaitCleared (backend : TrialBackend) : TrialM ReleaseResult :=
  forLoop (fun second () => backend.awaitClearedSecond second) 10 () fun () => pure .pending

def clearFtst (backend : TrialBackend) : TrialM Bool :=
  forLoop (fun _ () => do
    discard (writeFtst 0)
    match ← backend.awaitCleared with
    | .cleared => pure (.inl true)
    | .failed => pure (.inl false)
    | .pending => pure (.inr ())) 3 () fun () => pure false

/-- The variables of the loop after the release. -/
structure PostClear where
  stableSamples : ℕ
  stableStarted : Double
  previousSample : Double
  havePreviousSample : Bool
  deriving DecidableEq

def PostClear.start : PostClear := ⟨0, finite 0, finite 0, false⟩

def PostClear.timingValid (state : PostClear) (round : ℚ → Double) (readStarted sampled : Double) :
    Bool :=
  if state.havePreviousSample then sampleTimingValid round state.previousSample readStarted sampled
  else readTimingValid round readStarted sampled

def PostClear.count (state : PostClear) (observation : TrialObservation) (sampled : Double) :
    PostClear :=
  if trialObservationIsBaseline observation then
    ⟨state.stableSamples + 1, if state.stableSamples = 0 then sampled else state.stableStarted,
      sampled, true⟩
  else ⟨0, state.stableStarted, sampled, true⟩

/-- The one-shot recovery of a pair that is still fully released ten seconds after. -/
def fallback (backend : TrialBackend) (second : ℕ) (observation : TrialObservation)
    (state : PostClear) : TrialM PostClear :=
  if second = 10 ∧ observation.mode 0 = 0 ∧ observation.mode 1 = 0 then do
    discard backend.trialRestoreSystem
    pure { state with stableSamples := 0, havePreviousSample := false }
  else pure state

/-- One round of the loop after the release. -/
def awaitBaselineSecond (backend : TrialBackend) (delayedChange : Bool) (second : ℕ)
    (state : PostClear) : TrialM (Bool ⊕ PostClear) := do
  let readStarted ← monotonicSeconds
  match ← readObservation false with
  | none => pure (.inl false)
  | some observation =>
    if observation.ftst ≠ 0 ∨ ¬ modesReleased observation then pure (.inl false)
    else
      let sampled ← monotonicSeconds
      if !state.timingValid backend.round readStarted sampled then pure (.inl false)
      else
        noteFanState observation
        backend.record second observation
        let counted := state.count observation sampled
        if 60 < counted.stableSamples ∧
            le (finite 60) (sub backend.round sampled counted.stableStarted) then
          pure (.inl !delayedChange)
        else
          let next ← backend.fallback second observation counted
          if second = 90 then pure (.inr next)
          else if !(← waitMilliseconds 1000) then pure (.inl false)
          else pure (.inr next)

def awaitBaseline (backend : TrialBackend) (delayedChange : Bool) : TrialM Bool :=
  forLoop (backend.awaitBaselineSecond delayedChange) 91 .start fun _ => pure false

/-- The release and the loop after it. -/
def releaseAndWait (backend : TrialBackend) (delayedChange : Bool) : TrialM Bool := do
  if ← backend.clearFtst then backend.awaitBaseline delayedChange
  else pure false

def trialRestoreUnlock (backend : TrialBackend) : TrialM Bool :=
  if !backend.ftstCallbacks then pure false
  else do
    match ← backend.prepareRelease with
    | .returned result => pure result
    | .ready delayedChange => backend.releaseAndWait delayedChange

/-! The three trials. -/

/-- The reads after `Ftst = 1`: the observation that is no longer the baseline, if one comes. -/
def awaitEffect (backend : TrialBackend) : TrialM (Option TrialObservation) :=
  forLoop (fun halfSecond () => do
    match ← readObservation true with
    | none => pure (.inl none)
    | some afterWrite =>
      backend.record halfSecond afterWrite
      noteFanState afterWrite
      if !trialObservationIsBaseline afterWrite then pure (.inl (some afterWrite))
      else if !temperaturesSafe afterWrite then pure (.inl none)
      else if ← shouldStop then pure (.inl none)
      else if halfSecond = 20 then pure (.inl none)
      else if !(← waitMilliseconds 500) then pure (.inl none)
      else pure (.inr ())) 21 () fun () => pure none

def unlockChecked (backend : TrialBackend) (writeOk : Bool) (afterWrite : TrialObservation)
    (started : Double) : TrialM Bool :=
  if writeOk && afterWrite.ftst == 1 && systemModesAndZeroTargets afterWrite &&
      temperaturesSafe afterWrite then do
    let now ← monotonicSeconds
    if !lt (sub backend.round now started) (finite 5) then pure false
    else
      let stop ← shouldStop
      pure !stop
  else pure false

/-- The recovery both Ftst trials end with: `settle` decides after a stable observation, and
`again` is the status after a second recovery. -/
def recoverUnlock (backend : TrialBackend) (settle : TrialM TrialRunStatus)
    (again : TrialRunStatus) : TrialM TrialRunStatus := do
  if !(← backend.trialRestoreUnlock) then
    let result ← backend.trialObserveAfterFtst
    pure (if result.status = .stable then .controlFailedSystemVerified else .restoreFailed)
  else
    let result ← backend.trialObserveAfterFtst
    if result.status ≠ .stable then
      if !(← backend.restoredAndStable backend.trialRestoreUnlock) then pure .restoreFailed
      else pure again
    else settle

def settleEffect (unlockOk : Bool) : TrialM TrialRunStatus := do
  let changed ← get
  pure (if unlockOk && !changed then .succeeded else .controlFailedSystemVerified)

/-- The branch of `trial_check_ftst` after an observed effect. -/
def recoverEffect (backend : TrialBackend) (unlockOk : Bool) : TrialM TrialRunStatus :=
  backend.recoverUnlock (settleEffect unlockOk) .controlFailedSystemVerified

/-- The branch of `trial_check_ftst` that saw no effect and releases explicitly. -/
def releaseUnseen (backend : TrialBackend) : TrialM TrialRunStatus := do
  let releaseOk ← writeFtst 0
  let later ← backend.trialObserveAfterFtst
  if later.status ≠ .stable then
    if !(← backend.restoredAndStable backend.trialRestoreUnlock) then pure .restoreFailed
    else pure (if !releaseOk then .restoreFailed else .writeEffectUnverified)
  else pure (if !releaseOk then .restoreFailed else .writeEffectUnverified)

/-- The baseline checks before either Ftst trial writes; the start time if they pass. -/
def admitFtst : TrialM (Option Double) := do
  match ← readObservation true with
  | none => pure none
  | some baseline =>
    if !trialObservationIsBaseline baseline || !temperaturesSafe baseline then pure none
    else if ← shouldStop then pure none
    else
      let started ← monotonicSeconds
      pure (if !started.isfinite || lt started (finite 0) then none else some started)

def checkFtst (backend : TrialBackend) : TrialM TrialRunStatus := do
  match ← admitFtst with
  | none => pure .baselineRejected
  | some started =>
    let writeOk ← writeFtst 1
    match ← backend.awaitEffect with
    | some afterWrite =>
      let unlockOk ← backend.unlockChecked writeOk afterWrite started
      backend.recoverEffect unlockOk
    | none => backend.releaseUnseen

/-- `trial_check_ftst` keeps a flag of its own in place of its caller's. -/
def trialCheckFtst (backend : TrialBackend) :
    CallTree TrialCall TrialCall.Answer TrialRunStatus :=
  if !backend.ftstCallbacks then pure .restoreFailed
  else backend.checkFtst.run' false

/-- Whether both targets lie within 1 RPM of the given minimum. -/
def minimumTargets (minimumRpm : Fin 2 → Double) (round : ℚ → Double)
    (current : TrialObservation) : Bool :=
  (List.finRange 2).all fun fan =>
    (current.targetRpm fan).isfinite &&
      !lt (finite 1) (fabs (sub round (current.targetRpm fan) (minimumRpm fan)))

/-- The reads of the rehearsal; the answer is `saw_ftst_one` and `saw_minimum_targets`. -/
def awaitMinimum (backend : TrialBackend) (minimumRpm : Fin 2 → Double) (started : Double) :
    TrialM (Bool × Bool) :=
  forLoop (fun halfSecond sawFtstOne => do
    if ← shouldStop then pure (.inl (sawFtstOne, false))
    else
      match ← readObservation true with
      | none => pure (.inl (sawFtstOne, false))
      | some current =>
        backend.record halfSecond current
        let now ← monotonicSeconds
        let elapsed := sub backend.round now started
        if !elapsed.isfinite || lt elapsed (finite 0) || lt (finite 5) elapsed then
          pure (.inl (sawFtstOne, false))
        else if !temperaturesSafe current then pure (.inl (sawFtstOne, false))
        else if current.ftst = 1 ∧ current.mode 0 = 0 ∧ current.mode 1 = 0 then
          pure (.inl (true, minimumTargets minimumRpm backend.round current))
        else if current.ftst = 1 ∧ ¬ systemModesAndZeroTargets current then
          pure (.inl (true, false))
        else if current.ftst ≠ 1 ∧ (current.ftst ≠ 0 ∨ ¬ systemModesAndZeroTargets current) then
          pure (.inl (sawFtstOne, false))
        else
          let sawFtstOne := sawFtstOne || current.ftst == 1
          if le (finite 5) elapsed then pure (.inl (sawFtstOne, false))
          else if halfSecond = 10 then pure (.inl (sawFtstOne, false))
          else if !(← waitMilliseconds 500) then pure (.inl (sawFtstOne, false))
          else pure (.inr sawFtstOne)) 11 false fun sawFtstOne => pure (sawFtstOne, false)

/-- The recovery that ends the rehearsal. -/
def recoverMinimum (backend : TrialBackend) (writeOk sawFtstOne sawMinimumTargets : Bool) :
    TrialM TrialRunStatus :=
  backend.recoverUnlock
    (pure (if !writeOk || !sawFtstOne then .writeEffectUnverified
      else if sawMinimumTargets then .succeeded else .controlFailedSystemVerified))
    (if !writeOk || !sawFtstOne then .writeEffectUnverified else .controlFailedSystemVerified)

def trialRehearseFtstMinimumRecovery (backend : TrialBackend) (minimumRpm : Fin 2 → Double) :
    TrialM TrialRunStatus :=
  if !backend.ftstCallbacks then pure .restoreFailed
  else if (List.finRange 2).any fun fan =>
      !(minimumRpm fan).isfinite || le (minimumRpm fan) (finite 0) then pure .baselineRejected
  else do
    match ← admitFtst with
    | none => pure .baselineRejected
    | some started =>
      let writeOk ← writeFtst 1
      let (sawFtstOne, sawMinimumTargets) ←
        backend.awaitMinimum minimumRpm started
      backend.recoverMinimum writeOk sawFtstOne sawMinimumTargets

def manualStateMatches (observation : TrialObservation) (plan : TrialPlan)
    (requireTemperatures : Bool) (round : ℚ → Double) : Bool :=
  observation.ftst == 0 &&
    ((List.finRange 2).all fun fan =>
      observation.mode fan == 1 && (observation.targetRpm fan).isfinite &&
        !lt (finite 1) (fabs (sub round (observation.targetRpm fan) (plan.targetRpm fan)))) &&
    (!requireTemperatures || temperaturesSafe observation)

/-- One fan's manual mode and target, within 250 ms of each other. -/
def enterManual (backend : TrialBackend) (plan : TrialPlan) (fan : Fin 2) : TrialM Bool := do
  if ← shouldStop then pure false
  else if !(← writeMode fan 1) then pure false
  else
    let targetWindowStarted ← monotonicSeconds
    if !(← writeTarget fan (plan.targetRpm fan)) then pure false
    else
      let now ← monotonicSeconds
      pure !lt (finite (1 / 4)) (sub backend.round now targetWindowStarted)

/-- The clock check `monotonic_seconds() - manual_started >= 15.0`. -/
def manualExpired (backend : TrialBackend) (manualStarted : Double) : TrialM Bool := do
  let now ← monotonicSeconds
  pure (le (finite 15) (sub backend.round now manualStarted))

def reachedTargets (backend : TrialBackend) (plan : TrialPlan) (baselineRpm : Fin 2 → Double)
    (observation : TrialObservation) : Bool :=
  (List.finRange 2).all fun fan =>
    trialActualReachedTarget backend.round (baselineRpm fan) (observation.actualRpm fan)
      (plan.targetRpm fan)

/-- The five manual seconds; the answer is `control_ok`. -/
def observeManual (backend : TrialBackend) (plan : TrialPlan) (baselineRpm : Fin 2 → Double)
    (manualStarted : Double) : TrialM Bool :=
  forLoop (fun index () => do
    let second := index + 1
    if ← shouldStop then pure (.inl false)
    else if ← backend.manualExpired manualStarted then pure (.inl false)
    else if !(← waitMilliseconds 1000) then pure (.inl false)
    else if ← shouldStop then pure (.inl false)
    else
      match ← readObservation true with
      | none => pure (.inl false)
      | some observation =>
        if !manualStateMatches observation plan true backend.round then pure (.inl false)
        else if ← backend.manualExpired manualStarted then pure (.inl false)
        else
          backend.record second observation
          if second = 5 then pure (.inl (backend.reachedTargets plan baselineRpm observation))
          else pure (.inr ())) 5 () fun () => pure true

/-- The manual phase; its answer is `control_ok` and `manual_state_observed`. -/
def controlManual (backend : TrialBackend) (plan : TrialPlan) (baselineRpm : Fin 2 → Double) :
    TrialM (Bool × Bool) := do
  let manualStarted ← monotonicSeconds
  if !(← backend.enterManual plan 0) then pure (false, false)
  else if !(← backend.enterManual plan 1) then pure (false, false)
  else
    let observation ← readObservation true
    if !observation.any fun o => manualStateMatches o plan true backend.round then
      pure (false, false)
    else if ← backend.manualExpired manualStarted then pure (false, true)
    else
      let controlOk ← backend.observeManual plan baselineRpm manualStarted
      pure (controlOk, true)

def trialExecuteDirect (backend : TrialBackend) (plan : TrialPlan)
    (baselineRpm : Fin 2 → Double) : TrialM TrialRunStatus :=
  if !backend.hasWriteMode || !backend.hasWriteTarget || !backend.hasReadObservation ||
      !backend.hasWaitMilliseconds || !backend.hasMonotonicSeconds ||
      !backend.hasShouldStop then pure .restoreFailed
  else do
    let (controlOk, manualStateObserved) ← backend.controlManual plan baselineRpm
    if !(← backend.trialRestoreSystem) then pure .restoreFailed
    else
      let status : TrialRunStatus :=
        if !manualStateObserved then .writeEffectUnverified
        else if controlOk then .succeeded else .controlFailedSystemVerified
      let result ← backend.trialObserveAfterFtst
      if result.status ≠ .stable then
        if !(← backend.restoredAndStable backend.trialRestoreSystem) then pure .restoreFailed
        else pure status
      else pure status

end TrialBackend
end Ventilator
