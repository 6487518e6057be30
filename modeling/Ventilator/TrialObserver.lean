import Ventilator.TrialLogic
import Ventilator.CallTree

/-! The predicates on one observation and the read-only baseline window of
`trial_actions.c`, the window as a program over its observer's callbacks. -/
namespace Ventilator
open Double CallTree

structure TrialObservation where
  mode : Fin 2 → UInt8
  ftst : UInt8
  actualRpm : Fin 2 → Double
  targetRpm : Fin 2 → Double
  temperaturesC : Fin 3 → Double
  metricsAvailable : Bool
  deriving DecidableEq

def systemModesAndZeroTargets (observation : TrialObservation) : Bool :=
  (List.finRange 2).all fun fan =>
    observation.mode fan == 3 && (observation.targetRpm fan).isfinite &&
      !lt (finite 1) (fabs (observation.targetRpm fan))

def trialObservationIsBaseline (observation : TrialObservation) : Bool :=
  observation.ftst == 0 &&
    (List.finRange 2).all fun fan =>
      observation.mode fan == 3 && (observation.targetRpm fan).isfinite &&
        !lt (finite 1) (fabs (observation.targetRpm fan))

def modesReleased (observation : TrialObservation) : Bool :=
  (List.finRange 2).all fun fan =>
    (observation.mode fan == 0 || observation.mode fan == 3) &&
      (observation.targetRpm fan).isfinite && !lt (observation.targetRpm fan) (finite 0)

def temperaturesSafe (observation : TrialObservation) : Bool :=
  (List.finRange 3).all fun sensor =>
    (observation.temperaturesC sensor).isfinite &&
      !lt (observation.temperaturesC sensor) (finite 10) &&
      !le trialTemperatureLimitC (observation.temperaturesC sensor)

def readTimingValid (round : ℚ → Double) (started finished : Double) : Bool :=
  started.isfinite && le (finite 0) started && finished.isfinite && le started finished &&
    le (sub round finished started) (finite 5)

/-- The double nearest to `0.9`. -/
def sampleMinSeconds : Double := finite (8106479329266893 / 9007199254740992)

def sampleTimingValid (round : ℚ → Double) (previous started finished : Double) : Bool :=
  readTimingValid round started finished && le previous started &&
    le sampleMinSeconds (sub round finished previous) &&
    le (sub round finished previous) (finite 5)

/-! The read-only observation window, over its own callbacks. -/

inductive ObserverCall
  | shouldStop
  | monotonicSeconds
  | readObservation
  | recordObservation (second : ℕ) (observation : TrialObservation)
  | waitMilliseconds (milliseconds : ℕ)
  deriving DecidableEq

abbrev ObserverCall.Answer : ObserverCall → Type
  | shouldStop => Bool
  | monotonicSeconds => Double
  | readObservation => Option TrialObservation
  | recordObservation _ _ => Unit
  | waitMilliseconds _ => Bool

abbrev ObserverM := CallTree ObserverCall ObserverCall.Answer

namespace ObserverM

abbrev shouldStop : ObserverM Bool := perform ObserverCall.shouldStop
abbrev monotonicSeconds : ObserverM Double := perform ObserverCall.monotonicSeconds
abbrev readObservation : ObserverM (Option TrialObservation) := perform ObserverCall.readObservation
abbrev recordObservation (second : ℕ) (observation : TrialObservation) : ObserverM Unit :=
  perform (ObserverCall.recordObservation second observation)
abbrev waitMilliseconds (milliseconds : ℕ) : ObserverM Bool :=
  perform (ObserverCall.waitMilliseconds milliseconds)

end ObserverM

/-- Which callbacks of a `TrialBaselineObserver` are set, and how the platform rounds. -/
structure TrialBaselineObserver where
  hasReadObservation : Bool
  hasWaitMilliseconds : Bool
  hasShouldStop : Bool
  hasMonotonicSeconds : Bool
  hasRecordObservation : Bool
  round : ℚ → Double

inductive TrialBaselineStatus
  | stable
  | changed
  | readFailed
  | waitFailed
  | interrupted
  | timingFailed
  | invalid
  deriving DecidableEq

structure TrialBaselineResult where
  status : TrialBaselineStatus
  second : ℕ
  samples : ℕ
  deriving DecidableEq

/-- The variables of the window's loop. -/
structure WindowVars where
  windowStarted : Double
  previousSample : Double
  samples : ℕ
  deriving DecidableEq

/-- One round of the window's loop: a result, or the variables for the next second. -/
def observeSecond (round : ℚ → Double) (lastSecond second : ℕ) (vars : WindowVars) :
    ObserverM (TrialBaselineResult ⊕ WindowVars) := do
  if ← ObserverM.shouldStop then
    pure (.inl ⟨.interrupted, second, vars.samples⟩)
  else
    let readStarted ← ObserverM.monotonicSeconds
    if !readStarted.isfinite || lt readStarted (finite 0) then
      pure (.inl ⟨.timingFailed, second, vars.samples⟩)
    else
      match ← ObserverM.readObservation with
      | none => pure (.inl ⟨.readFailed, second, vars.samples⟩)
      | some observation =>
        let sampled ← ObserverM.monotonicSeconds
        if !(if second = 0 then readTimingValid round readStarted sampled
            else sampleTimingValid round vars.previousSample readStarted sampled) then
          pure (.inl ⟨.timingFailed, second, vars.samples⟩)
        else
          let windowStarted := if second = 0 then sampled else vars.windowStarted
          let samples := vars.samples + 1
          if ← ObserverM.shouldStop then
            pure (.inl ⟨.interrupted, second, samples⟩)
          else
            ObserverM.recordObservation second observation
            if !trialObservationIsBaseline observation then
              pure (.inl ⟨.changed, second, samples⟩)
            else if ← ObserverM.shouldStop then
              pure (.inl ⟨.interrupted, second, samples⟩)
            else if second = lastSecond then
              pure (.inl ⟨if le (finite lastSecond) (sub round sampled windowStarted) then .stable
                else .timingFailed, second, samples⟩)
            else if !(← ObserverM.waitMilliseconds 1000) then
              let stopped ← ObserverM.shouldStop
              pure (.inl ⟨if stopped then .interrupted else .waitFailed, second, samples⟩)
            else
              pure (.inr ⟨windowStarted, sampled, samples⟩)

/-- The loop returns in its last second at the latest, so nothing comes after it. -/
def trialObserveBaselineWindow (observer : TrialBaselineObserver) (lastSecond : ℕ) :
    ObserverM TrialBaselineResult :=
  if !observer.hasReadObservation || !observer.hasWaitMilliseconds ||
      !observer.hasShouldStop || !observer.hasMonotonicSeconds ||
      !observer.hasRecordObservation then
    pure ⟨.invalid, 0, 0⟩
  else
    forLoop (observeSecond observer.round lastSecond) (lastSecond + 1) ⟨finite 0, finite 0, 0⟩
      fun vars => pure ⟨.invalid, lastSecond, vars.samples⟩

end Ventilator
