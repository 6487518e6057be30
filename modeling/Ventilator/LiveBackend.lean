import Ventilator.SmcTransport

/-! The callbacks of `smc-write-trial.c`: a trial's backend and a read-only observer, both over
the SMC. -/
namespace Ventilator
open Double CallTree

namespace ProcessM

abbrev monotonicSeconds : ProcessM Double := ask ProcessCall.monotonicSeconds

end ProcessM

structure LiveBackend where
  knownKeys : LiveSnapshot
  allowedPlan : Option TrialPlan
  bufferEvents : Bool
  round : ℚ → Double

namespace LiveBackend
open ProcessM

def bufferWrite (backend : LiveBackend) (key : FourChars) (value : Double)
    (ok transportAttempted : Bool) : ProcessM Unit := do
  let state ← get
  if !backend.bufferEvents || 64 ≤ state.writes.length then pure ()
  else
    let time ← monotonicSeconds
    modify fun state => { state with writes := state.writes ++ [⟨key, time, value, ok,
      transportAttempted, state.kernelStatus, state.smcStatus⟩] }

/-- One exact write and its entry in the buffer. -/
def writeBuffered (backend : LiveBackend) (key type : FourChars) (size : UInt32)
    (bytes : List UInt8) (value : Double) : ProcessM Bool := do
  let (ok, attempted) ← writeKeyExact key type size bytes
  backend.bufferWrite key value ok attempted
  pure ok

def backendWriteMode (backend : LiveBackend) (fan : UInt32) (mode : UInt8) : ProcessM Bool :=
  if h : fan.toNat < 2 then
    if mode ≠ 0 ∧ mode ≠ 1 then pure false
    else
      let known := backend.knownKeys.fans ⟨fan.toNat, h⟩
      backend.writeBuffered known.modeKey typeUi8 1 [mode] (finite mode.toNat)
  else pure false

def backendWriteTarget (backend : LiveBackend) (fan : UInt32) (rpm : Double) : ProcessM Bool :=
  if !trialTargetWriteAllowed backend.round backend.allowedPlan fan rpm then pure false
  else if h : fan.toNat < 2 then
    let known := backend.knownKeys.fans ⟨fan.toNat, h⟩
    match trialEncodeRpm known.target.type known.target.size rpm with
    | none => pure false
    | some encoded =>
      backend.writeBuffered known.targetKey known.target.type known.target.size encoded rpm
  else pure false

def backendWriteFtst (backend : LiveBackend) (value : UInt8) : ProcessM Bool :=
  if value ≠ 0 ∧ value ≠ 1 then pure false
  else if !exactType backend.knownKeys.ftst.type typeUi8 || backend.knownKeys.ftst.size != 1 then
    pure false
  else backend.writeBuffered keyFtst typeUi8 1 [value] (finite value.toNat)

/-- Whether a fan's keys, types and sizes are still the known ones. -/
def sameFan (known live : FanLive) : Bool :=
  exactType known.modeKey live.modeKey && exactType known.targetKey live.targetKey &&
    exactType known.mode.type live.mode.type && known.mode.size == live.mode.size &&
    exactType known.target.type live.target.type && known.target.size == live.target.size

/-- One fan's mode, actual and target RPM. -/
def observeFan (known live : FanLive) (includeTemperatures : Bool) :
    Option (UInt8 × Double × Double) := do
  if !sameFan known live then none
  else
    let mode ← live.mode.readUi8Exact
    let target ← live.target.readNumber
    let actual ← if includeTemperatures then live.actual.readNumber else some (finite 0)
    some (mode, actual, target)

def backendReadObservation (backend : LiveBackend) (includeTemperatures : Bool) :
    SmcM TrialObservation := do
  let current ← readSnapshot includeTemperatures
  let ftst ← current.ftst.readUi8Exact.getM
  let first ← (observeFan (backend.knownKeys.fans 0) (current.fans 0) includeTemperatures).getM
  let second ← (observeFan (backend.knownKeys.fans 1) (current.fans 1) includeTemperatures).getM
  pure { mode := fun fan => if fan = 0 then first.1 else second.1
         ftst := ftst
         actualRpm := fun fan => if fan = 0 then first.2.1 else second.2.1
         targetRpm := fun fan => if fan = 0 then first.2.2 else second.2.2
         temperaturesC := current.temperaturesC
         metricsAvailable := includeTemperatures }

def backendRecord (backend : LiveBackend) (second : ℕ) (observation : TrialObservation) :
    ProcessM Unit := do
  let time ← monotonicSeconds
  if backend.bufferEvents then
    modify fun state =>
      if state.observations.length < 512 then
        { state with observations := state.observations ++ [⟨second, time, observation⟩] }
      else { state with observationOverflow := true }
  else pure ()

/-- A callback with any arguments it can be called with. -/
inductive Callback
  | writeMode (fan : UInt32) (mode : UInt8)
  | writeTarget (fan : UInt32) (rpm : Double)
  | writeFtst (value : UInt8)
  | readObservation (includeTemperatures : Bool)
  | waitMilliseconds (milliseconds : ℕ)
  | monotonicSeconds
  | shouldStop
  | recordObservation (second : ℕ) (observation : TrialObservation)

def invoke (backend : LiveBackend) : Callback → ProcessM Unit
  | .writeMode fan mode => discard (backend.backendWriteMode fan mode)
  | .writeTarget fan rpm => discard (backend.backendWriteTarget fan rpm)
  | .writeFtst value => discard (backend.backendWriteFtst value)
  | .readObservation includeTemperatures =>
    discard (backend.backendReadObservation includeTemperatures).run
  | .waitMilliseconds milliseconds =>
    discard (ask (ProcessCall.sleepMillisecondsUninterruptible milliseconds))
  | .monotonicSeconds => discard ProcessM.monotonicSeconds
  | .shouldStop => discard (ask ProcessCall.interrupted)
  | .recordObservation second observation => backend.backendRecord second observation

/-- A sequence of callbacks on one backend. -/
def invokeAll (backend : LiveBackend) : List Callback → ProcessM Unit
  | [] => pure ()
  | callback :: callbacks => do
    backend.invoke callback
    backend.invokeAll callbacks

/-- The callbacks `trial_backend` sets, as the trials' actions call them. -/
def handler (backend : LiveBackend) : (c : TrialCall) → ProcessM c.Answer
  | .writeMode fan mode => backend.backendWriteMode fan.val.toUInt32 mode
  | .writeTarget fan rpm => backend.backendWriteTarget fan.val.toUInt32 rpm
  | .writeFtst value => backend.backendWriteFtst value
  | .readObservation includeTemperatures => (backend.backendReadObservation includeTemperatures).run
  | .waitMilliseconds milliseconds => ask (ProcessCall.sleepMillisecondsUninterruptible milliseconds)
  | .monotonicSeconds => monotonicSeconds
  | .shouldStop => ask ProcessCall.interrupted
  | .recordObservation second observation => backend.backendRecord second observation

/-- `trial_backend`: every callback is set. -/
def trialBackend (backend : LiveBackend) : TrialBackend :=
  ⟨true, true, true, true, true, true, true, true, backend.round⟩

/-- A new `LiveBackend` begins with empty buffers. -/
def resetBuffers : ProcessM Unit :=
  modify fun state =>
    { state with writes := [], observations := [], observationOverflow := false }

/-- An action of the trials run on a new backend, with the flag it was given a pointer to. -/
def runAction {α : Type} (backend : LiveBackend) (action : TrialM α) : ProcessM α := do
  resetBuffers
  handle backend.handler (action.run' false)

end LiveBackend

/-! The read-only observer. -/
namespace BaselineObserver
open ProcessM

def observeFan (live : FanLive) : Option (UInt8 × Double × Double) := do
  let mode ← live.mode.readUi8Exact
  let actual ← live.actual.readNumber
  let target ← live.target.readNumber
  some (mode, actual, target)

def baselineObserverRead : SmcM TrialObservation := do
  let snapshot ← readSnapshot true
  let ftst ← snapshot.ftst.readUi8Exact.getM
  let first ← (observeFan (snapshot.fans 0)).getM
  let second ← (observeFan (snapshot.fans 1)).getM
  OptionT.lift (discard monotonicSeconds)
  pure { mode := fun fan => if fan = 0 then first.1 else second.1
         ftst := ftst
         actualRpm := fun fan => if fan = 0 then first.2.1 else second.2.1
         targetRpm := fun fan => if fan = 0 then first.2.2 else second.2.2
         temperaturesC := snapshot.temperaturesC
         metricsAvailable := true }

/-- The observer's callbacks; recording an observation only prints it. -/
def handler : (c : ObserverCall) → ProcessM c.Answer
  | .shouldStop => ask ProcessCall.interrupted
  | .monotonicSeconds => monotonicSeconds
  | .readObservation => baselineObserverRead.run
  | .recordObservation _ _ => pure ()
  | .waitMilliseconds milliseconds => ask (ProcessCall.sleepMilliseconds milliseconds)

def observer (round : ℚ → Double) : TrialBaselineObserver := ⟨true, true, true, true, true, round⟩

end BaselineObserver
end Ventilator
