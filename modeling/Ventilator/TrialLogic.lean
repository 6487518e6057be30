import Ventilator.SmcValue

/-! The pure checks of `trial_logic.c`: the plan of a trial, the encoding of a target and which
targets may be written. -/
namespace Ventilator
open Double

structure TrialFanState where
  actualRpm : Double
  targetRpm : Double
  minRpm : Double
  maxRpm : Double
  mode : UInt8
  modeType : FourChars
  modeSize : UInt32
  targetType : FourChars
  targetSize : UInt32

/-- A text that is `none` is a null pointer. -/
structure TrialPreflight where
  model : Option String
  osVersion : Option String
  fanCount : UInt32
  ftst : UInt8
  ftstType : FourChars
  ftstSize : UInt32
  fans : Fin 2 → TrialFanState
  temperaturesC : Fin 5 → Fin 3 → Double

structure TrialPlan where
  targetRpm : Fin 2 → Double
  deriving DecidableEq

def trialExpectedModel : String := "Mac15,7"
def trialExpectedOsVersion : String := "27.0"
def trialTargetDeltaRpm : Double := finite 300
def trialTemperatureLimitC : Double := finite 75
def trialTemperatureMaxRiseC : Double := finite 5

/-- The double nearest to `0.15`. -/
def targetTolerance : Double := finite (5404319552844595 / 36028797018963968)

/-- The double nearest to `0.01`. -/
def planTolerance : Double := finite (5764607523034235 / 576460752303423488)

def supportedTargetType (type : FourChars) (size : UInt32) : Bool :=
  (exactType type typeFlt && size == 4) || (exactType type typeFpe2 && size == 2)

/-- The target of one fan, or why it has none. -/
def planFan (round : ℚ → Double) (fan : TrialFanState) : Except String Double :=
  if fan.mode ≠ 3 ∨ ¬ exactType fan.modeType typeUi8 ∨ fan.modeSize ≠ 1 then
    .error "a fan mode is not the expected ui8 system value 3"
  else if !fan.actualRpm.isfinite || !fan.targetRpm.isfinite || !fan.minRpm.isfinite ||
      !fan.maxRpm.isfinite || lt fan.actualRpm (finite 0) || lt (finite 1) (fabs fan.targetRpm) ||
      lt fan.minRpm (finite 0) || le fan.maxRpm fan.minRpm then
    .error "a fan RPM value or range is invalid"
  else if !supportedTargetType fan.targetType fan.targetSize then
    .error "a target key has an unsupported type or size"
  else
    let target := add round (fmax fan.actualRpm fan.minRpm) trialTargetDeltaRpm
    if !target.isfinite || lt fan.maxRpm target then
      .error "a fan has less than 300 RPM of safe headroom"
    else .ok target

/-- The sensors whose rise from the first sample to the last is checked, all but the hotspot. -/
def trendSensors : List (Fin 3) := [1, 2]

def trialMakePlan (round : ℚ → Double) (input : TrialPreflight) : Except String TrialPlan :=
  if input.model ≠ some trialExpectedModel then .error "model is not exactly Mac15,7"
  else if input.osVersion ≠ some trialExpectedOsVersion then
    .error "macOS version is not exactly 27.0"
  else if input.fanCount ≠ 2 then .error "fan count is not exactly two"
  else if ¬ exactType input.ftstType typeUi8 ∨ input.ftstSize ≠ 1 ∨ input.ftst ≠ 0 then
    .error "Ftst is not an unlocked ui8 value of zero"
  else if (List.finRange 5).any fun sample => (List.finRange 3).any fun sensor =>
      !(input.temperaturesC sample sensor).isfinite ||
        lt (input.temperaturesC sample sensor) (finite 10) ||
        le trialTemperatureLimitC (input.temperaturesC sample sensor) then
    .error "a required temperature is unavailable or too high"
  else if trendSensors.any fun sensor => lt trialTemperatureMaxRiseC
      (sub round (input.temperaturesC 4 sensor) (input.temperaturesC 0 sensor)) then
    .error "a required temperature trend rose by more than 5 C"
  else do
    let first ← planFan round (input.fans 0)
    let second ← planFan round (input.fans 1)
    pure ⟨fun fan => if fan = 0 then first else second⟩

/-- The encoded bytes, as many as `output_size` says. -/
def trialEncodeRpm (type : FourChars) (size : UInt32) (rpm : Double) : Option (List UInt8) :=
  if !rpm.isfinite || lt rpm (finite 0) then none
  else if exactType type typeFlt ∧ size = 4 then
    let bits := Binary32.ofDouble rpm
    some [bits.toUInt8, (bits >>> 8).toUInt8, (bits >>> 16).toUInt8, (bits >>> 24).toUInt8]
  else if exactType type typeFpe2 ∧ size = 2 ∧ le rpm (finite 16383) then
    let encoded : UInt16 := ⌊rpm.value * 4⌋₊.toUInt16
    some [(encoded >>> 8).toUInt8, encoded.toUInt8]
  else none

def trialActualReachedTarget (round : ℚ → Double) (baselineRpm actualRpm targetRpm : Double) :
    Bool :=
  if !baselineRpm.isfinite || !actualRpm.isfinite || !targetRpm.isfinite then false
  else if le actualRpm baselineRpm then false
  else
    let tolerance := fmax (finite 250) (mul round targetRpm targetTolerance)
    le (fabs (sub round actualRpm targetRpm)) tolerance

/-- Whether `rpm` is zero or within 0.01 of the fan's planned target. -/
def plannedRpm (round : ℚ → Double) (plan : Option TrialPlan) (fan : Fin 2) (rpm : Double) :
    Bool :=
  rpm.value? == some 0 ||
    plan.any fun plan => (plan.targetRpm fan).isfinite &&
      le (fabs (sub round rpm (plan.targetRpm fan))) planTolerance

def trialTargetWriteAllowed (round : ℚ → Double) (plan : Option TrialPlan) (fan : UInt32)
    (rpm : Double) : Bool :=
  if !rpm.isfinite || lt rpm (finite 0) then false
  else if h : fan.toNat < 2 then plannedRpm round plan ⟨fan.toNat, h⟩ rpm
  else false

end Ventilator
