import Ventilator.TrialActions

/-! The calls the trial's process makes to its platform, and the SMC reads and the one SMC write
built from them, of `smc-write-trial.c`. Every call may be answered in any way. -/
namespace Ventilator
open Double CallTree

/-- The fields of an `SmcKeyData` request that are ever set. -/
structure SmcRequest where
  key : UInt32
  size : UInt32
  command : UInt8
  bytes : SmcBytes
  deriving DecidableEq

/-- The kernel's status and the fields of an `SmcKeyData` response that are ever read. -/
structure SmcResponse where
  kernelStatus : UInt32
  outputSize : ℕ
  result : UInt8
  size : UInt32
  type : UInt32
  bytes : SmcBytes
  deriving DecidableEq

namespace SmcRequest

def smcReadBytes : UInt8 := 5
def smcWriteBytes : UInt8 := 6
def smcReadKeyInfo : UInt8 := 9

def keyInfo (name : FourChars) : SmcRequest := ⟨fourcc name, 0, smcReadKeyInfo, .zero⟩

def read (name : FourChars) (size : UInt32) : SmcRequest :=
  ⟨fourcc name, size, smcReadBytes, .zero⟩

def write (name : FourChars) (size : UInt32) (bytes : List UInt8) : SmcRequest :=
  ⟨fourcc name, size, smcWriteBytes, .ofList bytes⟩

def isWrite (request : SmcRequest) : Bool := request.command == smcWriteBytes

end SmcRequest

inductive ProcessCall
  | smcCall (request : SmcRequest)
  | monotonicSeconds
  | sleepMilliseconds (milliseconds : ℕ)
  | sleepMillisecondsUninterruptible (milliseconds : ℕ)
  | interrupted
  | sysctlString (name : String)
  | geteuid
  | isatty
  | fgets
  | installSignalHandlers
  | alarm (seconds : ℕ)
  | smcOpen
  | smcClose
  deriving DecidableEq

abbrev ProcessCall.Answer : ProcessCall → Type
  | smcCall _ => SmcResponse
  | monotonicSeconds => Double
  | sleepMilliseconds _ => Bool
  | sleepMillisecondsUninterruptible _ => Bool
  | interrupted => Bool
  | sysctlString _ => Option String
  | geteuid => UInt32
  | isatty => Bool
  | fgets => Option String
  | installSignalHandlers => Bool
  | alarm _ => Unit
  | smcOpen => Bool
  | smcClose => Unit

abbrev ProcessEvent := Event ProcessCall.Answer

structure WriteEvent where
  key : FourChars
  time : Double
  value : Double
  ok : Bool
  transportAttempted : Bool
  kernelStatus : UInt32
  smcStatus : UInt8

structure ObservationEvent where
  second : ℕ
  time : Double
  observation : TrialObservation

/-- What the process remembers between calls: the statuses of the last SMC call, in `Smc`, and
the buffers of the `LiveBackend` in use. -/
structure ProcessState where
  kernelStatus : UInt32
  smcStatus : UInt8
  writes : List WriteEvent
  observations : List ObservationEvent
  observationOverflow : Bool

def ProcessState.start : ProcessState := ⟨0, 0, [], [], false⟩

abbrev ProcessM := StateT ProcessState (CallTree ProcessCall ProcessCall.Answer)

/-- A function that returns `false`, with its output unused, fails. -/
abbrev SmcM := OptionT ProcessM

def SmcResponse.accepted (response : SmcResponse) : Bool :=
  response.kernelStatus == 0 && response.outputSize == 80 && response.result == 0

/-- `smc_call`; the response only when the call succeeded. -/
def smcCall (request : SmcRequest) : SmcM SmcResponse := OptionT.mk do
  let response ← ask (ProcessCall.smcCall request)
  modify fun state =>
    { state with kernelStatus := response.kernelStatus, smcStatus := response.result }
  pure (if response.accepted then some response else none)

structure SmcKeyInfo where
  size : UInt32
  type : FourChars
  deriving DecidableEq

/-- The key info of a response that passes the checks of `read_key_info`. -/
def SmcResponse.keyInfo? (response : SmcResponse) : Option SmcKeyInfo :=
  if response.size = 0 ∨ response.size > 32 then none
  else some ⟨response.size, fourccText response.type⟩

def readKeyInfo (name : FourChars) : SmcM SmcKeyInfo := do
  let response ← smcCall (.keyInfo name)
  response.keyInfo?.getM

def readKey (name : FourChars) : SmcM SmcValue := do
  let info ← readKeyInfo name
  let response ← smcCall (.read name info.size)
  pure ⟨info.size, info.type, .ofList (response.bytes.toList.take info.size.toNat)⟩

/-- `write_key_exact`: its answer and `transport_attempted`. -/
def writeKeyExact (name expectedType : FourChars) (expectedSize : UInt32) (bytes : List UInt8) :
    ProcessM (Bool × Bool) := do
  match ← (readKeyInfo name).run with
  | none => pure (false, false)
  | some info =>
    if !exactType info.type expectedType || info.size != expectedSize ||
        bytes.length != expectedSize.toNat || 32 < bytes.length then pure (false, false)
    else
      let response ← (smcCall (.write name info.size bytes)).run
      pure (response.isSome, true)

def keyFNum : FourChars := fourChars 'F' 'N' 'u' 'm'
def keyFtst : FourChars := fourChars 'F' 't' 's' 't'

def temperatureKeys : Fin 3 → FourChars
  | 0 => fourChars 'T' 'C' 'M' 'z'
  | 1 => fourChars 'T' 'g' '0' 'D'
  | 2 => fourChars 'T' 'H' '0' 'a'

/-- `fan_key` with the two characters of its suffix. -/
def fanKey (index : Fin 2) (a b : Char) : FourChars :=
  fourChars 'F' (if index = 0 then '0' else '1') a b

structure FanLive where
  modeKey : FourChars
  targetKey : FourChars
  mode : SmcValue
  actual : SmcValue
  target : SmcValue
  minimum : SmcValue
  maximum : SmcValue

structure LiveSnapshot where
  fanCount : UInt32
  ftst : SmcValue
  fans : Fin 2 → FanLive
  temperaturesC : Fin 3 → Double

/-- The first of the two spellings of a fan's mode key that can be read. -/
def readModeKey (index : Fin 2) : SmcM (FourChars × SmcValue) := OptionT.mk do
  match ← (readKey (fanKey index 'm' 'd')).run with
  | some mode => pure (some (fanKey index 'm' 'd', mode))
  | none =>
    match ← (readKey (fanKey index 'M' 'd')).run with
    | some mode => pure (some (fanKey index 'M' 'd', mode))
    | none => pure none

/-- The actual, least and greatest RPM of a fan; without metrics they stay zeroed. -/
def readMetrics (index : Fin 2) (includeMetrics : Bool) :
    SmcM (SmcValue × SmcValue × SmcValue) :=
  if !includeMetrics then pure (.zero, .zero, .zero)
  else do
    let actual ← readKey (fanKey index 'A' 'c')
    let minimum ← readKey (fanKey index 'M' 'n')
    let maximum ← readKey (fanKey index 'M' 'x')
    pure (actual, minimum, maximum)

def readFan (index : Fin 2) (includeMetrics : Bool) : SmcM FanLive := do
  let (modeKey, mode) ← readModeKey index
  let target ← readKey (fanKey index 'T' 'g')
  let (actual, minimum, maximum) ← readMetrics index includeMetrics
  pure ⟨modeKey, fanKey index 'T' 'g', mode, actual, target, minimum, maximum⟩

def readTemperature (sensor : Fin 3) : SmcM Double := do
  let value ← readKey (temperatureKeys sensor)
  value.readNumber.getM

def readTemperatures (includeMetrics : Bool) : SmcM (Fin 3 → Double) :=
  if !includeMetrics then pure fun _ => finite 0
  else do
    let first ← readTemperature 0
    let second ← readTemperature 1
    let third ← readTemperature 2
    pure fun sensor => if sensor = 0 then first else if sensor = 1 then second else third

def readSnapshot (includeMetrics : Bool) : SmcM LiveSnapshot := do
  let count ← readKey keyFNum
  let fanCount ← count.readUi8Exact.getM
  if fanCount ≠ 2 then failure
  else
    let ftst ← readKey keyFtst
    let first ← readFan 0 includeMetrics
    let second ← readFan 1 includeMetrics
    let temperatures ← readTemperatures includeMetrics
    pure ⟨fanCount.toUInt32, ftst, fun fan => if fan = 0 then first else second, temperatures⟩

end Ventilator
