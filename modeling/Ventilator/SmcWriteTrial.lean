import Ventilator.LiveBackend

/-! The commands of the `smc-write-trial` process and the choice among them from its arguments.
What it prints is left out. -/
namespace Ventilator
open Double CallTree

namespace SmcWriteTrial
open ProcessM LiveBackend

def exitSuccess : ℕ := 0
def exitFailure : ℕ := 1
def trialExitNoWrite : ℕ := 2

abbrev ExitM := ProcessM ℕ

/-- `exact_environment`: the model and the version, when they are the expected ones. -/
def exactEnvironment : SmcM (String × String) := OptionT.mk do
  match ← ask (ProcessCall.sysctlString "hw.model") with
  | none => pure none
  | some model =>
    match ← ask (ProcessCall.sysctlString "kern.osproductversion") with
    | none => pure none
    | some osVersion =>
      if model ≠ trialExpectedModel ∨ osVersion ≠ trialExpectedOsVersion then pure none
      else pure (some (model, osVersion))

def copyFanState (live : FanLive) : Option TrialFanState := do
  let mode ← live.mode.readUi8Exact
  let actual ← live.actual.readNumber
  let target ← live.target.readNumber
  let minimum ← live.minimum.readNumber
  let maximum ← live.maximum.readNumber
  some ⟨actual, target, minimum, maximum, mode, live.mode.type, live.mode.size, live.target.type,
    live.target.size⟩

def snapshotHasZeroTargets (snapshot : LiveSnapshot) : Bool :=
  (List.finRange 2).all fun fan =>
    (snapshot.fans fan).target.readNumber.any fun target => !lt (finite 1) (fabs target)

def snapshotIsBaseline (snapshot : LiveSnapshot) : Bool :=
  snapshot.ftst.readUi8Exact.any fun ftst => ftst == 0 &&
    (List.finRange 2).all fun fan =>
      ((snapshot.fans fan).mode.readUi8Exact.any fun mode => mode == 3) &&
        (snapshot.fans fan).target.readNumber.any fun target =>
          target.isfinite && !lt (finite 1) (fabs target)

/-- What `collect_preflight` fills in. -/
structure Preflight where
  preflight : TrialPreflight
  plan : TrialPlan
  lastSnapshot : LiveSnapshot

/-- The wait before the next sample, if there is one. -/
def sleepBefore (remaining : ℕ) : ProcessM Bool :=
  if remaining = 0 then pure true else ask (ProcessCall.sleepMilliseconds 2500)

/-- The samples of the preflight still to take. -/
def collectSamples (remaining : ℕ) : SmcM (List LiveSnapshot) :=
  match remaining with
  | 0 => pure []
  | remaining + 1 => do
    let current ← readSnapshot true
    if !snapshotIsBaseline current then failure
    else
      let slept ← OptionT.lift (sleepBefore remaining)
      if !slept then failure
      else
        let later ← collectSamples remaining
        pure (current :: later)

/-- The preflight of five samples, and the plan it makes from the last of them. -/
def planSamples (round : ℚ → Double) (model osVersion : String) (samples : List LiveSnapshot) :
    Option Preflight := do
  let last ← samples.getLast?
  let ftst ← last.ftst.readUi8Exact
  let first ← copyFanState (last.fans 0)
  let second ← copyFanState (last.fans 1)
  let input : TrialPreflight :=
    { model := model, osVersion := osVersion, fanCount := last.fanCount, ftst := ftst
      ftstType := last.ftst.type, ftstSize := last.ftst.size
      fans := fun fan => if fan = 0 then first else second
      temperaturesC := fun sample sensor =>
        (samples[sample.val]?.map fun s => s.temperaturesC sensor).getD (finite 0) }
  match trialMakePlan round input with
  | .ok plan => some ⟨input, plan, last⟩
  | .error _ => none

def collectPreflight (round : ℚ → Double) (model osVersion : String) : SmcM Preflight := do
  let samples ← collectSamples 5
  (planSamples round model osVersion samples).getM

def restoreKeysSupported (snapshot : LiveSnapshot) : Bool :=
  snapshot.ftst.readUi8Exact.isSome &&
    (List.finRange 2).all fun fan =>
      (snapshot.fans fan).mode.readUi8Exact.isSome &&
        (trialEncodeRpm (snapshot.fans fan).target.type (snapshot.fans fan).target.size
          (finite 0)).isSome

/-- The three prompts, which differ in the phrase they ask for. -/
def prompt (phrase : String) : ProcessM Bool := do
  if !(← ask ProcessCall.isatty) then pure false
  else
    let line ← ask ProcessCall.fgets
    pure (line.any fun line =>
      line.toList.takeWhile (fun c => c != '\r' && c != '\n') == phrase.toList)

def promptForDirectTrial : ProcessM Bool := prompt "APPLY DIRECT TRIAL"
def promptForFtstCheck : ProcessM Bool := prompt "APPLY FTST CHECK"
def promptForFtstMinimum : ProcessM Bool := prompt "APPLY FTST MINIMUM RECOVERY"

def runObserveBaseline (round : ℚ → Double) : ExitM := do
  match ← exactEnvironment.run with
  | none => pure exitFailure
  | some _ =>
    if !(← ask ProcessCall.installSignalHandlers) then pure exitFailure
    else
      let result ← handle BaselineObserver.handler
        (trialObserveBaselineWindow (BaselineObserver.observer round) 60)
      pure (if result.status = .stable then exitSuccess else exitFailure)

/-- What both Ftst trials and the direct trial have in common before their first write: a
preflight, the checks `consent`, and a second preflight. `refused` is their exit without a write. -/
def admitted (round : ℚ → Double) (refused : ℕ) (model osVersion : String)
    (zeroTargets apply : Bool) (consent : ProcessM Bool) (run : Preflight → ExitM) : ExitM := do
  match ← (collectPreflight round model osVersion).run with
  | none => pure (if apply then refused else exitFailure)
  | some preflight =>
    if zeroTargets && !snapshotHasZeroTargets preflight.lastSnapshot then
      pure (if apply then refused else exitFailure)
    else if !apply then pure exitSuccess
    else if !(← consent) then pure refused
    else
      match ← (collectPreflight round model osVersion).run with
      | none => pure refused
      | some preflight =>
        if zeroTargets && !snapshotHasZeroTargets preflight.lastSnapshot then pure refused
        else run preflight

/-- Root, the confirmation and the signal handlers, in this order. -/
def confirmed (confirm : ProcessM Bool) : ProcessM Bool := do
  if (← ask ProcessCall.geteuid) ≠ 0 then pure false
  else if !(← confirm) then pure false
  else ask ProcessCall.installSignalHandlers

def runTrial (round : ℚ → Double) (apply : Bool) : ExitM := do
  match ← exactEnvironment.run with
  | none => pure exitFailure
  | some (model, osVersion) =>
    admitted round exitFailure model osVersion false apply (confirmed promptForDirectTrial)
      fun preflight => do
        let live : LiveBackend := ⟨preflight.lastSnapshot, some preflight.plan, false, round⟩
        let status ← live.runAction (live.trialBackend.trialExecuteDirect preflight.plan
          fun fan => (preflight.preflight.fans fan).actualRpm)
        pure (if status = .succeeded ∨ status = .baselineRejected then exitSuccess
          else exitFailure)

def runRestore (round : ℚ → Double) (apply : Bool) : ExitM := do
  match ← exactEnvironment.run with
  | none => pure exitFailure
  | some _ =>
    match ← (readSnapshot false).run with
    | none => pure exitFailure
    | some current =>
      if !current.ftst.readUi8Exact.isSome then pure exitFailure
      else if !restoreKeysSupported current then pure exitFailure
      else if !apply then pure exitSuccess
      else if (← ask ProcessCall.geteuid) ≠ 0 then pure exitFailure
      else
        let live : LiveBackend := ⟨current, none, false, round⟩
        if !(← live.runAction live.trialBackend.trialRestoreSystem) then pure exitFailure
        else if (← runObserveBaseline round) ≠ exitSuccess then pure exitFailure
        else pure exitSuccess

/-- The read behind `print_ftst_readback`, and the clock it prints. -/
def printFtstReadback (live : LiveBackend) : ProcessM Unit := do
  discard (live.backendReadObservation false).run
  discard monotonicSeconds

/-- The exit of an Ftst trial from its status; both read back once more before it. -/
def exitFtst (live : LiveBackend) (status : TrialRunStatus) : ExitM := do
  printFtstReadback live
  match status with
  | .restoreFailed => pure exitFailure
  | .writeEffectUnverified => pure exitFailure
  | .baselineRejected => pure trialExitNoWrite
  | .controlFailedSystemVerified => pure exitFailure
  | .succeeded => pure exitSuccess

def runFtstCheck (round : ℚ → Double) (apply : Bool) : ExitM := do
  match ← exactEnvironment.run with
  | none => pure (if apply then trialExitNoWrite else exitFailure)
  | some (model, osVersion) =>
    admitted round trialExitNoWrite model osVersion true apply (confirmed promptForFtstCheck)
      fun preflight => do
        let live : LiveBackend := ⟨preflight.lastSnapshot, none, true, round⟩
        resetBuffers
        let status ← handle live.handler live.trialBackend.trialCheckFtst
        exitFtst live status

def runFtstMinimum (round : ℚ → Double) (apply : Bool) : ExitM := do
  match ← exactEnvironment.run with
  | none => pure (if apply then trialExitNoWrite else exitFailure)
  | some (model, osVersion) =>
    admitted round trialExitNoWrite model osVersion true apply (confirmed promptForFtstMinimum)
      fun preflight => do
        let live : LiveBackend := ⟨preflight.lastSnapshot, none, true, round⟩
        discard (ask (ProcessCall.alarm 180))
        let status ← live.runAction (live.trialBackend.trialRehearseFtstMinimumRecovery
          fun fan => (preflight.preflight.fans fan).minRpm)
        discard (ask (ProcessCall.alarm 0))
        exitFtst live status

def runRestoreUnlock (round : ℚ → Double) (apply : Bool) : ExitM := do
  match ← exactEnvironment.run with
  | none => pure exitFailure
  | some _ =>
    match ← (readSnapshot false).run with
    | none => pure exitFailure
    | some current =>
      if !restoreKeysSupported current then pure exitFailure
      else if !current.ftst.readUi8Exact.any fun ftst => ftst ≤ 1 then pure exitFailure
      else if !apply then pure exitSuccess
      else if (← ask ProcessCall.geteuid) ≠ 0 then pure exitFailure
      else
        let live : LiveBackend := ⟨current, none, true, round⟩
        let verified ← live.runAction live.trialBackend.trialRestoreUnlock
        printFtstReadback live
        pure (if verified then exitSuccess else exitFailure)

/-- The flags `main` computes from its arguments. -/
structure Flags where
  trial : Bool
  restore : Bool
  ftstCheck : Bool
  ftstMinimum : Bool
  restoreUnlock : Bool
  observeBaseline : Bool
  dryRun : Bool
  readOnly : Bool
  apply : Bool
  applyReviewed : Bool
  minimumReviewed : Bool

/-- `argc == n && strcmp(argv[i], text) == 0`. -/
def argumentIs (argv : List String) (index : ℕ) (text : String) : Bool := argv[index]? == some text

/-- The five-argument form with this option and this confirmation. -/
def confirms (argv : List String) (option confirmation : String) : Bool :=
  argv.length == 5 && argumentIs argv 2 option && argumentIs argv 3 "--confirm" &&
    argumentIs argv 4 confirmation

def flags (argv : List String) : Flags :=
  let trial := argumentIs argv 1 "trial"
  let restore := argumentIs argv 1 "restore"
  let ftstCheck := argumentIs argv 1 "ftst-check"
  let ftstMinimum := argumentIs argv 1 "ftst-minimum"
  let restoreUnlock := argumentIs argv 1 "restore-unlock"
  { trial := trial
    restore := restore
    ftstCheck := ftstCheck
    ftstMinimum := ftstMinimum
    restoreUnlock := restoreUnlock
    observeBaseline := argumentIs argv 1 "observe-baseline"
    dryRun := argv.length == 3 && argumentIs argv 2 "--dry-run"
    readOnly := argv.length == 3 && argumentIs argv 2 "--read-only"
    apply := (trial && confirms argv "--apply" "TRIAL-Mac15,7-27.0") ||
      (restore && confirms argv "--apply" "RESTORE-Mac15,7-27.0") ||
      (ftstCheck && confirms argv "--apply" "FTST-CHECK-Mac15,7-27.0") ||
      (restoreUnlock && confirms argv "--apply" "RESTORE-UNLOCK-Mac15,7-27.0")
    applyReviewed := ftstCheck && confirms argv "--apply-reviewed" "FTST-REVIEWED-Mac15,7-27.0"
    minimumReviewed := ftstMinimum &&
      confirms argv "--apply-reviewed" "FTST-MINIMUM-Mac15,7-27.0" }

/-- Whether the arguments are one of the forms the usage text lists. -/
def Flags.known (f : Flags) : Bool :=
  (f.observeBaseline && f.readOnly) ||
    (!f.observeBaseline &&
      (f.trial || f.restore || f.ftstCheck || f.ftstMinimum || f.restoreUnlock) &&
      (f.dryRun || f.apply || f.applyReviewed || f.minimumReviewed))

/-- The command the flags choose. -/
def command (round : ℚ → Double) (f : Flags) : ExitM :=
  if f.observeBaseline then runObserveBaseline round
  else if f.trial then runTrial round f.apply
  else if f.restore then runRestore round f.apply
  else if f.ftstCheck then runFtstCheck round f.applyReviewed
  else if f.ftstMinimum then runFtstMinimum round f.minimumReviewed
  else runRestoreUnlock round f.apply

def main (round : ℚ → Double) (argv : List String) : ExitM :=
  let f := flags argv
  if !f.known then pure exitFailure
  else if f.apply && (f.trial || f.ftstCheck) then pure exitFailure
  else if f.applyReviewed then pure trialExitNoWrite
  else if f.minimumReviewed then pure trialExitNoWrite
  else do
    if !(← ask ProcessCall.smcOpen) then
      pure (if f.applyReviewed || f.minimumReviewed then trialExitNoWrite else exitFailure)
    else
      let result ← command round f
      discard (ask ProcessCall.smcClose)
      pure result

end SmcWriteTrial
end Ventilator
