import Ventilator.SupervisorClearing
import Ventilator.SupervisorProbeController

/-! The runner of `supervisor-probe.c`, with its lifetime pipe, its directory and its launch lock,
as a program over their system calls and over the supervisor's. Every call may have any outcome;
a process that exits early has no result. -/
namespace Ventilator
open CallTree

/-- The files that the cleanup removes. -/
inductive ProbeFile
  | nextRecord
  | record
  | owner
  | executable
  | staging
  deriving DecidableEq

/-- The calls of the runner. The supervisor's calls are its own, with the runner's check of its
owner inside the supervisor as one call. -/
inductive ProbeCall
  | supervisor (c : SupervisorCall)
  | userIds
  | inputFlags
  | fstatInput
  | setInputNonblocking
  | readInput
  | openParent
  | fstatParent
  | makeDirectory
  | openDirectory
  | fstatDirectory
  | closeDirectory
  | openLaunch
  | fstatLaunch
  | flockLaunch
  | statLaunch
  | closeLaunch
  | getpid
  | unlinkFile (file : ProbeFile)
  | unlinkLaunch
  | removeDirectory
  deriving DecidableEq

/-- `fstatInput` tells whether the input is a pipe; `makeDirectory` is true also when the directory
was there already. -/
abbrev ProbeCall.Answer : ProbeCall → Type
  | supervisor c => c.Answer
  | userIds => UInt32 × UInt32
  | inputFlags => Bool
  | fstatInput => Option Bool
  | setInputNonblocking => Bool
  | readInput => Except Errno (Option UInt8)
  | openParent => Bool
  | fstatParent => Option FileStat
  | makeDirectory => Bool
  | openDirectory => Option { descriptor : Int32 // 0 ≤ descriptor }
  | fstatDirectory => Option FileStat
  | closeDirectory => Unit
  | openLaunch => Bool
  | fstatLaunch => Option (FileStat × FileId)
  | flockLaunch => Bool
  | statLaunch => Option FileId
  | closeLaunch => Unit
  | getpid => { pid : Pid // 0 < pid }
  | unlinkFile _ => Except Errno Unit
  | unlinkLaunch => Bool
  | removeDirectory => Bool

instance probeNonempty (c : ProbeCall) : Nonempty c.Answer := by
  cases c with
  | supervisor c => exact ⟨c.failed⟩
  | getpid => exact ⟨⟨1, Int32.lt_iff_toInt_lt.mpr (by decide)⟩⟩
  | _ => infer_instance

abbrev ProbeEvent := Event ProbeCall.Answer

/-- A program of the runner; its memory is that of the supervisor it calls. -/
abbrev ProbeM := OptionT (StateT Supervision (CallTree ProbeCall ProbeCall.Answer))

/-- A call of the supervisor, as one of the runner. -/
def supervised (e : SupervisorEvent) : ProbeEvent := ⟨.supervisor e.1, e.2⟩

namespace ProbeM

abbrev sys (c : ProbeCall) : ProbeM c.Answer := OptionT.lift (ask c)

/-- A program of the supervisor, run by the runner. -/
def supervise {α : Type} (m : SupervisorM α) : ProbeM α :=
  OptionT.mk do
    let state ← get
    let (result, state) ← handle (fun c => ask (ProbeCall.supervisor c)) (m.run.run state)
    set state
    pure result

def current : ProbeM Supervision := OptionT.lift get

def update (f : Supervision → Supervision) : ProbeM Unit := OptionT.lift (modify f)

end ProbeM

/-- The arguments of the runner's `main`. -/
def probeMode (arguments : List String) : Option SupervisorProbeMode :=
  if arguments = [] then some .run
  else if arguments = ["--cleanup"] then some .cleanup
  else if arguments = ["--crash-observer"] then some .crash
  else if arguments = ["--resume-pending"] then some .resume
  else none

/-- What the runner prints about a run. -/
structure ProbeReport where
  state : String
  runnerPid : Pid
  runnerUid : UInt32
  resumed : Bool
  admissionPid : Pid
  admissionSamples : UInt32
  admissionDurationNs : UInt64
  operationPid : Pid
  recoveryPid : Pid
  observerPid : Pid
  reaped : UInt32
  recoverySamples : UInt32
  recoveryDurationNs : UInt64
  journalClear : Bool
  deriving DecidableEq

/-- How `main` returns: with status 2, with `cleaned`, or with its report. -/
inductive ProbeEnd
  | refused
  | cleaned
  | reported (report : ProbeReport)
  deriving DecidableEq

/-- The admission of a run, and whether its lease was claimed. -/
structure Admission where
  report : WorkerSupervisorReport
  samples : UInt32
  durationNs : UInt64
  claimed : Bool
  deriving DecidableEq

def Admission.none : Admission := ⟨.blocked, 0, 0, false⟩

/-- `window_ns` -/
def windowNs (lease : ControlLease) : UInt64 :=
  if lease.lastSampleNs ≥ lease.observationStartedNs then
    lease.lastSampleNs - lease.observationStartedNs
  else 0

/-- The memory of `main` before it calls the supervisor. -/
def Supervision.zero : Supervision :=
  ⟨.zero, .blocked, some ⟨0, fun _ => 0, fun _ => .finite 0, fun _ => .finite 0, fun _ => .finite 0⟩⟩

/-- What does not change during a run of the runner. -/
structure SupervisorProbe where
  layout : ObservationLayout
  fuel : ℕ

namespace SupervisorProbe
open ProbeM

variable (probe : SupervisorProbe)

/-- The supervisor as the runner sets it up on its directory. -/
def supervisor (directory : Int32) : WorkerSupervisor where
  journal := ⟨directory, 0⟩
  backend := ⟨true, true, true, true, true⟩
  limits := ⟨5 * uint64Second, 5 * uint64Second, 75 * uint64Second, 2 * uint64Second⟩
  hasCancel := false
  layout := probe.layout
  fuel := probe.fuel

/-! The lifetime pipe of `SupervisorRunnerLifetime.c`. -/

/-- The read of one byte that interruptions do not end. -/
def readLifetime : ProbeM (Except Errno (Option UInt8)) := do
  match ← loop (fun _ () => do
      match ← sys .readInput with
      | .error .interrupted => pure (.inr ())
      | answer => pure (.inl answer)) probe.fuel 0 () with
  | .inl answer => pure answer
  | .inr () => failure

/-- It exits with 125 unless the pipe is open and empty. -/
def supervisorRunnerLifetimeCheck : ProbeM Unit := do
  match ← probe.readLifetime with
  | .error .again => pure ()
  | _ => failure

def supervisorRunnerLifetimeEnter : ProbeM Bool := do
  if !(← sys .inputFlags) then pure false
  else if (← sys .fstatInput) ≠ some true then pure false
  else if !(← sys .setInputNonblocking) then pure false
  else
    match ← probe.readLifetime with
    | .ok (some 71) =>
      probe.supervisorRunnerLifetimeCheck
      pure true
    | _ => pure false

/-! The private directory and its launch lock. -/

/-- The checks of the opened directory; a failure closes it. -/
def checkDirectory (directory : Int32) : ProbeM (Option Int32) := do
  let info ← sys .fstatDirectory
  if info.any fun info => info.uid == 0 && info.mode &&& 0o777 == 0o700 then
    pure (some directory)
  else
    sys .closeDirectory
    pure none

/-- `SupervisorProbeOpenDirectory`; the handle of the parent, which it always closes, is left out. -/
def supervisorProbeOpenDirectory : ProbeM (Option Int32) := do
  let (uid, euid) ← sys .userIds
  if uid ≠ 0 ∨ euid ≠ 0 then pure none
  else if !(← sys .openParent) then pure none
  else
    let info ← sys .fstatParent
    if !(info.any fun info => info.uid == 0 && info.mode &&& 0o022 == 0) then pure none
    else if !(← sys .makeDirectory) then pure none
    else
      match ← sys .openDirectory with
      | none => pure none
      | some directory => checkDirectory directory.val

/-- The checks of the opened launch lock. -/
def ownLaunch : ProbeM Bool := do
  match ← sys .fstatLaunch with
  | none => pure false
  | some (info, opened) =>
    if !(info.kind == .regular && info.uid == 0 && info.mode &&& 0o777 == 0o600 &&
        info.nlink == 1) then pure false
    else if !(← sys .flockLaunch) then pure false
    else pure ((← sys .statLaunch) == some opened)

/-- `supervisor_probe_lock`: whether the lock's descriptor is returned. -/
def supervisorProbeLock : ProbeM Bool := do
  let info ← sys .fstatDirectory
  if !(info.any fun info =>
      info.kind == .directory && info.uid == 0 && info.mode &&& 0o777 == 0o700) then pure false
  else if !(← sys .openLaunch) then pure false
  else if ← ownLaunch then pure true
  else
    sys .closeLaunch
    pure false

/-! The cleanup. -/

def cleanupFiles : List ProbeFile := [.nextRecord, .record, .owner, .executable, .staging]

/-- The loop over the files; whether all of them are gone. -/
def removeFiles : List ProbeFile → ProbeM Bool
  | [] => pure true
  | file :: files => do
    let gone ← match ← sys (.unlinkFile file) with
      | .ok () => pure true
      | .error errno => pure (decide (errno = .noEntry))
    let others ← removeFiles files
    pure (gone && others)

def supervisorProbeCleanup (directory : Int32) : ProbeM Bool := do
  if !(← supervise ((probe.supervisor directory).supervisorOwnershipAcquire false)) then pure false
  else
    let removed ← removeFiles cleanupFiles
    let synced ← sys (.supervisor (.journal .fsyncDirectory))
    supervise WorkerSupervisor.closeLock
    pure (removed && synced)

/-- The end of the cleanup, when the directory's files are gone. -/
def removeLaunch : ProbeM Bool := do
  if !(← sys .unlinkLaunch) then pure false
  else sys .removeDirectory

def removeState (directory : Int32) : ProbeM Bool := do
  if ← probe.supervisorProbeCleanup directory then removeLaunch
  else pure false

/-- The cleanup branch of `main`. -/
def cleanUp (directory : Int32) : ProbeM ProbeEnd := do
  probe.supervisorRunnerLifetimeCheck
  let clean ← probe.removeState directory
  sys .closeLaunch
  sys .closeDirectory
  pure (if clean then .cleaned else .refused)

/-! The run. -/

/-- `control_lease_claim` with the runner's pid; its arguments are evaluated in order. -/
def claimLease (directory : Int32) : ProbeM Bool := do
  let pid ← sys .getpid
  let now ← sys (.supervisor .nowNs)
  let intent ← supervise (probe.supervisor directory).controlIntentRead
  let state ← current
  let claimed := state.lease.claim pid.val.toInt64.toUInt64 now true intent .ok state.latest
  update (Supervision.onLease fun _ => claimed.2)
  pure claimed.1

/-- The lease is claimed when the baseline is ready. -/
def claimReady (directory : Int32) (result : WorkerSupervisorResult) : ProbeM Bool :=
  if result = .baselineReady then probe.claimLease directory else pure false

def enterLease (directory : Int32) : ProbeM Admission := do
  let report ← supervise (probe.supervisor directory).observeBaseline
  let lease := (← current).lease
  let claimed ← probe.claimReady directory report.result
  pure ⟨report, lease.samples, windowNs lease, claimed⟩

/-- The report of a call of the supervisor that `main` may make, and the admission before it. -/
def work (directory : Int32) (mode : SupervisorProbeMode) (intent : ControlIntentStatus) :
    ProbeM (Admission × WorkerSupervisorReport) := do
  if intent = .pending ∧ mode ≠ .crash then
    let report ← supervise (probe.supervisor directory).workerSupervisorResume
    pure (.none, report)
  else if intent = .clear ∧ mode ≠ .resume then
    let admission ← probe.enterLease directory
    if admission.claimed then
      let report ← supervise (probe.supervisor directory).workerSupervisorRun
      pure (admission, report)
    else pure (admission, .blocked)
  else pure (.none, .blocked)

/-- What `main` prints of its admission, its report and its lease. -/
def printed (pid : Pid) (euid : UInt32) (resumed : Bool) (admission : Admission)
    (report : WorkerSupervisorReport) (lease : ControlLease) (clear : Bool) : ProbeReport where
  state :=
    if report.result = .recovered ∧ clear then "verified" else if clear then "blocked" else "pending"
  runnerPid := pid
  runnerUid := euid
  resumed := resumed
  admissionPid := admission.report.observerPid
  admissionSamples := admission.samples
  admissionDurationNs := admission.durationNs
  operationPid := report.operationPid
  recoveryPid := report.recoveryPid
  observerPid := report.observerPid
  reaped := admission.report.reaped + report.reaped
  recoverySamples := if report.result = .recovered then lease.samples else 0
  recoveryDurationNs := if report.result = .recovered then windowNs lease else 0
  journalClear := clear

/-- `main` from the read of the journal on. -/
def report (directory : Int32) (mode : SupervisorProbeMode) (euid : UInt32) : ProbeM ProbeEnd := do
  let intent ← supervise (probe.supervisor directory).controlIntentRead
  let (admission, report) ← probe.work directory mode intent
  let final ← supervise (probe.supervisor directory).controlIntentRead
  probe.supervisorRunnerLifetimeCheck
  let state ← current
  let pid ← sys .getpid
  sys .closeLaunch
  sys .closeDirectory
  pure (.reported (printed pid.val euid (decide (intent = .pending)) admission report state.lease
    (decide (final = .clear))))

/-- `main` once it may run: the lifetime pipe, the directory and the launch lock. -/
def launch (mode : SupervisorProbeMode) (euid : UInt32) : ProbeM ProbeEnd := do
  if !(← probe.supervisorRunnerLifetimeEnter) then pure .refused
  else
    match ← supervisorProbeOpenDirectory with
    | none => pure .refused
    | some directory =>
      if !(← supervisorProbeLock) then
        sys .closeDirectory
        pure .refused
      else if mode = .cleanup then probe.cleanUp directory
      else probe.report directory mode euid

/-- `main` with the arguments after the name of the program; its `umask` is left out. -/
def main (arguments : List String) : ProbeM ProbeEnd := do
  let (uid, euid) ← sys .userIds
  match probeMode arguments with
  | none => pure .refused
  | some mode => if uid ≠ 0 ∨ euid ≠ 0 then pure .refused else probe.launch mode euid

end SupervisorProbe
end Ventilator
