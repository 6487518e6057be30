import Ventilator.SupervisorOwnership

/-! The worker supervisor of `WorkerSupervisor.c` and the workers it forks, as programs over
their system calls and the backend's callbacks. Every call may have any outcome. Closing the ends of a pair that belong
to the other process is left out. -/
namespace Ventilator
open CallTree

def uint64Second : UInt64 := 1000000000
def maxReadNs : UInt64 := 5000000000
def pollNs : UInt64 := 10000000

def WaitStatus.classifyExit : WaitStatus → WorkerExit
  | exited code => if code = 0 then .exited else .failed
  | signaled => .crashed

/-- `waited < 0 && errno != EINTR` -/
def Waited.lost : Waited → Bool
  | failed errno => errno != .interrupted
  | _ => false

/-- `kill(child, SIGKILL) != 0 && errno != ESRCH` -/
def killFailed : Except Errno Unit → Bool
  | .ok () => false
  | .error errno => errno != .noProcess

def WorkerSupervisorLimits.valid (limits : WorkerSupervisorLimits) : Bool :=
  limits.operationNs > 0 && limits.operationNs ≤ ControlLease.ttlNs &&
    limits.recoveryNs > 0 && limits.recoveryNs ≤ 90 * uint64Second &&
    limits.observationNs ≥ ControlLease.baselineNs &&
    limits.observationNs ≤ 90 * uint64Second &&
    limits.reapNs > 0 && limits.reapNs ≤ 5 * uint64Second

/-- `accept_observation`, on the lease. -/
def acceptObservation (lease : ControlLease) (observation : Observation)
    (launchedNs receivedNs : UInt64) (samples : ℕ) (recovering : Bool) : Bool × ControlLease :=
  if observation.startedNs < launchedNs ∨ observation.finishedNs < observation.startedNs ∨
      observation.finishedNs - observation.startedNs > maxReadNs ∨
      receivedNs < observation.finishedNs ∨
      receivedNs - observation.finishedNs > 2 * uint64Second ∨
      (samples > 0 ∧ observation.startedNs < lease.lastSampleNs) then (false, lease)
  else
    let lease :=
      if samples = 0 then
        if recovering then
          lease.recoveryStarted observation.result (some observation.snapshot)
            observation.finishedNs
        else
          ControlLease.start .clear observation.result (some observation.snapshot)
            observation.finishedNs
      else lease.sample observation.result (some observation.snapshot) observation.finishedNs
    (decide (lease.state = if recovering then .verifyingRecovery else .observing) ||
      (lease.state == .stable && lease.recoveryVerified == recovering), lease)

/-- The variables of the loop of `supervise_observer`. -/
structure ObserverVars where
  filled : List UInt8
  samples : ℕ
  eof : Bool
  reaped : Bool
  exitedOk : Bool
  progressDeadline : UInt64

/-- How that loop ends: by a return, or by a break with `reaped`. -/
inductive ObserverEnd
  | returned (verified : Bool)
  | broke (reaped : Bool)

namespace Supervision

def setResult (result : WorkerSupervisorResult) (state : Supervision) : Supervision :=
  { state with report := { state.report with result := result } }

def countReaped (state : Supervision) : Supervision :=
  { state with report := { state.report with reaped := state.report.reaped + 1 } }

def setOperation (operation : WorkerExit) (state : Supervision) : Supervision :=
  { state with report := { state.report with operation := operation } }

def setPid (kind : WorkerKind) (child : Pid) (state : Supervision) : Supervision :=
  { state with report := match kind with
      | .operation => { state.report with operationPid := child }
      | .recovery => { state.report with recoveryPid := child }
      | .observer => { state.report with observerPid := child } }

def onLease (f : ControlLease → ControlLease) (state : Supervision) : Supervision :=
  { state with lease := f state.lease }

/-- The verdict of `supervise_observer` on a reaped observer that closed its pipe. -/
def verdict (state : Supervision) (vars : ObserverVars) (recovering : Bool) : Bool :=
  vars.exitedOk && decide (vars.filled = []) && decide (vars.samples = 61) &&
    state.lease.state == .stable && state.lease.recoveryVerified == recovering

end Supervision

namespace WorkerSupervisor
open SupervisorM

variable (supervisor : WorkerSupervisor)

def parentCheck : SupervisorM Unit :=
  if supervisor.backend.hasParentCheck then sys .parentCheck else pure ()

def deadlineFor (duration : UInt64) : SupervisorM (Option UInt64) := do
  let now ← sys .nowNs
  pure (if now = 0 ∨ duration = 0 ∨ now > ControlLease.uint64Max - duration then none
    else some (now + duration))

/-- `cancel != NULL && *cancel != 0`, in a phase that is given the cancel flag. -/
def isCancelled (cancellable : Bool) : SupervisorM Bool :=
  if cancellable && supervisor.hasCancel then sys .cancelled else pure false

/-- The loop of `stop_and_reap` after the kill. -/
def awaitKilled (child : Pid) (deadline : UInt64) : SupervisorM Bool :=
  rounds supervisor.fuel (fun () => do
    match ← sys (.waitpid child) with
    | .reaped _ =>
      update Supervision.countReaped
      pure (.inl true)
    | waited =>
      if waited.lost then pure (.inl false)
      else
        let now ← sys .nowNs
        if now = 0 ∨ now ≥ deadline then pure (.inl false)
        else
          sys (.pauseNs pollNs)
          pure (.inr ())) ()

def stopAndReap (child : Pid) : SupervisorM Bool :=
  if child ≤ 0 then pure false
  else do
    match ← deadlineFor supervisor.limits.reapNs with
    | none => pure false
    | some deadline =>
      match ← sys (.waitpid child) with
      | .reaped _ =>
        update Supervision.countReaped
        pure true
      | waited =>
        if waited.lost then pure false
        else if killFailed (← sys (.kill child)) then pure false
        else supervisor.awaitKilled child deadline

/-- Whether a phase must end: the clock check of `wait_phase` and then its cancel check. -/
def phaseOver (cancellable : Bool) (deadline : UInt64) : SupervisorM Bool := do
  let now ← sys .nowNs
  if now = 0 ∨ now ≥ deadline then pure true
  else supervisor.isCancelled cancellable

/-- `wait_phase`: its result and what it leaves in `*exit`. Only the operation's phase is given
the cancel flag. -/
def waitPhase (child : Pid) (deadline : UInt64) (cancellable : Bool) (exit : WorkerExit) :
    SupervisorM (Bool × WorkerExit) :=
  rounds supervisor.fuel (fun () => do
    supervisor.parentCheck
    if ← supervisor.phaseOver cancellable deadline then
      let cancelled ← supervisor.isCancelled cancellable
      let stopped ← supervisor.stopAndReap child
      pure (.inl (stopped, if cancelled then .cancelled else .timedOut))
    else
      match ← sys (.waitpid child) with
      | .reaped status =>
        update Supervision.countReaped
        pure (.inl (true, status.classifyExit))
      | waited =>
        if waited.lost then pure (.inl (false, exit))
        else
          sys (.pauseNs pollNs)
          pure (.inr ())) ()

/-- The two `fcntl` calls on a new socket pair. -/
def setCloseOnExec : SupervisorM Bool := do
  if !(← sys .setCloexec) then pure false
  else sys .setCloexec

/-- The parent's part of `spawn_worker` once it has forked: the connection, if the worker was
recorded and granted. -/
def grantWorker (child : Pid) (channel : ℕ) : SupervisorM (Option ℕ) := do
  let recorded ← supervisor.supervisorOwnershipRecord child
  supervisor.parentCheck
  if !recorded then
    sys (.closeChannel channel)
    pure none
  else if !(← sys (.sendGrant channel)) then
    sys (.closeChannel channel)
    pure none
  else pure (some channel)

/-- `spawn_worker` in the parent: the child, -1 if there is none, and the connection. -/
def spawnWorker (kind : WorkerKind) (deadline : UInt64) : SupervisorM (Pid × Option ℕ) := do
  supervisor.parentCheck
  match ← sys .socketpair with
  | none => pure (-1, none)
  | some channel =>
    if !(← setCloseOnExec) then
      sys (.closeChannel channel)
      pure (-1, none)
    else
      match ← sys (.fork ⟨kind, channel, deadline⟩) with
      | none =>
        sys (.closeChannel channel)
        pure (-1, none)
      | some child =>
        let connection ← supervisor.grantWorker child.val channel
        pure (child.val, connection)

/-- `if (connection >= 0) (void)close(connection);` -/
def closeConnection : Option ℕ → SupervisorM Unit
  | none => pure ()
  | some channel => sys (.closeChannel channel)

/-! The observer's pipe. -/

/-- The end of a round of `supervise_observer`. -/
def concludeRound (recovering : Bool) (vars : ObserverVars) :
    SupervisorM (ObserverEnd ⊕ ObserverVars) := do
  if vars.reaped && vars.eof then
    let state ← current
    pure (.inl (.returned (state.verdict vars recovering)))
  else
    sys (.pauseNs pollNs)
    pure (.inr vars)

/-- The wait for the observer in a round that received nothing. -/
def collectObserver (child : Pid) (recovering : Bool) (vars : ObserverVars) :
    SupervisorM (ObserverEnd ⊕ ObserverVars) := do
  if vars.reaped then concludeRound recovering vars
  else
    match ← sys (.waitpid child) with
    | .reaped status =>
      update Supervision.countReaped
      concludeRound recovering
        { vars with reaped := true, exitedOk := decide (status.classifyExit = .exited) }
    | waited =>
      if waited.lost then
        update (Supervision.setResult .stopFailed)
        pure (.inl (.returned false))
      else concludeRound recovering vars

/-- A whole observation was read into the buffer. -/
def receiveObservation (launchedNs : UInt64) (recovering keepsLatest : Bool)
    (observation : Observation) (vars : ObserverVars) :
    SupervisorM (ObserverEnd ⊕ ObserverVars) := do
  if vars.samples ≥ 61 then pure (.inl (.broke vars.reaped))
  else
    let receivedNs ← sys .nowNs
    let state ← current
    let accepted :=
      acceptObservation state.lease observation launchedNs receivedNs vars.samples recovering
    update (Supervision.onLease fun _ => accepted.2)
    if !accepted.1 then pure (.inl (.broke vars.reaped))
    else
      update fun state =>
        if keepsLatest then { state with latest := some observation.snapshot } else state
      pure (.inr { vars with
        filled := []
        samples := vars.samples + 1
        progressDeadline := observation.finishedNs + maxReadNs + 2 * uint64Second })

/-- One round of the loop of `supervise_observer`. -/
def observerRound (child : Pid) (launchedNs deadline : UInt64) (recovering keepsLatest : Bool)
    (vars : ObserverVars) : SupervisorM (ObserverEnd ⊕ ObserverVars) := do
  supervisor.parentCheck
  let now ← sys .nowNs
  if now = 0 ∨ now ≥ deadline ∨ now ≥ vars.progressDeadline then
    pure (.inl (.broke vars.reaped))
  else if vars.eof then collectObserver child recovering vars
  else
    match ← sys (.readPipe (supervisor.layout.size - vars.filled.length)) with
    | .ok bytes =>
      if bytes.val = [] then collectObserver child recovering { vars with eof := true }
      else if (vars.filled ++ bytes.val).length = supervisor.layout.size then
        receiveObservation launchedNs recovering keepsLatest
          (supervisor.layout.decode (vars.filled ++ bytes.val)) vars
      else pure (.inr { vars with filled := vars.filled ++ bytes.val })
    | .error errno =>
      if errno ≠ .again ∧ errno ≠ .interrupted then pure (.inl (.broke vars.reaped))
      else collectObserver child recovering vars

def ObserverVars.start (launchedNs : UInt64) : ObserverVars :=
  ⟨[], 0, false, false, false, launchedNs + maxReadNs + 2 * uint64Second⟩

def superviseObserver (child : Pid) (launchedNs deadline : UInt64)
    (recovering keepsLatest : Bool) : SupervisorM Bool := do
  match ← rounds supervisor.fuel
      (supervisor.observerRound child launchedNs deadline recovering keepsLatest)
      (ObserverVars.start launchedNs) with
  | .returned verified => pure verified
  | .broke true => pure false
  | .broke false =>
    if ← supervisor.stopAndReap child then pure false
    else
      update (Supervision.setResult .stopFailed)
      pure false

/-- `observer_pid > 0 && supervise_observer(...)` -/
def superviseForked (child : Pid) (launchedNs deadline : UInt64)
    (recovering keepsLatest : Bool) : SupervisorM Bool :=
  if child > 0 then
    supervisor.superviseObserver child launchedNs deadline recovering keepsLatest
  else pure false

/-- The optional diagnostic once the observer was granted. -/
def reportObserver (child : Pid) (connection : Option ℕ) (recovering : Bool) : SupervisorM Unit :=
  if connection.isSome && decide (child > 0) && supervisor.backend.hasObserverStarted then
    sys (.observerStarted child recovering)
  else pure ()

/-- `observe_owned` once its pipe is open and its deadline is set. -/
def observeFor (launchedNs deadline : UInt64) (recovering keepsLatest : Bool) :
    SupervisorM Bool := do
  let (child, connection) ← supervisor.spawnWorker .observer deadline
  update (Supervision.setPid .observer child)
  supervisor.reportObserver child connection recovering
  let verified ← supervisor.superviseForked child launchedNs deadline recovering keepsLatest
  sys .closePipe
  closeConnection connection
  pure verified

def observeOwned (recovering keepsLatest : Bool) : SupervisorM Bool := do
  if !(← sys .pipe) then pure false
  else if !(← sys .setNonblocking) then
    sys .closePipe
    pure false
  else
    let launchedNs ← sys .nowNs
    match ← deadlineFor supervisor.limits.observationNs with
    | none =>
      sys .closePipe
      pure false
    | some deadline => supervisor.observeFor launchedNs deadline recovering keepsLatest

def canSupervise : SupervisorM Bool :=
  if supervisor.limits.valid && supervisor.backend.hasRecover && supervisor.backend.hasRead then do
    let action ← sys .childAction
    pure (action.any fun action => action.isDefault && !action.noZombies)
  else pure false

/-- The report a call returns. -/
def finish : SupervisorM WorkerSupervisorReport := do
  let state ← current
  pure state.report

/-- `worker_supervisor_observe_baseline` with a lease and a snapshot that are not `NULL`. -/
def observeBaseline : SupervisorM WorkerSupervisorReport := do
  update fun state => { state with report := .blocked }
  supervisor.parentCheck
  if !(← supervisor.canSupervise) then finish
  else if (← supervisor.controlIntentRead) ≠ .clear then finish
  else if !(← supervisor.supervisorOwnershipAcquire false) then finish
  else
    update fun state => { state with lease := ControlLease.zero }
    update (Supervision.setResult .observationFailed)
    if ← supervisor.observeOwned false true then
      update (Supervision.setResult .baselineReady)
      closeLock
      finish
    else
      update (Supervision.onLease ControlLease.sleep)
      closeLock
      finish

def controlIntentClearVerified : SupervisorM Bool :=
  onLease (supervisor.journal.controlIntentClearVerified supervisor.fuel)

def controlIntentMarkPending : SupervisorM Bool :=
  onLease (supervisor.journal.controlIntentMarkPending supervisor.fuel)

/-- The part of `recover_owned` after the recovery worker exited. -/
def verifyRecovery : SupervisorM Unit := do
  update (Supervision.setResult .observationFailed)
  let verified ← supervisor.observeOwned true false
  supervisor.parentCheck
  if !verified then update (Supervision.onLease ControlLease.sleep)
  else if ← supervisor.controlIntentClearVerified then update (Supervision.setResult .recovered)
  else update (Supervision.onLease ControlLease.sleep)

def recoverOwned : SupervisorM Unit := do
  update (Supervision.setResult .recoveryFailed)
  match ← deadlineFor supervisor.limits.recoveryNs with
  | none => pure ()
  | some deadline =>
    let (child, connection) ← supervisor.spawnWorker .recovery deadline
    update (Supervision.setPid .recovery child)
    if child ≤ 0 then pure ()
    else
      let (stopped, exit) ← supervisor.waitPhase child deadline false .notStarted
      closeConnection connection
      if !stopped then update (Supervision.setResult .stopFailed)
      else if exit ≠ .exited then pure ()
      else supervisor.verifyRecovery

/-- `control_lease_mark_write_pending(lease, owner, now_ns(), CONTROL_INTENT_PENDING)` -/
def markWritePending (owner : UInt64) : SupervisorM Bool := do
  let now ← sys .nowNs
  let state ← current
  let marked := state.lease.markWritePending owner now .pending
  update (Supervision.onLease fun _ => marked.2)
  pure marked.1

/-- The operation's phase; whether its worker is stopped. -/
def operateOwned (deadline : UInt64) : SupervisorM Bool := do
  let (child, connection) ← supervisor.spawnWorker .operation deadline
  update (Supervision.setPid .operation child)
  if child ≤ 0 then
    closeConnection connection
    pure true
  else
    let (stopped, exit) ← supervisor.waitPhase child deadline true .notStarted
    update (Supervision.setOperation exit)
    closeConnection connection
    pure stopped

def runOwned : SupervisorM Unit := do
  let owner := (← current).lease.owner
  supervisor.parentCheck
  if !(← supervisor.controlIntentMarkPending) then
    update (Supervision.onLease fun lease => lease.ownerLost owner)
  else if !(← markWritePending owner) then
    update (Supervision.onLease fun lease => lease.ownerLost owner)
  else
    match ← deadlineFor supervisor.limits.operationNs with
    | none =>
      update (Supervision.onLease fun lease => lease.ownerLost owner)
      supervisor.recoverOwned
    | some deadline =>
      let state ← current
      let stopped ← supervisor.operateOwned (min deadline state.lease.expiresAtNs)
      update (Supervision.onLease fun lease => lease.ownerLost owner)
      if !stopped then update (Supervision.setResult .stopFailed)
      else supervisor.recoverOwned

/-- The lease checks of `worker_supervisor_run`. -/
def mayRun (lease : ControlLease) (now : UInt64) : Bool :=
  lease.state == .held && lease.owner != 0 && lease.lastSampleNs ≤ now &&
    now < lease.expiresAtNs && now - lease.lastSampleNs ≤ 2 * uint64Second

/-- `worker_supervisor_run` with a lease that is not `NULL`. -/
def workerSupervisorRun : SupervisorM WorkerSupervisorReport := do
  update fun state => { state with report := .blocked }
  supervisor.parentCheck
  let now ← sys .nowNs
  if !(← supervisor.canSupervise) then finish
  else if !supervisor.backend.hasOperate then finish
  else if ← supervisor.isCancelled true then finish
  else if !mayRun (← current).lease now then finish
  else if (← supervisor.controlIntentRead) ≠ .clear then finish
  else if !(← supervisor.supervisorOwnershipAcquire false) then finish
  else
    supervisor.runOwned
    closeLock
    finish

/-- `worker_supervisor_resume` with a lease that is not `NULL`. -/
def workerSupervisorResume : SupervisorM WorkerSupervisorReport := do
  update fun state => { state with report := .blocked }
  supervisor.parentCheck
  if !(← supervisor.canSupervise) then finish
  else if (← supervisor.controlIntentRead) ≠ .pending then finish
  else
    let now ← sys .nowNs
    update (Supervision.onLease fun _ => ControlLease.start .pending .readFailed none now)
    if !(← supervisor.supervisorOwnershipAcquire true) then finish
    else
      supervisor.recoverOwned
      closeLock
      finish

/-! The workers, from the fork on; each ends with its exit code. -/

/-- One round of `observe_child`. -/
def observeOnce (index : ℕ) : SupervisorM (UInt8 ⊕ Unit) := do
  let startedNs ← sys .nowNs
  let (result, snapshot) ← sys .readBaseline
  let finishedNs ← sys .nowNs
  let written ← rounds supervisor.fuel (fun () => do
    match ← sys (.writeObservation ⟨startedNs, finishedNs, result, snapshot⟩) with
    | .ok count => pure (.inl (some count))
    | .error .interrupted => pure (.inr ())
    | .error _ => pure (.inl none)) ()
  if written ≠ some supervisor.layout.size then pure (.inl 1)
  else if result ≠ .ok then pure (.inl 1)
  else if index + 1 < 61 then
    sys (.pauseNs uint64Second)
    pure (.inr ())
  else pure (.inr ())

def observeChild : SupervisorM UInt8 := do
  match ← loop (fun index () => supervisor.observeOnce index) 61 0 () with
  | .inl code => pure code
  | .inr () => pure 0

/-- What a worker does once it is granted. -/
def workerAction : WorkerKind → SupervisorM UInt8
  | .operation => do
    let result ← sys .operate
    pure (if result = 0 then 0 else 1)
  | .recovery => do
    let result ← sys .recover
    pure (if result = 0 then 0 else 1)
  | .observer => supervisor.observeChild

def workerMain (worker : Worker) : SupervisorM UInt8 := do
  if ← supervisor.supervisorOwnershipEnterChild worker then supervisor.workerAction worker.kind
  else pure 126

end WorkerSupervisor
end Ventilator
