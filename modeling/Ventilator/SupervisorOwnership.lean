import Ventilator.SupervisorCalls

/-! The ownership of the supervisor's directory from `SupervisorOwnership.c`: an inherited lock,
the durable record of the last worker and the grant a worker waits for. -/
namespace Ventilator
open CallTree

/-! The scan of a worker record by `sscanf` with `Ventilator worker v1 %ld\n%n`. -/

def isSpace (byte : UInt8) : Bool := byte == 32 || (9 ≤ byte && byte ≤ 13)

def isDigit (byte : UInt8) : Bool := 48 ≤ byte && byte ≤ 57

def skipSpaces (text : List UInt8) : List UInt8 := text.dropWhile isSpace

/-- The text after a word it begins with. -/
def scanWord (word : String) (text : List UInt8) : Option (List UInt8) :=
  if word.toUTF8.toList.isPrefixOf text then some (text.drop word.toUTF8.toList.length) else none

def decimalValue (digits : List UInt8) : ℕ :=
  digits.foldl (fun value digit => 10 * value + (digit.toNat - 48)) 0

/-- The sign `%ld` may take, and the text after it. -/
def scanSign : List UInt8 → Bool × List UInt8
  | 45 :: rest => (true, rest)
  | 43 :: rest => (false, rest)
  | text => (false, text)

/-- `%ld`: values beyond `long` are clamped there, and both are beyond `INT_MAX`. -/
def scanLong (text : List UInt8) : Option (Int × List UInt8) :=
  let signed := scanSign (skipSpaces text)
  let digits := signed.2.takeWhile isDigit
  if digits = [] then none
  else
    let value : Int := decimalValue digits
    some (if signed.1 then -value else value, signed.2.dropWhile isDigit)

/-- The recorded number, when the scan succeeds and uses every byte. -/
def scanWorker (contents : List UInt8) : Option Int := do
  let first ← scanWord "Ventilator" (contents.takeWhile (· != 0))
  let second ← scanWord "worker" (skipSpaces first)
  let third ← scanWord "v1" (skipSpaces second)
  let (recorded, rest) ← scanLong (skipSpaces third)
  if skipSpaces rest = [] ∧ (contents.takeWhile (· != 0)).length = contents.length then
    some recorded
  else none

/-- `Ventilator worker v1 %ld\n` -/
def workerRecord (child : Pid) : List UInt8 :=
  ("Ventilator worker v1 " ++ toString child.toInt ++ "\n").toUTF8.toList

def intMax : Int := 2147483647

namespace WorkerSupervisor
open SupervisorM

variable (supervisor : WorkerSupervisor)

def privateDirectory : SupervisorM Bool :=
  onJournal (some <$> supervisor.journal.privateDirectory)

def controlIntentRead : SupervisorM ControlIntentStatus :=
  onJournal (supervisor.journal.controlIntentRead supervisor.fuel)

/-- `private_file` of an opened descriptor. -/
def privateFile (file : OwnershipFile) : SupervisorM Bool := do
  let info ← sys (.fstatFile file)
  pure (info.any fun info =>
    info.kind == .regular && info.uid == supervisor.journal.euid && info.mode &&& 0o777 == 0o600 &&
      info.nlink == 1)

/-- The bytes of the opened record, when they are exactly the whole file. -/
def readRecord : SupervisorM (Option (List UInt8)) := do
  if !(← supervisor.privateFile .worker) then pure none
  else
    match ← sys (.readWorker 63) with
    | .error _ => pure none
    | .ok bytes =>
      if bytes.val = [] then pure none
      else
        let info ← sys (.fstatFile .worker)
        pure (if info.any fun info => info.size == (bytes.val.length : Int) then some bytes.val
          else none)

/-- `proc_pidinfo` found no process, and said so. -/
def recordedAbsent (recorded : Int) : SupervisorM Bool :=
  if recorded < 0 ∨ recorded > intMax then pure false
  else if recorded = 0 then pure true
  else sys (.procPidinfo recorded)

def oldWorkerAbsent (pending : Bool) : SupervisorM Bool := do
  match ← sys (.openFile .worker) with
  | .error errno => pure (decide (errno = .noEntry) && !pending)
  | .ok () =>
    let contents ← supervisor.readRecord
    if !(← sys (.closeFile .worker)) then pure false
    else
      match contents.bind scanWorker with
      | none => pure false
      | some recorded => recordedAbsent recorded

/-- The write loop of the record; its result is `saved`. -/
def writeRecord (contents : List UInt8) : SupervisorM Bool :=
  rounds supervisor.fuel (fun written => do
    if written < contents.length then
      match ← sys (.writeNext (contents.drop written)) with
      | .ok count => pure (if 0 < count.val then .inr (written + count.val) else .inl false)
      | .error .interrupted => pure (.inr written)
      | .error _ => pure (.inl false)
    else pure (.inl true)) 0

/-- The next record, saved up to its `fsync`. -/
def saveNext (child : Pid) : SupervisorM Bool := do
  if !(← sys .truncateNext) then pure false
  else if !(← supervisor.writeRecord (workerRecord child)) then pure false
  else sys .fsyncNext

def supervisorOwnershipRecord (child : Pid) : SupervisorM Bool := do
  if !(← supervisor.privateDirectory) then pure false
  else if child < 0 then pure false
  else
    match ← sys (.openFile .next) with
    | .error _ => pure false
    | .ok () =>
      if !(← supervisor.privateFile .next) then
        let _ ← sys (.closeFile .next)
        pure false
      else
        let saved ← supervisor.saveNext child
        let closed ← sys (.closeFile .next)
        if !(saved && closed) then pure false
        else if !(← sys .renameNext) then pure false
        else sys (.journal .fsyncDirectory)

/-- The checks of the opened lock file; any failure closes it again. -/
def ownLock (pending : Bool) : SupervisorM Bool := do
  if !(← supervisor.privateFile .lock) then pure false
  else if !(← sys .flock) then pure false
  else if (← supervisor.controlIntentRead) ≠ (if pending then .pending else .clear) then pure false
  else if !(← supervisor.oldWorkerAbsent pending) then pure false
  else
    let opened ← sys .lockOpened
    if opened.isNone then pure false
    else if (← sys .lockNamed) ≠ opened then pure false
    else supervisor.supervisorOwnershipRecord 0

def closeLock : SupervisorM Unit := do
  let _ ← sys (.closeFile .lock)

/-- `supervisor_ownership_acquire`: whether the lock's descriptor is returned. -/
def supervisorOwnershipAcquire (pending : Bool) : SupervisorM Bool := do
  if !(← supervisor.privateDirectory) then pure false
  else
    match ← sys (.openFile .lock) with
    | .error _ => pure false
    | .ok () =>
      if ← supervisor.ownLock pending then pure true
      else
        closeLock
        pure false

/-- The read of the grant; the byte, or `none` for anything else. -/
def awaitGrant (channel : ℕ) : SupervisorM (Option UInt8) :=
  rounds supervisor.fuel (fun () => do
    match ← sys (.readGrant channel) with
    | .ok grant => pure (.inl grant)
    | .error .interrupted => pure (.inr ())
    | .error _ => pure (.inl none)) ()

/-- `supervisor_ownership_enter_child`: whether the worker may go on, else it exits with 126. The
watcher it starts may end the worker at any later time. -/
def supervisorOwnershipEnterChild (worker : Worker) : SupervisorM Bool := do
  if (← supervisor.awaitGrant worker.channel) ≠ some 71 then pure false
  else
    let now ← sys .nowNs
    if now ≥ worker.deadlineNs then pure false
    else if !(← sys .createWatcher) then pure false
    else sys .detachWatcher

end WorkerSupervisor
end Ventilator
