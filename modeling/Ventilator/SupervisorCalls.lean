import Ventilator.CallTreeLogic
import Ventilator.IntentJournal

/-! The system calls of the supervisor, its ownership files and its workers, from
`SupervisorOwnership.c` and `WorkerSupervisor.c`. Every call may have any outcome. -/
namespace Ventilator
open CallTree

abbrev Pid := Int32

/-- What a worker was forked to do. -/
inductive WorkerKind
  | operation
  | recovery
  | observer
  deriving DecidableEq

/-- A forked worker: its part, the socket pair it shares with its parent and its deadline. -/
structure Worker where
  kind : WorkerKind
  channel : ℕ
  deadlineNs : UInt64
  deriving DecidableEq

inductive WaitStatus
  | exited (code : UInt8)
  | signaled
  deriving DecidableEq

/-- The outcomes of `waitpid(child, &status, WNOHANG)`. -/
inductive Waited
  | reaped (status : WaitStatus)
  | running
  | failed (errno : Errno)
  deriving DecidableEq

structure ChildAction where
  isDefault : Bool
  noZombies : Bool
  deriving DecidableEq

inductive OwnershipFile
  | lock
  | worker
  | next
  deriving DecidableEq

structure FileId where
  device : UInt64
  inode : UInt64
  deriving DecidableEq

structure Observation where
  startedNs : UInt64
  finishedNs : UInt64
  result : SmcBaselineResult
  snapshot : SmcBaselineSnapshot
  deriving DecidableEq

/-- The calls of a supervisor and of its workers. The journal's calls are its own; a socket pair
is named by the number it gets, and a grant by the pair it is sent on. -/
inductive SupervisorCall
  | journal (c : JournalCall)
  | parentCheck
  | nowNs
  | pauseNs (duration : UInt64)
  | cancelled
  | childAction
  | openFile (file : OwnershipFile)
  | fstatFile (file : OwnershipFile)
  | closeFile (file : OwnershipFile)
  | flock
  | lockOpened
  | lockNamed
  | readWorker (size : ℕ)
  | procPidinfo (pid : Int)
  | truncateNext
  | writeNext (bytes : List UInt8)
  | fsyncNext
  | renameNext
  | socketpair
  | setCloexec
  | fork (worker : Worker)
  | sendGrant (channel : ℕ)
  | closeChannel (channel : ℕ)
  | waitpid (child : Pid)
  | kill (child : Pid)
  | pipe
  | setNonblocking
  | closePipe
  | readPipe (size : ℕ)
  | observerStarted (child : Pid) (recovering : Bool)
  | readGrant (channel : ℕ)
  | createWatcher
  | detachWatcher
  | operate
  | recover
  | readBaseline
  | writeObservation (observation : Observation)
  deriving DecidableEq

abbrev SupervisorCall.Answer : SupervisorCall → Type
  | journal c => c.Answer
  | parentCheck => Unit
  | nowNs => UInt64
  | pauseNs _ => Unit
  | cancelled => Bool
  | childAction => Option ChildAction
  | openFile _ => Except Errno Unit
  | fstatFile _ => Option FileStat
  | closeFile _ => Bool
  | flock => Bool
  | lockOpened => Option FileId
  | lockNamed => Option FileId
  | readWorker size => Except Errno { bytes : List UInt8 // bytes.length ≤ size }
  | procPidinfo _ => Bool
  | truncateNext => Bool
  | writeNext bytes => Except Errno (Fin (bytes.length + 1))
  | fsyncNext => Bool
  | renameNext => Bool
  | socketpair => Option ℕ
  | setCloexec => Bool
  | fork _ => Option { child : Pid // 0 < child }
  | sendGrant _ => Bool
  | closeChannel _ => Unit
  | waitpid _ => Waited
  | kill _ => Except Errno Unit
  | pipe => Bool
  | setNonblocking => Bool
  | closePipe => Unit
  | readPipe size => Except Errno { bytes : List UInt8 // bytes.length ≤ size }
  | observerStarted _ _ => Unit
  | readGrant _ => Except Errno (Option UInt8)
  | createWatcher => Bool
  | detachWatcher => Bool
  | operate => Int32
  | recover => Int32
  | readBaseline => SmcBaselineResult × SmcBaselineSnapshot
  | writeObservation _ => Except Errno ℕ

/-- How each call fails; those that cannot fail answer with a zero. -/
def SupervisorCall.failed : (c : SupervisorCall) → c.Answer
  | journal .fstatDirectory => none
  | journal .openMarker => .error .other
  | journal .createMarker => false
  | journal .fstatMarker => none
  | journal (.readMarker _) => .error .other
  | journal (.writeMarker _) => .error .other
  | journal .fsyncMarker => false
  | journal .closeMarker => false
  | journal .fsyncDirectory => false
  | journal .unlinkMarker => false
  | parentCheck => ()
  | nowNs => 0
  | pauseNs _ => ()
  | cancelled => false
  | childAction => none
  | openFile _ => .error .other
  | fstatFile _ => none
  | closeFile _ => false
  | flock => false
  | lockOpened => none
  | lockNamed => none
  | readWorker _ => .error .other
  | procPidinfo _ => false
  | truncateNext => false
  | writeNext _ => .error .other
  | fsyncNext => false
  | renameNext => false
  | socketpair => none
  | setCloexec => false
  | fork _ => none
  | sendGrant _ => false
  | closeChannel _ => ()
  | waitpid _ => .failed .other
  | kill _ => .error .other
  | pipe => false
  | setNonblocking => false
  | closePipe => ()
  | readPipe _ => .error .other
  | observerStarted _ _ => ()
  | readGrant _ => .error .other
  | createWatcher => false
  | detachWatcher => false
  | operate => 1
  | recover => 1
  | readBaseline =>
    (.readFailed, ⟨0, fun _ => 0, fun _ => .finite 0, fun _ => .finite 0, fun _ => .finite 0⟩)
  | writeObservation _ => .error .other

instance (c : SupervisorCall) : Nonempty c.Answer := ⟨c.failed⟩

abbrev SupervisorEvent := Event SupervisorCall.Answer

inductive WorkerExit
  | notStarted
  | exited
  | failed
  | crashed
  | timedOut
  | cancelled
  deriving DecidableEq

inductive WorkerSupervisorResult
  | blocked
  | recovered
  | recoveryFailed
  | observationFailed
  | stopFailed
  | baselineReady
  deriving DecidableEq

structure WorkerSupervisorReport where
  result : WorkerSupervisorResult
  operation : WorkerExit
  operationPid : Pid
  recoveryPid : Pid
  observerPid : Pid
  reaped : UInt32
  deriving DecidableEq

def WorkerSupervisorReport.blocked : WorkerSupervisorReport := ⟨.blocked, .notStarted, 0, 0, 0, 0⟩

/-- The memory a supervisor works on: its caller's lease, the report it returns and its caller's
`*latest`. -/
structure Supervision where
  lease : ControlLease
  report : WorkerSupervisorReport
  latest : Option SmcBaselineSnapshot
  deriving DecidableEq

abbrev SupervisionM := StateT Supervision (CallTree SupervisorCall SupervisorCall.Answer)

/-- A program whose loops are run for a number of rounds; no result means one is still running. -/
abbrev SupervisorM := OptionT SupervisionM

structure WorkerSupervisorLimits where
  operationNs : UInt64
  recoveryNs : UInt64
  observationNs : UInt64
  reapNs : UInt64
  deriving DecidableEq

/-- Which callbacks a backend sets. -/
structure WorkerSupervisorBackend where
  hasOperate : Bool
  hasRecover : Bool
  hasRead : Bool
  hasObserverStarted : Bool
  hasParentCheck : Bool
  deriving DecidableEq

/-- The compiler's layout of an `Observation` in memory. -/
structure ObservationLayout where
  size : ℕ
  size_pos : 0 < size
  decode : List UInt8 → Observation

/-- What does not change during a call, and the rounds after which a loop is still running. -/
structure WorkerSupervisor where
  journal : JournalDirectory
  backend : WorkerSupervisorBackend
  limits : WorkerSupervisorLimits
  hasCancel : Bool
  layout : ObservationLayout
  fuel : ℕ

namespace SupervisorM

/-- One call. -/
abbrev sys (c : SupervisorCall) : SupervisorM c.Answer := OptionT.lift (ask c)

/-- A loop that ends by `.inl`, for the given number of rounds. -/
def rounds {ρ κ : Type} (fuel : ℕ) (body : κ → SupervisorM (ρ ⊕ κ)) (vars : κ) :
    SupervisorM ρ := do
  match ← loop (fun _ => body) fuel 0 vars with
  | .inl result => pure result
  | .inr _ => failure

/-- The loop rule. -/
lemma holds_rounds {ρ κ : Type} {guard : List SupervisorEvent → SupervisorEvent → Prop}
    {I : κ → Supervision → List SupervisorEvent → Prop}
    {post : ρ → Supervision → List SupervisorEvent → Prop} {body : κ → SupervisorM (ρ ⊕ κ)}
    {fuel : ℕ} {vars : κ} {state : Supervision} {before : List SupervisorEvent}
    (hbody : ∀ vars state before, I vars state before →
      Holds guard before state (body vars) fun out state' after => match out with
        | .inl result => post result state' after
        | .inr vars' => I vars' state' after)
    (hinit : I vars state before) : Holds guard before state (rounds fuel body vars) post := by
  refine Holds.bind (Q := fun out state' after => ∀ result, out = .inl result →
    post result state' after) (Holds.loop (I := I) (fun _ vars state before hI =>
      (hbody vars state before hI).mono fun out _ _ hout => ?_) (fun _ _ _ _ => nofun) _ _ hinit) ?_
  · cases out with
    | inl result =>
      intro result' heq
      rw [← Sum.inl.inj heq]
      exact hout
    | inr vars' => exact hout
  · intro out state' after hout
    cases out with
    | inl result => exact .pure (hout result rfl)
    | inr vars' => exact .failure

/-- A program on the journal; it has no result while its loop is still running. -/
def onJournal {α : Type} (t : JournalM (Option α)) : SupervisorM α :=
  OptionT.mk (handle (fun c => ask (SupervisorCall.journal c)) t)

/-- A program on the journal and the caller's lease. -/
def onLease {α : Type} (m : JournalDirectory.LeaseM (Option α)) : SupervisorM α :=
  OptionT.mk do
    let state ← get
    let (result, lease) ← handle (fun c => ask (SupervisorCall.journal c)) (m.run state.lease)
    set { state with lease := lease }
    pure result

def update (f : Supervision → Supervision) : SupervisorM Unit := OptionT.lift (modify f)

def current : SupervisorM Supervision := OptionT.lift get

end SupervisorM
end Ventilator
