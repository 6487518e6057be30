import Ventilator.MutexRuns
import Ventilator.SupervisorPairs

/-! Any number of processes that supervise one directory and the workers they fork, with the lock
file that a worker inherits, the socket pairs and the marker. A process may end between any two
calls, and may call into the supervisor again when a call is over. -/
namespace Ventilator
open CallTree MutexRuns

namespace SupervisorSystem

/-- What is left of a process's program. -/
abbrev Program := CallTree SupervisorCall SupervisorCall.Answer Unit

/-- What a process does: a call into the supervisor, or the work it was forked for. -/
inductive Role
  | supervises (supervisor : WorkerSupervisor) (entry : SupervisorEntry)
  | works (supervisor : WorkerSupervisor) (worker : Worker) (parent : ℕ)

/-- A process, with the number of its call or of the call that forked it, and the calls it made
since. -/
structure Process where
  pid : Pid
  role : Role
  job : ℕ
  trace : List SupervisorEvent
  rest : Program
  ended : Option WaitStatus

namespace Process

/-- A process at the beginning of a call. -/
def enters (pid : Pid) (supervisor : WorkerSupervisor) (entry : SupervisorEntry) (job : ℕ)
    (memory : Supervision) : Process :=
  ⟨pid, .supervises supervisor entry, job, [],
    (supervisor.entry entry).run.run memory >>= fun _ => pure (), none⟩

/-- A worker just forked. -/
def forked (child : Pid) (supervisor : WorkerSupervisor) (worker : Worker) (parent job : ℕ)
    (memory : Supervision) : Process :=
  ⟨child, .works supervisor worker parent, job, [],
    (supervisor.workerMain worker).run.run memory >>= fun _ => pure (), none⟩

/-- A process after one more of its calls. -/
def goesOn (process : Process) (e : SupervisorEvent) (rest : Program) : Process :=
  { process with trace := process.trace ++ [e], rest := rest }

end Process

/-- The processes so far, the number of the next call, and what they share: the processes that have
a call's lock file open, the calls whose lock file is locked, the call that made each socket pair,
the pairs on which a grant was sent, and whether there is a marker. -/
structure World where
  process : ℕ → Option Process
  calls : ℕ
  holders : ℕ → Set ℕ
  locked : Set ℕ
  pair : ℕ → Option ℕ
  granted : Set ℕ
  marked : Prop

def initial (marked : Prop) : World := ⟨fun _ => none, 0, fun _ => ∅, ∅, fun _ => none, ∅, marked⟩

/-- The answers that neither depend on what is shared nor change it. -/
def isPlain : SupervisorEvent → Bool
  | ⟨.openFile .lock, .ok ()⟩ => false
  | ⟨.closeFile .lock, _⟩ => false
  | ⟨.flock, true⟩ => false
  | ⟨.socketpair, some _⟩ => false
  | ⟨.fork _, some _⟩ => false
  | ⟨.sendGrant _, true⟩ => false
  | ⟨.readGrant _, .ok (some _)⟩ => false
  | ⟨.waitpid _, .reaped _⟩ => false
  | ⟨.journal .createMarker, true⟩ => false
  | ⟨.journal .unlinkMarker, true⟩ => false
  | ⟨.journal .openMarker, .ok ()⟩ => false
  | ⟨.journal .openMarker, .error .noEntry⟩ => false
  | _ => true

namespace World

/-- The process is there and has not ended. -/
def Lives (w : World) (p : ℕ) (process : Process) : Prop :=
  w.process p = some process ∧ process.ended = none

/-- No process that has not ended has the number. -/
def FreePid (w : World) (pid : Pid) : Prop := ∀ p process, w.Lives p process → process.pid ≠ pid

/-- A call with its answer, as the process makes it, and what it leaves of what is shared. The
lock is given to an open file when no process has another locked one open; a forked worker
inherits every open file; a worker is reaped once it ended. -/
inductive Performs (w : World) (p : ℕ) (process : Process) : SupervisorEvent → World → Prop
  | plain {e : SupervisorEvent} (h : isPlain e = true) : Performs w p process e w
  | opensLock : Performs w p process ⟨.openFile .lock, .ok ()⟩
      { w with
        holders := Function.update w.holders process.job (insert p (w.holders process.job)) }
  | closesLock {closed : Bool} : Performs w p process ⟨.closeFile .lock, closed⟩
      { w with
        holders := Function.update w.holders process.job (w.holders process.job \ {p}) }
  | locks (h : ∀ job ∈ w.locked, job ≠ process.job → w.holders job = ∅) :
      Performs w p process ⟨.flock, true⟩ { w with locked := insert process.job w.locked }
  | pairs {channel : ℕ} (h : w.pair channel = none) :
      Performs w p process ⟨.socketpair, some channel⟩
        { w with pair := Function.update w.pair channel (some process.job) }
  | forks {worker : Worker} {child : { child : Pid // 0 < child }} {q : ℕ}
      {supervisor : WorkerSupervisor} {entry : SupervisorEntry} {memory : Supervision}
      (hrole : process.role = .supervises supervisor entry) (hfree : w.process q = none)
      (hpid : w.FreePid child.val) :
      Performs w p process ⟨.fork worker, some child⟩
        { w with
          process := Function.update w.process q
            (some (.forked child.val supervisor worker p process.job memory))
          holders := fun job => { holder | holder ∈ w.holders job ∨
            holder = q ∧ p ∈ w.holders job } }
  | grants {channel : ℕ} : Performs w p process ⟨.sendGrant channel, true⟩
      { w with granted := insert channel w.granted }
  | readsGrant {channel : ℕ} (h : channel ∈ w.granted) :
      Performs w p process ⟨.readGrant channel, .ok (some 71)⟩ w
  | reaps {child : Pid} {status : WaitStatus}
      (h : ∃ q worked supervisor worker, w.process q = some worked ∧
        worked.role = .works supervisor worker p ∧ worked.pid = child ∧ worked.ended = some status)
      (hnone : ∀ q worked supervisor worker, w.Lives q worked →
        worked.role = .works supervisor worker p → worked.pid ≠ child) :
      Performs w p process ⟨.waitpid child, .reaped status⟩ w
  | marks (h : ¬ w.marked) :
      Performs w p process ⟨.journal .createMarker, true⟩ { w with marked := True }
  | unmarks (h : w.marked) :
      Performs w p process ⟨.journal .unlinkMarker, true⟩ { w with marked := False }
  | findsMarker (h : w.marked) : Performs w p process ⟨.journal .openMarker, .ok ()⟩ w
  | findsNone (h : ¬ w.marked) : Performs w p process ⟨.journal .openMarker, .error .noEntry⟩ w

/-- The process as it is from now on. -/
def becomes (w : World) (p : ℕ) (process : Process) : World :=
  { w with process := Function.update w.process p (some process) }

end World

/-- What happens in the system: a process begins a call, makes one of its calls in it, or ends. -/
inductive Move
  | enters (p job : ℕ)
  | does (p job : ℕ) (e : SupervisorEvent)
  | ends (p : ℕ)

open World

inductive Step : World → Move → World → Prop
  | born {w : World} {p : ℕ} {pid : Pid} (supervisor : WorkerSupervisor) (entry : SupervisorEntry)
      (memory : Supervision) (hfree : w.process p = none) (hpid : w.FreePid pid) :
      Step w (.enters p w.calls)
        { w.becomes p (.enters pid supervisor entry w.calls memory) with calls := w.calls + 1 }
  | again {w : World} {p : ℕ} {process : Process} {earlier : WorkerSupervisor}
      {before : SupervisorEntry} (supervisor : WorkerSupervisor) (entry : SupervisorEntry)
      (memory : Supervision) (hlives : w.Lives p process)
      (hrole : process.role = .supervises earlier before) (hover : process.rest = .done ()) :
      Step w (.enters p w.calls)
        { w.becomes p (.enters process.pid supervisor entry w.calls memory) with
          calls := w.calls + 1 }
  | does {w w' : World} {p : ℕ} {process : Process} {c : SupervisorCall} {answer : c.Answer}
      {next : c.Answer → Program} (hlives : w.Lives p process) (hcalls : process.rest = .call c next)
      (hperforms : w.Performs p process ⟨c, answer⟩ w') :
      Step w (.does p process.job ⟨c, answer⟩)
        (w'.becomes p (process.goesOn ⟨c, answer⟩ (next answer)))
  | ends {w : World} {p : ℕ} {process : Process} (status : WaitStatus) (hlives : w.Lives p process) :
      Step w (.ends p)
        { w.becomes p { process with ended := some status } with
          holders := fun job => w.holders job \ {p} }

/-- The runs of the system on a directory with or without a marker. -/
abbrev Runs (marked : Prop) (moves : List Move) (w : World) : Prop :=
  Run Step (initial marked) moves w

/-- The calls that a process made in a call or as a worker. -/
def eventsOf (p job : ℕ) (moves : List Move) : List SupervisorEvent :=
  moves.filterMap fun
    | .does p' job' e => if p' = p ∧ job' = job then some e else none
    | _ => none

end SupervisorSystem
end Ventilator
