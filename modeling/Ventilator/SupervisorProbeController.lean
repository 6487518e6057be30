import Ventilator.SupervisorReport
import Ventilator.HelperReplyContract

/-! The daemon's controller of the supervisor probe, from `SupervisorProbeController.m` and
`SupervisorProbeOwner.m`. Requests hold the controller's lock throughout; what happens outside it
is the loss of a connection and the end of a runner. A launch looks at the connection twice: a loss
between the two is a channel that does not open, and a later one acts as if it came after. -/
namespace Ventilator
open PropertyValue

inductive SupervisorProbeMode
  | run
  | cleanup
  | crash
  | resume
  deriving DecidableEq

inductive SupervisorProbeState
  | idle
  | running
  | interrupted
  | finished
  | failed
  | cleaned
  deriving DecidableEq

def SupervisorProbeState.name : SupervisorProbeState → String
  | idle => "idle"
  | running => "running"
  | interrupted => "interrupted"
  | finished => "finished"
  | failed => "failed"
  | cleaned => "cleaned"

inductive SupervisorProbeReason
  | permission
  | signature
  | launch
  | exit
  | contract
  | output
  | ownerLost
  | busy
  deriving DecidableEq

def SupervisorProbeReason.name : SupervisorProbeReason → String
  | permission => "permission"
  | signature => "signature"
  | launch => "launch"
  | exit => "exit"
  | contract => "contract"
  | output => "output"
  | ownerLost => "owner_lost"
  | busy => "busy"

/-- `SupervisorProbeOwner`, one for each connection. -/
structure SupervisorProbeOwner where
  lost : Bool
  writer : Bool
  deriving DecidableEq

namespace SupervisorProbeOwner

def initial : SupervisorProbeOwner := ⟨false, false⟩

/-- `openChannel`; `opens` is whether the flags are set and the grant is written. -/
def openChannel (owner : SupervisorProbeOwner) (opens : Bool) : Option SupervisorProbeOwner :=
  if owner.lost || owner.writer then none
  else if opens then some { owner with writer := true } else none

def releaseChannel (owner : SupervisorProbeOwner) : SupervisorProbeOwner :=
  { owner with writer := false }

def invalidate (owner : SupervisorProbeOwner) : SupervisorProbeOwner :=
  { owner with lost := true }.releaseChannel

end SupervisorProbeOwner

/-- What the block that waits for a runner knows of it. `owner` is the connection it was launched
for, which the block itself does not hold. -/
structure ProbeTask (Owner : Type) where
  mode : SupervisorProbeMode
  owner : Owner

structure SupervisorProbeController (Owner : Type) where
  task : Option (ProbeTask Owner)
  state : SupervisorProbeState
  reason : Option SupervisorProbeReason
  report : Option PropertyDictionary
  crash : Option PropertyDictionary
  runnerPID : Int32
  owner : Option Owner
  owners : Owner → SupervisorProbeOwner
  /-- The runners whose waiting block has not ended. -/
  tasks : List (ProbeTask Owner)

/-- What the system answers a launch. A runner that is launched has a positive pid. -/
structure LaunchAnswers where
  root : Bool
  /-- The runner's signature holds, also after it was copied. -/
  staged : Bool
  channelOpens : Bool
  launched : Option ProcessId

/-- How a runner ended. -/
structure RunnerEnd where
  tooLarge : Bool
  /-- The JSON value of the output. -/
  output : Option PropertyValue
  uncaughtSignal : Bool
  terminationStatus : Int32
  finished : UInt64

namespace SupervisorProbeController
variable {Owner : Type} [DecidableEq Owner]

def initial : SupervisorProbeController Owner where
  task := none
  state := .idle
  reason := none
  report := none
  crash := none
  runnerPID := 0
  owner := none
  owners := fun _ => .initial
  tasks := []

def withOptional (d : PropertyDictionary) (key : String) :
    Option PropertyValue → PropertyDictionary
  | none => d
  | some value => d.set key value

def statusLocked (controller : SupervisorProbeController Owner) (daemon : ProcessId) :
    PropertyDictionary :=
  let result : PropertyDictionary := .ofList
    [("protocol_version", .number helperStatusProtocolVersion), ("backend", .string "read_only"),
      ("write_available", ofBool false), ("daemon_pid", .number (.integer daemon.1.toInt)),
      ("runner_pid", .number (.integer controller.runnerPID.toInt)),
      ("state", .string controller.state.name)]
  let result := withOptional result "report" (controller.report.map (·.toValue))
  let result := withOptional result "crash" (controller.crash.map (·.toValue))
  withOptional result "reason" (controller.reason.map fun reason => .string reason.name)

def busyLocked (controller : SupervisorProbeController Owner) (daemon : ProcessId) :
    PropertyDictionary :=
  ((((controller.statusLocked daemon).set "state" (.string "failed")).set "reason"
    (.string "busy")).remove "report").remove "crash"

def fail (controller : SupervisorProbeController Owner) (reason : SupervisorProbeReason) :
    SupervisorProbeController Owner :=
  { controller with state := .failed, reason := some reason }

def setOwner (controller : SupervisorProbeController Owner) (owner : Owner)
    (value : SupervisorProbeOwner) : SupervisorProbeController Owner :=
  { controller with owners := Function.update controller.owners owner value }

/-- `launchLocked`. -/
def launchLocked (controller : SupervisorProbeController Owner) (mode : SupervisorProbeMode)
    (owner : Option Owner) (answers : LaunchAnswers) : SupervisorProbeController Owner :=
  let controller :=
    { controller with report := none, crash := none, reason := none, runnerPID := 0 }
  if ¬ answers.root then controller.fail .permission
  else
    match owner with
    | none => controller.fail .ownerLost
    | some owner =>
      if (controller.owners owner).lost then controller.fail .ownerLost
      else if ¬ answers.staged then controller.fail .signature
      else
        match (controller.owners owner).openChannel answers.channelOpens with
        | none => controller.fail .ownerLost
        | some opened =>
          match answers.launched with
          | none => (controller.setOwner owner opened.releaseChannel).fail .launch
          | some pid =>
            { controller.setOwner owner opened with
              task := some ⟨mode, owner⟩
              owner := some owner
              runnerPID := pid.1
              state := .running
              tasks := controller.tasks ++ [⟨mode, owner⟩] }

/-- Whether a request of the connection that may ask is answered with the status only. -/
def refuses (controller : SupervisorProbeController Owner) : SupervisorProbeMode → Bool
  | .run | .crash => decide (controller.state ≠ .idle ∧ controller.state ≠ .cleaned)
  | .resume | .cleanup => controller.task.isSome

/-- A request for a runner: `startForOwner`, `startCrashForOwner`, `resumeForOwner` and
`cleanupForOwner`. -/
def request (controller : SupervisorProbeController Owner) (daemon : ProcessId)
    (mode : SupervisorProbeMode) (owner : Option Owner) (answers : LaunchAnswers) :
    SupervisorProbeController Owner × PropertyDictionary :=
  if controller.task.isSome ∧ controller.owner ≠ owner then
    (controller, controller.busyLocked daemon)
  else if controller.refuses mode then (controller, controller.statusLocked daemon)
  else
    let launched := controller.launchLocked mode owner answers
    (launched, launched.statusLocked daemon)

/-- The crash that is shown of a marker. -/
def crashOf (marker : PropertyDictionary) (finished : UInt64) : PropertyDictionary :=
  .ofList [("observer_pid", (marker.get "observer_pid").getD .null),
    ("journal_pending", ofBool true),
    ("loss_duration_ns", ofUInt64 (finished - longOf (marker.get "armed_monotonic_ns")))]

/-- `[result isEqual:@{@"cleaned": @YES}]` -/
def isCleaned (result : Option PropertyValue) : Bool :=
  (dictionary? result).any fun d => d.count == 1 && isNumber (d.get "cleaned") (.bool true)

/-- The state a runner that was not lost leaves. -/
def settle (controller : SupervisorProbeController Owner) (mode : SupervisorProbeMode)
    (ended : RunnerEnd) : SupervisorProbeController Owner :=
  let result := if ended.tooLarge then none else ended.output
  if ended.tooLarge then controller.fail .output
  else if mode = .crash ∧ ended.uncaughtSignal ∧ ended.terminationStatus = 9 ∧
      helperSupervisorCrashMarkerValid result controller.runnerPID ended.finished then
    { controller with
      state := .interrupted
      crash := (dictionary? result).map fun marker => crashOf marker ended.finished }
  else if ended.uncaughtSignal ∨ ended.terminationStatus ≠ 0 then controller.fail .exit
  else if mode = .cleanup ∧ isCleaned result then { controller with state := .cleaned }
  else if mode ≠ .cleanup ∧ helperSupervisorReportValid result ∧
      (dictionary? result).any fun report =>
        isNumber (report.get "runner_pid") (.integer controller.runnerPID.toInt) then
    { controller with state := .finished, report := dictionary? result }
  else controller.fail .contract

/-- The end of the block that waits for a runner, inside the lock. -/
def complete (controller : SupervisorProbeController Owner) (index : ℕ)
    (task : ProbeTask Owner) (ended : RunnerEnd) : SupervisorProbeController Owner :=
  let lost := controller.owner.any fun owner => (controller.owners owner).lost
  let released : SupervisorProbeController Owner :=
    match controller.owner with
    | none => controller
    | some owner => controller.setOwner owner (controller.owners owner).releaseChannel
  let controller :=
    { released with task := none, owner := none, tasks := controller.tasks.eraseIdx index }
  if lost then controller.fail .ownerLost else controller.settle task.mode ended

end SupervisorProbeController

/-- What can happen to the controller. -/
inductive ProbeInput (Owner : Type)
  | request (mode : SupervisorProbeMode) (owner : Option Owner) (answers : LaunchAnswers)
  | status
  | invalidate (owner : Owner)
  | complete (index : ℕ) (ended : RunnerEnd)

namespace SupervisorProbeController
variable {Owner : Type} [DecidableEq Owner]

/-- The next controller and the reply, if the input has one. -/
def step (controller : SupervisorProbeController Owner) (daemon : ProcessId) :
    ProbeInput Owner → Option (SupervisorProbeController Owner × Option PropertyDictionary)
  | .request mode owner answers =>
    let next := controller.request daemon mode owner answers
    some (next.1, some next.2)
  | .status => some (controller, some (controller.statusLocked daemon))
  | .invalidate owner =>
    some (controller.setOwner owner (controller.owners owner).invalidate, none)
  | .complete index ended =>
    match controller.tasks[index]? with
    | none => none
    | some task => some (controller.complete index task ended, none)

/-- The controllers a run comes to, with its inputs. -/
inductive Reaches (daemon : ProcessId) :
    SupervisorProbeController Owner → List (ProbeInput Owner) → Prop
  | initial : Reaches daemon initial []
  | step {controller next : SupervisorProbeController Owner} {inputs : List (ProbeInput Owner)}
      {input : ProbeInput Owner} {reply : Option PropertyDictionary}
      (h : Reaches daemon controller inputs)
      (hstep : controller.step daemon input = some (next, reply)) :
      Reaches daemon next (inputs ++ [input])

end SupervisorProbeController
end Ventilator
