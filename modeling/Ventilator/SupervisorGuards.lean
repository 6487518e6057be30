import Ventilator.IntentJournalProof
import Ventilator.ObserverWindow

/-! The order in which a supervisor makes the calls that matter to others: what must have happened
in a call before it forks, grants, marks and removes. -/
namespace Ventilator
open CallTree TraceGuard

/-- A call on the journal among the supervisor's. -/
def journalEvent (e : JournalEvent) : SupervisorEvent := ⟨.journal e.1, e.2⟩

/-- The workers forked and not reaped so far. -/
def unreapedAfter (live : List Pid) : SupervisorEvent → List Pid
  | ⟨.fork _, some child⟩ => child.val :: live
  | ⟨.waitpid child, .reaped _⟩ => live.erase child
  | _ => live

def unreaped (trace : List SupervisorEvent) : List Pid := trace.foldl unreapedAfter []

def forked : SupervisorEvent → Bool
  | ⟨.fork _, some _⟩ => true
  | _ => false

def forks (trace : List SupervisorEvent) : ℕ := trace.countP forked

/-- The worker of the given kind and process was forked. -/
def Forked (kind : WorkerKind) (child : Pid) (e : SupervisorEvent) : Prop :=
  ∃ worker answer, e = ⟨.fork worker, some answer⟩ ∧ worker.kind = kind ∧ answer.val = child

/-- The lock was taken and is not closed. -/
def LockHeld (trace : List SupervisorEvent) : Prop :=
  ⟨.flock, true⟩ ∈ trace ∧ ∀ e ∈ trace, e.1 ≠ .closeFile .lock

/-- The lock file was opened, once, and nothing was done with it. -/
def LockOpened (trace : List SupervisorEvent) : Prop :=
  ⟨.openFile .lock, .ok ()⟩ ∈ trace ∧ ∀ e ∈ trace, e.1 ≠ .closeFile .lock ∧ e.1 ≠ .flock

/-- A recovery worker was forked and then reaped with exit status 0. -/
def RecoveryExited (trace : List SupervisorEvent) : Prop :=
  ∃ before e after child, trace = before ++ e :: after ∧ Forked .recovery child e ∧
    ⟨.waitpid child, .reaped (.exited 0)⟩ ∈ after

namespace WorkerSupervisor

variable (supervisor : WorkerSupervisor)

/-- The marker was saved: a whole run of `control_intent_mark_pending` returned true. -/
def MarkSaved (trace : List SupervisorEvent) : Prop :=
  ∃ before run after lease lease', trace = before ++ run.map journalEvent ++ after ∧
    Gives (supervisor.journal.controlIntentMarkPending supervisor.fuel) lease run (some true) lease'

/-- The marker was removed: a whole run of `control_intent_clear_verified` returned true. -/
def MarkRemoved (trace : List SupervisorEvent) : Prop :=
  ∃ before run after lease lease', trace = before ++ run.map journalEvent ++ after ∧
    Gives (supervisor.journal.controlIntentClearVerified supervisor.fuel) lease run (some true)
      lease'

/-- An observer was forked and then verified. -/
def ObserverVerified (trace : List SupervisorEvent) : Prop :=
  ∃ before e between run after child launchedNs deadline receipts,
    trace = before ++ e :: (between ++ run ++ after) ∧ Forked .observer child e ∧
      supervisor.VerifiedObserver child launchedNs deadline run receipts

/-- A recovery worker was forked and reaped with exit status 0, and after that an observer was
forked and verified. -/
def RecoveryVerified (trace : List SupervisorEvent) : Prop :=
  ∃ before after, trace = before ++ after ∧ RecoveryExited before ∧
    supervisor.ObserverVerified after

/-- The worker on the channel was forked, and then a whole run of `supervisor_ownership_record`
for its process returned true. -/
def Recorded (channel : ℕ) (trace : List SupervisorEvent) : Prop :=
  ∃ before worker child between run after state state',
    trace = before ++ ⟨.fork worker, some child⟩ :: (between ++ run ++ after) ∧
      worker.channel = channel ∧
      Gives (supervisor.supervisorOwnershipRecord child.val).run state run (some true) state'

/-- What must have happened before a worker of the kind is forked. A call that does not recover
forks observers only. -/
def KindGuard (recovering : Bool) (before : List SupervisorEvent) : WorkerKind → Prop
  | .operation => recovering = true ∧ supervisor.MarkSaved before ∧
      (∀ e ∈ before, e.1 ≠ .journal .unlinkMarker) ∧
      ∀ e ∈ before, ∀ child, ¬ Forked .recovery child e
  | .recovery => recovering = true
  | .observer => recovering = true → RecoveryExited before

/-- What must have happened in a call before each of its calls. -/
def CallGuard (recovering : Bool) (before : List SupervisorEvent) : SupervisorEvent → Prop
  | ⟨.fork worker, _⟩ => LockHeld before ∧ unreaped before = [] ∧
      supervisor.KindGuard recovering before worker.kind
  | ⟨.sendGrant channel, _⟩ => LockHeld before ∧ supervisor.Recorded channel before
  | ⟨.journal .createMarker, _⟩ => LockHeld before
  | ⟨.journal .unlinkMarker, _⟩ => LockHeld before ∧ unreaped before = [] ∧
      supervisor.RecoveryVerified before
  | ⟨.flock, _⟩ => LockOpened before
  | ⟨.openFile .lock, _⟩ => ∀ e ∈ before, e.1 ≠ .openFile .lock ∧ e.1 ≠ .flock ∧
      e.1 ≠ .closeFile .lock
  | _ => True

end WorkerSupervisor

/-! What other calls leave of a history. -/

/-- The calls that are allowed anywhere and change neither the workers nor the lock. -/
def SupervisorCall.isQuiet : SupervisorCall → Bool
  | fork _ => false
  | sendGrant _ => false
  | waitpid _ => false
  | flock => false
  | readPipe _ => false
  | openFile .lock => false
  | closeFile .lock => false
  | journal .createMarker => false
  | journal .unlinkMarker => false
  | _ => true

/-- The calls that neither fork a worker nor reap one. -/
def SupervisorCall.isIdle : SupervisorCall → Bool
  | fork _ => false
  | waitpid _ => false
  | _ => true

/-- The events that add no worker, leave the lock and remove no marker. -/
def calm : SupervisorEvent → Bool
  | ⟨.fork _, some _⟩ => false
  | ⟨.flock, _⟩ => false
  | ⟨.openFile .lock, _⟩ => false
  | ⟨.closeFile .lock, _⟩ => false
  | ⟨.journal .unlinkMarker, _⟩ => false
  | _ => true

/-- The history goes on with calm events. -/
def Grows (before after : List SupervisorEvent) : Prop :=
  ∃ more, after = before ++ more ∧ ∀ e ∈ more, calm e = true

lemma Grows.refl (trace : List SupervisorEvent) : Grows trace trace := ⟨[], by simp⟩

lemma Grows.trans {xs ys zs : List SupervisorEvent} (h : Grows xs ys) (h' : Grows ys zs) :
    Grows xs zs := by
  obtain ⟨more, rfl, hcalm⟩ := h
  obtain ⟨more', rfl, hcalm'⟩ := h'
  exact ⟨more ++ more', by simp, List.forall_mem_append.mpr ⟨hcalm, hcalm'⟩⟩

lemma Grows.event {trace : List SupervisorEvent} {e : SupervisorEvent} (h : calm e = true) :
    Grows trace (trace ++ [e]) := ⟨[e], rfl, by simpa using h⟩

lemma calm_of_quiet {e : SupervisorEvent} (h : e.1.isQuiet = true) : calm e = true := by
  obtain ⟨c, answer⟩ := e
  cases c with
  | fork worker => cases h
  | flock => cases h
  | openFile file => cases file <;> first | rfl | cases h
  | closeFile file => cases file <;> first | rfl | cases h
  | journal c => cases c <;> first | rfl | cases h
  | _ => rfl

lemma isIdle_of_quiet {c : SupervisorCall} (h : c.isQuiet = true) : c.isIdle = true := by
  cases c with
  | fork worker => cases h
  | waitpid child => cases h
  | _ => rfl

lemma unreapedAfter_of_idle {e : SupervisorEvent} (h : e.1.isIdle = true) (live : List Pid) :
    unreapedAfter live e = live := by
  obtain ⟨c, answer⟩ := e
  cases c with
  | fork worker => cases h
  | waitpid child => cases h
  | _ => rfl

lemma forked_eq_false_of_idle {e : SupervisorEvent} (h : e.1.isIdle = true) :
    forked e = false := by
  obtain ⟨c, answer⟩ := e
  cases c with
  | fork worker => cases h
  | _ => rfl

lemma unreaped_append (xs ys : List SupervisorEvent) :
    unreaped (xs ++ ys) = ys.foldl unreapedAfter (unreaped xs) := List.foldl_append

lemma unreaped_idle (xs : List SupervisorEvent) {more : List SupervisorEvent}
    (h : ∀ e ∈ more, e.1.isIdle = true) :
    unreaped (xs ++ more) = unreaped xs := by
  rw [unreaped_append]
  generalize unreaped xs = live
  induction more with
  | nil => rfl
  | cons e more ih =>
    rw [List.foldl_cons, unreapedAfter_of_idle (h e (by simp))]
    exact ih fun e he => h e (by simp [he])

lemma forks_append (xs ys : List SupervisorEvent) : forks (xs ++ ys) = forks xs + forks ys :=
  List.countP_append

lemma forks_idle (xs : List SupervisorEvent) {more : List SupervisorEvent}
    (h : ∀ e ∈ more, e.1.isIdle = true) :
    forks (xs ++ more) = forks xs := by
  have hzero : forks more = 0 := List.countP_eq_zero.mpr fun e he => by
    rw [forked_eq_false_of_idle (h e he)]
    decide
  rw [forks_append, hzero, Nat.add_zero]

lemma LockHeld.grows {xs ys : List SupervisorEvent} (h : LockHeld xs) (hgrows : Grows xs ys) :
    LockHeld ys := by
  obtain ⟨more, rfl, hcalm⟩ := hgrows
  refine ⟨List.mem_append_left _ h.1, List.forall_mem_append.mpr ⟨h.2, ?_⟩⟩
  rintro ⟨c, answer⟩ he rfl
  cases hcalm _ he

lemma RecoveryExited.append {xs : List SupervisorEvent} (h : RecoveryExited xs)
    (ys : List SupervisorEvent) : RecoveryExited (xs ++ ys) := by
  obtain ⟨before, e, after, child, rfl, hforked, hreaped⟩ := h
  exact ⟨before, e, after ++ ys, child, by simp, hforked, List.mem_append_left _ hreaped⟩

namespace WorkerSupervisor

variable {supervisor : WorkerSupervisor} {recovering : Bool}

lemma MarkSaved.append {xs : List SupervisorEvent} (h : supervisor.MarkSaved xs)
    (ys : List SupervisorEvent) : supervisor.MarkSaved (xs ++ ys) := by
  obtain ⟨before, run, after, lease, lease', rfl, hgives⟩ := h
  exact ⟨before, run, after ++ ys, lease, lease', by simp, hgives⟩

lemma KindGuard.grows {xs ys : List SupervisorEvent} {kind : WorkerKind}
    (h : supervisor.KindGuard recovering xs kind) (hgrows : Grows xs ys) :
    supervisor.KindGuard recovering ys kind := by
  obtain ⟨more, rfl, hcalm⟩ := hgrows
  cases kind with
  | operation =>
    obtain ⟨hrecovering, hsaved, hunlink, hfork⟩ := h
    refine ⟨hrecovering, hsaved.append more, List.forall_mem_append.mpr ⟨hunlink, ?_⟩,
      List.forall_mem_append.mpr ⟨hfork, ?_⟩⟩
    · rintro ⟨c, answer⟩ he rfl
      cases hcalm _ he
    · rintro e he child ⟨worker, answer, rfl, -⟩
      cases hcalm _ he
  | recovery => exact h
  | observer => exact fun hrecovering => (h hrecovering).append more

/-- A quiet call is allowed anywhere. -/
lemma callGuard_of_quiet {before : List SupervisorEvent} {e : SupervisorEvent}
    (h : e.1.isQuiet = true) : supervisor.CallGuard recovering before e := by
  obtain ⟨c, answer⟩ := e
  cases c with
  | fork worker => cases h
  | sendGrant channel => cases h
  | flock => cases h
  | openFile file => cases file <;> trivial
  | journal c => cases c <;> trivial
  | _ => trivial

end WorkerSupervisor

/-! The quiet parts of the supervisor. -/
namespace WorkerSupervisor
open SupervisorM

/-- The programs that make quiet calls only and leave the supervisor's memory. -/
abbrev Quiet {α : Type} (m : SupervisorM α) : Prop := Silent (fun c => c.isQuiet = true) m

variable {supervisor : WorkerSupervisor} {recovering : Bool} {before : List SupervisorEvent}
  {state : Supervision}

/-- A program on the journal makes the journal's calls. -/
lemma meets_journal {α : Type} {guard : List SupervisorEvent → SupervisorEvent → Prop}
    {P : JournalCall → Prop} {t : JournalM α} (ht : t.Calls P)
    (hguard : ∀ (run : List JournalEvent) c answer, P c →
      guard (before ++ run.map journalEvent) ⟨.journal c, answer⟩) :
    Meets guard before ((handle (fun c => ask (SupervisorCall.journal c)) t :
        SupervisionM α).run state) fun r after =>
      r.2 = state ∧ ∃ run, Ends t run r.1 ∧ after = before ++ run.map journalEvent := by
  induction t generalizing before with
  | done a => exact ⟨rfl, [], .refl _, by simp⟩
  | call c next ih =>
    intro answer
    refine ⟨by simpa using hguard [] c answer ht.1, (ih answer (ht.2 answer) ?_).mono ?_⟩
    · intro run c' answer' hP
      simpa [journalEvent] using hguard (⟨c, answer⟩ :: run) c' answer' hP
    · rintro r after ⟨hstate, run, hends, rfl⟩
      exact ⟨hstate, ⟨c, answer⟩ :: run, ends_call.mpr ⟨answer, run, rfl, hends⟩,
        by simp [journalEvent]⟩

lemma silent_onJournal {α : Type} {P : SupervisorCall → Prop} {t : JournalM (Option α)}
    (h : t.Calls fun c => P (.journal c)) : Silent P (onJournal t) := by
  intro guard before state hguard
  refine (meets_journal h fun run c answer hP => hguard _ ⟨.journal c, answer⟩ hP).mono ?_
  rintro r after ⟨hstate, run, hends, rfl⟩ a ha
  refine ⟨hstate, _, rfl, fun e he => ?_⟩
  obtain ⟨e', he', rfl⟩ := List.mem_map.mp he
  exact h.runs hends e' he'

/-- A program on the journal and the lease changes the lease only. -/
lemma holds_onLease {α : Type} {guard : List SupervisorEvent → SupervisorEvent → Prop}
    {P : JournalCall → Prop} {m : JournalDirectory.LeaseM (Option α)} (hm : Only P m)
    (hguard : ∀ (run : List JournalEvent) c answer, P c →
      guard (before ++ run.map journalEvent) ⟨.journal c, answer⟩) :
    Holds guard before state (onLease m) fun a state' after => ∃ run lease,
      Gives m state.lease run (some a) lease ∧ state' = { state with lease := lease } ∧
        after = before ++ run.map journalEvent := by
  refine (meets_journal (hm state.lease) hguard).bind fun r after hr a ha => ?_
  obtain ⟨⟨result, lease⟩, state₁⟩ := r
  obtain ⟨rfl, run, hends, rfl⟩ := hr
  obtain rfl : result = some a := ha
  exact ⟨run, lease, hends, rfl, rfl⟩

lemma quiet_privateDirectory : Quiet supervisor.privateDirectory := by
  refine silent_onJournal ((supervisor.journal.privateDirectory_calls.mono fun c hc => ?_).bind
    fun _ => trivial)
  cases c <;> first | rfl | cases hc

lemma quiet_controlIntentRead : Quiet supervisor.controlIntentRead := by
  refine silent_onJournal ((supervisor.journal.controlIntentRead_calls supervisor.fuel).mono
    fun c hc => ?_)
  cases c <;> first | rfl | cases hc

lemma quiet_privateFile (file : OwnershipFile) : Quiet (supervisor.privateFile file) :=
  (Silent.ask (by rfl)).bind fun _ => .pure _

lemma quiet_rounds {ρ κ : Type} {body : κ → SupervisorM (ρ ⊕ κ)} (h : ∀ vars, Quiet (body vars))
    (fuel : ℕ) (vars : κ) : Quiet (rounds fuel body vars) := by
  refine (Silent.loop (fun _ vars => h vars) _ _ _).bind fun out => ?_
  cases out with
  | inl result => exact .pure _
  | inr vars => exact .failure

lemma quiet_readRecord : Quiet supervisor.readRecord := by
  refine (quiet_privateFile .worker).bind fun _ => .ite (fun _ => .pure _) fun _ =>
    (Silent.ask (by rfl)).bind fun read => ?_
  cases read with
  | error errno => exact .pure _
  | ok bytes => exact .ite (fun _ => .pure _) fun _ => (Silent.ask (by rfl)).bind fun _ => .pure _

lemma quiet_recordedAbsent (recorded : Int) : Quiet (recordedAbsent recorded) :=
  .ite (fun _ => .pure _) fun _ => .ite (fun _ => .pure _) fun _ => .ask (by rfl)

lemma quiet_oldWorkerAbsent (pending : Bool) : Quiet (supervisor.oldWorkerAbsent pending) := by
  refine (Silent.ask (by rfl)).bind fun opened => ?_
  cases opened with
  | error errno => exact .pure _
  | ok u =>
    refine quiet_readRecord.bind fun contents => (Silent.ask (by rfl)).bind fun _ =>
      .ite (fun _ => .pure _) fun _ => ?_
    cases contents.bind scanWorker with
    | none => exact .pure _
    | some recorded => exact quiet_recordedAbsent recorded

lemma quiet_writeRecord (contents : List UInt8) : Quiet (supervisor.writeRecord contents) := by
  refine quiet_rounds (fun written => .ite (fun _ => (Silent.ask (by rfl)).bind fun answer => ?_)
    fun _ => .pure _) _ _
  match answer with
  | .ok count => exact .pure _
  | .error .interrupted => exact .pure _
  | .error .noEntry => exact .pure _
  | .error .again => exact .pure _
  | .error .noProcess => exact .pure _
  | .error .other => exact .pure _

lemma quiet_saveNext (child : Pid) : Quiet (supervisor.saveNext child) :=
  (Silent.ask (by rfl)).bind fun _ => .ite (fun _ => .pure _) fun _ =>
    (quiet_writeRecord _).bind fun _ => .ite (fun _ => .pure _) fun _ => .ask (by rfl)

lemma quiet_supervisorOwnershipRecord (child : Pid) :
    Quiet (supervisor.supervisorOwnershipRecord child) := by
  refine quiet_privateDirectory.bind fun _ => .ite (fun _ => .pure _) fun _ =>
    .ite (fun _ => .pure _) fun _ => (Silent.ask (by rfl)).bind fun opened => ?_
  cases opened with
  | error errno => exact .pure _
  | ok u =>
    exact (quiet_privateFile .next).bind fun _ =>
      .ite (fun _ => (Silent.ask (by rfl)).bind fun _ => .pure _) fun _ =>
        (quiet_saveNext child).bind fun _ => (Silent.ask (by rfl)).bind fun _ =>
          .ite (fun _ => .pure _) fun _ => (Silent.ask (by rfl)).bind fun _ =>
            .ite (fun _ => .pure _) fun _ => .ask (by rfl)

lemma quiet_parentCheck : Quiet supervisor.parentCheck :=
  .ite (fun _ => .ask (by rfl)) fun _ => .pure _

lemma quiet_deadlineFor (duration : UInt64) : Quiet (deadlineFor duration) :=
  (Silent.ask (by rfl)).bind fun _ => .pure _

lemma quiet_isCancelled (cancellable : Bool) : Quiet (supervisor.isCancelled cancellable) :=
  .ite (fun _ => .ask (by rfl)) fun _ => .pure _

lemma quiet_phaseOver (cancellable : Bool) (deadline : UInt64) :
    Quiet (supervisor.phaseOver cancellable deadline) :=
  (Silent.ask (by rfl)).bind fun _ => .ite (fun _ => .pure _) fun _ => quiet_isCancelled _

lemma quiet_setCloseOnExec : Quiet setCloseOnExec :=
  (Silent.ask (by rfl)).bind fun _ => .ite (fun _ => .pure _) fun _ => .ask (by rfl)

lemma quiet_closeConnection (connection : Option ℕ) : Quiet (closeConnection connection) := by
  cases connection with
  | none => exact .pure _
  | some channel => exact .ask (by rfl)

lemma quiet_reportObserver (child : Pid) (connection : Option ℕ) (recovering : Bool) :
    Quiet (supervisor.reportObserver child connection recovering) :=
  .ite (fun _ => .ask (by rfl)) fun _ => .pure _

lemma quiet_canSupervise : Quiet supervisor.canSupervise :=
  .ite (fun _ => (Silent.ask (by rfl)).bind fun _ => .pure _) fun _ => .pure _

end WorkerSupervisor
end Ventilator
