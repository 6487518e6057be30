import Ventilator.SupervisorGuards

/-! What a worker does once it is forked: it makes no call of its backend before it read its
grant. -/
namespace Ventilator
open CallTree TraceGuard

/-- The calls of the backend that a worker was forked for. -/
def SupervisorCall.isCallback : SupervisorCall → Bool
  | operate => true
  | recover => true
  | readBaseline => true
  | _ => false

/-- The calls a worker makes. -/
def SupervisorCall.isWorkers : SupervisorCall → Bool
  | readGrant _ => true
  | nowNs => true
  | createWatcher => true
  | detachWatcher => true
  | operate => true
  | recover => true
  | readBaseline => true
  | pauseNs _ => true
  | writeObservation _ => true
  | _ => false

/-- The worker read its grant. -/
def GrantRead (worker : Worker) (trace : List SupervisorEvent) : Prop :=
  ⟨.readGrant worker.channel, .ok (some 71)⟩ ∈ trace

/-- What must have happened in a worker before each of its calls. -/
def EntryGuard (worker : Worker) (before : List SupervisorEvent) (e : SupervisorEvent) : Prop :=
  e.1.isWorkers = true ∧ (e.1.isCallback = true → GrantRead worker before)

namespace WorkerSupervisor
open SupervisorM

variable {supervisor : WorkerSupervisor} {worker : Worker} {before : List SupervisorEvent}
  {state : Supervision}

lemma awaitGrant_reads : Holds (EntryGuard worker) before state
    (supervisor.awaitGrant worker.channel) fun grant _ after =>
      grant = some 71 → GrantRead worker after := by
  refine holds_rounds (I := fun _ _ _ => True) (fun _ _ middle _ => ?_) trivial
  refine Holds.ask_bind fun answer => ⟨⟨rfl, nofun⟩, ?_⟩
  match answer with
  | .ok grant =>
    refine .pure fun hgrant => ?_
    rw [hgrant]
    exact List.mem_append_right _ (List.mem_singleton_self _)
  | .error .interrupted => exact .pure trivial
  | .error .noEntry => exact .pure nofun
  | .error .again => exact .pure nofun
  | .error .noProcess => exact .pure nofun
  | .error .other => exact .pure nofun

/-- A worker that read its grant may make all its calls. -/
lemma entered_of_workers {α : Type} {t : CallTree SupervisorCall SupervisorCall.Answer α}
    {post : α → List SupervisorEvent → Prop} (hread : GrantRead worker before)
    (h : Meets (fun _ e => e.1.isWorkers = true) before t post) :
    Meets (EntryGuard worker) before t post := by
  induction t generalizing before with
  | done a => exact h
  | call c next ih =>
    intro answer
    exact ⟨⟨(h answer).1, fun _ => hread⟩, ih answer (List.mem_append_left _ hread) (h answer).2⟩

abbrev Works {α : Type} (m : SupervisorM α) : Prop := Silent (fun c => c.isWorkers = true) m

lemma works_rounds {ρ κ : Type} {body : κ → SupervisorM (ρ ⊕ κ)} (h : ∀ vars, Works (body vars))
    (fuel : ℕ) (vars : κ) : Works (rounds fuel body vars) := by
  refine (Silent.loop (fun _ vars => h vars) _ _ _).bind fun out => ?_
  cases out with
  | inl result => exact .pure _
  | inr vars => exact .failure

lemma works_observeOnce (index : ℕ) : Works (supervisor.observeOnce index) := by
  refine (Silent.ask (by rfl)).bind fun startedNs => (Silent.ask (by rfl)).bind ?_
  rintro ⟨result, snapshot⟩
  refine (Silent.ask (by rfl)).bind fun finishedNs => (works_rounds (fun _ => ?_) _ _).bind ?_
  · refine (Silent.ask (by rfl)).bind fun answer => ?_
    match answer with
    | .ok count => exact .pure _
    | .error .interrupted => exact .pure _
    | .error .noEntry => exact .pure _
    | .error .again => exact .pure _
    | .error .noProcess => exact .pure _
    | .error .other => exact .pure _
  · intro written
    exact .ite (fun _ => .pure _) fun _ => .ite (fun _ => .pure _) fun _ =>
      .ite (fun _ => (Silent.ask (by rfl)).bind fun _ => .pure _) fun _ => .pure _

lemma works_workerAction (supervisor : WorkerSupervisor) (kind : WorkerKind) :
    Works (supervisor.workerAction kind) := by
  cases kind with
  | operation => exact (Silent.ask (by rfl)).bind fun _ => .pure _
  | recovery => exact (Silent.ask (by rfl)).bind fun _ => .pure _
  | observer =>
    refine (Silent.loop (fun index _ => works_observeOnce index) _ _ _).bind fun out => ?_
    cases out <;> exact .pure _

lemma supervisorOwnershipEnterChild_reads : Holds (EntryGuard worker) before state
    (supervisor.supervisorOwnershipEnterChild worker) fun entered _ after =>
      entered = true → GrantRead worker after := by
  refine awaitGrant_reads.bind fun grant state₁ after₁ hgrant => ?_
  refine Holds.ite (fun _ => .pure nofun) fun hne => ?_
  have hread := hgrant (not_not.mp hne)
  refine Holds.ask_bind fun now => ⟨⟨rfl, nofun⟩, Holds.ite (fun _ => .pure nofun) fun _ => ?_⟩
  refine Holds.ask_bind fun created => ⟨⟨rfl, nofun⟩, Holds.ite (fun _ => .pure nofun) fun _ => ?_⟩
  refine Holds.ask fun detached => ⟨⟨rfl, nofun⟩, fun _ => ?_⟩
  exact List.mem_append_left _ (List.mem_append_left _ (List.mem_append_left _ hread))

/-- A worker makes only its calls, and those of its backend after it read its grant. -/
lemma workerMain_enters (supervisor : WorkerSupervisor) (worker : Worker) (state : Supervision) :
    Holds (EntryGuard worker) [] state (supervisor.workerMain worker) fun _ _ _ => True := by
  refine supervisorOwnershipEnterChild_reads.bind fun entered state₁ after₁ hread => ?_
  refine Holds.ite (fun hentered => ?_) fun _ => .pure trivial
  have hworks := works_workerAction supervisor worker.kind
    (fun _ e => e.1.isWorkers = true) after₁ state₁ fun _ _ h => h
  exact (entered_of_workers (hread hentered) hworks).mono fun _ _ _ _ _ => trivial

end WorkerSupervisor
end Ventilator
