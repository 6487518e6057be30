import Ventilator.JournalClearing
import Ventilator.SupervisorOrder

/-! When a supervisor removes the marker: only at the end of a recovery, once, and reported but
for a directory that could not be synced. -/
namespace Ventilator
open CallTree TraceGuard

def SupervisorCall.unlinks : SupervisorCall → Bool
  | journal .unlinkMarker => true
  | _ => false

/-- The marker was unlinked. -/
abbrev unlinked : SupervisorEvent := ⟨.journal .unlinkMarker, true⟩

namespace WorkerSupervisor
open SupervisorM

/-- No call unlinks the marker. -/
abbrev keepGuard : List SupervisorEvent → SupervisorEvent → Prop :=
  fun _ e => e.1.unlinks = false

/-- The programs that never unlink the marker. -/
def Keeps {α : Type} (m : SupervisorM α) : Prop :=
  ∀ before state, Holds keepGuard before state m fun _ _ _ => True

variable {supervisor : WorkerSupervisor} {α β : Type} {m m' : SupervisorM α}
  {state : Supervision} {history : List SupervisorEvent}

lemma Keeps.pure (a : α) : Keeps (Pure.pure a : SupervisorM α) := fun _ _ => .pure trivial

lemma Keeps.bind {f : α → SupervisorM β} (hm : Keeps m) (hf : ∀ a, Keeps (f a)) :
    Keeps (m >>= f) :=
  fun before state => (hm before state).bind fun a state' after _ => hf a after state'

lemma Keeps.sys {c : SupervisorCall} (h : c.unlinks = false) : Keeps (sys c) :=
  fun _ _ => .ask fun _ => ⟨h, trivial⟩

lemma Keeps.update (f : Supervision → Supervision) : Keeps (update f) := fun _ _ => .modify trivial

lemma Keeps.current : Keeps current := fun _ _ => Holds.get_bind (f := Pure.pure) (.pure trivial)

lemma Keeps.ite {p : Prop} [Decidable p] (hm : p → Keeps m) (hm' : ¬ p → Keeps m') :
    Keeps (if p then m else m') :=
  fun before state => .ite (fun h => hm h before state) fun h => hm' h before state

lemma Keeps.rounds {ρ κ : Type} {body : κ → SupervisorM (ρ ⊕ κ)} (h : ∀ vars, Keeps (body vars))
    {fuel : ℕ} {vars : κ} : Keeps (rounds fuel body vars) :=
  fun _ _ => holds_rounds (I := fun _ _ _ => True)
    (fun vars state before _ => (h vars before state).mono fun out _ _ _ => by
      cases out <;> trivial) trivial

lemma Keeps.quiet (h : Quiet m) : Keeps m := by
  refine fun before state => (h keepGuard before state fun _ e he => ?_).mono fun _ _ _ _ => trivial
  obtain ⟨c, answer⟩ := e
  cases c with
  | journal c => cases c <;> first | rfl | cases he
  | _ => rfl

lemma Keeps.holds (h : Keeps m) (hkept : unlinked ∉ history) :
    Holds anyCall history state m fun _ _ after => unlinked ∉ after := by
  have hruns : Holds anyCall history state m fun _ _ _ => True := holds_of_allowed fun _ _ => trivial
  refine hruns.with_gives.mono fun a state' after ⟨_, trace, hafter, hgives⟩ => ?_
  have hguarded := (h [] state).guarded hgives
  rw [hafter, List.mem_append, not_or]
  refine ⟨hkept, fun hmem => ?_⟩
  obtain ⟨before, rest, htrace⟩ := List.append_of_mem hmem
  cases hguarded before _ rest htrace

/-! The parts of the supervisor that never unlink the marker. -/

lemma keeps_awaitKilled (child : Pid) (deadline : UInt64) :
    Keeps (supervisor.awaitKilled child deadline) := by
  refine .rounds fun _ => (Keeps.sys (by rfl)).bind fun waited => ?_
  have hlost : Keeps (do
      if waited.lost then pure (.inl false)
      else
        let now ← SupervisorM.sys .nowNs
        if now = 0 ∨ now ≥ deadline then pure (.inl false)
        else
          SupervisorM.sys (.pauseNs pollNs)
          pure (.inr ()) : SupervisorM (Bool ⊕ Unit)) :=
    .ite (fun _ => .pure _) fun _ => (Keeps.sys (by rfl)).bind fun _ => .ite (fun _ => .pure _) fun _ =>
      (Keeps.sys (by rfl)).bind fun _ => .pure _
  cases waited with
  | reaped status => exact (Keeps.update _).bind fun _ => .pure _
  | running => exact hlost
  | failed errno => exact hlost

lemma keeps_stopAndReap (child : Pid) : Keeps (supervisor.stopAndReap child) := by
  refine .ite (fun _ => .pure _) fun _ => (Keeps.quiet (quiet_deadlineFor _)).bind fun deadline => ?_
  cases deadline with
  | none => exact .pure _
  | some deadline =>
    refine (Keeps.sys (by rfl)).bind fun waited => ?_
    cases waited with
    | reaped status => exact (Keeps.update _).bind fun _ => .pure _
    | _ =>
      exact .ite (fun _ => .pure _) fun _ => (Keeps.sys (by rfl)).bind fun _ =>
        .ite (fun _ => .pure _) fun _ => keeps_awaitKilled child deadline

lemma keeps_waitPhase (child : Pid) (deadline : UInt64) (cancellable : Bool) (exit : WorkerExit) :
    Keeps (supervisor.waitPhase child deadline cancellable exit) := by
  refine .rounds fun _ => (Keeps.quiet quiet_parentCheck).bind fun _ =>
    (Keeps.quiet (quiet_phaseOver _ _)).bind fun _ => .ite (fun _ => ?_) fun _ =>
      (Keeps.sys (by rfl)).bind fun waited => ?_
  · exact (Keeps.quiet (quiet_isCancelled _)).bind fun _ => (keeps_stopAndReap child).bind
      fun _ => .pure _
  · cases waited with
    | reaped status => exact (Keeps.update _).bind fun _ => .pure _
    | _ => exact .ite (fun _ => .pure _) fun _ => (Keeps.sys (by rfl)).bind fun _ => .pure _

lemma keeps_grantWorker (child : Pid) (channel : ℕ) :
    Keeps (supervisor.grantWorker child channel) :=
  (Keeps.quiet (quiet_supervisorOwnershipRecord child)).bind fun _ =>
    (Keeps.quiet quiet_parentCheck).bind fun _ =>
      .ite (fun _ => (Keeps.sys (by rfl)).bind fun _ => .pure _) fun _ =>
        (Keeps.sys (by rfl)).bind fun _ =>
          .ite (fun _ => (Keeps.sys (by rfl)).bind fun _ => .pure _) fun _ => .pure _

lemma keeps_spawnWorker (kind : WorkerKind) (deadline : UInt64) :
    Keeps (supervisor.spawnWorker kind deadline) := by
  refine (Keeps.quiet quiet_parentCheck).bind fun _ => (Keeps.sys (by rfl)).bind fun pair => ?_
  cases pair with
  | none => exact .pure _
  | some channel =>
    refine (Keeps.quiet quiet_setCloseOnExec).bind fun _ =>
      .ite (fun _ => (Keeps.sys (by rfl)).bind fun _ => .pure _) fun _ =>
        (Keeps.sys (by rfl)).bind fun answer => ?_
    cases answer with
    | none => exact (Keeps.sys (by rfl)).bind fun _ => .pure _
    | some child => exact (keeps_grantWorker child.val channel).bind fun _ => .pure _

lemma keeps_concludeRound (recovering : Bool) (vars : ObserverVars) :
    Keeps (concludeRound recovering vars) :=
  .ite (fun _ => Keeps.current.bind fun _ => .pure _) fun _ => (Keeps.sys (by rfl)).bind fun _ => .pure _

lemma keeps_collectObserver (child : Pid) (recovering : Bool) (vars : ObserverVars) :
    Keeps (collectObserver child recovering vars) := by
  refine .ite (fun _ => keeps_concludeRound _ _) fun _ => (Keeps.sys (by rfl)).bind fun waited => ?_
  cases waited with
  | reaped status => exact (Keeps.update _).bind fun _ => keeps_concludeRound _ _
  | _ =>
    exact .ite (fun _ => (Keeps.update _).bind fun _ => .pure _) fun _ => keeps_concludeRound _ _

lemma keeps_receiveObservation (launchedNs : UInt64) (recovering keepsLatest : Bool)
    (observation : Observation) (vars : ObserverVars) :
    Keeps (receiveObservation launchedNs recovering keepsLatest observation vars) :=
  .ite (fun _ => .pure _) fun _ => (Keeps.sys (by rfl)).bind fun _ => Keeps.current.bind fun _ =>
    (Keeps.update _).bind fun _ => .ite (fun _ => .pure _) fun _ =>
      (Keeps.update _).bind fun _ => .pure _

lemma keeps_observerRound (child : Pid) (launchedNs deadline : UInt64)
    (recovering keepsLatest : Bool) (vars : ObserverVars) :
    Keeps (supervisor.observerRound child launchedNs deadline recovering keepsLatest vars) := by
  refine (Keeps.quiet quiet_parentCheck).bind fun _ => (Keeps.sys (by rfl)).bind fun _ =>
    .ite (fun _ => .pure _) fun _ => .ite (fun _ => keeps_collectObserver _ _ _) fun _ =>
      (Keeps.sys (by rfl)).bind fun read => ?_
  cases read with
  | error errno => exact .ite (fun _ => .pure _) fun _ => keeps_collectObserver _ _ _
  | ok bytes =>
    exact .ite (fun _ => keeps_collectObserver _ _ _) fun _ =>
      .ite (fun _ => keeps_receiveObservation _ _ _ _ _) fun _ => .pure _

lemma keeps_superviseObserver (child : Pid) (launchedNs deadline : UInt64)
    (recovering keepsLatest : Bool) :
    Keeps (supervisor.superviseObserver child launchedNs deadline recovering keepsLatest) := by
  refine (Keeps.rounds fun _ => keeps_observerRound _ _ _ _ _ _).bind fun finish => ?_
  match finish with
  | .returned verified => exact .pure _
  | .broke true => exact .pure _
  | .broke false =>
    exact (keeps_stopAndReap child).bind fun _ =>
      .ite (fun _ => .pure _) fun _ => (Keeps.update _).bind fun _ => .pure _

lemma keeps_observeOwned (recovering keepsLatest : Bool) :
    Keeps (supervisor.observeOwned recovering keepsLatest) := by
  refine (Keeps.sys (by rfl)).bind fun _ => .ite (fun _ => .pure _) fun _ =>
    (Keeps.sys (by rfl)).bind fun _ => .ite (fun _ => (Keeps.sys (by rfl)).bind fun _ => .pure _) fun _ =>
      (Keeps.sys (by rfl)).bind fun _ => (Keeps.quiet (quiet_deadlineFor _)).bind fun deadline => ?_
  cases deadline with
  | none => exact (Keeps.sys (by rfl)).bind fun _ => .pure _
  | some deadline =>
    exact (keeps_spawnWorker _ _).bind fun (_, connection) => (Keeps.update _).bind fun _ =>
      (Keeps.quiet (quiet_reportObserver _ _ _)).bind fun _ =>
        (Keeps.ite (fun _ => keeps_superviseObserver _ _ _ _ _) fun _ => .pure _).bind fun _ =>
          (Keeps.sys (by rfl)).bind fun _ =>
            (Keeps.quiet (quiet_closeConnection connection)).bind fun _ => .pure _

lemma keeps_operateOwned (deadline : UInt64) : Keeps (supervisor.operateOwned deadline) :=
  (keeps_spawnWorker _ _).bind fun (_, connection) => (Keeps.update _).bind fun _ =>
    .ite (fun _ => (Keeps.quiet (quiet_closeConnection connection)).bind fun _ => .pure _) fun _ =>
      (keeps_waitPhase _ _ _ _).bind fun _ => (Keeps.update _).bind fun _ =>
        (Keeps.quiet (quiet_closeConnection connection)).bind fun _ => .pure _

lemma keeps_ownLock (pending : Bool) : Keeps (supervisor.ownLock pending) :=
  (Keeps.quiet (quiet_privateFile .lock)).bind fun _ => .ite (fun _ => .pure _) fun _ =>
    (Keeps.sys (by rfl)).bind fun _ => .ite (fun _ => .pure _) fun _ =>
      (Keeps.quiet quiet_controlIntentRead).bind fun _ => .ite (fun _ => .pure _) fun _ =>
        (Keeps.quiet (quiet_oldWorkerAbsent pending)).bind fun _ => .ite (fun _ => .pure _) fun _ =>
          (Keeps.sys (by rfl)).bind fun _ => .ite (fun _ => .pure _) fun _ =>
            (Keeps.sys (by rfl)).bind fun _ => .ite (fun _ => .pure _) fun _ =>
              .quiet (quiet_supervisorOwnershipRecord 0)

lemma keeps_closeLock : Keeps closeLock := (Keeps.sys (by rfl)).bind fun _ => .pure _

lemma keeps_supervisorOwnershipAcquire (pending : Bool) :
    Keeps (supervisor.supervisorOwnershipAcquire pending) := by
  refine (Keeps.quiet quiet_privateDirectory).bind fun _ => .ite (fun _ => .pure _) fun _ =>
    (Keeps.sys (by rfl)).bind fun opened => ?_
  cases opened with
  | error errno => exact .pure _
  | ok u =>
    exact (keeps_ownLock pending).bind fun _ =>
      .ite (fun _ => .pure _) fun _ => keeps_closeLock.bind fun _ => .pure _

lemma keeps_controlIntentMarkPending : Keeps supervisor.controlIntentMarkPending :=
  fun _ _ => (holds_onLease (supervisor.journal.controlIntentMarkPending_only supervisor.fuel)
    fun _ c _ hcall => by cases c <;> first | rfl | exact absurd rfl hcall).mono
      fun _ _ _ _ => trivial

lemma keeps_markWritePending (owner : UInt64) : Keeps (markWritePending owner) :=
  (Keeps.sys (by rfl)).bind fun _ => Keeps.current.bind fun _ => (Keeps.update _).bind fun _ => .pure _

/-! The marker at the end of a call. -/

/-- The marker was left alone, or unlinked once; when the directory could be synced after it, the
call reports that it recovered. -/
def Cleared (result : WorkerSupervisorResult) (trace : List SupervisorEvent) : Prop :=
  unlinked ∉ trace ∨ ∃ before synced after,
    trace = before ++ unlinked :: ⟨.journal .fsyncDirectory, synced⟩ :: after ∧
      unlinked ∉ before ∧ unlinked ∉ after ∧ (synced = true → result = .recovered)

lemma Cleared.event {result : WorkerSupervisorResult} {e : SupervisorEvent}
    (h : Cleared result history) (he : e.1.unlinks = false) : Cleared result (history ++ [e]) := by
  have hne : unlinked ∉ [e] := fun hmem => by
    rw [← List.mem_singleton.mp hmem] at he
    cases he
  rcases h with hkept | ⟨before, synced, after, rfl, hbefore, hafter, hresult⟩
  · refine .inl ?_
    rw [List.mem_append, not_or]
    exact ⟨hkept, hne⟩
  · refine .inr ⟨before, synced, after ++ [e], by simp, hbefore, ?_, hresult⟩
    rw [List.mem_append, not_or]
    exact ⟨hafter, hne⟩

/-- Clearing unlinks the marker at most once, and says whether the directory was synced. -/
lemma controlIntentClearVerified_unlinks (hkept : unlinked ∉ history) :
    Holds anyCall history state supervisor.controlIntentClearVerified fun cleared _ after =>
      unlinked ∉ after ∨ ∃ before, unlinked ∉ before ∧
        after = before ++ [unlinked, ⟨.journal .fsyncDirectory, cleared⟩] := by
  refine (holds_onLease (P := fun _ => True) (fun _ => calls_of_forall (fun _ => trivial) _)
    fun _ _ _ _ => trivial).mono fun cleared state' after hcleared => ?_
  obtain ⟨run, lease, hgives, -, rfl⟩ := hcleared
  obtain ⟨read, intent, hread, hruns⟩ := JournalDirectory.controlIntentClearVerified_runs hgives
  have hreads : unlinked ∉ read.map journalEvent := fun hmem => by
    obtain ⟨⟨c, answer⟩, he, heq⟩ := List.mem_map.mp hmem
    have hcall := (supervisor.journal.controlIntentRead_reads supervisor.fuel).runs hread _ he
    obtain rfl : c = .unlinkMarker := SupervisorCall.journal.inj (congrArg Sigma.fst heq)
    cases hcall
  rcases hruns with ⟨rfl, -⟩ | ⟨-, rfl, -⟩ | ⟨synced, -, rfl, hsynced⟩
  · exact .inl (by simp [hkept, hreads])
  · refine .inl ?_
    rw [List.map_append, List.mem_append, List.mem_append, not_or, not_or]
    exact ⟨hkept, hreads, by simp [journalEvent]⟩
  · obtain rfl := Option.some.inj hsynced
    refine .inr ⟨history ++ read.map journalEvent, ?_, by simp [journalEvent]⟩
    rw [List.mem_append, not_or]
    exact ⟨hkept, hreads⟩

lemma verifyRecovery_clears (hkept : unlinked ∉ history) :
    Holds anyCall history state supervisor.verifyRecovery
      fun _ state' after => Cleared state'.report.result after := by
  refine Holds.modify_bind (((keeps_observeOwned _ _).holds hkept).bind ?_)
  intro verified state₁ after₁ hobserved
  refine ((Keeps.quiet quiet_parentCheck).holds hobserved).bind fun _ state₂ after₂ hchecked => ?_
  refine Holds.ite (fun _ => .modify (.inl hchecked)) fun _ => ?_
  refine (controlIntentClearVerified_unlinks hchecked).bind fun cleared state₃ after₃ hcleared => ?_
  refine Holds.ite (fun hdone => .modify ?_) fun hfailed => .modify ?_
  · rcases hcleared with hkept₃ | ⟨before, hbefore, rfl⟩
    · exact .inl hkept₃
    · exact .inr ⟨before, cleared, [], rfl, hbefore, by simp, fun _ => rfl⟩
  · rcases hcleared with hkept₃ | ⟨before, hbefore, rfl⟩
    · exact .inl hkept₃
    · exact .inr ⟨before, cleared, [], rfl, hbefore, by simp, fun h => absurd h hfailed⟩

lemma recoverOwned_clears (hkept : unlinked ∉ history) :
    Holds anyCall history state supervisor.recoverOwned
      fun _ state' after => Cleared state'.report.result after := by
  refine Holds.modify_bind (((Keeps.quiet (quiet_deadlineFor _)).holds hkept).bind ?_)
  intro deadline state₁ after₁ hdeadline
  cases deadline with
  | none => exact .pure (.inl hdeadline)
  | some deadline =>
    refine ((keeps_spawnWorker _ _).holds hdeadline).bind ?_
    rintro ⟨child, connection⟩ state₂ after₂ hspawned
    refine Holds.modify_bind (Holds.ite (fun _ => .pure (.inl hspawned)) fun _ => ?_)
    refine ((keeps_waitPhase _ _ _ _).holds hspawned).bind ?_
    rintro ⟨stopped, exit⟩ state₃ after₃ hwaited
    refine ((Keeps.quiet (quiet_closeConnection _)).holds hwaited).bind fun _ state₄ after₄ hclosed => ?_
    exact Holds.ite (fun _ => .modify (.inl hclosed)) fun _ =>
      Holds.ite (fun _ => .pure (.inl hclosed)) fun _ => verifyRecovery_clears hclosed

lemma runOwned_clears (hkept : unlinked ∉ history) :
    Holds anyCall history state supervisor.runOwned
      fun _ state' after => Cleared state'.report.result after := by
  refine Holds.get_bind (((Keeps.quiet quiet_parentCheck).holds hkept).bind ?_)
  intro _ state₁ after₁ hchecked
  refine (keeps_controlIntentMarkPending.holds hchecked).bind fun marked state₂ after₂ hmarked => ?_
  refine Holds.ite (fun _ => .modify (.inl hmarked)) fun _ => ?_
  refine ((keeps_markWritePending _).holds hmarked).bind fun written state₃ after₃ hwritten => ?_
  refine Holds.ite (fun _ => .modify (.inl hwritten)) fun _ => ?_
  refine ((Keeps.quiet (quiet_deadlineFor _)).holds hwritten).bind ?_
  intro deadline state₄ after₄ hdeadline
  cases deadline with
  | none => exact Holds.modify_bind (recoverOwned_clears hdeadline)
  | some deadline =>
    refine Holds.get_bind (((keeps_operateOwned _).holds hdeadline).bind ?_)
    intro stopped state₅ after₅ hoperated
    exact Holds.modify_bind (Holds.ite (fun _ => .modify (.inl hoperated)) fun _ =>
      recoverOwned_clears hoperated)

lemma finish_clears (h : Cleared state.report.result history) :
    Holds anyCall history state finish fun report _ after => Cleared report.result after :=
  .get_bind (.pure h)

lemma closeLock_clears (h : Cleared state.report.result history) :
    Holds anyCall history state (closeLock >>= fun _ => finish)
      fun report _ after => Cleared report.result after := by
  refine Holds.bind (Q := fun _ state' after => Cleared state'.report.result after) ?_ ?_
  · exact Holds.ask_bind fun _ => ⟨trivial, .pure (h.event (by rfl))⟩
  · exact fun _ _ _ hclosed => finish_clears hclosed

/-- Taking the lock, a call either reports at once or goes on. -/
lemma acquire_clears {pending : Bool} {work : SupervisorM WorkerSupervisorReport}
    (hkept : unlinked ∉ history)
    (hwork : ∀ state after, unlinked ∉ after → Holds anyCall after state work
      fun report _ after => Cleared report.result after) :
    Holds anyCall history state
      (do if !(← supervisor.supervisorOwnershipAcquire pending) then finish else work)
      fun report _ after => Cleared report.result after := by
  refine ((keeps_supervisorOwnershipAcquire pending).holds hkept).bind ?_
  intro acquired state₁ after₁ hacquired
  exact Holds.ite (fun _ => finish_clears (.inl hacquired)) fun _ => hwork state₁ after₁ hacquired

/-- Every call leaves the marker alone, or unlinks it once and says so unless the directory could
not be synced. -/
lemma entry_clears (entry : SupervisorEntry) : Holds anyCall [] state (supervisor.entry entry)
    fun report _ after => Cleared report.result after := by
  have hnone : unlinked ∉ ([] : List SupervisorEvent) := by simp
  have hwork : ∀ {owned : SupervisorM Unit}, (∀ state after, unlinked ∉ after →
      Holds anyCall after state owned fun _ state' after => Cleared state'.report.result after) →
      ∀ state after, unlinked ∉ after → Holds anyCall after state
        (owned >>= fun _ => closeLock >>= fun _ => finish)
        fun report _ after => Cleared report.result after :=
    fun howned state after hkept => (howned state after hkept).bind fun _ _ _ hcleared =>
      closeLock_clears hcleared
  have hchecked : ∀ {state : Supervision}, Holds anyCall [] state supervisor.parentCheck
      fun _ _ after => unlinked ∉ after := (Keeps.quiet quiet_parentCheck).holds hnone
  cases entry with
  | run =>
    refine Holds.modify_bind (hchecked.bind fun _ state₁ after₁ h₁ => ?_)
    refine ((Keeps.sys (by rfl)).holds h₁).bind fun now state₂ after₂ h₂ => ?_
    refine ((Keeps.quiet quiet_canSupervise).holds h₂).bind fun allowed state₃ after₃ h₃ => ?_
    refine Holds.ite (fun _ => finish_clears (.inl h₃)) fun _ =>
      Holds.ite (fun _ => finish_clears (.inl h₃)) fun _ => ?_
    refine ((Keeps.quiet (quiet_isCancelled _)).holds h₃).bind fun cancelled state₄ after₄ h₄ => ?_
    refine Holds.ite (fun _ => finish_clears (.inl h₄)) fun _ => Holds.get_bind ?_
    refine Holds.ite (fun _ => finish_clears (.inl h₄)) fun _ => ?_
    refine ((Keeps.quiet quiet_controlIntentRead).holds h₄).bind fun intent state₅ after₅ h₅ => ?_
    exact Holds.ite (fun _ => finish_clears (.inl h₅)) fun _ =>
      acquire_clears h₅ (hwork fun _ _ => runOwned_clears)
  | resume =>
    refine Holds.modify_bind (hchecked.bind fun _ state₁ after₁ h₁ => ?_)
    refine ((Keeps.quiet quiet_canSupervise).holds h₁).bind fun allowed state₂ after₂ h₂ => ?_
    refine Holds.ite (fun _ => finish_clears (.inl h₂)) fun _ => ?_
    refine ((Keeps.quiet quiet_controlIntentRead).holds h₂).bind fun intent state₃ after₃ h₃ => ?_
    refine Holds.ite (fun _ => finish_clears (.inl h₃)) fun _ => ?_
    refine ((Keeps.sys (by rfl)).holds h₃).bind fun now state₄ after₄ h₄ => Holds.modify_bind ?_
    exact acquire_clears h₄ (hwork fun _ _ => recoverOwned_clears)
  | observeBaseline =>
    refine Holds.modify_bind (hchecked.bind fun _ state₁ after₁ h₁ => ?_)
    refine ((Keeps.quiet quiet_canSupervise).holds h₁).bind fun allowed state₂ after₂ h₂ => ?_
    refine Holds.ite (fun _ => finish_clears (.inl h₂)) fun _ => ?_
    refine ((Keeps.quiet quiet_controlIntentRead).holds h₂).bind fun intent state₃ after₃ h₃ => ?_
    refine Holds.ite (fun _ => finish_clears (.inl h₃)) fun _ => acquire_clears h₃ ?_
    intro state₄ after₄ h₄
    refine Holds.modify_bind (Holds.modify_bind (((keeps_observeOwned _ _).holds h₄).bind ?_))
    intro verified state₅ after₅ h₅
    exact Holds.ite (fun _ => Holds.modify_bind (closeLock_clears (.inl h₅))) fun _ =>
      Holds.modify_bind (closeLock_clears (.inl h₅))

/-- A verified recovery that removed the marker synced the directory after it. -/
lemma MarkRemoved.synced {trace : List SupervisorEvent} (h : supervisor.MarkRemoved trace) :
    ∃ before after, trace = before ++ unlinked :: ⟨.journal .fsyncDirectory, true⟩ :: after := by
  obtain ⟨before, run, after, lease, lease', rfl, hgives⟩ := h
  obtain ⟨read, intent, -, hruns⟩ := JournalDirectory.controlIntentClearVerified_runs hgives
  rcases hruns with ⟨-, hresult⟩ | ⟨-, -, hresult⟩ | ⟨synced, -, rfl, hsynced⟩
  · exact absurd rfl hresult
  · cases hresult
  · obtain rfl := Option.some.inj hsynced
    exact ⟨before ++ read.map journalEvent, after, by simp [journalEvent]⟩

/-- A call that reports anything but a recovery left the marker alone, unless it unlinked the
marker and then could not sync the directory. -/
lemma entry_keeps_iff (supervisor : WorkerSupervisor) (entry : SupervisorEntry)
    {state state' : Supervision} {trace : List SupervisorEvent} {report : WorkerSupervisorReport}
    (h : Gives (supervisor.entry entry).run state trace (some report) state') :
    (report.result ≠ .recovered → unlinked ∉ trace) ↔
      ¬ ∃ before after,
        trace = before ++ unlinked :: ⟨.journal .fsyncDirectory, false⟩ :: after := by
  have hcleared : Cleared report.result trace := (entry_clears entry).gives h
  have hreported : supervisor.Reported report trace := (entry_reports entry).gives h
  rcases hcleared with hkept | ⟨before, synced, after, rfl, hbefore, hafter, hresult⟩
  · refine iff_of_true (fun _ => hkept) ?_
    rintro ⟨before, after, rfl⟩
    exact hkept (by simp)
  · have hunique : ∀ {xs ys : List SupervisorEvent} {e : SupervisorEvent},
        before ++ unlinked :: ⟨.journal .fsyncDirectory, synced⟩ :: after =
          xs ++ unlinked :: e :: ys → ⟨.journal .fsyncDirectory, synced⟩ = e := by
      intro xs ys e heq
      rcases List.append_eq_append_iff.mp heq with ⟨more, rfl, hrest⟩ | ⟨more, rfl, hrest⟩
      · match more with
        | [] => exact (List.cons.inj (List.cons.inj hrest).2).1
        | [_] => cases (List.cons.inj (List.cons.inj hrest).2).1
        | _ :: _ :: more =>
          have hmore := (List.cons.inj (List.cons.inj hrest).2).2
          exact absurd (by rw [hmore]; simp) hafter
      · match more with
        | [] => exact (List.cons.inj (List.cons.inj hrest).2).1.symm
        | _ :: more =>
          rw [← (List.cons.inj hrest).1] at hbefore
          exact absurd (by simp) hbefore
    cases synced with
    | true =>
      refine iff_of_true (fun hne => absurd (hresult rfl) hne) ?_
      rintro ⟨xs, ys, heq⟩
      cases hunique heq
    | false =>
      refine iff_of_false (fun hkeeps => ?_) fun hnot => hnot ⟨before, after, rfl⟩
      by_cases hrecovered : report.result = .recovered
      · obtain ⟨earlier, later, heq, -, hremoved⟩ := hreported.recovered hrecovered
        obtain ⟨xs, ys, rfl⟩ := hremoved.synced
        rw [← List.append_assoc] at heq
        cases hunique heq
      · exact hkeeps hrecovered (by simp)

/-- Clearing the marker, and a supervisor's call that does so, keeps it whenever it reports a
failure, except when the marker was unlinked and the directory could not be synced after it. -/
theorem clearing_keeps_marker_iff (journal : JournalDirectory) (supervisor : WorkerSupervisor)
    (entry : SupervisorEntry) (fuel : ℕ) (store store' : JournalStore)
    (lease lease' : ControlLease) (trace : List JournalEvent) (result : Option Bool)
    (state state' : Supervision) (events : List SupervisorEvent)
    (report : WorkerSupervisorReport) :
    (Along (JournalStore.Serves journal.euid True) store trace store' →
      Gives (journal.controlIntentClearVerified fuel) lease trace result lease' →
      ((result = some false → ∀ status, journal.ReadsAs store' status ↔ journal.ReadsAs store status) ↔
        ¬ (⟨.unlinkMarker, true⟩ ∈ trace ∧ ⟨.fsyncDirectory, false⟩ ∈ trace))) ∧
    (Gives (supervisor.entry entry).run state events (some report) state' →
      ((report.result ≠ .recovered → unlinked ∉ events) ↔
        ¬ ∃ before after,
          events = before ++ unlinked :: ⟨.journal .fsyncDirectory, false⟩ :: after)) := by
  refine ⟨fun halong h => ?_, fun h => entry_keeps_iff supervisor entry h⟩
  rw [← JournalDirectory.clearVerified_keeps_iff halong h]
  refine imp_congr_right fun _ => ⟨fun hreads => ?_, fun hstatus status => ?_⟩
  · exact JournalDirectory.readsAs_iff.mp ((hreads _).mp (journal.exists_read store'))
  · rw [JournalDirectory.readsAs_iff, JournalDirectory.readsAs_iff, hstatus]

end WorkerSupervisor
end Ventilator
