import Ventilator.SupervisorClearing

/-! What a report says of the workers by their pids: each kind of worker was forked once if its pid
is positive, and not at all if it is not. A recovery that is reported left a whole window in the
lease. -/
namespace Ventilator
open CallTree TraceGuard

/-- The pid that a report holds for a kind of worker. -/
def WorkerSupervisorReport.pid (report : WorkerSupervisorReport) : WorkerKind → Pid
  | .operation => report.operationPid
  | .recovery => report.recoveryPid
  | .observer => report.observerPid

/-- A worker of the kind was forked. -/
def forksKind (kind : WorkerKind) : SupervisorEvent → Bool
  | ⟨.fork worker, some _⟩ => worker.kind == kind
  | _ => false

def forksOf (kind : WorkerKind) (trace : List SupervisorEvent) : ℕ := trace.countP (forksKind kind)

lemma forksOf_append (kind : WorkerKind) (xs ys : List SupervisorEvent) :
    forksOf kind (xs ++ ys) = forksOf kind xs + forksOf kind ys := List.countP_append

lemma forksOf_pos {kind : WorkerKind} {child : Pid} {e : SupervisorEvent}
    {trace : List SupervisorEvent} (he : e ∈ trace) (hforked : Forked kind child e) :
    0 < forksOf kind trace := by
  obtain ⟨worker, answer, rfl, hkind, -⟩ := hforked
  exact List.countP_pos_iff.mpr ⟨_, he, by simp [forksKind, hkind]⟩

/-- Every worker is of one of the three kinds. -/
lemma forks_eq (trace : List SupervisorEvent) :
    forks trace = forksOf .operation trace + forksOf .recovery trace + forksOf .observer trace := by
  induction trace with
  | nil => rfl
  | cons e trace ih =>
    have hevent : (if forked e then 1 else 0) = (if forksKind .operation e then 1 else 0) +
        (if forksKind .recovery e then 1 else 0) + (if forksKind .observer e then 1 else 0) := by
      obtain ⟨c, answer⟩ := e
      cases c with
      | fork worker =>
        obtain ⟨kind, channel, deadline⟩ := worker
        cases answer with
        | none => rfl
        | some child => cases kind <;> rfl
      | _ => rfl
    simp only [forks, forksOf, List.countP_cons] at ih ⊢
    rw [ih, hevent]
    omega

def SupervisorCall.forks : SupervisorCall → Bool
  | fork _ => true
  | _ => false

/-- The kinds of workers that a call has no part for. -/
def SupervisorEntry.idle : SupervisorEntry → List WorkerKind
  | run => []
  | resume => [.operation]
  | observeBaseline => [.operation, .recovery]

/-- The results that say that an observation was verified. -/
def WorkerSupervisorResult.saysVerified : WorkerSupervisorResult → Bool
  | recovered => true
  | baselineReady => true
  | _ => false

lemma forksOf_of_none {kind : WorkerKind} {trace : List SupervisorEvent}
    (h : ∀ e ∈ trace, e.1.forks = false) : forksOf kind trace = 0 := by
  refine List.countP_eq_zero.mpr fun e he => ?_
  obtain ⟨c, answer⟩ := e
  cases c with
  | fork worker => cases h _ he
  | _ => nofun

/-- A whole window was counted: 61 samples that span a minute. -/
structure ControlLease.WholeWindow (lease : ControlLease) : Prop where
  samples : lease.samples = 61
  span : lease.observationStartedNs.toNat + 60000000000 ≤ lease.lastSampleNs.toNat

lemma ControlLease.WholeWindow.takes {lease : ControlLease} (h : lease.WholeWindow) :
    lease.takeRecoveryProof.2.WholeWindow := by
  unfold takeRecoveryProof
  split
  · exact h
  · exact ⟨h.samples, h.span⟩

/-- Clearing leaves the window. -/
lemma controlIntentClearVerified_window {journal : JournalDirectory} {fuel : ℕ}
    {lease lease' : ControlLease} {trace : List JournalEvent} {result : Option Bool}
    (hwindow : lease.WholeWindow)
    (h : Gives (journal.controlIntentClearVerified fuel) lease trace result lease') :
    lease'.WholeWindow := by
  obtain ⟨read, ys, intent, lease₁, rfl, hread, h₁⟩ := gives_bind.mp h
  obtain ⟨-, rfl⟩ := gives_lift.mp hread
  cases intent with
  | none =>
    obtain ⟨-, -, rfl⟩ := gives_pure.mp h₁
    exact hwindow
  | some intent =>
    dsimp only at h₁
    split at h₁
    · obtain ⟨-, -, rfl⟩ := gives_pure.mp h₁
      exact hwindow
    obtain ⟨zs, ws, took, lease₂, rfl, htake, h₂⟩ := gives_bind.mp h₁
    obtain ⟨rfl, rfl, rfl⟩ := gives_modifyGet.mp htake
    split at h₂
    · obtain ⟨-, -, rfl⟩ := gives_pure.mp h₂
      exact hwindow.takes
    obtain ⟨removed, rest, rfl, h₃⟩ := gives_ask_bind.mp h₂
    cases removed with
    | false =>
      obtain ⟨-, -, rfl⟩ := gives_pure.mp h₃
      exact hwindow.takes
    | true =>
      obtain ⟨synced, rest', rfl, h₄⟩ := gives_ask_bind.mp h₃
      obtain ⟨-, -, rfl⟩ := gives_pure.mp h₄
      exact hwindow.takes

namespace WorkerSupervisor
open SupervisorM

/-! Programs that fork nothing. -/

/-- What a program that forks nothing leaves: the pids of the report, where `leased` the lease, and
a result that does not say verified. -/
structure Left (leased : Prop) (state state' : Supervision) : Prop where
  pids : ∀ kind, state'.report.pid kind = state.report.pid kind
  lease : leased → state'.lease = state.lease
  result : state.report.result.saysVerified = false → state'.report.result.saysVerified = false

variable {supervisor : WorkerSupervisor} {leased : Prop} {α β : Type} {m m' : SupervisorM α}
  {state state' : Supervision} {history : List SupervisorEvent}

lemma Left.refl (state : Supervision) : Left leased state state := ⟨fun _ => rfl, fun _ => rfl, id⟩

lemma Left.trans {state'' : Supervision} (h : Left leased state state')
    (h' : Left leased state' state'') : Left leased state state'' :=
  ⟨fun kind => (h'.pids kind).trans (h.pids kind),
    fun hleased => (h'.lease hleased).trans (h.lease hleased), h'.result ∘ h.result⟩

lemma Left.countReaped (state : Supervision) : Left leased state state.countReaped :=
  ⟨fun kind => by cases kind <;> rfl, fun _ => rfl, id⟩

lemma Left.setResult {result : WorkerSupervisorResult} (hresult : result.saysVerified = false)
    (state : Supervision) : Left leased state (state.setResult result) :=
  ⟨fun kind => by cases kind <;> rfl, fun _ => rfl, fun _ => hresult⟩

lemma Left.stopFailed (state : Supervision) : Left leased state (state.setResult .stopFailed) :=
  .setResult rfl state

lemma Left.setOperation (exit : WorkerExit) (state : Supervision) :
    Left leased state (state.setOperation exit) :=
  ⟨fun kind => by cases kind <;> rfl, fun _ => rfl, id⟩

lemma Left.onLease (f : ControlLease → ControlLease) (state : Supervision) :
    Left False state (state.onLease f) := ⟨fun _ => rfl, nofun, id⟩

/-- The report may name a worker as well. -/
lemma Left.setPid (h : Left leased state state') (kind : WorkerKind) (child : Pid) :
    Left leased (state.setPid kind child) (state'.setPid kind child) := by
  refine ⟨fun kind' => ?_, h.lease, fun hresult => ?_⟩
  · have hkept := h.pids kind'
    cases kind <;> cases kind' <;> first | rfl | exact hkept
  · cases kind <;> exact h.result hresult

abbrev forklessGuard : List SupervisorEvent → SupervisorEvent → Prop :=
  fun _ e => e.1.forks = false

/-- The programs that fork nothing and name nothing in the report. -/
def Leaves (leased : Prop) {α : Type} (m : SupervisorM α) : Prop :=
  ∀ before state, Holds forklessGuard before state m fun _ state' _ => Left leased state state'

lemma Leaves.pure (a : α) : Leaves leased (Pure.pure a : SupervisorM α) :=
  fun _ state => .pure (.refl state)

lemma Leaves.bind {f : α → SupervisorM β} (hm : Leaves leased m) (hf : ∀ a, Leaves leased (f a)) :
    Leaves leased (m >>= f) :=
  fun before state => (hm before state).bind fun a state' after hleft =>
    (hf a after state').mono fun _ _ _ hlater => hleft.trans hlater

lemma Leaves.sys {c : SupervisorCall} (h : c.forks = false) : Leaves leased (sys c) :=
  fun _ state => .ask fun _ => ⟨h, .refl state⟩

lemma Leaves.update {f : Supervision → Supervision} (h : ∀ state, Left leased state (f state)) :
    Leaves leased (update f) := fun _ state => .modify (h state)

lemma Leaves.current : Leaves leased current :=
  fun _ state => Holds.get_bind (f := Pure.pure) (.pure (.refl state))

lemma Leaves.ite {p : Prop} [Decidable p] (hm : p → Leaves leased m)
    (hm' : ¬ p → Leaves leased m') : Leaves leased (if p then m else m') :=
  fun before state => .ite (fun h => hm h before state) fun h => hm' h before state

lemma Leaves.rounds {ρ κ : Type} {body : κ → SupervisorM (ρ ⊕ κ)}
    (h : ∀ vars, Leaves leased (body vars)) {fuel : ℕ} {vars : κ} :
    Leaves leased (rounds fuel body vars) :=
  fun _ state => holds_rounds (I := fun _ state' _ => Left leased state state')
    (fun vars state₁ before hleft => (h vars before state₁).mono fun out _ _ hlater => by
      cases out <;> exact hleft.trans hlater) (.refl state)

lemma Leaves.quiet (h : Quiet m) : Leaves leased m := by
  refine fun before state => (h forklessGuard before state fun _ e he => ?_).mono
    fun _ state' _ ⟨hstate, _⟩ => by rw [hstate]; exact .refl state
  obtain ⟨c, answer⟩ := e
  cases c with
  | fork worker => cases he
  | _ => rfl

/-- What such a program adds to a run. -/
lemma Leaves.leads (h : Leaves leased m) (history : List SupervisorEvent) (state : Supervision) :
    Holds anyCall history state m fun a state' after => Left leased state state' ∧
      ∃ more, after = history ++ more ∧ (∀ e ∈ more, e.1.forks = false) ∧
        Gives m.run state more (some a) state' := by
  have hruns : Holds anyCall history state m fun _ _ _ => True := holds_of_allowed fun _ _ => trivial
  refine hruns.with_gives.mono fun a state' after ⟨_, trace, hafter, hgives⟩ => ?_
  refine ⟨(h [] state).gives hgives, trace, hafter, fun e he => ?_, hgives⟩
  obtain ⟨before, rest, htrace⟩ := List.append_of_mem he
  exact (h [] state).guarded hgives before e rest htrace

lemma leaves_awaitKilled (child : Pid) (deadline : UInt64) :
    Leaves leased (supervisor.awaitKilled child deadline) := by
  refine .rounds fun _ => (Leaves.sys (by rfl)).bind fun waited => ?_
  have hlost : Leaves leased (do
      if waited.lost then pure (.inl false)
      else
        let now ← SupervisorM.sys .nowNs
        if now = 0 ∨ now ≥ deadline then pure (.inl false)
        else
          SupervisorM.sys (.pauseNs pollNs)
          pure (.inr ()) : SupervisorM (Bool ⊕ Unit)) :=
    .ite (fun _ => .pure _) fun _ => (Leaves.sys (by rfl)).bind fun _ =>
      .ite (fun _ => .pure _) fun _ => (Leaves.sys (by rfl)).bind fun _ => .pure _
  cases waited with
  | reaped status => exact (Leaves.update Left.countReaped).bind fun _ => .pure _
  | running => exact hlost
  | failed errno => exact hlost

lemma leaves_stopAndReap (child : Pid) : Leaves leased (supervisor.stopAndReap child) := by
  refine .ite (fun _ => .pure _) fun _ =>
    (Leaves.quiet (quiet_deadlineFor _)).bind fun deadline => ?_
  cases deadline with
  | none => exact .pure _
  | some deadline =>
    refine (Leaves.sys (by rfl)).bind fun waited => ?_
    cases waited with
    | reaped status => exact (Leaves.update Left.countReaped).bind fun _ => .pure _
    | _ =>
      exact .ite (fun _ => .pure _) fun _ => (Leaves.sys (by rfl)).bind fun _ =>
        .ite (fun _ => .pure _) fun _ => leaves_awaitKilled child deadline

lemma leaves_waitPhase (child : Pid) (deadline : UInt64) (cancellable : Bool) (exit : WorkerExit) :
    Leaves leased (supervisor.waitPhase child deadline cancellable exit) := by
  refine .rounds fun _ => (Leaves.quiet quiet_parentCheck).bind fun _ =>
    (Leaves.quiet (quiet_phaseOver _ _)).bind fun _ => .ite (fun _ => ?_) fun _ =>
      (Leaves.sys (by rfl)).bind fun waited => ?_
  · exact (Leaves.quiet (quiet_isCancelled _)).bind fun _ => (leaves_stopAndReap child).bind
      fun _ => .pure _
  · cases waited with
    | reaped status => exact (Leaves.update Left.countReaped).bind fun _ => .pure _
    | _ => exact .ite (fun _ => .pure _) fun _ => (Leaves.sys (by rfl)).bind fun _ => .pure _

lemma leaves_grantWorker (child : Pid) (channel : ℕ) :
    Leaves leased (supervisor.grantWorker child channel) :=
  (Leaves.quiet (quiet_supervisorOwnershipRecord child)).bind fun _ =>
    (Leaves.quiet quiet_parentCheck).bind fun _ =>
      .ite (fun _ => (Leaves.sys (by rfl)).bind fun _ => .pure _) fun _ =>
        (Leaves.sys (by rfl)).bind fun _ =>
          .ite (fun _ => (Leaves.sys (by rfl)).bind fun _ => .pure _) fun _ => .pure _

lemma leaves_concludeRound (recovering : Bool) (vars : ObserverVars) :
    Leaves leased (concludeRound recovering vars) :=
  .ite (fun _ => Leaves.current.bind fun _ => .pure _) fun _ =>
    (Leaves.sys (by rfl)).bind fun _ => .pure _

lemma leaves_collectObserver (child : Pid) (recovering : Bool) (vars : ObserverVars) :
    Leaves leased (collectObserver child recovering vars) := by
  refine .ite (fun _ => leaves_concludeRound _ _) fun _ =>
    (Leaves.sys (by rfl)).bind fun waited => ?_
  cases waited with
  | reaped status =>
    exact (Leaves.update Left.countReaped).bind fun _ => leaves_concludeRound _ _
  | _ =>
    exact .ite (fun _ => (Leaves.update Left.stopFailed).bind fun _ => .pure _) fun _ =>
      leaves_concludeRound _ _

lemma leaves_receiveObservation (launchedNs : UInt64) (recovering keepsLatest : Bool)
    (observation : Observation) (vars : ObserverVars) :
    Leaves False (receiveObservation launchedNs recovering keepsLatest observation vars) := by
  refine .ite (fun _ => .pure _) fun _ => (Leaves.sys (by rfl)).bind fun _ =>
    Leaves.current.bind fun _ => (Leaves.update (Left.onLease _)).bind fun _ =>
      .ite (fun _ => .pure _) fun _ => (Leaves.update fun state => ?_).bind fun _ => .pure _
  split
  · exact ⟨fun _ => rfl, nofun, id⟩
  · exact .refl state

lemma leaves_observerRound (child : Pid) (launchedNs deadline : UInt64)
    (recovering keepsLatest : Bool) (vars : ObserverVars) :
    Leaves False
      (supervisor.observerRound child launchedNs deadline recovering keepsLatest vars) := by
  refine (Leaves.quiet quiet_parentCheck).bind fun _ => (Leaves.sys (by rfl)).bind fun _ =>
    .ite (fun _ => .pure _) fun _ => .ite (fun _ => leaves_collectObserver _ _ _) fun _ =>
      (Leaves.sys (by rfl)).bind fun read => ?_
  cases read with
  | error errno => exact .ite (fun _ => .pure _) fun _ => leaves_collectObserver _ _ _
  | ok bytes =>
    exact .ite (fun _ => leaves_collectObserver _ _ _) fun _ =>
      .ite (fun _ => leaves_receiveObservation _ _ _ _ _) fun _ => .pure _

lemma leaves_superviseObserver (child : Pid) (launchedNs deadline : UInt64)
    (recovering keepsLatest : Bool) :
    Leaves False
      (supervisor.superviseObserver child launchedNs deadline recovering keepsLatest) := by
  refine (Leaves.rounds fun _ => leaves_observerRound _ _ _ _ _ _).bind fun finish => ?_
  match finish with
  | .returned verified => exact .pure _
  | .broke true => exact .pure _
  | .broke false =>
    exact (leaves_stopAndReap child).bind fun _ =>
      .ite (fun _ => .pure _) fun _ => (Leaves.update Left.stopFailed).bind fun _ => .pure _

lemma leaves_ownLock (pending : Bool) : Leaves leased (supervisor.ownLock pending) :=
  (Leaves.quiet (quiet_privateFile .lock)).bind fun _ => .ite (fun _ => .pure _) fun _ =>
    (Leaves.sys (by rfl)).bind fun _ => .ite (fun _ => .pure _) fun _ =>
      (Leaves.quiet quiet_controlIntentRead).bind fun _ => .ite (fun _ => .pure _) fun _ =>
        (Leaves.quiet (quiet_oldWorkerAbsent pending)).bind fun _ => .ite (fun _ => .pure _) fun _ =>
          (Leaves.sys (by rfl)).bind fun _ => .ite (fun _ => .pure _) fun _ =>
            (Leaves.sys (by rfl)).bind fun _ => .ite (fun _ => .pure _) fun _ =>
              .quiet (quiet_supervisorOwnershipRecord 0)

lemma leaves_closeLock : Leaves leased closeLock := (Leaves.sys (by rfl)).bind fun _ => .pure _

lemma leaves_supervisorOwnershipAcquire (pending : Bool) :
    Leaves leased (supervisor.supervisorOwnershipAcquire pending) := by
  refine (Leaves.quiet quiet_privateDirectory).bind fun _ => .ite (fun _ => .pure _) fun _ =>
    (Leaves.sys (by rfl)).bind fun opened => ?_
  cases opened with
  | error errno => exact .pure _
  | ok u =>
    exact (leaves_ownLock pending).bind fun _ =>
      .ite (fun _ => .pure _) fun _ => leaves_closeLock.bind fun _ => .pure _

lemma leaves_controlIntentMarkPending : Leaves False supervisor.controlIntentMarkPending :=
  fun _ _ => (holds_onLease (supervisor.journal.controlIntentMarkPending_only supervisor.fuel)
    fun _ _ _ _ => rfl).mono fun _ _ _ ⟨_, _, _, hstate, _⟩ => hstate ▸ ⟨fun _ => rfl, nofun, id⟩

/-! Programs that fork. -/

/-- The report counts the workers that were forked: one of each kind that it names. The kinds of
`fresh` were not forked, and no recovery is reported yet. -/
structure Noted (fresh : List WorkerKind) (state : Supervision) (history : List SupervisorEvent) :
    Prop where
  counted : ∀ kind, forksOf kind history = if 0 < state.report.pid kind then 1 else 0
  fresh : ∀ kind ∈ fresh, state.report.pid kind = 0
  unverified : state.report.result.saysVerified = false

variable {fresh rest idle : List WorkerKind} {kind : WorkerKind} {child : Pid}

lemma Noted.left {more : List SupervisorEvent} (h : Noted fresh state history)
    (hleft : Left leased state state') (hmore : ∀ e ∈ more, e.1.forks = false) :
    Noted fresh state' (history ++ more) := by
  refine ⟨fun kind => ?_, fun kind hkind => (hleft.pids kind).trans (h.fresh kind hkind),
    hleft.result h.unverified⟩
  rw [forksOf_append, forksOf_of_none hmore, hleft.pids kind, h.counted kind, Nat.add_zero]

lemma Noted.mono (h : Noted fresh state history) (hrest : ∀ kind ∈ rest, kind ∈ fresh) :
    Noted rest state history := ⟨h.counted, fun kind hkind => h.fresh kind (hrest kind hkind),
  h.unverified⟩

lemma Leaves.notes (h : Leaves leased m) (hnoted : Noted fresh state history) :
    Holds anyCall history state m fun _ state' after =>
      Noted fresh state' after ∧ (leased → state'.lease = state.lease) := by
  refine (h.leads history state).mono ?_
  rintro a state' after ⟨hleft, more, rfl, hmore, -⟩
  exact ⟨hnoted.left hleft hmore, hleft.lease⟩

/-- Where the lease is kept, it stays what it was. -/
lemma Leaves.keeps {lease : ControlLease} (h : Leaves True m) (hnoted : Noted fresh state history)
    (hlease : state.lease = lease) : Holds anyCall history state m fun _ state' after =>
      Noted fresh state' after ∧ state'.lease = lease :=
  (h.notes hnoted).mono fun _ _ _ hkept => ⟨hkept.1, (hkept.2 trivial).trans hlease⟩

lemma pid_setPid_self (state : Supervision) (kind : WorkerKind) (child : Pid) :
    (state.setPid kind child).report.pid kind = child := by cases kind <;> rfl

lemma pid_setPid_of_ne {kind' : WorkerKind} (state : Supervision) (child : Pid)
    (h : kind' ≠ kind) : (state.setPid kind child).report.pid kind' = state.report.pid kind' := by
  cases kind <;> cases kind' <;> first | rfl | exact absurd rfl h

/-- No worker was forked, and the report says so. -/
lemma Noted.unforked (h : Noted fresh state history) (hkind : kind ∈ fresh)
    (hrest : ∀ kind' ∈ rest, kind' ∈ fresh ∧ kind' ≠ kind) (hchild : ¬ 0 < child) :
    Noted rest (state.setPid kind child) history := by
  refine ⟨fun kind' => ?_, fun kind' hkind' => ?_, by cases kind <;> exact h.unverified⟩
  · rw [h.counted kind']
    by_cases heq : kind' = kind
    · rw [heq, pid_setPid_self, h.fresh kind hkind, if_neg hchild]
      rfl
    · rw [pid_setPid_of_ne state child heq]
  · obtain ⟨hfresh, hne⟩ := hrest kind' hkind'
    rw [pid_setPid_of_ne state child hne]
    exact h.fresh kind' hfresh

/-- A worker was forked, and the report names it. -/
lemma Noted.forks {channel : ℕ} {deadline : UInt64} {answer : { child : Pid // 0 < child }}
    (h : Noted fresh state history) (hkind : kind ∈ fresh)
    (hrest : ∀ kind' ∈ rest, kind' ∈ fresh ∧ kind' ≠ kind) :
    Noted rest (state.setPid kind answer.val)
      (history ++ [⟨.fork ⟨kind, channel, deadline⟩, some answer⟩]) := by
  refine ⟨fun kind' => ?_, fun kind' hkind' => ?_, by cases kind <;> exact h.unverified⟩
  · have hone : forksOf kind' [⟨.fork ⟨kind, channel, deadline⟩, some answer⟩] =
        if kind = kind' then 1 else 0 := by
      simp [forksOf, forksKind, List.countP_cons]
    rw [forksOf_append, h.counted kind', hone]
    by_cases heq : kind' = kind
    · rw [heq, pid_setPid_self, h.fresh _ hkind, if_pos rfl, if_pos answer.property]
      rfl
    · rw [pid_setPid_of_ne state answer.val heq, if_neg (Ne.symm heq), Nat.add_zero]
  · obtain ⟨hfresh, hne⟩ := hrest kind' hkind'
    rw [pid_setPid_of_ne state answer.val hne]
    exact h.fresh kind' hfresh

/-- Once the report names what `spawn_worker` returned, it counts the workers again. -/
lemma spawnWorker_notes {deadline : UInt64} (h : Noted fresh state history) (hkind : kind ∈ fresh)
    (hrest : ∀ kind' ∈ rest, kind' ∈ fresh ∧ kind' ≠ kind) :
    Holds anyCall history state (supervisor.spawnWorker kind deadline) fun spawned state' after =>
      Noted rest (state'.setPid kind spawned.1) after ∧ state'.lease = state.lease := by
  have hnone : ∀ {state' : Supervision} {after : List SupervisorEvent},
      Noted fresh state' after → Noted rest (state'.setPid kind (-1)) after :=
    fun hnoted => hnoted.unforked hkind hrest (by decide)
  have hclosing : ∀ {state' : Supervision} {after : List SupervisorEvent} {channel : ℕ},
      Noted fresh state' after → state'.lease = state.lease →
      Holds anyCall after state' (do
          SupervisorM.sys (.closeChannel channel)
          pure (-1, none) : SupervisorM (Pid × Option ℕ)) fun spawned state'' after' =>
        Noted rest (state''.setPid kind spawned.1) after' ∧ state''.lease = state.lease :=
    fun hnoted hlease => ((Leaves.sys (by rfl)).keeps hnoted hlease).bind
      fun _ _ _ hclosed => .pure ⟨hnone hclosed.1, hclosed.2⟩
  refine ((Leaves.quiet quiet_parentCheck).keeps h rfl).bind ?_
  rintro - state₁ after₁ ⟨h₁, hlease₁⟩
  refine ((Leaves.sys (by rfl)).keeps h₁ hlease₁).bind ?_
  rintro pair state₂ after₂ ⟨h₂, hlease₂⟩
  cases pair with
  | none => exact .pure ⟨hnone h₂, hlease₂⟩
  | some channel =>
    refine ((Leaves.quiet quiet_setCloseOnExec).keeps h₂ hlease₂).bind ?_
    rintro set state₃ after₃ ⟨h₃, hlease₃⟩
    refine Holds.ite (fun _ => hclosing h₃ hlease₃) fun _ => Holds.ask_bind fun answer =>
      ⟨trivial, ?_⟩
    cases answer with
    | none =>
      refine hclosing ⟨fun kind' => ?_, h₃.fresh, h₃.unverified⟩ hlease₃
      rw [forksOf_append, ← h₃.counted kind']
      rfl
    | some answer =>
      have hforked : Noted rest (state₃.setPid kind answer.val)
          (after₃ ++ [⟨.fork ⟨kind, channel, deadline⟩, some answer⟩]) := h₃.forks hkind hrest
      have hgrant : Leaves True (supervisor.grantWorker answer.val channel) :=
        leaves_grantWorker answer.val channel
      refine (hgrant.leads _ _).bind ?_
      rintro connection state₄ after₄ ⟨hleft, more, rfl, hmore, -⟩
      exact .pure ⟨hforked.left (hleft.setPid kind answer.val) hmore,
        (hleft.lease trivial).trans hlease₃⟩

/-- An observer that the report names counted a whole window. -/
structure Verified (state : Supervision) : Prop where
  window : state.lease.WholeWindow
  observer : 0 < state.report.pid .observer

lemma Verified.left (h : Verified state) (hleft : Left True state state') : Verified state' :=
  ⟨by rw [hleft.lease trivial]; exact h.window, by rw [hleft.pids]; exact h.observer⟩

/-- What is verified stays so. -/
lemma Leaves.verifies {p : Prop} (h : Leaves True m) (hnoted : Noted fresh state history)
    (hverified : p → Verified state) : Holds anyCall history state m fun _ state' after =>
      Noted fresh state' after ∧ (p → Verified state') := by
  refine (h.leads history state).mono ?_
  rintro a state' after ⟨hleft, more, rfl, hmore, -⟩
  exact ⟨hnoted.left hleft hmore, fun hp => (hverified hp).left hleft⟩

/-- The report counts the workers of the call, names none of the `idle` kinds, and is verified where
its result says so. -/
structure Accounted (idle : List WorkerKind) (state : Supervision)
    (history : List SupervisorEvent) : Prop where
  counted : ∀ kind, forksOf kind history = if 0 < state.report.pid kind then 1 else 0
  idle : ∀ kind ∈ idle, state.report.pid kind = 0
  verified : state.report.result.saysVerified = true → Verified state

lemma Noted.changes (h : Noted fresh state history) (hleft : Left False state state') :
    Noted fresh state' history := by
  rw [← List.append_nil history]
  exact h.left hleft (by simp)

lemma Noted.accounted (h : Noted fresh state history) (hidle : ∀ kind ∈ idle, kind ∈ fresh) :
    Accounted idle state history :=
  ⟨h.counted, fun kind hkind => h.fresh kind (hidle kind hkind),
    fun hresult => absurd (h.unverified.symm.trans hresult) nofun⟩

/-- A verified observer leaves a whole window. -/
lemma window_of_verified {launchedNs deadline : UInt64} {recovering keepsLatest : Bool}
    {trace : List SupervisorEvent}
    (hlease : recovering = true → state.lease.state = .recoveryRequired)
    (h : Gives (supervisor.superviseObserver child launchedNs deadline recovering keepsLatest).run
      state trace (some true) state') : state'.lease.WholeWindow := by
  obtain ⟨⟨receipts, hverified, hwindow⟩, -⟩ := superviseObserver_window hlease h
  have hcounted := hwindow.counted
  rw [List.length_map, hverified.count] at hcounted
  refine ⟨UInt32.toNat.inj hcounted, ?_⟩
  obtain ⟨first, last, hfirst, hlast, hspan⟩ := hverified.complete.span
  have hstarted := hwindow.first
  have hsampled := hwindow.last
  rw [List.head?_map] at hfirst hstarted
  rw [List.getLast?_map] at hlast hsampled
  obtain ⟨r, hr, rfl⟩ := Option.map_eq_some_iff.mp hfirst
  obtain ⟨r', hr', rfl⟩ := Option.map_eq_some_iff.mp hlast
  rw [hr] at hstarted
  rw [hr'] at hsampled
  rw [← Option.some.inj hstarted, ← Option.some.inj hsampled]
  exact hspan

lemma observeFor_notes {launchedNs deadline : UInt64} {recovering keepsLatest : Bool}
    (h : Noted fresh state history) (hkind : .observer ∈ fresh)
    (hrest : ∀ kind ∈ rest, kind ∈ fresh ∧ kind ≠ .observer)
    (hlease : recovering = true → state.lease.state = .recoveryRequired) :
    Holds anyCall history state (supervisor.observeFor launchedNs deadline recovering keepsLatest)
      fun verified state' after =>
        Noted rest state' after ∧ (verified = true → Verified state') := by
  refine (spawnWorker_notes h hkind hrest).bind ?_
  rintro ⟨child, connection⟩ state₁ after₁ ⟨h₁, hlease₁⟩
  refine Holds.modify_bind ?_
  have hreport : Leaves True (supervisor.reportObserver child connection recovering) :=
    .quiet (quiet_reportObserver _ _ _)
  refine (hreport.leads _ _).bind ?_
  rintro - state₂ after₂ ⟨hleft₂, more, rfl, hmore, -⟩
  have h₂ := h₁.left hleft₂ hmore
  have hsupervised : Holds anyCall (after₁ ++ more) state₂
      (supervisor.superviseForked child launchedNs deadline recovering keepsLatest)
      fun verified state' after =>
        Noted rest state' after ∧ (verified = true → Verified state') := by
    refine Holds.ite (fun hpos => ?_) fun _ => .pure ⟨h₂, nofun⟩
    refine ((leaves_superviseObserver _ _ _ _ _).leads _ _).mono ?_
    rintro verified state' after ⟨hleft, more', rfl, hmore', hgives⟩
    refine ⟨h₂.left hleft hmore', fun hverified => ?_⟩
    rw [hverified] at hgives
    have hlease₂ : state₂.lease = state.lease := (hleft₂.lease trivial).trans hlease₁
    refine ⟨window_of_verified (by rw [hlease₂]; exact hlease) hgives, ?_⟩
    rw [hleft.pids, hleft₂.pids, pid_setPid_self]
    exact hpos
  refine hsupervised.bind ?_
  rintro verified state₃ after₃ ⟨h₃, hverified₃⟩
  refine ((Leaves.sys (by rfl)).verifies h₃ hverified₃).bind ?_
  rintro - state₄ after₄ ⟨h₄, hverified₄⟩
  refine ((Leaves.quiet (quiet_closeConnection connection)).verifies h₄ hverified₄).bind ?_
  exact fun _ _ _ hclosed => .pure hclosed

/-- An observation forks one observer at most. -/
lemma observeOwned_notes (recovering keepsLatest : Bool) (h : Noted fresh state history)
    (hkind : .observer ∈ fresh) (hrest : ∀ kind ∈ rest, kind ∈ fresh ∧ kind ≠ .observer)
    (hlease : recovering = true → state.lease.state = .recoveryRequired) :
    Holds anyCall history state (supervisor.observeOwned recovering keepsLatest)
      fun verified state' after =>
        Noted rest state' after ∧ (verified = true → Verified state') := by
  have hclosing : ∀ {state' : Supervision} {after : List SupervisorEvent},
      Noted fresh state' after → Holds anyCall after state' (do
          SupervisorM.sys .closePipe
          pure false : SupervisorM Bool) fun verified state'' after' =>
        Noted rest state'' after' ∧ (verified = true → Verified state'') :=
    fun hnoted => ((Leaves.sys (by rfl)).keeps hnoted rfl).bind fun _ _ _ hclosed =>
      .pure ⟨hclosed.1.mono fun kind hmem => (hrest kind hmem).1, nofun⟩
  refine ((Leaves.sys (by rfl)).keeps h rfl).bind ?_
  rintro opened state₁ after₁ ⟨h₁, hlease₁⟩
  refine Holds.ite (fun _ => .pure ⟨h₁.mono fun kind hmem => (hrest kind hmem).1, nofun⟩)
    fun _ => ?_
  refine ((Leaves.sys (by rfl)).keeps h₁ hlease₁).bind ?_
  rintro set state₂ after₂ ⟨h₂, hlease₂⟩
  refine Holds.ite (fun _ => hclosing h₂) fun _ => ?_
  refine ((Leaves.sys (by rfl)).keeps h₂ hlease₂).bind ?_
  rintro launchedNs state₃ after₃ ⟨h₃, hlease₃⟩
  refine ((Leaves.quiet (quiet_deadlineFor _)).keeps h₃ hlease₃).bind ?_
  rintro deadline state₄ after₄ ⟨h₄, hlease₄⟩
  cases deadline with
  | none => exact hclosing h₄
  | some deadline => exact observeFor_notes h₄ hkind hrest (by rw [hlease₄]; exact hlease)

lemma controlIntentClearVerified_notes (h : Noted fresh state history)
    (hverified : Verified state) :
    Holds anyCall history state supervisor.controlIntentClearVerified fun _ state' after =>
      Noted fresh state' after ∧ Verified state' := by
  refine (holds_onLease (P := fun _ => True) (fun _ => calls_of_forall (fun _ => trivial) _)
    fun _ _ _ _ => trivial).mono fun cleared state' after hcleared => ?_
  obtain ⟨run, lease, hgives, rfl, rfl⟩ := hcleared
  have hforkless : ∀ e ∈ run.map journalEvent, e.1.forks = false := by
    intro e he
    obtain ⟨e', -, rfl⟩ := List.mem_map.mp he
    rfl
  have hleft : Left False state { state with lease := lease } := ⟨fun _ => rfl, nofun, id⟩
  exact ⟨h.left hleft hforkless,
    controlIntentClearVerified_window hverified.window hgives, hverified.observer⟩

lemma verifyRecovery_accounts (h : Noted fresh state history) (hkind : .observer ∈ fresh)
    (hidle : ∀ kind ∈ idle, kind ∈ fresh ∧ kind ≠ .observer)
    (hlease : state.lease.state = .recoveryRequired) :
    Holds anyCall history state supervisor.verifyRecovery
      fun _ state' after => Accounted idle state' after := by
  have hstart : Noted fresh (state.setResult .observationFailed) history :=
    h.changes (Left.setResult rfl state)
  refine Holds.modify_bind ((observeOwned_notes true false hstart hkind hidle fun _ => hlease).bind ?_)
  rintro verified state₁ after₁ ⟨h₁, hverified₁⟩
  refine ((Leaves.quiet quiet_parentCheck).verifies h₁ hverified₁).bind ?_
  rintro - state₂ after₂ ⟨h₂, hverified₂⟩
  refine Holds.ite (fun _ => .modify ((h₂.changes (Left.onLease _ _)).accounted fun _ => id))
    fun hverified => ?_
  rw [Bool.not_eq_true, Bool.not_eq_false'] at hverified
  refine (controlIntentClearVerified_notes h₂ (hverified₂ hverified)).bind ?_
  rintro cleared state₃ after₃ ⟨h₃, hverified₃⟩
  refine Holds.ite (fun _ => .modify ⟨fun kind => ?_, fun kind hkind => ?_,
    fun _ => ⟨hverified₃.window, hverified₃.observer⟩⟩) fun _ =>
    .modify ((h₃.changes (Left.onLease _ _)).accounted fun _ => id)
  · rw [h₃.counted kind]
    cases kind <;> rfl
  · rw [← h₃.fresh kind hkind]
    cases kind <;> rfl

lemma recoverOwned_accounts (h : Noted fresh state history) (hrecovery : .recovery ∈ fresh)
    (hobserver : .observer ∈ fresh)
    (hidle : ∀ kind ∈ idle, kind ∈ fresh ∧ kind ≠ .recovery ∧ kind ≠ .observer)
    (hlease : state.lease.state = .recoveryRequired) :
    Holds anyCall history state supervisor.recoverOwned
      fun _ state' after => Accounted idle state' after := by
  have hrest : ∀ kind ∈ .observer :: idle, kind ∈ fresh ∧ kind ≠ .recovery :=
    List.forall_mem_cons.mpr ⟨⟨hobserver, nofun⟩, fun kind hkind =>
      ⟨(hidle kind hkind).1, (hidle kind hkind).2.1⟩⟩
  have hlater : ∀ kind ∈ idle, kind ∈ .observer :: idle := fun _ => List.mem_cons_of_mem _
  have hstart : Noted fresh (state.setResult .recoveryFailed) history :=
    h.changes (Left.setResult rfl state)
  refine Holds.modify_bind (((Leaves.quiet (quiet_deadlineFor _)).keeps hstart rfl).bind ?_)
  rintro deadline state₁ after₁ ⟨h₁, hlease₁⟩
  cases deadline with
  | none => exact .pure (h₁.accounted fun kind hkind => (hidle kind hkind).1)
  | some deadline =>
    refine (spawnWorker_notes h₁ hrecovery hrest).bind ?_
    rintro ⟨child, connection⟩ state₂ after₂ ⟨h₂, hlease₂⟩
    refine Holds.modify_bind (Holds.ite (fun _ => .pure (h₂.accounted hlater)) fun _ => ?_)
    refine ((leaves_waitPhase _ _ _ _).keeps h₂ (hlease₂.trans hlease₁)).bind ?_
    rintro ⟨stopped, exit⟩ state₃ after₃ ⟨h₃, hlease₃⟩
    refine ((Leaves.quiet (quiet_closeConnection connection)).keeps h₃ hlease₃).bind ?_
    rintro - state₄ after₄ ⟨h₄, hlease₄⟩
    refine Holds.ite (fun _ => .modify ((h₄.changes (Left.setResult rfl _)).accounted hlater))
      fun _ => ?_
    refine Holds.ite (fun _ => .pure (h₄.accounted hlater)) fun _ => ?_
    exact verifyRecovery_accounts h₄ List.mem_cons_self (fun kind hkind =>
      ⟨hlater kind hkind, (hidle kind hkind).2.2⟩) (by rw [hlease₄]; exact hlease)

lemma operateOwned_notes {deadline : UInt64} (h : Noted fresh state history)
    (hkind : .operation ∈ fresh) (hrest : ∀ kind ∈ rest, kind ∈ fresh ∧ kind ≠ .operation) :
    Holds anyCall history state (supervisor.operateOwned deadline) fun _ state' after =>
      Noted rest state' after ∧ state'.lease = state.lease := by
  refine (spawnWorker_notes h hkind hrest).bind ?_
  rintro ⟨child, connection⟩ state₁ after₁ ⟨h₁, hlease₁⟩
  have hclosed : ∀ {state' : Supervision} {after : List SupervisorEvent} (stopped : Bool),
      Noted rest state' after → state'.lease = state.lease → Holds anyCall after state' (do
          closeConnection connection
          pure stopped : SupervisorM Bool) fun _ state'' after' =>
        Noted rest state'' after' ∧ state''.lease = state.lease :=
    fun stopped hnoted hlease => ((Leaves.quiet (quiet_closeConnection connection)).keeps
      hnoted hlease).bind fun _ _ _ hclosed => .pure hclosed
  refine Holds.modify_bind (Holds.ite (fun _ => hclosed true h₁ hlease₁) fun _ => ?_)
  refine ((leaves_waitPhase _ _ _ _).keeps h₁ hlease₁).bind ?_
  rintro ⟨stopped, exit⟩ state₂ after₂ ⟨h₂, hlease₂⟩
  exact Holds.modify_bind (hclosed stopped (h₂.changes (Left.setOperation exit _)) hlease₂)

lemma markWritePending_held {lease : ControlLease} {owner now : UInt64}
    (h : (lease.markWritePending owner now .pending).1 = true) :
    (lease.markWritePending owner now .pending).2.state = .held ∧ owner ≠ 0 ∧
      owner = (lease.markWritePending owner now .pending).2.owner := by
  unfold ControlLease.markWritePending at h ⊢
  split_ifs at h ⊢ with hheld
  simp only [not_or, not_not] at hheld
  exact hheld

lemma runOwned_accounts (h : Noted [.operation, .recovery, .observer] state history) :
    Holds anyCall history state supervisor.runOwned
      fun _ state' after => Accounted [] state' after := by
  have hrest : ∀ kind ∈ [WorkerKind.recovery, .observer],
      kind ∈ [WorkerKind.operation, .recovery, .observer] ∧ kind ≠ .operation := by decide
  refine Holds.get_bind (((Leaves.quiet quiet_parentCheck).keeps h rfl).bind ?_)
  rintro - state₁ after₁ ⟨h₁, -⟩
  refine (leaves_controlIntentMarkPending.notes h₁).bind ?_
  rintro marked state₂ after₂ ⟨h₂, -⟩
  refine Holds.ite (fun _ => .modify ((h₂.changes (Left.onLease _ _)).accounted nofun)) fun _ => ?_
  have hmark : Holds anyCall after₂ state₂ (markWritePending state.lease.owner)
      fun marked state' after => Noted [.operation, .recovery, .observer] state' after ∧
        (marked = true → state'.lease.state = .held ∧ state.lease.owner ≠ 0 ∧
          state.lease.owner = state'.lease.owner) := by
    refine ((Leaves.sys (by rfl)).keeps h₂ rfl).bind ?_
    rintro now state' after ⟨hnoted, -⟩
    exact Holds.get_bind (Holds.modify_bind
      (.pure ⟨hnoted.changes (Left.onLease _ _), markWritePending_held⟩))
  refine hmark.bind ?_
  rintro written state₃ after₃ ⟨h₃, howner⟩
  refine Holds.ite (fun _ => .modify ((h₃.changes (Left.onLease _ _)).accounted nofun))
    fun hwritten => ?_
  rw [Bool.not_eq_true, Bool.not_eq_false'] at hwritten
  have hheld := howner hwritten
  refine ((Leaves.quiet (quiet_deadlineFor _)).keeps h₃ rfl).bind ?_
  rintro deadline state₄ after₄ ⟨h₄, hlease₄⟩
  cases deadline with
  | none =>
    rw [← hlease₄] at hheld
    exact Holds.modify_bind (recoverOwned_accounts (h₄.changes (Left.onLease _ _)) (by simp) (by simp)
      nofun (ownerLost_requires hheld))
  | some deadline =>
    refine Holds.get_bind ((operateOwned_notes h₄ (by simp) hrest).bind ?_)
    rintro stopped state₅ after₅ ⟨h₅, hlease₅⟩
    rw [← hlease₄, ← hlease₅] at hheld
    have hlost := h₅.changes (Left.onLease (ControlLease.ownerLost · state.lease.owner) _)
    refine Holds.modify_bind (Holds.ite (fun _ => .modify ((hlost.changes
      (Left.setResult rfl _)).accounted nofun)) fun _ => ?_)
    exact recoverOwned_accounts hlost (by simp) (by simp) nofun (ownerLost_requires hheld)

/-! The calls. -/

lemma finish_accounts (h : Accounted idle state history) : Holds anyCall history state finish
    fun report state' after => report = state'.report ∧ Accounted idle state' after :=
  .get_bind (.pure ⟨rfl, h⟩)

lemma closeLock_accounts (h : Accounted idle state history) :
    Holds anyCall history state (closeLock >>= fun _ => finish)
      fun report state' after => report = state'.report ∧ Accounted idle state' after := by
  have hclosed : Holds anyCall history state closeLock fun _ state' after =>
      Accounted idle state' after := by
    refine Holds.ask_bind fun closed => ⟨trivial, .pure ⟨fun kind => ?_, h.idle, h.verified⟩⟩
    rw [forksOf_append, ← h.counted kind]
    rfl
  exact hclosed.bind fun _ _ _ haccounted => finish_accounts haccounted

/-- Taking the lock, a call either reports at once or goes on. -/
lemma acquire_accounts {pending : Bool} {work : SupervisorM WorkerSupervisorReport}
    (h : Noted fresh state history) (hidle : ∀ kind ∈ idle, kind ∈ fresh)
    (hwork : ∀ state' after, Noted fresh state' after → state'.lease = state.lease →
      Holds anyCall after state' work
        fun report state'' after => report = state''.report ∧ Accounted idle state'' after) :
    Holds anyCall history state
      (do if !(← supervisor.supervisorOwnershipAcquire pending) then finish else work)
      fun report state' after => report = state'.report ∧ Accounted idle state' after := by
  refine ((leaves_supervisorOwnershipAcquire pending).keeps h rfl).bind ?_
  rintro acquired state₁ after₁ ⟨h₁, hlease₁⟩
  exact Holds.ite (fun _ => finish_accounts (h₁.accounted hidle))
    fun _ => hwork state₁ after₁ h₁ hlease₁

/-- Whatever its calls answer, a call into the supervisor reports the workers that it forked. -/
lemma entry_accounts (entry : SupervisorEntry) : Holds anyCall [] state (supervisor.entry entry)
    fun report state' after => report = state'.report ∧ Accounted entry.idle state' after := by
  have hstart : Noted [.operation, .recovery, .observer] { state with report := .blocked } [] :=
    ⟨fun kind => by cases kind <;> rfl, fun kind _ => by cases kind <;> rfl, rfl⟩
  cases entry with
  | run =>
    have hidle : ∀ kind ∈ SupervisorEntry.run.idle,
        kind ∈ [WorkerKind.operation, .recovery, .observer] := by decide
    refine Holds.modify_bind (((Leaves.quiet quiet_parentCheck).keeps hstart rfl).bind ?_)
    rintro - state₁ after₁ ⟨h₁, hlease₁⟩
    refine ((Leaves.sys (by rfl)).keeps h₁ hlease₁).bind ?_
    rintro now state₂ after₂ ⟨h₂, hlease₂⟩
    refine ((Leaves.quiet quiet_canSupervise).keeps h₂ hlease₂).bind ?_
    rintro allowed state₃ after₃ ⟨h₃, hlease₃⟩
    refine Holds.ite (fun _ => finish_accounts (h₃.accounted hidle)) fun _ =>
      Holds.ite (fun _ => finish_accounts (h₃.accounted hidle)) fun _ => ?_
    refine ((Leaves.quiet (quiet_isCancelled _)).keeps h₃ hlease₃).bind ?_
    rintro cancelled state₄ after₄ ⟨h₄, hlease₄⟩
    refine Holds.ite (fun _ => finish_accounts (h₄.accounted hidle)) fun _ => Holds.get_bind ?_
    refine Holds.ite (fun _ => finish_accounts (h₄.accounted hidle)) fun _ => ?_
    refine ((Leaves.quiet quiet_controlIntentRead).keeps h₄ hlease₄).bind ?_
    rintro intent state₅ after₅ ⟨h₅, hlease₅⟩
    refine Holds.ite (fun _ => finish_accounts (h₅.accounted hidle))
      fun _ => acquire_accounts h₅ hidle ?_
    exact fun _ _ hacquired _ => (runOwned_accounts hacquired).bind fun _ _ _ haccounted =>
      closeLock_accounts haccounted
  | resume =>
    have hidle : ∀ kind ∈ SupervisorEntry.resume.idle,
        kind ∈ [WorkerKind.operation, .recovery, .observer] ∧
          kind ≠ .recovery ∧ kind ≠ .observer := by decide
    have hfresh : ∀ kind ∈ SupervisorEntry.resume.idle,
        kind ∈ [WorkerKind.operation, .recovery, .observer] := fun kind hkind => (hidle kind hkind).1
    refine Holds.modify_bind (((Leaves.quiet quiet_parentCheck).keeps hstart rfl).bind ?_)
    rintro - state₁ after₁ ⟨h₁, hlease₁⟩
    refine ((Leaves.quiet quiet_canSupervise).keeps h₁ hlease₁).bind ?_
    rintro allowed state₂ after₂ ⟨h₂, hlease₂⟩
    refine Holds.ite (fun _ => finish_accounts (h₂.accounted hfresh)) fun _ => ?_
    refine ((Leaves.quiet quiet_controlIntentRead).keeps h₂ hlease₂).bind ?_
    rintro intent state₃ after₃ ⟨h₃, hlease₃⟩
    refine Holds.ite (fun _ => finish_accounts (h₃.accounted hfresh)) fun _ => ?_
    refine ((Leaves.sys (by rfl)).keeps h₃ hlease₃).bind ?_
    rintro now state₄ after₄ ⟨h₄, -⟩
    refine Holds.modify_bind (acquire_accounts (h₄.changes (Left.onLease _ _)) hfresh ?_)
    intro state₅ after₅ h₅ hlease₅
    refine (recoverOwned_accounts h₅ (by simp) (by simp) hidle ?_).bind fun _ _ _ haccounted =>
      closeLock_accounts haccounted
    rw [hlease₅]
    rfl
  | observeBaseline =>
    have hidle : ∀ kind ∈ SupervisorEntry.observeBaseline.idle,
        kind ∈ [WorkerKind.operation, .recovery, .observer] ∧ kind ≠ .observer := by decide
    have hfresh : ∀ kind ∈ SupervisorEntry.observeBaseline.idle,
        kind ∈ [WorkerKind.operation, .recovery, .observer] := fun kind hkind => (hidle kind hkind).1
    refine Holds.modify_bind (((Leaves.quiet quiet_parentCheck).keeps hstart rfl).bind ?_)
    rintro - state₁ after₁ ⟨h₁, hlease₁⟩
    refine ((Leaves.quiet quiet_canSupervise).keeps h₁ hlease₁).bind ?_
    rintro allowed state₂ after₂ ⟨h₂, hlease₂⟩
    refine Holds.ite (fun _ => finish_accounts (h₂.accounted hfresh)) fun _ => ?_
    refine ((Leaves.quiet quiet_controlIntentRead).keeps h₂ hlease₂).bind ?_
    rintro intent state₃ after₃ ⟨h₃, hlease₃⟩
    refine Holds.ite (fun _ => finish_accounts (h₃.accounted hfresh))
      fun _ => acquire_accounts h₃ hfresh ?_
    intro state₄ after₄ h₄ hlease₄
    have hobserving : Noted [.operation, .recovery, .observer]
        ((state₄.onLease fun _ => ControlLease.zero).setResult .observationFailed) after₄ :=
      (h₄.changes (Left.onLease (fun _ => ControlLease.zero) _)).changes (Left.setResult rfl _)
    refine Holds.modify_bind (Holds.modify_bind
      ((observeOwned_notes false true hobserving (by simp) hidle nofun).bind ?_))
    rintro verified state₅ after₅ ⟨h₅, hverified₅⟩
    refine Holds.ite (fun hverified => Holds.modify_bind (closeLock_accounts
      ⟨fun kind => ?_, fun kind hkind => ?_, fun _ => ⟨(hverified₅ hverified).window,
        (hverified₅ hverified).observer⟩⟩)) fun _ => Holds.modify_bind (closeLock_accounts
          ((h₅.changes (Left.onLease _ _)).accounted fun _ => id))
    · rw [h₅.counted kind]
      cases kind <;> rfl
    · rw [← h₅.fresh kind hkind]
      cases kind <;> rfl

/-- What a finished call reports of its workers, and the window it leaves. -/
structure Tallied (entry : SupervisorEntry) (report : WorkerSupervisorReport)
    (lease : ControlLease) (trace : List SupervisorEvent) : Prop where
  named : ∀ kind, forksOf kind trace = if 0 < report.pid kind then 1 else 0
  idle : ∀ kind ∈ entry.idle, report.pid kind = 0
  counted : report.result ≠ .stopFailed → report.reaped.toNat = forks trace
  verified : report.result.saysVerified = true → 0 < report.observerPid ∧ lease.WholeWindow
  recovery : report.result = .recovered → 0 < report.recoveryPid

lemma entry_tallied {entry : SupervisorEntry} {state state' : Supervision}
    {trace : List SupervisorEvent} {report : WorkerSupervisorReport}
    (h : Gives (supervisor.entry entry).run state trace (some report) state') :
    Tallied entry report state'.lease trace := by
  obtain ⟨rfl, haccounted⟩ := (entry_accounts entry).gives h
  have hreported := (entry_reports entry).gives h
  rw [List.nil_append] at haccounted hreported
  refine ⟨haccounted.counted, haccounted.idle, fun hresult => (hreported.counted hresult).2,
    fun hresult => ?_, fun hresult => ?_⟩
  · exact ⟨(haccounted.verified hresult).observer, (haccounted.verified hresult).window⟩
  · obtain ⟨before, after, rfl, hverified, -⟩ := hreported.recovered hresult
    obtain ⟨early, later, rfl, ⟨xs, e, ys, child, rfl, hforked, -⟩, -⟩ := hverified
    have hmem : e ∈ xs ++ e :: ys ++ later ++ after := by simp
    have hpos := forksOf_pos hmem hforked
    rw [haccounted.counted] at hpos
    by_contra hnot
    change ¬ 0 < state'.report.pid .recovery at hnot
    rw [if_neg hnot] at hpos
    cases hpos

/-- Whatever its calls answer, a finished call into the supervisor forked one worker of each kind
that its report names by a positive pid and none of the others, names no kind that is not its own,
and counts the workers as reaped unless one could not be stopped. Where it reports a recovery or a
baseline, it names the observer and the lease holds a window of 61 samples that span a minute. -/
theorem entry_names_workers (supervisor : WorkerSupervisor) (entry : SupervisorEntry)
    {state state' : Supervision} {trace : List SupervisorEvent} {report : WorkerSupervisorReport}
    (h : Gives (supervisor.entry entry).run state trace (some report) state') :
    (∀ kind, forksOf kind trace = if 0 < report.pid kind then 1 else 0) ∧
      (∀ kind ∈ entry.idle, report.pid kind = 0) ∧
      (report.result ≠ .stopFailed → report.reaped.toNat = forks trace) ∧
      (report.result.saysVerified = true → 0 < report.observerPid ∧ state'.lease.WholeWindow) ∧
      (report.result = .recovered → 0 < report.recoveryPid) := by
  have htallied := entry_tallied h
  exact ⟨htallied.named, htallied.idle, htallied.counted, htallied.verified, htallied.recovery⟩

/-- A recovery that goes well forks no operation, one recovery and one observer, and reports a
whole window. -/
theorem entry_names_workers_recovery : (healthyRun .resume true).2.1.1.map (fun report =>
      (report.result, report.operationPid, report.recoveryPid, report.observerPid)) =
        some (.recovered, 0, 7, 7) ∧
    (∀ kind, forksOf kind (healthyRun .resume true).1 = if kind = .operation then 0 else 1) ∧
    (healthyRun .resume true).2.1.2.lease.WholeWindow := by
  have hresult : (healthyRun .resume true).2.1.1.map (fun report =>
      (report.result, report.operationPid, report.recoveryPid, report.observerPid)) =
        some (.recovered, 0, 7, 7) := by decide +kernel
  have hends := healthyRun_gives .resume true
  refine ⟨hresult, ?_⟩
  generalize healthyRun .resume true = run at hresult hends ⊢
  obtain ⟨trace, ⟨result, state⟩, reads⟩ := run
  obtain ⟨report, rfl, hreport⟩ := Option.map_eq_some_iff.mp hresult
  simp only [Prod.mk.injEq] at hreport
  obtain ⟨hrecovered, hoperation, hrecovery, hobserver⟩ := hreport
  obtain ⟨hnamed, -, -, hverified, -⟩ := entry_names_workers minuteSupervisor .resume hends
  refine ⟨fun kind => ?_, (hverified (by rw [hrecovered]; rfl)).2⟩
  rw [hnamed kind]
  cases kind with
  | operation =>
    change (if 0 < report.operationPid then 1 else 0) = 0
    rw [hoperation]
    rfl
  | recovery =>
    change (if 0 < report.recoveryPid then 1 else 0) = 1
    rw [hrecovery]
    rfl
  | observer =>
    change (if 0 < report.observerPid then 1 else 0) = 1
    rw [hobserver]
    rfl

end WorkerSupervisor
end Ventilator
