import Ventilator.SupervisorOrder

/-! The socket pairs of a supervisor's workers: every worker is forked with the pair made last, and
granted before the next one is forked. -/
namespace Ventilator
open CallTree TraceGuard

/-- No worker was forked after the pair was made. -/
def FreshPair (channel : ℕ) (trace : List SupervisorEvent) : Prop :=
  ∃ early late, trace = early ++ ⟨.socketpair, some channel⟩ :: late ∧
    ∀ e ∈ late, forked e = false

namespace WorkerSupervisor

variable (supervisor : WorkerSupervisor)

/-- The worker that was forked last has the pair, and its process was recorded since. -/
def LastRecorded (channel : ℕ) (trace : List SupervisorEvent) : Prop :=
  ∃ early worker child run late state state',
    trace = early ++ ⟨.fork worker, some child⟩ :: (run ++ late) ∧ worker.channel = channel ∧
      Gives (supervisor.supervisorOwnershipRecord child.val).run state run (some true) state' ∧
      ∀ e ∈ run ++ late, forked e = false

/-- What must have happened with the pairs before each call. -/
def PairGuard (before : List SupervisorEvent) : SupervisorEvent → Prop
  | ⟨.fork worker, _⟩ => FreshPair worker.channel before
  | ⟨.sendGrant channel, _⟩ => supervisor.LastRecorded channel before
  | _ => True

/-- The program uses its pairs so, after any history. -/
def Pairs {α : Type} (m : SupervisorM α) : Prop :=
  ∀ before state, Holds supervisor.PairGuard before state m fun _ _ _ => True

variable {supervisor} {α β : Type}

lemma pairGuard_of_quiet {before : List SupervisorEvent} {e : SupervisorEvent}
    (h : e.1.isQuiet = true) : supervisor.PairGuard before e := by
  obtain ⟨c, answer⟩ := e
  cases c with
  | fork worker => cases h
  | sendGrant channel => cases h
  | _ => trivial

namespace Pairs
open SupervisorM

lemma pure (a : α) : supervisor.Pairs (Pure.pure a) := fun _ _ => .pure trivial

lemma bind {m : SupervisorM α} {f : α → SupervisorM β} (hm : supervisor.Pairs m)
    (hf : ∀ a, supervisor.Pairs (f a)) : supervisor.Pairs (m >>= f) :=
  fun before state => (hm before state).bind fun a state' after _ => hf a after state'

lemma quiet {m : SupervisorM α} (h : Quiet m) : supervisor.Pairs m := fun before state =>
  (h _ before state fun _ _ => pairGuard_of_quiet).mono fun _ _ _ _ => trivial

lemma ask {c : SupervisorCall} (h : ∀ before answer, supervisor.PairGuard before ⟨c, answer⟩) :
    supervisor.Pairs (sys c) := fun before _ => .ask fun answer => ⟨h before answer, trivial⟩

lemma update (f : Supervision → Supervision) : supervisor.Pairs (SupervisorM.update f) :=
  fun _ _ => .modify trivial

lemma current : supervisor.Pairs SupervisorM.current :=
  fun _ _ => .lift trivial

lemma ite {p : Prop} [Decidable p] {m m' : SupervisorM α} (hm : supervisor.Pairs m)
    (hm' : supervisor.Pairs m') : supervisor.Pairs (if p then m else m') := by
  split
  · exact hm
  · exact hm'

lemma rounds {ρ κ : Type} {body : κ → SupervisorM (ρ ⊕ κ)} (h : ∀ vars, supervisor.Pairs (body vars))
    (fuel : ℕ) (vars : κ) : supervisor.Pairs (SupervisorM.rounds fuel body vars) := by
  intro before state
  refine holds_rounds (I := fun _ _ _ => True) (fun vars state before _ => ?_) trivial
  refine (h vars before state).mono fun out _ _ _ => ?_
  cases out <;> trivial

lemma onLease (m : JournalDirectory.LeaseM (Option α)) :
    supervisor.Pairs (SupervisorM.onLease m) := by
  intro before state
  have hcalls : Only (fun _ => True) m := fun _ => calls_of_forall (fun _ => trivial) _
  exact (holds_onLease hcalls fun _ _ _ _ => trivial).mono fun _ _ _ _ => trivial

end Pairs

section Programs
open SupervisorM

lemma pairs_awaitKilled (child : Pid) (deadline : UInt64) :
    supervisor.Pairs (supervisor.awaitKilled child deadline) := by
  refine .rounds (fun _ => ?_) _ _
  refine .bind (.ask fun _ _ => trivial) fun waited => ?_
  cases waited with
  | reaped status => exact .bind (.update _) fun _ => .pure _
  | _ =>
    exact .ite (.pure _) (.bind (.ask fun _ _ => trivial) fun _ =>
      .ite (.pure _) (.bind (.ask fun _ _ => trivial) fun _ => .pure _))

lemma pairs_stopAndReap (child : Pid) : supervisor.Pairs (supervisor.stopAndReap child) := by
  refine .ite (.pure _) (.bind (.quiet (quiet_deadlineFor _)) fun deadline => ?_)
  cases deadline with
  | none => exact .pure _
  | some deadline =>
    refine .bind (.ask fun _ _ => trivial) fun waited => ?_
    cases waited with
    | reaped status => exact .bind (.update _) fun _ => .pure _
    | _ =>
      exact .ite (.pure _) (.bind (.ask fun _ _ => trivial) fun _ =>
        .ite (.pure _) (pairs_awaitKilled child deadline))

lemma pairs_waitPhase (child : Pid) (deadline : UInt64) (cancellable : Bool) (exit : WorkerExit) :
    supervisor.Pairs (supervisor.waitPhase child deadline cancellable exit) := by
  refine .rounds (fun _ => .bind (.quiet quiet_parentCheck) fun _ =>
    .bind (.quiet (quiet_phaseOver _ _)) fun _ => .ite ?_ ?_) _ _
  · exact .bind (.quiet (quiet_isCancelled _)) fun _ =>
      .bind (pairs_stopAndReap child) fun _ => .pure _
  · refine .bind (.ask fun _ _ => trivial) fun waited => ?_
    cases waited with
    | reaped status => exact .bind (.update _) fun _ => .pure _
    | _ => exact .ite (.pure _) (.bind (.ask fun _ _ => trivial) fun _ => .pure _)

/-- A worker is granted while it is the last one that was forked. -/
lemma grantWorker_pairs {early : List SupervisorEvent} {worker : Worker}
    {child : { child : Pid // 0 < child }} {state : Supervision} :
    Holds supervisor.PairGuard (early ++ [⟨.fork worker, some child⟩]) state
      (supervisor.grantWorker child.val worker.channel) fun _ _ _ => True := by
  refine (((quiet_supervisorOwnershipRecord child.val) _ _ state fun _ _ =>
    pairGuard_of_quiet).with_gives).bind ?_
  rintro recorded state₁ after₁ ⟨⟨rfl, run, hrun, hquiet⟩, run', hrun', hgives⟩
  obtain rfl : run = run' := List.append_cancel_left (hrun.symm.trans hrun')
  refine (quiet_parentCheck _ _ _ fun _ _ => pairGuard_of_quiet).bind ?_
  rintro ⟨⟩ state₂ after₂ ⟨rfl, late, rfl, hquiet'⟩
  refine Holds.ite (fun _ => Holds.ask_bind fun _ => ⟨trivial, .pure trivial⟩) fun hrecorded => ?_
  rw [Bool.not_eq_true, Bool.not_eq_false'] at hrecorded
  rw [hrecorded] at hgives
  refine Holds.ask_bind fun sent => ⟨?_, ?_⟩
  · refine ⟨early, worker, child, run, late, _, _, ?_, rfl, hgives, ?_⟩
    · rw [hrun]
      simp
    · exact List.forall_mem_append.mpr
        ⟨fun e he => forked_eq_false_of_idle (isIdle_of_quiet (hquiet e he)),
          fun e he => forked_eq_false_of_idle (isIdle_of_quiet (hquiet' e he))⟩
  · exact Holds.ite (fun _ => Holds.ask_bind fun _ => ⟨trivial, .pure trivial⟩)
      fun _ => .pure trivial

/-- `spawn_worker` forks its worker with the pair it made. -/
lemma pairs_spawnWorker (kind : WorkerKind) (deadline : UInt64) :
    supervisor.Pairs (supervisor.spawnWorker kind deadline) := by
  refine .bind (.quiet quiet_parentCheck) fun _ before state => ?_
  refine Holds.ask_bind fun pair => ⟨trivial, ?_⟩
  cases pair with
  | none => exact .pure trivial
  | some channel =>
    refine (quiet_setCloseOnExec _ _ _ fun _ _ => pairGuard_of_quiet).bind ?_
    rintro cloexec state₁ after₁ ⟨rfl, late, rfl, hquiet⟩
    refine Holds.ite (fun _ => Holds.ask_bind fun _ => ⟨trivial, .pure trivial⟩) fun _ =>
      Holds.ask_bind fun answer => ⟨?_, ?_⟩
    · exact ⟨before, late, by simp, fun e he =>
        forked_eq_false_of_idle (isIdle_of_quiet (hquiet e he))⟩
    · cases answer with
      | none => exact Holds.ask_bind fun _ => ⟨trivial, .pure trivial⟩
      | some child =>
        have hgranted : Holds supervisor.PairGuard
            (before ++ [⟨.socketpair, some channel⟩] ++ late ++
              [⟨.fork ⟨kind, channel, deadline⟩, some child⟩]) state₁
            (supervisor.grantWorker child.val channel) fun _ _ _ => True := grantWorker_pairs
        exact hgranted.bind fun _ _ _ _ => .pure trivial

lemma pairs_concludeRound (recovering : Bool) (vars : ObserverVars) :
    supervisor.Pairs (concludeRound recovering vars) :=
  .ite (.bind .current fun _ => .pure _) (.bind (.ask fun _ _ => trivial) fun _ => .pure _)

lemma pairs_collectObserver (child : Pid) (recovering : Bool) (vars : ObserverVars) :
    supervisor.Pairs (collectObserver child recovering vars) := by
  refine .ite (pairs_concludeRound _ _) (.bind (.ask fun _ _ => trivial) fun waited => ?_)
  cases waited with
  | reaped status => exact .bind (.update _) fun _ => pairs_concludeRound _ _
  | _ => exact .ite (.bind (.update _) fun _ => .pure _) (pairs_concludeRound _ _)

lemma pairs_receiveObservation (launchedNs : UInt64) (recovering keepsLatest : Bool)
    (observation : Observation) (vars : ObserverVars) :
    supervisor.Pairs (receiveObservation launchedNs recovering keepsLatest observation vars) :=
  .ite (.pure _) (.bind (.ask fun _ _ => trivial) fun _ => .bind .current fun _ =>
    .bind (.update _) fun _ => .ite (.pure _) (.bind (.update _) fun _ => .pure _))

lemma pairs_observerRound (child : Pid) (launchedNs deadline : UInt64)
    (recovering keepsLatest : Bool) (vars : ObserverVars) : supervisor.Pairs
      (supervisor.observerRound child launchedNs deadline recovering keepsLatest vars) := by
  refine .bind (.quiet quiet_parentCheck) fun _ => .bind (.ask fun _ _ => trivial) fun _ =>
    .ite (.pure _) (.ite (pairs_collectObserver _ _ _) (.bind (.ask fun _ _ => trivial) ?_))
  intro read
  cases read with
  | ok bytes =>
    exact .ite (pairs_collectObserver _ _ _) (.ite (pairs_receiveObservation _ _ _ _ _) (.pure _))
  | error errno => exact .ite (.pure _) (pairs_collectObserver _ _ _)

lemma pairs_superviseObserver (child : Pid) (launchedNs deadline : UInt64)
    (recovering keepsLatest : Bool) : supervisor.Pairs
      (supervisor.superviseObserver child launchedNs deadline recovering keepsLatest) := by
  refine .bind (.rounds (fun _ => pairs_observerRound _ _ _ _ _ _) _ _) fun ended => ?_
  match ended with
  | .returned verified => exact .pure _
  | .broke true => exact .pure _
  | .broke false =>
    exact .bind (pairs_stopAndReap child) fun _ =>
      .ite (.pure _) (.bind (.update _) fun _ => .pure _)

lemma pairs_observeOwned (recovering keepsLatest : Bool) :
    supervisor.Pairs (supervisor.observeOwned recovering keepsLatest) := by
  refine .bind (.ask fun _ _ => trivial) fun _ => .ite (.pure _)
    (.bind (.ask fun _ _ => trivial) fun _ => .ite (.bind (.ask fun _ _ => trivial) fun _ => .pure _)
      (.bind (.ask fun _ _ => trivial) fun launchedNs => .bind (.quiet (quiet_deadlineFor _)) ?_))
  intro deadline
  cases deadline with
  | none => exact .bind (.ask fun _ _ => trivial) fun _ => .pure _
  | some deadline =>
    refine .bind (pairs_spawnWorker _ _) fun out => .bind (.update _) fun _ =>
      .bind (.quiet (quiet_reportObserver _ _ _)) fun _ => .bind (.ite ?_ (.pure _)) fun _ =>
        .bind (.ask fun _ _ => trivial) fun _ => .bind (.quiet (quiet_closeConnection _)) fun _ =>
          .pure _
    exact pairs_superviseObserver _ _ _ _ _

lemma pairs_recoverOwned : supervisor.Pairs supervisor.recoverOwned := by
  refine .bind (.update _) fun _ => .bind (.quiet (quiet_deadlineFor _)) fun deadline => ?_
  cases deadline with
  | none => exact .pure _
  | some deadline =>
    refine .bind (pairs_spawnWorker _ _) fun out => .bind (.update _) fun _ => .ite (.pure _)
      (.bind (pairs_waitPhase _ _ _ _) fun waited => .bind (.quiet (quiet_closeConnection _)) fun _ =>
        .ite (.update _) (.ite (.pure _) ?_))
    exact .bind (.update _) fun _ => .bind (pairs_observeOwned _ _) fun _ =>
      .bind (.quiet quiet_parentCheck) fun _ => .ite (.update _)
        (.bind (.onLease _) fun _ => .ite (.update _) (.update _))

lemma pairs_operateOwned (deadline : UInt64) :
    supervisor.Pairs (supervisor.operateOwned deadline) := by
  refine .bind (pairs_spawnWorker _ _) fun out => .bind (.update _) fun _ => .ite ?_ ?_
  · exact .bind (.quiet (quiet_closeConnection _)) fun _ => .pure _
  · exact .bind (pairs_waitPhase _ _ _ _) fun _ => .bind (.update _) fun _ =>
      .bind (.quiet (quiet_closeConnection _)) fun _ => .pure _

lemma pairs_runOwned : supervisor.Pairs supervisor.runOwned := by
  refine .bind .current fun _ => .bind (.quiet quiet_parentCheck) fun _ =>
    .bind (.onLease _) fun _ => .ite (.update _) (.bind ?_ fun _ => .ite (.update _)
      (.bind (.quiet (quiet_deadlineFor _)) fun deadline => ?_))
  · exact .bind (.ask fun _ _ => trivial) fun _ => .bind .current fun _ =>
      .bind (.update _) fun _ => .pure _
  · cases deadline with
    | none => exact .bind (.update _) fun _ => pairs_recoverOwned
    | some deadline =>
      exact .bind .current fun _ => .bind (pairs_operateOwned _) fun _ => .bind (.update _) fun _ =>
        .ite (.update _) pairs_recoverOwned

lemma pairs_closeLock : supervisor.Pairs closeLock :=
  .bind (.ask fun _ _ => trivial) fun _ => .pure _

lemma pairs_finish : supervisor.Pairs finish := .bind .current fun _ => .pure _

lemma pairs_ownLock (pending : Bool) : supervisor.Pairs (supervisor.ownLock pending) :=
  .bind (.quiet (quiet_privateFile _)) fun _ => .ite (.pure _)
    (.bind (.ask fun _ _ => trivial) fun _ => .ite (.pure _)
      (.bind (.quiet quiet_controlIntentRead) fun _ => .ite (.pure _)
        (.bind (.quiet (quiet_oldWorkerAbsent _)) fun _ => .ite (.pure _)
          (.bind (.ask fun _ _ => trivial) fun _ => .ite (.pure _)
            (.bind (.ask fun _ _ => trivial) fun _ => .ite (.pure _)
              (.quiet (quiet_supervisorOwnershipRecord _)))))))

lemma pairs_supervisorOwnershipAcquire (pending : Bool) :
    supervisor.Pairs (supervisor.supervisorOwnershipAcquire pending) := by
  refine .bind (.quiet quiet_privateDirectory) fun _ => .ite (.pure _)
    (.bind (.ask fun _ _ => trivial) fun opened => ?_)
  cases opened with
  | error errno => exact .pure _
  | ok u =>
    exact .bind (pairs_ownLock pending) fun _ => .ite (.pure _)
      (.bind pairs_closeLock fun _ => .pure _)

lemma pairs_entry (entry : SupervisorEntry) : supervisor.Pairs (supervisor.entry entry) := by
  have hend : supervisor.Pairs (closeLock >>= fun _ => finish) :=
    .bind pairs_closeLock fun _ => pairs_finish
  cases entry with
  | run =>
    exact .bind (.update _) fun _ => .bind (.quiet quiet_parentCheck) fun _ =>
      .bind (.ask fun _ _ => trivial) fun _ => .bind (.quiet quiet_canSupervise) fun _ =>
        .ite pairs_finish (.ite pairs_finish (.bind (.quiet (quiet_isCancelled _)) fun _ =>
          .ite pairs_finish (.bind .current fun _ => .ite pairs_finish
            (.bind (.quiet quiet_controlIntentRead) fun _ => .ite pairs_finish
              (.bind (pairs_supervisorOwnershipAcquire _) fun _ => .ite pairs_finish
                (.bind pairs_runOwned fun _ => hend))))))
  | resume =>
    exact .bind (.update _) fun _ => .bind (.quiet quiet_parentCheck) fun _ =>
      .bind (.quiet quiet_canSupervise) fun _ => .ite pairs_finish
        (.bind (.quiet quiet_controlIntentRead) fun _ => .ite pairs_finish
          (.bind (.ask fun _ _ => trivial) fun _ => .bind (.update _) fun _ =>
            .bind (pairs_supervisorOwnershipAcquire _) fun _ => .ite pairs_finish
              (.bind pairs_recoverOwned fun _ => hend)))
  | observeBaseline =>
    exact .bind (.update _) fun _ => .bind (.quiet quiet_parentCheck) fun _ =>
      .bind (.quiet quiet_canSupervise) fun _ => .ite pairs_finish
        (.bind (.quiet quiet_controlIntentRead) fun _ => .ite pairs_finish
          (.bind (pairs_supervisorOwnershipAcquire _) fun _ => .ite pairs_finish
            (.bind (.update _) fun _ => .bind (.update _) fun _ =>
              .bind (pairs_observeOwned _ _) fun _ =>
                .ite (.bind (.update _) fun _ => hend) (.bind (.update _) fun _ => hend))))

end Programs

end WorkerSupervisor
end Ventilator
