import Ventilator.SupervisorGuards

/-! The phases of one call of the supervisor: whatever its workers and its calls do, at most one
worker is unreaped, each phase starts after the one before it, and a recovery is reported only
when it was verified. -/
namespace Ventilator
open CallTree TraceGuard

/-- The event reaps no worker and forks none. -/
def steady : SupervisorEvent → Bool
  | ⟨.fork _, some _⟩ => false
  | ⟨.waitpid _, .reaped _⟩ => false
  | _ => true

lemma unreaped_steady {xs : List SupervisorEvent} {e : SupervisorEvent} (h : steady e = true) :
    unreaped (xs ++ [e]) = unreaped xs := by
  rw [unreaped_append, List.foldl_cons, List.foldl_nil]
  obtain ⟨c, answer⟩ := e
  cases c with
  | fork worker =>
    cases answer with
    | none => rfl
    | some child => cases h
  | waitpid child =>
    cases answer with
    | reaped status => cases h
    | _ => rfl
  | _ => rfl

lemma forks_steady {xs : List SupervisorEvent} {e : SupervisorEvent} (h : steady e = true) :
    forks (xs ++ [e]) = forks xs := by
  have hforked : forked e = false := by
    obtain ⟨c, answer⟩ := e
    cases c with
    | fork worker =>
      cases answer with
      | none => rfl
      | some child => cases h
    | _ => rfl
  rw [forks_append, forks, forks, List.countP_singleton, hforked]
  rfl

namespace WorkerSupervisor
open SupervisorM

/-- While the lock is held: the unreaped workers, how many were forked, and that the report counts
the others. -/
structure Standing (live : List Pid) (count : ℕ) (state : Supervision)
    (history : List SupervisorEvent) : Prop where
  held : LockHeld history
  workers : unreaped history = live
  counted : forks history = count
  reaped : state.report.reaped.toNat + live.length = count

/-- From one point of a call to a later one: the workers stand as said, the result was not touched
and, where `leased`, the lease was not either. -/
structure Kept (leased : Prop) (live : List Pid) (count : ℕ) (state : Supervision)
    (before : List SupervisorEvent) (state' : Supervision) (after : List SupervisorEvent) :
    Prop where
  grows : Grows before after
  standing : Standing live count state' after
  result : state'.report.result = state.report.result
  lease : leased → state'.lease = state.lease

variable {supervisor : WorkerSupervisor} {leased : Prop} {recovering : Bool} {child : Pid} {live : List Pid}
  {n : ℕ} {before history : List SupervisorEvent} {state state₁ : Supervision}

lemma Standing.quiet {more : List SupervisorEvent} (h : Standing live n state history)
    (hquiet : ∀ e ∈ more, e.1.isQuiet = true) : Standing live n state (history ++ more) :=
  ⟨h.held.grows ⟨more, rfl, fun e he => calm_of_quiet (hquiet e he)⟩,
    (unreaped_idle _ fun e he => isIdle_of_quiet (hquiet e he)).trans h.workers,
    (forks_idle _ fun e he => isIdle_of_quiet (hquiet e he)).trans h.counted, h.reaped⟩

lemma Standing.event {e : SupervisorEvent} (h : Standing live n state history)
    (hcalm : calm e = true) (hsteady : steady e = true) :
    Standing live n state (history ++ [e]) :=
  ⟨h.held.grows (.event hcalm), (unreaped_steady hsteady).trans h.workers,
    (forks_steady hsteady).trans h.counted, h.reaped⟩

/-- The report may change, but for its count. -/
lemma Standing.counts (h : Standing live n state history)
    (hreaped : state₁.report.reaped = state.report.reaped) : Standing live n state₁ history :=
  ⟨h.held, h.workers, h.counted, by rw [hreaped]; exact h.reaped⟩

/-- Reaping the one unreaped worker is counted. -/
lemma Standing.reaps {status : WaitStatus} (h : Standing [child] n state history) (hn : n ≤ 3) :
    Standing [] n state.countReaped (history ++ [⟨.waitpid child, .reaped status⟩]) := by
  have hlive : unreaped (history ++ [⟨.waitpid child, .reaped status⟩]) = [] := by
    rw [unreaped_append, h.workers]
    simp [unreapedAfter]
  have hforks : forks (history ++ [⟨.waitpid child, .reaped status⟩]) = n := by
    rw [forks_append, h.counted]
    rfl
  refine ⟨h.held.grows (.event rfl), hlive, hforks, ?_⟩
  have hreaped := h.reaped
  have hcount : state.countReaped.report.reaped = state.report.reaped + 1 := rfl
  rw [List.length_singleton] at hreaped
  rw [hcount, UInt32.toNat_add, List.length_nil, Nat.mod_eq_of_lt (by simp; omega)]
  simpa using hreaped

lemma Kept.refl (h : Standing live n state history) : Kept leased live n state history state history :=
  ⟨.refl _, h, rfl, fun _ => rfl⟩

lemma Kept.trans {live' : List Pid} {m : ℕ} {state₂ : Supervision}
    {middle after : List SupervisorEvent} (h : Kept leased live' m state before state₁ middle)
    (h' : Kept leased live n state₁ middle state₂ after) : Kept leased live n state before state₂ after :=
  ⟨h.grows.trans h'.grows, h'.standing, h'.result.trans h.result, fun hleased => (h'.lease hleased).trans (h.lease hleased)⟩

lemma Kept.event {e : SupervisorEvent} (h : Kept leased live n state before state₁ history)
    (hcalm : calm e = true) (hsteady : steady e = true) :
    Kept leased live n state before state₁ (history ++ [e]) :=
  ⟨h.grows.trans (.event hcalm), h.standing.event hcalm hsteady, h.result, h.lease⟩

lemma Kept.reaps {status : WaitStatus} (h : Kept leased [child] n state before state₁ history)
    (hn : n ≤ 3) :
    Kept leased [] n state before state₁.countReaped (history ++ [⟨.waitpid child, .reaped status⟩]) :=
  ⟨h.grows.trans (.event rfl), h.standing.reaps hn, h.result, h.lease⟩

/-- Where the lease is not kept, the rest of the state may change, but for the report. -/
lemma Kept.unleased {state₂ : Supervision} (h : Kept False live n state before state₁ history)
    (hreport : state₂.report = state₁.report) : Kept False live n state before state₂ history :=
  ⟨h.grows, h.standing.counts (by rw [hreport]), by rw [hreport]; exact h.result, nofun⟩

/-- A quiet program keeps everything. -/
lemma Kept.quiet {α : Type} {m : SupervisorM α} (h : Kept leased live n state before state₁ history)
    (hm : Quiet m) : Holds (supervisor.CallGuard recovering) history state₁ m
      fun _ state' after => Kept leased live n state before state' after := by
  refine (hm _ history state₁ fun _ _ => callGuard_of_quiet).mono fun _ state' after hquiet => ?_
  obtain ⟨rfl, more, rfl, hmore⟩ := hquiet
  exact ⟨h.grows.trans ⟨more, rfl, fun e he => calm_of_quiet (hmore e he)⟩,
    h.standing.quiet hmore, h.result, h.lease⟩

/-- The workers once the given one was, or was not, reaped. -/
abbrev liveUnless (child : Pid) (reaped : Bool) : List Pid := if reaped then [] else [child]

lemma awaitKilled_keeps {deadline : UInt64} (h : Kept leased [child] n state before state₁ history)
    (hn : n ≤ 3) :
    Holds (supervisor.CallGuard recovering) history state₁ (supervisor.awaitKilled child deadline)
      fun stopped state' after =>
        Kept leased (liveUnless child stopped) n state before state' after := by
  refine holds_rounds (I := fun _ state' after => Kept leased [child] n state before state' after)
    (fun _ state₂ middle hI => Holds.ask_bind fun waited => ⟨trivial, ?_⟩) h
  cases waited with
  | reaped status => exact Holds.modify_bind (.pure (hI.reaps hn))
  | _ =>
    refine Holds.ite (fun _ => .pure (hI.event rfl rfl)) fun _ =>
      Holds.ask_bind fun now => ⟨trivial, ?_⟩
    refine Holds.ite (fun _ => .pure ((hI.event rfl rfl).event rfl rfl)) fun _ =>
      Holds.ask_bind fun _ => ⟨trivial, .pure ?_⟩
    exact ((hI.event rfl rfl).event rfl rfl).event rfl rfl

/-- Stopping a worker either reaps it or leaves it the one unreaped worker. -/
lemma stopAndReap_keeps (h : Kept leased [child] n state before state₁ history) (hn : n ≤ 3) :
    Holds (supervisor.CallGuard recovering) history state₁ (supervisor.stopAndReap child)
      fun stopped state' after =>
        Kept leased (liveUnless child stopped) n state before state' after := by
  refine Holds.ite (fun _ => .pure h) fun _ => (h.quiet (quiet_deadlineFor _)).bind ?_
  intro deadline state₂ middle hdeadline
  cases deadline with
  | none => exact .pure hdeadline
  | some deadline =>
    refine Holds.ask_bind fun waited => ⟨trivial, ?_⟩
    cases waited with
    | reaped status => exact Holds.modify_bind (.pure (hdeadline.reaps hn))
    | _ =>
      refine Holds.ite (fun _ => .pure (hdeadline.event rfl rfl)) fun _ =>
        Holds.ask_bind fun killed => ⟨trivial, ?_⟩
      exact Holds.ite (fun _ => .pure ((hdeadline.event rfl rfl).event rfl rfl)) fun _ =>
        awaitKilled_keeps ((hdeadline.event rfl rfl).event rfl rfl) hn

/-- A phase ends with its worker reaped or with the worker the one that is not; a worker that
exited was reaped by its last call. -/
lemma waitPhase_keeps {deadline : UInt64} {cancellable : Bool}
    (h : Kept leased [child] n state before state₁ history) (hn : n ≤ 3) :
    Holds (supervisor.CallGuard recovering) history state₁
      (supervisor.waitPhase child deadline cancellable .notStarted) fun out state' after =>
        Kept leased (liveUnless child out.1) n state before state' after ∧
          (out.2 = .exited → ∃ middle, Grows before middle ∧
            after = middle ++ [⟨.waitpid child, .reaped (.exited 0)⟩]) := by
  refine holds_rounds (I := fun _ state' after => Kept leased [child] n state before state' after)
    (fun _ state₂ middle hI => (hI.quiet quiet_parentCheck).bind fun _ state₃ checked hchecked => ?_) h
  refine (hchecked.quiet (quiet_phaseOver _ _)).bind fun ended state₄ clocked hclocked => ?_
  refine Holds.ite (fun _ => ?_) fun _ => Holds.ask_bind fun waited => ⟨trivial, ?_⟩
  · refine (hclocked.quiet (quiet_isCancelled _)).bind fun cancelled state₅ asked hasked => ?_
    refine (stopAndReap_keeps hasked hn).bind fun stopped state₆ after hstopped => ?_
    refine .pure ⟨hstopped, fun hexited => ?_⟩
    cases cancelled <;> cases hexited
  · cases waited with
    | reaped status =>
      refine Holds.modify_bind (.pure ⟨hclocked.reaps hn, fun hexited => ⟨clocked, hclocked.grows, ?_⟩⟩)
      cases status with
      | exited code =>
        by_cases hcode : code = 0
        · rw [hcode]
        · have hclass : (WaitStatus.exited code).classifyExit = .failed := if_neg hcode
          rw [hclass] at hexited
          cases hexited
      | signaled => cases hexited
    | _ =>
      refine Holds.ite (fun _ => .pure ⟨hclocked.event rfl rfl, nofun⟩) fun _ =>
        Holds.ask_bind fun _ => ⟨trivial, .pure ?_⟩
      exact (hclocked.event rfl rfl).event rfl rfl

/-! Spawning. -/

/-- What `spawn_worker` leads to: no worker, or one that was forked after calm events and stands
alone since. -/
def Spawned (leased : Prop) (kind : WorkerKind) (child : Pid) (n : ℕ) (state : Supervision)
    (before : List SupervisorEvent) (state' : Supervision) (after : List SupervisorEvent) : Prop :=
  (child ≤ 0 ∧ Kept leased [] n state before state' after) ∨
    (0 < child ∧ ∃ early e, Grows before early ∧ Forked kind child e ∧
      Kept leased [child] (n + 1) state (early ++ [e]) state' after)

lemma Spawned.quiet {α : Type} {m : SupervisorM α} {kind : WorkerKind}
    (h : Spawned leased kind child n state before state₁ history) (hm : Quiet m) :
    Holds (supervisor.CallGuard recovering) history state₁ m
      fun _ state' after => Spawned leased kind child n state before state' after := by
  rcases h with ⟨hchild, hkept⟩ | ⟨hchild, early, e, hearly, hforked, hkept⟩
  · exact (hkept.quiet hm).mono fun _ _ _ hquiet => .inl ⟨hchild, hquiet⟩
  · exact (hkept.quiet hm).mono fun _ _ _ hquiet =>
      .inr ⟨hchild, early, e, hearly, hforked, hquiet⟩

/-- The report may note the worker. -/
lemma Spawned.setPid {kind : WorkerKind}
    (h : Spawned leased kind child n state before state₁ history) (kind' : WorkerKind)
    (child' : Pid) :
    Spawned leased kind child n state before (state₁.setPid kind' child') history := by
  have hreaped : (state₁.setPid kind' child').report.reaped = state₁.report.reaped := by
    cases kind' <;> rfl
  have hresult : (state₁.setPid kind' child').report.result = state₁.report.result := by
    cases kind' <;> rfl
  rcases h with ⟨hchild, hkept⟩ | ⟨hchild, early, e, hearly, hforked, hkept⟩
  · exact .inl ⟨hchild, hkept.grows, hkept.standing.counts hreaped, hresult.trans hkept.result,
      hkept.lease⟩
  · exact .inr ⟨hchild, early, e, hearly, hforked, hkept.grows, hkept.standing.counts hreaped,
      hresult.trans hkept.result, hkept.lease⟩

lemma Kept.spawned {kind : WorkerKind} {state₂ : Supervision} {after : List SupervisorEvent}
    (h : Kept leased [] n state before state₁ history)
    (h' : Spawned leased kind child n state₁ history state₂ after) :
    Spawned leased kind child n state before state₂ after := by
  rcases h' with ⟨hchild, hkept⟩ | ⟨hchild, early, e, hearly, hforked, hkept⟩
  · exact .inl ⟨hchild, h.trans hkept⟩
  · exact .inr ⟨hchild, early, e, h.grows.trans hearly, hforked, hkept.grows, hkept.standing,
      hkept.result.trans h.result, fun hleased => (hkept.lease hleased).trans (h.lease hleased)⟩

/-- A worker is granted only once its process was recorded. -/
lemma grantWorker_keeps {worker : Worker} {answer : { child : Pid // 0 < child }}
    {early : List SupervisorEvent}
    (h : Kept leased [answer.val] n state (early ++ [⟨.fork worker, some answer⟩]) state₁
      (early ++ [⟨.fork worker, some answer⟩])) :
    Holds (supervisor.CallGuard recovering) (early ++ [⟨.fork worker, some answer⟩]) state₁
      (supervisor.grantWorker answer.val worker.channel) fun _ state' after =>
        Kept leased [answer.val] n state (early ++ [⟨.fork worker, some answer⟩]) state' after := by
  refine (h.quiet (quiet_supervisorOwnershipRecord answer.val)).with_gives.bind ?_
  rintro recorded state₂ after₂ ⟨hrecord, run, rfl, hgives⟩
  refine (hrecord.quiet quiet_parentCheck).extends.bind ?_
  rintro ⟨⟩ state₃ after₃ ⟨hchecked, more, rfl⟩
  refine Holds.ite (fun _ => Holds.ask_bind fun _ => ⟨trivial, .pure (hchecked.event rfl rfl)⟩)
    fun hrecorded => ?_
  rw [Bool.not_eq_true, Bool.not_eq_false'] at hrecorded
  rw [hrecorded] at hgives
  have hguard : supervisor.Recorded worker.channel
      (early ++ [⟨.fork worker, some answer⟩] ++ run ++ more) :=
    ⟨early, worker, answer, [], run, more, _, _, by simp, rfl, hgives⟩
  refine Holds.ask_bind fun sent => ⟨⟨hchecked.standing.held, hguard⟩, ?_⟩
  have hsent := hchecked.event (e := ⟨.sendGrant worker.channel, sent⟩) rfl rfl
  exact Holds.ite (fun _ => Holds.ask_bind fun _ => ⟨trivial, .pure (hsent.event rfl rfl)⟩)
    fun _ => .pure hsent

lemma Standing.forks {worker : Worker} {answer : { child : Pid // 0 < child }}
    (h : Standing [] n state history) :
    Standing [answer.val] (n + 1) state (history ++ [⟨.fork worker, some answer⟩]) := by
  refine ⟨⟨List.mem_append_left _ h.held.1, List.forall_mem_append.mpr ⟨h.held.2, by simp⟩⟩, ?_, ?_, ?_⟩
  · rw [unreaped_append, h.workers]
    rfl
  · rw [forks_append, h.counted]
    rfl
  · have hreaped := h.reaped
    simpa using hreaped

/-- `spawn_worker` forks nothing, or a worker that then stands alone. -/
lemma spawnWorker_keeps (leased : Prop) {kind : WorkerKind} {deadline : UInt64}
    (h : Standing [] n state history) (hkind : supervisor.KindGuard recovering history kind) :
    Holds (supervisor.CallGuard recovering) history state (supervisor.spawnWorker kind deadline)
      fun out state' after => Spawned leased kind out.1 n state history state' after := by
  have hstart : Kept leased [] n state history state history := .refl h
  refine (hstart.quiet quiet_parentCheck).bind fun _ state₂ after₂ hchecked => ?_
  refine Holds.ask_bind fun pair => ⟨trivial, ?_⟩
  cases pair with
  | none => exact .pure (.inl ⟨by decide, hchecked.event rfl rfl⟩)
  | some channel =>
    refine ((hchecked.event rfl rfl).quiet quiet_setCloseOnExec).bind ?_
    intro cloexec state₃ after₃ hcloexec
    refine Holds.ite (fun _ => Holds.ask_bind fun _ => ⟨trivial, .pure (.inl ⟨by decide,
      hcloexec.event rfl rfl⟩)⟩) fun _ => Holds.ask_bind fun answer => ⟨?_, ?_⟩
    · have hstanding := hcloexec.standing
      exact ⟨hstanding.held, hstanding.workers, hkind.grows hcloexec.grows⟩
    · cases answer with
      | none =>
        exact Holds.ask_bind fun _ => ⟨trivial, .pure (.inl ⟨by decide,
          (hcloexec.event rfl rfl).event rfl rfl⟩)⟩
      | some answer =>
        have hforked : Kept leased [answer.val] (n + 1) state₃
            (after₃ ++ [⟨.fork ⟨kind, channel, deadline⟩, some answer⟩]) state₃ _ :=
          .refl hcloexec.standing.forks
        refine (grantWorker_keeps hforked).bind ?_
        intro connection state₄ after₄ hgranted
        refine .pure (.inr ⟨answer.property, after₃, ⟨.fork ⟨kind, channel, deadline⟩, some answer⟩,
          hcloexec.grows, ⟨_, answer, rfl, rfl, rfl⟩, ?_⟩)
        exact ⟨hgranted.grows, hgranted.standing, hgranted.result.trans hcloexec.result,
          fun hleased => (hgranted.lease hleased).trans (hcloexec.lease hleased)⟩

/-! The observer. -/

/-- All workers are reaped and the result is as before, or one could not be stopped and the
result says so. -/
def Settled (n : ℕ) (state : Supervision) (state' : Supervision)
    (after : List SupervisorEvent) : Prop :=
  (Standing [] n state' after ∧ state'.report.result = state.report.result) ∨
    ∃ child, Standing [child] n state' after ∧ state'.report.result = .stopFailed

/-- What a round of `supervise_observer` leads to. -/
def RoundSettles (child : Pid) (n : ℕ) (state : Supervision) (before : List SupervisorEvent)
    (out : ObserverEnd ⊕ ObserverVars) (state' : Supervision) (after : List SupervisorEvent) :
    Prop :=
  match out with
  | .inl (.returned verified) =>
    Settled n state state' after ∧ (verified = true → Standing [] n state' after)
  | .inl (.broke reaped) => Kept False (liveUnless child reaped) n state before state' after
  | .inr vars => Kept False (liveUnless child vars.reaped) n state before state' after

lemma concludeRound_settles {vars : ObserverVars} {recovering : Bool}
    (h : Kept False (liveUnless child vars.reaped) n state before state₁ history) :
    Holds (supervisor.CallGuard recovering) history state₁ (concludeRound recovering vars)
      (RoundSettles child n state before) := by
  refine Holds.ite (fun hdone => Holds.get_bind (.pure ?_)) fun _ =>
    Holds.ask_bind fun _ => ⟨trivial, .pure (h.event rfl rfl)⟩
  rw [Bool.and_eq_true] at hdone
  rw [liveUnless, if_pos hdone.1] at h
  exact ⟨.inl ⟨h.standing, h.result⟩, fun _ => h.standing⟩

lemma collectObserver_settles {vars : ObserverVars} {recovering : Bool}
    (h : Kept False (liveUnless child vars.reaped) n state before state₁ history) (hn : n ≤ 3) :
    Holds (supervisor.CallGuard recovering) history state₁
      (collectObserver child recovering vars) (RoundSettles child n state before) := by
  refine Holds.ite (fun _ => concludeRound_settles h) fun hreaped => ?_
  have hlive := h
  rw [liveUnless, if_neg hreaped] at hlive
  refine Holds.ask_bind fun waited => ⟨trivial, ?_⟩
  cases waited with
  | reaped status => exact Holds.modify_bind (concludeRound_settles (hlive.reaps hn))
  | running =>
    exact Holds.ite (fun hlost => absurd hlost (by decide)) fun _ =>
      concludeRound_settles (h.event rfl rfl)
  | failed errno =>
    refine Holds.ite (fun _ => Holds.modify_bind (.pure ⟨.inr ⟨child, ?_, rfl⟩, nofun⟩)) fun _ =>
      concludeRound_settles (h.event rfl rfl)
    exact (hlive.event rfl rfl).standing.counts rfl

lemma receiveObservation_settles {vars : ObserverVars} {recovering keepsLatest : Bool}
    {launchedNs : UInt64} {observation : Observation}
    (h : Kept False (liveUnless child vars.reaped) n state before state₁ history) :
    Holds (supervisor.CallGuard recovering) history state₁
      (receiveObservation launchedNs recovering keepsLatest observation vars)
      (RoundSettles child n state before) := by
  refine Holds.ite (fun _ => .pure h) fun _ => Holds.ask_bind fun receivedNs => ⟨trivial, ?_⟩
  refine Holds.get_bind (Holds.modify_bind ?_)
  have hreceived : Kept False (liveUnless child vars.reaped) n state before state₁
      (history ++ [⟨.nowNs, receivedNs⟩]) := h.event rfl rfl
  refine Holds.ite (fun _ => .pure (hreceived.unleased rfl)) fun _ => Holds.modify_bind (.pure ?_)
  cases keepsLatest <;> exact hreceived.unleased rfl

lemma observerRound_settles {vars : ObserverVars} {recovering keepsLatest : Bool}
    {launchedNs deadline : UInt64}
    (h : Kept False (liveUnless child vars.reaped) n state before state₁ history) (hn : n ≤ 3) :
    Holds (supervisor.CallGuard recovering) history state₁
      (supervisor.observerRound child launchedNs deadline recovering keepsLatest vars)
      (RoundSettles child n state before) := by
  refine (h.quiet quiet_parentCheck).bind fun _ state₂ checked hchecked => ?_
  refine Holds.ask_bind fun now => ⟨trivial, ?_⟩
  refine Holds.ite (fun _ => .pure (hchecked.event rfl rfl)) fun _ => ?_
  refine Holds.ite (fun _ => collectObserver_settles (hchecked.event rfl rfl) hn) fun _ => ?_
  refine Holds.ask_bind fun read => ⟨trivial, ?_⟩
  have hread : Kept False (liveUnless child vars.reaped) n state before state₂
      (checked ++ [⟨.nowNs, now⟩] ++ [⟨.readPipe _, read⟩]) :=
    Kept.event (hchecked.event rfl rfl) rfl rfl
  cases read with
  | error errno =>
    exact Holds.ite (fun _ => .pure hread) fun _ => collectObserver_settles hread hn
  | ok bytes =>
    exact Holds.ite (fun _ => collectObserver_settles hread hn) fun _ =>
      Holds.ite (fun _ => receiveObservation_settles hread) fun _ => .pure hread

/-- `supervise_observer` settles its worker, and a verified one was reaped. -/
lemma superviseObserver_settles {recovering keepsLatest : Bool} {launchedNs deadline : UInt64}
    (h : Standing [child] n state history) (hn : n ≤ 3) :
    Holds (supervisor.CallGuard recovering) history state
      (supervisor.superviseObserver child launchedNs deadline recovering keepsLatest)
      fun verified state' after =>
        Settled n state state' after ∧ (verified = true → Standing [] n state' after) := by
  have hstart : Kept False (liveUnless child (ObserverVars.start launchedNs).reaped) n state history
      state history := .refl h
  have hloop : Holds (supervisor.CallGuard recovering) history state
      (rounds supervisor.fuel
        (supervisor.observerRound child launchedNs deadline recovering keepsLatest)
        (ObserverVars.start launchedNs))
      fun finish state' after => RoundSettles child n state history (.inl finish) state' after := by
    refine holds_rounds (I := fun vars state' after =>
      Kept False (liveUnless child vars.reaped) n state history state' after)
      (fun vars state' after hI => (observerRound_settles hI hn).mono fun out _ _ hout => ?_) hstart
    cases out <;> exact hout
  refine hloop.bind fun finish state' after hfinish => ?_
  match finish with
  | .returned verified => exact .pure hfinish
  | .broke true => exact .pure ⟨.inl ⟨hfinish.standing, hfinish.result⟩, nofun⟩
  | .broke false =>
    refine (stopAndReap_keeps hfinish hn).bind fun stopped state₂ last hstopped => ?_
    cases stopped with
    | true => exact .pure ⟨.inl ⟨hstopped.standing, hstopped.result⟩, nofun⟩
    | false =>
      exact Holds.modify_bind (.pure ⟨.inr ⟨child, hstopped.standing.counts rfl, rfl⟩, nofun⟩)

/-- How an observation leaves the workers: settled, and a verified one with its observer. -/
structure Observed (supervisor : WorkerSupervisor) (n : ℕ) (state : Supervision)
    (history : List SupervisorEvent) (verified : Bool) (state' : Supervision)
    (after : List SupervisorEvent) : Prop where
  settled : ∃ m ≤ n + 1, Settled m state state' after ∧ (verified = true → Standing [] m state' after)
  verified : ∃ rest, after = history ++ rest ∧ (verified = true → supervisor.ObserverVerified rest)

lemma Settled.quiet {state' : Supervision} {more : List SupervisorEvent}
    (h : Settled n state state' history) (hmore : ∀ e ∈ more, e.1.isQuiet = true) :
    Settled n state state' (history ++ more) := by
  rcases h with ⟨hstanding, hresult⟩ | ⟨child, hstanding, hresult⟩
  · exact .inl ⟨hstanding.quiet hmore, hresult⟩
  · exact .inr ⟨child, hstanding.quiet hmore, hresult⟩

lemma ObserverVerified.append {xs : List SupervisorEvent} (h : supervisor.ObserverVerified xs)
    (ys : List SupervisorEvent) : supervisor.ObserverVerified (xs ++ ys) := by
  obtain ⟨before, e, between, run, after, child, launchedNs, deadline, receipts, rfl, hforked,
    hverified⟩ := h
  exact ⟨before, e, between, run, after ++ ys, child, launchedNs, deadline, receipts, by simp,
    hforked, hverified⟩

lemma Observed.quiet {α : Type} {m : SupervisorM α} {verified : Bool} {state' : Supervision}
    {after : List SupervisorEvent} (h : supervisor.Observed n state history verified state' after)
    (hm : Quiet m) : Holds (supervisor.CallGuard recovering) after state' m
      fun _ state' after => supervisor.Observed n state history verified state' after := by
  refine (hm _ after state' fun _ _ => callGuard_of_quiet).mono fun _ state₂ after₂ hquiet => ?_
  obtain ⟨rfl, more, rfl, hmore⟩ := hquiet
  obtain ⟨⟨m, hm, hsettled, hstanding⟩, rest, rfl, hverified⟩ := h
  refine ⟨⟨m, hm, hsettled.quiet hmore, fun h => (hstanding h).quiet hmore⟩, rest ++ more,
    by simp, fun h => (hverified h).append more⟩

/-- An observation that forked no observer. -/
lemma Kept.unobserved {state' : Supervision} {after : List SupervisorEvent}
    (h : Kept leased [] n state history state' after) :
    supervisor.Observed n state history false state' after := by
  obtain ⟨rest, hrest, -⟩ := h.grows
  exact ⟨⟨n, by omega, .inl ⟨h.standing, h.result⟩, nofun⟩, rest, hrest, nofun⟩

/-- The observer that `observe_owned` forked is settled, and verified when it says so. -/
lemma superviseForked_observed {keepsLatest : Bool} {launchedNs deadline : UInt64}
    (h : Spawned True .observer child n state history state₁ before) (hn : n ≤ 2)
    (hlease : recovering = true → state.lease.state = .recoveryRequired) :
    Holds (supervisor.CallGuard recovering) before state₁
      (supervisor.superviseForked child launchedNs deadline recovering keepsLatest)
      fun verified state' after => supervisor.Observed n state history verified state' after := by
  rcases h with ⟨hchild, hkept⟩ | ⟨hchild, early, e, ⟨begun, hbegun, -⟩, hforked, hkept⟩
  · exact Holds.ite (fun h => absurd h (by simpa using hchild)) fun _ => .pure hkept.unobserved
  obtain ⟨between, hbetween, -⟩ := hkept.grows
  refine Holds.ite (fun _ => ?_) fun h => absurd hchild h
  refine (superviseObserver_settles hkept.standing (by omega)).with_gives.mono ?_
  rintro verified state₂ after₂ ⟨⟨hsettled, hstanding⟩, run, rfl, hgives⟩
  refine ⟨⟨n + 1, le_rfl, ?_, hstanding⟩, begun ++ [e] ++ between ++ run, ?_, ?_⟩
  · exact hsettled.imp_left fun h => ⟨h.1, h.2.trans hkept.result⟩
  · rw [hbetween, hbegun]
    simp
  · intro h
    rw [h] at hgives
    obtain ⟨⟨receipts, hverified, -⟩, -⟩ := superviseObserver_window
      (fun hr => by rw [hkept.lease trivial]; exact hlease hr) hgives
    exact ⟨begun, e, between, run, [], child, launchedNs, deadline, receipts, by simp, hforked,
      hverified⟩

lemma observeFor_observed {keepsLatest : Bool} {launchedNs deadline : UInt64}
    (h : Kept True [] n state history state₁ before) (hn : n ≤ 2)
    (hkind : supervisor.KindGuard recovering before .observer)
    (hlease : recovering = true → state.lease.state = .recoveryRequired) :
    Holds (supervisor.CallGuard recovering) before state₁
      (supervisor.observeFor launchedNs deadline recovering keepsLatest)
      fun verified state' after => supervisor.Observed n state history verified state' after := by
  refine (spawnWorker_keeps True h.standing hkind).bind ?_
  rintro ⟨child, connection⟩ state₂ after₂ hspawned
  have hsince : Spawned True .observer child n state history state₂ after₂ := h.spawned hspawned
  refine Holds.modify_bind (((hsince.setPid .observer child).quiet (quiet_reportObserver _ _ _)).bind ?_)
  intro _ state₃ after₃ hreported
  refine (superviseForked_observed hreported hn hlease).bind fun verified state₄ after₄ hobserved => ?_
  refine (hobserved.quiet (.ask (by rfl))).bind fun _ state₅ after₅ hclosed => ?_
  exact (hclosed.quiet (quiet_closeConnection _)).bind fun _ _ _ hobserved => .pure hobserved

/-- `observe_owned` forks at most one observer, settles it, and verified it when it says so. -/
lemma observeOwned_observed (keepsLatest : Bool) (h : Standing [] n state history) (hn : n ≤ 2)
    (hkind : supervisor.KindGuard recovering history .observer)
    (hlease : recovering = true → state.lease.state = .recoveryRequired) :
    Holds (supervisor.CallGuard recovering) history state
      (supervisor.observeOwned recovering keepsLatest)
      fun verified state' after => supervisor.Observed n state history verified state' after := by
  have hstart : Kept True [] n state history state history := .refl h
  refine Holds.ask_bind fun opened => ⟨trivial, ?_⟩
  have hopened := hstart.event (e := ⟨.pipe, opened⟩) rfl rfl
  refine Holds.ite (fun _ => .pure hopened.unobserved) fun _ => ?_
  refine Holds.ask_bind fun nonblocking => ⟨trivial, ?_⟩
  have hset := hopened.event (e := ⟨.setNonblocking, nonblocking⟩) rfl rfl
  refine Holds.ite (fun _ => Holds.ask_bind fun _ => ⟨trivial, .pure ?_⟩) fun _ => ?_
  · exact (hset.event rfl rfl).unobserved
  refine Holds.ask_bind fun launchedNs => ⟨trivial, ?_⟩
  have hlaunched := hset.event (e := ⟨.nowNs, launchedNs⟩) rfl rfl
  refine (hlaunched.quiet (quiet_deadlineFor _)).bind fun deadline state₁ after₁ hdeadline => ?_
  cases deadline with
  | none => exact Holds.ask_bind fun _ => ⟨trivial, .pure (hdeadline.event rfl rfl).unobserved⟩
  | some deadline => exact observeFor_observed hdeadline hn (hkind.grows hdeadline.grows) hlease

/-! The recovery and the operation before it. -/

/-- A recovery was verified, and then the marker was removed. -/
def RecoveredBy (supervisor : WorkerSupervisor) (trace : List SupervisorEvent) : Prop :=
  ∃ before after, trace = before ++ after ∧ supervisor.RecoveryVerified before ∧
    supervisor.MarkRemoved after

/-- What a report says about the workers and the marker of its call. -/
structure Reported (supervisor : WorkerSupervisor) (report : WorkerSupervisorReport)
    (trace : List SupervisorEvent) : Prop where
  counted : report.result ≠ .stopFailed → unreaped trace = [] ∧ report.reaped.toNat = forks trace
  stopped : report.result = .stopFailed → ∃ child, unreaped trace = [child]
  recovered : report.result = .recovered → supervisor.RecoveredBy trace

lemma Standing.stuck (h : Standing [child] n state history)
    (hresult : state.report.result = .stopFailed) : supervisor.Reported state.report history :=
  ⟨fun h => absurd hresult h, fun _ => ⟨child, h.workers⟩, fun h => absurd (hresult.symm.trans h) nofun⟩

lemma Settled.reported {state' : Supervision} {after : List SupervisorEvent}
    (h : Settled n state state' after) (hstop : state.report.result ≠ .stopFailed)
    (hrecovered : state.report.result ≠ .recovered) :
    supervisor.Reported state'.report after := by
  rcases h with ⟨hstanding, hresult⟩ | ⟨child, hstanding, hresult⟩
  · have hcounted := hstanding.reaped.trans hstanding.counted.symm
    exact ⟨fun _ => ⟨hstanding.workers, hcounted⟩, fun h => absurd (hresult.symm.trans h) hstop,
      fun h => absurd (hresult.symm.trans h) hrecovered⟩
  · exact hstanding.stuck hresult

/-- Journal calls leave the workers and the lock. -/
lemma Standing.journal (h : Standing live n state history) (run : List JournalEvent) :
    Standing live n state (history ++ run.map journalEvent) := by
  have hidle : ∀ e ∈ run.map journalEvent, e.1.isIdle = true := by
    intro e he
    obtain ⟨e', -, rfl⟩ := List.mem_map.mp he
    rfl
  refine ⟨⟨List.mem_append_left _ h.held.1, List.forall_mem_append.mpr ⟨h.held.2, ?_⟩⟩,
    (unreaped_idle _ hidle).trans h.workers, (forks_idle _ hidle).trans h.counted, h.reaped⟩
  intro e he heq
  obtain ⟨e', -, rfl⟩ := List.mem_map.mp he
  cases heq

lemma RecoveryVerified.append {xs : List SupervisorEvent} (h : supervisor.RecoveryVerified xs)
    (ys : List SupervisorEvent) : supervisor.RecoveryVerified (xs ++ ys) := by
  obtain ⟨before, after, rfl, hexited, hverified⟩ := h
  exact ⟨before, after ++ ys, by simp, hexited, hverified.append ys⟩

/-- The marker may be removed once the recovery was verified. -/
lemma controlIntentClearVerified_removes (h : Standing [] n state history)
    (hverified : supervisor.RecoveryVerified history) :
    Holds (supervisor.CallGuard recovering) history state supervisor.controlIntentClearVerified
      fun cleared state' after => Standing [] n state' after ∧
        state'.report = state.report ∧ (cleared = true → supervisor.RecoveredBy after) := by
  refine (holds_onLease (P := fun _ => True) (fun _ => calls_of_forall (fun _ => trivial) _)
    fun run c answer _ => ?_).mono fun cleared state' after hcleared => ?_
  · have hjournal := h.journal run
    cases c with
    | createMarker => exact hjournal.held
    | unlinkMarker => exact ⟨hjournal.held, hjournal.workers, hverified.append _⟩
    | _ => trivial
  · obtain ⟨run, lease, hgives, rfl, rfl⟩ := hcleared
    refine ⟨(h.journal run).counts rfl, rfl, fun h => ?_⟩
    rw [h] at hgives
    exact ⟨history, run.map journalEvent, rfl, hverified, [], run, [], state.lease, lease, by simp,
      hgives⟩

/-- The part of a recovery after its worker exited reports it only when it was verified. -/
lemma verifyRecovery_reports (h : Standing [] n state history) (hn : n ≤ 2)
    (hexited : RecoveryExited history) (hlease : state.lease.state = .recoveryRequired) :
    Holds (supervisor.CallGuard true) history state supervisor.verifyRecovery
      fun _ state' after => supervisor.Reported state'.report after := by
  refine Holds.modify_bind ?_
  have hstart : Standing [] n (state.setResult .observationFailed) history := h.counts rfl
  refine (observeOwned_observed false hstart hn (fun _ => hexited) fun _ => hlease).bind ?_
  intro verified state₁ after₁ hobserved
  refine (hobserved.quiet quiet_parentCheck).bind fun _ state₂ after₂ hchecked => ?_
  obtain ⟨⟨m, -, hsettled, hstanding⟩, rest, rfl, hverified⟩ := hchecked
  refine Holds.ite (fun _ => .modify (hsettled.reported nofun nofun)) fun h => ?_
  rw [Bool.not_eq_true, Bool.not_eq_false'] at h
  refine (controlIntentClearVerified_removes (hstanding h)
    ⟨history, rest, rfl, hexited, hverified h⟩).bind fun cleared state₃ after₃ hcleared => ?_
  obtain ⟨hstood, hreport, hrecovered⟩ := hcleared
  have hcounted := hstood.reaped.trans hstood.counted.symm
  refine Holds.ite (fun hdone => .modify ?_) fun _ => .modify ?_
  · exact ⟨fun _ => ⟨hstood.workers, hcounted⟩, nofun, fun _ => hrecovered hdone⟩
  · rcases hsettled with ⟨-, hresult⟩ | ⟨child, hstuck, -⟩
    · exact Settled.reported (.inl ⟨hstood.counts rfl, (congrArg _ hreport).trans hresult⟩)
        nofun nofun
    · exact absurd (hstuck.workers.symm.trans (hstanding h).workers) (by simp)

/-- A recovery forks its observer only once its worker exited. -/
lemma recoverOwned_reports (h : Standing [] n state history) (hn : n ≤ 1)
    (hlease : state.lease.state = .recoveryRequired) :
    Holds (supervisor.CallGuard true) history state supervisor.recoverOwned
      fun _ state' after => supervisor.Reported state'.report after := by
  refine Holds.modify_bind ?_
  have hstart : Kept True [] n (state.setResult .recoveryFailed) history
      (state.setResult .recoveryFailed) history := .refl (h.counts rfl)
  refine (hstart.quiet (quiet_deadlineFor _)).bind fun deadline state₁ after₁ hdeadline => ?_
  cases deadline with
  | none => exact .pure (Settled.reported (.inl ⟨hdeadline.standing, hdeadline.result⟩) nofun nofun)
  | some deadline =>
    have hkind : supervisor.KindGuard true after₁ .recovery := rfl
    refine (spawnWorker_keeps True hdeadline.standing hkind).bind ?_
    rintro ⟨child, connection⟩ state₂ after₂ hspawned
    refine Holds.modify_bind ?_
    have hnoted := (hdeadline.spawned hspawned).setPid .recovery child
    rcases hnoted with ⟨hchild, hkept⟩ | ⟨hchild, early, e, -, hforked, hkept⟩
    · exact Holds.ite (fun _ => .pure (Settled.reported (.inl ⟨hkept.standing, hkept.result⟩)
        nofun nofun)) fun h => absurd hchild h
    · refine Holds.ite (fun h => absurd hchild (by simpa using h)) fun _ => ?_
      refine (waitPhase_keeps hkept (by omega)).extends.bind ?_
      rintro ⟨stopped, exit⟩ state₃ after₃ ⟨⟨hwaited, hreaped⟩, -⟩
      refine (hwaited.quiet (quiet_closeConnection _)).extends.bind ?_
      rintro ⟨⟩ state₄ after₄ ⟨hclosed, more, rfl⟩
      cases stopped with
      | false =>
        have hstuck : Standing [child] (n + 1) (state₄.setResult .stopFailed) _ :=
          hclosed.standing.counts rfl
        exact .modify (hstuck.stuck rfl)
      | true =>
        refine Holds.ite (fun h => absurd h (by decide)) fun _ => ?_
        refine Holds.ite (fun _ => .pure (Settled.reported (.inl ⟨hclosed.standing,
          hclosed.result⟩) nofun nofun)) fun hexit => ?_
        obtain ⟨middle, ⟨between, rfl, -⟩, rfl⟩ := hreaped (not_not.mp hexit)
        refine verifyRecovery_reports hclosed.standing (by omega) ?_ ?_
        · exact ⟨early, e, between ++ [⟨.waitpid child, .reaped (.exited 0)⟩] ++ more, child, by simp,
            hforked, by simp⟩
        · rw [hclosed.lease trivial]
          exact hlease

/-- The operation's phase forks at most its worker, and reaps it unless it cannot be stopped. -/
lemma operateOwned_keeps {deadline : UInt64} (h : Standing [] n state history) (hn : n ≤ 2)
    (hkind : supervisor.KindGuard recovering history .operation) :
    Holds (supervisor.CallGuard recovering) history state (supervisor.operateOwned deadline)
      fun stopped state' after => state'.lease = state.lease ∧ ∃ m ≤ n + 1, ∃ child,
        Standing (liveUnless child stopped) m state' after := by
  refine (spawnWorker_keeps True h hkind).bind ?_
  rintro ⟨child, connection⟩ state₁ after₁ hspawned
  refine Holds.modify_bind ?_
  have hnoted := hspawned.setPid .operation child
  rcases hnoted with ⟨hchild, hkept⟩ | ⟨hchild, early, e, -, -, hkept⟩
  · refine Holds.ite (fun _ => ?_) fun h => absurd hchild h
    refine (hkept.quiet (quiet_closeConnection _)).bind fun _ _ _ hclosed => ?_
    exact .pure ⟨hclosed.lease trivial, n, by omega, child, hclosed.standing⟩
  · refine Holds.ite (fun h => absurd hchild (by simpa using h)) fun _ => ?_
    refine (waitPhase_keeps hkept (by omega)).bind ?_
    rintro ⟨stopped, exit⟩ state₃ after₃ ⟨hwaited, -⟩
    refine Holds.modify_bind ?_
    have hset : Kept True (liveUnless child stopped) (n + 1) state _
      (state₃.setOperation exit) after₃ := ⟨hwaited.grows, hwaited.standing.counts rfl, hwaited.result, hwaited.lease⟩
    refine (hset.quiet (quiet_closeConnection _)).bind fun _ _ _ hclosed => ?_
    exact .pure ⟨hclosed.lease trivial, n + 1, le_rfl, child, hclosed.standing⟩

/-- Marking the write succeeds only for the owner of a held lease. -/
lemma markWritePending_holds {owner : UInt64} (h : Standing [] n state history) :
    Holds (supervisor.CallGuard recovering) history state (markWritePending owner)
      fun marked state' after => Grows history after ∧ Standing [] n state' after ∧
        state'.report = state.report ∧ (marked = true →
          state'.lease.state = .held ∧ owner ≠ 0 ∧ owner = state'.lease.owner) := by
  refine Holds.ask_bind fun now => ⟨trivial, Holds.get_bind (Holds.modify_bind (.pure ?_))⟩
  have hstanding : Standing [] n (state.onLease fun _ =>
      (state.lease.markWritePending owner now .pending).2) (history ++ [⟨.nowNs, now⟩]) :=
    (h.event rfl rfl).counts rfl
  refine ⟨.event rfl, hstanding, rfl, fun hmarked => ?_⟩
  change (state.lease.markWritePending owner now .pending).2.state = .held ∧ owner ≠ 0 ∧
    owner = (state.lease.markWritePending owner now .pending).2.owner
  unfold ControlLease.markWritePending at hmarked ⊢
  split_ifs at hmarked ⊢ with hheld
  simp only [not_or, not_not] at hheld
  exact hheld

/-- An owner's loss of a held lease requires its recovery. -/
lemma ownerLost_requires {lease : ControlLease} {owner : UInt64}
    (h : lease.state = .held ∧ owner ≠ 0 ∧ owner = lease.owner) :
    (lease.ownerLost owner).state = .recoveryRequired := by
  rw [ControlLease.ownerLost, if_pos h]
  rfl

/-- The marker is saved before any worker is forked. -/
lemma controlIntentMarkPending_marks (h : Standing [] n state history)
    (hfresh : ∀ e ∈ history, e.1.isIdle = true ∧ e.1 ≠ .journal .unlinkMarker) :
    Holds (supervisor.CallGuard recovering) history state supervisor.controlIntentMarkPending
      fun marked state' after => Standing [] n state' after ∧ state'.report = state.report ∧
        (marked = true → supervisor.MarkSaved after) ∧
        ∀ e ∈ after, e.1.isIdle = true ∧ e.1 ≠ .journal .unlinkMarker := by
  have honly := supervisor.journal.controlIntentMarkPending_only supervisor.fuel
  refine (holds_onLease honly fun run c answer hcall => ?_).mono fun marked state' after hmarked => ?_
  · cases c with
    | createMarker => exact (h.journal run).held
    | unlinkMarker => exact absurd rfl hcall
    | _ => trivial
  · obtain ⟨run, lease, hgives, rfl, rfl⟩ := hmarked
    refine ⟨(h.journal run).counts rfl, rfl, fun h => ?_, List.forall_mem_append.mpr ⟨hfresh, ?_⟩⟩
    · rw [h] at hgives
      exact ⟨history, run, [], state.lease, lease, by simp, hgives⟩
    · intro e he
      obtain ⟨e', he', rfl⟩ := List.mem_map.mp he
      refine ⟨rfl, fun heq => honly.gives hgives e' he' ?_⟩
      exact SupervisorCall.journal.inj heq

/-- A run marks before it operates, and recovers after it did. -/
lemma runOwned_reports (h : Standing [] 0 state history)
    (hfresh : ∀ e ∈ history, e.1.isIdle = true ∧ e.1 ≠ .journal .unlinkMarker)
    (hblocked : state.report.result = .blocked) :
    Holds (supervisor.CallGuard true) history state supervisor.runOwned
      fun _ state' after => supervisor.Reported state'.report after := by
  have hunworked : ∀ {state' : Supervision} {after : List SupervisorEvent}, Standing [] 0 state' after →
      state'.report = state.report → supervisor.Reported state'.report after :=
    fun hstanding hreport =>
      have hsettled : Settled 0 state _ _ := .inl ⟨hstanding, by rw [hreport]⟩
      hsettled.reported (by rw [hblocked]; nofun) (by rw [hblocked]; nofun)
  refine Holds.get_bind ?_
  refine (quiet_parentCheck _ history state fun _ _ => callGuard_of_quiet).bind ?_
  rintro ⟨⟩ state₁ after₁ ⟨rfl, more, rfl, hmore⟩
  have hchecked := h.quiet hmore
  have hfresh₁ : ∀ e ∈ history ++ more, e.1.isIdle = true ∧ e.1 ≠ .journal .unlinkMarker :=
    List.forall_mem_append.mpr ⟨hfresh, fun e he => ⟨isIdle_of_quiet (hmore e he), fun heq => by
      have hquiet := hmore e he
      rw [heq] at hquiet
      cases hquiet⟩⟩
  refine (controlIntentMarkPending_marks hchecked hfresh₁).bind ?_
  rintro marked state₂ after₂ ⟨hmarked, hreport₂, hsaved, hfresh₂⟩
  refine Holds.ite (fun _ => .modify (hunworked (hmarked.counts rfl) hreport₂)) fun hdone => ?_
  rw [Bool.not_eq_true, Bool.not_eq_false'] at hdone
  refine (markWritePending_holds hmarked).bind ?_
  rintro written state₃ after₃ ⟨hgrows, hwritten, hreport₃, howner⟩
  refine Holds.ite (fun _ => .modify (hunworked (hwritten.counts rfl) (hreport₃.trans hreport₂)))
    fun hpending => ?_
  rw [Bool.not_eq_true, Bool.not_eq_false'] at hpending
  have hstart : Kept True [] 0 state₃ after₃ state₃ after₃ := .refl hwritten
  refine (hstart.quiet (quiet_deadlineFor _)).bind fun deadline state₄ after₄ hdeadline => ?_
  have hheld := howner hpending
  rw [← hdeadline.lease trivial] at hheld
  cases deadline with
  | none =>
    exact Holds.modify_bind (recoverOwned_reports (hdeadline.standing.counts rfl) (by omega)
      (ownerLost_requires hheld))
  | some deadline =>
    refine Holds.get_bind ?_
    have hkind : supervisor.KindGuard true after₂ .operation := by
      refine ⟨rfl, hsaved hdone, fun e he => (hfresh₂ e he).2, ?_⟩
      rintro e he child ⟨worker, answer, rfl, -⟩
      cases (hfresh₂ _ he).1
    refine (operateOwned_keeps hdeadline.standing (by omega)
      (hkind.grows (hgrows.trans hdeadline.grows))).bind ?_
    rintro stopped state₅ after₅ ⟨hlease, m, hm, child, hstood⟩
    rw [← hlease] at hheld
    refine Holds.modify_bind ?_
    cases stopped with
    | false =>
      exact .modify ⟨fun h => absurd rfl h, fun _ => ⟨child, hstood.workers⟩, nofun⟩
    | true => exact recoverOwned_reports (hstood.counts rfl) hm (ownerLost_requires hheld)

end WorkerSupervisor
end Ventilator
