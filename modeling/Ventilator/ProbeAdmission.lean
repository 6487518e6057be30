import Ventilator.CallTreeGuards
import Ventilator.SupervisorMarker
import Ventilator.SupervisorProbe

/-! What the runner's calls follow: an operation is forked only after a verified admission, and
the cleanup removes the state of a supervisor that is done. -/
namespace Ventilator
open CallTree TraceGuard

/-- The launch lock was taken and is not closed. -/
def LaunchHeld (trace : List ProbeEvent) : Prop :=
  ⟨.flockLaunch, true⟩ ∈ trace ∧ ∀ e ∈ trace, e.1 ≠ .closeLaunch

/-- The file was removed, or was not there. -/
def Gone (file : ProbeFile) (trace : List ProbeEvent) : Prop :=
  ⟨.unlinkFile file, .ok ()⟩ ∈ trace ∨ ⟨.unlinkFile file, .error .noEntry⟩ ∈ trace

namespace SupervisorProbe
open ProbeM

variable (probe : SupervisorProbe)

/-- An admission observed a whole baseline, and its lease was claimed with the intent clear. -/
def Claimed (directory : Int32) (trace : List ProbeEvent) : Prop :=
  ∃ early admission claiming state state' report pid now,
    trace = early ++ admission.map supervised ++ claiming ∧
    Gives (probe.supervisor directory).observeBaseline.run state admission (some report) state' ∧
    report.result = .baselineReady ∧ (probe.supervisor directory).ObserverVerified admission ∧
    ⟨.getpid, pid⟩ ∈ claiming ∧ ⟨.supervisor .nowNs, now⟩ ∈ claiming ∧
    (state'.lease.claim pid.val.toInt64.toUInt64 now true .clear .ok state'.latest).1 = true

/-- After a claim only the supervisor ran, and saved the marker of its run. -/
def Admitted (directory : Int32) (trace : List ProbeEvent) : Prop :=
  ∃ early late, trace = early ++ late.map supervised ∧ probe.Claimed directory early ∧
    (probe.supervisor directory).MarkSaved late

/-- The supervisor's lock was acquired with the intent clear and no old worker. -/
def Owned (directory : Int32) (trace : List ProbeEvent) : Prop :=
  ∃ early owning removing state state', trace = early ++ owning.map supervised ++ removing ∧
    Gives ((probe.supervisor directory).supervisorOwnershipAcquire false).run state owning
      (some true) state' ∧
    LockHeld owning ∧ ∀ e ∈ removing, e.1 ≠ .supervisor (.closeFile .lock)

/-- The files were removed by the owner of the directory and its removal was synced. -/
def Emptied (directory : Int32) (trace : List ProbeEvent) : Prop :=
  ∃ early late, trace = early ++ ⟨.supervisor (.journal .fsyncDirectory), true⟩ :: late ∧
    probe.Owned directory early ∧ ∀ file, Gone file early

/-- When each call of the runner may come. -/
def CallGuard (mode : SupervisorProbeMode) (before : List ProbeEvent) : ProbeEvent → Prop
  | ⟨.supervisor (.fork worker), _⟩ => LaunchHeld before ∧ mode ≠ .cleanup ∧
      (worker.kind = .operation → mode ≠ .resume ∧ ∃ directory, probe.Admitted directory before)
  | ⟨.unlinkFile _, _⟩ =>
      LaunchHeld before ∧ mode = .cleanup ∧ ∃ directory, probe.Owned directory before
  | ⟨.unlinkLaunch, _⟩ =>
      LaunchHeld before ∧ mode = .cleanup ∧ ∃ directory, probe.Emptied directory before
  | ⟨.removeDirectory, _⟩ => LaunchHeld before ∧ mode = .cleanup ∧
      ⟨.unlinkLaunch, true⟩ ∈ before ∧ ∃ directory, probe.Emptied directory before
  | _ => True

end SupervisorProbe

/-- The calls that are allowed anywhere and leave the locks. -/
def ProbeCall.isPlain : ProbeCall → Bool
  | supervisor _ => false
  | flockLaunch => false
  | closeLaunch => false
  | unlinkFile _ => false
  | unlinkLaunch => false
  | removeDirectory => false
  | _ => true

section LaunchHeld

variable {before : List ProbeEvent}

lemma LaunchHeld.plain {more : List ProbeEvent} (h : LaunchHeld before)
    (hmore : ∀ e ∈ more, e.1.isPlain = true) : LaunchHeld (before ++ more) := by
  refine ⟨List.mem_append_left _ h.1, List.forall_mem_append.mpr ⟨h.2, ?_⟩⟩
  rintro ⟨c, answer⟩ he rfl
  cases hmore _ he

lemma LaunchHeld.supervised (h : LaunchHeld before) (run : List SupervisorEvent) :
    LaunchHeld (before ++ run.map supervised) := by
  refine ⟨List.mem_append_left _ h.1, List.forall_mem_append.mpr ⟨h.2, ?_⟩⟩
  intro e he heq
  obtain ⟨e', -, rfl⟩ := List.mem_map.mp he
  cases heq

lemma LaunchHeld.event {e : ProbeEvent} (h : LaunchHeld before) (he : e.1 ≠ .closeLaunch) :
    LaunchHeld (before ++ [e]) :=
  ⟨List.mem_append_left _ h.1, List.forall_mem_append.mpr ⟨h.2, by simpa using he⟩⟩

end LaunchHeld

lemma Gone.append {file : ProbeFile} {trace : List ProbeEvent} (h : Gone file trace)
    (more : List ProbeEvent) : Gone file (trace ++ more) :=
  h.imp (List.mem_append_left _) (List.mem_append_left _)

def SupervisorCall.operates : SupervisorCall → Bool
  | fork worker => decide (worker.kind = .operation)
  | _ => false

lemma operates_of_idle {c : SupervisorCall} (h : c.isIdle = true) : c.operates = false := by
  cases c with
  | fork worker => cases h
  | _ => rfl

namespace SupervisorProbe
open ProbeM

/-- The programs that make plain calls only. -/
abbrev Plain {α : Type} (m : ProbeM α) : Prop := Silent (fun c => c.isPlain = true) m

variable {probe : SupervisorProbe} {mode : SupervisorProbeMode} {before : List ProbeEvent}
  {state : Supervision} {directory : Int32}

lemma callGuard_of_plain {e : ProbeEvent} (h : e.1.isPlain = true) :
    probe.CallGuard mode before e := by
  obtain ⟨c, answer⟩ := e
  cases c with
  | supervisor c => cases h
  | unlinkFile file => cases h
  | unlinkLaunch => cases h
  | removeDirectory => cases h
  | _ => trivial

lemma callGuard_supervised {e : SupervisorEvent} (h : ∀ worker, e.1 ≠ .fork worker) :
    probe.CallGuard mode before (supervised e) := by
  obtain ⟨c, answer⟩ := e
  cases c with
  | fork worker => exact absurd rfl (h worker)
  | _ => trivial

/-- A program of the supervisor makes the supervisor's calls. -/
lemma meets_supervised {α : Type} (state : Supervision) {guard : List ProbeEvent → ProbeEvent → Prop}
    {inner : List SupervisorEvent → SupervisorEvent → Prop}
    {t : CallTree SupervisorCall SupervisorCall.Answer α} {run : List SupervisorEvent}
    {post : α → List SupervisorEvent → Prop} (ht : Meets inner run t post)
    (hguard : ∀ run e, inner run e → guard (before ++ run.map supervised) (supervised e)) :
    Meets guard (before ++ run.map supervised)
      ((handle (fun c => ask (ProbeCall.supervisor c)) t :
        StateT Supervision (CallTree ProbeCall ProbeCall.Answer) α).run state) fun r after =>
      r.2 = state ∧ ∃ later, Ends t later r.1 ∧ after = before ++ (run ++ later).map supervised ∧
        post r.1 (run ++ later) := by
  induction t generalizing run with
  | done a =>
    refine ⟨rfl, [], .refl _, by simp, ?_⟩
    rw [List.append_nil]
    exact ht
  | call c next ih =>
    intro answer
    refine ⟨hguard run ⟨c, answer⟩ (ht answer).1, ?_⟩
    have hnext := ih answer (ht answer).2
    rw [List.map_append, ← List.append_assoc] at hnext
    refine Meets.mono hnext ?_
    rintro r after ⟨hstate, later, hends, rfl, hpost⟩
    refine ⟨hstate, ⟨c, answer⟩ :: later, ends_call.mpr ⟨answer, later, rfl, hends⟩, ?_, ?_⟩
    · rw [List.append_assoc, List.singleton_append]
    · simpa using hpost

/-- A program of the supervisor that keeps to its own guard, run by the runner. -/
lemma holds_supervise {α : Type} {guard : List ProbeEvent → ProbeEvent → Prop}
    {inner : List SupervisorEvent → SupervisorEvent → Prop} {m : SupervisorM α}
    {post : α → Supervision → List SupervisorEvent → Prop} (hm : Holds inner [] state m post)
    (hguard : ∀ run e, inner run e → guard (before ++ run.map supervised) (supervised e)) :
    Holds guard before state (supervise m) fun a state' after => ∃ run,
      Gives m.run state run (some a) state' ∧ after = before ++ run.map supervised ∧
        post a state' run := by
  have hrun := meets_supervised state hm hguard
  rw [List.map_nil, List.append_nil] at hrun
  refine hrun.bind fun r after hr a ha => ?_
  obtain ⟨⟨result, state'⟩, state₁⟩ := r
  obtain ⟨rfl, run, hends, rfl, hpost⟩ := hr
  obtain rfl : result = some a := ha
  exact ⟨run, hends, rfl, hpost a rfl⟩

/-! The plain parts of the runner. -/

lemma plain_readLifetime : Plain probe.readLifetime := by
  refine (Silent.loop (fun _ _ => (Silent.ask (by rfl)).bind fun answer => ?_) _ _ _).bind
    fun out => ?_
  · match answer with
    | .ok byte => exact .pure _
    | .error .interrupted => exact .pure _
    | .error .noEntry => exact .pure _
    | .error .again => exact .pure _
    | .error .noProcess => exact .pure _
    | .error .other => exact .pure _
  · cases out with
    | inl answer => exact .pure _
    | inr u => exact .failure

lemma plain_supervisorRunnerLifetimeCheck : Plain probe.supervisorRunnerLifetimeCheck := by
  refine plain_readLifetime.bind fun answer => ?_
  cases answer with
  | ok byte => exact .failure
  | error errno => cases errno <;> first | exact .pure _ | exact .failure

lemma plain_supervisorRunnerLifetimeEnter : Plain probe.supervisorRunnerLifetimeEnter := by
  refine (Silent.ask (by rfl)).bind fun _ => .ite (fun _ => .pure _) fun _ =>
    (Silent.ask (by rfl)).bind fun _ => .ite (fun _ => .pure _) fun _ =>
      (Silent.ask (by rfl)).bind fun _ => .ite (fun _ => .pure _) fun _ =>
        plain_readLifetime.bind fun answer => ?_
  split
  · exact plain_supervisorRunnerLifetimeCheck.bind fun _ => .pure _
  · exact .pure _

lemma plain_supervisorProbeOpenDirectory : Plain supervisorProbeOpenDirectory := by
  refine (Silent.ask (by rfl)).bind fun _ => .ite (fun _ => .pure _) fun _ =>
    (Silent.ask (by rfl)).bind fun _ => .ite (fun _ => .pure _) fun _ =>
      (Silent.ask (by rfl)).bind fun _ => .ite (fun _ => .pure _) fun _ =>
        (Silent.ask (by rfl)).bind fun _ => .ite (fun _ => .pure _) fun _ =>
          (Silent.ask (by rfl)).bind fun opened => ?_
  cases opened with
  | none => exact .pure _
  | some directory =>
    exact (Silent.ask (by rfl)).bind fun _ => .ite (fun _ => .pure _) fun _ =>
      (Silent.ask (by rfl)).bind fun _ => .pure _

/-- A plain program leaves the runner's memory and its locks. -/
lemma Plain.holds {α : Type} {m : ProbeM α} (hm : Plain m) :
    Holds (probe.CallGuard mode) before state m fun _ state' after =>
      state' = state ∧ ∃ more, after = before ++ more ∧ ∀ e ∈ more, e.1.isPlain = true :=
  hm _ before state fun _ _ h => callGuard_of_plain h

/-- The launch lock is returned only when it was taken. -/
lemma supervisorProbeLock_holds (hopen : ∀ e ∈ before, e.1 ≠ .closeLaunch) :
    Holds (probe.CallGuard mode) before state supervisorProbeLock
      fun locked state' after => state' = state ∧ (locked = true → LaunchHeld after) := by
  refine Holds.ask_bind fun info => ⟨trivial, ?_⟩
  refine Holds.ite (fun _ => .pure ⟨rfl, nofun⟩) fun _ => Holds.ask_bind fun opened => ⟨trivial, ?_⟩
  refine Holds.ite (fun _ => .pure ⟨rfl, nofun⟩) fun _ => ?_
  have howns : Holds (probe.CallGuard mode)
      (before ++ [⟨.fstatDirectory, info⟩] ++ [⟨.openLaunch, opened⟩]) state ownLaunch
      fun owned state' after => state' = state ∧ (owned = true → LaunchHeld after) := by
    refine Holds.ask_bind fun answer => ⟨trivial, ?_⟩
    cases answer with
    | none => exact .pure ⟨rfl, nofun⟩
    | some file =>
      refine Holds.ite (fun _ => .pure ⟨rfl, nofun⟩) fun _ => Holds.ask_bind fun locked =>
        ⟨trivial, Holds.ite (fun _ => .pure ⟨rfl, nofun⟩) fun hlocked => ?_⟩
      rw [Bool.not_eq_true, Bool.not_eq_false'] at hlocked
      refine Holds.ask_bind fun named => ⟨trivial, .pure ⟨rfl, fun _ => ⟨by simp [hlocked], ?_⟩⟩⟩
      simpa [or_imp, forall_and] using hopen
  refine howns.bind ?_
  rintro owned state₁ after₁ ⟨rfl, howned⟩
  refine Holds.ite (fun h => .pure ⟨rfl, fun _ => howned h⟩) fun _ => ?_
  exact Holds.ask_bind fun _ => ⟨trivial, .pure ⟨rfl, nofun⟩⟩

/-! The cleanup. -/

lemma Owned.event {trace : List ProbeEvent} {e : ProbeEvent} (h : probe.Owned directory trace)
    (he : e.1 ≠ .supervisor (.closeFile .lock)) : probe.Owned directory (trace ++ [e]) := by
  obtain ⟨early, owning, removing, s, s', rfl, hgives, hheld, hopen⟩ := h
  exact ⟨early, owning, removing ++ [e], s, s', by simp, hgives, hheld,
    List.forall_mem_append.mpr ⟨hopen, by simpa using he⟩⟩

lemma Emptied.append {trace : List ProbeEvent} (h : probe.Emptied directory trace)
    (more : List ProbeEvent) : probe.Emptied directory (trace ++ more) := by
  obtain ⟨early, late, rfl, hrest⟩ := h
  exact ⟨early, late ++ more, by simp, hrest⟩

/-- The files are removed while the directory is owned, and gone when the loop says so. -/
lemma removeFiles_holds (files : List ProbeFile) (hheld : LaunchHeld before)
    (howned : probe.Owned directory before) :
    Holds (probe.CallGuard .cleanup) before state (removeFiles files) fun removed state' after =>
      state' = state ∧ LaunchHeld after ∧ probe.Owned directory after ∧ ∃ more,
        after = before ++ more ∧ (removed = true → ∀ file ∈ files, Gone file more) := by
  induction files generalizing before with
  | nil => exact .pure ⟨rfl, hheld, howned, [], by simp, by simp⟩
  | cons file files ih =>
    refine Holds.ask_bind fun answer => ⟨⟨hheld, rfl, directory, howned⟩, ?_⟩
    have hrest : ∀ gone : Bool, (gone = true → Gone file [⟨.unlinkFile file, answer⟩]) →
        Holds (probe.CallGuard .cleanup) (before ++ [⟨.unlinkFile file, answer⟩]) state
          (do
            let others ← removeFiles files
            pure (gone && others)) fun removed state' after =>
          state' = state ∧ LaunchHeld after ∧ probe.Owned directory after ∧ ∃ more,
            after = before ++ more ∧ (removed = true → ∀ file' ∈ file :: files, Gone file' more) := by
      intro gone hgone
      have hnext := hheld.event (e := ⟨.unlinkFile file, answer⟩) nofun
      have hstill := howned.event (e := ⟨.unlinkFile file, answer⟩) nofun
      refine (ih hnext hstill).bind ?_
      rintro others state₁ after₁ ⟨rfl, hheld₁, howned₁, more, rfl, hothers⟩
      refine .pure ⟨rfl, hheld₁, howned₁, ⟨.unlinkFile file, answer⟩ :: more, by simp, ?_⟩
      intro h file' hfile
      rw [Bool.and_eq_true] at h
      rcases List.mem_cons.mp hfile with rfl | hfile
      · exact (hgone h.1).append more
      · exact (hothers h.2 file' hfile).imp (List.mem_cons_of_mem _) (List.mem_cons_of_mem _)
    cases answer with
    | ok u => exact hrest true fun _ => .inl (List.mem_singleton_self _)
    | error errno =>
      refine hrest _ fun h => .inr ?_
      rw [of_decide_eq_true h]
      exact List.mem_singleton_self _

lemma mem_cleanupFiles (file : ProbeFile) : file ∈ cleanupFiles := by
  cases file <;> decide

/-- The programs of the supervisor that fork and reap nothing. -/
abbrev Idle {α : Type} (m : SupervisorM α) : Prop := Silent (fun c => c.isIdle = true) m

lemma Idle.of_quiet {α : Type} {m : SupervisorM α} (h : WorkerSupervisor.Quiet m) : Idle m :=
  h.mono fun _ => isIdle_of_quiet

lemma idle_closeLock : Idle WorkerSupervisor.closeLock :=
  (Silent.ask (by rfl)).bind fun _ => .pure _

lemma idle_ownLock {supervisor : WorkerSupervisor} (pending : Bool) :
    Idle (supervisor.ownLock pending) :=
  (Idle.of_quiet (WorkerSupervisor.quiet_privateFile _)).bind fun _ => .ite (fun _ => .pure _)
    fun _ => (Silent.ask (by rfl)).bind fun _ => .ite (fun _ => .pure _) fun _ =>
      (Idle.of_quiet WorkerSupervisor.quiet_controlIntentRead).bind fun _ =>
        .ite (fun _ => .pure _) fun _ =>
          (Idle.of_quiet (WorkerSupervisor.quiet_oldWorkerAbsent _)).bind fun _ =>
            .ite (fun _ => .pure _) fun _ => (Silent.ask (by rfl)).bind fun _ =>
              .ite (fun _ => .pure _) fun _ => (Silent.ask (by rfl)).bind fun _ =>
                .ite (fun _ => .pure _) fun _ =>
                  Idle.of_quiet (WorkerSupervisor.quiet_supervisorOwnershipRecord _)

lemma idle_supervisorOwnershipAcquire {supervisor : WorkerSupervisor} (pending : Bool) :
    Idle (supervisor.supervisorOwnershipAcquire pending) := by
  refine (Idle.of_quiet WorkerSupervisor.quiet_privateDirectory).bind fun _ =>
    .ite (fun _ => .pure _) fun _ => (Silent.ask (by rfl)).bind fun opened => ?_
  cases opened with
  | error errno => exact .pure _
  | ok u =>
    exact (idle_ownLock pending).bind fun _ => .ite (fun _ => .pure _) fun _ =>
      idle_closeLock.bind fun _ => .pure _

/-- A program that forks nothing, run by the runner. -/
lemma Idle.holds {α : Type} {m : SupervisorM α} (hm : Idle m) :
    Holds (probe.CallGuard mode) before state (supervise m) fun a state' after =>
      state' = state ∧ ∃ run, Gives m.run state run (some a) state ∧
        after = before ++ run.map supervised := by
  have hinner := hm (fun _ e => ∀ worker, e.1 ≠ .fork worker) [] state fun _ e he worker heq => by
    rw [heq] at he
    cases he
  refine (holds_supervise hinner fun _ _ h => callGuard_supervised h).mono ?_
  rintro a state' after ⟨run, hgives, rfl, rfl, -⟩
  exact ⟨rfl, run, hgives, rfl⟩

/-- The lock that was acquired is held. -/
lemma lockHeld_of_acquired {supervisor : WorkerSupervisor} {pending : Bool}
    {run : List SupervisorEvent} {state' : Supervision}
    (h : Gives (supervisor.supervisorOwnershipAcquire pending).run state run (some true) state') :
    LockHeld run := by
  have hnone : ∀ e ∈ ([] : List SupervisorEvent), e.1.isQuiet = true := by simp
  have htakes : Holds (supervisor.CallGuard false) [] state
      (supervisor.supervisorOwnershipAcquire pending) fun acquired after' after =>
        after' = state ∧ WorkerSupervisor.Unworked after ∧ (acquired = true → LockHeld after) :=
    WorkerSupervisor.supervisorOwnershipAcquire_takes hnone
  exact (htakes.gives h).2.2 rfl

lemma supervisorProbeCleanup_holds (hheld : LaunchHeld before) :
    Holds (probe.CallGuard .cleanup) before state (probe.supervisorProbeCleanup directory)
      fun cleaned _ after => LaunchHeld after ∧ (cleaned = true → probe.Emptied directory after) := by
  refine (idle_supervisorOwnershipAcquire false).holds.bind ?_
  rintro acquired state₁ after₁ ⟨rfl, owning, hgives, rfl⟩
  have hheld₁ := hheld.supervised owning
  refine Holds.ite (fun _ => .pure ⟨hheld₁, nofun⟩) fun hacquired => ?_
  rw [Bool.not_eq_true, Bool.not_eq_false'] at hacquired
  rw [hacquired] at hgives
  have howned : probe.Owned directory (before ++ owning.map supervised) :=
    ⟨before, owning, [], _, _, by simp, hgives, lockHeld_of_acquired hgives, by simp⟩
  refine (removeFiles_holds cleanupFiles hheld₁ howned).bind ?_
  rintro removed state₂ after₂ ⟨rfl, hheld₂, howned₂, more, rfl, hgone⟩
  refine Holds.ask_bind fun synced => ⟨trivial, ?_⟩
  refine idle_closeLock.holds.bind ?_
  rintro ⟨⟩ state₃ after₃ ⟨rfl, run, -, rfl⟩
  have hnext := hheld₂.event (e := ⟨.supervisor (.journal .fsyncDirectory), synced⟩) nofun
  refine .pure ⟨hnext.supervised run, fun h => ?_⟩
  rw [Bool.and_eq_true] at h
  refine ⟨_, run.map supervised, by rw [h.2, List.append_assoc, List.singleton_append], howned₂,
    fun file => ?_⟩
  exact (hgone h.1 file (mem_cleanupFiles file)).imp (List.mem_append_right _)
    (List.mem_append_right _)

lemma removeState_holds (hheld : LaunchHeld before) :
    Holds (probe.CallGuard .cleanup) before state (probe.removeState directory)
      fun _ _ _ => True := by
  refine (supervisorProbeCleanup_holds hheld).bind ?_
  rintro cleaned state₁ after₁ ⟨hheld₁, hemptied⟩
  refine Holds.ite (fun hcleaned => ?_) fun _ => .pure trivial
  refine Holds.ask_bind fun unlinked => ⟨⟨hheld₁, rfl, directory, hemptied hcleaned⟩, ?_⟩
  refine Holds.ite (fun _ => .pure trivial) fun hunlinked => ?_
  rw [Bool.not_eq_true, Bool.not_eq_false'] at hunlinked
  have hnext := hheld₁.event (e := ⟨.unlinkLaunch, unlinked⟩) nofun
  refine .ask fun _ => ⟨⟨hnext, rfl, ?_, directory, (hemptied hcleaned).append _⟩, trivial⟩
  rw [hunlinked]
  simp

lemma cleanUp_holds (hheld : LaunchHeld before) :
    Holds (probe.CallGuard .cleanup) before state (probe.cleanUp directory) fun _ _ _ => True := by
  refine plain_supervisorRunnerLifetimeCheck.holds.bind ?_
  rintro ⟨⟩ state₁ after₁ ⟨rfl, more, rfl, hmore⟩
  refine (removeState_holds (hheld.plain hmore)).bind fun clean state₂ after₂ _ => ?_
  exact Holds.ask_bind fun _ => ⟨trivial, Holds.ask_bind fun _ => ⟨trivial, .pure trivial⟩⟩

/-! The admission and the run after it. -/

/-- A supervisor's fork, by the runner. -/
lemma callGuard_of_fork {recovering : Bool} {run : List SupervisorEvent} {e : SupervisorEvent}
    (hheld : LaunchHeld before) (hmode : mode ≠ .cleanup)
    (he : (probe.supervisor directory).CallGuard recovering run e)
    (hoperation : (probe.supervisor directory).KindGuard recovering run .operation →
      mode ≠ .resume ∧ probe.Admitted directory (before ++ run.map supervised)) :
    probe.CallGuard mode (before ++ run.map supervised) (supervised e) := by
  obtain ⟨c, answer⟩ := e
  cases c with
  | fork worker =>
    refine ⟨hheld.supervised run, hmode, fun hkind => ?_⟩
    have hguard := he.2.2
    rw [hkind] at hguard
    obtain ⟨hresume, hadmitted⟩ := hoperation hguard
    exact ⟨hresume, directory, hadmitted⟩
  | _ => trivial

/-- A baseline is ready only when an observer was verified. -/
lemma observeBaseline_verified {supervisor : WorkerSupervisor} (state : Supervision) :
    Holds (supervisor.CallGuard false) [] state supervisor.observeBaseline
      fun report _ after => report.result = .baselineReady → supervisor.ObserverVerified after := by
  have hstart : WorkerSupervisor.Untaken { state with report := .blocked } [] := ⟨rfl, by simp⟩
  have hfinish : ∀ {s : Supervision} {history}, WorkerSupervisor.Untaken s history →
      Holds (supervisor.CallGuard false) history s WorkerSupervisor.finish fun report _ after =>
        report.result = .baselineReady → supervisor.ObserverVerified after :=
    fun h => .get_bind (.pure fun hready => by rw [h.blocked] at hready; cases hready)
  refine Holds.modify_bind ((hstart.goes WorkerSupervisor.quiet_parentCheck).bind ?_)
  intro _ state₁ after₁ h₁
  refine (h₁.goes WorkerSupervisor.quiet_canSupervise).bind fun allowed state₂ after₂ h₂ => ?_
  refine Holds.ite (fun _ => hfinish h₂) fun _ => ?_
  refine (h₂.goes WorkerSupervisor.quiet_controlIntentRead).bind fun intent state₃ after₃ h₃ => ?_
  refine Holds.ite (fun _ => hfinish h₃) fun _ => ?_
  refine (WorkerSupervisor.supervisorOwnershipAcquire_takes h₃.quiet).bind ?_
  rintro acquired state₄ after₄ ⟨rfl, hunworked, hheld⟩
  refine Holds.ite (fun _ => .get_bind (.pure fun hready => ?_)) fun hacquired => ?_
  · rw [h₃.blocked] at hready
    cases hready
  rw [Bool.not_eq_true, Bool.not_eq_false'] at hacquired
  refine Holds.modify_bind (Holds.modify_bind ?_)
  have hreaped : state₄.report.reaped = 0 := by
    rw [h₃.blocked]
    rfl
  have hobserving : WorkerSupervisor.Standing [] 0 ((state₄.onLease fun _ =>
      ControlLease.zero).setResult .observationFailed) after₄ :=
    (hunworked.standing (hheld hacquired) hreaped).counts rfl
  have hkind : supervisor.KindGuard false after₄ .observer := nofun
  refine (WorkerSupervisor.observeOwned_observed true hobserving (by omega) hkind nofun).bind ?_
  rintro verified state₅ after₅ ⟨⟨m, -, hsettled, -⟩, rest, rfl, hverified⟩
  refine Holds.ite (fun h => Holds.modify_bind ?_) fun _ => Holds.modify_bind ?_
  · refine Holds.bind (Q := fun _ _ after => supervisor.ObserverVerified after) ?_ ?_
    · obtain ⟨before, e, between, run, after, child, launchedNs, deadline, receipts, rfl, hrest⟩ :=
        hverified h
      refine Holds.ask_bind fun closed => ⟨trivial, .pure ?_⟩
      exact ⟨after₄ ++ before, e, between, run, after ++ [⟨.closeFile .lock, closed⟩], child,
        launchedNs, deadline, receipts, by simp, hrest⟩
    · exact fun _ _ _ h => .get_bind (.pure fun _ => h)
  · refine Holds.bind (Q := fun _ s _ => s.report.result ≠ .baselineReady) ?_ ?_
    · refine Holds.ask_bind fun closed => ⟨trivial, .pure fun hready => ?_⟩
      rcases hsettled with ⟨-, hresult⟩ | ⟨child, -, hresult⟩
      · exact absurd (hresult.symm.trans hready) nofun
      · exact absurd (hresult.symm.trans hready) nofun
    · exact fun _ _ _ h => .get_bind (.pure fun hready => absurd hready h)

/-! A resumed recovery operates on nothing. -/

/-- No operation is forked. -/
abbrev recoverGuard : List SupervisorEvent → SupervisorEvent → Prop :=
  fun _ e => e.1.operates = false

/-- The programs of the supervisor that fork no operation. -/
def Recovers {α : Type} (m : SupervisorM α) : Prop :=
  ∀ before state, Holds recoverGuard before state m fun _ _ _ => True

namespace Recovers
open WorkerSupervisor SupervisorM

variable {α β : Type} {supervisor : WorkerSupervisor}

lemma pure (a : α) : Recovers (Pure.pure a : SupervisorM α) := fun _ _ => .pure trivial

lemma bind {m : SupervisorM α} {f : α → SupervisorM β} (hm : Recovers m)
    (hf : ∀ a, Recovers (f a)) : Recovers (m >>= f) :=
  fun before state => (hm before state).bind fun a state' after _ => hf a after state'

lemma ask {c : SupervisorCall} (h : c.operates = false) : Recovers (SupervisorM.sys c) :=
  fun _ _ => .ask fun _ => ⟨h, trivial⟩

lemma update (f : Supervision → Supervision) : Recovers (SupervisorM.update f) :=
  fun _ _ => .modify trivial

lemma current : Recovers SupervisorM.current :=
  fun _ _ => Holds.get_bind (f := Pure.pure) (.pure trivial)

lemma ite {p : Prop} [Decidable p] {m m' : SupervisorM α} (hm : Recovers m) (hm' : Recovers m') :
    Recovers (if p then m else m') :=
  fun before state => .ite (fun _ => hm before state) fun _ => hm' before state

lemma rounds {ρ κ : Type} {body : κ → SupervisorM (ρ ⊕ κ)} (h : ∀ vars, Recovers (body vars))
    {fuel : ℕ} {vars : κ} : Recovers (SupervisorM.rounds fuel body vars) :=
  fun _ _ => holds_rounds (I := fun _ _ _ => True)
    (fun vars state before _ => (h vars before state).mono fun out _ _ _ => by
      cases out <;> trivial) trivial

lemma idle {m : SupervisorM α} (h : Idle m) : Recovers m := fun before state =>
  (h recoverGuard before state fun _ _ he => operates_of_idle he).mono fun _ _ _ _ => trivial

lemma quiet {m : SupervisorM α} (h : Quiet m) : Recovers m := idle (.of_quiet h)

lemma awaitKilled (child : Pid) (deadline : UInt64) :
    Recovers (supervisor.awaitKilled child deadline) := by
  refine rounds fun _ => (ask (by rfl)).bind fun waited => ?_
  cases waited with
  | reaped status => exact (update _).bind fun _ => pure _
  | _ =>
    exact ite (pure _) ((ask (by rfl)).bind fun _ => ite (pure _) ((ask (by rfl)).bind fun _ => pure _))

lemma stopAndReap (child : Pid) : Recovers (supervisor.stopAndReap child) := by
  refine ite (pure _) ((quiet (quiet_deadlineFor _)).bind fun deadline => ?_)
  cases deadline with
  | none => exact pure _
  | some deadline =>
    refine (ask (by rfl)).bind fun waited => ?_
    cases waited with
    | reaped status => exact (update _).bind fun _ => pure _
    | _ =>
      exact ite (pure _) ((ask (by rfl)).bind fun _ => ite (pure _) (awaitKilled child deadline))

lemma waitPhase (child : Pid) (deadline : UInt64) (cancellable : Bool) (exit : WorkerExit) :
    Recovers (supervisor.waitPhase child deadline cancellable exit) := by
  refine rounds fun _ => (quiet quiet_parentCheck).bind fun _ =>
    (quiet (quiet_phaseOver _ _)).bind fun _ => ite ?_ ((ask (by rfl)).bind fun waited => ?_)
  · exact (quiet (quiet_isCancelled _)).bind fun _ => (stopAndReap child).bind fun _ => pure _
  · cases waited with
    | reaped status => exact (update _).bind fun _ => pure _
    | _ => exact ite (pure _) ((ask (by rfl)).bind fun _ => pure _)

lemma grantWorker (child : Pid) (channel : ℕ) :
    Recovers (supervisor.grantWorker child channel) :=
  (quiet (quiet_supervisorOwnershipRecord child)).bind fun _ => (quiet quiet_parentCheck).bind
    fun _ => ite ((ask (by rfl)).bind fun _ => pure _)
      ((ask (by rfl)).bind fun _ => ite ((ask (by rfl)).bind fun _ => pure _) (pure _))

lemma spawnWorker {kind : WorkerKind} (hkind : kind ≠ .operation) (deadline : UInt64) :
    Recovers (supervisor.spawnWorker kind deadline) := by
  refine (quiet quiet_parentCheck).bind fun _ => (ask (by rfl)).bind fun pair => ?_
  cases pair with
  | none => exact pure _
  | some channel =>
    refine (quiet quiet_setCloseOnExec).bind fun _ => ite ((ask (by rfl)).bind fun _ => pure _) ?_
    refine (ask (c := .fork ⟨kind, channel, deadline⟩) (decide_eq_false hkind)).bind fun answer => ?_
    cases answer with
    | none => exact (ask (by rfl)).bind fun _ => pure _
    | some child => exact (grantWorker child.val channel).bind fun _ => pure _

lemma concludeRound (recovering : Bool) (vars : ObserverVars) :
    Recovers (WorkerSupervisor.concludeRound recovering vars) :=
  ite (current.bind fun _ => pure _) ((ask (by rfl)).bind fun _ => pure _)

lemma collectObserver (child : Pid) (recovering : Bool) (vars : ObserverVars) :
    Recovers (WorkerSupervisor.collectObserver child recovering vars) := by
  refine ite (concludeRound _ _) ((ask (by rfl)).bind fun waited => ?_)
  cases waited with
  | reaped status => exact (update _).bind fun _ => concludeRound _ _
  | _ => exact ite ((update _).bind fun _ => pure _) (concludeRound _ _)

lemma receiveObservation (launchedNs : UInt64) (recovering keepsLatest : Bool)
    (observation : Observation) (vars : ObserverVars) : Recovers
      (WorkerSupervisor.receiveObservation launchedNs recovering keepsLatest observation vars) :=
  ite (pure _) ((ask (by rfl)).bind fun _ => current.bind fun _ => (update _).bind fun _ =>
    ite (pure _) ((update _).bind fun _ => pure _))

lemma observerRound (child : Pid) (launchedNs deadline : UInt64) (recovering keepsLatest : Bool)
    (vars : ObserverVars) :
    Recovers (supervisor.observerRound child launchedNs deadline recovering keepsLatest vars) := by
  refine (quiet quiet_parentCheck).bind fun _ => (ask (by rfl)).bind fun _ => ite (pure _)
    (ite (collectObserver _ _ _) ((ask (by rfl)).bind fun read => ?_))
  cases read with
  | error errno => exact ite (pure _) (collectObserver _ _ _)
  | ok bytes => exact ite (collectObserver _ _ _) (ite (receiveObservation _ _ _ _ _) (pure _))

lemma superviseObserver (child : Pid) (launchedNs deadline : UInt64)
    (recovering keepsLatest : Bool) : Recovers
      (supervisor.superviseObserver child launchedNs deadline recovering keepsLatest) := by
  refine (rounds fun _ => observerRound _ _ _ _ _ _).bind fun finish => ?_
  cases finish with
  | returned verified => exact pure _
  | broke reaped =>
    cases reaped with
    | true => exact pure _
    | false =>
      exact (stopAndReap child).bind fun _ => ite (pure _) ((update _).bind fun _ => pure _)

lemma observeOwned (recovering keepsLatest : Bool) :
    Recovers (supervisor.observeOwned recovering keepsLatest) := by
  refine (ask (by rfl)).bind fun _ => ite (pure _) ((ask (by rfl)).bind fun _ =>
    ite ((ask (by rfl)).bind fun _ => pure _) ((ask (by rfl)).bind fun _ =>
      (quiet (quiet_deadlineFor _)).bind fun deadline => ?_))
  cases deadline with
  | none => exact (ask (by rfl)).bind fun _ => pure _
  | some deadline =>
    exact (spawnWorker (by decide) _).bind fun (_, connection) => (update _).bind fun _ =>
      (quiet (quiet_reportObserver _ _ _)).bind fun _ =>
        (ite (superviseObserver _ _ _ _ _) (pure _)).bind fun _ => (ask (by rfl)).bind fun _ =>
          (quiet (quiet_closeConnection connection)).bind fun _ => pure _

lemma controlIntentClearVerified : Recovers supervisor.controlIntentClearVerified :=
  fun _ _ => (holds_onLease (P := fun _ => True) (fun _ => calls_of_forall (fun _ => trivial) _)
    fun _ _ _ _ => rfl).mono fun _ _ _ _ => trivial

lemma recoverOwned : Recovers supervisor.recoverOwned := by
  refine (update _).bind fun _ => (quiet (quiet_deadlineFor _)).bind fun deadline => ?_
  cases deadline with
  | none => exact pure _
  | some deadline =>
    refine (spawnWorker (by decide) _).bind fun (child, connection) => (update _).bind fun _ =>
      ite (pure _) ((waitPhase _ _ _ _).bind fun (stopped, exit) =>
        (quiet (quiet_closeConnection connection)).bind fun _ => ite (update _)
          (ite (pure _) ((update _).bind fun _ => (observeOwned _ _).bind fun _ =>
            (quiet quiet_parentCheck).bind fun _ => ite (update _)
              (controlIntentClearVerified.bind fun _ => ite (update _) (update _)))))

lemma finish : Recovers WorkerSupervisor.finish := current.bind fun _ => pure _

lemma workerSupervisorResume : Recovers supervisor.workerSupervisorResume :=
  (update _).bind fun _ => (quiet quiet_parentCheck).bind fun _ =>
    (quiet quiet_canSupervise).bind fun _ => ite finish
      ((quiet quiet_controlIntentRead).bind fun _ => ite finish ((ask (by rfl)).bind fun _ =>
        (update _).bind fun _ => (idle (idle_supervisorOwnershipAcquire _)).bind fun _ => ite finish
          (recoverOwned.bind fun _ => (idle idle_closeLock).bind fun _ => finish)))

end Recovers

/-! The whole run of the runner. -/

lemma claim_clear {lease : ControlLease} {owner now : UInt64} {intent : ControlIntentStatus}
    {result : SmcBaselineResult} {snapshot : Option SmcBaselineSnapshot}
    (h : (lease.claim owner now true intent result snapshot).1 = true) : intent = .clear := by
  by_contra hintent
  unfold ControlLease.claim at h
  split_ifs at h

/-- The claim of the lease with which an admission ended. -/
lemma claimLease_claims {early : List ProbeEvent} {admission : List SupervisorEvent}
    {earlier : Supervision} {report : WorkerSupervisorReport}
    (hheld : LaunchHeld (early ++ admission.map supervised))
    (hgives : Gives (probe.supervisor directory).observeBaseline.run earlier admission (some report)
      state) (hready : report.result = .baselineReady) :
    Holds (probe.CallGuard mode) (early ++ admission.map supervised) state
      (probe.claimLease directory) fun claimed _ after =>
        LaunchHeld after ∧ (claimed = true → probe.Claimed directory after) := by
  refine Holds.ask_bind fun pid => ⟨trivial, Holds.ask_bind fun now => ⟨trivial, ?_⟩⟩
  have hnext := (hheld.event (e := ⟨.getpid, pid⟩) nofun).event
    (e := ⟨.supervisor .nowNs, now⟩) nofun
  refine (Idle.of_quiet WorkerSupervisor.quiet_controlIntentRead).holds.bind ?_
  rintro intent state₁ after₁ ⟨rfl, run, -, rfl⟩
  refine Holds.get_bind (Holds.modify_bind (.pure ⟨hnext.supervised run, fun hclaimed => ?_⟩))
  have hclear := claim_clear hclaimed
  rw [hclear] at hclaimed
  have hverified := (observeBaseline_verified earlier).gives hgives hready
  exact ⟨early, admission, [⟨.getpid, pid⟩, ⟨.supervisor .nowNs, now⟩] ++ run.map supervised,
    earlier, _, report, pid, now, by simp, hgives, hready, hverified, by simp, by simp, hclaimed⟩

lemma enterLease_claims (hheld : LaunchHeld before) (hmode : mode ≠ .cleanup) :
    Holds (probe.CallGuard mode) before state (probe.enterLease directory) fun admission _ after =>
      LaunchHeld after ∧ (admission.claimed = true → probe.Claimed directory after) := by
  refine (holds_supervise (WorkerSupervisor.observeBaseline_reports) fun run e he =>
    callGuard_of_fork hheld hmode he fun hkind => absurd hkind.1 nofun).bind ?_
  rintro report state₁ after₁ ⟨admission, hgives, rfl, -⟩
  have hheld₁ := hheld.supervised admission
  refine Holds.get_bind (Holds.bind (Q := fun claimed _ after => LaunchHeld after ∧
    (claimed = true → probe.Claimed directory after)) ?_ fun _ _ _ h => .pure h)
  refine Holds.ite (fun hready => claimLease_claims hheld₁ hgives hready) fun _ => ?_
  exact .pure ⟨hheld₁, nofun⟩

/-- A fork of no operation, by the runner. -/
lemma callGuard_of_recovery {run : List SupervisorEvent} {e : SupervisorEvent}
    (hheld : LaunchHeld before) (hmode : mode ≠ .cleanup) (he : e.1.operates = false) :
    probe.CallGuard mode (before ++ run.map supervised) (supervised e) := by
  obtain ⟨c, answer⟩ := e
  cases c with
  | fork worker =>
    exact ⟨hheld.supervised run, hmode, fun hkind => absurd hkind (of_decide_eq_false he)⟩
  | _ => trivial

/-- The supervisor is called with its marker, or after a claim. -/
lemma work_holds (intent : ControlIntentStatus) (hheld : LaunchHeld before)
    (hmode : mode ≠ .cleanup) :
    Holds (probe.CallGuard mode) before state (probe.work directory mode intent)
      fun _ _ after => LaunchHeld after := by
  refine Holds.ite (fun _ => ?_) fun _ => Holds.ite (fun hfresh => ?_) fun _ => .pure hheld
  · have hresumes : Holds recoverGuard [] state
        (probe.supervisor directory).workerSupervisorResume fun _ _ _ => True :=
      Recovers.workerSupervisorResume [] state
    have hreports : Holds ((probe.supervisor directory).CallGuard true) [] state
        (probe.supervisor directory).workerSupervisorResume fun _ _ _ => True :=
      WorkerSupervisor.workerSupervisorResume_reports.mono fun _ _ _ _ => trivial
    refine (holds_supervise (hreports.both hresumes) fun run e he =>
      callGuard_of_recovery hheld hmode he.2).bind ?_
    rintro report state₁ after₁ ⟨run, -, rfl, -⟩
    exact .pure (hheld.supervised run)
  · refine (enterLease_claims hheld hmode).bind ?_
    rintro admission state₁ after₁ ⟨hheld₁, hclaimed⟩
    refine Holds.ite (fun h => ?_) fun _ => .pure hheld₁
    refine (holds_supervise WorkerSupervisor.workerSupervisorRun_reports fun run e he =>
      callGuard_of_fork hheld₁ hmode he fun hkind =>
        ⟨hfresh.2, after₁, run, rfl, hclaimed h, hkind.2.1⟩).bind ?_
    rintro report state₂ after₂ ⟨run, -, rfl, -⟩
    exact .pure (hheld₁.supervised run)

lemma report_holds {euid : UInt32} (hheld : LaunchHeld before) (hmode : mode ≠ .cleanup) :
    Holds (probe.CallGuard mode) before state (probe.report directory mode euid)
      fun _ _ _ => True := by
  refine (Idle.of_quiet WorkerSupervisor.quiet_controlIntentRead).holds.bind ?_
  rintro intent state₁ after₁ ⟨rfl, run, -, rfl⟩
  refine (work_holds intent (hheld.supervised run) hmode).bind ?_
  rintro ⟨admission, report⟩ state₂ after₂ hheld₂
  refine (Idle.of_quiet WorkerSupervisor.quiet_controlIntentRead).holds.bind ?_
  rintro final state₃ after₃ ⟨rfl, run, -, rfl⟩
  refine plain_supervisorRunnerLifetimeCheck.holds.bind fun _ state₄ after₄ _ => Holds.get_bind ?_
  exact Holds.ask_bind fun _ => ⟨trivial, Holds.ask_bind fun _ => ⟨trivial, Holds.ask_bind fun _ =>
    ⟨trivial, .pure trivial⟩⟩⟩

lemma launch_holds {euid : UInt32} (hopen : ∀ e ∈ before, e.1 ≠ .closeLaunch) :
    Holds (probe.CallGuard mode) before state (probe.launch mode euid) fun _ _ _ => True := by
  have hplain : ∀ {history more : List ProbeEvent}, (∀ e ∈ history, e.1 ≠ .closeLaunch) →
      (∀ e ∈ more, e.1.isPlain = true) → ∀ e ∈ history ++ more, e.1 ≠ .closeLaunch := by
    intro history more hhistory hmore
    refine List.forall_mem_append.mpr ⟨hhistory, ?_⟩
    rintro ⟨c, answer⟩ he rfl
    cases hmore _ he
  refine plain_supervisorRunnerLifetimeEnter.holds.bind ?_
  rintro entered state₁ after₁ ⟨rfl, more, rfl, hmore⟩
  refine Holds.ite (fun _ => .pure trivial) fun _ => ?_
  refine plain_supervisorProbeOpenDirectory.holds.bind ?_
  rintro opened state₂ after₂ ⟨rfl, more', rfl, hmore'⟩
  cases opened with
  | none => exact .pure trivial
  | some directory =>
    refine (supervisorProbeLock_holds (hplain (hplain hopen hmore) hmore')).bind ?_
    rintro locked state₃ after₃ ⟨rfl, hlocked⟩
    refine Holds.ite (fun _ => Holds.ask_bind fun _ => ⟨trivial, .pure trivial⟩) fun h => ?_
    rw [Bool.not_eq_true, Bool.not_eq_false'] at h
    refine Holds.ite (fun hmode => ?_) fun hmode => report_holds (hlocked h) hmode
    rw [hmode]
    exact cleanUp_holds (hlocked h)

/-- Every call of the runner after its first comes where its mode allows it. -/
lemma main_holds (arguments : List String) :
    Holds (fun before e => e.1 = .userIds ∨ ∃ mode, probeMode arguments = some mode ∧
      probe.CallGuard mode before e) [] state (probe.main arguments) fun _ _ _ => True := by
  refine Holds.ask_bind fun ids => ⟨.inl rfl, ?_⟩
  cases hmode : probeMode arguments with
  | none => exact .pure trivial
  | some mode =>
    refine Holds.ite (fun _ => .pure trivial) fun _ => ?_
    have hopen : ∀ e ∈ ([⟨.userIds, ids⟩] : List ProbeEvent), e.1 ≠ .closeLaunch := by simp
    exact Holds.weaken (launch_holds hopen) fun _ _ he => .inr ⟨mode, rfl, he⟩

/-- The guard of one of the runner's calls. -/
lemma main_guards {arguments : List String} {trace after : List ProbeEvent} {e : ProbeEvent}
    {rest : CallTree ProbeCall ProbeCall.Answer (Option ProbeEnd × Supervision)}
    (h : Runs ((probe.main arguments).run.run .zero) trace rest)
    (htrace : trace = before ++ e :: after) (he : e.1 ≠ .userIds) :
    ∃ mode, probeMode arguments = some mode ∧ probe.CallGuard mode before e := by
  have hguarded := (Meets.runs (main_holds arguments) h).1 before e after htrace
  rw [List.nil_append] at hguarded
  exact hguarded.resolve_left he

/-- Whatever its calls answer, the runner forks a worker only under its launch lock and never to
clean up, and an operation only in its run and crash modes, after an admission in the same run whose
observer was verified, whose lease was claimed with the intent clear, and after which the marker was
saved. -/
theorem operation_follows_admission (probe : SupervisorProbe) (arguments : List String)
    {trace before after : List ProbeEvent} {worker : Worker}
    {answer : (ProbeCall.supervisor (.fork worker)).Answer}
    {rest : CallTree ProbeCall ProbeCall.Answer (Option ProbeEnd × Supervision)}
    (h : Runs ((probe.main arguments).run.run .zero) trace rest)
    (htrace : trace = before ++ ⟨.supervisor (.fork worker), answer⟩ :: after) :
    LaunchHeld before ∧ probeMode arguments ≠ some .cleanup ∧ (worker.kind = .operation →
      (probeMode arguments = some .run ∨ probeMode arguments = some .crash) ∧
        ∃ directory, probe.Admitted directory before) := by
  obtain ⟨mode, hmode, hheld, hcleanup, hoperation⟩ := main_guards h htrace nofun
  rw [hmode]
  refine ⟨hheld, fun heq => hcleanup (Option.some.inj heq), fun hkind => ?_⟩
  obtain ⟨hresume, hadmitted⟩ := hoperation hkind
  refine ⟨?_, hadmitted⟩
  cases mode with
  | run => exact .inl rfl
  | cleanup => exact absurd rfl hcleanup
  | crash => exact .inr rfl
  | resume => exact absurd rfl hresume

lemma runnerPid_pos : (0 : Pid) < 2 := by decide

lemma descriptor_nonneg : (0 : Int32) ≤ 3 := by decide

/-- Calls that all succeed; the grant is read first. -/
def healthyAnswer (env : Bool × ℕ × ℕ × Bool) :
    (c : ProbeCall) → c.Answer × Bool × ℕ × ℕ × Bool
  | .supervisor c =>
    ((SupervisorSystem.operatingAnswer env.2 c).1, env.1,
      (SupervisorSystem.operatingAnswer env.2 c).2)
  | .userIds => ((0, 0), env)
  | .inputFlags => (true, env)
  | .fstatInput => (some true, env)
  | .setInputNonblocking => (true, env)
  | .readInput => (if env.1 then .error .again else .ok (some 71), true, env.2)
  | .openParent => (true, env)
  | .fstatParent => (some ⟨.directory, 0o755, 0, 2, 0⟩, env)
  | .makeDirectory => (true, env)
  | .openDirectory => (some ⟨3, descriptor_nonneg⟩, env)
  | .fstatDirectory => (some ⟨.directory, 0o700, 0, 2, 0⟩, env)
  | .closeDirectory => ((), env)
  | .openLaunch => (true, env)
  | .fstatLaunch => (some (⟨.regular, 0o600, 0, 1, 0⟩, ⟨1, 2⟩), env)
  | .flockLaunch => (true, env)
  | .statLaunch => (some ⟨1, 2⟩, env)
  | .closeLaunch => ((), env)
  | .getpid => (⟨2, runnerPid_pos⟩, env)
  | .unlinkFile _ => (.ok (), env)
  | .unlinkLaunch => (true, env)
  | .removeDirectory => (true, env)

def minuteProbe : SupervisorProbe := ⟨WorkerSupervisor.secondLayout, 62⟩

def healthyRun (arguments : List String) :
    List ProbeEvent × (Option ProbeEnd × Supervision) × Bool × ℕ × ℕ × Bool :=
  play healthyAnswer ((minuteProbe.main arguments).run.run .zero) (false, 0, 0, false)

lemma healthyRun_runs (arguments : List String) : Runs ((minuteProbe.main arguments).run.run .zero)
    (healthyRun arguments).1 (.done (healthyRun arguments).2.1) := ends_play _ _ _

def forksOperation : ProbeEvent → Bool
  | ⟨.supervisor (.fork worker), _⟩ => worker.kind == .operation
  | _ => false

/-- In some run an operation is forked, after its admission. -/
theorem operation_follows_admission_run : ∃ before worker answer after, (healthyRun []).1 =
      before ++ ⟨.supervisor (.fork worker), answer⟩ :: after ∧ worker.kind = .operation ∧
    ∃ directory, minuteProbe.Admitted directory before := by
  have hforks : (healthyRun []).1.any forksOperation = true := by decide +kernel
  have hruns := healthyRun_runs []
  generalize healthyRun [] = run at hforks hruns ⊢
  obtain ⟨⟨c, answer⟩, he, hforked⟩ := List.any_eq_true.mp hforks
  obtain ⟨before, after, htrace⟩ := List.append_of_mem he
  cases c with
  | supervisor c =>
    cases c with
    | fork worker =>
      have hkind : worker.kind = .operation := beq_iff_eq.mp hforked
      exact ⟨before, worker, answer, after, htrace, hkind,
        ((operation_follows_admission minuteProbe [] hruns htrace).2.2 hkind).2⟩
    | _ => cases hforked
  | _ => cases hforked

def removesDirectory : ProbeEvent → Bool
  | ⟨.removeDirectory, _⟩ => true
  | _ => false

end SupervisorProbe
end Ventilator
