import Ventilator.SupervisorExclusion

/-! No callback of a worker runs before its process was durably recorded and its grant was sent,
and no worker of another call is alive when a grant is sent. -/
namespace Ventilator
open CallTree MutexRuns TraceGuard

/-! The record of a worker's process. -/

/-- What the writes of a trace put into the next record, one after the other. -/
def recordedBytes (trace : List SupervisorEvent) : List UInt8 :=
  trace.flatMap fun
    | ⟨.writeNext bytes, .ok count⟩ => bytes.take count
    | _ => []

/-- The next record was truncated, written with the process's number, synced and renamed, and the
directory was synced. -/
def DurablyRecorded (child : Pid) (trace : List SupervisorEvent) : Prop :=
  ∃ opening written, trace = opening ++ ⟨.truncateNext, true⟩ :: written ++
      [⟨.fsyncNext, true⟩, ⟨.closeFile .next, true⟩, ⟨.renameNext, true⟩,
        ⟨.journal .fsyncDirectory, true⟩] ∧
    (∀ e ∈ written, ∃ bytes, e.1 = .writeNext bytes) ∧ recordedBytes written = workerRecord child

namespace WorkerSupervisor
open SupervisorM

variable {supervisor : WorkerSupervisor} {before : List SupervisorEvent} {state : Supervision}

/-- The write loop writes the whole record, or fails. -/
lemma writeRecord_writes (contents : List UInt8) :
    Holds (fun _ _ => True) before state (supervisor.writeRecord contents) fun saved _ after =>
      saved = true → ∃ written, after = before ++ written ∧
        (∀ e ∈ written, ∃ bytes, e.1 = .writeNext bytes) ∧ recordedBytes written = contents := by
  refine holds_rounds (I := fun count _ after => ∃ written, after = before ++ written ∧
    (∀ e ∈ written, ∃ bytes, e.1 = .writeNext bytes) ∧
      recordedBytes written = contents.take count) ?_ ⟨[], by simp, by simp, by simp [recordedBytes]⟩
  rintro count state₁ after₁ ⟨written, rfl, hwrites, hbytes⟩
  refine Holds.ite (fun _ => Holds.ask_bind fun answer => ⟨trivial, ?_⟩) fun hdone => .pure fun _ => ?_
  · have hevent : ∀ answer, ∀ e ∈ written ++ [⟨.writeNext (contents.drop count), answer⟩],
        ∃ bytes, e.1 = .writeNext bytes :=
      fun _ => List.forall_mem_append.mpr ⟨hwrites, by simp⟩
    match answer with
    | .ok size =>
      refine .pure ?_
      by_cases hsize : 0 < size.val
      · rw [if_pos hsize]
        refine ⟨_, List.append_assoc _ _ _, hevent _, ?_⟩
        rw [recordedBytes, List.flatMap_append, ← recordedBytes, hbytes, List.take_add]
        simp
      · rw [if_neg hsize]
        exact nofun
    | .error .interrupted =>
      refine .pure ⟨_, List.append_assoc _ _ _, hevent _, ?_⟩
      rw [recordedBytes, List.flatMap_append, ← recordedBytes, hbytes]
      simp
    | .error .noEntry => exact .pure nofun
    | .error .again => exact .pure nofun
    | .error .noProcess => exact .pure nofun
    | .error .other => exact .pure nofun
  · exact ⟨written, rfl, hwrites, by rw [hbytes, List.take_of_length_le (by omega)]⟩

/-- A record that is reported as saved is durable. -/
lemma supervisorOwnershipRecord_durable (child : Pid) :
    Holds (fun _ _ => True) [] state (supervisor.supervisorOwnershipRecord child)
      fun recorded _ after => recorded = true → DurablyRecorded child after := by
  refine (quiet_privateDirectory _ _ _ fun _ _ _ => trivial).bind ?_
  rintro isPrivate state₁ after₁ -
  refine Holds.ite (fun _ => .pure nofun) fun _ => Holds.ite (fun _ => .pure nofun) fun _ => ?_
  refine Holds.ask_bind fun opened => ⟨trivial, ?_⟩
  cases opened with
  | error errno => exact .pure nofun
  | ok u =>
    refine (quiet_privateFile .next _ _ _ fun _ _ _ => trivial).bind ?_
    rintro isFile state₂ after₂ -
    refine Holds.ite (fun _ => Holds.ask_bind fun _ => ⟨trivial, .pure nofun⟩) fun _ => ?_
    refine Holds.bind (Q := fun saved _ after => saved = true → ∃ opening written,
      after = opening ++ ⟨.truncateNext, true⟩ :: written ++ [⟨.fsyncNext, true⟩] ∧
        (∀ e ∈ written, ∃ bytes, e.1 = .writeNext bytes) ∧
          recordedBytes written = workerRecord child) ?_ ?_
    · refine Holds.ask_bind fun truncated => ⟨trivial, ?_⟩
      cases truncated with
      | false => exact .pure nofun
      | true =>
        refine (writeRecord_writes (workerRecord child)).bind fun saved state₃ after₃ hsaved => ?_
        cases saved with
        | false => exact .pure nofun
        | true =>
          obtain ⟨written, rfl, hwrites, hbytes⟩ := hsaved rfl
          refine Holds.ask fun synced => ⟨trivial, fun hsynced => ?_⟩
          subst hsynced
          exact ⟨after₂, written, by simp, hwrites, hbytes⟩
    · intro saved state₃ after₃ hsaved
      refine Holds.ask_bind fun closed => ⟨trivial, Holds.ite (fun _ => .pure nofun) fun hboth => ?_⟩
      rw [Bool.not_eq_true, Bool.not_eq_false', Bool.and_eq_true] at hboth
      obtain ⟨opening, written, rfl, hwrites, hbytes⟩ := hsaved hboth.1
      obtain ⟨-, rfl⟩ := hboth
      refine Holds.ask_bind fun renamed => ⟨trivial, Holds.ite (fun _ => .pure nofun) fun hrenamed => ?_⟩
      rw [Bool.not_eq_true, Bool.not_eq_false'] at hrenamed
      subst hrenamed
      refine Holds.ask fun synced => ⟨trivial, fun hsynced => ?_⟩
      subst hsynced
      exact ⟨opening, written, by simp, hwrites, hbytes⟩

end WorkerSupervisor

namespace SupervisorSystem
open World

/-! The calls of a process among the moves of a run. -/

section Events

variable {p job : ℕ} {moves : List Move} {e : SupervisorEvent}

lemma eventsOf_append (p job : ℕ) (moves later : List Move) :
    eventsOf p job (moves ++ later) = eventsOf p job moves ++ eventsOf p job later :=
  List.filterMap_append

@[simp] lemma eventsOf_does_self : eventsOf p job [.does p job e] = [e] := by simp [eventsOf]

lemma eventsOf_does_of_ne {p' job' : ℕ} (h : p' ≠ p ∨ job' ≠ job) :
    eventsOf p job [.does p' job' e] = [] := by
  simp only [eventsOf, List.filterMap_cons, List.filterMap_nil]
  rw [if_neg fun hsame => h.elim (fun h => h hsame.1) fun h => h hsame.2]

@[simp] lemma eventsOf_enters {p' job' : ℕ} : eventsOf p job [.enters p' job'] = [] := rfl
@[simp] lemma eventsOf_ends {p' : ℕ} : eventsOf p job [.ends p'] = [] := rfl

lemma mem_eventsOf : e ∈ eventsOf p job moves ↔ .does p job e ∈ moves := by
  simp only [eventsOf, List.mem_filterMap]
  constructor
  · rintro ⟨move, hmove, heq⟩
    cases move with
    | does p' job' e' =>
      simp only [Option.ite_none_right_eq_some] at heq
      obtain ⟨⟨rfl, rfl⟩, heq⟩ := heq
      cases heq
      exact hmove
    | _ => cases heq
  · exact fun hmove => ⟨_, hmove, by simp⟩

end Events

/-- A worker was forked with the pair, its process was durably recorded, and then the grant was
sent. -/
def Granted (channel : ℕ) (child : Pid) (trace : List SupervisorEvent) : Prop :=
  ∃ early worker answer run late more,
    trace = early ++ ⟨.fork worker, some answer⟩ :: (run ++ late) ++
      ⟨.sendGrant channel, true⟩ :: more ∧
    worker.channel = channel ∧ answer.val = child ∧ DurablyRecorded child run

lemma Granted.append {channel : ℕ} {child : Pid} {trace : List SupervisorEvent}
    (h : Granted channel child trace) (later : List SupervisorEvent) :
    Granted channel child (trace ++ later) := by
  obtain ⟨early, worker, answer, run, late, more, rfl, hworker, hanswer, hrecorded⟩ := h
  exact ⟨early, worker, answer, run, late, more ++ later, by simp, hworker, hanswer, hrecorded⟩

/-- What the moves so far say of the processes. -/
structure Logged (moves : List Move) (w : World) : Prop where
  traced : ∀ {p process}, w.process p = some process →
    process.trace = eventsOf p process.job moves
  numbered : ∀ {p job e}, .does p job e ∈ moves → job < w.calls ∧ w.process p ≠ none
  forked : ∀ {p job worker child}, ⟨.fork worker, some child⟩ ∈ eventsOf p job moves →
    ∃ q worked supervisor, w.process q = some worked ∧
      worked.role = .works supervisor worker p ∧ worked.job = job ∧ worked.pid = child.val
  granted : ∀ channel ∈ w.granted, ∃ p q worked supervisor worker, w.process q = some worked ∧
    worked.role = .works supervisor worker p ∧ worker.channel = channel ∧
    Granted channel worked.pid (eventsOf p worked.job moves)

lemma logged_initial (marked : Prop) : Logged [] (initial marked) :=
  ⟨nofun, nofun, nofun, fun _ h => absurd h (Set.notMem_empty _)⟩

section Step

variable {w w' : World} {move : Move} {q : ℕ} {worked : Process}

/-- Processes stay when a call is made. -/
lemma performs_stays {p : ℕ} {process : Process} {e : SupervisorEvent}
    (h : w.Performs p process e w') (hq : w.process q = some worked) :
    w'.process q = some worked := by
  cases h with
  | @forks _ _ made _ _ _ _ hfree =>
    have hne : q ≠ made := by
      rintro rfl
      rw [hfree] at hq
      cases hq
    simpa [hne] using hq
  | _ => exact hq

/-- A process stays, and a worker stays the same one. -/
lemma step_stays (hstep : Step w move w') (hq : w.process q = some worked) :
    ∃ after, w'.process q = some after ∧ (∀ supervisor worker parent,
      worked.role = .works supervisor worker parent → after.role = worked.role ∧
        after.job = worked.job ∧ after.pid = worked.pid) := by
  cases hstep with
  | @born p pid supervisor entry memory hfree hpid =>
    have hne : q ≠ p := by
      rintro rfl
      rw [hfree] at hq
      cases hq
    exact ⟨worked, becomes_process.mpr (.inr ⟨hne, hq⟩), fun _ _ _ _ => ⟨rfl, rfl, rfl⟩⟩
  | @again p process earlier before supervisor entry memory hlives hrole hover =>
    by_cases hqp : q = p
    · subst hqp
      refine ⟨_, becomes_process.mpr (.inl ⟨rfl, rfl⟩), fun supervisor' worker parent hworks => ?_⟩
      obtain rfl := Option.some.inj (hlives.1.symm.trans hq)
      rw [hrole] at hworks
      cases hworks
    · exact ⟨worked, becomes_process.mpr (.inr ⟨hqp, hq⟩), fun _ _ _ _ => ⟨rfl, rfl, rfl⟩⟩
  | @does _ p process c answer next hlives hcalls hperforms =>
    by_cases hqp : q = p
    · subst hqp
      obtain rfl := Option.some.inj (hlives.1.symm.trans hq)
      exact ⟨_, becomes_process.mpr (.inl ⟨rfl, rfl⟩), fun _ _ _ _ => ⟨rfl, rfl, rfl⟩⟩
    · exact ⟨worked, becomes_process.mpr (.inr ⟨hqp, performs_stays hperforms hq⟩),
        fun _ _ _ _ => ⟨rfl, rfl, rfl⟩⟩
  | @ends p process status hlives =>
    by_cases hqp : q = p
    · subst hqp
      obtain rfl := Option.some.inj (hlives.1.symm.trans hq)
      exact ⟨_, becomes_process.mpr (.inl ⟨rfl, rfl⟩), fun _ _ _ _ => ⟨rfl, rfl, rfl⟩⟩
    · exact ⟨worked, becomes_process.mpr (.inr ⟨hqp, hq⟩), fun _ _ _ _ => ⟨rfl, rfl, rfl⟩⟩

lemma step_calls (hstep : Step w move w') : w.calls ≤ w'.calls := by
  cases hstep with
  | born => exact Nat.le_succ _
  | again => exact Nat.le_succ _
  | does hlives hcalls hperforms => exact (performs_calls hperforms).ge
  | ends => exact le_rfl

variable {moves : List Move}

lemma eventsOf_eq_nil {p job : ℕ} (h : ∀ e, .does p job e ∉ moves) : eventsOf p job moves = [] := by
  rw [List.eq_nil_iff_forall_not_mem]
  exact fun e he => h e (mem_eventsOf.mp he)

lemma Logged.numbered_step (h : Logged moves w) (hsound : Sound w) (hstep : Step w move w')
    {p job : ℕ} {e : SupervisorEvent} (hmove : .does p job e ∈ moves ++ [move]) :
    job < w'.calls ∧ w'.process p ≠ none := by
  have hbefore : job < w.calls ∧ w.process p ≠ none := by
    rcases List.mem_append.mp hmove with hold | hnew
    · exact h.numbered hold
    · cases List.mem_singleton.mp hnew
      cases hstep with
      | @does _ _ process c answer next hlives hcalls hperforms =>
        refine ⟨?_, by simp [hlives.1]⟩
        cases hrole : process.role with
        | supervises supervisor entry => exact (hsound.supervising hlives.1 hrole).numbered
        | works supervisor worker parent => exact (hsound.working hlives.1 hrole).numbered
  obtain ⟨process, hprocess⟩ := Option.ne_none_iff_exists'.mp hbefore.2
  obtain ⟨after, hafter, -⟩ := step_stays hstep hprocess
  exact ⟨hbefore.1.trans_le (step_calls hstep), by simp [hafter]⟩

/-- A call that begins has no calls among the moves yet. -/
lemma Logged.traced_enters (h : Logged moves w) (p : ℕ) (pid : Pid)
    (supervisor : WorkerSupervisor) (entry : SupervisorEntry) (memory : Supervision)
    {process : Process}
    (hq : (w.becomes p (.enters pid supervisor entry w.calls memory)).process q = some process) :
    process.trace = eventsOf q process.job (moves ++ [.enters p w.calls]) := by
  rw [eventsOf_append, eventsOf_enters, List.append_nil]
  rcases becomes_process.mp hq with ⟨rfl, rfl⟩ | ⟨-, hold⟩
  · exact (eventsOf_eq_nil fun e he => lt_irrefl _ (h.numbered he).1).symm
  · exact h.traced hold

lemma Logged.traced_step (h : Logged moves w) (hstep : Step w move w') {process : Process}
    (hq : w'.process q = some process) :
    process.trace = eventsOf q process.job (moves ++ [move]) := by
  cases hstep with
  | born supervisor entry memory => exact h.traced_enters _ _ supervisor entry memory hq
  | again supervisor entry memory => exact h.traced_enters _ _ supervisor entry memory hq
  | @does _ p caller c answer next hlives hcalls hperforms =>
    rw [eventsOf_append]
    rcases performs_process hperforms hq with ⟨rfl, rfl⟩ | ⟨hne, hold | hnew⟩
    · have htrace := h.traced hlives.1
      rw [Process.goesOn, eventsOf_does_self, htrace]
    · rw [eventsOf_does_of_ne (.inl (Ne.symm hne)), List.append_nil]
      exact h.traced hold
    · obtain ⟨worker, child, supervisor, entry, memory, -, -, hfree, -, rfl⟩ := hnew
      rw [eventsOf_does_of_ne (.inl (Ne.symm hne)), List.append_nil]
      exact (eventsOf_eq_nil fun e he => (h.numbered he).2 hfree).symm
  | @ends p caller status hlives =>
    rw [eventsOf_append, eventsOf_ends, List.append_nil]
    rcases becomes_process.mp hq with ⟨rfl, rfl⟩ | ⟨-, hold⟩
    · have htrace := h.traced hlives.1
      exact htrace
    · exact h.traced hold

lemma Logged.forked_step (h : Logged moves w) (hstep : Step w move w') {p job : ℕ}
    {worker : Worker} {child : { child : Pid // 0 < child }}
    (hfork : ⟨.fork worker, some child⟩ ∈ eventsOf p job (moves ++ [move])) :
    ∃ q worked supervisor, w'.process q = some worked ∧
      worked.role = .works supervisor worker p ∧ worked.job = job ∧ worked.pid = child.val := by
  rcases List.mem_append.mp (mem_eventsOf.mp hfork) with hold | hnew
  · obtain ⟨q, worked, supervisor, hworked, hrole, rfl, hpid⟩ := h.forked (mem_eventsOf.mpr hold)
    obtain ⟨after, hafter, hsame⟩ := step_stays hstep hworked
    obtain ⟨hrole', hjob', hpid'⟩ := hsame _ _ _ hrole
    exact ⟨q, after, supervisor, hafter, hrole'.trans hrole, hjob', hpid'.trans hpid⟩
  · cases List.mem_singleton.mp hnew
    cases hstep with
    | @does _ _ caller c answer next hlives hcalls hperforms =>
      cases hperforms with
      | @forks _ _ made supervisor entry memory hrole hfree hpid =>
        have hne : made ≠ p := by
          rintro rfl
          rw [hlives.1] at hfree
          cases hfree
        exact ⟨made, _, supervisor, becomes_process.mpr (.inr ⟨hne, Function.update_self _ _ _⟩),
          rfl, rfl, rfl⟩
      | plain hplain => cases hplain

lemma Logged.granted_step (h : Logged moves w) (hsound : Sound w) (hstep : Step w move w')
    {channel : ℕ} (hchannel : channel ∈ w'.granted) :
    ∃ p q worked supervisor worker, w'.process q = some worked ∧
      worked.role = .works supervisor worker p ∧ worker.channel = channel ∧
      Granted channel worked.pid (eventsOf p worked.job (moves ++ [move])) := by
  have hold : channel ∈ w.granted → ∃ p q worked supervisor worker, w'.process q = some worked ∧
      worked.role = .works supervisor worker p ∧ worker.channel = channel ∧
      Granted channel worked.pid (eventsOf p worked.job (moves ++ [move])) := by
    intro hbefore
    obtain ⟨p, q, worked, supervisor, worker, hworked, hrole, hpair, hgranted⟩ :=
      h.granted channel hbefore
    obtain ⟨after, hafter, hsame⟩ := step_stays hstep hworked
    obtain ⟨hrole', hjob', hpid'⟩ := hsame _ _ _ hrole
    refine ⟨p, q, after, supervisor, worker, hafter, hrole'.trans hrole, hpair, ?_⟩
    rw [eventsOf_append, hjob', hpid']
    exact hgranted.append _
  have hkept := hstep
  cases hstep with
  | born => exact hold hchannel
  | again => exact hold hchannel
  | ends => exact hold hchannel
  | @does _ p caller c answer next hlives hcalls hperforms =>
    rcases (performs_granted hperforms).mp hchannel with hbefore | heq
    · exact hold hbefore
    · cases heq
      obtain ⟨supervisor, entry, hrole, hsupervising⟩ := hsound.supervises hlives hcalls rfl
      obtain ⟨⟨-, early, worker, child, run, late, state, state', htrace, hworker, hgives, -⟩, -⟩ :=
        hsupervising.guards hcalls true
      have hdurable : DurablyRecorded child.val run :=
        (WorkerSupervisor.supervisorOwnershipRecord_durable child.val).gives hgives rfl
      have hlogged := h.traced hlives.1
      have hfork : ⟨.fork worker, some child⟩ ∈ eventsOf p caller.job moves := by
        rw [← hlogged, htrace]
        simp
      obtain ⟨q, worked, supervisor', hworked, hrole', hjob, hpid⟩ := h.forked hfork
      obtain ⟨after, hafter, hsame⟩ := step_stays hkept hworked
      obtain ⟨hrole'', hjob', hpid'⟩ := hsame _ _ _ hrole'
      refine ⟨p, q, after, supervisor', worker, hafter, hrole''.trans hrole', hworker, ?_⟩
      rw [hjob', hjob, hpid', hpid, eventsOf_append, eventsOf_does_self, ← hlogged, htrace]
      exact ⟨early, worker, child, run, late, [], rfl, hworker, rfl, hdurable⟩

/-- What the moves say of the processes, they say after every step. -/
lemma Logged.step (h : Logged moves w) (hsound : Sound w) (hstep : Step w move w') :
    Logged (moves ++ [move]) w' where
  traced := h.traced_step hstep
  numbered := h.numbered_step hsound hstep
  forked := h.forked_step hstep
  granted := fun _ => h.granted_step hsound hstep

end Step

lemma logged_of_runs {marked : Prop} {moves : List Move} {w : World} (h : Runs marked moves w) :
    Sound w ∧ Logged moves w :=
  h.invariant (I := fun moves w => Sound w ∧ Logged moves w)
    ⟨sound_initial marked, logged_initial marked⟩
    fun _ _ _ _ hlogged hstep => ⟨hlogged.1.step hstep, hlogged.2.step hlogged.1 hstep⟩

/-- No callback of a worker runs before its process was durably recorded and its grant was sent;
and when a grant is sent, every worker that is alive was forked by the call that sends it. -/
theorem callbacks_follow_grants {marked : Prop} {moves : List Move} {w w' : World} {p job : ℕ}
    {e : SupervisorEvent} (hruns : Runs marked moves w) (hstep : Step w (.does p job e) w') :
    (∀ process supervisor worker parent, w.process p = some process →
      process.role = .works supervisor worker parent → e.1.isCallback = true →
        Granted worker.channel process.pid (eventsOf parent job moves)) ∧
    (∀ channel, e.1 = .sendGrant channel → ∀ q worked supervisor worker parent,
      w.Lives q worked → worked.role = .works supervisor worker parent →
        parent = p ∧ worked.job = job) := by
  obtain ⟨hsound, hlogged⟩ := logged_of_runs hruns
  cases hstep with
  | @does _ _ process c answer next hlives hcalls hperforms =>
    constructor
    · intro worked supervisor worker parent hworked hrole hcallback
      obtain rfl := Option.some.inj (hlives.1.symm.trans hworked)
      have hworking := hsound.working hlives.1 hrole
      have hread := (hworking.guards hcalls answer).1.2 hcallback
      obtain ⟨p', q, granted, supervisor', worker', hgranted, hrole', hchannel, htrace⟩ :=
        hlogged.granted _ (hworking.granted hread)
      obtain rfl := hsound.paired hgranted hlives.1 hrole' hrole hchannel
      obtain rfl := Option.some.inj (hgranted.symm.trans hlives.1)
      rw [hrole'] at hrole
      cases hrole
      exact htrace
    · intro channel hc q worked supervisor worker parent hworked hrole
      obtain rfl := hc
      obtain ⟨supervisor', entry, hrole', hsupervising⟩ := hsound.supervises hlives hcalls rfl
      obtain ⟨⟨⟨hheld, -⟩, -⟩, -⟩ := hsupervising.guards hcalls answer
      have hworking := hsound.working hworked.1 hrole
      have hjob := hsound.exclusive _ hworking.locked _ (hsupervising.locked.mpr hheld.1)
        ⟨q, hworking.holds hworked.2⟩
        ⟨p, hsupervising.opened hlives.2 ⟨hsupervising.opening hheld.1, hheld.2⟩⟩
      exact ⟨(hsound.children hlives.1 hrole' hworked hrole hjob).1, hjob⟩

/-! One worker at a time. -/

/-- A worker that is alive. -/
def WorkerAlive (w : World) (q : ℕ) : Prop :=
  ∃ worked supervisor worker parent, w.Lives q worked ∧
    worked.role = .works supervisor worker parent

/-- No worker is new where one process only changes, and is no worker that is alive. -/
lemma workerAlive_becomes {w w' : World} {p q : ℕ} (process : Process)
    (hprocess : w'.process = (w.becomes p process).process)
    (hnone : process.ended = none → ∀ supervisor worker parent,
      process.role ≠ .works supervisor worker parent)
    (h : WorkerAlive w' q) : WorkerAlive w q := by
  obtain ⟨worked, supervisor, worker, parent, hlives, hrole⟩ := h
  rw [World.Lives, hprocess] at hlives
  rcases becomes_process.mp hlives.1 with ⟨-, rfl⟩ | ⟨-, hold⟩
  · exact absurd hrole (hnone hlives.2 _ _ _)
  · exact ⟨worked, supervisor, worker, parent, ⟨hold, hlives.2⟩, hrole⟩

/-- A worker is forked when no other is alive. -/
lemma oneWorker_does {w w' : World} {p : ℕ} {process : Process} {c : SupervisorCall}
    {answer : c.Answer} {next : c.Answer → Program} (h : {q | WorkerAlive w q}.Subsingleton)
    (hsound : Sound w) (hlives : w.Lives p process) (hcalls : process.rest = .call c next)
    (hperforms : w.Performs p process ⟨c, answer⟩ w') :
    {q | WorkerAlive (w'.becomes p (process.goesOn ⟨c, answer⟩ (next answer))) q}.Subsingleton := by
  have hcases : ∀ {q}, WorkerAlive (w'.becomes p (process.goesOn ⟨c, answer⟩ (next answer))) q →
      WorkerAlive w q ∨ (∀ q', ¬ WorkerAlive w q') ∧ w.process q = none ∧
        ∃ other, w'.process q = some other := by
    rintro q ⟨worked, supervisor, worker, parent, hq, hrole⟩
    rcases does_continues hlives hperforms hq.1 with ⟨before, hold, hsame⟩ | hnew
    · exact .inl ⟨before, supervisor, worker, parent, ⟨hold, hsame.2.2.2.symm.trans hq.2⟩,
        hsame.1.symm.trans hrole⟩
    · obtain ⟨forked, child, -, -, -, heq, -, hfree, hne, -⟩ := hnew
      cases heq
      obtain ⟨-, -, -, -, -, -, -, hnone⟩ := hsound.alone hlives hcalls rfl
      refine .inr ⟨?_, hfree, _, ((becomes_process.mp hq.1).resolve_left fun heq => hne heq.1).2⟩
      rintro q' ⟨worked', supervisor', worker', parent', hq', hrole'⟩
      exact hnone q' worked' supervisor' worker' parent' hq' hrole'
  intro q hq q' hq'
  rcases hcases hq with hold | ⟨hnone, hfree, other, hmade⟩
  · rcases hcases hq' with hold' | ⟨hnone, -⟩
    · exact h hold hold'
    · exact absurd hold (hnone q)
  · rcases hcases hq' with hold' | ⟨-, hfree', other', hmade'⟩
    · exact absurd hold' (hnone q')
    · exact performs_one_new hperforms hfree hmade hfree' hmade'

lemma oneWorker_step {w w' : World} {move : Move} (h : {q | WorkerAlive w q}.Subsingleton)
    (hsound : Sound w) (hstep : Step w move w') : {q | WorkerAlive w' q}.Subsingleton := by
  cases hstep with
  | @born p pid supervisor entry memory =>
    exact h.anti fun q hq => workerAlive_becomes (.enters pid supervisor entry w.calls memory) rfl
      (fun _ _ _ _ => nofun) hq
  | @again p process earlier before supervisor entry memory =>
    exact h.anti fun q hq => workerAlive_becomes
      (.enters process.pid supervisor entry w.calls memory) rfl (fun _ _ _ _ => nofun) hq
  | does hlives hcalls hperforms => exact oneWorker_does h hsound hlives hcalls hperforms
  | @ends p process status =>
    exact h.anti fun q hq => workerAlive_becomes { process with ended := some status } rfl
      (fun hended => nomatch hended) hq

/-- Whatever ends or fails, at most one worker of a directory is alive at any time. -/
theorem one_worker_alive {marked : Prop} {moves : List Move} {w : World}
    (hruns : Runs marked moves w) : {q | WorkerAlive w q}.Subsingleton := by
  have hnone : {q | WorkerAlive (initial marked) q}.Subsingleton := by
    rintro q ⟨worked, -, -, -, hlives, -⟩
    cases hlives.1
  have hone := hruns.invariant (I := fun _ w => Sound w ∧ {q | WorkerAlive w q}.Subsingleton)
    ⟨sound_initial marked, hnone⟩
    fun _ _ _ _ h hstep => ⟨h.1.step hstep, oneWorker_step h.2 h.1 hstep⟩
  exact hone.2

/-! An observer that is granted and reads the baseline. -/

instance decideJournalAnswer (c : JournalCall) : DecidableEq c.Answer := by
  cases c <;> infer_instance

instance decideSupervisorAnswer (c : SupervisorCall) : DecidableEq c.Answer := by
  cases c with
  | journal c => exact decideJournalAnswer c
  | _ => infer_instance

section Reaching

variable {marked : Prop} {moves : List Move} {w w' : World} {p : ℕ} {process : Process}
  {e : SupervisorEvent} {events later : List SupervisorEvent}

lemma lives_becomes (h : process.ended = none) : (w.becomes p process).Lives p process :=
  ⟨becomes_process.mpr (.inl ⟨rfl, rfl⟩), h⟩

lemma lives_other {q : ℕ} {other : Process} (h : w.Lives q other) (hq : q ≠ p) :
    (w.becomes p process).Lives q other :=
  ⟨becomes_process.mpr (.inr ⟨hq, h.1⟩), h.2⟩

/-- A process that has a whole run left makes the next of its calls. -/
lemma reaches_step (hlives : w.Lives p process) (hends : Ends process.rest (e :: later) ())
    (hperforms : w.Performs p process e w') :
    ∃ rest, Ends (process.goesOn e rest).rest later () ∧
      Step w (.does p process.job e) (w'.becomes p (process.goesOn e rest)) ∧
      (w'.becomes p (process.goesOn e rest)).Lives p (process.goesOn e rest) := by
  generalize hrest : process.rest = program at hends
  cases hends with
  | step answer h => exact ⟨_, h, .does hlives hrest hperforms, lives_becomes hlives.2⟩

lemma reaches_call (hruns : Runs marked moves w) (hlives : w.Lives p process)
    (hends : Ends process.rest (e :: later) ()) (hperforms : w.Performs p process e w') :
    ∃ rest, Ends (process.goesOn e rest).rest later () ∧
      Runs marked (moves ++ [.does p process.job e]) (w'.becomes p (process.goesOn e rest)) ∧
      (w'.becomes p (process.goesOn e rest)).Lives p (process.goesOn e rest) := by
  obtain ⟨rest, hrest, hstep, hnext⟩ := reaches_step hlives hends hperforms
  exact ⟨rest, hrest, hruns.next hstep, hnext⟩

/-- A call that leaves alone what is shared, where there is a marker or none. -/
def Idle (present : Bool) (e : SupervisorEvent) : Prop :=
  isPlain e = true ∨
    e = ⟨.journal .openMarker, if present then .ok () else .error .noEntry⟩

instance idleDecidable (present : Bool) (e : SupervisorEvent) : Decidable (Idle present e) :=
  inferInstanceAs (Decidable (_ ∨ _))

lemma performs_idle {present : Bool} (hmarked : w.marked ↔ present = true) (h : Idle present e) :
    w.Performs p process e w := by
  rcases h with hplain | rfl
  · exact .plain hplain
  · cases present with
    | true => exact .findsMarker (hmarked.mpr rfl)
    | false => exact .findsNone fun hpresent => nomatch hmarked.mp hpresent

/-- It goes on through calls that leave alone what is shared. -/
lemma reaches_idle {present : Bool} (hruns : Runs marked moves w) (hlives : w.Lives p process)
    (hmarked : w.marked ↔ present = true) (hends : Ends process.rest (events ++ later) ())
    (hidle : ∀ e ∈ events, Idle present e) :
    ∃ trace rest, Ends ({ process with trace := trace, rest := rest } : Process).rest later () ∧
      Runs marked (moves ++ events.map (.does p process.job))
        (w.becomes p { process with trace := trace, rest := rest }) ∧
      (w.becomes p { process with trace := trace, rest := rest }).Lives p
        { process with trace := trace, rest := rest } := by
  induction events generalizing moves w process with
  | nil =>
    refine ⟨process.trace, process.rest, hends, ?_, lives_becomes hlives.2⟩
    have hsame : w.becomes p process = w := by
      simp only [becomes, ← hlives.1, Function.update_eq_self]
    rw [List.map_nil, List.append_nil, hsame]
    exact hruns
  | cons e events ih =>
    have hperforms : w.Performs p process e w := performs_idle hmarked (hidle e List.mem_cons_self)
    obtain ⟨rest, hrest, hstep, hnext⟩ := reaches_call hruns hlives hends hperforms
    obtain ⟨trace, rest', hrest', hruns', -⟩ := ih hstep hnext hmarked hrest
      fun e he => hidle e (List.mem_cons_of_mem _ he)
    refine ⟨trace, rest', hrest', ?_, lives_becomes hlives.2⟩
    simpa [becomes, Process.goesOn] using hruns'

end Reaching

/-- The calls of a supervisor whose observation goes well. -/
abbrev observing : List SupervisorEvent :=
  (WorkerSupervisor.healthyRun .observeBaseline false).1

/-- The observer it forks. -/
def observer : Worker := ⟨.observer, 0, 91000000000⟩

lemma observerPid_pos : (0 : Pid) < 7 := by decide

def observerPid : { child : Pid // 0 < child } := ⟨7, observerPid_pos⟩

/-- The answers to a worker that gets its grant. -/
def grantedAnswer : (c : SupervisorCall) → c.Answer
  | .readGrant _ => .ok (some 71)
  | .nowNs => uint64Second
  | .createWatcher => true
  | .detachWatcher => true
  | c => c.failed

def grantedRun : List SupervisorEvent :=
  (play (fun (_ : Unit) c => (grantedAnswer c, ()))
    ((WorkerSupervisor.minuteSupervisor.workerMain observer).run.run
      WorkerSupervisor.requiredRecovery) ()).1

/-- The first move of a run in which the first process begins a call. -/
lemma runs_enters (supervisor : WorkerSupervisor) (entry : SupervisorEntry) (memory : Supervision) :
    Runs False [.enters 0 0]
      { (initial False).becomes 0 (.enters 1 supervisor entry 0 memory) with calls := 1 } :=
  Run.start.next (.born supervisor entry memory rfl fun _ _ h => nomatch h.1)

lemma performs_fork {w : World} {p q : ℕ} {process : Process} {supervisor : WorkerSupervisor}
    {entry : SupervisorEntry} {worker : Worker} {child : { child : Pid // 0 < child }}
    (memory : Supervision) (hrole : process.role = .supervises supervisor entry)
    (hfree : w.process q = none) (hpid : w.FreePid child.val) :
    w.Performs p process ⟨.fork worker, some child⟩
      { w with
        process := Function.update w.process q
          (some (.forked child.val supervisor worker p process.job memory))
        holders := fun job => { holder | holder ∈ w.holders job ∨ holder = q ∧ p ∈ w.holders job } } :=
  .forks hrole hfree hpid

/-- A supervisor is about to fork its observer, and nobody else is there. -/
lemma supervisor_forks : ∃ moves w process recording later, Runs False moves w ∧
    w.Lives 0 process ∧ (∀ q, q ≠ 0 → w.process q = none) ∧ (w.marked ↔ false = true) ∧ process.pid = 1 ∧
      process.role = .supervises WorkerSupervisor.minuteSupervisor .observeBaseline ∧
      Ends process.rest (⟨.fork observer, some observerPid⟩ ::
        (recording ++ ⟨.sendGrant 0, true⟩ :: later)) () ∧ ∀ e ∈ recording, Idle false e := by
  obtain ⟨opening, locking, acquiring, forking, recording, later, hsplit, hidle⟩ :
      ∃ opening locking acquiring forking recording later, observing =
        opening ++ ⟨.openFile .lock, .ok ()⟩ :: (locking ++ ⟨.flock, true⟩ ::
          (acquiring ++ ⟨.socketpair, some 0⟩ :: (forking ++
            ⟨.fork observer, some observerPid⟩ :: (recording ++ ⟨.sendGrant 0, true⟩ :: later)))) ∧
        ∀ e ∈ opening ++ locking ++ acquiring ++ forking ++ recording, Idle false e :=
    ⟨observing.take 4, (observing.drop 5).take 1, (observing.drop 7).take 22,
      (observing.drop 30).take 2, (observing.drop 33).take 9, observing.drop 43,
      by decide +kernel, by decide +kernel⟩
  simp only [List.forall_mem_append] at hidle
  obtain ⟨⟨⟨⟨hopening, hlocking⟩, hacquiring⟩, hforking⟩, hrecording⟩ := hidle
  have hends : Ends (Process.enters 1 WorkerSupervisor.minuteSupervisor .observeBaseline 0
      WorkerSupervisor.requiredRecovery).rest observing () :=
    ends_bind.mpr ⟨_, [], _, (List.append_nil _).symm,
      WorkerSupervisor.healthyRun_gives .observeBaseline false, .refl _⟩
  rw [hsplit] at hends
  have hnone : False ↔ false = true := by decide
  have hstart :=
    runs_enters WorkerSupervisor.minuteSupervisor .observeBaseline WorkerSupervisor.requiredRecovery
  obtain ⟨_, rest, hends, hruns, hlives⟩ :=
    reaches_idle hstart (lives_becomes rfl) hnone hends hopening
  obtain ⟨rest, hends, hruns, hlives⟩ := reaches_call hruns hlives hends .opensLock
  obtain ⟨_, rest, hends, hruns, hlives⟩ :=
    reaches_idle hruns hlives hnone hends hlocking
  obtain ⟨rest, hends, hruns, hlives⟩ := reaches_call hruns hlives hends
    (.locks fun _ h => absurd h (Set.notMem_empty _))
  obtain ⟨_, rest, hends, hruns, hlives⟩ :=
    reaches_idle hruns hlives hnone hends hacquiring
  obtain ⟨rest, hends, hruns, hlives⟩ := reaches_call hruns hlives hends (.pairs rfl)
  obtain ⟨_, rest, hends, hruns, hlives⟩ :=
    reaches_idle hruns hlives hnone hends hforking
  exact ⟨_, _, _, recording, later, hruns, hlives, fun q hq => by simp [becomes, initial, hq],
    hnone, rfl, rfl, hends, hrecording⟩

/-- In some run an observer makes a callback. -/
lemma observer_reads : ∃ moves w w' e process, Runs False moves w ∧ Step w (.does 1 process.job e) w' ∧
    e.1 = .readBaseline ∧ w.process 1 = some process ∧
      process.role = .works WorkerSupervisor.minuteSupervisor observer 0 ∧ process.pid = 7 := by
  obtain ⟨moves, w, process, recording, later, hruns, hlives, hothers, hmarked, hpid, hrole, hends,
    hrecording⟩ := supervisor_forks
  have hfree : w.FreePid 7 := by
    intro q other hother heq
    by_cases hq : q = 0
    · subst hq
      obtain rfl := Option.some.inj (hother.1.symm.trans hlives.1)
      rw [hpid] at heq
      cases heq
    · rw [World.Lives, hothers q hq] at hother
      cases hother.1
  obtain ⟨rest, hends, hruns, hlives⟩ := reaches_call hruns hlives hends
    (performs_fork WorkerSupervisor.requiredRecovery hrole (hothers 1 one_ne_zero) hfree)
  obtain ⟨_, rest, hends, hruns, hlives⟩ :=
    reaches_idle hruns hlives hmarked hends hrecording
  obtain ⟨rest, hends, hruns, -⟩ := reaches_call hruns hlives hends .grants
  obtain ⟨entering, more, hsplit, hentering⟩ : ∃ entering more, grantedRun =
      ⟨.readGrant 0, .ok (some 71)⟩ :: (entering ++
        ⟨.readBaseline, grantedAnswer .readBaseline⟩ :: more) ∧ ∀ e ∈ entering, Idle false e :=
    ⟨(grantedRun.drop 1).take 4, grantedRun.drop 6, by decide +kernel, by decide +kernel⟩
  have hends : Ends (Process.forked 7 WorkerSupervisor.minuteSupervisor observer 0 process.job
      WorkerSupervisor.requiredRecovery).rest grantedRun () :=
    ends_bind.mpr ⟨_, [], _, (List.append_nil _).symm, ends_play _ _ _, .refl _⟩
  rw [hsplit] at hends
  obtain ⟨rest, hends, hruns, hlives⟩ := reaches_call hruns (lives_other (lives_other (lives_other
    ⟨Function.update_self 1 _ _, rfl⟩ one_ne_zero) one_ne_zero) one_ne_zero) hends
      (.readsGrant (Set.mem_insert _ _))
  obtain ⟨_, rest, hends, hruns, hlives⟩ := reaches_idle hruns hlives hmarked hends hentering
  obtain ⟨rest, -, hreads, -⟩ := reaches_step hlives hends (.plain rfl)
  exact ⟨_, _, _, _, _, hruns, hreads, rfl, hlives.1, rfl, rfl⟩

/-- Before that callback the observer was recorded and granted. -/
theorem callbacks_follow_grants_observer : ∃ moves w w' job e, Runs False moves w ∧
    Step w (.does 1 job e) w' ∧ e.1 = .readBaseline ∧ Granted 0 7 (eventsOf 0 job moves) := by
  obtain ⟨moves, w, w', e, process, hruns, hstep, hreads, hprocess, hrole, hpid⟩ := observer_reads
  have hgranted := (callbacks_follow_grants hruns hstep).1 process _ _ _ hprocess hrole
    (by rw [hreads]; rfl)
  rw [hpid] at hgranted
  exact ⟨moves, w, w', process.job, e, hruns, hstep, hreads, hgranted⟩

/-- While that observer makes its callback, no other worker is alive. -/
theorem one_worker_alive_observer : ∃ moves w, Runs False moves w ∧ WorkerAlive w 1 ∧
    ∀ q, WorkerAlive w q → q = 1 := by
  obtain ⟨moves, w, w', e, process, hruns, hstep, -, hprocess, hrole, -⟩ := observer_reads
  have halive : WorkerAlive w 1 := by
    generalize process.job = job at hstep
    cases hstep with
    | does hlives hcalls hperforms =>
      obtain rfl := Option.some.inj (hlives.1.symm.trans hprocess)
      exact ⟨_, _, _, _, hlives, hrole⟩
  exact ⟨moves, w, hruns, halive, fun q hq => one_worker_alive hruns hq halive⟩

end SupervisorSystem
end Ventilator
