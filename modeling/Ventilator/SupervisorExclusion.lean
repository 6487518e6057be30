import Ventilator.SupervisorSystem
import Ventilator.WorkerEntry

/-! At most one call has its lock file locked and open in any process, and no worker is alive when
another one is forked. -/
namespace Ventilator
open CallTree MutexRuns TraceGuard

namespace SupervisorSystem
open World

/-! What a step can do. -/

section Performs

variable {w w' : World} {p q : ℕ} {process other : Process} {e : SupervisorEvent}

@[simp] lemma becomes_process : (w.becomes p process).process q = some other ↔
    q = p ∧ other = process ∨ q ≠ p ∧ w.process q = some other := by
  by_cases hq : q = p
  · subst hq
    simp [becomes, eq_comm]
  · simp [becomes, hq]

@[simp] lemma becomes_calls : (w.becomes p process).calls = w.calls := rfl
@[simp] lemma becomes_holders : (w.becomes p process).holders = w.holders := rfl
@[simp] lemma becomes_locked : (w.becomes p process).locked = w.locked := rfl
@[simp] lemma becomes_pair : (w.becomes p process).pair = w.pair := rfl
@[simp] lemma becomes_granted : (w.becomes p process).granted = w.granted := rfl
@[simp] lemma becomes_marked : (w.becomes p process).marked = w.marked := rfl

lemma performs_calls (h : w.Performs p process e w') : w'.calls = w.calls := by
  cases h <;> rfl

/-- The lock files stay open in all processes but the one that closes its own. -/
lemma performs_keeps_open (h : w.Performs p process e w') {job : ℕ}
    (hq : q ∈ w.holders job) (hopen : q ≠ p ∨ job ≠ process.job ∨ e.1 ≠ .closeFile .lock) :
    q ∈ w'.holders job := by
  cases h with
  | opensLock =>
    by_cases hjob : job = process.job
    · subst hjob
      simp [hq]
    · simpa [hjob] using hq
  | closesLock =>
    by_cases hjob : job = process.job
    · subst hjob
      simpa [hq] using hopen
    · simpa [hjob] using hq
  | forks => exact .inl hq
  | _ => exact hq

/-- A process has a lock file open that it opened itself or that was open in the one it was
forked by. -/
lemma performs_opens (h : w.Performs p process e w') {job : ℕ} (hq : q ∈ w'.holders job) :
    (w.holders job).Nonempty ∨
      q = p ∧ job = process.job ∧ e = ⟨.openFile .lock, .ok ()⟩ := by
  cases h with
  | opensLock =>
    by_cases hjob : job = process.job
    · subst hjob
      simp only [Function.update_self, Set.mem_insert_iff] at hq
      exact hq.symm.imp (fun h => ⟨q, h⟩) fun h => ⟨h, rfl, rfl⟩
    · simp only [Function.update_of_ne hjob] at hq
      exact .inl ⟨q, hq⟩
  | closesLock =>
    by_cases hjob : job = process.job
    · subst hjob
      simp only [Function.update_self] at hq
      exact .inl ⟨q, hq.1⟩
    · simp only [Function.update_of_ne hjob] at hq
      exact .inl ⟨q, hq⟩
  | forks => exact .inl (hq.elim (fun h => ⟨q, h⟩) fun h => ⟨p, h.2⟩)
  | _ => exact .inl ⟨q, hq⟩

lemma performs_locked (h : w.Performs p process e w') {job : ℕ} : job ∈ w'.locked ↔
    job ∈ w.locked ∨ job = process.job ∧ e = ⟨.flock, true⟩ := by
  cases h with
  | locks => simp [or_comm]
  | plain hplain =>
    refine ⟨.inl, fun h => h.elim id ?_⟩
    rintro ⟨-, rfl⟩
    cases hplain
  | _ => simp

/-- The lock is given when no other open file has it. -/
lemma performs_locks (h : w.Performs p process ⟨.flock, true⟩ w') {job : ℕ} (hjob : job ∈ w.locked)
    (hne : job ≠ process.job) : w.holders job = ∅ := by
  cases h with
  | locks hfree => exact hfree job hjob hne
  | plain hplain => cases hplain

lemma performs_pair (h : w.Performs p process e w') {channel job : ℕ} :
    w'.pair channel = some job ↔ w.pair channel = some job ∨
      w.pair channel = none ∧ job = process.job ∧ e = ⟨.socketpair, some channel⟩ := by
  cases h with
  | @pairs made hfree =>
    by_cases hchannel : channel = made
    · subst hchannel
      simp [hfree, eq_comm]
    · simp [hchannel, Ne.symm hchannel]
  | plain hplain =>
    refine ⟨.inl, fun h => h.elim id ?_⟩
    rintro ⟨-, -, rfl⟩
    cases hplain
  | _ => simp

lemma performs_made {channel : ℕ} (h : w.Performs p process ⟨.socketpair, some channel⟩ w') :
    w.pair channel = none := by
  cases h with
  | pairs hfree => exact hfree
  | plain hplain => cases hplain

lemma performs_opened (h : w.Performs p process ⟨.openFile .lock, .ok ()⟩ w') :
    p ∈ w'.holders process.job := by
  cases h with
  | opensLock => simp
  | plain hplain => cases hplain

lemma performs_granted (h : w.Performs p process e w') {channel : ℕ} :
    channel ∈ w'.granted ↔ channel ∈ w.granted ∨ e = ⟨.sendGrant channel, true⟩ := by
  cases h with
  | grants => simp [or_comm, eq_comm]
  | plain hplain =>
    refine ⟨.inl, fun h => h.elim id ?_⟩
    rintro rfl
    cases hplain
  | _ => simp

/-- A worker reads a grant that was sent. -/
lemma performs_reads {channel : ℕ} (h : w.Performs p process ⟨.readGrant channel, .ok (some 71)⟩ w') :
    channel ∈ w.granted := by
  cases h with
  | readsGrant hgranted => exact hgranted
  | plain hplain => cases hplain

/-- After a call every other process is as it was, or a worker that was forked by it. -/
lemma performs_process (h : w.Performs p process e w') {next : Process}
    (hother : (w'.becomes p next).process q = some other) :
    q = p ∧ other = next ∨ q ≠ p ∧ (w.process q = some other ∨
      ∃ worker child supervisor entry memory, e = ⟨.fork worker, some child⟩ ∧
        process.role = .supervises supervisor entry ∧ w.process q = none ∧ w.FreePid child.val ∧
        other = .forked child.val supervisor worker p process.job memory) := by
  rw [becomes_process] at hother
  refine hother.imp_right fun ⟨hq, hprocess⟩ => ⟨hq, ?_⟩
  cases h with
  | @forks worker child made supervisor entry memory hrole hfree hpid =>
    by_cases hmade : q = made
    · subst hmade
      simp only [Function.update_self, Option.some.injEq] at hprocess
      exact .inr ⟨worker, child, supervisor, entry, memory, rfl, hrole, hfree, hpid, hprocess.symm⟩
    · simp only [Function.update_of_ne hmade] at hprocess
      exact .inl hprocess
  | _ => exact .inl hprocess

/-- Only one process is new after a call. -/
lemma performs_one_new (h : w.Performs p process e w') {q' : ℕ} {other' : Process}
    (hq : w.process q = none) (hother : w'.process q = some other) (hq' : w.process q' = none)
    (hother' : w'.process q' = some other') : q = q' := by
  cases h with
  | @forks _ _ made _ _ _ _ _ =>
    have hmade : ∀ {started : Option Process} {r : ℕ} {new : Process}, w.process r = none →
        Function.update w.process made started r = some new → r = made := by
      intro started r new hnone hsome
      by_contra hne
      rw [Function.update_of_ne hne, hnone] at hsome
      cases hsome
    exact (hmade hq hother).trans (hmade hq' hother').symm
  | _ =>
    have hold : w.process q = some other := hother
    rw [hq] at hold
    cases hold

/-- A worker that is reaped is not alive. -/
lemma performs_reaps {child : Pid} {status : WaitStatus}
    (h : w.Performs p process ⟨.waitpid child, .reaped status⟩ w') {supervisor : WorkerSupervisor}
    {worker : Worker} (hq : w.Lives q other) (hrole : other.role = .works supervisor worker p) :
    other.pid ≠ child := by
  cases h with
  | reaps hended hnone => exact hnone q other supervisor worker hq hrole
  | plain hplain => cases hplain

/-- A worker that is forked inherits the lock file. -/
lemma performs_inherits {worker : Worker} {child : { child : Pid // 0 < child }}
    (h : w.Performs p process ⟨.fork worker, some child⟩ w') (hnew : w.process q = none)
    (hq : w'.process q = some other) {job : ℕ} (hp : p ∈ w.holders job) : q ∈ w'.holders job := by
  cases h with
  | @forks _ _ made _ _ _ _ hfree =>
    by_cases hmade : q = made
    · exact .inr ⟨hmade, hp⟩
    · simp only [Function.update_of_ne hmade] at hq
      rw [hnew] at hq
      cases hq
  | plain hplain => cases hplain

end Performs

/-! What holds of every process. -/

/-- The lock file was opened and is not closed. -/
def LockFileOpen (trace : List SupervisorEvent) : Prop :=
  ⟨.openFile .lock, .ok ()⟩ ∈ trace ∧ ∀ e ∈ trace, e.1 ≠ .closeFile .lock

/-- A process in a call into the supervisor: its calls are guarded, and what is shared is as they
say. -/
structure Supervising (w : World) (p : ℕ) (process : Process) (supervisor : WorkerSupervisor)
    (entry : SupervisorEntry) : Prop where
  calls : Meets (supervisor.CallGuard entry.recovering) process.trace process.rest
    fun _ _ => True
  pairs : Meets supervisor.PairGuard process.trace process.rest fun _ _ => True
  numbered : process.job < w.calls
  opening : ⟨.flock, true⟩ ∈ process.trace → ⟨.openFile .lock, .ok ()⟩ ∈ process.trace
  opened : process.ended = none → LockFileOpen process.trace → p ∈ w.holders process.job
  locked : process.job ∈ w.locked ↔ ⟨.flock, true⟩ ∈ process.trace
  made : ∀ channel, FreshPair channel process.trace → w.pair channel = some process.job

/-- A worker: its calls are guarded, it has the lock file of the call that forked it, which is
locked, and its own pair. -/
structure Working (w : World) (p : ℕ) (process : Process) (worker : Worker) : Prop where
  entry : Meets (EntryGuard worker) process.trace process.rest fun _ _ => True
  numbered : process.job < w.calls
  holds : process.ended = none → p ∈ w.holders process.job
  locked : process.job ∈ w.locked
  pair : w.pair worker.channel = some process.job
  granted : GrantRead worker process.trace → worker.channel ∈ w.granted

/-- What holds in every state of the system. -/
structure Sound (w : World) : Prop where
  supervising : ∀ {p process supervisor entry}, w.process p = some process →
    process.role = .supervises supervisor entry → Supervising w p process supervisor entry
  working : ∀ {p process supervisor worker parent}, w.process p = some process →
    process.role = .works supervisor worker parent → Working w p process worker
  numbered : ∀ job ∈ w.locked, job < w.calls
  exclusive : ∀ job ∈ w.locked, ∀ job' ∈ w.locked, (w.holders job).Nonempty →
    (w.holders job').Nonempty → job = job'
  /-- A call is made by one process. -/
  sole : ∀ {p p' process process' supervisor supervisor' entry entry'},
    w.process p = some process → w.process p' = some process' →
    process.role = .supervises supervisor entry → process'.role = .supervises supervisor' entry' →
    process.job = process'.job → p = p'
  /-- A worker that is alive is not reaped by the call that forked it. -/
  children : ∀ {p q process worked supervisor supervisor' entry worker parent},
    w.process p = some process → process.role = .supervises supervisor entry →
    w.Lives q worked → worked.role = .works supervisor' worker parent →
    worked.job = process.job → parent = p ∧ worked.pid ∈ unreaped process.trace
  /-- A pair is that of one worker. -/
  paired : ∀ {q q' worked worked' supervisor supervisor' worker worker' parent parent'},
    w.process q = some worked → w.process q' = some worked' →
    worked.role = .works supervisor worker parent →
    worked'.role = .works supervisor' worker' parent' → worker.channel = worker'.channel → q = q'
  /-- A pair that was made after the last worker was forked is that of no worker. -/
  fresh : ∀ {p q process worked supervisor supervisor' entry worker parent channel},
    w.process p = some process → process.role = .supervises supervisor entry →
    FreshPair channel process.trace → w.process q = some worked →
    worked.role = .works supervisor' worker parent → worker.channel ≠ channel

lemma sound_initial (marked : Prop) : Sound (initial marked) := by
  refine ⟨nofun, nofun, fun _ h => absurd h (Set.notMem_empty _),
    fun _ h => absurd h (Set.notMem_empty _), nofun, nofun, nofun, nofun⟩

/-! What one step keeps. -/

lemma freshPair_append {channel : ℕ} {trace : List SupervisorEvent} {e : SupervisorEvent}
    (h : FreshPair channel (trace ++ [e])) :
    e = ⟨.socketpair, some channel⟩ ∨ forked e = false ∧ FreshPair channel trace := by
  obtain ⟨early, late, heq, hlate⟩ := h
  rcases List.eq_nil_or_concat late with rfl | ⟨late, last, rfl⟩
  · exact .inl (List.cons.inj (List.append_inj' heq rfl).2).1
  · rw [List.concat_eq_append, ← List.cons_append, ← List.append_assoc] at heq
    obtain ⟨htrace, he⟩ := List.append_inj' heq rfl
    obtain rfl := (List.cons.inj he).1
    rw [List.concat_eq_append, List.forall_mem_append] at hlate
    exact .inr ⟨hlate.2 e (List.mem_singleton_self e), early, late, htrace, hlate.1⟩

section Frame

variable {w w' : World} {p : ℕ} {process : Process}

/-- A call is not concerned with what others do. -/
lemma Supervising.frame {supervisor : WorkerSupervisor} {entry : SupervisorEntry}
    (h : Supervising w p process supervisor entry) (hcalls : w.calls ≤ w'.calls)
    (hheld : p ∈ w.holders process.job → p ∈ w'.holders process.job)
    (hlocked : process.job ∈ w'.locked ↔ process.job ∈ w.locked)
    (hpair : ∀ channel job, w.pair channel = some job → w'.pair channel = some job) :
    Supervising w' p process supervisor entry :=
  ⟨h.calls, h.pairs, h.numbered.trans_le hcalls, h.opening,
    fun hlives hopen => hheld (h.opened hlives hopen), hlocked.trans h.locked,
    fun channel hfresh => hpair _ _ (h.made channel hfresh)⟩

lemma Working.frame {worker : Worker} (h : Working w p process worker) (hcalls : w.calls ≤ w'.calls)
    (hheld : p ∈ w.holders process.job → p ∈ w'.holders process.job)
    (hlocked : ∀ job ∈ w.locked, job ∈ w'.locked)
    (hpair : ∀ channel job, w.pair channel = some job → w'.pair channel = some job)
    (hgranted : ∀ channel ∈ w.granted, channel ∈ w'.granted) : Working w' p process worker :=
  ⟨h.entry, h.numbered.trans_le hcalls, fun hlives => hheld (h.holds hlives), hlocked _ h.locked,
    hpair _ _ h.pair, fun hread => hgranted _ (h.granted hread)⟩

end Frame

section Does

variable {w w' : World} {p : ℕ} {process : Process} {c : SupervisorCall} {answer : c.Answer}
  {next : c.Answer → Program} (hlives : w.Lives p process) (hcalls : process.rest = .call c next)
  (hperforms : w.Performs p process ⟨c, answer⟩ w')

include hcalls in
/-- What must have happened before the next call of a supervisor. -/
lemma Supervising.guards {supervisor : WorkerSupervisor} {entry : SupervisorEntry}
    (h : Supervising w p process supervisor entry) (answer : c.Answer) :
    (supervisor.CallGuard entry.recovering process.trace ⟨c, answer⟩ ∧
      supervisor.PairGuard process.trace ⟨c, answer⟩) ∧
    Meets (supervisor.CallGuard entry.recovering) (process.trace ++ [⟨c, answer⟩]) (next answer)
      (fun _ _ => True) ∧
    Meets supervisor.PairGuard (process.trace ++ [⟨c, answer⟩]) (next answer)
      fun _ _ => True := by
  have hcall := h.calls
  have hpair := h.pairs
  rw [hcalls] at hcall hpair
  exact ⟨⟨(hcall answer).1, (hpair answer).1⟩, (hcall answer).2, (hpair answer).2⟩

include hcalls in
lemma Working.guards {worker : Worker} (h : Working w p process worker) (answer : c.Answer) :
    EntryGuard worker process.trace ⟨c, answer⟩ ∧
      Meets (EntryGuard worker) (process.trace ++ [⟨c, answer⟩]) (next answer)
        fun _ _ => True := by
  have hentry := h.entry
  rw [hcalls] at hentry
  exact hentry answer

include hlives hcalls hperforms in
/-- A supervisor's call. -/
lemma Supervising.does {supervisor : WorkerSupervisor} {entry : SupervisorEntry}
    (h : Supervising w p process supervisor entry) :
    Supervising (w'.becomes p (process.goesOn ⟨c, answer⟩ (next answer))) p
      (process.goesOn ⟨c, answer⟩ (next answer)) supervisor entry := by
  obtain ⟨⟨hcall, -⟩, hmeets, hpairs⟩ := h.guards hcalls answer
  refine ⟨hmeets, hpairs, ?numbered, ?opening, ?opened, ?locked, ?made⟩
  case numbered =>
    rw [becomes_calls, performs_calls hperforms]
    exact h.numbered
  case opening =>
    intro hlocks
    apply List.mem_append_left
    rcases List.mem_append.mp hlocks with hlocks | hlocks
    · exact h.opening hlocks
    · cases List.mem_singleton.mp hlocks
      exact hcall.1
  case opened =>
    rintro - ⟨hopen, hclosed⟩
    rw [Process.goesOn, List.forall_mem_append] at hclosed
    rcases List.mem_append.mp hopen with hopen | hopen
    · exact performs_keeps_open hperforms (h.opened hlives.2 ⟨hopen, hclosed.1⟩)
        (.inr (.inr (hclosed.2 _ (List.mem_singleton_self _))))
    · cases List.mem_singleton.mp hopen
      have hopened := performs_opened hperforms
      exact hopened
  case locked =>
    have hevent : ⟨.flock, true⟩ ∈ process.trace ++ [⟨c, answer⟩] ↔
        ⟨.flock, true⟩ ∈ process.trace ∨ (⟨c, answer⟩ : SupervisorEvent) = ⟨.flock, true⟩ := by
      rw [List.mem_append, List.mem_singleton, eq_comm]
    rw [becomes_locked, performs_locked hperforms]
    exact (or_congr h.locked (and_iff_right rfl)).trans hevent.symm
  case made =>
    intro channel hfresh
    rw [becomes_pair, performs_pair hperforms]
    rcases freshPair_append hfresh with heq | ⟨-, hfresh⟩
    · cases heq
      exact .inr ⟨performs_made hperforms, rfl, rfl⟩
    · exact .inl (h.made channel hfresh)

include hlives hcalls hperforms in
/-- A worker's call. -/
lemma Working.does {worker : Worker} (h : Working w p process worker) :
    Working (w'.becomes p (process.goesOn ⟨c, answer⟩ (next answer))) p
      (process.goesOn ⟨c, answer⟩ (next answer)) worker := by
  obtain ⟨⟨hworks, -⟩, hmeets⟩ := h.guards hcalls answer
  refine ⟨hmeets, ?numbered, fun _ => ?holds, ?locked, ?pair, fun hread => ?granted⟩
  case numbered =>
    rw [becomes_calls, performs_calls hperforms]
    exact h.numbered
  case holds =>
    refine performs_keeps_open hperforms (h.holds hlives.2) (.inr (.inr ?_))
    rintro rfl
    cases hworks
  case locked => exact (performs_locked hperforms).mpr (.inl h.locked)
  case pair => exact (performs_pair hperforms).mpr (.inl h.pair)
  case granted =>
    rcases List.mem_append.mp hread with hread | hread
    · exact (performs_granted hperforms).mpr (.inl (h.granted hread))
    · cases List.mem_singleton.mp hread
      exact (performs_granted hperforms).mpr (.inl (performs_reads hperforms))

/-- The process is the same one, with the same work, and has not ended in between. -/
def Process.Continues (process process' : Process) : Prop :=
  process'.role = process.role ∧ process'.job = process.job ∧ process'.pid = process.pid ∧
    process'.ended = process.ended

include hlives hperforms in
/-- After a call every process was there before, unless it was forked by it. -/
lemma does_continues {q : ℕ} {other : Process} {rest : Program}
    (hother : (w'.becomes p (process.goesOn ⟨c, answer⟩ rest)).process q = some other) :
    (∃ before, w.process q = some before ∧ before.Continues other) ∨
      ∃ worker child supervisor entry memory,
        (⟨c, answer⟩ : SupervisorEvent) = ⟨.fork worker, some child⟩ ∧
        process.role = .supervises supervisor entry ∧ w.process q = none ∧ q ≠ p ∧
        other = .forked child.val supervisor worker p process.job memory := by
  rcases performs_process hperforms hother with ⟨rfl, rfl⟩ | ⟨hne, hold | hnew⟩
  · exact .inl ⟨process, hlives.1, rfl, rfl, rfl, rfl⟩
  · exact .inl ⟨other, hold, rfl, rfl, rfl, rfl⟩
  · obtain ⟨worker, child, supervisor, entry, memory, he, hrole, hfree, -, hforked⟩ := hnew
    exact .inr ⟨worker, child, supervisor, entry, memory, he, hrole, hfree, hne, hforked⟩

end Does

/-! The steps. -/

lemma mem_unreaped_append {pid : Pid} {trace : List SupervisorEvent} {e : SupervisorEvent}
    (h : pid ∈ unreaped trace) (hne : ∀ status, e ≠ ⟨.waitpid pid, .reaped status⟩) :
    pid ∈ unreaped (trace ++ [e]) := by
  rw [unreaped_append, List.foldl_cons, List.foldl_nil]
  obtain ⟨c, answer⟩ := e
  cases c with
  | fork worker =>
    cases answer with
    | none => exact h
    | some child => exact List.mem_cons_of_mem _ h
  | waitpid child =>
    cases answer with
    | reaped status =>
      have hchild : pid ≠ child := by
        rintro rfl
        exact hne status rfl
      exact (List.mem_erase_of_ne hchild).mpr h
    | _ => exact h
  | _ => exact h

section Steps

variable {w : World}

lemma not_freshPair_nil {channel : ℕ} : ¬ FreshPair channel [] := by
  rintro ⟨early, late, heq, -⟩
  simp at heq

/-- A call that begins has made no call of its own yet. -/
lemma Sound.entered (h : Sound w) (p : ℕ) (pid : Pid) (supervisor : WorkerSupervisor)
    (entry : SupervisorEntry) (memory : Supervision) :
    Supervising { w.becomes p (.enters pid supervisor entry w.calls memory) with
      calls := w.calls + 1 } p (.enters pid supervisor entry w.calls memory) supervisor entry where
  calls := Meets.bind (WorkerSupervisor.entry_reports entry) fun _ _ _ => trivial
  pairs := Meets.bind (WorkerSupervisor.pairs_entry entry [] memory) fun _ _ _ => trivial
  numbered := Nat.lt_succ_self _
  opening := nofun
  opened := fun _ hopen => absurd hopen.1 List.not_mem_nil
  locked := ⟨fun hlocked => absurd (h.numbered _ hlocked) (lt_irrefl _), nofun⟩
  made := fun _ hfresh => absurd hfresh not_freshPair_nil

/-- What holds of the system holds after a call begins. -/
lemma Sound.enters (h : Sound w) (p : ℕ) (pid : Pid) (supervisor : WorkerSupervisor)
    (entry : SupervisorEntry) (memory : Supervision) :
    Sound { w.becomes p (.enters pid supervisor entry w.calls memory) with
      calls := w.calls + 1 } := by
  have hprocess : ∀ {q other}, (w.becomes p (.enters pid supervisor entry w.calls memory)).process q =
      some other → q = p ∧ other = .enters pid supervisor entry w.calls memory ∨
        q ≠ p ∧ w.process q = some other := becomes_process.mp
  have hold : ∀ {q other supervisor' worker parent},
      (w.becomes p (.enters pid supervisor entry w.calls memory)).process q = some other →
      other.role = .works supervisor' worker parent → w.process q = some other := by
    intro q other supervisor' worker parent hother hrole
    rcases hprocess hother with ⟨-, rfl⟩ | ⟨-, hbefore⟩
    · cases hrole
    · exact hbefore
  refine ⟨?supervising, ?working, ?numbered, h.exclusive, ?sole, ?children, ?paired, ?fresh⟩
  case supervising =>
    intro q other supervisor' entry' hother hrole
    rcases hprocess hother with ⟨rfl, rfl⟩ | ⟨-, hbefore⟩
    · cases hrole
      exact h.entered q pid supervisor entry memory
    · exact (h.supervising hbefore hrole).frame (Nat.le_succ _) id Iff.rfl fun _ _ => id
  case working =>
    intro q other supervisor' worker parent hother hrole
    exact (h.working (hold hother hrole) hrole).frame (Nat.le_succ _) id (fun _ => id)
      (fun _ _ => id) fun _ => id
  case numbered => exact fun job hlocked => (h.numbered job hlocked).trans (Nat.lt_succ_self _)
  case sole =>
    intro q q' other other' supervisor' supervisor'' entry' entry'' hother hother' hrole hrole' hjob
    rcases hprocess hother with ⟨rfl, rfl⟩ | ⟨-, hbefore⟩
    · rcases hprocess hother' with ⟨rfl, -⟩ | ⟨-, hbefore'⟩
      · rfl
      · exact absurd hjob (h.supervising hbefore' hrole').numbered.ne'
    · rcases hprocess hother' with ⟨rfl, rfl⟩ | ⟨-, hbefore'⟩
      · exact absurd hjob (h.supervising hbefore hrole).numbered.ne
      · exact h.sole hbefore hbefore' hrole hrole' hjob
  case children =>
    intro q q' caller worked supervisor' supervisor'' entry' worker parent hcaller hrole hworked
      hworks hjob
    have hbefore := hold hworked.1 hworks
    rcases hprocess hcaller with ⟨-, rfl⟩ | ⟨-, hcalled⟩
    · exact absurd hjob (h.working hbefore hworks).numbered.ne
    · exact h.children hcalled hrole ⟨hbefore, hworked.2⟩ hworks hjob
  case paired =>
    intro q q' worked worked' supervisor' supervisor'' worker worker' parent parent' hworked hworked'
      hworks hworks'
    exact h.paired (hold hworked hworks) (hold hworked' hworks') hworks hworks'
  case fresh =>
    intro q q' caller worked supervisor' supervisor'' entry' worker parent channel hcaller hrole
      hfresh hworked hworks
    rcases hprocess hcaller with ⟨-, rfl⟩ | ⟨-, hcalled⟩
    · exact absurd hfresh not_freshPair_nil
    · exact h.fresh hcalled hrole hfresh (hold hworked hworks) hworks

/-- What holds of the system holds after a process ends. -/
lemma Sound.ends (h : Sound w) {p : ℕ} {process : Process} (hlives : w.Lives p process)
    (status : WaitStatus) :
    Sound { w.becomes p { process with ended := some status } with
      holders := fun job => w.holders job \ {p} } := by
  have hprocess : ∀ {q other}, (w.becomes p { process with ended := some status }).process q =
      some other → q = p ∧ other = { process with ended := some status } ∨
        q ≠ p ∧ w.process q = some other := becomes_process.mp
  have hbefore : ∀ {q other}, (w.becomes p { process with ended := some status }).process q =
      some other → ∃ before, w.process q = some before ∧ other.role = before.role ∧
        other.job = before.job ∧ other.trace = before.trace := by
    intro q other hother
    rcases hprocess hother with ⟨rfl, rfl⟩ | ⟨-, hold⟩
    · exact ⟨process, hlives.1, rfl, rfl, rfl⟩
    · exact ⟨other, hold, rfl, rfl, rfl⟩
  have hopen : ∀ {job}, (w.holders job \ {p}).Nonempty → (w.holders job).Nonempty :=
    fun hopen => hopen.mono Set.sdiff_subset
  refine ⟨?supervising, ?working, h.numbered, ?exclusive, ?sole, ?children, ?paired, ?fresh⟩
  case supervising =>
    intro q other supervisor entry hother hrole
    rcases hprocess hother with ⟨rfl, rfl⟩ | ⟨hne, hold⟩
    · have hdone := h.supervising hlives.1 hrole
      exact ⟨hdone.calls, hdone.pairs, hdone.numbered, hdone.opening, nofun, hdone.locked, hdone.made⟩
    · exact (h.supervising hold hrole).frame le_rfl (fun hheld => ⟨hheld, hne⟩) Iff.rfl
        fun _ _ => id
  case working =>
    intro q other supervisor worker parent hother hrole
    rcases hprocess hother with ⟨rfl, rfl⟩ | ⟨hne, hold⟩
    · have hdone := h.working hlives.1 hrole
      exact ⟨hdone.entry, hdone.numbered, nofun, hdone.locked, hdone.pair, hdone.granted⟩
    · exact (h.working hold hrole).frame le_rfl (fun hheld => ⟨hheld, hne⟩) (fun _ => id)
        (fun _ _ => id) fun _ => id
  case exclusive =>
    exact fun job hlocked job' hlocked' hheld hheld' =>
      h.exclusive job hlocked job' hlocked' (hopen hheld) (hopen hheld')
  case sole =>
    intro q q' other other' supervisor supervisor' entry entry' hother hother' hrole hrole' hjob
    obtain ⟨before, hold, hsame, hsameJob, -⟩ := hbefore hother
    obtain ⟨before', hold', hsame', hsameJob', -⟩ := hbefore hother'
    exact h.sole hold hold' (hsame.symm.trans hrole) (hsame'.symm.trans hrole')
      (by rw [← hsameJob, ← hsameJob', hjob])
  case children =>
    intro q q' caller worked supervisor supervisor' entry worker parent hcaller hrole hworked hworks
      hjob
    obtain ⟨before, hold, hsame, hsameJob, htrace⟩ := hbefore hcaller
    rcases hprocess hworked.1 with ⟨-, rfl⟩ | ⟨-, hworking⟩
    · cases hworked.2
    · rw [htrace]
      exact h.children hold (hsame.symm.trans hrole) ⟨hworking, hworked.2⟩ hworks
        (hjob.trans hsameJob)
  case paired =>
    intro q q' worked worked' supervisor supervisor' worker worker' parent parent' hworked hworked'
      hworks hworks'
    obtain ⟨before, hold, hsame, -⟩ := hbefore hworked
    obtain ⟨before', hold', hsame', -⟩ := hbefore hworked'
    exact h.paired hold hold' (hsame.symm.trans hworks) (hsame'.symm.trans hworks')
  case fresh =>
    intro q q' caller worked supervisor supervisor' entry worker parent channel hcaller hrole hfresh
      hworked hworks
    obtain ⟨before, hold, hsame, -, htrace⟩ := hbefore hcaller
    obtain ⟨before', hold', hsame', -⟩ := hbefore hworked
    rw [htrace] at hfresh
    exact h.fresh hold (hsame.symm.trans hrole) hfresh hold' (hsame'.symm.trans hworks)

section Does

variable {w' : World} {p : ℕ} {process : Process} {c : SupervisorCall} {answer : c.Answer}
  {next : c.Answer → Program} (hsound : Sound w) (hlives : w.Lives p process)
  (hcalls : process.rest = .call c next) (hperforms : w.Performs p process ⟨c, answer⟩ w')

include hsound hlives hcalls

/-- Only a supervisor makes a call that is not a worker's. -/
lemma Sound.supervises (hc : c.isWorkers = false) : ∃ supervisor entry,
    process.role = .supervises supervisor entry ∧
      Supervising w p process supervisor entry := by
  cases hrole : process.role with
  | supervises supervisor entry =>
    exact ⟨supervisor, entry, rfl, hsound.supervising hlives.1 hrole⟩
  | works supervisor worker parent =>
    have hguard := ((hsound.working hlives.1 hrole).guards hcalls c.failed).1.1
    rw [hc] at hguard
    cases hguard

/-- A call that forks has the lock, and none of the workers that it forked before is alive. -/
lemma Sound.alone {worker : Worker} (hc : c = .fork worker) :
    ∃ supervisor entry, process.role = .supervises supervisor entry ∧
      p ∈ w.holders process.job ∧ process.job ∈ w.locked ∧
      w.pair worker.channel = some process.job ∧ FreshPair worker.channel process.trace ∧
      ∀ q worked supervisor' worker' parent, w.Lives q worked →
        worked.role ≠ .works supervisor' worker' parent := by
  subst hc
  obtain ⟨supervisor, entry, hrole, hsupervising⟩ := hsound.supervises hlives hcalls rfl
  obtain ⟨⟨⟨hheld, hnone, -⟩, hfresh⟩, -⟩ := hsupervising.guards hcalls none
  have hlocked := hsupervising.locked.mpr hheld.1
  have hopen := hsupervising.opened hlives.2 ⟨hsupervising.opening hheld.1, hheld.2⟩
  refine ⟨supervisor, entry, hrole, hopen, hlocked, hsupervising.made _ hfresh, hfresh, ?_⟩
  intro q worked supervisor' worker' parent hworked hworks
  have hworking := hsound.working hworked.1 hworks
  have hjob := hsound.exclusive _ hworking.locked _ hlocked ⟨q, hworking.holds hworked.2⟩ ⟨p, hopen⟩
  have hunreaped := (hsound.children hlives.1 hrole hworked hworks hjob).2
  rw [hnone] at hunreaped
  cases hunreaped

include hperforms

lemma Sound.does_supervising {q : ℕ} {other : Process} {supervisor : WorkerSupervisor}
    {entry : SupervisorEntry}
    (hother : (w'.becomes p (process.goesOn ⟨c, answer⟩ (next answer))).process q = some other)
    (hrole : other.role = .supervises supervisor entry) :
    Supervising (w'.becomes p (process.goesOn ⟨c, answer⟩ (next answer))) q other supervisor
      entry := by
  rcases performs_process hperforms hother with ⟨rfl, rfl⟩ | ⟨hne, hold | hnew⟩
  · exact (hsound.supervising hlives.1 hrole).does hlives hcalls hperforms
  · have hbefore := hsound.supervising hold hrole
    refine hbefore.frame (performs_calls hperforms).ge
      (fun hheld => performs_keeps_open hperforms hheld (.inl hne)) ?_
      fun channel job hpair => (performs_pair hperforms).mpr (.inl hpair)
    refine (performs_locked hperforms).trans ⟨fun hlocked => hlocked.elim id ?_, .inl⟩
    rintro ⟨hjob, heq⟩
    cases heq
    obtain ⟨supervisor', entry', hrole', -⟩ := hsound.supervises hlives hcalls rfl
    exact absurd (hsound.sole hold hlives.1 hrole hrole' hjob) hne
  · obtain ⟨worker, child, supervisor', entry', memory, -, -, -, -, rfl⟩ := hnew
    cases hrole

lemma Sound.does_working {q : ℕ} {other : Process} {supervisor : WorkerSupervisor}
    {worker : Worker} {parent : ℕ}
    (hother : (w'.becomes p (process.goesOn ⟨c, answer⟩ (next answer))).process q = some other)
    (hrole : other.role = .works supervisor worker parent) :
    Working (w'.becomes p (process.goesOn ⟨c, answer⟩ (next answer))) q other worker := by
  rcases performs_process hperforms hother with ⟨rfl, rfl⟩ | ⟨hne, hold | hnew⟩
  · exact (hsound.working hlives.1 hrole).does hlives hcalls hperforms
  · exact (hsound.working hold hrole).frame (performs_calls hperforms).ge
      (fun hheld => performs_keeps_open hperforms hheld (.inl hne))
      (fun job hlocked => (performs_locked hperforms).mpr (.inl hlocked))
      (fun channel job hpair => (performs_pair hperforms).mpr (.inl hpair))
      fun channel hgranted => (performs_granted hperforms).mpr (.inl hgranted)
  · obtain ⟨forked, child, supervisor', entry', memory, heq, -, hfree, -, rfl⟩ := hnew
    cases heq
    cases hrole
    obtain ⟨supervisor'', entry'', hrole'', hopen, hlocked, hpair, -⟩ :=
      hsound.alone hlives hcalls rfl
    have hsupervising := hsound.supervising hlives.1 hrole''
    have hmeets : Meets (EntryGuard worker) []
        ((supervisor.workerMain worker).run.run memory >>= fun _ => pure ()) fun _ _ => True :=
      Meets.bind (WorkerSupervisor.workerMain_enters supervisor worker memory)
        fun _ _ _ => trivial
    have hmade : w'.process q = some (.forked child.val supervisor worker p process.job memory) := by
      rw [becomes_process] at hother
      exact hother.elim (fun h => absurd h.1 hne) fun h => h.2
    exact ⟨hmeets, by rw [becomes_calls, performs_calls hperforms]; exact hsupervising.numbered,
      fun _ => performs_inherits hperforms hfree hmade hopen,
      (performs_locked hperforms).mpr (.inl hlocked),
      (performs_pair hperforms).mpr (.inl hpair), nofun⟩

/-- A lock file that is locked and open after a call was locked and open before, or the call
locked its own. -/
lemma Sound.does_locks {job : ℕ} (hlocked : job ∈ w'.locked) (hopen : (w'.holders job).Nonempty) :
    job ∈ w.locked ∧ (w.holders job).Nonempty ∨
      job = process.job ∧ (⟨c, answer⟩ : SupervisorEvent) = ⟨.flock, true⟩ := by
  refine ((performs_locked hperforms).mp hlocked).imp_left fun hbefore => ⟨hbefore, ?_⟩
  obtain ⟨q, hq⟩ := hopen
  rcases performs_opens hperforms hq with hheld | ⟨-, rfl, heq⟩
  · exact hheld
  · cases heq
    obtain ⟨supervisor, entry, hrole, hsupervising⟩ := hsound.supervises hlives hcalls rfl
    have hguard := (hsupervising.guards hcalls (.ok ())).1.1
    exact absurd rfl (hguard _ (hsupervising.locked.mp hbefore)).2.1

lemma Sound.does_exclusive : ∀ job ∈ w'.locked, ∀ job' ∈ w'.locked, (w'.holders job).Nonempty →
    (w'.holders job').Nonempty → job = job' := by
  have hfree : ∀ {job}, (⟨c, answer⟩ : SupervisorEvent) = ⟨.flock, true⟩ → job ∈ w.locked →
      (w.holders job).Nonempty → job = process.job := by
    intro job heq hlocked hopen
    cases heq
    by_contra hne
    rw [performs_locks hperforms hlocked hne] at hopen
    exact Set.not_nonempty_empty hopen
  intro job hlocked job' hlocked' hopen hopen'
  rcases hsound.does_locks hlives hcalls hperforms hlocked hopen with ⟨hold, hheld⟩ | ⟨rfl, heq⟩
  · rcases hsound.does_locks hlives hcalls hperforms hlocked' hopen' with
      ⟨hold', hheld'⟩ | ⟨rfl, heq⟩
    · exact hsound.exclusive _ hold _ hold' hheld hheld'
    · exact hfree heq hold hheld
  · rcases hsound.does_locks hlives hcalls hperforms hlocked' hopen' with
      ⟨hold', hheld'⟩ | ⟨rfl, -⟩
    · exact (hfree heq hold' hheld').symm
    · rfl

omit hcalls in
lemma Sound.does_sole {q q' : ℕ} {other other' : Process} {supervisor supervisor' : WorkerSupervisor}
    {entry entry' : SupervisorEntry}
    (hother : (w'.becomes p (process.goesOn ⟨c, answer⟩ (next answer))).process q = some other)
    (hother' : (w'.becomes p (process.goesOn ⟨c, answer⟩ (next answer))).process q' = some other')
    (hrole : other.role = .supervises supervisor entry)
    (hrole' : other'.role = .supervises supervisor' entry') (hjob : other.job = other'.job) :
    q = q' := by
  rcases does_continues hlives hperforms hother with ⟨before, hold, hsame⟩ | hnew
  · rcases does_continues hlives hperforms hother' with ⟨before', hold', hsame'⟩ | hnew
    · exact hsound.sole hold hold' (hsame.1.symm.trans hrole) (hsame'.1.symm.trans hrole')
        (by rw [← hsame.2.1, ← hsame'.2.1, hjob])
    · obtain ⟨worker, child, supervisor'', entry'', memory, -, -, -, -, rfl⟩ := hnew
      cases hrole'
  · obtain ⟨worker, child, supervisor'', entry'', memory, -, -, -, -, rfl⟩ := hnew
    cases hrole

/-- A worker that is alive stays unreaped in the call that forked it. -/
lemma Sound.does_unreaped {p' q : ℕ} {caller worked : Process}
    {supervisor supervisor' : WorkerSupervisor} {entry : SupervisorEntry} {worker : Worker}
    {parent : ℕ}
    (hcaller : (w'.becomes p (process.goesOn ⟨c, answer⟩ (next answer))).process p' = some caller)
    (hrole : caller.role = .supervises supervisor entry)
    (hworked : (w'.becomes p (process.goesOn ⟨c, answer⟩ (next answer))).Lives q worked)
    (hworks : worked.role = .works supervisor' worker parent) (hjob : worked.job = caller.job) :
    parent = p' ∧ worked.pid ∈ unreaped caller.trace := by
  rcases does_continues hlives hperforms hworked.1 with ⟨before, hold, hsame⟩ | hnew
  · have hbefore : w.Lives q before := ⟨hold, hsame.2.2.2.symm.trans hworked.2⟩
    have hworks' := hsame.1.symm.trans hworks
    rcases performs_process hperforms hcaller with ⟨rfl, rfl⟩ | ⟨hne, hcalled | hnew⟩
    · obtain ⟨rfl, hunreaped⟩ := hsound.children hlives.1 hrole hbefore hworks'
        (hsame.2.1.symm.trans hjob)
      refine ⟨rfl, ?_⟩
      rw [hsame.2.2.1]
      refine mem_unreaped_append hunreaped fun status heq => ?_
      cases heq
      exact performs_reaps hperforms hbefore hworks' rfl
    · rw [hsame.2.2.1]
      exact hsound.children hcalled hrole hbefore hworks' (hsame.2.1.symm.trans hjob)
    · obtain ⟨worker, child, supervisor'', entry'', memory, -, -, -, -, rfl⟩ := hnew
      cases hrole
  · obtain ⟨forked, child, supervisor'', entry'', memory, heq, hrole', -, -, rfl⟩ := hnew
    cases hworks
    rcases performs_process hperforms hcaller with ⟨rfl, rfl⟩ | ⟨hne, hcalled | hnew⟩
    · cases heq
      refine ⟨rfl, ?_⟩
      rw [Process.goesOn, unreaped_append]
      exact List.mem_cons_self
    · exact absurd (hsound.sole hcalled hlives.1 hrole hrole' hjob.symm) hne
    · obtain ⟨worker, child, supervisor'', entry'', memory, -, -, -, -, rfl⟩ := hnew
      cases hrole

/-- A pair that was made in a call, without a fork since, is that of no worker. -/
lemma Sound.does_fresh {p' q channel : ℕ} {caller worked : Process}
    {supervisor supervisor' : WorkerSupervisor} {entry : SupervisorEntry} {worker : Worker}
    {parent : ℕ}
    (hcaller : (w'.becomes p (process.goesOn ⟨c, answer⟩ (next answer))).process p' = some caller)
    (hrole : caller.role = .supervises supervisor entry) (hfresh : FreshPair channel caller.trace)
    (hworked : (w'.becomes p (process.goesOn ⟨c, answer⟩ (next answer))).process q = some worked)
    (hworks : worked.role = .works supervisor' worker parent) : worker.channel ≠ channel := by
  rcases does_continues hlives hperforms hworked with ⟨before, hold, hsame⟩ | hnew
  · have hworks' := hsame.1.symm.trans hworks
    rcases performs_process hperforms hcaller with ⟨rfl, rfl⟩ | ⟨hne, hcalled | hnew⟩
    · rcases freshPair_append hfresh with heq | ⟨-, hfresh⟩
      · cases heq
        rintro rfl
        have hpair := (hsound.working hold hworks').pair
        rw [performs_made hperforms] at hpair
        cases hpair
      · exact hsound.fresh hlives.1 hrole hfresh hold hworks'
    · exact hsound.fresh hcalled hrole hfresh hold hworks'
    · obtain ⟨worker, child, supervisor'', entry'', memory, -, -, -, -, rfl⟩ := hnew
      cases hrole
  · obtain ⟨forked, child, supervisor'', entry'', memory, heq, hrole', -, -, rfl⟩ := hnew
    cases heq
    cases hworks
    obtain ⟨-, -, -, -, -, hpair, -⟩ := hsound.alone hlives hcalls rfl
    rcases performs_process hperforms hcaller with ⟨rfl, rfl⟩ | ⟨hne, hcalled | hnew⟩
    · rcases freshPair_append hfresh with heq | ⟨hforked, -⟩
      · cases heq
      · cases hforked
    · rintro rfl
      have hmade := (hsound.supervising hcalled hrole).made _ hfresh
      rw [hpair] at hmade
      exact hne (hsound.sole hcalled hlives.1 hrole hrole' (Option.some.inj hmade).symm)
    · obtain ⟨worker, child, supervisor'', entry'', memory, -, -, -, -, rfl⟩ := hnew
      cases hrole

/-- No two workers have one pair. -/
lemma Sound.does_paired {q q' : ℕ} {worked worked' : Process}
    {supervisor supervisor' : WorkerSupervisor} {worker worker' : Worker} {parent parent' : ℕ}
    (hworked : (w'.becomes p (process.goesOn ⟨c, answer⟩ (next answer))).process q = some worked)
    (hworked' : (w'.becomes p (process.goesOn ⟨c, answer⟩ (next answer))).process q' =
      some worked')
    (hworks : worked.role = .works supervisor worker parent)
    (hworks' : worked'.role = .works supervisor' worker' parent')
    (hchannel : worker.channel = worker'.channel) : q = q' := by
  rcases does_continues hlives hperforms hworked with ⟨before, hold, hsame⟩ | hnew
  · rcases does_continues hlives hperforms hworked' with ⟨before', hold', hsame'⟩ | hnew'
    · exact hsound.paired hold hold' (hsame.1.symm.trans hworks) (hsame'.1.symm.trans hworks')
        hchannel
    · obtain ⟨forked, child, supervisor'', entry, memory, heq, hrole, -, -, rfl⟩ := hnew'
      cases heq
      cases hworks'
      obtain ⟨-, -, -, -, -, -, hfresh, -⟩ := hsound.alone hlives hcalls rfl
      exact absurd hchannel
        (hsound.fresh hlives.1 hrole hfresh hold (hsame.1.symm.trans hworks))
  · obtain ⟨forked, child, supervisor'', entry, memory, heq, hrole, hfree, hne, rfl⟩ := hnew
    cases heq
    cases hworks
    rcases does_continues hlives hperforms hworked' with ⟨before', hold', hsame'⟩ | hnew'
    · obtain ⟨-, -, -, -, -, -, hfresh, -⟩ := hsound.alone hlives hcalls rfl
      exact absurd hchannel.symm
        (hsound.fresh hlives.1 hrole hfresh hold' (hsame'.1.symm.trans hworks'))
    · obtain ⟨-, -, -, -, -, -, -, hfree', hne', -⟩ := hnew'
      rw [becomes_process] at hworked hworked'
      exact performs_one_new hperforms hfree (hworked.resolve_left fun h => hne h.1).2 hfree'
        (hworked'.resolve_left fun h => hne' h.1).2

/-- What holds of the system holds after every call. -/
lemma Sound.does : Sound (w'.becomes p (process.goesOn ⟨c, answer⟩ (next answer))) where
  supervising := hsound.does_supervising hlives hcalls hperforms
  working := hsound.does_working hlives hcalls hperforms
  numbered := by
    intro job hlocked
    rw [becomes_calls, performs_calls hperforms]
    rcases (performs_locked hperforms).mp hlocked with hold | ⟨rfl, heq⟩
    · exact hsound.numbered job hold
    · cases heq
      obtain ⟨supervisor, entry, -, hsupervising⟩ := hsound.supervises hlives hcalls rfl
      exact hsupervising.numbered
  exclusive := by
    have hexclusive := hsound.does_exclusive hlives hcalls hperforms
    exact hexclusive
  sole := hsound.does_sole hlives hperforms
  children := hsound.does_unreaped hlives hcalls hperforms
  paired := hsound.does_paired hlives hcalls hperforms
  fresh := hsound.does_fresh hlives hcalls hperforms

end Does

/-- What holds of the system is kept by every step. -/
lemma Sound.step {move : Move} {w' : World} (h : Sound w) (hstep : Step w move w') : Sound w' := by
  cases hstep with
  | born supervisor entry memory hfree hpid => exact h.enters _ _ supervisor entry memory
  | again supervisor entry memory hlives hrole hover => exact h.enters _ _ supervisor entry memory
  | does hlives hcalls hperforms => exact h.does hlives hcalls hperforms
  | ends status hlives => exact h.ends hlives status

/-- It holds in every state that the system can come to. -/
lemma sound_of_runs {marked : Prop} {moves : List Move} (h : Runs marked moves w) : Sound w :=
  h.invariant (I := fun _ w => Sound w) (sound_initial marked)
    fun _ _ _ _ hsound hstep => hsound.step hstep

end Steps

end SupervisorSystem
end Ventilator
