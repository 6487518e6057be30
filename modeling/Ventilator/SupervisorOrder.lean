import Ventilator.SupervisorPhases

/-! Whole calls of the supervisor: what every run of one of its three entries does with its
workers and its marker, and what it reports of them. -/
namespace Ventilator
open CallTree TraceGuard

/-- The calls into the supervisor. -/
inductive SupervisorEntry
  | run
  | resume
  | observeBaseline
  deriving DecidableEq

/-- The calls that recover. -/
def SupervisorEntry.recovering : SupervisorEntry → Bool
  | observeBaseline => false
  | _ => true

namespace WorkerSupervisor
open SupervisorM

def entry (supervisor : WorkerSupervisor) : SupervisorEntry → SupervisorM WorkerSupervisorReport
  | .run => supervisor.workerSupervisorRun
  | .resume => supervisor.workerSupervisorResume
  | .observeBaseline => supervisor.observeBaseline

/-- Nothing but idle calls that remove no marker was made. -/
def Unworked (history : List SupervisorEvent) : Prop :=
  ∀ e ∈ history, e.1.isIdle = true ∧ e.1 ≠ .journal .unlinkMarker

variable {supervisor : WorkerSupervisor} {recovering : Bool} {history : List SupervisorEvent}
  {state : Supervision}

lemma Unworked.quiet {more : List SupervisorEvent} (h : Unworked history)
    (hmore : ∀ e ∈ more, e.1.isQuiet = true) : Unworked (history ++ more) := by
  refine List.forall_mem_append.mpr ⟨h, fun e he => ⟨isIdle_of_quiet (hmore e he), fun heq => ?_⟩⟩
  have hquiet := hmore e he
  rw [heq] at hquiet
  cases hquiet

lemma Unworked.event {e : SupervisorEvent} (h : Unworked history) (hidle : e.1.isIdle = true)
    (hkept : e.1 ≠ .journal .unlinkMarker) : Unworked (history ++ [e]) :=
  List.forall_mem_append.mpr ⟨h, by simpa using ⟨hidle, hkept⟩⟩

lemma Unworked.counts (h : Unworked history) : unreaped history = [] ∧ forks history = 0 := by
  have hunreaped := unreaped_idle [] fun e he => (h e he).1
  have hforks := forks_idle [] fun e he => (h e he).1
  rw [List.nil_append] at hunreaped hforks
  exact ⟨hunreaped, hforks⟩

lemma Unworked.standing (h : Unworked history) (hheld : LockHeld history)
    (hreaped : state.report.reaped = 0) : Standing [] 0 state history :=
  ⟨hheld, h.counts.1, h.counts.2, by simp [hreaped]⟩

/-- A call that did not come so far as to work reports that it was blocked. -/
lemma Unworked.reported (h : Unworked history) (hreport : state.report = .blocked) :
    supervisor.Reported state.report history := by
  rw [hreport]
  exact ⟨fun _ => ⟨h.counts.1, h.counts.2.symm⟩, nofun, nofun⟩

/-! Taking the lock. -/

/-- While a call takes the lock, it leaves its memory. -/
structure Taking (locked : List SupervisorEvent → Prop) (state state' : Supervision)
    (history : List SupervisorEvent) : Prop where
  same : state' = state
  unworked : Unworked history
  lock : locked history

lemma Taking.quiet {locked : List SupervisorEvent → Prop} {α : Type} {m : SupervisorM α}
    {state' : Supervision} (h : Taking locked state state' history) (hm : Quiet m)
    (hlocked : ∀ more, (∀ e ∈ more, e.1.isQuiet = true) → locked (history ++ more)) :
    Holds (supervisor.CallGuard recovering) history state' m
      fun _ state' after => Taking locked state state' after := by
  refine (hm _ history state' fun _ _ => callGuard_of_quiet).mono fun _ state₁ after hquiet => ?_
  obtain ⟨rfl, more, rfl, hmore⟩ := hquiet
  exact ⟨h.same, h.unworked.quiet hmore, hlocked more hmore⟩

/-- The checks under the lock are quiet. -/
lemma Taking.held {α : Type} {m : SupervisorM α} {state' : Supervision}
    (h : Taking LockHeld state state' history) (hm : Quiet m) :
    Holds (supervisor.CallGuard recovering) history state' m
      fun _ state' after => Taking LockHeld state state' after :=
  h.quiet hm fun more hmore => h.lock.grows ⟨more, rfl, fun e he => calm_of_quiet (hmore e he)⟩

lemma ownLock_takes {pending : Bool} (h : Taking LockOpened state state history) :
    Holds (supervisor.CallGuard recovering) history state (supervisor.ownLock pending)
      fun owned state' after => state' = state ∧ Unworked after ∧
        (owned = true → LockHeld after) := by
  have hquiet : ∀ more : List SupervisorEvent, (∀ e ∈ more, e.1.isQuiet = true) →
      LockOpened (history ++ more) := by
    intro more hmore
    refine ⟨List.mem_append_left _ h.lock.1, List.forall_mem_append.mpr ⟨h.lock.2, ?_⟩⟩
    rintro ⟨c, answer⟩ he
    constructor <;> rintro rfl <;> cases hmore _ he
  refine (h.quiet (quiet_privateFile .lock) hquiet).bind fun isPrivate state₁ after₁ hopened => ?_
  refine Holds.ite (fun _ => .pure ⟨hopened.same, hopened.unworked, nofun⟩) fun _ => ?_
  refine Holds.ask_bind fun locked => ⟨hopened.lock, ?_⟩
  have hunworked : Unworked (after₁ ++ [⟨.flock, locked⟩]) := hopened.unworked.event rfl nofun
  refine Holds.ite (fun _ => .pure ⟨hopened.same, hunworked, nofun⟩) fun hlocked => ?_
  rw [Bool.not_eq_true, Bool.not_eq_false'] at hlocked
  have htaken : Taking LockHeld state state₁ (after₁ ++ [⟨.flock, locked⟩]) := by
    refine ⟨hopened.same, hunworked, by rw [hlocked]; simp, ?_⟩
    exact List.forall_mem_append.mpr ⟨fun e he => (hopened.lock.2 e he).1, by simp⟩
  refine (htaken.held quiet_controlIntentRead).bind fun intent state₂ after₂ hread => ?_
  refine Holds.ite (fun _ => .pure ⟨hread.same, hread.unworked, nofun⟩) fun _ => ?_
  refine (hread.held (quiet_oldWorkerAbsent _)).bind fun absent state₃ after₃ habsent => ?_
  refine Holds.ite (fun _ => .pure ⟨habsent.same, habsent.unworked, nofun⟩) fun _ => ?_
  refine (habsent.held (.ask (by rfl))).bind fun opened state₄ after₄ hnamed => ?_
  refine Holds.ite (fun _ => .pure ⟨hnamed.same, hnamed.unworked, nofun⟩) fun _ => ?_
  refine (hnamed.held (.ask (by rfl))).bind fun named state₅ after₅ hsame => ?_
  refine Holds.ite (fun _ => .pure ⟨hsame.same, hsame.unworked, nofun⟩) fun _ => ?_
  exact (hsame.held (quiet_supervisorOwnershipRecord 0)).mono fun _ _ _ hrecorded =>
    ⟨hrecorded.same, hrecorded.unworked, fun _ => hrecorded.lock⟩

/-- Before the lock only quiet calls are made; a call that has it holds it. -/
lemma supervisorOwnershipAcquire_takes {pending : Bool}
    (h : ∀ e ∈ history, e.1.isQuiet = true) :
    Holds (supervisor.CallGuard recovering) history state
      (supervisor.supervisorOwnershipAcquire pending) fun acquired state' after =>
        state' = state ∧ Unworked after ∧ (acquired = true → LockHeld after) := by
  refine (quiet_privateDirectory _ history state fun _ _ => callGuard_of_quiet).bind ?_
  rintro isPrivate state₁ after₁ ⟨rfl, more, rfl, hmore⟩
  have hquiet : ∀ e ∈ history ++ more, e.1.isQuiet = true :=
    List.forall_mem_append.mpr ⟨h, hmore⟩
  have hunworked : Unworked (history ++ more) := by
    have hnone : Unworked [] := by simp [Unworked]
    exact hnone.quiet hquiet
  refine Holds.ite (fun _ => .pure ⟨rfl, hunworked, nofun⟩) fun _ => Holds.ask_bind fun opened => ?_
  refine ⟨fun e he => ?_, ?_⟩
  · have hcall := hquiet e he
    refine ⟨?_, ?_, ?_⟩ <;> intro heq <;> rw [heq] at hcall <;> cases hcall
  have hopened : Unworked (history ++ more ++ [⟨.openFile .lock, opened⟩]) :=
    hunworked.event rfl nofun
  cases opened with
  | error errno => exact .pure ⟨rfl, hopened, nofun⟩
  | ok u =>
    have hlock : LockOpened (history ++ more ++ [⟨.openFile .lock, .ok u⟩]) := by
      refine ⟨by simp, List.forall_mem_append.mpr ⟨fun e he => ?_, by simp⟩⟩
      have hcall := hquiet e he
      constructor <;> intro heq <;> rw [heq] at hcall <;> cases hcall
    refine (ownLock_takes ⟨rfl, hopened, hlock⟩).bind ?_
    rintro owned state₂ after₂ ⟨rfl, howned, hheld⟩
    refine Holds.ite (fun h => .pure ⟨rfl, howned, fun _ => hheld h⟩) fun _ => ?_
    refine Holds.bind (Q := fun _ state' after => state' = state₂ ∧ Unworked after) ?_ ?_
    · exact Holds.ask_bind fun closed => ⟨trivial, .pure ⟨rfl, howned.event rfl nofun⟩⟩
    · rintro ⟨⟩ state₃ after₃ ⟨rfl, hclosed⟩
      exact .pure ⟨rfl, hclosed, nofun⟩

/-! The calls. -/

lemma MarkRemoved.append {xs : List SupervisorEvent} (h : supervisor.MarkRemoved xs)
    (ys : List SupervisorEvent) : supervisor.MarkRemoved (xs ++ ys) := by
  obtain ⟨before, run, after, lease, lease', rfl, hgives⟩ := h
  exact ⟨before, run, after ++ ys, lease, lease', by simp, hgives⟩

lemma Reported.idle {report : WorkerSupervisorReport} {e : SupervisorEvent}
    (h : supervisor.Reported report history) (hidle : e.1.isIdle = true) :
    supervisor.Reported report (history ++ [e]) := by
  have hlast : ∀ e' ∈ [e], e'.1.isIdle = true := by simpa using hidle
  have hunreaped := unreaped_idle history hlast
  have hforks := forks_idle history hlast
  refine ⟨fun hresult => ?_, fun hresult => ?_, fun hresult => ?_⟩
  · rw [hunreaped, hforks]
    exact h.counted hresult
  · rw [hunreaped]
    exact h.stopped hresult
  · obtain ⟨before, after, rfl, hverified, hremoved⟩ := h.recovered hresult
    exact ⟨before, after ++ [e], by simp, hverified, hremoved.append [e]⟩

lemma finish_reports (h : supervisor.Reported state.report history) :
    Holds (supervisor.CallGuard recovering) history state finish
      fun report _ after => supervisor.Reported report after := .get_bind (.pure h)

/-- A call that worked closes the lock and reports. -/
lemma closeLock_reports (h : supervisor.Reported state.report history) :
    Holds (supervisor.CallGuard recovering) history state
      (closeLock >>= fun _ => finish)
      fun report _ after => supervisor.Reported report after := by
  refine Holds.bind (Q := fun _ state' after => supervisor.Reported state'.report after) ?_ ?_
  · exact Holds.ask_bind fun _ => ⟨trivial, .pure (h.idle rfl)⟩
  · exact fun _ _ _ hclosed => finish_reports hclosed

/-- A call that has not tried to take the lock yet. -/
structure Untaken (state : Supervision) (history : List SupervisorEvent) : Prop where
  blocked : state.report = .blocked
  quiet : ∀ e ∈ history, e.1.isQuiet = true

lemma Untaken.unworked (h : Untaken state history) : Unworked history := by
  have hnone : Unworked [] := by simp [Unworked]
  exact hnone.quiet h.quiet

lemma Untaken.goes {α : Type} {m : SupervisorM α} (h : Untaken state history) (hm : Quiet m) :
    Holds (supervisor.CallGuard recovering) history state m
      fun _ state' after => Untaken state' after := by
  refine (hm _ history state fun _ _ => callGuard_of_quiet).mono fun _ state₁ after hquiet => ?_
  obtain ⟨rfl, more, rfl, hmore⟩ := hquiet
  exact ⟨h.blocked, List.forall_mem_append.mpr ⟨h.quiet, hmore⟩⟩

lemma Untaken.finishes (h : Untaken state history) :
    Holds (supervisor.CallGuard recovering) history state finish
      fun report _ after => supervisor.Reported report after :=
  finish_reports (h.unworked.reported h.blocked)

/-- Taking the lock, a call either reports that it was blocked or goes on and holds it. -/
lemma Untaken.acquires {pending : Bool} {work : SupervisorM WorkerSupervisorReport}
    (h : Untaken state history)
    (hwork : ∀ after, Standing [] 0 state after → Unworked after →
      Holds (supervisor.CallGuard recovering) after state work
        fun report _ after => supervisor.Reported report after) :
    Holds (supervisor.CallGuard recovering) history state
      (do if !(← supervisor.supervisorOwnershipAcquire pending) then finish else work)
      fun report _ after => supervisor.Reported report after := by
  refine (supervisorOwnershipAcquire_takes h.quiet).bind ?_
  rintro acquired state₁ after₁ ⟨rfl, hunworked, hheld⟩
  refine Holds.ite (fun _ => finish_reports (hunworked.reported h.blocked)) fun hacquired => ?_
  rw [Bool.not_eq_true, Bool.not_eq_false'] at hacquired
  exact hwork after₁ (hunworked.standing (hheld hacquired) (by rw [h.blocked]; rfl)) hunworked

lemma workerSupervisorRun_reports :
    Holds (supervisor.CallGuard true) [] state supervisor.workerSupervisorRun
      fun report _ after => supervisor.Reported report after := by
  have hstart : Untaken { state with report := .blocked } [] := ⟨rfl, by simp⟩
  refine Holds.modify_bind ((hstart.goes quiet_parentCheck).bind fun _ state₁ after₁ h₁ => ?_)
  refine (h₁.goes (.ask (by rfl))).bind fun now state₂ after₂ h₂ => ?_
  refine (h₂.goes quiet_canSupervise).bind fun allowed state₃ after₃ h₃ => ?_
  refine Holds.ite (fun _ => h₃.finishes) fun _ => Holds.ite (fun _ => h₃.finishes) fun _ => ?_
  refine (h₃.goes (quiet_isCancelled _)).bind fun cancelled state₄ after₄ h₄ => ?_
  refine Holds.ite (fun _ => h₄.finishes) fun _ => Holds.get_bind ?_
  refine Holds.ite (fun _ => h₄.finishes) fun _ => ?_
  refine (h₄.goes quiet_controlIntentRead).bind fun intent state₅ after₅ h₅ => ?_
  refine Holds.ite (fun _ => h₅.finishes) fun _ => h₅.acquires fun after₆ hstanding hunworked => ?_
  refine (runOwned_reports hstanding hunworked (by rw [h₅.blocked]; rfl)).bind ?_
  exact fun _ _ _ hreported => closeLock_reports hreported

lemma workerSupervisorResume_reports :
    Holds (supervisor.CallGuard true) [] state supervisor.workerSupervisorResume
      fun report _ after => supervisor.Reported report after := by
  have hstart : Untaken { state with report := .blocked } [] := ⟨rfl, by simp⟩
  refine Holds.modify_bind ((hstart.goes quiet_parentCheck).bind fun _ state₁ after₁ h₁ => ?_)
  refine (h₁.goes quiet_canSupervise).bind fun allowed state₂ after₂ h₂ => ?_
  refine Holds.ite (fun _ => h₂.finishes) fun _ => ?_
  refine (h₂.goes quiet_controlIntentRead).bind fun intent state₃ after₃ h₃ => ?_
  refine Holds.ite (fun _ => h₃.finishes) fun _ => ?_
  refine (h₃.goes (.ask (by rfl))).bind fun now state₄ after₄ h₄ => Holds.modify_bind ?_
  have hleased : Untaken (state₄.onLease fun _ =>
      ControlLease.start .pending .readFailed none now) after₄ := ⟨h₄.blocked, h₄.quiet⟩
  refine hleased.acquires fun after₅ hstanding _ => ?_
  refine (recoverOwned_reports hstanding (by omega) ?_).bind ?_
  · rfl
  · exact fun _ _ _ hreported => closeLock_reports hreported

lemma observeBaseline_reports :
    Holds (supervisor.CallGuard false) [] state supervisor.observeBaseline
      fun report _ after => supervisor.Reported report after := by
  have hstart : Untaken { state with report := .blocked } [] := ⟨rfl, by simp⟩
  refine Holds.modify_bind ((hstart.goes quiet_parentCheck).bind fun _ state₁ after₁ h₁ => ?_)
  refine (h₁.goes quiet_canSupervise).bind fun allowed state₂ after₂ h₂ => ?_
  refine Holds.ite (fun _ => h₂.finishes) fun _ => ?_
  refine (h₂.goes quiet_controlIntentRead).bind fun intent state₃ after₃ h₃ => ?_
  refine Holds.ite (fun _ => h₃.finishes) fun _ => h₃.acquires fun after₄ hstanding _ => ?_
  refine Holds.modify_bind (Holds.modify_bind ?_)
  have hobserving : Standing [] 0 ((state₃.onLease fun _ => ControlLease.zero).setResult
      .observationFailed) after₄ := hstanding.counts rfl
  have hkind : supervisor.KindGuard false after₄ .observer := nofun
  refine (observeOwned_observed true hobserving (by omega) hkind nofun).bind ?_
  rintro verified state₅ after₅ ⟨⟨m, -, hsettled, hstanding₅⟩, -⟩
  refine Holds.ite (fun h => Holds.modify_bind (closeLock_reports ?_)) fun _ =>
    Holds.modify_bind (closeLock_reports ?_)
  · have hstood := hstanding₅ h
    exact ⟨fun _ => ⟨hstood.workers, hstood.reaped.trans hstood.counted.symm⟩, nofun, nofun⟩
  · exact hsettled.reported nofun nofun

/-- Whatever happens in it, each call into the supervisor makes every call of its own where it is
allowed, and reports what its workers and its marker came to. -/
lemma entry_reports (entry : SupervisorEntry) :
    Holds (supervisor.CallGuard entry.recovering) [] state (supervisor.entry entry)
      fun report _ after => supervisor.Reported report after := by
  cases entry with
  | run => exact workerSupervisorRun_reports
  | resume => exact workerSupervisorResume_reports
  | observeBaseline => exact observeBaseline_reports

/-! What the order of the calls says about the workers. -/

/-- Workers are forked one at a time, so no two are unreaped at once. -/
lemma unreaped_length_le {trace : List SupervisorEvent}
    (h : Guarded (supervisor.CallGuard recovering) [] trace) : (unreaped trace).length ≤ 1 := by
  induction trace using List.reverseRecOn with
  | nil => simp [unreaped]
  | append_singleton trace e ih =>
    obtain ⟨htrace, he⟩ := guarded_append.mp h
    rw [guarded_singleton, List.nil_append] at he
    rw [unreaped_append, List.foldl_cons, List.foldl_nil]
    obtain ⟨c, answer⟩ := e
    cases c with
    | fork worker =>
      cases answer with
      | none => exact ih htrace
      | some child =>
        rw [he.2.1]
        exact le_rfl
    | waitpid child =>
      cases answer with
      | reaped status => exact List.length_erase_le.trans (ih htrace)
      | running => exact ih htrace
      | failed errno => exact ih htrace
    | _ => exact ih htrace

/-- The one unreaped worker is the last one that was forked. -/
lemma unreaped_last {trace : List SupervisorEvent} {child : Pid}
    (h : Guarded (supervisor.CallGuard recovering) [] trace) (hlive : unreaped trace = [child]) :
    ∃ before e after kind, trace = before ++ e :: after ∧ Forked kind child e ∧ forks after = 0 := by
  induction trace using List.reverseRecOn with
  | nil => cases hlive
  | append_singleton trace e ih =>
    obtain ⟨htrace, he⟩ := guarded_append.mp h
    rw [guarded_singleton, List.nil_append] at he
    rw [unreaped_append, List.foldl_cons, List.foldl_nil] at hlive
    have hearlier : unreaped trace = [child] → forked e = false →
        ∃ before e' after kind, trace ++ [e] = before ++ e' :: after ∧ Forked kind child e' ∧
          forks after = 0 := by
      intro htraceLive hforked
      obtain ⟨before, e', after, kind, rfl, hfork, hnone⟩ := ih htrace htraceLive
      refine ⟨before, e', after ++ [e], kind, by simp, hfork, ?_⟩
      rw [forks_append, hnone, forks, List.countP_singleton, hforked]
      rfl
    obtain ⟨c, answer⟩ := e
    cases c with
    | fork worker =>
      cases answer with
      | none => exact hearlier hlive rfl
      | some answer =>
        rw [he.2.1] at hlive
        exact ⟨trace, _, [], worker.kind, rfl, ⟨worker, answer, rfl, rfl, List.head_eq_of_cons_eq
          hlive⟩, rfl⟩
    | waitpid child' =>
      cases answer with
      | reaped status =>
        refine hearlier ?_ rfl
        -- with at most one worker unreaped, another than the one that is left was not reaped
        have hlength := unreaped_length_le htrace
        have hmem : child ∈ unreaped trace :=
          List.mem_of_mem_erase (by rw [show (unreaped trace).erase child' = [child] from hlive]; simp)
        cases hworkers : unreaped trace with
        | nil =>
          rw [hworkers] at hmem
          cases hmem
        | cons only others =>
          rw [hworkers] at hlength hmem
          have hothers : others = [] := by simpa using hlength
          rw [hothers] at hmem ⊢
          rw [List.mem_singleton.mp hmem]
      | running => exact hearlier hlive rfl
      | failed errno => exact hearlier hlive rfl
    | _ => exact hearlier hlive rfl

/-- Whatever its workers, its clock, its cancel flag and its system calls do, a call into the
supervisor has at most one unreaped worker at every moment and forks one only when none is. An
operation is forked only once the marker was saved and before any recovery; where the call
recovers, an observer is forked only once a recovery was reaped with exit status 0, and
`worker_supervisor_observe_baseline` forks nothing but observers. The report counts every forked
worker as reaped unless the last one could not be stopped, and says that it recovered only when
its observer was verified and it removed the marker. -/
theorem entry_supervises (supervisor : WorkerSupervisor) (entry : SupervisorEntry)
    {state state' : Supervision} {trace : List SupervisorEvent}
    {result : Option WorkerSupervisorReport}
    (h : Gives (supervisor.entry entry).run state trace result state') :
    (∀ before after, trace = before ++ after → (unreaped before).length ≤ 1) ∧
    (∀ before e after kind child, trace = before ++ e :: after → Forked kind child e →
      unreaped before = [] ∧ supervisor.KindGuard entry.recovering before kind) ∧
    ∀ report, result = some report →
      (report.result ≠ .stopFailed → report.reaped.toNat = forks trace) ∧
      (report.result = .stopFailed → ∃ before e after kind child, trace = before ++ e :: after ∧
        Forked kind child e ∧ unreaped trace = [child] ∧ forks after = 0) ∧
      (report.result = .recovered → supervisor.RecoveredBy trace) := by
  have hguarded := (entry_reports entry).guarded h
  refine ⟨?_, ?_, ?_⟩
  · rintro before after rfl
    exact unreaped_length_le (guarded_append.mp hguarded).1
  · rintro before e after kind child heq ⟨worker, answer, rfl, rfl, -⟩
    have hfork := hguarded before _ after heq
    rw [List.nil_append] at hfork
    exact hfork.2
  · rintro report rfl
    have hreported : supervisor.Reported report trace := (entry_reports entry).gives h
    refine ⟨fun hresult => (hreported.counted hresult).2, fun hresult => ?_, hreported.recovered⟩
    obtain ⟨child, hlive⟩ := hreported.stopped hresult
    obtain ⟨before, e, after, kind, heq, hforked, hnone⟩ := unreaped_last hguarded hlive
    exact ⟨before, e, after, kind, child, heq, hforked, hlive, hnone⟩

/-- A journal that is pending or clear and whose calls all succeed. -/
def journalAnswer (pending : Bool) : (c : JournalCall) → c.Answer
  | .fstatDirectory => some ⟨.directory, 0o700, 0, 2, 0⟩
  | .openMarker => if pending then .ok () else .error .noEntry
  | .createMarker => true
  | .fstatMarker => some ⟨.regular, 0o600, 0, 1, 50⟩
  | .readMarker size => .ok ⟨markerContents.take size, by simp⟩
  | .writeMarker _ => .ok (Fin.last _)
  | .fsyncMarker => true
  | .closeMarker => true
  | .fsyncDirectory => true
  | .unlinkMarker => true

/-- Calls that all succeed, with workers that exit well and an observer that sends one system
record a second for a minute. -/
def healthyAnswer (pending : Bool) (reads : ℕ) : (c : SupervisorCall) → c.Answer × ℕ
  | .journal c => (journalAnswer pending c, reads)
  | .childAction => (some ⟨true, false⟩, reads)
  | .openFile _ => (.ok (), reads)
  | .fstatFile _ => (some ⟨.regular, 0o600, 0, 1, 23⟩, reads)
  | .closeFile _ => (true, reads)
  | .flock => (true, reads)
  | .lockOpened => (some ⟨1, 2⟩, reads)
  | .lockNamed => (some ⟨1, 2⟩, reads)
  | .readWorker size => (.ok ⟨(workerRecord 0).take size, by simp⟩, reads)
  | .truncateNext => (true, reads)
  | .writeNext _ => (.ok (Fin.last _), reads)
  | .fsyncNext => (true, reads)
  | .renameNext => (true, reads)
  | .socketpair => (some 0, reads)
  | .setCloexec => (true, reads)
  | .fork _ => (some ⟨7, by decide⟩, reads)
  | .sendGrant _ => (true, reads)
  | .pipe => (true, reads)
  | .setNonblocking => (true, reads)
  | c => minuteAnswer reads c

def healthyRun (entry : SupervisorEntry) (pending : Bool) :
    List SupervisorEvent × (Option WorkerSupervisorReport × Supervision) × ℕ :=
  play (healthyAnswer pending) ((minuteSupervisor.entry entry).run.run requiredRecovery) 0

lemma healthyRun_gives (entry : SupervisorEntry) (pending : Bool) :
    Gives (minuteSupervisor.entry entry).run requiredRecovery (healthyRun entry pending).1
      (healthyRun entry pending).2.1.1 (healthyRun entry pending).2.1.2 := ends_play _ _ _

/-- A recovery that goes well reaps its two workers, and reports what it did. -/
theorem entry_supervises_recovery : (healthyRun .resume true).2.1.1.map (fun report =>
      (report.result, report.reaped)) = some (.recovered, 2) ∧
    forks (healthyRun .resume true).1 = 2 ∧
    minuteSupervisor.RecoveredBy (healthyRun .resume true).1 := by
  have hresult : (healthyRun .resume true).2.1.1.map (fun report =>
      (report.result, report.reaped)) = some (.recovered, 2) := by decide +kernel
  have hends := healthyRun_gives .resume true
  refine ⟨hresult, ?_⟩
  generalize healthyRun .resume true = run at hresult hends ⊢
  obtain ⟨trace, ⟨result, state⟩, reads⟩ := run
  obtain ⟨report, rfl, hreport⟩ := Option.map_eq_some_iff.mp hresult
  obtain ⟨hrecovered, hreaped⟩ := Prod.mk.inj hreport
  obtain ⟨-, -, hreports⟩ := entry_supervises minuteSupervisor .resume hends
  obtain ⟨hcounted, -, hby⟩ := hreports report rfl
  refine ⟨?_, hby hrecovered⟩
  rw [← hcounted (by rw [hrecovered]; nofun), hreaped]
  rfl

def forksObserver : SupervisorEvent → Bool
  | ⟨.fork worker, some _⟩ => worker.kind == .observer
  | _ => false

/-- `worker_supervisor_observe_baseline` forks its observer without any recovery. -/
theorem observeBaseline_observes_unrecovered :
    ¬ ∀ before e after child, (healthyRun .observeBaseline false).1 = before ++ e :: after →
      Forked .observer child e → RecoveryExited before := by
  intro hclaim
  have hforks : (healthyRun .observeBaseline false).1.any forksObserver = true := by decide +kernel
  have hends := healthyRun_gives .observeBaseline false
  generalize healthyRun .observeBaseline false = run at hclaim hforks hends
  obtain ⟨e, he, hobserver⟩ := List.any_eq_true.mp hforks
  obtain ⟨before, after, htrace⟩ := List.append_of_mem he
  have hforked : ∃ child, Forked .observer child e := by
    obtain ⟨c, answer⟩ := e
    cases c with
    | fork worker =>
      cases answer with
      | none => cases hobserver
      | some child => exact ⟨child.val, worker, child, rfl, by simpa [forksObserver] using hobserver, rfl⟩
    | _ => cases hobserver
  obtain ⟨child, hforked⟩ := hforked
  obtain ⟨earlier, e', later, child', hbefore, ⟨worker, answer, rfl, hkind, -⟩, -⟩ :=
    hclaim before e after child htrace hforked
  have hguarded := (entry_reports .observeBaseline).guarded hends
  have hrecovery := hguarded earlier ⟨.fork worker, some answer⟩ (later ++ e :: after)
    (by rw [htrace, hbefore]; simp)
  have hallowed := hrecovery.2.2
  rw [hkind] at hallowed
  cases hallowed

end WorkerSupervisor
end Ventilator
