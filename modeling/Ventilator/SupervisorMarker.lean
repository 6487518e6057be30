import Ventilator.JournalMarking
import Ventilator.WorkerGrants

/-! The marker of a directory over any run of its supervisors: while it is there no more, every
operation that was granted has ended and was recovered from since. -/
namespace Ventilator
open CallTree MutexRuns TraceGuard

/-- A saved marker was created. -/
lemma WorkerSupervisor.MarkSaved.created {supervisor : WorkerSupervisor}
    {trace : List SupervisorEvent} (h : supervisor.MarkSaved trace) :
    ⟨.journal .createMarker, true⟩ ∈ trace := by
  obtain ⟨before, run, after, lease, lease', rfl, hgives⟩ := h
  rcases JournalDirectory.controlIntentMarkPending_runs hgives with
    ⟨-, hresult⟩ | ⟨read, intent, -, ⟨-, hresult⟩ | ⟨-, -, hresult⟩ | ⟨rest, -, rfl, -⟩⟩
  · cases hresult
  · exact absurd rfl hresult
  · cases hresult
  · simp [journalEvent]

namespace SupervisorSystem
open World

/-- The worker ended, and these are the last calls that the call made since. -/
def EndedBefore (moves : List Move) (q p job : ℕ) (calls : List SupervisorEvent) : Prop :=
  ∃ early late more, moves = early ++ .ends q :: late ∧ eventsOf p job late = more ++ calls

/-- The worker ended, and after that one call forked a recovery worker that exited with status 0
and an observer that it verified, and then it removed the marker. -/
def RecoveredSince (marked : Prop) (moves : List Move) (q : ℕ) : Prop :=
  ∃ early late later w p process supervisor entry,
    moves = early ++ .ends q :: late ++
      .does p process.job ⟨.journal .unlinkMarker, true⟩ :: later ∧
    Runs marked (early ++ .ends q :: late) w ∧ w.Lives p process ∧
    process.role = .supervises supervisor entry ∧
    supervisor.RecoveryVerified (eventsOf p process.job late)

section Moves

variable {marked : Prop} {moves : List Move} {q p job : ℕ} {calls : List SupervisorEvent}

lemma EndedBefore.append (h : EndedBefore moves q p job calls) (move : Move) :
    EndedBefore (moves ++ [move]) q p job (calls ++ eventsOf p job [move]) := by
  obtain ⟨early, late, more, rfl, hlate⟩ := h
  refine ⟨early, late ++ [move], more, by simp, ?_⟩
  rw [eventsOf_append, hlate, List.append_assoc]

lemma EndedBefore.other (h : EndedBefore moves q p job calls) {move : Move}
    (hmove : eventsOf p job [move] = []) : EndedBefore (moves ++ [move]) q p job calls := by
  have hnext := h.append move
  rwa [hmove, List.append_nil] at hnext

lemma EndedBefore.last (h : .ends q ∈ moves) (p job : ℕ) (e : SupervisorEvent) :
    EndedBefore (moves ++ [.does p job e]) q p job [e] := by
  obtain ⟨early, late, rfl⟩ := List.append_of_mem h
  refine ⟨early, late ++ [.does p job e], eventsOf p job late, by simp, ?_⟩
  rw [eventsOf_append, eventsOf_does_self]

lemma RecoveredSince.append (h : RecoveredSince marked moves q) (move : Move) :
    RecoveredSince marked (moves ++ [move]) q := by
  obtain ⟨early, late, later, w, p, process, supervisor, entry, rfl, hrest⟩ := h
  exact ⟨early, late, later ++ [move], w, p, process, supervisor, entry, by simp, hrest⟩

end Moves

section Performs

variable {w w' : World} {p : ℕ} {process : Process} {e : SupervisorEvent}

lemma performs_marked (h : w.Performs p process e w') : w'.marked ↔
    e = ⟨.journal .createMarker, true⟩ ∨ w.marked ∧ e ≠ ⟨.journal .unlinkMarker, true⟩ := by
  cases h with
  | plain hplain =>
    have hcreate : e ≠ ⟨.journal .createMarker, true⟩ := by
      rintro rfl
      cases hplain
    have hunlink : e ≠ ⟨.journal .unlinkMarker, true⟩ := by
      rintro rfl
      cases hplain
    simp [hcreate, hunlink]
  | marks => simp
  | unmarks => simp
  | _ => simp

end Performs

section Holding

variable {w : World} {p p' : ℕ} {process process' : Process}
  {supervisor supervisor' : WorkerSupervisor} {entry entry' : SupervisorEntry}

/-- Two calls that hold the lock are one. -/
lemma Sound.one_holder (hsound : Sound w) (hlives : w.Lives p process)
    (hlives' : w.Lives p' process') (hrole : process.role = .supervises supervisor entry)
    (hrole' : process'.role = .supervises supervisor' entry') (hheld : LockHeld process.trace)
    (hheld' : LockHeld process'.trace) : p = p' := by
  have hs := hsound.supervising hlives.1 hrole
  have hs' := hsound.supervising hlives'.1 hrole'
  have hopen := hs.opened hlives.2 ⟨hs.opening hheld.1, hheld.2⟩
  have hopen' := hs'.opened hlives'.2 ⟨hs'.opening hheld'.1, hheld'.2⟩
  have hjob := hsound.exclusive _ (hs.locked.mpr hheld.1) _ (hs'.locked.mpr hheld'.1) ⟨p, hopen⟩
    ⟨p', hopen'⟩
  exact hsound.sole hlives.1 hlives'.1 hrole hrole' hjob

end Holding

/-- What holds of the marker after some moves. -/
structure Followed (marked : Prop) (moves : List Move) (w : World) : Prop where
  runs : Runs marked moves w
  guarded : ∀ {p process supervisor entry}, w.process p = some process →
    process.role = .supervises supervisor entry →
    Guarded (supervisor.CallGuard entry.recovering) [] process.trace
  ended : ∀ {p process}, w.process p = some process → process.ended ≠ none → .ends p ∈ moves
  /-- A call that has the lock leaves the marker that it created. -/
  held : ∀ {p process supervisor entry}, w.Lives p process →
    process.role = .supervises supervisor entry →
    (∀ e ∈ process.trace, e.1 ≠ .closeFile .lock) →
    ⟨.journal .createMarker, true⟩ ∈ process.trace →
    ⟨.journal .unlinkMarker, true⟩ ∉ process.trace → w.marked
  /-- While a call that forked a recovery worker has the lock, every operation ended before. -/
  followed : ∀ {p process supervisor entry before e after child}, w.Lives p process →
    process.role = .supervises supervisor entry →
    (∀ e ∈ process.trace, e.1 ≠ .closeFile .lock) → process.trace = before ++ e :: after →
    Forked .recovery child e → ∀ {q worked supervisor' worker parent}, w.process q = some worked →
    worked.role = .works supervisor' worker parent → worker.kind = .operation →
    EndedBefore moves q p process.job (e :: after)
  recovered : ∀ {q worked supervisor worker parent}, w.process q = some worked →
    worked.role = .works supervisor worker parent → worker.kind = .operation →
    worker.channel ∈ w.granted → w.marked ∨ RecoveredSince marked moves q

lemma followed_initial (marked : Prop) : Followed marked [] (initial marked) where
  runs := .start
  guarded := nofun
  ended := nofun
  held := fun hlives => nomatch hlives.1
  followed := fun hlives => nomatch hlives.1
  recovered := nofun

section Steps

variable {marked : Prop} {moves : List Move} {w w' : World}

/-- When a call begins, nothing that was settled changes. -/
lemma Followed.enters (h : Followed marked moves w) {p : ℕ} {pid : Pid}
    (supervisor : WorkerSupervisor) (entry : SupervisorEntry) (memory : Supervision)
    (hstep : Step w (.enters p w.calls)
      { w.becomes p (.enters pid supervisor entry w.calls memory) with calls := w.calls + 1 }) :
    Followed marked (moves ++ [.enters p w.calls])
      { w.becomes p (.enters pid supervisor entry w.calls memory) with calls := w.calls + 1 } where
  runs := h.runs.next hstep
  guarded := by
    intro q process supervisor' entry' hq hrole
    rcases becomes_process.mp hq with ⟨-, rfl⟩ | ⟨-, hold⟩
    · exact guarded_nil
    · exact h.guarded hold hrole
  ended := by
    intro q process hq hended
    rcases becomes_process.mp hq with ⟨-, rfl⟩ | ⟨-, hold⟩
    · exact absurd rfl hended
    · exact List.mem_append_left _ (h.ended hold hended)
  held := by
    intro q process supervisor' entry' hlives hrole hopen hcreated hkept
    rcases becomes_process.mp hlives.1 with ⟨-, rfl⟩ | ⟨-, hold⟩
    · cases hcreated
    · exact h.held ⟨hold, hlives.2⟩ hrole hopen hcreated hkept
  followed := by
    intro q process supervisor' entry' before e after child hlives hrole hopen htrace hforked q'
      worked supervisor'' worker parent hworked hworks hkind
    rcases becomes_process.mp hlives.1 with ⟨-, rfl⟩ | ⟨-, hold⟩
    · cases before <;> cases htrace
    rcases becomes_process.mp hworked with ⟨-, rfl⟩ | ⟨-, hold'⟩
    · cases hworks
    · exact (h.followed ⟨hold, hlives.2⟩ hrole hopen htrace hforked hold' hworks hkind).other rfl
  recovered := by
    intro q worked supervisor' worker parent hworked hworks hkind hgranted
    rcases becomes_process.mp hworked with ⟨-, rfl⟩ | ⟨-, hold⟩
    · cases hworks
    · exact (h.recovered hold hworks hkind hgranted).imp_right fun hsince => hsince.append _

lemma Followed.ends (h : Followed marked moves w) {p : ℕ} {process : Process}
    (status : WaitStatus) (hlives : w.Lives p process) :
    Followed marked (moves ++ [.ends p])
      { w.becomes p { process with ended := some status } with
        holders := fun job => w.holders job \ {p} } where
  runs := h.runs.next (.ends status hlives)
  guarded := by
    intro q other supervisor entry hq hrole
    rcases becomes_process.mp hq with ⟨-, rfl⟩ | ⟨-, hold⟩
    · have hguarded := h.guarded hlives.1 hrole
      exact hguarded
    · exact h.guarded hold hrole
  ended := by
    intro q other hq hended
    rcases becomes_process.mp hq with ⟨rfl, -⟩ | ⟨-, hold⟩
    · exact List.mem_append_right _ (List.mem_singleton_self _)
    · exact List.mem_append_left _ (h.ended hold hended)
  held := by
    intro q other supervisor entry hq hrole hopen hcreated hkept
    rcases becomes_process.mp hq.1 with ⟨-, rfl⟩ | ⟨-, hold⟩
    · cases hq.2
    · exact h.held ⟨hold, hq.2⟩ hrole hopen hcreated hkept
  followed := by
    intro q other supervisor entry before e after child hq hrole hopen htrace hforked q' worked
      supervisor' worker parent hworked hworks hkind
    rcases becomes_process.mp hq.1 with ⟨-, rfl⟩ | ⟨-, hold⟩
    · cases hq.2
    rcases becomes_process.mp hworked with ⟨rfl, rfl⟩ | ⟨-, hold'⟩
    · exact (h.followed ⟨hold, hq.2⟩ hrole hopen htrace hforked hlives.1 hworks hkind).other rfl
    · exact (h.followed ⟨hold, hq.2⟩ hrole hopen htrace hforked hold' hworks hkind).other rfl
  recovered := by
    intro q worked supervisor worker parent hworked hworks hkind hgranted
    rcases becomes_process.mp hworked with ⟨rfl, rfl⟩ | ⟨-, hold⟩
    · exact (h.recovered hlives.1 hworks hkind hgranted).imp_right fun hsince => hsince.append _
    · exact (h.recovered hold hworks hkind hgranted).imp_right fun hsince => hsince.append _

end Steps

section Does

variable {marked : Prop} {moves : List Move} {w w' : World} {p : ℕ} {process : Process}
  {c : SupervisorCall} {answer : c.Answer} {next : c.Answer → Program}
  (h : Followed marked moves w) (hsound : Sound w) (hlogged : Logged moves w)
  (hlives : w.Lives p process) (hcalls : process.rest = .call c next)
  (hperforms : w.Performs p process ⟨c, answer⟩ w')

include h hsound hlives hcalls

/-- The guards of all calls that a supervisor made, with the next one. -/
lemma Followed.guards_next {supervisor : WorkerSupervisor} {entry : SupervisorEntry}
    (hrole : process.role = .supervises supervisor entry) (answer : c.Answer) :
    Guarded (supervisor.CallGuard entry.recovering) [] (process.trace ++ [⟨c, answer⟩]) := by
  have hguards := ((hsound.supervising hlives.1 hrole).guards hcalls answer).1.1
  exact guarded_append.mpr ⟨h.guarded hlives.1 hrole, guarded_singleton.mpr hguards⟩

include hperforms

lemma Followed.does_guarded {q : ℕ} {other : Process} {supervisor : WorkerSupervisor}
    {entry : SupervisorEntry}
    (hother : (w'.becomes p (process.goesOn ⟨c, answer⟩ (next answer))).process q = some other)
    (hrole : other.role = .supervises supervisor entry) :
    Guarded (supervisor.CallGuard entry.recovering) [] other.trace := by
  rcases performs_process hperforms hother with ⟨rfl, rfl⟩ | ⟨-, hold | hnew⟩
  · have hguarded := h.guards_next hsound hlives hcalls hrole answer
    exact hguarded
  · exact h.guarded hold hrole
  · obtain ⟨worker, child, supervisor', entry', memory, -, -, -, -, rfl⟩ := hnew
    cases hrole

/-- A marker that was created by a call that has the lock is removed by that call only. -/
lemma Followed.does_held {q : ℕ} {other : Process} {supervisor : WorkerSupervisor}
    {entry : SupervisorEntry}
    (hother : (w'.becomes p (process.goesOn ⟨c, answer⟩ (next answer))).Lives q other)
    (hrole : other.role = .supervises supervisor entry)
    (hopen : ∀ e ∈ other.trace, e.1 ≠ .closeFile .lock)
    (hcreated : ⟨.journal .createMarker, true⟩ ∈ other.trace)
    (hkept : ⟨.journal .unlinkMarker, true⟩ ∉ other.trace) : w'.marked := by
  rw [performs_marked hperforms]
  rcases performs_process hperforms hother.1 with ⟨rfl, rfl⟩ | ⟨hne, hold | hnew⟩
  · rw [Process.goesOn, List.forall_mem_append] at hopen
    rw [Process.goesOn, List.mem_append, List.mem_singleton] at hcreated hkept
    rw [not_or] at hkept
    rcases hcreated with hbefore | heq
    · exact .inr ⟨h.held hlives hrole hopen.1 hbefore hkept.1, fun heq => hkept.2 heq.symm⟩
    · exact .inl heq.symm
  · refine .inr ⟨h.held ⟨hold, hother.2⟩ hrole hopen hcreated hkept, fun heq => ?_⟩
    cases heq
    obtain ⟨supervisor', entry', hrole', hsupervising⟩ := hsound.supervises hlives hcalls rfl
    have hheld : LockHeld process.trace := (hsupervising.guards hcalls true).1.1.1
    obtain ⟨before, after, htrace⟩ := List.append_of_mem hcreated
    have hcreates : LockHeld before := h.guarded hold hrole before _ after htrace
    have hheld' : LockHeld other.trace := ⟨by rw [htrace]; simp [hcreates.1], hopen⟩
    exact hne (hsound.one_holder ⟨hold, hother.2⟩ hlives hrole hrole' hheld' hheld)
  · obtain ⟨worker, child, supervisor', entry', memory, -, -, -, -, rfl⟩ := hnew
    cases hrole

omit hperforms in
/-- A worker that was there before a call that forks had ended before it. -/
lemma Followed.ended_of_fork {worker : Worker} (hc : c = .fork worker) {q : ℕ} {worked : Process}
    {supervisor : WorkerSupervisor} {worker' : Worker} {parent : ℕ}
    (hworked : w.process q = some worked) (hworks : worked.role = .works supervisor worker' parent) :
    .ends q ∈ moves := by
  obtain ⟨-, -, -, -, -, -, -, halone⟩ := hsound.alone hlives hcalls hc
  refine h.ended hworked fun hended => ?_
  exact halone q worked supervisor worker' parent ⟨hworked, hended⟩ hworks

/-- The call that has the lock: no operation is forked by it after a recovery. -/
lemma Followed.does_followed_self {supervisor : WorkerSupervisor} {entry : SupervisorEntry}
    {before after : List SupervisorEvent} {e : SupervisorEvent} {child : Pid}
    (hrole : process.role = .supervises supervisor entry)
    (hopen : ∀ e ∈ process.trace ++ [⟨c, answer⟩], e.1 ≠ .closeFile .lock)
    (htrace : process.trace ++ [⟨c, answer⟩] = before ++ e :: after)
    (hforked : Forked .recovery child e) {q : ℕ} {worked : Process} {supervisor' : WorkerSupervisor}
    {worker : Worker} {parent : ℕ}
    (hworked : (w'.becomes p (process.goesOn ⟨c, answer⟩ (next answer))).process q = some worked)
    (hworks : worked.role = .works supervisor' worker parent) (hkind : worker.kind = .operation) :
    EndedBefore (moves ++ [.does p process.job ⟨c, answer⟩]) q p process.job (e :: after) := by
  rw [List.forall_mem_append] at hopen
  have hguards := h.guards_next hsound hlives hcalls hrole answer
  rcases List.eq_nil_or_concat after with rfl | ⟨after, last, rfl⟩
  · -- the recovery worker is forked by this very call
    obtain ⟨rfl, heq⟩ := List.append_inj' htrace rfl
    obtain rfl := (List.cons.inj heq).1
    obtain ⟨forked, child', heq, hrecovery, -⟩ := hforked
    cases heq
    rcases does_continues hlives hperforms hworked with ⟨earlier, hold, hsame⟩ | hnew
    · exact .last (h.ended_of_fork hsound hlives hcalls rfl hold
        (hsame.1.symm.trans hworks)) _ _ _
    · obtain ⟨made, child'', supervisor'', entry'', memory, heq, -, -, -, rfl⟩ := hnew
      cases heq
      cases hworks
      rw [hrecovery] at hkind
      cases hkind
  · rw [List.concat_eq_append, ← List.cons_append, ← List.append_assoc] at htrace
    obtain ⟨hbefore, heq⟩ := List.append_inj' htrace rfl
    obtain rfl := (List.cons.inj heq).1
    rcases does_continues hlives hperforms hworked with ⟨earlier, hold, hsame⟩ | hnew
    · have hended := (h.followed hlives hrole hopen.1 hbefore hforked hold
        (hsame.1.symm.trans hworks) hkind).append (.does p process.job ⟨c, answer⟩)
      rw [eventsOf_does_self, List.cons_append] at hended
      rwa [List.concat_eq_append]
    · obtain ⟨made, child', supervisor'', entry'', memory, heq, -, -, -, rfl⟩ := hnew
      cases heq
      cases hworks
      have hfork := hguards process.trace _ [] rfl
      rw [List.nil_append] at hfork
      obtain ⟨-, -, hnone⟩ := hfork
      rw [hkind] at hnone
      exact absurd hforked (hnone.2.2.2 e (by rw [hbefore]; simp) child)

lemma Followed.does_followed {p' : ℕ} {other : Process} {supervisor : WorkerSupervisor}
    {entry : SupervisorEntry} {before after : List SupervisorEvent} {e : SupervisorEvent}
    {child : Pid}
    (hother : (w'.becomes p (process.goesOn ⟨c, answer⟩ (next answer))).Lives p' other)
    (hrole : other.role = .supervises supervisor entry)
    (hopen : ∀ e ∈ other.trace, e.1 ≠ .closeFile .lock) (htrace : other.trace = before ++ e :: after)
    (hforked : Forked .recovery child e) {q : ℕ} {worked : Process} {supervisor' : WorkerSupervisor}
    {worker : Worker} {parent : ℕ}
    (hworked : (w'.becomes p (process.goesOn ⟨c, answer⟩ (next answer))).process q = some worked)
    (hworks : worked.role = .works supervisor' worker parent) (hkind : worker.kind = .operation) :
    EndedBefore (moves ++ [.does p process.job ⟨c, answer⟩]) q p' other.job (e :: after) := by
  rcases performs_process hperforms hother.1 with ⟨rfl, rfl⟩ | ⟨hne, hcalled | hnew⟩
  · have hself := h.does_followed_self hsound hlives hcalls hperforms hrole hopen htrace hforked
      hworked hworks hkind
    exact hself
  · have hnot : eventsOf p' other.job [.does p process.job ⟨c, answer⟩] = [] :=
      eventsOf_does_of_ne (.inl (Ne.symm hne))
    rcases does_continues hlives hperforms hworked with ⟨earlier, hold, hsame⟩ | hnew
    · exact (h.followed ⟨hcalled, hother.2⟩ hrole hopen htrace hforked hold
        (hsame.1.symm.trans hworks) hkind).other hnot
    · -- another call would have the lock when it forks
      obtain ⟨made, child', supervisor'', entry'', memory, heq, -, -, -, rfl⟩ := hnew
      cases heq
      obtain ⟨supervisor₁, entry₁, hrole₁, hsupervising⟩ := hsound.supervises hlives hcalls rfl
      have hheld : LockHeld process.trace := (hsupervising.guards hcalls none).1.1.1
      obtain ⟨forked, child'', rfl, -⟩ := hforked
      have hforks := h.guarded hcalled hrole before _ after htrace
      rw [List.nil_append] at hforks
      have hheld' : LockHeld other.trace := ⟨by rw [htrace]; simp [hforks.1.1], hopen⟩
      exact absurd
        (hsound.one_holder ⟨hcalled, hother.2⟩ hlives hrole hrole₁ hheld' hheld) hne
  · obtain ⟨worker', child', supervisor', entry', memory, -, -, -, -, rfl⟩ := hnew
    cases hrole

/-- Before the marker is removed, every operation ended and was recovered from. -/
lemma Followed.removed (heq : (⟨c, answer⟩ : SupervisorEvent) = ⟨.journal .unlinkMarker, true⟩)
    {q : ℕ} {worked : Process} {supervisor : WorkerSupervisor} {worker : Worker} {parent : ℕ}
    (hworked : w.process q = some worked) (hworks : worked.role = .works supervisor worker parent)
    (hkind : worker.kind = .operation) :
    RecoveredSince marked (moves ++ [.does p process.job ⟨.journal .unlinkMarker, true⟩]) q := by
  cases heq
  obtain ⟨supervisor', entry, hrole, hsupervising⟩ := hsound.supervises hlives hcalls rfl
  obtain ⟨hheld, -, before, after, htrace, ⟨early, e, late, child, rfl, hforked, hexited⟩,
    hverified⟩ := (hsupervising.guards hcalls true).1.1
  rw [List.append_assoc, List.cons_append] at htrace
  obtain ⟨first, last, more, rfl, hlast⟩ :=
    h.followed hlives hrole hheld.2 htrace hforked hworked hworks hkind
  refine ⟨first, last, [], w, p, process, supervisor', entry, rfl, h.runs, hlives, hrole,
    more ++ e :: late, after, ?_, ⟨more, e, late, child, rfl, hforked, hexited⟩, hverified⟩
  rw [hlast, List.append_assoc, List.cons_append]

include hlogged in
/-- An operation is granted while the marker is there. -/
lemma Followed.grants_marked {channel : ℕ}
    (heq : (⟨c, answer⟩ : SupervisorEvent) = ⟨.sendGrant channel, true⟩) {q : ℕ} {worked : Process}
    {supervisor : WorkerSupervisor} {worker : Worker} {parent : ℕ}
    (hworked : w.process q = some worked) (hworks : worked.role = .works supervisor worker parent)
    (hkind : worker.kind = .operation) (hchannel : worker.channel = channel) : w.marked := by
  cases heq
  obtain ⟨supervisor', entry, hrole, hsupervising⟩ := hsound.supervises hlives hcalls rfl
  obtain ⟨⟨hheld, -⟩, early, made, child, run, late, -, -, htrace, hmade, -, hlast⟩ :=
    (hsupervising.guards hcalls true).1
  have hguarded := h.guarded hlives.1 hrole
  -- the worker that was forked last is the operation
  have hfork : ⟨.fork made, some child⟩ ∈ eventsOf p process.job moves := by
    rw [← hlogged.traced hlives.1, htrace]
    simp
  obtain ⟨q', worked', supervisor₁, hworked', hworks', -, -⟩ := hlogged.forked hfork
  obtain rfl := hsound.paired hworked hworked' hworks hworks' (hchannel.trans hmade.symm)
  obtain rfl := Option.some.inj (hworked.symm.trans hworked')
  rw [hworks'] at hworks
  cases hworks
  have hkinds := hguarded early _ (run ++ late) htrace
  rw [List.nil_append] at hkinds
  obtain ⟨-, -, hguard⟩ := hkinds
  rw [hkind] at hguard
  obtain ⟨-, hsaved, hkept, hnone⟩ := hguard
  refine h.held hlives hrole hheld.2 (by rw [htrace]; simp [hsaved.created]) fun hremoved => ?_
  -- a recovery is needed to remove the marker, and none was forked
  obtain ⟨before, after, hsplit⟩ := List.append_of_mem hremoved
  have hunlink := hguarded before _ after hsplit
  rw [List.nil_append] at hunlink
  obtain ⟨-, -, x, y, hbefore, ⟨first, e, between, recovery, rfl, hforked, -⟩, -⟩ := hunlink
  have he : e ∈ process.trace := by rw [hsplit, hbefore]; simp
  rw [htrace, List.mem_append, List.mem_cons] at he
  rcases he with hearly | rfl | hafter
  · exact hnone e hearly recovery hforked
  · obtain ⟨forked', child', heq, hrecovery, -⟩ := hforked
    cases heq
    rw [hkind] at hrecovery
    cases hrecovery
  · obtain ⟨forked', child', rfl, -⟩ := hforked
    cases hlast _ hafter

include hlogged in
lemma Followed.does_recovered {q : ℕ} {worked : Process} {supervisor : WorkerSupervisor}
    {worker : Worker} {parent : ℕ}
    (hworked : (w'.becomes p (process.goesOn ⟨c, answer⟩ (next answer))).process q = some worked)
    (hworks : worked.role = .works supervisor worker parent) (hkind : worker.kind = .operation)
    (hgranted : worker.channel ∈ w'.granted) :
    w'.marked ∨ RecoveredSince marked (moves ++ [.does p process.job ⟨c, answer⟩]) q := by
  rw [performs_granted hperforms] at hgranted
  rcases does_continues hlives hperforms hworked with ⟨earlier, hold, hsame⟩ | hnew
  · have hworks' := hsame.1.symm.trans hworks
    by_cases hremoves : (⟨c, answer⟩ : SupervisorEvent) = ⟨.journal .unlinkMarker, true⟩
    · have hsince := h.removed hsound hlives hcalls hperforms hremoves hold hworks' hkind
      rw [← hremoves] at hsince
      exact .inr hsince
    · rcases hgranted with hbefore | heq
      · refine (h.recovered hold hworks' hkind hbefore).imp (fun hmarked => ?_) fun hsince =>
          hsince.append _
        exact (performs_marked hperforms).mpr (.inr ⟨hmarked, hremoves⟩)
      · have hmarked := h.grants_marked hsound hlogged hlives hcalls hperforms heq hold hworks' hkind
          rfl
        exact .inl ((performs_marked hperforms).mpr (.inr ⟨hmarked, hremoves⟩))
  · -- the pair of a worker that is forked was never granted on
    obtain ⟨made, child, supervisor', entry, memory, heq, hrole, -, -, rfl⟩ := hnew
    cases heq
    cases hworks
    obtain ⟨-, -, -, -, -, -, hfresh, -⟩ := hsound.alone hlives hcalls rfl
    rcases hgranted with hbefore | heq
    · obtain ⟨_, q', granted, supervisor₁, worker₁, hq', hworks₁, hchannel, -⟩ :=
        hlogged.granted _ hbefore
      exact absurd hchannel (hsound.fresh hlives.1 hrole hfresh hq' hworks₁)
    · cases heq

include hlogged in
lemma Followed.does : Followed marked (moves ++ [.does p process.job ⟨c, answer⟩])
    (w'.becomes p (process.goesOn ⟨c, answer⟩ (next answer))) where
  runs := h.runs.next (.does hlives hcalls hperforms)
  guarded := h.does_guarded hsound hlives hcalls hperforms
  ended := by
    intro q other hother hended
    rcases does_continues hlives hperforms hother with ⟨before, hold, hsame⟩ | hnew
    · exact List.mem_append_left _ (h.ended hold (hsame.2.2.2 ▸ hended))
    · obtain ⟨worker, child, supervisor, entry, memory, -, -, -, -, rfl⟩ := hnew
      exact absurd rfl hended
  held := by
    intro q other supervisor entry hother hrole hopen hcreated hkept
    have hmarked := h.does_held hsound hlives hcalls hperforms hother hrole hopen hcreated hkept
    exact hmarked
  followed := h.does_followed hsound hlives hcalls hperforms
  recovered := by
    intro q worked supervisor worker parent hworked hworks hkind hgranted
    have hrecovered := h.does_recovered hsound hlogged hlives hcalls hperforms hworked hworks hkind
      hgranted
    exact hrecovered

end Does

lemma Followed.step {marked : Prop} {moves : List Move} {w w' : World} {move : Move}
    (h : Followed marked moves w) (hsound : Sound w) (hlogged : Logged moves w)
    (hstep : Step w move w') : Followed marked (moves ++ [move]) w' := by
  have hkept := hstep
  cases hstep with
  | born supervisor entry memory hfree hpid => exact h.enters supervisor entry memory hkept
  | again supervisor entry memory hlives hrole hover => exact h.enters supervisor entry memory hkept
  | does hlives hcalls hperforms => exact h.does hsound hlogged hlives hcalls hperforms
  | ends status hlives => exact h.ends status hlives

lemma followed_of_runs {marked : Prop} {moves : List Move} {w : World} (h : Runs marked moves w) :
    Sound w ∧ Logged moves w ∧ Followed marked moves w :=
  h.invariant (I := fun moves w => Sound w ∧ Logged moves w ∧ Followed marked moves w)
    ⟨sound_initial marked, logged_initial marked, followed_initial marked⟩
    fun _ _ _ _ ⟨hsound, hlogged, hfollowed⟩ hstep =>
      ⟨hsound.step hstep, hlogged.step hsound hstep, hfollowed.step hsound hlogged hstep⟩

/-- A process that has ended stays as it is. -/
lemma step_ended {w w' : World} {move : Move} (hstep : Step w move w') {q : ℕ} {worked : Process}
    (hq : w.process q = some worked) (hended : worked.ended ≠ none) :
    w'.process q = some worked := by
  have hne : ∀ {p process}, w.Lives p process → q ≠ p := by
    rintro p process hlives rfl
    obtain rfl := Option.some.inj (hq.symm.trans hlives.1)
    exact hended hlives.2
  cases hstep with
  | born supervisor entry memory hfree =>
    refine becomes_process.mpr (.inr ⟨?_, hq⟩)
    rintro rfl
    rw [hfree] at hq
    cases hq
  | again supervisor entry memory hlives => exact becomes_process.mpr (.inr ⟨hne hlives, hq⟩)
  | does hlives hcalls hperforms =>
    exact becomes_process.mpr (.inr ⟨hne hlives, performs_stays hperforms hq⟩)
  | ends status hlives => exact becomes_process.mpr (.inr ⟨hne hlives, hq⟩)

lemma ended_of_ends {marked : Prop} {moves : List Move} {w : World} {q : ℕ}
    (hruns : Runs marked moves w) (hends : .ends q ∈ moves) :
    ∃ worked, w.process q = some worked ∧ worked.ended ≠ none := by
  induction hruns with
  | start => cases hends
  | next before stepped ih =>
    rcases List.mem_append.mp hends with hold | hnew
    · obtain ⟨worked, hworked, hended⟩ := ih hold
      exact ⟨worked, step_ended stepped hworked hended, hended⟩
    · cases List.mem_singleton.mp hnew
      cases stepped with
      | ends status hlives => exact ⟨_, becomes_process.mpr (.inl ⟨rfl, rfl⟩), nofun⟩

/-- Whatever the processes of a directory do and wherever they end, while the marker is not there no
operation that was granted is alive: each ended, and after that one call forked a recovery worker
that exited with status 0 and verified an observer, and then removed the marker. -/
theorem cleared_marker_rests_on_recovery {marked : Prop} {moves : List Move} {w : World} {q : ℕ}
    {worked : Process} {supervisor : WorkerSupervisor} {worker : Worker} {parent : ℕ}
    (hruns : Runs marked moves w) (hclear : ¬ w.marked) (hworked : w.process q = some worked)
    (hworks : worked.role = .works supervisor worker parent) (hkind : worker.kind = .operation)
    (hgranted : worker.channel ∈ w.granted) :
    worked.ended ≠ none ∧ RecoveredSince marked moves q := by
  obtain ⟨-, -, hfollowed⟩ := followed_of_runs hruns
  have hsince := (hfollowed.recovered hworked hworks hkind hgranted).resolve_left hclear
  refine ⟨?_, hsince⟩
  obtain ⟨early, late, later, _, _, _, _, _, hmoves, -⟩ := hsince
  obtain ⟨worked', hworked', hended⟩ := ended_of_ends hruns (q := q) (by rw [hmoves]; simp)
  rwa [Option.some.inj (hworked.symm.trans hworked')]

/-! A run in which an operation is granted and recovered from. -/

section Whole

variable {marked : Prop} {present : Bool} {moves : List Move} {w : World} {p q : ℕ} {pid : Pid}
  {process : Process}

/-- No process but one that is alive has the number. -/
def OnlyPid (w : World) (q : ℕ) (pid : Pid) : Prop :=
  ∀ q' other, w.Lives q' other → other.pid = pid → q' = q

lemma freePid_next (_hlives : (w.becomes p process).Lives p process) (h : w.FreePid pid)
    (hpid : process.pid ≠ pid) : (w.becomes p process).FreePid pid := by
  intro q' other hlives
  rcases becomes_process.mp hlives.1 with ⟨-, rfl⟩ | ⟨-, hold⟩
  · exact hpid
  · exact h q' other ⟨hold, hlives.2⟩

lemma OnlyPid.next (_hlives : (w.becomes p process).Lives p process) (h : OnlyPid w q pid)
    (hpid : process.pid ≠ pid) : OnlyPid (w.becomes p process) q pid := by
  intro q' other hlives heq
  rcases becomes_process.mp hlives.1 with ⟨-, rfl⟩ | ⟨-, hold⟩
  · exact absurd heq hpid
  · exact h q' other ⟨hold, hlives.2⟩ heq

lemma OnlyPid.of_others {w' : World} (h : w.FreePid pid)
    (hothers : ∀ q', q' ≠ q → w'.process q' = w.process q') : OnlyPid w' q pid := by
  intro q' other hlives heq
  by_contra hne
  exact h q' other ⟨(hothers q' hne).symm.trans hlives.1, hlives.2⟩ heq

/-- When the only process with the number ends, the number is free. -/
lemma OnlyPid.ended (h : OnlyPid w q pid) (hended : process.ended ≠ none) (holders : ℕ → Set ℕ) :
    World.FreePid { w.becomes q process with holders := holders } pid := by
  intro q' other hlives heq
  rcases becomes_process.mp hlives.1 with ⟨-, rfl⟩ | ⟨hne, hold⟩
  · exact hended hlives.2
  · exact hne (h q' other ⟨hold, hlives.2⟩ heq)

/-- What a supervisor finds after a worker: its own process goes on, and the worker is there. -/
structure Reaped (w w' : World) (p q : ℕ) (process process' : Process) (present : Bool)
    (worker : Worker) (child : Pid) : Prop where
  role : process'.role = process.role
  pid : process'.pid = process.pid
  marked : w'.marked ↔ present = true
  pairs : ∀ channel, channel ≠ worker.channel → w'.pair channel = w.pair channel
  others : ∀ q', q' ≠ q → q' ≠ p → w'.process q' = w.process q'
  free : w'.FreePid child
  granted : w'.granted = insert worker.channel w.granted
  works : ∃ worked supervisor, w'.process q = some worked ∧
    worked.role = .works supervisor worker p

/-- A supervisor forks a worker that is granted and ends well, and reaps it. -/
lemma reaches_worker {supervisor : WorkerSupervisor} {entry : SupervisorEntry} (worker : Worker)
    {child : { child : Pid // 0 < child }}
    {making forking recording waiting later : List SupervisorEvent}
    (hruns : Runs marked moves w) (hlives : w.Lives p process)
    (hrole : process.role = .supervises supervisor entry) (hmarked : w.marked ↔ present = true)
    (hends : Ends process.rest (making ++ ⟨.socketpair, some worker.channel⟩ :: (forking ++
      ⟨.fork worker, some child⟩ :: (recording ++ ⟨.sendGrant worker.channel, true⟩ :: (waiting ++
        ⟨.waitpid child.val, .reaped (.exited 0)⟩ :: later)))) ())
    (hidle : ∀ e ∈ making ++ forking ++ recording ++ waiting, Idle present e)
    (hpair : w.pair worker.channel = none) (hq : w.process q = none) (hfree : w.FreePid child.val) :
    ∃ moves' w' process', Runs marked moves' w' ∧ w'.Lives p process' ∧
      Ends process'.rest later () ∧ Reaped w w' p q process process' present worker child.val := by
  simp only [List.forall_mem_append] at hidle
  obtain ⟨⟨⟨hmaking, hforking⟩, hrecording⟩, hwaiting⟩ := hidle
  have hqp : q ≠ p := by
    rintro rfl
    rw [hlives.1] at hq
    cases hq
  have hpid : process.pid ≠ child.val := hfree p process hlives
  obtain ⟨_, rest, hends, hruns, hlives⟩ := reaches_idle hruns hlives hmarked hends hmaking
  have hfree := freePid_next hlives hfree hpid
  obtain ⟨rest, hends, hruns, hlives⟩ := reaches_call hruns hlives hends (.pairs hpair)
  have hfree := freePid_next hlives hfree hpid
  obtain ⟨_, rest, hends, hruns, hlives⟩ := reaches_idle hruns hlives hmarked hends hforking
  have hfree := freePid_next hlives hfree hpid
  obtain ⟨rest, hends, hruns, hlives⟩ := reaches_call hruns hlives hends
    (performs_fork (q := q) WorkerSupervisor.requiredRecovery hrole (by simp [becomes, hqp, hq])
      hfree)
  have honly := OnlyPid.next hlives (.of_others hfree fun q' hne => Function.update_of_ne hne _ _) hpid
  obtain ⟨_, rest, hends, hruns, hlives⟩ := reaches_idle hruns hlives hmarked hends hrecording
  have honly := OnlyPid.next hlives honly hpid
  obtain ⟨rest, hends, hruns, hlives⟩ := reaches_call hruns hlives hends .grants
  have honly := OnlyPid.next hlives honly hpid
  have hruns := hruns.next (.ends (p := q) (.exited 0) (lives_other (lives_other (lives_other
    ⟨Function.update_self q _ _, rfl⟩ hqp) hqp) hqp))
  obtain ⟨_, rest, hends, hruns, hlives⟩ :=
    reaches_idle hruns (lives_other hlives hqp.symm) hmarked hends hwaiting
  have hfree := freePid_next hlives (honly.ended (Option.some_ne_none _) _) hpid
  obtain ⟨rest, hends, hruns, hlives⟩ := reaches_call hruns hlives hends
    (.reaps ⟨q, _, supervisor, worker, becomes_process.mpr (.inr ⟨hqp, becomes_process.mpr
      (.inl ⟨rfl, rfl⟩)⟩), rfl, rfl, rfl⟩ fun q' other _ _ hother _ => hfree q' other hother)
  refine ⟨_, _, _, hruns, hlives, hends, rfl, rfl, hmarked, fun channel hne =>
    Function.update_of_ne hne _ _, fun q' hne hne' => by simp [becomes, hne, hne'],
      freePid_next hlives hfree hpid, rfl, _, supervisor, becomes_process.mpr (.inr ⟨hqp,
        becomes_process.mpr (.inr ⟨hqp, becomes_process.mpr (.inl ⟨rfl, rfl⟩)⟩)⟩), rfl⟩

end Whole

/-- Calls that all succeed, of a supervisor that finds its own marker. -/
def operatingAnswer (env : ℕ × ℕ × Bool) : (c : SupervisorCall) → c.Answer × ℕ × ℕ × Bool
  | .journal .createMarker => (true, env.1, env.2.1, true)
  | .journal .unlinkMarker => (true, env.1, env.2.1, false)
  | .socketpair => (some env.2.1, env.1, env.2.1 + 1, env.2.2)
  | c => ((WorkerSupervisor.healthyAnswer env.2.2 env.1 c).1,
      (WorkerSupervisor.healthyAnswer env.2.2 env.1 c).2, env.2)

def heldLease : Supervision :=
  ⟨⟨.held, 1, 16 * uint64Second, 0, uint64Second, 61, false, false⟩, .blocked, none⟩

abbrev operating : List SupervisorEvent :=
  (play operatingAnswer ((WorkerSupervisor.minuteSupervisor.entry .run).run.run heldLease)
    (0, 0, false)).1

/-- The worker of each kind in that run. -/
def operatingWorker : WorkerKind → Worker
  | .operation => ⟨.operation, 0, 16000000000⟩
  | .recovery => ⟨.recovery, 1, 91000000000⟩
  | .observer => ⟨.observer, 2, 91000000000⟩

/-- The calls with which a supervisor runs a worker of the kind, between its idle calls. -/
def workerCalls (kind : WorkerKind) (making forking recording waiting later : List SupervisorEvent) :
    List SupervisorEvent :=
  making ++ ⟨.socketpair, some (operatingWorker kind).channel⟩ :: (forking ++
    ⟨.fork (operatingWorker kind), some observerPid⟩ :: (recording ++
      ⟨.sendGrant (operatingWorker kind).channel, true⟩ :: (waiting ++
        ⟨.waitpid observerPid.val, .reaped (.exited 0)⟩ :: later)))

/-- Part of the calls of that run. -/
def stretch (first length : ℕ) : List SupervisorEvent := (operating.drop first).take length

lemma operating_split : operating = stretch 0 5 ++ ⟨.openFile .lock, .ok ()⟩ :: (stretch 6 1 ++
    ⟨.flock, true⟩ :: (stretch 8 20 ++ ⟨.journal .createMarker, true⟩ ::
      workerCalls .operation (stretch 29 6) (stretch 36 2) (stretch 39 9) (stretch 49 1)
        (workerCalls .recovery (stretch 51 2) (stretch 54 2) (stretch 57 9) (stretch 67 1)
          (workerCalls .observer (stretch 69 5) (stretch 75 2) (stretch 78 9) (stretch 88 185)
            (stretch 274 7 ++ ⟨.journal .unlinkMarker, true⟩ :: operating.drop 282))))) := by
  decide +kernel

/-- A supervisor created its marker and is about to make the socket pair of its operation. -/
lemma supervisor_marks : ∃ moves w process, Runs False moves w ∧ w.Lives 0 process ∧
    (∀ q, q ≠ 0 → w.process q = none) ∧ (w.marked ↔ true = true) ∧ (∀ channel, w.pair channel = none) ∧
      process.pid = 1 ∧ process.role = .supervises WorkerSupervisor.minuteSupervisor .run ∧
      Ends process.rest
        (workerCalls .operation (stretch 29 6) (stretch 36 2) (stretch 39 9) (stretch 49 1)
          (workerCalls .recovery (stretch 51 2) (stretch 54 2) (stretch 57 9) (stretch 67 1)
            (workerCalls .observer (stretch 69 5) (stretch 75 2) (stretch 78 9) (stretch 88 185)
              (stretch 274 7 ++ ⟨.journal .unlinkMarker, true⟩ :: operating.drop 282)))) () := by
  have hends : Ends (Process.enters 1 WorkerSupervisor.minuteSupervisor .run 0 heldLease).rest
      operating () :=
    ends_bind.mpr ⟨_, [], _, (List.append_nil _).symm, ends_play _ _ _, .refl _⟩
  rw [operating_split] at hends
  have hnone : False ↔ false = true := by decide
  have hopening : ∀ e ∈ stretch 0 5, Idle false e := by decide +kernel
  have hlocking : ∀ e ∈ stretch 6 1, Idle false e := by decide +kernel
  have hacquiring : ∀ e ∈ stretch 8 20, Idle false e := by decide +kernel
  have hstart := runs_enters WorkerSupervisor.minuteSupervisor .run heldLease
  obtain ⟨_, rest, hends, hruns, hlives⟩ :=
    reaches_idle hstart (lives_becomes rfl) hnone hends hopening
  obtain ⟨rest, hends, hruns, hlives⟩ := reaches_call hruns hlives hends .opensLock
  obtain ⟨_, rest, hends, hruns, hlives⟩ := reaches_idle hruns hlives hnone hends hlocking
  obtain ⟨rest, hends, hruns, hlives⟩ := reaches_call hruns hlives hends
    (.locks fun _ h => absurd h (Set.notMem_empty _))
  obtain ⟨_, rest, hends, hruns, hlives⟩ := reaches_idle hruns hlives hnone hends hacquiring
  obtain ⟨rest, hends, hruns, hlives⟩ := reaches_call hruns hlives hends (.marks not_false)
  exact ⟨_, _, _, hruns, hlives, fun q hq => by simp [becomes, initial, hq],
    ⟨fun _ => rfl, fun _ => trivial⟩, fun _ => rfl, rfl, rfl, hends⟩

/-- In some run an operation is granted, and its marker is removed. -/
lemma operating_runs : ∃ moves w worked supervisor, Runs False moves w ∧ ¬ w.marked ∧
    w.process 1 = some worked ∧ worked.role = .works supervisor (operatingWorker .operation) 0 ∧
      (operatingWorker .operation).channel ∈ w.granted := by
  obtain ⟨_, w, process, hruns, hlives, hothers, hmarked, hpairs, hpid, hrole, hends⟩ :=
    supervisor_marks
  have hfree : w.FreePid observerPid.val := by
    intro q other hother heq
    by_cases hq : q = 0
    · subst hq
      rw [← Option.some.inj (hlives.1.symm.trans hother.1), hpid] at heq
      cases heq
    · rw [World.Lives, hothers q hq] at hother
      cases hother.1
  obtain ⟨_, w₁, process₁, hruns, hlives, hends, h₁⟩ :=
    reaches_worker (operatingWorker .operation) (q := 1) hruns hlives hrole hmarked hends
      (by decide +kernel) (hpairs _) (hothers 1 (by decide)) hfree
  obtain ⟨worked, supervisor, hworked, hworks⟩ := h₁.works
  have hchannel : (operatingWorker .operation).channel ∈ w₁.granted := by
    rw [h₁.granted]
    exact Set.mem_insert _ _
  obtain ⟨_, w₂, process₂, hruns, hlives, hends, h₂⟩ :=
    reaches_worker (operatingWorker .recovery) (q := 2) hruns hlives
      (h₁.role.trans hrole) h₁.marked hends (by decide +kernel)
      ((h₁.pairs _ (by decide)).trans (hpairs _))
      ((h₁.others 2 (by decide) (by decide)).trans (hothers 2 (by decide))) h₁.free
  obtain ⟨_, w₃, process₃, hruns, hlives, hends, h₃⟩ :=
    reaches_worker (operatingWorker .observer) (q := 3) hruns hlives
      (h₂.role.trans (h₁.role.trans hrole)) h₂.marked hends (by decide +kernel)
      ((h₂.pairs _ (by decide)).trans ((h₁.pairs _ (by decide)).trans (hpairs _)))
      ((h₂.others 3 (by decide) (by decide)).trans ((h₁.others 3 (by decide) (by decide)).trans
        (hothers 3 (by decide)))) h₂.free
  have hidle : ∀ e ∈ stretch 274 7, Idle true e := by decide +kernel
  obtain ⟨_, rest, hends, hruns, hlives⟩ := reaches_idle hruns hlives h₃.marked hends hidle
  obtain ⟨rest, hends, hruns, hlives⟩ :=
    reaches_call hruns hlives hends (.unmarks (h₃.marked.mpr rfl))
  refine ⟨_, _, worked, supervisor, hruns, not_false, ?_, hworks, ?_⟩
  · simp [becomes, h₃.others 1 (by decide) (by decide), h₂.others 1 (by decide) (by decide), hworked]
  · have hgranted : (operatingWorker .operation).channel ∈ w₃.granted := by
      rw [h₃.granted, h₂.granted]
      exact Set.mem_insert_of_mem _ (Set.mem_insert_of_mem _ hchannel)
    exact hgranted

/-- In that run the operation ended, and was recovered from since. -/
theorem cleared_marker_rests_on_recovery_run : ∃ moves w, Runs False moves w ∧ ¬ w.marked ∧
    RecoveredSince False moves 1 := by
  obtain ⟨moves, w, worked, supervisor, hruns, hclear, hworked, hworks, hgranted⟩ := operating_runs
  exact ⟨moves, w, hruns, hclear,
    (cleared_marker_rests_on_recovery hruns hclear hworked hworks rfl hgranted).2⟩

end SupervisorSystem
end Ventilator
