import Ventilator.CallTreePoints
import Ventilator.RestoreSystem
import Ventilator.TrialFallback

/-! What the rehearsal of `trial_rehearse_ftst_minimum_recovery` writes. Its own loop writes no
mode, the recovery it calls may. -/
namespace Ventilator
open Double CallTree

namespace TrialCall

def writesMode : TrialCall → Bool
  | writeMode _ _ => true
  | _ => false

/-- The writes a rehearsal is to make: Ftst and a target of 0. -/
def rehearses : TrialCall → Bool
  | writeMode _ _ => false
  | writeTarget _ rpm => rpm == finite 0
  | _ => true

end TrialCall

/-- Where a recovery may write a mode: in `trial_restore_system`, and where
`trial_restore_unlock` decides on the observation it read for the release. -/
inductive RecoverySite
  | restoreSystem
  | release (current : TrialObservation) (delayedChange : Bool)

namespace RecoverySite

abbrev Result : RecoverySite → Type
  | restoreSystem => Bool
  | release _ _ => TrialBackend.Preparation

def part (backend : TrialBackend) : (site : RecoverySite) → TrialM site.Result
  | restoreSystem => backend.trialRestoreSystem
  | release current delayedChange => backend.prepareFrom current delayedChange

/-- What makes the part write a mode: a first read that is not the baseline, or `Ftst = 1` with a
fan in manual mode. -/
def Manual : RecoverySite → List TrialEvent → Prop
  | restoreSystem, after => ∃ answer rest, after = TrialBackend.systemRead answer :: rest ∧
      answer.any trialObservationIsBaseline = false
  | release current _, _ => current.ftst = 1 ∧ ∃ fan, current.mode fan = 1

lemma Manual.append {site : RecoverySite} {after : List TrialEvent} (more : List TrialEvent)
    (h : site.Manual after) : site.Manual (after ++ more) := by
  cases site with
  | restoreSystem =>
    obtain ⟨answer, rest, rfl, hanswer⟩ := h
    exact ⟨answer, rest ++ more, rfl, hanswer⟩
  | release current delayedChange => exact h

end RecoverySite

namespace TrialBackend
open TrialM RecoverySite

variable {backend : TrialBackend}

/-- The run enters a recovery that finds a fan under manual control, or no baseline. -/
def EntersManual (backend : TrialBackend) {α : Type} (m : TrialM α) (s : Bool)
    (trace : List TrialEvent) : Prop :=
  Enters (RecoverySite.part backend) RecoverySite.Manual m s trace

/-- A run that writes a mode does so at such an entry. -/
abbrev AccountsModes (backend : TrialBackend) {α : Type} (m : TrialM α) : Prop :=
  Accounts (RecoverySite.part backend) RecoverySite.Manual (fun c => c.writesMode = false) m

abbrev KeepsModes {α : Type} (m : TrialM α) : Prop := Only (fun c => c.writesMode = false) m

lemma LeavesFans.keepsModes {α : Type} {m : TrialM α} (h : LeavesFans m) : KeepsModes m :=
  h.mono fun c hc => by
    cases c with
    | writeMode fan mode => exact absurd hc nofun
    | _ => rfl

lemma Watches.keepsModes {α : Type} {m : TrialM α} (h : Watches m) : KeepsModes m :=
  h.leavesFans.keepsModes

lemma KeepsModes.accounts {α : Type} {m : TrialM α} (h : KeepsModes m) :
    backend.AccountsModes m := .of_only h

lemma AccountsModes.bind {α β : Type} {m : TrialM α} {f : α → TrialM β}
    (hm : backend.AccountsModes m) (hf : ∀ a, backend.AccountsModes (f a)) :
    backend.AccountsModes (m >>= f) :=
  Accounts.bind (fun _ _ more h => h.append more) hm hf

/-! The parts that write no mode. -/

lemma keepsModes_lowerTarget (fan : Fin 2) : KeepsModes (lowerTarget fan) := by
  refine (Only.ask (by rfl)).bind fun read => ?_
  cases read with
  | none => exact .pure _
  | some current =>
    exact .ite (fun _ => .pure _) fun _ => (Only.modify _).bind fun _ =>
      .ite (fun _ => (Only.discard (.ask (by rfl))).bind fun _ => .pure _) fun _ => .pure _

lemma keepsModes_lowerTargets (current : TrialObservation) :
    KeepsModes (backend.lowerTargets current) := by
  refine .ite (fun _ => ?_) fun _ => .pure _
  have hpass : KeepsModes lowerPass := (keepsModes_lowerTarget 0).bind fun _ =>
    .ite (fun _ => .discard (keepsModes_lowerTarget 1)) fun _ => .pure _
  refine hpass.bind fun _ => (Only.ask (by rfl)).bind fun read => ?_
  cases read with
  | none => exact .pure _
  | some current =>
    exact .ite (fun _ => .pure _) fun _ => (Only.modify _).bind fun _ =>
      (watches_record _ _).keepsModes.bind fun _ => .pure _

/-! The two entries. -/

/-- The recovery's first read decides whether it writes. -/
lemma accountsModes_restoreSystem : backend.AccountsModes backend.trialRestoreSystem := by
  intro s trace a s' h
  cases hcallbacks : backend.restoreCallbacks with
  | false =>
    obtain ⟨rfl, -⟩ := restoreSystem_missing hcallbacks h
    exact .inl nofun
  | true =>
    obtain ⟨answer, rest, rfl, ⟨-, rfl⟩ | ⟨hanswer, -⟩⟩ := (restoresSystem_of_gives hcallbacks h).calls
    · exact .inl (by simp [systemRead, TrialCall.writesMode])
    · exact .inr ⟨.restoreSystem, [], _, rfl, .start, answer, rest, rfl, hanswer⟩

lemma accountsModes_restoredAndStable {restore : TrialM Bool} (h : backend.AccountsModes restore) :
    backend.AccountsModes (backend.restoredAndStable restore) := by
  have hobserve : backend.AccountsModes backend.trialObserveAfterFtst := .of_only watches_observe.keepsModes
  exact h.bind fun _ => .ite (fun _ => .pure _) fun _ => hobserve.bind fun _ => .pure _

lemma keepsModes_releaseManualMode {current : TrialObservation} {fan : Fin 2}
    (h : current.mode fan ≠ 1) : KeepsModes (releaseManualMode current fan) :=
  .ite (fun hmode => absurd hmode h) fun _ => .pure _

lemma accountsModes_prepareFrom (current : TrialObservation) (delayedChange : Bool) :
    backend.AccountsModes (backend.prepareFrom current delayedChange) := by
  by_cases hmanual : current.ftst = 1 ∧ ∃ fan, current.mode fan = 1
  · exact fun s trace a s' h => .inr ⟨.release current delayedChange, [], trace, rfl, .start, hmanual⟩
  refine .ite (fun _ => (accountsModes_restoredAndStable accountsModes_restoreSystem).bind fun _ => .pure _)
    fun _ => .ite (fun _ => .pure _) fun hftst => KeepsModes.accounts ?_
  have hmodes : ∀ fan, current.mode fan ≠ 1 := fun fan hmode =>
    hmanual ⟨not_not.mp hftst, fan, hmode⟩
  refine (keepsModes_releaseManualMode (hmodes 0)).bind fun _ => .ite (fun _ => .pure _) fun _ =>
    (keepsModes_releaseManualMode (hmodes 1)).bind fun _ => .ite (fun _ => .pure _) fun _ =>
      (Only.ask (by rfl)).bind fun read => ?_
  cases read with
  | none => exact .pure _
  | some current =>
    exact .ite (fun _ => .pure _) fun _ => (Only.modify _).bind fun _ =>
      (watches_record _ _).keepsModes.bind fun _ => (keepsModes_lowerTargets _).bind fun _ =>
        .ite (fun _ => .pure _) fun _ => .pure _

/-! The programs around them. -/

lemma accountsModes_prepareRelease : backend.AccountsModes backend.prepareRelease := by
  refine watches_readForRelease.keepsModes.accounts.bind fun found => ?_
  cases found with
  | none => exact .pure _
  | some current =>
    refine (watches_record _ _).keepsModes.accounts.bind fun _ => .ite (fun _ => ?_) fun _ =>
      accountsModes_prepareFrom _ _
    refine watches_observe.keepsModes.accounts.bind fun result => .ite (fun _ => .pure _) fun _ =>
      .ite (fun _ => .pure _) fun _ => (KeepsModes.accounts (.ask (by rfl))).bind fun read => ?_
    cases read with
    | none => exact .pure _
    | some current =>
      exact (KeepsModes.accounts (.modify _)).bind fun _ => accountsModes_prepareFrom _ _

lemma accountsModes_fallback (second : ℕ) (o : TrialObservation) (state : PostClear) :
    backend.AccountsModes (backend.fallback second o state) := by
  refine .ite (fun _ => AccountsModes.bind ?_ fun _ => .pure _) fun _ => .pure _
  exact accountsModes_restoreSystem.bind fun _ => .pure _

lemma accountsModes_awaitBaselineSecond (delayedChange : Bool) (second : ℕ) (state : PostClear) :
    backend.AccountsModes (backend.awaitBaselineSecond delayedChange second state) := by
  refine (KeepsModes.accounts (.ask (by rfl))).bind fun _ =>
    (KeepsModes.accounts (.ask (by rfl))).bind fun read => ?_
  cases read with
  | none => exact .pure _
  | some observation =>
    refine .ite (fun _ => .pure _) fun _ => (KeepsModes.accounts (.ask (by rfl))).bind fun _ =>
      .ite (fun _ => .pure _) fun _ => (KeepsModes.accounts (.modify _)).bind fun _ =>
        (watches_record _ _).keepsModes.accounts.bind fun _ => .ite (fun _ => .pure _) fun _ =>
          (accountsModes_fallback _ _ _).bind fun _ => .ite (fun _ => .pure _) fun _ =>
            (KeepsModes.accounts (.ask (by rfl))).bind fun _ => .ite (fun _ => .pure _) fun _ => .pure _

/-- A recovery writes a mode at one of the two entries only. -/
lemma accountsModes_restoreUnlock : backend.AccountsModes backend.trialRestoreUnlock := by
  refine .ite (fun _ => .pure _) fun _ => accountsModes_prepareRelease.bind fun p => ?_
  cases p with
  | returned result => exact .pure _
  | ready delayedChange =>
    refine leavesFans_clearFtst.keepsModes.accounts.bind fun _ => .ite (fun _ => ?_) fun _ =>
      .pure _
    exact .forLoop (fun _ _ more h => h.append more) (accountsModes_awaitBaselineSecond _)
      (fun _ => .pure _) _ _

lemma accountsModes_recoverMinimum (writeOk sawFtstOne sawMinimumTargets : Bool) :
    backend.AccountsModes (backend.recoverMinimum writeOk sawFtstOne sawMinimumTargets) := by
  have hobserve : backend.AccountsModes backend.trialObserveAfterFtst := watches_observe.keepsModes.accounts
  exact accountsModes_restoreUnlock.bind fun _ => .ite (fun _ => hobserve.bind fun _ => .pure _)
    fun _ => hobserve.bind fun _ => .ite (fun _ =>
      (accountsModes_restoredAndStable accountsModes_restoreUnlock).bind fun _ =>
        .ite (fun _ => .pure _) fun _ => .pure _) fun _ => .pure _

lemma accountsModes_rehearse (minimumRpm : Fin 2 → Double) :
    backend.AccountsModes (backend.trialRehearseFtstMinimumRecovery minimumRpm) := by
  refine .ite (fun _ => .pure _) fun _ => .ite (fun _ => .pure _) fun _ =>
    watches_admitFtst.keepsModes.accounts.bind fun admitted => ?_
  cases admitted with
  | none => exact .pure _
  | some started =>
    exact (KeepsModes.accounts (.ask (by rfl))).bind fun _ =>
      (watches_awaitMinimum _ _).keepsModes.accounts.bind fun _ => accountsModes_recoverMinimum _ _ _

/-! An entry leads to a mode write. -/

lemma Retried.attempted {write : Bool → TrialEvent} {trace : List TrialEvent}
    (h : Retried write trace) : ∃ ok, write ok ∈ trace := by
  have hmem : ∀ e ∈ writesOf trace, e ∈ trace := fun e he => (List.mem_filter.mp he).1
  rcases h.attempts with ⟨refused, -, hwrites⟩ | hwrites
  · exact ⟨true, hmem _ (by simp [hwrites])⟩
  · exact ⟨false, hmem _ (by simp [hwrites])⟩

def WritesMode (trace : List TrialEvent) : Prop := ∃ e ∈ trace, e.1.writesMode = true

lemma WritesMode.append_left {xs : List TrialEvent} (h : WritesMode xs) (ys : List TrialEvent) :
    WritesMode (xs ++ ys) := by
  obtain ⟨e, he, hmode⟩ := h
  exact ⟨e, List.mem_append_left ys he, hmode⟩

lemma WritesMode.append_right {ys : List TrialEvent} (xs : List TrialEvent) (h : WritesMode ys) :
    WritesMode (xs ++ ys) := by
  obtain ⟨e, he, hmode⟩ := h
  exact ⟨e, List.mem_append_right xs he, hmode⟩

lemma retryMode_writes {fan : Fin 2} {s s' a : Bool} {trace : List TrialEvent}
    (h : Gives (retryMode fan 0) s trace a s') : WritesMode trace := by
  obtain ⟨-, hretried⟩ := retryMode_runs h
  obtain ⟨ok, hmem⟩ := hretried.attempted
  exact ⟨_, hmem, rfl⟩

lemma restoreSystem_writes {answer : Option TrialObservation} {rest : List TrialEvent}
    {s s' a : Bool} (hcallbacks : backend.restoreCallbacks = true)
    (hanswer : answer.any trialObservationIsBaseline = false)
    (h : Gives backend.trialRestoreSystem s (systemRead answer :: rest) a s') :
    WritesMode (systemRead answer :: rest) := by
  obtain ⟨first, more, heq, ⟨hbaseline, -⟩ | ⟨-, modes, _, _, _, _, rfl, hfan, -⟩⟩ :=
    (restoresSystem_of_gives hcallbacks h).calls
  · simp only [systemRead, List.cons.injEq, Sigma.mk.injEq, heq_eq_eq, true_and] at heq
    rw [heq.1, hbaseline] at hanswer
    cases hanswer
  · obtain ⟨ok, hmem⟩ := hfan.modes.attempted
    rw [heq]
    exact ⟨modeWrite 0 0 ok, by simp [hmem], rfl⟩

lemma prepareFrom_writes {current : TrialObservation} {delayedChange : Bool} {s s' : Bool}
    {trace : List TrialEvent} {p : Preparation} (hftst : current.ftst = 1)
    (hmode : ∃ fan, current.mode fan = 1)
    (h : Gives (backend.prepareFrom current delayedChange) s trace p s') : WritesMode trace := by
  rw [prepareFrom, if_neg (by simp [hftst]), if_neg (by simp [hftst])] at h
  obtain ⟨xs, ys, released, s₁, rfl, hfirst, hnext⟩ := gives_bind.mp h
  by_cases hzero : current.mode 0 = 1
  · rw [releaseManualMode, if_pos hzero] at hfirst
    exact (retryMode_writes hfirst).append_left ys
  · have hone : current.mode 1 = 1 := by
      obtain ⟨fan, hfan⟩ := hmode
      match fan with
      | 0 => exact absurd hfan hzero
      | 1 => exact hfan
    rw [releaseManualMode, if_neg hzero] at hfirst
    obtain ⟨rfl, rfl, rfl⟩ := gives_pure.mp hfirst
    obtain ⟨zs, ws, released, s₂, rfl, hsecond, -⟩ := gives_bind.mp hnext
    rw [releaseManualMode, if_pos hone] at hsecond
    exact (retryMode_writes hsecond).append_left ws

lemma restoreCallbacks_of_ftst (h : backend.ftstCallbacks = true) :
    backend.restoreCallbacks = true := by
  simp only [ftstCallbacks, restoreCallbacks, Bool.and_eq_true] at h ⊢
  exact ⟨⟨⟨h.1.1.1.1.1.2, h.1.1.1.1.2⟩, h.1.1.1.2⟩, h.1.1.2⟩

lemma entersManual_writes {α : Type} {m : TrialM α} {s s' : Bool} {trace : List TrialEvent} {a : α}
    (hcallbacks : trace ≠ [] → backend.restoreCallbacks = true) (h : Gives m s trace a s')
    (henters : backend.EntersManual m s trace) : WritesMode trace := by
  obtain ⟨site, before, after, rfl, hreaches, hmanual⟩ := henters
  obtain ⟨xs, ys, b, s₁, s₂, rfl, hpart⟩ := hreaches.gives h
  refine WritesMode.append_right before (WritesMode.append_left ?_ ys)
  cases site with
  | restoreSystem =>
    obtain ⟨answer, rest, hafter, hanswer⟩ := hmanual
    have hset : backend.restoreCallbacks = true := hcallbacks (by simp [hafter])
    have hpart' : Gives backend.trialRestoreSystem s₁ xs b s₂ := hpart
    obtain ⟨first, more, rfl, -⟩ := (restoresSystem_of_gives hset hpart').calls
    rw [List.cons_append] at hafter
    obtain rfl : first = answer := by simpa [systemRead] using (List.cons.inj hafter).1
    exact restoreSystem_writes hset hanswer hpart'
  | release current delayedChange => exact prepareFrom_writes hmanual.1 hmanual.2 hpart

/-! The rehearsal. -/

/-- Whatever else it does, a rehearsal sets `Ftst = 1` and recovers. -/
lemma rehearse_recovers (minimumRpm : Fin 2 → Double) :
    Only (fun c => c.recovers = true ∨ c = .writeFtst 1)
      (backend.trialRehearseFtstMinimumRecovery minimumRpm) := by
  have hrecovers : ∀ {α : Type} {m : TrialM α}, Recovers m →
      Only (fun c => c.recovers = true ∨ c = .writeFtst 1) m := fun h => h.mono fun c hc => .inl hc
  have hobserve : Only (fun c => c.recovers = true ∨ c = .writeFtst 1)
      backend.trialObserveAfterFtst := hrecovers watches_observe.restores.recovers
  have hunlock : Only (fun c => c.recovers = true ∨ c = .writeFtst 1)
      backend.trialRestoreUnlock := hrecovers recovers_restoreUnlock
  have hagain : Only (fun c => c.recovers = true ∨ c = .writeFtst 1)
      (backend.restoredAndStable backend.trialRestoreUnlock) :=
    hunlock.bind fun _ => .ite (fun _ => .pure _) fun _ => hobserve.bind fun _ => .pure _
  refine .ite (fun _ => .pure _) fun _ => .ite (fun _ => .pure _) fun _ =>
    (hrecovers watches_admitFtst.restores.recovers).bind fun admitted => ?_
  cases admitted with
  | none => exact .pure _
  | some started =>
    exact (Only.ask (.inr rfl)).bind fun _ =>
      (hrecovers (watches_awaitMinimum _ _).restores.recovers).bind fun _ =>
        hunlock.bind fun _ => .ite (fun _ => hobserve.bind fun _ => .pure _) fun _ =>
          hobserve.bind fun _ => .ite (fun _ => hagain.bind fun _ =>
            .ite (fun _ => .pure _) fun _ => .pure _) fun _ => .pure _

lemma rehearses_of_recovers {c : TrialCall} (h : c.recovers = true ∨ c = .writeFtst 1) :
    c.rehearses = true ↔ c.writesMode = false := by
  cases c with
  | writeTarget fan rpm =>
    rcases h with h | h
    · simpa [TrialCall.recovers, TrialCall.restores, TrialCall.rehearses, TrialCall.writesMode]
        using h
    · cases h
  | _ => simp [TrialCall.rehearses, TrialCall.writesMode]

lemma rehearse_missing {minimumRpm : Fin 2 → Double} {s s' : Bool} {trace : List TrialEvent}
    {status : TrialRunStatus} (hcallbacks : backend.ftstCallbacks = false)
    (h : Gives (backend.trialRehearseFtstMinimumRecovery minimumRpm) s trace status s') :
    trace = [] := by
  rw [trialRehearseFtstMinimumRecovery, if_pos (by simp [hcallbacks])] at h
  exact (gives_pure.mp h).1

/-- A rehearsal writes to Ftst and target 0 only, exactly in the runs whose recoveries find no fan
under manual control with `Ftst = 1`, and read the baseline first wherever they restore the
system. -/
theorem rehearse_writes_iff (backend : TrialBackend) (minimumRpm : Fin 2 → Double) (s : Bool)
    (trace : List TrialEvent) (status : TrialRunStatus) (s' : Bool)
    (h : Gives (backend.trialRehearseFtstMinimumRecovery minimumRpm) s trace status s') :
    (∀ e ∈ trace, e.1.isWrite = true → e.1.rehearses = true) ↔
      ¬ backend.EntersManual (backend.trialRehearseFtstMinimumRecovery minimumRpm) s trace := by
  have hrecovers := (rehearse_recovers minimumRpm).gives h
  constructor
  · intro hwrites henters
    have hset : trace ≠ [] → backend.restoreCallbacks = true := fun hne => by
      refine restoreCallbacks_of_ftst (Bool.not_eq_false _ ▸ fun hmissing => hne ?_)
      exact rehearse_missing hmissing h
    obtain ⟨⟨c, answer⟩, hmem, hmode⟩ := entersManual_writes hset h henters
    cases c with
    | writeMode fan mode => exact absurd (hwrites _ hmem rfl) nofun
    | _ => exact absurd hmode nofun
  · intro henters e he _
    have hkeeps := (accountsModes_rehearse minimumRpm _ _ _ _ h).resolve_right henters e he
    exact (rehearses_of_recovers (hrecovers e he)).mpr hkeeps

/-- A system that shows the first fan in manual mode, with `Ftst = 1`, after its first read. -/
def takenOver (reads : ℕ) : (c : TrialCall) → c.Answer × ℕ
  | .writeMode _ _ => (true, reads)
  | .writeTarget _ _ => (true, reads)
  | .writeFtst _ => (true, reads)
  | .readObservation _ =>
    (some (if reads = 0 then quietObservation 0
      else { quietObservation 1 with mode := fun fan => if fan = 0 then 1 else 3 }), reads + 1)
  | .waitMilliseconds _ => (true, reads)
  | .monotonicSeconds => (finite 0, reads)
  | .shouldStop => (false, reads)
  | .recordObservation _ _ => ((), reads)

def minimumOf (rpm : ℚ) (_ : Fin 2) : Double := finite rpm

abbrev takenOverRun : List TrialEvent × (TrialRunStatus × Bool) × ℕ :=
  play takenOver ((exact.trialRehearseFtstMinimumRecovery (minimumOf 1350)).run false) 0

/-- The rehearsal writes a fan mode: its recovery writes mode 0 to a fan it finds in mode 1. -/
theorem rehearsal_writes_mode :
    ¬ ∀ (backend : TrialBackend) (minimumRpm : Fin 2 → Double) (s : Bool) (trace : List TrialEvent)
      (status : TrialRunStatus) (s' : Bool),
      Gives (backend.trialRehearseFtstMinimumRecovery minimumRpm) s trace status s' →
      ∀ e ∈ trace, e.1.isWrite = true → e.1.rehearses = true := by
  intro h
  have hrun := ends_play takenOver ((exact.trialRehearseFtstMinimumRecovery (minimumOf 1350)).run
    false) 0
  have hwrites : (takenOverRun.1.any fun e => e.1.isWrite && !e.1.rehearses) = true := by
    decide +kernel
  obtain ⟨e, he, hbad⟩ := List.any_eq_true.mp hwrites
  simp only [Bool.and_eq_true, Bool.not_eq_true'] at hbad
  have hgood := h exact (minimumOf 1350) false _ _ _ hrun e he hbad.1
  rw [hbad.2] at hgood
  cases hgood

theorem rehearsal_writes_mode_entered :
    exact.EntersManual (exact.trialRehearseFtstMinimumRecovery (minimumOf 1350)) false
      takenOverRun.1 := by
  have hrun := ends_play takenOver ((exact.trialRehearseFtstMinimumRecovery (minimumOf 1350)).run
    false) 0
  have hwrites : (takenOverRun.1.any fun e => e.1.isWrite && !e.1.rehearses) = true := by
    decide +kernel
  by_contra henters
  have hgood := (rehearse_writes_iff exact (minimumOf 1350) false _ _ _ hrun).mpr henters
  obtain ⟨e, he, hbad⟩ := List.any_eq_true.mp hwrites
  simp only [Bool.and_eq_true, Bool.not_eq_true'] at hbad
  rw [hgood e he hbad.1] at hbad
  exact absurd hbad.2 nofun

end TrialBackend
end Ventilator
