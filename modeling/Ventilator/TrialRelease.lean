import Ventilator.TrialVerified

/-! Which runs of the two Ftst trials request the release after `Ftst = 1`. A recovery that
returns before its release loop requests nothing. -/
namespace Ventilator
open Double CallTree

namespace TrialCall

/-- The calls of a restoration: mode 0, target 0 and whatever writes nothing. -/
def restores : TrialCall → Bool
  | writeMode _ mode => mode == 0
  | writeTarget _ rpm => rpm == finite 0
  | writeFtst _ => false
  | _ => true

/-- The calls of a recovery: those of a restoration and the release. -/
def recovers (c : TrialCall) : Bool := c.restores || c == writeFtst 0

end TrialCall

/-- Every `Ftst = 1` write of the trace is followed by an `Ftst = 0` write. -/
def ReleaseRequested (trace : List TrialEvent) : Prop :=
  ∀ before ok after, trace = before ++ ⟨.writeFtst 1, ok⟩ :: after →
    ∃ answer, ⟨.writeFtst 0, answer⟩ ∈ after

lemma ReleaseRequested.of_split {xs after : List TrialEvent} {ok : Bool}
    (hxs : ∀ e ∈ xs, e.1 ≠ .writeFtst 1) (hafter : ∀ e ∈ after, e.1 ≠ .writeFtst 1)
    (hrequest : ∃ answer, ⟨.writeFtst 0, answer⟩ ∈ after) :
    ReleaseRequested (xs ++ ⟨.writeFtst 1, ok⟩ :: after) := by
  intro before ok' later heq
  rcases List.append_eq_append_iff.mp heq with ⟨gap, rfl, hgap⟩ | ⟨gap, rfl, hgap⟩
  · cases gap with
    | nil =>
      rw [List.nil_append, List.cons.injEq] at hgap
      rwa [← hgap.2]
    | cons e gap =>
      rw [List.cons_append, List.cons.injEq] at hgap
      exact absurd rfl (hafter ⟨.writeFtst 1, ok'⟩ (by rw [hgap.2]; simp))
  · cases gap with
    | nil =>
      rw [List.nil_append, List.cons.injEq] at hgap
      rwa [hgap.2]
    | cons e gap =>
      rw [List.cons_append, List.cons.injEq] at hgap
      exact absurd rfl (hxs ⟨.writeFtst 1, ok'⟩ (by rw [hgap.1]; simp))

lemma ReleaseRequested.of_none {trace : List TrialEvent} (h : ∀ e ∈ trace, e.1 ≠ .writeFtst 1) :
    ReleaseRequested trace := by
  rintro before ok after rfl
  exact absurd rfl (h ⟨.writeFtst 1, ok⟩ (by simp))

/-- The programs that never write Ftst and write to a fan only what restores it. -/
abbrev Restores {α : Type} (m : TrialM α) : Prop := Only (fun c => c.restores = true) m

/-- The programs that besides may request the release. -/
abbrev Recovers {α : Type} (m : TrialM α) : Prop := Only (fun c => c.recovers = true) m

lemma Restores.recovers {α : Type} {m : TrialM α} (h : Restores m) : Recovers m :=
  h.mono fun c hc => by rw [TrialCall.recovers, hc, Bool.true_or]

/-- The programs that never set `Ftst = 1`. -/
abbrev KeepsLocked {α : Type} (m : TrialM α) : Prop := Only (fun c => c ≠ .writeFtst 1) m

lemma Recovers.keepsLocked {α : Type} {m : TrialM α} (h : Recovers m) : KeepsLocked m :=
  h.mono fun c hc => by
    rintro rfl
    exact absurd hc (by decide)

namespace TrialBackend

variable {backend : TrialBackend}

/-- The programs that write nothing. -/
abbrev Watches {α : Type} (m : TrialM α) : Prop := Only (fun c => c.isWrite = false) m

lemma Watches.restores {α : Type} {m : TrialM α} (h : Watches m) : Restores m :=
  h.mono fun c hc => by
    cases c <;> first | rfl | cases hc

lemma watches_record (second : ℕ) (o : TrialObservation) : Watches (backend.record second o) :=
  .ite (fun _ => .ask (by rfl)) fun _ => .pure _

lemma watches_noteFanState (o : TrialObservation) : Watches (noteFanState o) := .modify _

lemma watches_pauseIf (more : Bool) (milliseconds : ℕ) : Watches (pauseIf more milliseconds) :=
  .ite (fun _ => .discard (.ask (by rfl))) fun _ => .pure _

lemma watches_verifySystem : Watches verifySystem :=
  .forLoop (fun _ _ => (Only.ask (by rfl)).bind fun _ => .ite (fun _ => .pure _) fun _ =>
    (watches_pauseIf _ _).bind fun _ => .pure _) (fun _ => .pure _) _ _

lemma watches_observerHandler (c : ObserverCall) : Watches (backend.observerHandler c) := by
  cases c with
  | readObservation =>
    refine (Only.ask (by rfl)).bind fun read => ?_
    cases read with
    | none => exact .pure _
    | some current => exact (watches_noteFanState _).bind fun _ => .pure _
  | recordObservation second o => exact watches_record second o
  | _ => exact .ask (by rfl)

lemma watches_observe : Watches backend.trialObserveAfterFtst :=
  .handle watches_observerHandler _

lemma watches_readForRelease : Watches readForRelease := by
  refine .forLoop (fun _ _ => (Only.ask (by rfl)).bind fun read => ?_) (fun _ => .pure _) _ _
  cases read with
  | none => exact (watches_pauseIf _ _).bind fun _ => .pure _
  | some current => exact (watches_noteFanState _).bind fun _ => .pure _

lemma watches_admitFtst : Watches admitFtst := by
  refine (Only.ask (by rfl)).bind fun read => ?_
  cases read with
  | none => exact .pure _
  | some baseline =>
    exact .ite (fun _ => .pure _) fun _ => (Only.ask (by rfl)).bind fun _ =>
      .ite (fun _ => .pure _) fun _ => (Only.ask (by rfl)).bind fun _ => .pure _

lemma watches_awaitEffect : Watches backend.awaitEffect := by
  refine .forLoop (fun _ _ => (Only.ask (by rfl)).bind fun read => ?_) (fun _ => .pure _) _ _
  cases read with
  | none => exact .pure _
  | some afterWrite =>
    exact (watches_record _ _).bind fun _ => (watches_noteFanState _).bind fun _ =>
      .ite (fun _ => .pure _) fun _ => .ite (fun _ => .pure _) fun _ =>
        (Only.ask (by rfl)).bind fun _ => .ite (fun _ => .pure _) fun _ =>
          .ite (fun _ => .pure _) fun _ => (Only.ask (by rfl)).bind fun _ =>
            .ite (fun _ => .pure _) fun _ => .pure _

lemma watches_unlockChecked (writeOk : Bool) (afterWrite : TrialObservation)
    (started : Double) : Watches (backend.unlockChecked writeOk afterWrite started) :=
  .ite (fun _ => (Only.ask (by rfl)).bind fun _ => .ite (fun _ => .pure _) fun _ =>
    (Only.ask (by rfl)).bind fun _ => .pure _) fun _ => .pure _

lemma watches_awaitMinimum (minimumRpm : Fin 2 → Double) (started : Double) :
    Watches (backend.awaitMinimum minimumRpm started) := by
  refine .forLoop (fun _ _ => (Only.ask (by rfl)).bind fun _ => .ite (fun _ => .pure _) fun _ =>
    (Only.ask (by rfl)).bind fun read => ?_) (fun _ => .pure _) _ _
  cases read with
  | none => exact .pure _
  | some current =>
    refine (watches_record _ _).bind fun _ => (Only.ask (by rfl)).bind fun _ => ?_
    exact .ite (fun _ => .pure _) fun _ => .ite (fun _ => .pure _) fun _ =>
      .ite (fun _ => .pure _) fun _ => .ite (fun _ => .pure _) fun _ =>
        .ite (fun _ => .pure _) fun _ => .ite (fun _ => .pure _) fun _ =>
          .ite (fun _ => .pure _) fun _ => (Only.ask (by rfl)).bind fun _ =>
            .ite (fun _ => .pure _) fun _ => .pure _

lemma watches_awaitCleared : Watches backend.awaitCleared := by
  refine .forLoop (fun _ _ => (Only.ask (by rfl)).bind fun read => ?_) (fun _ => .pure _) _ _
  cases read with
  | none => exact .pure _
  | some afterWrite =>
    exact .ite (fun _ => .pure _) fun _ => (watches_noteFanState _).bind fun _ =>
      (watches_record _ _).bind fun _ => .ite (fun _ => .pure _) fun _ =>
        .ite (fun _ => .pure _) fun _ => (Only.ask (by rfl)).bind fun _ =>
          .ite (fun _ => .pure _) fun _ => .pure _

lemma restores_retry {write : TrialM Bool} (h : Restores write) : Restores (retry write) :=
  .forLoop (fun _ _ => h.bind fun _ => .ite (fun _ => .pure _) fun _ =>
    (watches_pauseIf _ _).restores.bind fun _ => .pure _) (fun _ => .pure _) _ _

lemma restores_restoreFan (fan : Fin 2) : Restores (restoreFan fan) :=
  (Only.discard (restores_retry (.ask (by rfl)))).bind fun _ =>
    .discard (restores_retry (.ask (by rfl)))

lemma restores_restoreSystem : Restores backend.trialRestoreSystem :=
  .ite (fun _ => .pure _) fun _ => (Only.ask (by rfl)).bind fun _ =>
    .ite (fun _ => .pure _) fun _ => (restores_restoreFan 0).bind fun _ =>
      (restores_restoreFan 1).bind fun _ => watches_verifySystem.restores

lemma restores_restoredAndStable {restore : TrialM Bool} (h : Restores restore) :
    Restores (backend.restoredAndStable restore) :=
  h.bind fun _ => .ite (fun _ => .pure _) fun _ => watches_observe.restores.bind fun _ => .pure _

lemma restores_releaseManualMode (current : TrialObservation) (fan : Fin 2) :
    Restores (releaseManualMode current fan) :=
  .ite (fun _ => restores_retry (.ask (by rfl))) fun _ => .pure _

lemma restores_lowerTarget (fan : Fin 2) : Restores (lowerTarget fan) := by
  refine (Only.ask (by rfl)).bind fun read => ?_
  cases read with
  | none => exact .pure _
  | some current =>
    exact .ite (fun _ => .pure _) fun _ => (watches_noteFanState _).restores.bind fun _ =>
      .ite (fun _ => (Only.discard (.ask (by rfl))).bind fun _ => .pure _) fun _ => .pure _

lemma restores_lowerTargets (current : TrialObservation) :
    Restores (backend.lowerTargets current) := by
  refine .ite (fun _ => ?_) fun _ => .pure _
  have hpass : Restores lowerPass := (restores_lowerTarget 0).bind fun _ =>
    .ite (fun _ => .discard (restores_lowerTarget 1)) fun _ => .pure _
  refine hpass.bind fun _ => (Only.ask (by rfl)).bind fun read => ?_
  cases read with
  | none => exact .pure _
  | some current =>
    exact .ite (fun _ => .pure _) fun _ => (watches_noteFanState _).restores.bind fun _ =>
      (watches_record _ _).restores.bind fun _ => .pure _

lemma restores_prepareFrom (current : TrialObservation) (delayedChange : Bool) :
    Restores (backend.prepareFrom current delayedChange) := by
  refine .ite (fun _ => ?_) fun _ => .ite (fun _ => .pure _) fun _ => ?_
  · exact (restores_restoredAndStable restores_restoreSystem).bind fun _ => .pure _
  · refine (restores_releaseManualMode current 0).bind fun _ => .ite (fun _ => .pure _) fun _ =>
      (restores_releaseManualMode current 1).bind fun _ => .ite (fun _ => .pure _) fun _ =>
        (Only.ask (by rfl)).bind fun read => ?_
    cases read with
    | none => exact .pure _
    | some current =>
      exact .ite (fun _ => .pure _) fun _ => (watches_noteFanState _).restores.bind fun _ =>
        (watches_record _ _).restores.bind fun _ => (restores_lowerTargets _).bind fun _ =>
          .ite (fun _ => .pure _) fun _ => .pure _

/-- The phases before the release never write Ftst. -/
lemma restores_prepareRelease : Restores backend.prepareRelease := by
  refine watches_readForRelease.restores.bind fun found => ?_
  cases found with
  | none => exact .pure _
  | some current =>
    refine (watches_record _ _).restores.bind fun _ => .ite (fun _ => ?_) fun _ =>
      restores_prepareFrom _ _
    refine watches_observe.restores.bind fun result => .ite (fun _ => .pure _) fun _ =>
      .ite (fun _ => .pure _) fun _ => (Only.ask (by rfl)).bind fun read => ?_
    cases read with
    | none => exact .pure _
    | some current =>
      exact (watches_noteFanState _).restores.bind fun _ => restores_prepareFrom _ _

lemma restores_fallback (second : ℕ) (o : TrialObservation) (state : PostClear) :
    Restores (backend.fallback second o state) :=
  .ite (fun _ => (Only.discard restores_restoreSystem).bind fun _ => .pure _) fun _ => .pure _

lemma restores_awaitBaselineSecond (delayedChange : Bool) (second : ℕ) (state : PostClear) :
    Restores (backend.awaitBaselineSecond delayedChange second state) := by
  refine (Only.ask (by rfl)).bind fun _ => (Only.ask (by rfl)).bind fun read => ?_
  cases read with
  | none => exact .pure _
  | some observation =>
    exact .ite (fun _ => .pure _) fun _ => (Only.ask (by rfl)).bind fun _ =>
      .ite (fun _ => .pure _) fun _ => (watches_noteFanState _).restores.bind fun _ =>
        (watches_record _ _).restores.bind fun _ => .ite (fun _ => .pure _) fun _ =>
          (restores_fallback _ _ _).bind fun _ => .ite (fun _ => .pure _) fun _ =>
            (Only.ask (by rfl)).bind fun _ => .ite (fun _ => .pure _) fun _ => .pure _

lemma restores_awaitBaseline (delayedChange : Bool) :
    Restores (backend.awaitBaseline delayedChange) :=
  .forLoop (restores_awaitBaselineSecond delayedChange) (fun _ => .pure _) _ _

lemma keepsLocked {α : Type} {m : TrialM α} (h : Restores m) : KeepsLocked m :=
  h.recovers.keepsLocked

lemma recovers_clearFtst : Recovers backend.clearFtst := by
  refine .forLoop (fun _ _ => (Only.discard (.ask (by rfl))).bind fun _ =>
    watches_awaitCleared.restores.recovers.bind fun result => ?_) (fun _ => .pure _) _ _
  cases result <;> exact .pure _

/-- A recovery writes mode 0, target 0 and `Ftst = 0` only. -/
lemma recovers_restoreUnlock : Recovers backend.trialRestoreUnlock := by
  refine .ite (fun _ => .pure _) fun _ => restores_prepareRelease.recovers.bind fun p => ?_
  cases p with
  | returned result => exact .pure _
  | ready delayedChange =>
    exact recovers_clearFtst.bind fun _ => .ite (fun _ => (restores_awaitBaseline _).recovers)
      fun _ => .pure _

lemma keepsLocked_restoreUnlock : KeepsLocked backend.trialRestoreUnlock :=
  recovers_restoreUnlock.keepsLocked

lemma keepsLocked_bothAgain :
    KeepsLocked (backend.restoredAndStable backend.trialRestoreUnlock) :=
  keepsLocked_restoreUnlock.bind fun _ => .ite (fun _ => .pure _) fun _ =>
    (keepsLocked watches_observe.restores).bind fun _ => .pure _

lemma keepsLocked_recoverUnlock {settle : TrialM TrialRunStatus} {again : TrialRunStatus}
    (hsettle : KeepsLocked settle) : KeepsLocked (backend.recoverUnlock settle again) := by
  have hobserve : KeepsLocked backend.trialObserveAfterFtst := keepsLocked watches_observe.restores
  exact keepsLocked_restoreUnlock.bind fun _ =>
    .ite (fun _ => hobserve.bind fun _ => .pure _) fun _ =>
      hobserve.bind fun _ => .ite (fun _ => keepsLocked_bothAgain.bind fun _ =>
        .ite (fun _ => .pure _) fun _ => .pure _) fun _ => hsettle

lemma keepsLocked_releaseUnseen : KeepsLocked backend.releaseUnseen :=
  (Only.ask (by simp)).bind fun _ => (keepsLocked watches_observe.restores).bind fun _ =>
    .ite (fun _ => keepsLocked_bothAgain.bind fun _ => .ite (fun _ => .pure _) fun _ => .pure _)
      fun _ => .pure _

/-- The release loop begins with the request, whatever is answered to it. -/
lemma clearFtst_requests {a s s' : Bool} {trace : List TrialEvent}
    (h : Gives backend.clearFtst s trace a s') :
    ∃ answer rest, trace = ⟨.writeFtst 0, answer⟩ :: rest := by
  obtain ⟨xs, ys, out, s₁, rfl, hloop, -⟩ := gives_bind.mp h
  obtain ⟨zs, ws, next, s₂, rfl, hbody, -⟩ := gives_bind.mp hloop
  obtain ⟨as, bs, _, s₃, rfl, hdiscard, -⟩ := gives_bind.mp hbody
  obtain ⟨answer, hask⟩ := gives_discard.mp hdiscard
  obtain ⟨rfl, -⟩ := gives_ask.mp hask
  exact ⟨answer, _, rfl⟩

lemma releaseAndWait_requests {delayedChange a s s' : Bool} {trace : List TrialEvent}
    (h : Gives (backend.releaseAndWait delayedChange) s trace a s') :
    ∃ answer rest, trace = ⟨.writeFtst 0, answer⟩ :: rest := by
  obtain ⟨xs, ys, cleared, s₁, rfl, hclear, -⟩ := gives_bind.mp h
  obtain ⟨answer, rest, rfl⟩ := clearFtst_requests hclear
  exact ⟨answer, _, rfl⟩

/-- A recovery either returns before its release loop or requests the release. -/
lemma restoreUnlock_cases {s s' a : Bool} {trace : List TrialEvent}
    (hcallbacks : backend.ftstCallbacks = true)
    (h : Gives backend.trialRestoreUnlock s trace a s') :
    Gives backend.prepareRelease s trace (.returned a) s' ∨
      ∃ answer, ⟨.writeFtst 0, answer⟩ ∈ trace := by
  rw [trialRestoreUnlock, if_neg (by simp [hcallbacks])] at h
  obtain ⟨xs, ys, prepared, s₁, rfl, hprepare, h₁⟩ := gives_bind.mp h
  cases prepared with
  | returned result =>
    obtain ⟨rfl, rfl, rfl⟩ := gives_pure.mp h₁
    rw [List.append_nil]
    exact .inl hprepare
  | ready delayedChange =>
    obtain ⟨answer, rest, rfl⟩ := releaseAndWait_requests h₁
    exact .inr ⟨answer, by simp⟩

lemma restoreUnlock_of_returned {s s' a : Bool} {trace : List TrialEvent}
    (hcallbacks : backend.ftstCallbacks = true)
    (h : Gives backend.prepareRelease s trace (.returned a) s') :
    Gives backend.trialRestoreUnlock s trace a s' := by
  rw [trialRestoreUnlock, if_neg (by simp [hcallbacks])]
  exact gives_bind.mpr ⟨trace, [], .returned a, s', by simp, h, by simp⟩

/-- The end of a trial in which every recovery returned before its release loop, and the last
observation was stable. -/
inductive EndsUnreleased (backend : TrialBackend) (s : Bool) : List TrialEvent → Prop
  | once {result s₁ s₂ xs ys} {window : TrialBaselineResult}
      (hprepare : Gives backend.prepareRelease s xs (.returned result) s₁)
      (hobserve : Gives backend.trialObserveAfterFtst s₁ ys window s₂)
      (hstable : window.status = .stable) : EndsUnreleased backend s (xs ++ ys)
  | again {s₁ s₂ s₃ s₄ xs ys zs ws} {window last : TrialBaselineResult}
      (hprepare : Gives backend.prepareRelease s xs (.returned true) s₁)
      (hobserve : Gives backend.trialObserveAfterFtst s₁ ys window s₂)
      (hchanged : window.status ≠ .stable)
      (hprepare' : Gives backend.prepareRelease s₂ zs (.returned true) s₃)
      (hobserve' : Gives backend.trialObserveAfterFtst s₃ ws last s₄)
      (hstable : last.status = .stable) : EndsUnreleased backend s (xs ++ (ys ++ (zs ++ ws)))

lemma no_request {α : Type} {m : TrialM α} (hm : Restores m) {s s' : Bool} {a : α}
    {trace : List TrialEvent} (h : Gives m s trace a s') (value : UInt8) (answer : Bool) :
    ⟨.writeFtst value, answer⟩ ∉ trace := fun hmem => by
  have hleaves := hm.gives h _ hmem
  exact absurd hleaves nofun

lemma EndsUnreleased.no_request {s : Bool} {trace : List TrialEvent}
    (h : EndsUnreleased backend s trace) (value : UInt8) (answer : Bool) :
    ⟨.writeFtst value, answer⟩ ∉ trace := by
  cases h with
  | once hprepare hobserve hstable =>
    simp only [List.mem_append, not_or]
    exact ⟨TrialBackend.no_request restores_prepareRelease hprepare _ _,
      TrialBackend.no_request watches_observe.restores hobserve _ _⟩
  | again hprepare hobserve hchanged hprepare' hobserve' hstable =>
    simp only [List.mem_append, not_or]
    exact ⟨TrialBackend.no_request restores_prepareRelease hprepare _ _,
      TrialBackend.no_request watches_observe.restores hobserve _ _,
      TrialBackend.no_request restores_prepareRelease hprepare' _ _,
      TrialBackend.no_request watches_observe.restores hobserve' _ _⟩

/-- The shared recovery requests the release, fails, or ends unreleased. -/
lemma recoverUnlock_cases {settle : TrialM TrialRunStatus} {again status : TrialRunStatus}
    {s s' : Bool} {trace : List TrialEvent} (hcallbacks : backend.ftstCallbacks = true)
    (hsettle : ∀ s trace status s', Gives settle s trace status s' → trace = [])
    (h : Gives (backend.recoverUnlock settle again) s trace status s')
    (hne : status ≠ .restoreFailed) :
    (∃ answer, ⟨.writeFtst 0, answer⟩ ∈ trace) ∨ EndsUnreleased backend s trace := by
  obtain ⟨xs, trace₁, restored, s₁, rfl, hrestore, h₁⟩ := gives_bind.mp h
  rcases restoreUnlock_cases hcallbacks hrestore with hprepare | ⟨answer, hanswer⟩
  swap
  · exact .inl ⟨answer, List.mem_append_left _ hanswer⟩
  split at h₁
  · obtain ⟨ys, trace₂, window, s₂, rfl, hobserve, h₂⟩ := gives_bind.mp h₁
    obtain ⟨rfl, rfl, -⟩ := gives_pure.mp h₂
    rw [List.append_nil]
    exact .inr (.once hprepare hobserve (by by_contra hstable; simp [hstable] at hne))
  · rename_i hrestored
    rw [Bool.not_eq_true, Bool.not_eq_false'] at hrestored
    rw [hrestored] at hprepare
    obtain ⟨ys, trace₂, window, s₂, rfl, hobserve, h₂⟩ := gives_bind.mp h₁
    split at h₂
    · rename_i hchanged
      obtain ⟨zs, trace₃, both, s₃, rfl, hboth, h₃⟩ := gives_bind.mp h₂
      obtain ⟨hboth', g₃⟩ := h₃.past_return hne
      obtain ⟨rfl, -⟩ := gives_pure.mp g₃
      rw [Bool.not_eq_true, Bool.not_eq_false'] at hboth'
      rw [hboth'] at hboth
      obtain ⟨zs, trace₄, restored', s₄, rfl, hrestore', h₄⟩ := gives_bind.mp hboth
      obtain ⟨hrestored', g₄⟩ := h₄.past_return nofun
      rw [Bool.not_eq_true, Bool.not_eq_false'] at hrestored'
      rw [hrestored'] at hrestore'
      rcases restoreUnlock_cases hcallbacks hrestore' with hprepare' | ⟨answer, hanswer⟩
      swap
      · exact .inl ⟨answer, by simp [hanswer]⟩
      obtain ⟨ws, trace₅, last, s₅, rfl, hobserve', h₅⟩ := gives_bind.mp g₄
      obtain ⟨rfl, hstable, -⟩ := gives_pure.mp h₅
      simp only [List.append_nil]
      exact .inr (.again hprepare hobserve hchanged hprepare' hobserve'
        (beq_iff_eq.mp hstable.symm))
    · rename_i hstable
      rw [hsettle _ _ _ _ h₂, List.append_nil]
      exact .inr (.once hprepare hobserve (not_not.mp hstable))

/-- The trace of an unreleased end is a run of the shared recovery that does not fail. -/
lemma recoverUnlock_of_unreleased {settle : TrialM TrialRunStatus} {again : TrialRunStatus}
    {s : Bool} {trace : List TrialEvent} (hcallbacks : backend.ftstCallbacks = true)
    (hsettle : ∀ s, ∃ status s', Gives settle s [] status s' ∧ status ≠ .restoreFailed)
    (hagain : again ≠ .restoreFailed) (h : EndsUnreleased backend s trace) :
    ∃ status s', Gives (backend.recoverUnlock settle again) s trace status s' ∧
      status ≠ .restoreFailed := by
  cases h with
  | @once result s₁ s₂ xs ys window hprepare hobserve hstable =>
    have hrestore := restoreUnlock_of_returned hcallbacks hprepare
    cases result with
    | false =>
      refine ⟨.controlFailedSystemVerified, s₂, gives_bind.mpr ⟨xs, ys, false, s₁, rfl, hrestore,
        gives_bind.mpr ⟨ys, [], window, s₂, by simp, hobserve, ?_⟩⟩, nofun⟩
      simp [hstable]
    | true =>
      obtain ⟨status, s', hgives, hne⟩ := hsettle s₂
      refine ⟨status, s', gives_bind.mpr ⟨xs, ys, true, s₁, rfl, hrestore,
        gives_bind.mpr ⟨ys, [], window, s₂, by simp, hobserve, ?_⟩⟩, hne⟩
      rw [if_neg (not_not.mpr hstable)]
      exact hgives
  | @again s₁ s₂ s₃ s₄ xs ys zs ws window last hprepare hobserve hchanged hprepare' hobserve'
      hstable =>
    have hrestore := restoreUnlock_of_returned hcallbacks hprepare
    have hrestore' := restoreUnlock_of_returned hcallbacks hprepare'
    have hboth : Gives (backend.restoredAndStable backend.trialRestoreUnlock) s₂ (zs ++ ws) true
        s₄ :=
      gives_bind.mpr ⟨zs, ws, true, s₃, rfl, hrestore',
        gives_bind.mpr ⟨ws, [], last, s₄, by simp, hobserve', by simp [hstable]⟩⟩
    refine ⟨again, s₄, gives_bind.mpr ⟨xs, ys ++ (zs ++ ws), true, s₁, rfl, hrestore,
      gives_bind.mpr ⟨ys, zs ++ ws, window, s₂, rfl, hobserve, ?_⟩⟩, hagain⟩
    rw [if_pos hchanged]
    exact gives_bind.mpr ⟨zs ++ ws, [], true, s₄, by simp, hboth, by simp⟩

/-- The check's branch that goes wrong: it sees the effect, and ends unreleased. -/
def UnreleasedCheck (backend : TrialBackend) (trace : List TrialEvent) : Prop :=
  ∃ xs ok ys zs tail started afterWrite unlockOk s₁ s₂ s₃,
    trace = xs ++ ⟨.writeFtst 1, ok⟩ :: (ys ++ (zs ++ tail)) ∧
      Gives admitFtst false xs (some started) s₁ ∧
      Gives backend.awaitEffect s₁ ys (some afterWrite) s₂ ∧
      Gives (backend.unlockChecked ok afterWrite started) s₂ zs unlockOk s₃ ∧
      EndsUnreleased backend s₃ tail

/-- The rehearsal's branch that goes wrong: it ends unreleased, whatever it saw. -/
def UnreleasedRehearsal (backend : TrialBackend) (minimumRpm : Fin 2 → Double) (s : Bool)
    (trace : List TrialEvent) : Prop :=
  ∃ xs ok ys tail started saw s₁ s₂,
    trace = xs ++ ⟨.writeFtst 1, ok⟩ :: (ys ++ tail) ∧
      Gives admitFtst s xs (some started) s₁ ∧
      Gives (backend.awaitMinimum minimumRpm started) s₁ ys saw s₂ ∧
      EndsUnreleased backend s₂ tail

lemma settleEffect_settles (unlockOk s : Bool) :
    ∃ status s', Gives (settleEffect unlockOk) s [] status s' ∧ status ≠ .restoreFailed := by
  refine ⟨if unlockOk && !s then .succeeded else .controlFailedSystemVerified, s,
    gives_bind.mpr ⟨[], [], s, s, rfl, gives_get.mpr ⟨rfl, rfl, rfl⟩,
      gives_pure.mpr ⟨rfl, rfl, rfl⟩⟩, ?_⟩
  split <;> nofun

lemma recoverEffect_of_unreleased {s : Bool} {trace : List TrialEvent} (unlockOk : Bool)
    (hcallbacks : backend.ftstCallbacks = true) (h : EndsUnreleased backend s trace) :
    ∃ status s', Gives (backend.recoverEffect unlockOk) s trace status s' ∧
      status ≠ .restoreFailed := by
  have hagain : TrialRunStatus.controlFailedSystemVerified ≠ .restoreFailed := by decide
  exact recoverUnlock_of_unreleased hcallbacks (settleEffect_settles unlockOk) hagain h

lemma recoverMinimum_of_unreleased {s : Bool} {trace : List TrialEvent}
    (writeOk sawFtstOne sawMinimumTargets : Bool) (hcallbacks : backend.ftstCallbacks = true)
    (h : EndsUnreleased backend s trace) :
    ∃ status s', Gives (backend.recoverMinimum writeOk sawFtstOne sawMinimumTargets) s trace
      status s' ∧ status ≠ .restoreFailed := by
  refine recoverUnlock_of_unreleased hcallbacks (fun s => ?_) ?_ h
  · refine ⟨_, s, gives_pure.mpr ⟨rfl, rfl, rfl⟩, ?_⟩
    cases writeOk <;> cases sawFtstOne <;> cases sawMinimumTargets <;> decide
  · cases writeOk <;> cases sawFtstOne <;> decide

lemma keepsLocked_settleEffect (unlockOk : Bool) : KeepsLocked (settleEffect unlockOk) :=
  Only.get.bind fun _ => .pure _

lemma no_unlock {α : Type} {m : TrialM α} (hm : Restores m) {s s' : Bool} {a : α}
    {trace : List TrialEvent} (h : Gives m s trace a s') : ∀ e ∈ trace, e.1 ≠ .writeFtst 1 :=
  (keepsLocked hm).gives h

/-- A run of the check that does not fail requests the release unless it ends unreleased. -/
lemma check_requests {s' : Bool} {trace : List TrialEvent} {status : TrialRunStatus}
    (hcallbacks : backend.ftstCallbacks = true) (h : Gives backend.checkFtst false trace status s')
    (hreleased : ¬ backend.UnreleasedCheck trace) (hne : status ≠ .restoreFailed) :
    ReleaseRequested trace := by
  obtain ⟨xs, trace₁, admitted, s₁, rfl, hadmit, h₁⟩ := gives_bind.mp h
  have hxs := no_unlock watches_admitFtst.restores hadmit
  cases admitted with
  | none =>
    obtain ⟨rfl, -⟩ := gives_pure.mp h₁
    rw [List.append_nil]
    exact .of_none hxs
  | some started =>
    obtain ⟨ok, trace₂, rfl, h₂⟩ := gives_ask_bind.mp h₁
    obtain ⟨ys, trace₃, effect, s₂, rfl, heffect, h₃⟩ := gives_bind.mp h₂
    have hys := no_unlock watches_awaitEffect.restores heffect
    cases effect with
    | none =>
      have htail := keepsLocked_releaseUnseen.gives h₃
      obtain ⟨released, trace₄, rfl, -⟩ := gives_ask_bind.mp h₃
      exact .of_split hxs (List.forall_mem_append.mpr ⟨hys, htail⟩) ⟨released, by simp⟩
    | some afterWrite =>
      obtain ⟨zs, tail, unlockOk, s₃, rfl, hunlock, h₄⟩ := gives_bind.mp h₃
      have hzs := no_unlock (watches_unlockChecked _ _ _).restores hunlock
      have htail := (keepsLocked_recoverUnlock (keepsLocked_settleEffect _)).gives h₄
      rcases recoverUnlock_cases hcallbacks (settleEffect_silent unlockOk) h₄ hne with
        ⟨answer, hanswer⟩ | hunreleased
      · refine .of_split hxs ?_ ⟨answer, by simp [hanswer]⟩
        exact List.forall_mem_append.mpr ⟨hys, List.forall_mem_append.mpr ⟨hzs, htail⟩⟩
      · exact absurd ⟨xs, ok, ys, zs, tail, started, afterWrite, unlockOk, s₁, s₂, s₃, rfl, hadmit,
          heffect, hunlock, hunreleased⟩ hreleased

lemma UnreleasedCheck.fails {trace : List TrialEvent} (h : backend.UnreleasedCheck trace) :
    ¬ ReleaseRequested trace := by
  obtain ⟨xs, ok, ys, zs, tail, started, afterWrite, unlockOk, s₁, s₂, s₃, rfl, -, heffect,
    hunlock, hunreleased⟩ := h
  intro hrequested
  obtain ⟨answer, hanswer⟩ := hrequested _ _ _ rfl
  rcases List.mem_append.mp hanswer with hmem | hmem
  · exact no_request watches_awaitEffect.restores heffect _ _ hmem
  rcases List.mem_append.mp hmem with hmem | hmem
  · exact no_request (watches_unlockChecked _ _ _).restores hunlock _ _ hmem
  · exact hunreleased.no_request _ _ hmem

/-- The trace of the check's wrong branch is a run that does not fail. -/
lemma UnreleasedCheck.runs {trace : List TrialEvent} (hcallbacks : backend.ftstCallbacks = true)
    (h : backend.UnreleasedCheck trace) :
    ∃ status s', Gives backend.checkFtst false trace status s' ∧ status ≠ .restoreFailed := by
  obtain ⟨xs, ok, ys, zs, tail, started, afterWrite, unlockOk, s₁, s₂, s₃, rfl, hadmit, heffect,
    hunlock, hunreleased⟩ := h
  obtain ⟨status, s', hrecover, hne⟩ := recoverEffect_of_unreleased unlockOk hcallbacks hunreleased
  refine ⟨status, s', gives_bind.mpr ⟨xs, _, some started, s₁, rfl, hadmit,
    gives_ask_bind.mpr ⟨ok, _, rfl, gives_bind.mpr ⟨ys, _, some afterWrite, s₂, rfl, heffect,
      gives_bind.mpr ⟨zs, tail, unlockOk, s₃, rfl, hunlock, hrecover⟩⟩⟩⟩, hne⟩

/-- The check meets its release rule exactly in the runs that do not take the wrong branch. -/
lemma check_release_iff {trace : List TrialEvent} {status : TrialRunStatus}
    (h : Ends backend.trialCheckFtst trace status) :
    (status ≠ .restoreFailed → ReleaseRequested trace) ↔ ¬ backend.UnreleasedCheck trace := by
  by_cases hcallbacks : backend.ftstCallbacks = true
  · rw [trialCheckFtst, if_neg (by simp [hcallbacks])] at h
    obtain ⟨s', hgives⟩ := ends_run' h
    refine ⟨fun hrequests hunreleased => ?_, fun hreleased hne =>
      check_requests hcallbacks hgives hreleased hne⟩
    obtain ⟨status', s'', hgives', hne⟩ := hunreleased.runs hcallbacks
    rw [← hgives.unique hgives'] at hne
    exact hunreleased.fails (hrequests hne)
  · rw [trialCheckFtst, if_pos (by simpa using hcallbacks)] at h
    obtain ⟨rfl, rfl⟩ := ends_done.mp h
    refine ⟨fun _ hunreleased => hunreleased.fails (.of_none (by simp)), fun _ hne => absurd rfl hne⟩

/-- A run of the rehearsal that does not fail requests the release unless it ends unreleased. -/
lemma rehearse_requests {minimumRpm : Fin 2 → Double} {s s' : Bool} {trace : List TrialEvent}
    {status : TrialRunStatus}
    (h : Gives (backend.trialRehearseFtstMinimumRecovery minimumRpm) s trace status s')
    (hreleased : ¬ backend.UnreleasedRehearsal minimumRpm s trace)
    (hne : status ≠ .restoreFailed) : ReleaseRequested trace := by
  obtain ⟨hcallbacks, h₀⟩ := h.past_return hne
  rw [Bool.not_eq_true, Bool.not_eq_false'] at hcallbacks
  split at h₀
  · obtain ⟨rfl, -⟩ := gives_pure.mp h₀
    exact .of_none (by simp)
  obtain ⟨xs, trace₁, admitted, s₁, rfl, hadmit, h₁⟩ := gives_bind.mp h₀
  have hxs := no_unlock watches_admitFtst.restores hadmit
  cases admitted with
  | none =>
    obtain ⟨rfl, -⟩ := gives_pure.mp h₁
    rw [List.append_nil]
    exact .of_none hxs
  | some started =>
    obtain ⟨ok, trace₂, rfl, h₂⟩ := gives_ask_bind.mp h₁
    obtain ⟨ys, tail, saw, s₂, rfl, hawait, h₃⟩ := gives_bind.mp h₂
    have hys := no_unlock (watches_awaitMinimum _ _).restores hawait
    have htail := (keepsLocked_recoverUnlock (.pure _)).gives h₃
    rcases recoverUnlock_cases hcallbacks (pure_settles _) h₃ hne with
      ⟨answer, hanswer⟩ | hunreleased
    · exact .of_split hxs (List.forall_mem_append.mpr ⟨hys, htail⟩) ⟨answer, by simp [hanswer]⟩
    · exact absurd ⟨xs, ok, ys, tail, started, saw, s₁, s₂, rfl, hadmit, hawait, hunreleased⟩
        hreleased

lemma UnreleasedRehearsal.fails {minimumRpm : Fin 2 → Double} {s : Bool}
    {trace : List TrialEvent} (h : backend.UnreleasedRehearsal minimumRpm s trace) :
    ¬ ReleaseRequested trace := by
  obtain ⟨xs, ok, ys, tail, started, saw, s₁, s₂, rfl, -, hawait, hunreleased⟩ := h
  intro hrequested
  obtain ⟨answer, hanswer⟩ := hrequested _ _ _ rfl
  rcases List.mem_append.mp hanswer with hmem | hmem
  · exact no_request (watches_awaitMinimum _ _).restores hawait _ _ hmem
  · exact hunreleased.no_request _ _ hmem

/-- The rehearsal meets the release rule exactly in the runs that do not take its wrong branch. -/
lemma rehearse_release_iff {minimumRpm : Fin 2 → Double} {s s' : Bool} {trace : List TrialEvent}
    {status : TrialRunStatus}
    (h : Gives (backend.trialRehearseFtstMinimumRecovery minimumRpm) s trace status s') :
    (status ≠ .restoreFailed → ReleaseRequested trace) ↔
      ¬ backend.UnreleasedRehearsal minimumRpm s trace := by
  refine ⟨fun hrequests hunreleased => ?_, fun hreleased hne =>
    rehearse_requests h hreleased hne⟩
  refine hunreleased.fails (hrequests ?_)
  obtain ⟨xs, ok, ys, tail, started, saw, s₁, s₂, rfl, hadmit, hawait, hend⟩ := hunreleased
  unfold trialRehearseFtstMinimumRecovery at h
  split at h
  · exact absurd (gives_pure.mp h).1 (by simp)
  rename_i hcallbacks
  rw [Bool.not_eq_true, Bool.not_eq_false'] at hcallbacks
  split at h
  · exact absurd (gives_pure.mp h).1 (by simp)
  obtain ⟨status', s'', hrecover, hne⟩ := recoverMinimum_of_unreleased ok saw.1 saw.2 hcallbacks hend
  have heq : status = status' := h.unique (gives_bind.mpr ⟨xs, _, some started, s₁, rfl, hadmit,
    gives_ask_bind.mpr ⟨ok, _, rfl, gives_bind.mpr ⟨ys, tail, saw, s₂, rfl, hawait, hrecover⟩⟩⟩)
  rw [heq]
  exact hne

/-- Both Ftst trials request the release after `Ftst = 1`, unless they report a failed
restoration, exactly in the runs whose recoveries do not all return before their release loop
under a stable last observation. -/
theorem ftst_release_requested_iff (backend : TrialBackend) :
    (∀ trace status, Ends backend.trialCheckFtst trace status →
      ((status ≠ .restoreFailed → ReleaseRequested trace) ↔ ¬ backend.UnreleasedCheck trace)) ∧
    ∀ minimumRpm s trace status s',
      Gives (backend.trialRehearseFtstMinimumRecovery minimumRpm) s trace status s' →
      ((status ≠ .restoreFailed → ReleaseRequested trace) ↔
        ¬ backend.UnreleasedRehearsal minimumRpm s trace) :=
  ⟨fun _ _ h => check_release_iff h, fun _ _ _ _ _ h => rehearse_release_iff h⟩

/-- Exact arithmetic and every callback set. -/
def exact : TrialBackend := ⟨true, true, true, true, true, true, true, true, finite⟩

def quietObservation (ftst : UInt8) : TrialObservation :=
  { mode := fun _ => 3, ftst := ftst, actualRpm := fun _ => finite 0,
    targetRpm := fun _ => finite 0, temperaturesC := fun _ => finite 40, metricsAvailable := true }

/-- A system that shows `Ftst = 1` in its second read only; the clock ticks once a reading. -/
def brieflyUnlocked (env : ℕ × ℕ) : (c : TrialCall) → c.Answer × (ℕ × ℕ)
  | .writeMode _ _ => (true, env)
  | .writeTarget _ _ => (true, env)
  | .writeFtst _ => (true, env)
  | .readObservation _ =>
    (some (quietObservation (if env.1 = 1 then 1 else 0)), (env.1 + 1, env.2))
  | .waitMilliseconds _ => (true, env)
  | .monotonicSeconds => (finite env.2, (env.1, env.2 + 1))
  | .shouldStop => (false, env)
  | .recordObservation _ _ => ((), env)

lemma not_requested {trace : List TrialEvent}
    (hunlock : (trace.any fun e => e.1 == .writeFtst 1) = true)
    (hrelease : (trace.any fun e => e.1 == .writeFtst 0) = false) :
    ¬ ReleaseRequested trace := by
  intro hrequested
  obtain ⟨⟨c, ok⟩, hmem, hc⟩ := List.any_eq_true.mp hunlock
  obtain rfl : c = .writeFtst 1 := beq_iff_eq.mp hc
  obtain ⟨before, after, rfl⟩ := List.append_of_mem hmem
  obtain ⟨answer, hanswer⟩ := hrequested before ok after rfl
  rw [List.any_eq_false] at hrelease
  exact hrelease ⟨.writeFtst 0, answer⟩ (by simp [hanswer]) rfl

/-- The release rule fails: the check can report success after `Ftst = 1` without ever
requesting the release. -/
theorem release_rule_fails :
    ¬ ∀ backend : TrialBackend,
      (∀ trace status, Ends backend.trialCheckFtst trace status → status ≠ .restoreFailed →
        ReleaseRequested trace) ∧
      ∀ minimumRpm s trace status s',
        Gives (backend.trialRehearseFtstMinimumRecovery minimumRpm) s trace status s' →
        status ≠ .restoreFailed → ReleaseRequested trace := by
  intro h
  have hrun := ends_play brieflyUnlocked exact.trialCheckFtst (0, 0)
  have hstatus : (play brieflyUnlocked exact.trialCheckFtst (0, 0)).2.1 = .succeeded := by
    decide +kernel
  have hunlock : ((play brieflyUnlocked exact.trialCheckFtst (0, 0)).1.any
      fun e => e.1 == .writeFtst 1) = true := by decide +kernel
  have hrelease : ((play brieflyUnlocked exact.trialCheckFtst (0, 0)).1.any
      fun e => e.1 == .writeFtst 0) = false := by decide +kernel
  rw [hstatus] at hrun
  exact not_requested hunlock hrelease ((h exact).1 _ _ hrun nofun)

end TrialBackend
end Ventilator
