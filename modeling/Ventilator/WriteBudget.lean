import Ventilator.RestoreSystem
import Ventilator.TrialRelease

/-! How many writes a recovery or a trial can attempt, while no write is refused too often in a
row. -/
namespace Ventilator
open Double CallTree

/-- A write that was refused. -/
def refusedWrite : TrialEvent → Bool
  | ⟨.writeMode _ _, ok⟩ => !ok
  | ⟨.writeTarget _ _, ok⟩ => !ok
  | ⟨.writeFtst _, ok⟩ => !ok
  | _ => false

namespace TrialBackend
open TrialM

variable {backend : TrialBackend} {bound : ℕ}

/-- No write of the trace was refused `bound` times in a row. -/
def Patient (bound : ℕ) (trace : List TrialEvent) : Prop :=
  ∀ e, refusedWrite e = true → ¬ List.replicate bound e <:+: writesOf trace

lemma Patient.left {xs ys : List TrialEvent} (h : Patient bound (xs ++ ys)) : Patient bound xs := by
  intro e he hsub
  rw [Patient, writesOf_append] at h
  exact h e he (hsub.trans (List.prefix_append _ _).isInfix)

lemma Patient.right {xs ys : List TrialEvent} (h : Patient bound (xs ++ ys)) : Patient bound ys := by
  intro e he hsub
  rw [Patient, writesOf_append] at h
  exact h e he (hsub.trans (List.suffix_append _ _).isInfix)

/-- A patient run of the program attempts at most `n` writes. -/
def AtMost (bound n : ℕ) {α : Type} (m : TrialM α) : Prop :=
  ∀ s trace a s', Gives m s trace a s' → Patient bound trace → (writesOf trace).length ≤ n

section Rules

variable {α β : Type} {n k : ℕ} {m m' : TrialM α}

lemma AtMost.mono (h : AtMost bound n m) (hle : n ≤ k) : AtMost bound k m :=
  fun s trace a s' hgives hpatient => (h s trace a s' hgives hpatient).trans hle

lemma AtMost.of_watches (h : Watches m) : AtMost bound 0 m := by
  intro s trace a s' hgives _
  have hnone : writesOf trace = [] :=
    List.filter_eq_nil_iff.mpr fun e he => by simp [h.gives hgives e he]
  rw [hnone]
  rfl

lemma AtMost.pure (a : α) : AtMost bound n (Pure.pure a : TrialM α) :=
  (AtMost.of_watches (.pure a)).mono (Nat.zero_le _)

lemma AtMost.ask (c : TrialCall) :
    AtMost bound 1 (CallTree.ask c : TrialM (TrialCall.Answer c)) := by
  intro s trace a s' h _
  obtain ⟨rfl, -⟩ := gives_ask.mp h
  exact List.length_filter_le _ _

lemma AtMost.bind {f : α → TrialM β} (hm : AtMost bound n m)
    (hf : ∀ a, AtMost bound k (f a)) : AtMost bound (n + k) (m >>= f) := by
  intro s trace b s' h hpatient
  obtain ⟨xs, ys, a, s₁, rfl, hfirst, hnext⟩ := gives_bind.mp h
  have hxs := hm _ _ _ _ hfirst hpatient.left
  have hys := hf a _ _ _ _ hnext hpatient.right
  rw [writesOf_append, List.length_append]
  omega

lemma AtMost.then_watch {f : α → TrialM β} (hm : AtMost bound n m)
    (hf : ∀ a, AtMost bound 0 (f a)) : AtMost bound n (m >>= f) := hm.bind hf

lemma AtMost.after {f : α → TrialM β} (hm : Watches m) (hf : ∀ a, AtMost bound n (f a)) :
    AtMost bound n (m >>= f) :=
  ((AtMost.of_watches hm).bind hf).mono (Nat.zero_add n).le

lemma AtMost.ite {p : Prop} [Decidable p] (hm : p → AtMost bound n m)
    (hm' : ¬ p → AtMost bound n m') : AtMost bound n (if p then m else m') := by
  split
  · rename_i h
    exact hm h
  · rename_i h
    exact hm' h

lemma AtMost.discard (h : AtMost bound n m) : AtMost bound n (discard m : TrialM PUnit) := by
  intro s trace _ s' hgives hpatient
  obtain ⟨b, hb⟩ := gives_discard.mp hgives
  exact h _ _ _ _ hb hpatient

/-- A loop attempts what its rounds attempt together. -/
lemma AtMost.loop {ρ κ : Type} {body : ℕ → κ → TrialM (ρ ⊕ κ)} {c : ℕ → ℕ}
    (hbody : ∀ index vars, AtMost bound (c index) (body index vars))
    (remaining index : ℕ) (vars : κ) :
    AtMost bound (∑ k ∈ Finset.range remaining, c (index + k))
      (CallTree.loop body remaining index vars) := by
  induction remaining generalizing index vars with
  | zero => exact .pure _
  | succ remaining ih =>
    have hsum : ∑ k ∈ Finset.range (remaining + 1), c (index + k) =
        c index + ∑ k ∈ Finset.range remaining, c (index + 1 + k) := by
      rw [Finset.sum_range_succ', add_comm]
      exact congrArg₂ _ rfl (Finset.sum_congr rfl fun k _ => congrArg c (by omega))
    rw [hsum]
    refine (hbody index vars).bind fun out => ?_
    cases out with
    | inl result => exact .pure _
    | inr vars' => exact ih (index + 1) vars'

lemma AtMost.forLoop {ρ κ : Type} {body : ℕ → κ → TrialM (ρ ⊕ κ)} {c : ℕ → ℕ}
    {after : κ → TrialM ρ}
    (hbody : ∀ index vars, AtMost bound (c index) (body index vars))
    (hafter : ∀ vars, AtMost bound 0 (after vars)) (rounds : ℕ) (vars : κ) :
    AtMost bound (∑ k ∈ Finset.range rounds, c (0 + k))
      (CallTree.forLoop body rounds vars after) := by
  refine (AtMost.loop hbody rounds 0 vars).then_watch fun out => ?_
  cases out with
  | inl result => exact .pure _
  | inr vars' => exact hafter vars'

end Rules

/-! The retries. -/

/-- A retry ends before a patient run has refused it `bound` times. -/
lemma Retried.atMost {write : Bool → TrialEvent} {trace : List TrialEvent}
    (hwrite : refusedWrite (write false) = true) (h : Retried write trace)
    (hbound : bound ≤ 10) (hpatient : Patient bound trace) : (writesOf trace).length ≤ bound := by
  have hrefused : ∀ {refused : ℕ} {more : List TrialEvent},
      writesOf trace = List.replicate refused (write false) ++ more → refused < bound := by
    intro refused more hwrites
    by_contra hle
    refine hpatient _ hwrite ?_
    have hinit : List.replicate bound (write false) <+: List.replicate refused (write false) := by
      rw [List.prefix_replicate_iff]
      exact ⟨by simpa using not_lt.mp hle, by simp⟩
    rw [hwrites]
    exact (hinit.trans (List.prefix_append _ _)).isInfix
  rcases h.attempts with ⟨refused, -, hwrites⟩ | hwrites
  · have hlt := hrefused hwrites
    rw [hwrites, List.length_append, List.length_replicate, List.length_singleton]
    omega
  · have hlt := hrefused (hwrites.trans (List.append_nil _).symm)
    omega

lemma atMost_retryMode {fan : Fin 2} {mode : UInt8} (hbound : bound ≤ 10) :
    AtMost bound bound (retryMode fan mode) :=
  fun _ _ _ _ h hpatient => (retryMode_runs h).2.atMost rfl hbound hpatient

lemma atMost_restoreFan (fan : Fin 2) (hbound : bound ≤ 10) :
    AtMost bound (bound + bound) (restoreFan fan) :=
  (AtMost.discard (atMost_retryMode hbound)).bind fun _ => .discard fun _ _ _ _ h hpatient =>
    (retryTarget_runs h).2.atMost rfl hbound hpatient

lemma atMost_restoreSystem (hbound : bound ≤ 10) :
    AtMost bound (4 * bound) backend.trialRestoreSystem := by
  have hfans : AtMost bound (bound + bound + (bound + bound + 0)) (do
      restoreFan 0
      restoreFan 1
      verifySystem : TrialM Bool) :=
    (atMost_restoreFan 0 hbound).bind fun _ => (atMost_restoreFan 1 hbound).bind fun _ =>
      .of_watches watches_verifySystem
  refine .ite (fun _ => .pure _) fun _ => .after (.ask (by rfl)) fun _ =>
    .ite (fun _ => .pure _) fun _ => hfans.mono ?_
  omega

lemma atMost_restoredAndStable {n : ℕ} {restore : TrialM Bool} (h : AtMost bound n restore) :
    AtMost bound n (backend.restoredAndStable restore) :=
  h.then_watch fun _ => .ite (fun _ => .pure _) fun _ =>
    .of_watches (watches_observe.bind fun _ => .pure _)

/-! The recovery. -/

lemma atMost_releaseManualMode (current : TrialObservation) (fan : Fin 2) (hbound : bound ≤ 10) :
    AtMost bound bound (releaseManualMode current fan) :=
  .ite (fun _ => atMost_retryMode hbound) fun _ => .pure _

lemma atMost_lowerTarget (fan : Fin 2) : AtMost bound 1 (lowerTarget fan) := by
  refine .after (.ask (by rfl)) fun read => ?_
  cases read with
  | none => exact .pure _
  | some current =>
    exact .ite (fun _ => .pure _) fun _ => .after (watches_noteFanState _) fun _ =>
      .ite (fun _ => (AtMost.discard (.ask _)).then_watch fun _ => .pure _) fun _ => .pure _

lemma atMost_lowerTargets (current : TrialObservation) :
    AtMost bound 2 (backend.lowerTargets current) := by
  have hpass : AtMost bound 2 lowerPass := (atMost_lowerTarget 0).bind fun _ =>
    .ite (fun _ => .discard (atMost_lowerTarget 1)) fun _ => .pure _
  refine .ite (fun _ => hpass.then_watch fun _ => .after (.ask (by rfl)) fun read => ?_)
    fun _ => .pure _
  cases read with
  | none => exact .pure _
  | some current =>
    exact .ite (fun _ => .pure _) fun _ => .after (watches_noteFanState _) fun _ =>
      .after (watches_record _ _) fun _ => .pure _

/-- A patient run of the program that ends ready for the release attempts at most `n` writes. -/
def ReadyAtMost (bound n : ℕ) (m : TrialM Preparation) : Prop :=
  ∀ s trace delayedChange s', Gives m s trace (.ready delayedChange) s' → Patient bound trace →
    (writesOf trace).length ≤ n

lemma AtMost.ready {n : ℕ} {m : TrialM Preparation} (h : AtMost bound n m) :
    ReadyAtMost bound n m := fun s trace _ s' => h s trace _ s'

lemma ReadyAtMost.after {α : Type} {n : ℕ} {m : TrialM α} {f : α → TrialM Preparation}
    (hm : Watches m) (hf : ∀ a, ReadyAtMost bound n (f a)) : ReadyAtMost bound n (m >>= f) := by
  intro s trace delayedChange s' h hpatient
  obtain ⟨xs, ys, a, s₁, rfl, hfirst, hnext⟩ := gives_bind.mp h
  have hxs := AtMost.of_watches hm _ _ _ _ hfirst hpatient.left
  have hys := hf a _ _ _ _ hnext hpatient.right
  rw [writesOf_append, List.length_append]
  omega

lemma ReadyAtMost.ite {n : ℕ} {p : Prop} [Decidable p] {m m' : TrialM Preparation}
    (hm : p → ReadyAtMost bound n m) (hm' : ¬ p → ReadyAtMost bound n m') :
    ReadyAtMost bound n (if p then m else m') := by
  split
  · rename_i h
    exact hm h
  · rename_i h
    exact hm' h

/-- A program that only returns never gets ready. -/
lemma ReadyAtMost.returned {α : Type} {n : ℕ} {m : TrialM α} {result : α → Bool} :
    ReadyAtMost bound n (m >>= fun a => pure (Preparation.returned (result a))) := by
  intro s trace delayedChange s' h _
  obtain ⟨xs, ys, a, s₁, -, -, hnext⟩ := gives_bind.mp h
  obtain ⟨-, hready, -⟩ := gives_pure.mp hnext
  cases hready

/-- The phases of a set `Ftst`: the two mode releases and the zero-target pass. -/
lemma atMost_prepareUnlocked {current : TrialObservation} (delayedChange : Bool)
    (hbound : bound ≤ 10) (hftst : current.ftst ≠ 0) :
    AtMost bound (2 * bound + 2) (backend.prepareFrom current delayedChange) := by
  have hrelease : ∀ next : TrialM Preparation, AtMost bound 2 next → AtMost bound _ _ :=
    fun next hnext => (atMost_releaseManualMode current 0 hbound).bind fun released =>
      AtMost.ite (p := (!released) = true) (fun _ => .pure (Preparation.returned false)) fun _ =>
        (atMost_releaseManualMode current 1 hbound).bind fun released =>
          .ite (p := (!released) = true) (fun _ => .pure (Preparation.returned false)) fun _ =>
            hnext
  rw [prepareFrom, if_neg hftst]
  refine .ite (fun _ => .pure _) fun _ => (hrelease _ ?_).mono (by omega)
  refine .after (.ask (by rfl)) fun read => ?_
  cases read with
  | none => exact .pure _
  | some current =>
    exact .ite (fun _ => .pure _) fun _ => .after (watches_noteFanState _) fun _ =>
      .after (watches_record _ _) fun _ => (atMost_lowerTargets _).then_watch fun _ =>
        .ite (fun _ => .pure _) fun _ => .pure _

lemma atMost_prepareFrom (current : TrialObservation) (delayedChange : Bool)
    (hbound : bound ≤ 10) :
    AtMost bound (4 * bound + 2) (backend.prepareFrom current delayedChange) := by
  by_cases hftst : current.ftst = 0
  · have hrestored : AtMost bound (4 * bound)
        (backend.restoredAndStable backend.trialRestoreSystem) :=
      atMost_restoredAndStable (atMost_restoreSystem hbound)
    rw [prepareFrom, if_pos hftst]
    refine (hrestored.then_watch fun _ => .pure _).mono ?_
    omega
  · refine (atMost_prepareUnlocked delayedChange hbound hftst).mono ?_
    omega

lemma readyAtMost_prepareFrom (current : TrialObservation) (delayedChange : Bool)
    (hbound : bound ≤ 10) :
    ReadyAtMost bound (2 * bound + 2) (backend.prepareFrom current delayedChange) := by
  by_cases hftst : current.ftst = 0
  · rw [prepareFrom, if_pos hftst]
    exact .returned
  · exact (atMost_prepareUnlocked delayedChange hbound hftst).ready

lemma atMost_prepareRelease (hbound : bound ≤ 10) :
    AtMost bound (4 * bound + 2) backend.prepareRelease := by
  refine .after watches_readForRelease fun found => ?_
  cases found with
  | none => exact .pure _
  | some current =>
    refine .after (watches_record _ _) fun _ => .ite (fun _ => ?_) fun _ =>
      atMost_prepareFrom _ _ hbound
    refine .after watches_observe fun _ => .ite (fun _ => .pure _) fun _ =>
      .ite (fun _ => .pure _) fun _ => .after (.ask (by rfl)) fun read => ?_
    cases read with
    | none => exact .pure _
    | some current =>
      exact .after (watches_noteFanState _) fun _ => atMost_prepareFrom _ _ hbound

lemma readyAtMost_prepareRelease (hbound : bound ≤ 10) :
    ReadyAtMost bound (2 * bound + 2) backend.prepareRelease := by
  have hpure : ∀ prepared, ReadyAtMost bound (2 * bound + 2) (pure prepared : TrialM Preparation) :=
    fun prepared => (AtMost.pure prepared).ready
  refine .after watches_readForRelease fun found => ?_
  cases found with
  | none => exact hpure _
  | some current =>
    refine .after (watches_record _ _) fun _ => .ite (fun _ => ?_) fun _ =>
      readyAtMost_prepareFrom _ _ hbound
    refine .after watches_observe fun _ => .ite (fun _ => hpure _) fun _ =>
      .ite (fun _ => hpure _) fun _ => .after (.ask (by rfl)) fun read => ?_
    cases read with
    | none => exact hpure _
    | some current =>
      exact .after (watches_noteFanState _) fun _ => readyAtMost_prepareFrom _ _ hbound

/-- Three writes of `Ftst = 0`. -/
lemma atMost_clearFtst : AtMost bound 3 backend.clearFtst := by
  refine (AtMost.forLoop (c := fun _ => 1) (fun _ _ => ?_) (fun _ => .pure _) 3 ()).mono ?_
  · refine (AtMost.discard (.ask _)).then_watch fun _ =>
      (AtMost.of_watches watches_awaitCleared).then_watch fun released => ?_
    cases released <;> exact .pure _
  · simp

lemma atMost_fallback (second : ℕ) (observation : TrialObservation) (state : PostClear)
    (hbound : bound ≤ 10) :
    AtMost bound (if second = 10 then 4 * bound else 0)
      (backend.fallback second observation state) := by
  refine .ite (fun h => ?_) fun _ => .pure _
  rw [if_pos h.1]
  exact (AtMost.discard (atMost_restoreSystem hbound)).then_watch fun _ => .pure _

/-- The writes of the loop after the release all belong to its one fallback. -/
lemma atMost_awaitBaseline (delayedChange : Bool) (hbound : bound ≤ 10) :
    AtMost bound (4 * bound) (backend.awaitBaseline delayedChange) := by
  refine (AtMost.forLoop (c := fun second => if second = 10 then 4 * bound else 0)
    (fun second state => ?_) (fun _ => .pure _) 91 PostClear.start).mono ?_
  · refine .after (.ask (by rfl)) fun _ => .after (.ask (by rfl)) fun read => ?_
    cases read with
    | none => exact .pure _
    | some observation =>
      refine .ite (fun _ => .pure _) fun _ => .after (.ask (by rfl)) fun _ =>
        .ite (fun _ => .pure _) fun _ => .after (watches_noteFanState _) fun _ =>
          .after (watches_record _ _) fun _ => .ite (fun _ => .pure _) fun _ =>
            (atMost_fallback second observation _ hbound).then_watch fun _ =>
              .ite (fun _ => .pure _) fun _ => ?_
      exact .after (.ask (by rfl)) fun _ => .ite (fun _ => .pure _) fun _ => .pure _
  · simp

lemma atMost_releaseAndWait (delayedChange : Bool) (hbound : bound ≤ 10) :
    AtMost bound (3 + 4 * bound) (backend.releaseAndWait delayedChange) :=
  atMost_clearFtst.bind fun _ => .ite (fun _ => atMost_awaitBaseline delayedChange hbound)
    fun _ => .pure _

lemma atMost_restoreUnlock (hbound : bound ≤ 10) :
    AtMost bound (6 * bound + 5) backend.trialRestoreUnlock := by
  refine .ite (fun _ => .pure _) fun _ => ?_
  intro s trace restored s' h hpatient
  obtain ⟨xs, ys, prepared, s₁, rfl, hprepare, hrest⟩ := gives_bind.mp h
  have hxs := atMost_prepareRelease hbound _ _ _ _ hprepare hpatient.left
  rw [writesOf_append, List.length_append]
  cases prepared with
  | returned result =>
    obtain ⟨rfl, -, -⟩ := gives_pure.mp hrest
    have hnil : (writesOf []).length = 0 := rfl
    omega
  | ready delayedChange =>
    have hready := readyAtMost_prepareRelease hbound _ _ _ _ hprepare hpatient.left
    have hys := atMost_releaseAndWait delayedChange hbound _ _ _ _ hrest hpatient.right
    omega

lemma atMost_recoverUnlock {settle : TrialM TrialRunStatus} (again : TrialRunStatus)
    (hsettle : Watches settle) (hbound : bound ≤ 10) :
    AtMost bound (12 * bound + 10) (backend.recoverUnlock settle again) := by
  have hunlock : AtMost bound (6 * bound + 5) backend.trialRestoreUnlock :=
    atMost_restoreUnlock hbound
  refine AtMost.mono (hunlock.bind fun restored => AtMost.ite (n := 6 * bound + 5) (fun _ => ?_)
    fun _ => .after watches_observe fun _ => .ite (fun _ => ?_) fun _ => ?_) (by omega)
  · exact .after watches_observe fun _ => .pure _
  · exact (atMost_restoredAndStable hunlock).then_watch fun _ =>
      .ite (fun _ => .pure _) fun _ => .pure _
  · exact (AtMost.of_watches hsettle).mono (Nat.zero_le _)

/-! The three actions. -/

lemma atMost_checkFtst (hbound : bound ≤ 10) :
    AtMost bound (12 * bound + 11) backend.checkFtst := by
  refine .after watches_admitFtst fun admitted => ?_
  cases admitted with
  | none => exact .pure _
  | some started =>
    refine ((AtMost.ask _).bind fun writeOk => AtMost.after (n := 12 * bound + 10)
      watches_awaitEffect fun effect => ?_).mono (by omega)
    cases effect with
    | some afterWrite =>
      exact .after (watches_unlockChecked _ _ _) fun unlockOk =>
        atMost_recoverUnlock _ (.bind .get fun _ => .pure _) hbound
    | none =>
      have hagain : AtMost bound (6 * bound + 5)
          (backend.restoredAndStable backend.trialRestoreUnlock) :=
        atMost_restoredAndStable (atMost_restoreUnlock hbound)
      refine ((AtMost.ask _).bind fun releaseOk => .after watches_observe fun later =>
        AtMost.ite (n := 6 * bound + 5) (fun _ => ?_) fun _ => .pure _).mono (by omega)
      exact hagain.then_watch fun _ => .ite (fun _ => .pure _) fun _ => .pure _

lemma atMost_rehearse (minimumRpm : Fin 2 → Double) (hbound : bound ≤ 10) :
    AtMost bound (12 * bound + 11) (backend.trialRehearseFtstMinimumRecovery minimumRpm) := by
  refine .ite (fun _ => .pure _) fun _ => .ite (fun _ => .pure _) fun _ =>
    .after watches_admitFtst fun admitted => ?_
  cases admitted with
  | none => exact .pure _
  | some started =>
    refine ((AtMost.ask _).bind fun writeOk => AtMost.after (n := 12 * bound + 10)
      (watches_awaitMinimum minimumRpm started) fun seen => ?_).mono (by omega)
    exact atMost_recoverUnlock _ (.pure _) hbound

end TrialBackend
end Ventilator
