import Ventilator.TrialWindow

/-! Every trial that reports anything but a failed restoration ends with a verified baseline
window, and so does every recovery that reports success. -/
namespace Ventilator
open Double CallTree

namespace TrialBackend

variable {backend : TrialBackend}

/-- The window the loop after the release has counted when it begins a second. -/
def CountInvariant (backend : TrialBackend) (_second : ℕ) (state : PostClear) (_changed : Bool)
    (trace : List TrialEvent) : Prop :=
  ∃ before window samples, trace = before ++ window ∧ QuietWindow backend.round window samples ∧
    samples.length = state.stableSamples ∧
    Spans samples state.stableStarted state.previousSample ∧
    (samples ≠ [] → state.havePreviousSample = true)

lemma CountInvariant.restart {second : ℕ} {state : PostClear} {changed : Bool}
    (trace : List TrialEvent) (hzero : state.stableSamples = 0) :
    CountInvariant backend second state changed trace :=
  ⟨trace, [], [], by simp, .nil _, hzero.symm, by simp [Spans], by simp⟩

lemma timingValid_read {round : ℚ → Double} {state : PostClear} {started finished : Double}
    (h : state.timingValid round started finished = true) :
    readTimingValid round started finished = true := by
  unfold PostClear.timingValid at h
  split at h
  · exact (sampleTimingValid_iff h).1
  · exact h

lemma CountInvariant.count {second : ℕ} {state : PostClear} {changed changed' : Bool}
    {trace ys : List TrialEvent} {w : WindowSample}
    (h : CountInvariant backend second state changed trace) (hwrite : NoWrite ys)
    (hreads : sampling ys = w.events)
    (htiming : state.timingValid backend.round w.started w.finished = true) :
    CountInvariant backend (second + 1) (state.count w.observation w.finished) changed'
      (trace ++ ys) := by
  by_cases hbaseline : trialObservationIsBaseline w.observation = true
  · obtain ⟨before, window, samples, rfl, hquiet, hlength, hspans, hprevious⟩ := h
    have htiming' : (if samples.length = 0 then readTimingValid backend.round w.started w.finished
        else sampleTimingValid backend.round state.previousSample w.started w.finished) = true := by
      split
      · exact timingValid_read htiming
      · rename_i hne
        rw [PostClear.timingValid, if_pos (hprevious (by rintro rfl; simp at hne))] at htiming
        exact htiming
    obtain ⟨hmore, hspans'⟩ := hquiet.concat hspans hwrite hreads hbaseline htiming'
    refine ⟨before, window ++ ys, samples ++ [w], by simp, hmore, ?_, ?_, ?_⟩
    · rw [PostClear.count, if_pos hbaseline, List.length_append, hlength, List.length_singleton]
    · rw [PostClear.count, if_pos hbaseline, ← hlength]
      exact hspans'
    · rw [PostClear.count, if_pos hbaseline]
      exact fun _ => rfl
  · refine .restart _ ?_
    rw [PostClear.count, if_neg hbaseline]

/-- A round of the loop after the release that does not fail read and timed one observation. -/
lemma awaitBaselineSecond_accepts {delayedChange : Bool} {second : ℕ} {state : PostClear}
    {s s' : Bool} {trace : List TrialEvent} {out : Bool ⊕ PostClear}
    (h : Gives (backend.awaitBaselineSecond delayedChange second state) s trace out s')
    (hne : out ≠ .inl false) :
    ∃ (w : WindowSample) (recs more : List TrialEvent), trace = w.events ++ (recs ++ more) ∧
      sampling recs = [] ∧ NoWrite recs ∧ w.observation.ftst = 0 ∧
      modesReleased w.observation = true ∧
      state.timingValid backend.round w.started w.finished = true ∧
      ((out = .inl (!delayedChange) ∧ more = [] ∧
          60 < (state.count w.observation w.finished).stableSamples ∧
          le (finite 60) (sub backend.round w.finished
            (state.count w.observation w.finished).stableStarted) = true) ∨
        ∃ next s₁ s₂ fell tail, out = .inr next ∧ more = fell ++ tail ∧
          Gives (backend.fallback second w.observation (state.count w.observation w.finished))
            s₁ fell next s₂ ∧ sampling tail = [] ∧ NoWrite tail) := by
  rw [awaitBaselineSecond] at h
  obtain ⟨started, trace₁, rfl, h₁⟩ := gives_ask_bind.mp h
  obtain ⟨answer, trace₂, rfl, h₂⟩ := gives_ask_bind.mp h₁
  cases answer with
  | none => exact absurd (gives_pure.mp h₂).2.1 hne
  | some observation =>
    obtain ⟨hreleased, g₂⟩ := h₂.past_return hne
    obtain ⟨finished, trace₃, rfl, h₃⟩ := gives_ask_bind.mp g₂
    obtain ⟨htiming, g₃⟩ := h₃.past_return hne
    obtain ⟨noted, trace₄, _, s₁, rfl, hnote, h₄⟩ := gives_bind.mp g₃
    obtain ⟨recs, trace₅, _, s₂, rfl, hrecord, h₅⟩ := gives_bind.mp h₄
    obtain ⟨rfl, -⟩ := gives_noteFanState hnote
    obtain ⟨hsilent, hwrite⟩ := record_silent hrecord
    rw [not_or, not_not, not_not] at hreleased
    refine ⟨⟨started, observation, finished⟩, recs, trace₅, rfl, hsilent, hwrite, hreleased.1,
      hreleased.2, by simpa using htiming, ?_⟩
    dsimp only at h₅
    split at h₅
    · rename_i hstable
      obtain ⟨rfl, rfl, -⟩ := gives_pure.mp h₅
      exact .inl ⟨rfl, rfl, hstable.1, hstable.2⟩
    · obtain ⟨fell, trace₆, next, s₃, rfl, hfell, h₆⟩ := gives_bind.mp h₅
      refine .inr ?_
      split at h₆
      · obtain ⟨rfl, rfl, -⟩ := gives_pure.mp h₆
        exact ⟨next, s₂, s₃, fell, [], rfl, rfl, hfell, rfl, by simp [NoWrite]⟩
      · obtain ⟨waited, trace₇, rfl, h₇⟩ := gives_ask_bind.mp h₆
        obtain ⟨hwaited, g₇⟩ := h₇.past_return hne
        obtain ⟨rfl, rfl, -⟩ := gives_pure.mp g₇
        exact ⟨next, s₂, s₃, fell, _, rfl, rfl, hfell, rfl, by simp [NoWrite, TrialCall.isWrite]⟩

/-- The fallback leaves the loop's variables, or starts its count afresh. -/
lemma fallback_cases {second : ℕ} {observation : TrialObservation} {state next : PostClear}
    {s s' : Bool} {trace : List TrialEvent}
    (h : Gives (backend.fallback second observation state) s trace next s') :
    (trace = [] ∧ next = state) ∨ next.stableSamples = 0 := by
  unfold fallback at h
  split at h
  · obtain ⟨xs, ys, _, s₁, rfl, -, hdone⟩ := gives_bind.mp h
    obtain ⟨-, rfl, -⟩ := gives_pure.mp hdone
    exact .inr rfl
  · obtain ⟨rfl, rfl, -⟩ := gives_pure.mp h
    exact .inl ⟨rfl, rfl⟩

lemma events_noWrite (w : WindowSample) : NoWrite w.events := by
  simp [NoWrite, WindowSample.events, TrialCall.isWrite]

lemma events_sampling (w : WindowSample) : sampling w.events = w.events := rfl

lemma CountInvariant.round {delayedChange : Bool} (second : ℕ) (state : PostClear) (s : Bool)
    (before trace : List TrialEvent) (next : PostClear) (s' : Bool)
    (h : CountInvariant backend second state s before)
    (hbody : Gives (backend.awaitBaselineSecond delayedChange second state) s trace (.inr next) s') :
    CountInvariant backend (second + 1) next s' (before ++ trace) := by
  obtain ⟨w, recs, more, rfl, hsilent, hwrite, -, -, htiming, ⟨hout, -⟩ | hgoes⟩ :=
    awaitBaselineSecond_accepts hbody nofun
  · exact absurd hout nofun
  · obtain ⟨next', s₁, s₂, fell, tail, hout, rfl, hfell, htail, htailWrite⟩ := hgoes
    cases hout
    rcases fallback_cases hfell with ⟨rfl, rfl⟩ | hzero
    · refine h.count ?_ ?_ htiming
      · exact (events_noWrite w).append (hwrite.append (by simpa using htailWrite))
      · rw [List.nil_append, sampling_append, sampling_append, hsilent, htail, events_sampling]
        rfl
    · exact .restart _ hzero

lemma count_previousSample (state : PostClear) (o : TrialObservation) (sampled : Double) :
    (state.count o sampled).previousSample = sampled := by
  unfold PostClear.count
  split <;> rfl

/-- The loop after the release succeeds only at the end of a verified window. -/
lemma awaitBaseline_true {delayedChange s s' : Bool} {trace : List TrialEvent}
    (h : Gives (backend.awaitBaseline delayedChange) s trace true s') :
    EndsVerified backend.round (61 ≤ ·) trace := by
  have hinit : CountInvariant backend 0 .start s [] := .restart [] rfl
  obtain ⟨second, state, s₁, middle, last, rfl, hI, ⟨-, hlast⟩ | ⟨-, hlast⟩⟩ :=
    h.forLoop CountInvariant.round hinit
  · obtain ⟨w, recs, more, rfl, hsilent, hwrite, -, -, htiming, ⟨-, rfl, hcount, hspan⟩ | hgoes⟩ :=
      awaitBaselineSecond_accepts hlast nofun
    · have hreads : sampling (w.events ++ recs) = w.events := by
        rw [sampling_append, hsilent, events_sampling, List.append_nil]
      have hcounted : CountInvariant backend (second + 1)
          (state.count w.observation w.finished) s' (middle ++ (w.events ++ recs)) :=
        hI.count ((events_noWrite w).append hwrite) hreads htiming
      obtain ⟨before, window, samples, htrace, hquiet, hlength, hspans, -⟩ := hcounted
      obtain ⟨first, hfirst, final, hfinal⟩ := ends_of_length_pos (by omega : 0 < samples.length)
      refine ⟨before, window, samples, ?_, by omega, hquiet, first, final, hfirst, hfinal, ?_⟩
      · rw [List.append_nil]
        simpa using htrace
      · rw [hspans.1 first hfirst, hspans.2 final hfinal, count_previousSample]
        exact hspan
    · obtain ⟨next, _, _, _, _, hout, -⟩ := hgoes
      exact absurd hout nofun
  · exact absurd (gives_pure.mp hlast).2.1 nofun

/-- The trace ends with a stable observation. -/
def EndsStable (backend : TrialBackend) (trace : List TrialEvent) : Prop :=
  ∃ before window s result s', trace = before ++ window ∧
    Gives backend.trialObserveAfterFtst s window result s' ∧ result.status = .stable

lemma EndsStable.of_observe {s s' : Bool} {window : List TrialEvent} {result : TrialBaselineResult}
    (h : Gives backend.trialObserveAfterFtst s window result s') (hstable : result.status = .stable) :
    backend.EndsStable window := ⟨[], window, s, result, s', rfl, h, hstable⟩

lemma EndsStable.append_left {trace : List TrialEvent} (before : List TrialEvent)
    (h : backend.EndsStable trace) : backend.EndsStable (before ++ trace) := by
  obtain ⟨xs, window, s, result, s', rfl, hobserve, hstable⟩ := h
  exact ⟨before ++ xs, window, s, result, s', by simp, hobserve, hstable⟩

lemma EndsStable.verified {trace : List TrialEvent} (h : backend.EndsStable trace) :
    EndsVerified backend.round (· = 61) trace := by
  obtain ⟨before, window, s, result, s', rfl, hobserve, hstable⟩ := h
  exact (observeAfterFtst_stable hobserve hstable).append_left before

lemma restoredAndStable_true {restore : TrialM Bool} {s s' : Bool} {trace : List TrialEvent}
    (h : Gives (backend.restoredAndStable restore) s trace true s') : backend.EndsStable trace := by
  obtain ⟨xs, ys, restored, s₁, rfl, -, h₁⟩ := gives_bind.mp h
  obtain ⟨-, g₁⟩ := h₁.past_return nofun
  obtain ⟨zs, ws, result, s₂, rfl, hobserve, h₂⟩ := gives_bind.mp g₁
  obtain ⟨rfl, hstable, -⟩ := gives_pure.mp h₂
  rw [List.append_nil]
  exact (EndsStable.of_observe hobserve (beq_iff_eq.mp hstable.symm)).append_left xs

lemma prepareFrom_true {current : TrialObservation} {delayedChange s s' : Bool}
    {trace : List TrialEvent}
    (h : Gives (backend.prepareFrom current delayedChange) s trace (.returned true) s') :
    EndsVerified backend.round (· = 61) trace := by
  have hne : Preparation.returned true ≠ .returned false := nofun
  unfold prepareFrom at h
  split at h
  · obtain ⟨xs, ys, restored, s₁, rfl, hrestored, h₁⟩ := gives_bind.mp h
    obtain ⟨rfl, hresult, -⟩ := gives_pure.mp h₁
    have hboth := Preparation.returned.inj hresult
    rw [eq_comm, Bool.and_eq_true] at hboth
    rw [hboth.1] at hrestored
    rw [List.append_nil]
    exact (restoredAndStable_true hrestored).verified
  · obtain ⟨-, h₁⟩ := h.past_return hne
    obtain ⟨xs, ys, first, s₁, rfl, -, h₂⟩ := gives_bind.mp h₁
    obtain ⟨-, g₂⟩ := h₂.past_return hne
    obtain ⟨xs', ys, second, s₂, rfl, -, h₃⟩ := gives_bind.mp g₂
    obtain ⟨-, g₃⟩ := h₃.past_return hne
    obtain ⟨answer, trace₄, rfl, h₄⟩ := gives_ask_bind.mp g₃
    cases answer with
    | none => exact absurd (gives_pure.mp h₄).2.1 hne
    | some current =>
      obtain ⟨-, g₄⟩ := h₄.past_return hne
      obtain ⟨_, _, _, s₅, rfl, -, h₅⟩ := gives_bind.mp g₄
      obtain ⟨_, _, _, s₆, rfl, -, h₆⟩ := gives_bind.mp h₅
      obtain ⟨_, _, lowered, s₇, rfl, -, h₇⟩ := gives_bind.mp h₆
      split at h₇
      · exact absurd (gives_pure.mp h₇).2.1 nofun
      · exact absurd (gives_pure.mp h₇).2.1 hne

/-- The phases before the release report success only after a verified minute. -/
lemma prepareRelease_true {s s' : Bool} {trace : List TrialEvent}
    (h : Gives backend.prepareRelease s trace (.returned true) s') :
    EndsVerified backend.round (· = 61) trace := by
  have hne : Preparation.returned true ≠ .returned false := nofun
  obtain ⟨xs, trace₁, found, s₁, rfl, -, h₁⟩ := gives_bind.mp h
  refine .append_left xs ?_
  cases found with
  | none => exact absurd (gives_pure.mp h₁).2.1 hne
  | some current =>
    obtain ⟨ys, trace₂, _, s₂, rfl, -, h₂⟩ := gives_bind.mp h₁
    refine .append_left ys ?_
    split at h₂
    · obtain ⟨zs, trace₃, result, s₃, rfl, hobserve, h₃⟩ := gives_bind.mp h₂
      split at h₃
      · rename_i hstable
        obtain ⟨rfl, -⟩ := gives_pure.mp h₃
        rw [List.append_nil]
        exact observeAfterFtst_stable hobserve hstable
      · refine .append_left zs ?_
        obtain ⟨-, g₃⟩ := h₃.past_return hne
        obtain ⟨answer, trace₄, rfl, h₄⟩ := gives_ask_bind.mp g₃
        cases answer with
        | none => exact absurd (gives_pure.mp h₄).2.1 hne
        | some current =>
          obtain ⟨ws, trace₅, _, s₅, rfl, -, h₅⟩ := gives_bind.mp h₄
          exact (prepareFrom_true h₅).append_left (_ :: ws)
    · exact prepareFrom_true h₂

/-- A recovery that reports success ends with at least 61 verified baseline reads. -/
theorem restoreUnlock_true {s s' : Bool} {trace : List TrialEvent}
    (h : Gives backend.trialRestoreUnlock s trace true s') :
    EndsVerified backend.round (61 ≤ ·) trace := by
  obtain ⟨-, h₁⟩ := h.past_return nofun
  obtain ⟨xs, ys, prepared, s₁, rfl, hprepare, h₂⟩ := gives_bind.mp h₁
  cases prepared with
  | returned result =>
    obtain ⟨rfl, rfl, -⟩ := gives_pure.mp h₂
    rw [List.append_nil]
    exact (prepareRelease_true hprepare).mono fun n hn => hn.ge
  | ready delayedChange =>
    obtain ⟨zs, ws, cleared, s₂, rfl, -, h₃⟩ := gives_bind.mp h₂
    split at h₃
    · exact ((awaitBaseline_true h₃).append_left zs).append_left xs
    · exact absurd (gives_pure.mp h₃).2.1 nofun

/-- The trace of a run ends verified unless the run reports a failed restoration. -/
def Verified (backend : TrialBackend) (status : TrialRunStatus) (trace : List TrialEvent) : Prop :=
  status ≠ .restoreFailed → EndsVerified backend.round (· = 61) trace

/-- The trace of a run ends with a stable observation unless the run reports a failed
restoration. -/
def Settles (backend : TrialBackend) (status : TrialRunStatus) (trace : List TrialEvent) : Prop :=
  status ≠ .restoreFailed → backend.EndsStable trace

lemma Settles.verified {status : TrialRunStatus} {trace : List TrialEvent}
    (h : backend.Settles status trace) : backend.Verified status trace := fun hne => (h hne).verified

lemma Settles.append_left {status : TrialRunStatus} {trace : List TrialEvent}
    (before : List TrialEvent) (h : backend.Settles status trace) :
    backend.Settles status (before ++ trace) := fun hne => (h hne).append_left before

/-- An observation that decides between a failed restoration and another status. -/
lemma settles_observed {s s' : Bool} {trace : List TrialEvent} {status good : TrialRunStatus}
    (h : Gives (do
      let result ← backend.trialObserveAfterFtst
      pure (if result.status = .stable then good else .restoreFailed)) s trace status s') :
    backend.Settles status trace := by
  intro hne
  obtain ⟨xs, ys, result, s₁, rfl, hobserve, h₁⟩ := gives_bind.mp h
  obtain ⟨rfl, rfl, -⟩ := gives_pure.mp h₁
  rw [List.append_nil]
  refine .of_observe hobserve ?_
  by_contra hstable
  simp [hstable] at hne

/-- The end of every trial: an observation, and another recovery and observation if the first
is not stable. Whatever `settle` and `again` report, the last observation was stable. -/
lemma settles_settled {restore : TrialM Bool} {settle : TrialM TrialRunStatus}
    {again : TrialRunStatus} {s s' : Bool} {trace : List TrialEvent} {status : TrialRunStatus}
    (hsettle : ∀ s trace status s', Gives settle s trace status s' → trace = [])
    (h : Gives (do
      let result ← backend.trialObserveAfterFtst
      if result.status ≠ .stable then
        if !(← backend.restoredAndStable restore) then pure .restoreFailed
        else pure again
      else settle) s trace status s') :
    backend.Settles status trace := by
  intro hne
  obtain ⟨xs, ys, result, s₁, rfl, hobserve, h₁⟩ := gives_bind.mp h
  split at h₁
  · obtain ⟨zs, ws, restored, s₂, rfl, hrestored, h₂⟩ := gives_bind.mp h₁
    obtain ⟨hrestored', g₂⟩ := h₂.past_return hne
    obtain ⟨rfl, -⟩ := gives_pure.mp g₂
    rw [Bool.not_eq_true, Bool.not_eq_false'] at hrestored'
    rw [hrestored'] at hrestored
    rw [List.append_nil]
    exact (restoredAndStable_true hrestored).append_left xs
  · rename_i hstable
    rw [hsettle _ _ _ _ h₁, List.append_nil]
    exact .of_observe hobserve (not_not.mp hstable)

lemma pure_settles (good : TrialRunStatus) (s : Bool) (trace : List TrialEvent)
    (status : TrialRunStatus) (s' : Bool) (h : Gives (pure good : TrialM _) s trace status s') :
    trace = [] := (gives_pure.mp h).1

/-- Both Ftst trials settle in the recovery they share. -/
lemma recoverUnlock_settles {settle : TrialM TrialRunStatus} {again : TrialRunStatus}
    {s s' : Bool} {trace : List TrialEvent} {status : TrialRunStatus}
    (hsettle : ∀ s trace status s', Gives settle s trace status s' → trace = [])
    (h : Gives (backend.recoverUnlock settle again) s trace status s') :
    backend.Settles status trace := by
  obtain ⟨xs, ys, restored, s₁, rfl, -, h₁⟩ := gives_bind.mp h
  refine .append_left xs ?_
  split at h₁
  · exact settles_observed h₁
  · exact settles_settled hsettle h₁

lemma settleEffect_silent (unlockOk s : Bool) (trace : List TrialEvent) (status : TrialRunStatus)
    (s' : Bool) (h : Gives (settleEffect unlockOk) s trace status s') : trace = [] := by
  obtain ⟨zs, ws, changed, s₂, rfl, hget, h₂⟩ := gives_bind.mp h
  rw [(gives_get.mp hget).1, (gives_pure.mp h₂).1]
  rfl

lemma releaseUnseen_settles {s s' : Bool} {trace : List TrialEvent} {status : TrialRunStatus}
    (h : Gives backend.releaseUnseen s trace status s') : backend.Settles status trace := by
  obtain ⟨releaseOk, ys, rfl, h₁⟩ := gives_ask_bind.mp h
  exact (settles_settled (pure_settles _) h₁).append_left [_]

lemma checkFtst_settles {s s' : Bool} {trace : List TrialEvent} {status : TrialRunStatus}
    (h : Gives backend.checkFtst s trace status s') (hne : status ≠ .baselineRejected) :
    backend.Settles status trace := by
  obtain ⟨xs, ys, admitted, s₁, rfl, -, h₁⟩ := gives_bind.mp h
  refine .append_left xs ?_
  cases admitted with
  | none => exact absurd (gives_pure.mp h₁).2.1 hne
  | some started =>
    obtain ⟨writeOk, zs, rfl, h₂⟩ := gives_ask_bind.mp h₁
    refine .append_left [_] ?_
    obtain ⟨ws, us, effect, s₂, rfl, -, h₃⟩ := gives_bind.mp h₂
    refine .append_left ws ?_
    cases effect with
    | none => exact releaseUnseen_settles h₃
    | some afterWrite =>
      obtain ⟨vs, us, unlockOk, s₃, rfl, -, h₄⟩ := gives_bind.mp h₃
      exact (recoverUnlock_settles (settleEffect_silent unlockOk) h₄).append_left vs

/-- A stateful program run with a state of its own runs as it does from that state. -/
lemma ends_run' {α : Type} {m : TrialM α} {s : Bool} {trace : List TrialEvent} {a : α}
    (h : Ends (m.run' s) trace a) : ∃ s', Gives m s trace a s' := by
  obtain ⟨xs, ys, ⟨a', s'⟩, rfl, hrun, hdone⟩ := ends_bind.mp h
  obtain ⟨rfl, rfl⟩ := ends_done.mp hdone
  rw [List.append_nil]
  exact ⟨s', hrun⟩

lemma check_settles {trace : List TrialEvent} {status : TrialRunStatus}
    (h : Ends backend.trialCheckFtst trace status) (hrejected : status ≠ .baselineRejected) :
    backend.Settles status trace := by
  intro hne
  obtain ⟨-, h₁⟩ := h.past_return hne
  obtain ⟨s', h₂⟩ := ends_run' h₁
  exact checkFtst_settles h₂ hrejected hne

lemma rehearse_settles {minimumRpm : Fin 2 → Double} {s s' : Bool} {trace : List TrialEvent}
    {status : TrialRunStatus}
    (h : Gives (backend.trialRehearseFtstMinimumRecovery minimumRpm) s trace status s')
    (hrejected : status ≠ .baselineRejected) : backend.Settles status trace := by
  intro hne
  obtain ⟨-, h₁⟩ := h.past_return hne
  obtain ⟨-, h₂⟩ := h₁.past_return hrejected
  obtain ⟨xs, ys, admitted, s₁, rfl, -, h₃⟩ := gives_bind.mp h₂
  refine .append_left xs ?_
  cases admitted with
  | none => exact absurd (gives_pure.mp h₃).2.1 hrejected
  | some started =>
    obtain ⟨writeOk, zs, rfl, h₄⟩ := gives_ask_bind.mp h₃
    obtain ⟨ws, us, saw, s₂, rfl, -, h₅⟩ := gives_bind.mp h₄
    exact ((recoverUnlock_settles (pure_settles _) h₅ hne).append_left ws).append_left [_]

lemma executeDirect_settles {plan : TrialPlan} {baselineRpm : Fin 2 → Double} {s s' : Bool}
    {trace : List TrialEvent} {status : TrialRunStatus}
    (h : Gives (backend.trialExecuteDirect plan baselineRpm) s trace status s') :
    backend.Settles status trace := by
  intro hne
  obtain ⟨-, h₁⟩ := h.past_return hne
  obtain ⟨xs, ys, control, s₁, rfl, -, h₂⟩ := gives_bind.mp h₁
  obtain ⟨zs, ws, restored, s₂, rfl, -, h₃⟩ := gives_bind.mp h₂
  obtain ⟨-, h₄⟩ := h₃.past_return hne
  exact ((settles_settled (pure_settles _) h₄ hne).append_left zs).append_left xs

/-- Whatever the backend does, a trial that reports neither a failed restoration nor a rejected
baseline ends with a verified window of exactly 61 baseline reads, and a recovery that reports
success ends with one of at least 61. -/
theorem trials_end_verified (backend : TrialBackend) :
    (∀ trace status, Ends backend.trialCheckFtst trace status →
      status ≠ .restoreFailed → status ≠ .baselineRejected →
      EndsVerified backend.round (· = 61) trace) ∧
    (∀ minimumRpm s trace status s',
      Gives (backend.trialRehearseFtstMinimumRecovery minimumRpm) s trace status s' →
      status ≠ .restoreFailed → status ≠ .baselineRejected →
      EndsVerified backend.round (· = 61) trace) ∧
    (∀ plan baselineRpm s trace status s',
      Gives (backend.trialExecuteDirect plan baselineRpm) s trace status s' →
      status ≠ .restoreFailed → status ≠ .baselineRejected →
      EndsVerified backend.round (· = 61) trace) ∧
    ∀ s trace s', Gives backend.trialRestoreUnlock s trace true s' →
      EndsVerified backend.round (61 ≤ ·) trace :=
  ⟨fun _ _ h hfailed hrejected => (check_settles h hrejected).verified hfailed,
    fun _ _ _ _ _ h hfailed hrejected => (rehearse_settles h hrejected).verified hfailed,
    fun _ _ _ _ _ _ h hfailed _ => (executeDirect_settles h).verified hfailed,
    fun _ _ _ h => restoreUnlock_true h⟩

end TrialBackend
end Ventilator
