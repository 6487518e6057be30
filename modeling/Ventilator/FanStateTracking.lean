import Ventilator.RestoreSystem
import Ventilator.TrialVerified

/-! `observed_fan_state_change` of `trial_check_ftst`: once set it stays set, and where a recovery
ends well without it, every observation of the run showed both fans under system control. -/
namespace Ventilator
open Double CallTree

def TrialCall.reads : TrialCall → Bool
  | readObservation _ => true
  | _ => false

namespace TrialBackend
open TrialM

variable {backend : TrialBackend}

/-- Every observation of the trace shows both fans in mode 3 with targets of zero. -/
def AllSystem (trace : List TrialEvent) : Prop :=
  ∀ full o, ⟨.readObservation full, some o⟩ ∈ trace → systemModesAndZeroTargets o = true

lemma allSystem_append {xs ys : List TrialEvent} :
    AllSystem (xs ++ ys) ↔ AllSystem xs ∧ AllSystem ys := by
  simp only [AllSystem, List.mem_append, or_imp, forall_and]

lemma AllSystem.read {full : Bool} {o : TrialObservation} {trace : List TrialEvent}
    (ho : systemModesAndZeroTargets o = true) (h : AllSystem trace) :
    AllSystem (⟨.readObservation full, some o⟩ :: trace) := by
  intro full' o' hmem
  rcases List.mem_cons.mp hmem with heq | hmem
  · cases heq
    exact ho
  · exact h full' o' hmem

/-- The flag never goes back, and a run that gives a result in `P` and leaves it unset saw only fans
under system control. -/
def Tracks {α : Type} (P : α → Prop) (m : TrialM α) : Prop :=
  ∀ s trace a s', Gives m s trace a s' → s' = false → s = false ∧ (P a → AllSystem trace)

/-- The same, after a read of `o` that is still to be noted. -/
def Notes {α : Type} (o : TrialObservation) (P : α → Prop) (m : TrialM α) : Prop :=
  ∀ s trace a s', Gives m s trace a s' → s' = false →
    s = false ∧ (P a → systemModesAndZeroTargets o = true ∧ AllSystem trace)

/-- The same, after a read of `o` that was noted. -/
def TracksNoted {α : Type} (o : TrialObservation) (P : α → Prop) (m : TrialM α) : Prop :=
  ∀ s trace a s', (s = false → systemModesAndZeroTargets o = true) → Gives m s trace a s' →
    s' = false → s = false ∧ (P a → AllSystem trace)

section Rules

variable {α β : Type} {P : α → Prop} {Q : β → Prop} {m : TrialM α} {o : TrialObservation}

lemma Tracks.noted (h : Tracks P m) : TracksNoted o P m := fun s trace a s' _ => h s trace a s'

lemma Tracks.pure (a : α) : Tracks P (Pure.pure a : TrialM α) := by
  intro s trace b s' h hs
  obtain ⟨rfl, -, rfl⟩ := gives_pure.mp h
  exact ⟨hs, fun _ => nofun⟩

/-- A read whose results lie outside `P` need not be noted. -/
lemma Notes.never (h : Tracks P m)
    (hnever : ∀ s trace a s', Gives m s trace a s' → ¬ P a) : Notes o P m :=
  fun s trace a s' hgives hs =>
    ⟨(h s trace a s' hgives hs).1, fun ha => absurd ha (hnever s trace a s' hgives)⟩

lemma Notes.fails {a : α} (h : ¬ P a) : Notes o P (Pure.pure a : TrialM α) := by
  refine .never (.pure a) fun s trace b s' hgives => ?_
  obtain ⟨-, rfl, -⟩ := gives_pure.mp hgives
  exact h

lemma Tracks.bind {f : α → TrialM β} (hm : Tracks P m) (hf : ∀ a, Tracks Q (f a))
    (hother : ∀ a, ¬ P a → ∀ s trace b s', Gives (f a) s trace b s' → ¬ Q b) :
    Tracks Q (m >>= f) := by
  intro s trace b s' h hs
  obtain ⟨xs, ys, a, s₁, rfl, hfirst, hnext⟩ := gives_bind.mp h
  obtain ⟨hs₁, hys⟩ := hf a _ _ _ _ hnext hs
  obtain ⟨hs₀, hxs⟩ := hm _ _ _ _ hfirst hs₁
  refine ⟨hs₀, fun hb => allSystem_append.mpr ⟨hxs ?_, hys hb⟩⟩
  by_contra ha
  exact hother a ha _ _ _ _ hnext hb

/-- Where every result of the first part may lead to one in `Q`. -/
lemma Tracks.seq {f : α → TrialM β} (hm : Tracks (fun _ => True) m) (hf : ∀ a, Tracks Q (f a)) :
    Tracks Q (m >>= f) :=
  hm.bind hf fun _ ha => absurd trivial ha

lemma Notes.seq {f : α → TrialM β} (hm : Tracks (fun _ => True) m) (hf : ∀ a, Notes o Q (f a)) :
    Notes o Q (m >>= f) := by
  intro s trace b s' h hs
  obtain ⟨xs, ys, a, s₁, rfl, hfirst, hnext⟩ := gives_bind.mp h
  obtain ⟨hs₁, hys⟩ := hf a _ _ _ _ hnext hs
  obtain ⟨hs₀, hxs⟩ := hm _ _ _ _ hfirst hs₁
  exact ⟨hs₀, fun hb => ⟨(hys hb).1, allSystem_append.mpr ⟨hxs trivial, (hys hb).2⟩⟩⟩

lemma TracksNoted.seq {f : α → TrialM β} (hm : Tracks (fun _ => True) m)
    (hf : ∀ a, Tracks Q (f a)) : TracksNoted o Q (m >>= f) := (hm.seq hf).noted

lemma Tracks.ite {p : Prop} [Decidable p] {m' : TrialM α} (hm : p → Tracks P m)
    (hm' : ¬ p → Tracks P m') : Tracks P (if p then m else m') := by
  split
  · rename_i h
    exact hm h
  · rename_i h
    exact hm' h

lemma Notes.ite {p : Prop} [Decidable p] {m' : TrialM α} (hm : p → Notes o P m)
    (hm' : ¬ p → Notes o P m') : Notes o P (if p then m else m') := by
  split
  · rename_i h
    exact hm h
  · rename_i h
    exact hm' h

lemma TracksNoted.ite {p : Prop} [Decidable p] {m' : TrialM α} (hm : p → TracksNoted o P m)
    (hm' : ¬ p → TracksNoted o P m') : TracksNoted o P (if p then m else m') := by
  split
  · rename_i h
    exact hm h
  · rename_i h
    exact hm' h

/-- A branch taken only after an observation of other fans cannot end with the flag unset. -/
lemma TracksNoted.excluded (h : Tracks (fun _ => False) m)
    (ho : systemModesAndZeroTargets o = false) : TracksNoted o P m := by
  intro s trace a s' hnoted hgives hs
  have hs₀ := (h s trace a s' hgives hs).1
  exact absurd (hnoted hs₀) (by simp [ho])

/-- A program that reads nothing and leaves the flag. -/
lemma Tracks.of_silent (hread : Only (fun c => c.reads = false) m)
    (hstate : ∀ s trace a s', Gives m s trace a s' → s' = s) : Tracks P m := by
  intro s trace a s' h hs
  refine ⟨(hstate _ _ _ _ h).symm.trans hs, fun _ full o hmem => ?_⟩
  cases hread.gives h _ hmem

lemma Tracks.ask (c : TrialCall) (hread : c.reads = false) :
    Tracks (fun _ => True) (CallTree.ask c : TrialM (TrialCall.Answer c)) :=
  .of_silent (.ask hread) fun _ _ _ _ h => (gives_ask.mp h).2

/-- Noting a read makes up for it. -/
lemma Notes.note {f : Unit → TrialM α} (h : TracksNoted o P (f ())) :
    Notes o P (noteFanState o >>= f) := by
  intro s trace a s' hgives hs
  obtain ⟨xs, ys, _, s₁, rfl, hnote, hnext⟩ := gives_bind.mp hgives
  obtain ⟨rfl, rfl⟩ := gives_noteFanState hnote
  have hnoted : (s || !systemModesAndZeroTargets o) = false → systemModesAndZeroTargets o = true := by
    simp
  obtain ⟨hs₁, hys⟩ := h _ _ _ _ hnoted hnext hs
  exact ⟨(Bool.or_eq_false_iff.mp hs₁).1, fun ha => ⟨hnoted hs₁, by simpa using hys ha⟩⟩

/-- A read is tracked where its observation is noted. -/
lemma Tracks.read {full : Bool} {f : Option TrialObservation → TrialM α}
    (hnone : Tracks P (f none)) (hsome : ∀ o, Notes o P (f (some o))) :
    Tracks P (readObservation full >>= f) := by
  intro s trace a s' h hs
  obtain ⟨answer, rest, rfl, hnext⟩ := gives_ask_bind.mp h
  cases answer with
  | none =>
    obtain ⟨hs₀, hrest⟩ := hnone _ _ _ _ hnext hs
    refine ⟨hs₀, fun ha full' o hmem => ?_⟩
    rcases List.mem_cons.mp hmem with heq | hmem
    · cases heq
    · exact hrest ha full' o hmem
  | some o =>
    obtain ⟨hs₀, hrest⟩ := hsome o _ _ _ _ hnext hs
    exact ⟨hs₀, fun ha => (hrest ha).2.read (hrest ha).1⟩

lemma Tracks.mono {P' : α → Prop} (himp : ∀ a, P' a → P a) (h : Tracks P m) : Tracks P' m :=
  fun s trace a s' hgives hs =>
    ⟨(h s trace a s' hgives hs).1, fun ha => (h s trace a s' hgives hs).2 (himp a ha)⟩

lemma Tracks.discard (h : Tracks P m) :
    Tracks (fun _ => ∀ a, P a) (discard m : TrialM PUnit) := by
  intro s trace _ s' hgives hs
  obtain ⟨b, hb⟩ := gives_discard.mp hgives
  exact ⟨(h _ _ _ _ hb hs).1, fun hP => (h _ _ _ _ hb hs).2 (hP b)⟩

/-- What a loop's rounds track, returning with `P` or going on, the loop tracks. -/
lemma Tracks.loop {ρ κ : Type} {R : ρ → Prop} {body : ℕ → κ → TrialM (ρ ⊕ κ)}
    (hbody : ∀ index vars, Tracks (Sum.elim R fun _ => True) (body index vars))
    (remaining index : ℕ) (vars : κ) :
    Tracks (Sum.elim R fun _ => True) (CallTree.loop body remaining index vars) := by
  induction remaining generalizing index vars with
  | zero => exact .pure _
  | succ remaining ih =>
    refine (hbody index vars).bind (fun out => ?_) fun out hout => ?_
    · cases out with
      | inl _ => exact .pure _
      | inr vars' => exact ih (index + 1) vars'
    · cases out with
      | inl result =>
        intro s trace next s' h
        obtain ⟨-, rfl, -⟩ := gives_pure.mp h
        exact hout
      | inr vars' => exact absurd trivial hout

lemma Tracks.forLoop {ρ κ : Type} {R : ρ → Prop} {body : ℕ → κ → TrialM (ρ ⊕ κ)}
    {after : κ → TrialM ρ}
    (hbody : ∀ index vars, Tracks (Sum.elim R fun _ => True) (body index vars))
    (hafter : ∀ vars, Tracks R (after vars)) (rounds : ℕ) (vars : κ) :
    Tracks R (CallTree.forLoop body rounds vars after) := by
  refine (Tracks.loop hbody rounds 0 vars).bind (fun out => ?_) fun out hout => ?_
  · cases out with
    | inl _ => exact .pure _
    | inr vars' => exact hafter vars'
  · cases out with
    | inl result =>
      intro s trace next s' h
      obtain ⟨-, rfl, -⟩ := gives_pure.mp h
      exact hout
    | inr vars' => exact absurd trivial hout

lemma Tracks.never (h : Tracks (fun _ => False) m)
    (hnever : ∀ s trace a s', Gives m s trace a s' → ¬ P a) : Tracks P m :=
  fun s trace a s' hgives hs =>
    ⟨(h s trace a s' hgives hs).1, fun ha => absurd ha (hnever s trace a s' hgives)⟩

lemma TracksNoted.bind {f : α → TrialM β} (hm : TracksNoted o P m) (hf : ∀ a, Tracks Q (f a))
    (hother : ∀ a, ¬ P a → ∀ s trace b s', Gives (f a) s trace b s' → ¬ Q b) :
    TracksNoted o Q (m >>= f) := by
  intro s trace b s' hnoted h hs
  obtain ⟨xs, ys, a, s₁, rfl, hfirst, hnext⟩ := gives_bind.mp h
  obtain ⟨hs₁, hys⟩ := hf a _ _ _ _ hnext hs
  obtain ⟨hs₀, hxs⟩ := hm _ _ _ _ hnoted hfirst hs₁
  refine ⟨hs₀, fun hb => allSystem_append.mpr ⟨hxs ?_, hys hb⟩⟩
  by_contra ha
  exact hother a ha _ _ _ _ hnext hb

/-- A program that finds an observation and notes it. -/
lemma Tracks.found {m : TrialM (Option TrialObservation)} {f : Option TrialObservation → TrialM β}
    (hm : Tracks (fun _ => True) m)
    (hfound : ∀ s trace o s', Gives m s trace (some o) s' → s' = false →
      systemModesAndZeroTargets o = true)
    (hnone : Tracks Q (f none)) (hsome : ∀ o, TracksNoted o Q (f (some o))) :
    Tracks Q (m >>= f) := by
  intro s trace b s' h hs
  obtain ⟨xs, ys, a, s₁, rfl, hfirst, hnext⟩ := gives_bind.mp h
  have hrest : s₁ = false ∧ (Q b → AllSystem ys) := by
    cases a with
    | none => exact hnone _ _ _ _ hnext hs
    | some o => exact hsome o _ _ _ _ (hfound _ _ _ _ hfirst) hnext hs
  obtain ⟨hs₀, hxs⟩ := hm _ _ _ _ hfirst hrest.1
  exact ⟨hs₀, fun hb => allSystem_append.mpr ⟨hxs trivial, hrest.2 hb⟩⟩

end Rules

/-! The parts that note all they read. -/

lemma tracks_record (second : ℕ) (o : TrialObservation) :
    Tracks (fun _ => True) (backend.record second o) :=
  .ite (fun _ => .ask (.recordObservation second o) rfl) fun _ => .pure _

lemma tracks_pauseIf (more : Bool) (milliseconds : ℕ) :
    Tracks (fun _ => True) (pauseIf more milliseconds) :=
  .ite (fun _ => (Tracks.discard (.ask (.waitMilliseconds milliseconds) rfl)).mono
    fun _ _ _ => trivial) fun _ => .pure _

lemma tracks_observerHandler (c : ObserverCall) :
    Tracks (fun _ => True) (backend.observerHandler c) := by
  cases c with
  | readObservation => exact .read (.pure _) fun o => .note (Tracks.pure _).noted
  | recordObservation second o => exact tracks_record second o
  | shouldStop => exact .ask .shouldStop rfl
  | monotonicSeconds => exact .ask .monotonicSeconds rfl
  | waitMilliseconds milliseconds => exact .ask (.waitMilliseconds milliseconds) rfl

/-- The observation after a recovery notes every read. -/
lemma tracks_observe : Tracks (fun _ => True) backend.trialObserveAfterFtst := by
  have hhandle : ∀ {α : Type} (t : CallTree ObserverCall ObserverCall.Answer α),
      Tracks (fun _ => True) (handle backend.observerHandler t) := by
    intro α t
    induction t with
    | done a => exact .pure a
    | call c next ih => exact (tracks_observerHandler c).seq ih
  exact hhandle _

lemma tracks_retry {write : TrialM Bool} (h : Tracks (fun _ => True) write) :
    Tracks (fun _ => True) (retry write) :=
  .forLoop (fun _ _ => h.seq fun _ => .ite (fun _ => .pure _) fun _ =>
    (tracks_pauseIf _ _).seq fun _ => .pure _) (fun _ => .pure _) _ _

lemma tracks_releaseManualMode (current : TrialObservation) (fan : Fin 2) :
    Tracks (fun _ => True) (releaseManualMode current fan) :=
  .ite (fun _ => tracks_retry (.ask (.writeMode fan 0) rfl)) fun _ => .pure _

lemma TracksNoted.record {α : Type} {P : α → Prop} {f : Unit → TrialM α} {o o' : TrialObservation}
    {second : ℕ} (h : TracksNoted o P (f ())) :
    TracksNoted o P (backend.record second o' >>= f) := by
  intro s trace a s' hnoted hgives hs
  obtain ⟨xs, ys, _, s₁, rfl, hrecord, hnext⟩ := gives_bind.mp hgives
  obtain ⟨rfl, hxs⟩ := gives_record hrecord
  obtain ⟨hs₀, hys⟩ := h _ _ _ _ hnoted hnext hs
  refine ⟨hs₀, fun ha => allSystem_append.mpr ⟨?_, hys ha⟩⟩
  rcases hxs with rfl | rfl
  · exact nofun
  · intro full o hmem
    cases List.mem_singleton.mp hmem

/-! The parts that read without noting; the flag does not change there. -/

lemma restoreSystem_state {s s' a : Bool} {trace : List TrialEvent}
    (h : Gives backend.trialRestoreSystem s trace a s') : s' = s := by
  rw [trialRestoreSystem] at h
  split at h
  · exact (gives_pure.mp h).2.2
  obtain ⟨answer, rest, rfl, h₁⟩ := gives_ask_bind.mp h
  split at h₁
  · exact (gives_pure.mp h₁).2.2
  obtain ⟨xs, ys, _, s₁, rfl, hfirst, h₂⟩ := gives_bind.mp h₁
  obtain ⟨zs, ws, _, s₂, rfl, hsecond, hverify⟩ := gives_bind.mp h₂
  exact (verifySystem_runs hverify).1.trans
    ((restoreFan_runs hsecond).1.trans (restoreFan_runs hfirst).1)

lemma tracks_restoreSystem : Tracks (fun _ => False) backend.trialRestoreSystem :=
  fun _ _ _ _ h hs => ⟨(restoreSystem_state h).symm.trans hs, False.elim⟩

lemma tracks_restoredAndStable :
    Tracks (fun _ => False) (backend.restoredAndStable backend.trialRestoreSystem) :=
  tracks_restoreSystem.bind (fun _ => .ite (fun _ => .pure _) fun _ =>
    tracks_observe.seq fun _ => .pure _) fun _ _ _ _ _ _ _ => id

lemma tracks_lowerTarget (fan : Fin 2) : Tracks (fun _ => False) (lowerTarget fan) := by
  refine .read (.pure _) fun o => .ite (fun _ => .fails id) fun _ => .note (Tracks.noted ?_)
  refine .ite (fun _ => ?_) fun _ => .pure _
  exact (Tracks.discard (.ask (.writeTarget fan (finite 0)) rfl)).bind (fun _ => .pure _)
    fun _ _ _ _ _ _ _ => id

lemma not_system_of_mode {o : TrialObservation} (fan : Fin 2) (h : o.mode fan ≠ 3) :
    systemModesAndZeroTargets o = false := by
  by_contra hsystem
  rw [Bool.not_eq_false] at hsystem
  have hfan := List.all_eq_true.mp hsystem fan (List.mem_finRange fan)
  simp only [Bool.and_eq_true, beq_iff_eq] at hfan
  exact h hfan.1.1

lemma tracks_lowerTargets (current : TrialObservation) :
    TracksNoted current (· = true) (backend.lowerTargets current) := by
  refine .ite (fun hmodes => .excluded ?_ (not_system_of_mode 0 ?_)) fun _ =>
    (Tracks.pure _).noted
  · have hpass : Tracks (fun _ => False) lowerPass :=
      (tracks_lowerTarget 0).bind (fun _ => .ite (fun _ => (Tracks.discard
        (tracks_lowerTarget 1)).mono fun _ => False.elim) fun _ => .pure _) fun _ _ _ _ _ _ _ => id
    refine hpass.bind (fun _ => .read (.pure _) fun o => .ite (fun _ => .fails id) fun _ =>
      .note (TracksNoted.record (Tracks.pure _).noted)) fun _ _ _ _ _ _ _ => id
  · rw [hmodes.1]
    decide

/-- The state before the release, if it is not yet a failed return. -/
lemma tracks_prepareFrom (current : TrialObservation) (delayedChange : Bool)
    (hchanged : delayedChange = false → trialObservationIsBaseline current = false) :
    TracksNoted current (· ≠ .returned false) (backend.prepareFrom current delayedChange) := by
  refine .ite (fun hftst => ?_) fun _ => .ite (fun _ => (Tracks.pure _).noted) fun _ => ?_
  · have hrestored : Tracks (fun _ => False) (do
        let restored ← backend.restoredAndStable backend.trialRestoreSystem
        pure (Preparation.returned (restored && !delayedChange)) : TrialM Preparation) :=
      tracks_restoredAndStable.bind (fun _ => .pure _) fun _ _ _ _ _ _ _ => id
    cases delayedChange with
    | true =>
      refine (hrestored.never fun s trace p s' h => ?_).noted
      obtain ⟨xs, ys, restored, s₁, rfl, -, hdone⟩ := gives_bind.mp h
      obtain ⟨-, rfl, -⟩ := gives_pure.mp hdone
      simp
    | false =>
      refine .excluded hrestored ?_
      have hnot := hchanged rfl
      rw [trialObservationIsBaseline, hftst] at hnot
      exact hnot
  · refine TracksNoted.seq (tracks_releaseManualMode current 0) fun _ =>
      .ite (fun _ => .pure _) fun _ => (tracks_releaseManualMode current 1).seq fun _ =>
        .ite (fun _ => .pure _) fun _ => .read (.pure _) fun o =>
          .ite (fun _ => .fails (by simp)) fun _ => .note (.record ?_)
    refine (tracks_lowerTargets o).bind (fun _ => .ite (fun _ => .pure _) fun _ => .pure _)
      fun ok hok s trace p s' h => ?_
    rw [if_neg hok] at h
    obtain ⟨-, rfl, -⟩ := gives_pure.mp h
    simp

lemma tracks_readForRelease : Tracks (fun _ => True) readForRelease := by
  refine .forLoop (fun _ _ => .read ((tracks_pauseIf _ _).seq fun _ => .pure _) fun o => ?_)
    (fun _ => .pure _) _ _
  have hsome : Notes o (Sum.elim (fun _ => True) fun _ => True) (do
      noteFanState o
      pure (.inl (some o)) : TrialM (Option TrialObservation ⊕ Unit)) := .note (Tracks.pure _).noted
  exact hsome

lemma readForRelease_noted {s s' : Bool} {trace : List TrialEvent} {o : TrialObservation}
    (h : Gives readForRelease s trace (some o) s') (hs : s' = false) :
    systemModesAndZeroTargets o = true := by
  obtain ⟨attempt, _, s₁, middle, last, -, -, ⟨-, hlast⟩ | ⟨-, hafter⟩⟩ :=
    Gives.forLoop (I := fun _ _ _ _ => True) (fun _ _ _ _ _ _ _ _ _ => trivial) trivial h
  · obtain ⟨answer, rest, rfl, hnext⟩ := gives_ask_bind.mp hlast
    cases answer with
    | none =>
      obtain ⟨xs, ys, _, s₂, rfl, -, hdone⟩ := gives_bind.mp hnext
      cases (gives_pure.mp hdone).2.1
    | some current =>
      obtain ⟨xs, ys, _, s₂, rfl, hnote, hdone⟩ := gives_bind.mp hnext
      obtain ⟨-, heq, rfl⟩ := gives_pure.mp hdone
      obtain rfl := Option.some.inj (Sum.inl.inj heq)
      rw [(gives_noteFanState hnote).2, Bool.or_eq_false_iff, Bool.not_eq_false'] at hs
      exact hs.2
  · cases (gives_pure.mp hafter).2.1

lemma tracks_prepareRelease : Tracks (· ≠ .returned false) backend.prepareRelease := by
  refine tracks_readForRelease.found (fun _ _ _ _ h => readForRelease_noted h) (.pure _)
    fun current => .record ?_
  refine .ite (fun _ => ?_) fun hbaseline =>
    tracks_prepareFrom current false fun _ => by simpa using hbaseline
  exact TracksNoted.seq tracks_observe fun _ => .ite (fun _ => .pure _) fun _ =>
    .ite (fun _ => .pure _) fun _ => .read (.pure _) fun current =>
      .note (tracks_prepareFrom current true nofun)

/-! The release and the loop after it. -/

lemma tracks_awaitCleared : Tracks (· ≠ .failed) backend.awaitCleared := by
  refine .forLoop (fun _ _ => .read (.pure _) fun o => .ite (fun _ => .fails (by simp)) fun _ =>
    .note (.record ?_)) (fun _ => .pure _) _ _
  exact TracksNoted.ite (fun _ => (Tracks.pure _).noted) fun _ => .ite
    (fun _ => (Tracks.pure _).noted) fun _ => TracksNoted.seq (.ask (.waitMilliseconds 1000) rfl)
      fun _ => .ite (fun _ => .pure _) fun _ => .pure _

lemma tracks_clearFtst : Tracks (· = true) backend.clearFtst := by
  have hwrite : Tracks (fun _ => True) (discard (writeFtst 0) : TrialM PUnit) :=
    (Tracks.discard (.ask (.writeFtst 0) rfl)).mono fun _ _ _ => trivial
  refine .forLoop (fun _ _ => hwrite.seq fun _ => tracks_awaitCleared.bind (fun result => ?_)
    fun result hfailed s trace out s' h => ?_) (fun _ => .pure _) _ _
  · cases result <;> exact .pure _
  · obtain rfl := not_not.mp hfailed
    obtain ⟨-, rfl, -⟩ := gives_pure.mp h
    exact Bool.false_ne_true

lemma tracks_fallback (second : ℕ) (o : TrialObservation) (state : PostClear) :
    TracksNoted o (fun _ => True) (backend.fallback second o state) := by
  refine .ite (fun hmodes => .excluded ?_ (not_system_of_mode 0 ?_)) fun _ =>
    (Tracks.pure _).noted
  · exact (Tracks.discard tracks_restoreSystem).bind (fun _ => .pure _) fun _ _ _ _ _ _ _ => id
  · rw [hmodes.2.1]
    decide

lemma tracks_awaitBaselineSecond (delayedChange : Bool) (second : ℕ) (state : PostClear) :
    Tracks (Sum.elim (· = true) fun _ => True)
      (backend.awaitBaselineSecond delayedChange second state) := by
  refine Tracks.seq (.ask .monotonicSeconds rfl) fun _ => .read (.pure _) fun o =>
    .ite (fun _ => .fails (by simp)) fun _ => .seq (.ask .monotonicSeconds rfl) fun _ =>
      .ite (fun _ => .fails (by simp)) fun _ => .note (.record ?_)
  refine .ite (fun _ => (Tracks.pure _).noted) fun _ => (tracks_fallback _ _ _).bind (fun _ => ?_)
    fun _ hnot => absurd trivial hnot
  exact .ite (fun _ => .pure _) fun _ => Tracks.seq (.ask (.waitMilliseconds 1000) rfl) fun _ =>
    .ite (fun _ => .pure _) fun _ => .pure _

lemma tracks_releaseAndWait (delayedChange : Bool) :
    Tracks (· = true) (backend.releaseAndWait delayedChange) := by
  refine tracks_clearFtst.bind (fun _ => .ite (fun _ => ?_) fun _ => .pure _)
    fun cleared hcleared s trace a s' h => ?_
  · exact .forLoop (tracks_awaitBaselineSecond delayedChange) (fun _ => .pure _) _ _
  · rw [if_neg hcleared] at h
    obtain ⟨-, rfl, -⟩ := gives_pure.mp h
    exact Bool.false_ne_true

/-- A recovery that succeeds and leaves the flag unset saw only fans under system control. -/
lemma tracks_restoreUnlock : Tracks (· = true) backend.trialRestoreUnlock := by
  refine .ite (fun _ => .pure _) fun _ => tracks_prepareRelease.bind (fun p => ?_)
    fun p hreturned s trace a s' h => ?_
  · cases p with
    | returned result => exact .pure _
    | ready delayedChange => exact tracks_releaseAndWait delayedChange
  · obtain rfl := not_not.mp hreturned
    obtain ⟨-, rfl, -⟩ := gives_pure.mp h
    exact Bool.false_ne_true

/-- The wait for the effect notes every observation. -/
lemma tracks_awaitEffect : Tracks (fun _ => True) backend.awaitEffect := by
  refine .forLoop (fun _ _ => .read (.pure _) fun o => .seq (tracks_record _ _) fun _ =>
    .note (Tracks.noted ?_)) (fun _ => .pure _) _ _
  exact .ite (fun _ => .pure _) fun _ => .ite (fun _ => .pure _) fun _ =>
    Tracks.seq (.ask .shouldStop rfl) fun _ => .ite (fun _ => .pure _) fun _ =>
      .ite (fun _ => .pure _) fun _ => Tracks.seq (.ask (.waitMilliseconds 500) rfl) fun _ =>
        .ite (fun _ => .pure _) fun _ => .pure _

end TrialBackend
end Ventilator
