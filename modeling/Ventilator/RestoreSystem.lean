import Ventilator.TrialWindow

/-! The fixed recovery `trial_restore_system`, call by call: what it attempts, in which order, and
what its answer says. -/
namespace Ventilator
open Double CallTree

namespace TrialBackend
open TrialM

variable {backend : TrialBackend}

def writesOf (trace : List TrialEvent) : List TrialEvent := trace.filter fun e => e.1.isWrite

lemma writesOf_append (xs ys : List TrialEvent) : writesOf (xs ++ ys) = writesOf xs ++ writesOf ys :=
  List.filter_append ..

/-- A write attempted until it is accepted, or ten times, with nothing but waits in between. -/
structure Retried (write : Bool → TrialEvent) (trace : List TrialEvent) : Prop where
  waits : ∀ e ∈ trace, e.1.isWrite = false → e.1 = .waitMilliseconds 50
  attempts : (∃ refused < 10, writesOf trace = List.replicate refused (write false) ++ [write true]) ∨
    writesOf trace = List.replicate 10 (write false)

/-- The attempts of a retry before its next one, all refused. -/
structure Refused (write : Bool → TrialEvent) (attempts : ℕ) (trace : List TrialEvent) : Prop where
  waits : ∀ e ∈ trace, e.1.isWrite = false → e.1 = .waitMilliseconds 50
  refused : writesOf trace = List.replicate attempts (write false)

lemma gives_pauseIf {more : Bool} {milliseconds : ℕ} {s s' : Bool} {trace : List TrialEvent}
    {a : Unit} (h : Gives (pauseIf more milliseconds) s trace a s') :
    s' = s ∧ writesOf trace = [] ∧ ∀ e ∈ trace, e.1 = .waitMilliseconds milliseconds := by
  rw [pauseIf] at h
  split at h
  · obtain ⟨waited, h⟩ := gives_discard.mp h
    obtain ⟨rfl, rfl⟩ := gives_ask.mp h
    exact ⟨rfl, rfl, by simp⟩
  · obtain ⟨rfl, -, rfl⟩ := gives_pure.mp h
    exact ⟨rfl, rfl, nofun⟩

/-- One attempt of a retry. -/
def retryRound (write : TrialM Bool) (attempt : ℕ) : TrialM (Bool ⊕ Unit) := do
  if ← write then pure (.inl true)
  else
    pauseIf (attempt + 1 < 10) 50
    pure (.inr ())

section Retry

variable {write : TrialM Bool} {event : Bool → TrialEvent} {s s' : Bool} {trace : List TrialEvent}

lemma writesOf_cons (hevent : ∀ ok, (event ok).1.isWrite = true) (ok : Bool)
    (rest : List TrialEvent) : writesOf (event ok :: rest) = event ok :: writesOf rest :=
  List.filter_cons_of_pos (hevent ok)

lemma retryRound_runs {attempt : ℕ} {out : Bool ⊕ Unit}
    (hwrite : ∀ s trace ok s', Gives write s trace ok s' → trace = [event ok] ∧ s' = s)
    (h : Gives (retryRound write attempt) s trace out s') :
    s' = s ∧ (out = .inl true ∧ trace = [event true] ∨
      out = .inr () ∧ ∃ pause, trace = event false :: pause ∧ writesOf pause = [] ∧
        ∀ e ∈ pause, e.1 = .waitMilliseconds 50) := by
  obtain ⟨xs, ys, ok, s₂, rfl, hfirst, hnext⟩ := gives_bind.mp h
  obtain ⟨rfl, rfl⟩ := hwrite _ _ _ _ hfirst
  cases ok with
  | true =>
    obtain ⟨rfl, rfl, rfl⟩ := gives_pure.mp hnext
    exact ⟨rfl, .inl ⟨rfl, rfl⟩⟩
  | false =>
    obtain ⟨pause, zs, _, s₃, rfl, hpause, hend⟩ := gives_bind.mp hnext
    obtain ⟨rfl, hnone, hwaits⟩ := gives_pauseIf hpause
    obtain ⟨rfl, rfl, rfl⟩ := gives_pure.mp hend
    exact ⟨rfl, .inr ⟨rfl, pause, by simp, hnone, hwaits⟩⟩

lemma Refused.next {attempt : ℕ} {before : List TrialEvent} {vars : Unit}
    (hevent : ∀ ok, (event ok).1.isWrite = true)
    (hwrite : ∀ s trace ok s', Gives write s trace ok s' → trace = [event ok] ∧ s' = s)
    (hbefore : Refused event attempt before)
    (h : Gives (retryRound write attempt) s trace (.inr vars) s') :
    s' = s ∧ Refused event (attempt + 1) (before ++ trace) := by
  obtain ⟨rfl, ⟨hout, -⟩ | ⟨-, pause, rfl, hnone, hwaits⟩⟩ := retryRound_runs hwrite h
  · cases hout
  refine ⟨rfl, List.forall_mem_append.mpr ⟨hbefore.waits, fun e he hread => ?_⟩, ?_⟩
  · rcases List.mem_cons.mp he with rfl | he
    · exact absurd hread (by simp [hevent])
    · exact hwaits e he
  · rw [writesOf_append, hbefore.refused, writesOf_cons hevent, hnone, List.replicate_succ']

/-- A retry attempts its write until it is accepted, or ten times. -/
lemma retry_runs {a : Bool} (hevent : ∀ ok, (event ok).1.isWrite = true)
    (hwrite : ∀ s trace ok s', Gives write s trace ok s' → trace = [event ok] ∧ s' = s)
    (h : Gives (retry write) s trace a s') : s' = s ∧ Retried event trace := by
  have hstep : ∀ attempt (vars : Unit) s₀ before round vars' s₁,
      s₀ = s ∧ Refused event attempt before →
      Gives (retryRound write attempt) s₀ round (.inr vars') s₁ →
      s₁ = s ∧ Refused event (attempt + 1) (before ++ round) := by
    rintro attempt vars s₀ before round vars' s₁ ⟨rfl, hrefused⟩ hround
    exact hrefused.next hevent hwrite hround
  have hnone : s = s ∧ Refused event 0 [] := ⟨rfl, nofun, rfl⟩
  obtain ⟨attempt, vars, s₁, middle, last, rfl, ⟨rfl, hrefused⟩, ⟨hlt, hlast⟩ | ⟨rfl, hafter⟩⟩ :=
    Gives.forLoop hstep hnone h
  · obtain ⟨rfl, ⟨-, rfl⟩ | ⟨hout, -⟩⟩ := retryRound_runs hwrite hlast
    · refine ⟨rfl, List.forall_mem_append.mpr ⟨hrefused.waits, fun e he hread => ?_⟩,
        .inl ⟨attempt, hlt, ?_⟩⟩
      · obtain rfl := List.mem_singleton.mp he
        exact absurd hread (by simp [hevent])
      · rw [writesOf_append, hrefused.refused, writesOf_cons hevent]
        rfl
    · cases hout
  · obtain ⟨rfl, -, rfl⟩ := gives_pure.mp hafter
    rw [List.append_nil]
    exact ⟨rfl, hrefused.waits, .inr hrefused.refused⟩

end Retry

def modeWrite (fan : Fin 2) (mode : UInt8) (ok : Bool) : TrialEvent := ⟨.writeMode fan mode, ok⟩

def targetWrite (fan : Fin 2) (rpm : Double) (ok : Bool) : TrialEvent := ⟨.writeTarget fan rpm, ok⟩

lemma retryMode_runs {fan : Fin 2} {mode : UInt8} {s s' a : Bool} {trace : List TrialEvent}
    (h : Gives (retryMode fan mode) s trace a s') : s' = s ∧ Retried (modeWrite fan mode) trace :=
  retry_runs (fun _ => rfl) (fun _ _ _ _ hask => gives_ask.mp hask) h

lemma retryTarget_runs {fan : Fin 2} {rpm : Double} {s s' a : Bool} {trace : List TrialEvent}
    (h : Gives (retryTarget fan rpm) s trace a s') : s' = s ∧ Retried (targetWrite fan rpm) trace :=
  retry_runs (fun _ => rfl) (fun _ _ _ _ hask => gives_ask.mp hask) h

/-- Both keys of a fan are attempted, whatever becomes of the first. -/
structure FanRestored (fan : Fin 2) (modes targets : List TrialEvent) : Prop where
  modes : Retried (modeWrite fan 0) modes
  targets : Retried (targetWrite fan (finite 0)) targets

lemma restoreFan_runs {fan : Fin 2} {s s' : Bool} {trace : List TrialEvent} {a : Unit}
    (h : Gives (restoreFan fan) s trace a s') :
    s' = s ∧ ∃ modes targets, trace = modes ++ targets ∧ FanRestored fan modes targets := by
  obtain ⟨modes, targets, _, s₁, rfl, hmodes, htargets⟩ := gives_bind.mp h
  obtain ⟨_, hmode⟩ := gives_discard.mp hmodes
  obtain ⟨_, htarget⟩ := gives_discard.mp htargets
  obtain ⟨rfl, hmodesRetried⟩ := retryMode_runs hmode
  obtain ⟨rfl, htargetsRetried⟩ := retryTarget_runs htarget
  exact ⟨rfl, modes, targets, rfl, hmodesRetried, htargetsRetried⟩

/-! The reads. -/

def systemRead (answer : Option TrialObservation) : TrialEvent := ⟨.readObservation false, answer⟩

/-- Some read of the trace succeeded and was baseline. -/
def ReadsBaseline (trace : List TrialEvent) : Prop :=
  ∃ o, systemRead (some o) ∈ trace ∧ trialObservationIsBaseline o = true

def verifyRound (second : ℕ) : TrialM (Bool ⊕ Unit) := do
  if (← readObservation false).any trialObservationIsBaseline then pure (.inl true)
  else
    pauseIf (second < 5) 1000
    pure (.inr ())

/-- Reads without a write or a baseline among them, the first of which comes first. -/
structure Unverified (rounds : ℕ) (trace : List TrialEvent) : Prop where
  noWrite : writesOf trace = []
  noBaseline : ¬ ReadsBaseline trace
  begins : rounds = 0 ∧ trace = [] ∨ ∃ answer rest, trace = systemRead answer :: rest

lemma verifyRound_runs {second : ℕ} {s s' : Bool} {trace : List TrialEvent} {out : Bool ⊕ Unit}
    (h : Gives (verifyRound second) s trace out s') :
    s' = s ∧ ∃ answer rest, trace = systemRead answer :: rest ∧
      (answer.any trialObservationIsBaseline = true ∧ out = .inl true ∧ rest = [] ∨
        answer.any trialObservationIsBaseline = false ∧ out = .inr () ∧ writesOf rest = [] ∧
          ∀ e ∈ rest, e.1 = .waitMilliseconds 1000) := by
  obtain ⟨answer, rest, rfl, hnext⟩ := gives_ask_bind.mp h
  split at hnext
  · rename_i hbaseline
    obtain ⟨rfl, rfl, rfl⟩ := gives_pure.mp hnext
    exact ⟨rfl, answer, [], rfl, .inl ⟨hbaseline, rfl, rfl⟩⟩
  · rename_i hbaseline
    obtain ⟨pause, zs, _, s₁, rfl, hpause, hend⟩ := gives_bind.mp hnext
    obtain ⟨rfl, hnone, hwaits⟩ := gives_pauseIf hpause
    obtain ⟨rfl, rfl, rfl⟩ := gives_pure.mp hend
    refine ⟨rfl, answer, pause ++ [], rfl, .inr ⟨by simpa using hbaseline, rfl, ?_, ?_⟩⟩
    · rwa [List.append_nil]
    · rwa [List.append_nil]

lemma readsBaseline_append (xs ys : List TrialEvent) :
    ReadsBaseline (xs ++ ys) ↔ ReadsBaseline xs ∨ ReadsBaseline ys := by
  simp only [ReadsBaseline, List.mem_append, or_and_right, exists_or]

lemma readsBaseline_read {answer : Option TrialObservation} {rest : List TrialEvent}
    (hrest : ∀ e ∈ rest, e.1 = .waitMilliseconds 1000) :
    ReadsBaseline (systemRead answer :: rest) ↔ answer.any trialObservationIsBaseline = true := by
  rw [Option.any_eq_true]
  constructor
  · rintro ⟨o, hmem, hbaseline⟩
    rcases List.mem_cons.mp hmem with heq | hmem
    · cases heq
      exact ⟨o, rfl, hbaseline⟩
    · cases hrest _ hmem
  · rintro ⟨o, rfl, hbaseline⟩
    exact ⟨o, by simp, hbaseline⟩

lemma Unverified.begins_append {rounds : ℕ} {before rest : List TrialEvent}
    {answer : Option TrialObservation} {trace : List TrialEvent} (h : Unverified rounds before)
    (htrace : trace = before ++ systemRead answer :: rest) :
    ∃ answer rest, trace = systemRead answer :: rest := by
  rcases h.begins with ⟨-, rfl⟩ | ⟨first, more, rfl⟩
  · exact ⟨answer, rest, htrace⟩
  · exact ⟨first, _, htrace⟩

/-- The last event of the trace is a successful baseline read. -/
def EndsBaseline (trace : List TrialEvent) : Prop :=
  ∃ before o, trace = before ++ [systemRead (some o)] ∧ trialObservationIsBaseline o = true

lemma EndsBaseline.reads {trace : List TrialEvent} (h : EndsBaseline trace) :
    ReadsBaseline trace := by
  obtain ⟨before, o, rfl, hbaseline⟩ := h
  exact ⟨o, by simp, hbaseline⟩

/-- The verification reads first, writes nothing and returns at the first baseline. -/
lemma verifySystem_runs {s s' a : Bool} {trace : List TrialEvent}
    (h : Gives verifySystem s trace a s') :
    s' = s ∧ writesOf trace = [] ∧ (∃ answer rest, trace = systemRead answer :: rest) ∧
      (a = true ↔ ReadsBaseline trace) ∧ (a = true → EndsBaseline trace) := by
  have hstep : ∀ second (vars : Unit) s₀ before round vars' s₁,
      s₀ = s ∧ Unverified second before →
      Gives (verifyRound second) s₀ round (.inr vars') s₁ →
      s₁ = s ∧ Unverified (second + 1) (before ++ round) := by
    rintro second vars s₀ before round vars' s₁ ⟨rfl, hunverified⟩ hround
    obtain ⟨rfl, answer, rest, rfl, ⟨-, hout, -⟩ | ⟨hanswer, -, hnone, hwaits⟩⟩ :=
      verifyRound_runs hround
    · cases hout
    refine ⟨rfl, ?_, ?_, .inr (hunverified.begins_append rfl)⟩
    · rw [writesOf_append, hunverified.noWrite]
      exact hnone
    · rw [readsBaseline_append, readsBaseline_read hwaits, hanswer]
      exact not_or.mpr ⟨hunverified.noBaseline, nofun⟩
  have hnothing : ¬ ReadsBaseline [] := fun hreads => by
    obtain ⟨o, hmem, -⟩ := hreads
    cases hmem
  have hnone : s = s ∧ Unverified 0 [] := ⟨rfl, rfl, hnothing, .inl ⟨rfl, rfl⟩⟩
  obtain ⟨second, vars, s₁, middle, last, rfl, ⟨rfl, hunverified⟩, ⟨-, hlast⟩ | ⟨rfl, hafter⟩⟩ :=
    Gives.forLoop hstep hnone h
  · obtain ⟨rfl, answer, rest, rfl, ⟨hanswer, hout, rfl⟩ | ⟨-, hout, -⟩⟩ := verifyRound_runs hlast
    · obtain rfl := Sum.inl.inj hout
      obtain ⟨o, rfl, hbaseline⟩ := (Option.any_eq_true _ _).mp hanswer
      have hends : EndsBaseline (middle ++ [systemRead (some o)]) := ⟨middle, o, rfl, hbaseline⟩
      refine ⟨rfl, ?_, hunverified.begins_append rfl, iff_of_true rfl hends.reads, fun _ => hends⟩
      rw [writesOf_append, hunverified.noWrite]
      rfl
    · cases hout
  · obtain ⟨rfl, rfl, rfl⟩ := gives_pure.mp hafter
    rw [List.append_nil]
    have hbegins := hunverified.begins.resolve_left (fun hzero => absurd hzero.1 (by decide))
    exact ⟨rfl, hunverified.noWrite, hbegins, iff_of_false nofun hunverified.noBaseline, nofun⟩

/-! The whole recovery. -/

/-- What `trial_restore_system` does when its callbacks are set: its first read settles it, or it
attempts both keys of both fans in order and then only reads until it reads a baseline. -/
structure RestoresSystem (trace : List TrialEvent) (restored : Bool) : Prop where
  answer : restored = true ↔ ReadsBaseline trace
  last : restored = true → EndsBaseline trace
  calls : ∃ answer rest, trace = systemRead answer :: rest ∧
    (answer.any trialObservationIsBaseline = true ∧ rest = [] ∨
      answer.any trialObservationIsBaseline = false ∧
      ∃ modes₀ targets₀ modes₁ targets₁ verify,
        rest = modes₀ ++ targets₀ ++ (modes₁ ++ targets₁) ++ verify ∧
        FanRestored 0 modes₀ targets₀ ∧ FanRestored 1 modes₁ targets₁ ∧
        writesOf verify = [] ∧ ∃ first more, verify = systemRead first :: more)

def restoreCallbacks (backend : TrialBackend) : Bool :=
  backend.hasWriteMode && backend.hasWriteTarget && backend.hasReadObservation &&
    backend.hasWaitMilliseconds

/-- The attempts on a fan read nothing. -/
lemma FanRestored.noBaseline {fan : Fin 2} {modes targets : List TrialEvent}
    (h : FanRestored fan modes targets) : ¬ ReadsBaseline (modes ++ targets) := by
  rw [readsBaseline_append]
  rintro (⟨o, hmem, -⟩ | ⟨o, hmem, -⟩)
  · cases h.modes.waits _ hmem rfl
  · cases h.targets.waits _ hmem rfl

lemma restoresSystem_of_gives {s s' a : Bool} {trace : List TrialEvent}
    (hcallbacks : backend.restoreCallbacks = true)
    (h : Gives backend.trialRestoreSystem s trace a s') : RestoresSystem trace a := by
  simp only [restoreCallbacks, Bool.and_eq_true] at hcallbacks
  rw [trialRestoreSystem, if_neg (by simp [hcallbacks])] at h
  obtain ⟨answer, rest, rfl, hnext⟩ := gives_ask_bind.mp h
  split at hnext
  · rename_i hbaseline
    obtain ⟨rfl, rfl, rfl⟩ := gives_pure.mp hnext
    obtain ⟨o, rfl, ho⟩ := (Option.any_eq_true _ _).mp hbaseline
    have hends : EndsBaseline [systemRead (some o)] := ⟨[], o, rfl, ho⟩
    exact ⟨iff_of_true rfl hends.reads, fun _ => hends, some o, [], rfl, .inl ⟨hbaseline, rfl⟩⟩
  · rename_i hbaseline
    rw [Bool.not_eq_true] at hbaseline
    obtain ⟨xs, rest₁, _, s₁, rfl, hfirst, hsecond⟩ := gives_bind.mp hnext
    obtain ⟨ys, verify, _, s₂, rfl, hsecond, hverify⟩ := gives_bind.mp hsecond
    obtain ⟨rfl, modes₀, targets₀, rfl, hfan₀⟩ := restoreFan_runs hfirst
    obtain ⟨rfl, modes₁, targets₁, rfl, hfan₁⟩ := restoreFan_runs hsecond
    obtain ⟨rfl, hnone, hbegins, hanswer, hends⟩ := verifySystem_runs hverify
    have hreads : ReadsBaseline (systemRead answer :: (modes₀ ++ targets₀ ++ (modes₁ ++ targets₁ ++
        verify))) ↔ ReadsBaseline verify := by
      have hfirstRead : ¬ ReadsBaseline [systemRead answer] := by
        rw [readsBaseline_read (by simp), hbaseline]
        exact Bool.false_ne_true
      rw [← List.singleton_append, readsBaseline_append, readsBaseline_append (modes₀ ++ targets₀),
        readsBaseline_append (modes₁ ++ targets₁)]
      simp only [hfirstRead, hfan₀.noBaseline, hfan₁.noBaseline, false_or]
    refine ⟨hanswer.trans hreads.symm, fun htrue => ?_, answer, _, rfl, .inr ⟨hbaseline, modes₀,
      targets₀, modes₁, targets₁, verify, by simp, hfan₀, hfan₁, hnone, hbegins⟩⟩
    obtain ⟨before, o, rfl, ho⟩ := hends htrue
    exact ⟨systemRead answer :: (modes₀ ++ targets₀ ++ (modes₁ ++ targets₁ ++ before)), o,
      by simp [systemRead], ho⟩

/-- Without its callbacks the fixed recovery makes no call and fails. -/
lemma restoreSystem_missing (hcallbacks : backend.restoreCallbacks = false) {s s' : Bool}
    {trace : List TrialEvent} {a : Bool} (h : Gives backend.trialRestoreSystem s trace a s') :
    trace = [] ∧ a = false := by
  have hmissing : (!backend.hasWriteMode || !backend.hasWriteTarget ||
      !backend.hasReadObservation || !backend.hasWaitMilliseconds) = true := by
    rw [← Bool.not_eq_false', ← hcallbacks]
    simp [restoreCallbacks]
  rw [trialRestoreSystem, if_pos hmissing] at h
  obtain ⟨rfl, rfl, -⟩ := gives_pure.mp h
  exact ⟨rfl, rfl⟩

/-- The fixed recovery, exactly; without its callbacks it makes no call and fails. -/
theorem trialRestoreSystem_exact (backend : TrialBackend) :
    (backend.restoreCallbacks = true → ∀ s trace a s', Gives backend.trialRestoreSystem s trace a s' →
      RestoresSystem trace a) ∧
    (backend.restoreCallbacks = false → ∀ s trace a s',
      Gives backend.trialRestoreSystem s trace a s' → trace = [] ∧ a = false) := by
  exact ⟨fun hcallbacks s trace a s' h => restoresSystem_of_gives hcallbacks h,
    fun hcallbacks s trace a s' h => restoreSystem_missing hcallbacks h⟩

end TrialBackend
end Ventilator
