import Ventilator.TrialWindow

/-! The runs of `trial_observe_baseline_window`: the samples it accepts, and the first condition
that is violated when it returns early. -/
namespace Ventilator
open Double CallTree

abbrev ObserverEvent := Event ObserverCall.Answer

namespace WindowSample

variable {round : ℚ → Double}

/-- The timing of a sample's own read. -/
structure Timely (round : ℚ → Double) (s : WindowSample) : Prop where
  started : s.started.isfinite = true
  nonneg : le (finite 0) s.started = true
  finished : s.finished.isfinite = true
  ordered : le s.started s.finished = true
  short : le (sub round s.finished s.started) (finite 5) = true

/-- The timing of a sample after the one before it. -/
structure Follows (round : ℚ → Double) (previous s : WindowSample) : Prop where
  ordered : le previous.finished s.started = true
  spaced : le sampleMinSeconds (sub round s.finished previous.finished) = true
  near : le (sub round s.finished previous.finished) (finite 5) = true

/-- The timing check of a sample after those before it. -/
structure InTime (round : ℚ → Double) (samples : List WindowSample) (s : WindowSample) : Prop where
  timely : s.Timely round
  follows : ∀ previous ∈ samples.getLast?, previous.Follows round s

lemma timely_iff {s : WindowSample} :
    s.Timely round ↔ readTimingValid round s.started s.finished = true := by
  simp only [readTimingValid, Bool.and_eq_true]
  exact ⟨fun h => ⟨⟨⟨⟨h.started, h.nonneg⟩, h.finished⟩, h.ordered⟩, h.short⟩,
    fun h => ⟨h.1.1.1.1, h.1.1.1.2, h.1.1.2, h.1.2, h.2⟩⟩

lemma follows_iff {previous s : WindowSample} : s.Timely round ∧ previous.Follows round s ↔
    sampleTimingValid round previous.finished s.started s.finished = true := by
  simp only [sampleTimingValid, Bool.and_eq_true, timely_iff]
  exact ⟨fun h => ⟨⟨⟨h.1, h.2.ordered⟩, h.2.spaced⟩, h.2.near⟩,
    fun h => ⟨h.1.1.1, h.1.1.2, h.1.2, h.2⟩⟩

end WindowSample

/-- The loop's variables after the samples it accepted. -/
def WindowVars.after (samples : List WindowSample) : WindowVars :=
  ⟨(samples.head?.elim (finite 0) WindowSample.finished),
    (samples.getLast?.elim (finite 0) WindowSample.finished), samples.length⟩

variable {round : ℚ → Double} {lastSecond : ℕ} {samples : List WindowSample} {s : WindowSample}

lemma inTime_iff : s.InTime round samples ↔ (if samples.length = 0
    then readTimingValid round s.started s.finished
    else sampleTimingValid round (WindowVars.after samples).previousSample s.started
      s.finished) = true := by
  cases hlast : samples.getLast? with
  | none =>
    obtain rfl := List.getLast?_eq_none_iff.mp hlast
    rw [List.length_nil, if_pos rfl, ← WindowSample.timely_iff]
    exact ⟨fun h => h.timely, fun h => ⟨h, nofun⟩⟩
  | some previous =>
    have hne : samples.length ≠ 0 := fun hzero => by
      rw [List.length_eq_zero_iff.mp hzero] at hlast
      cases hlast
    have hprevious : (WindowVars.after samples).previousSample = previous.finished := by
      simp [WindowVars.after, hlast]
    rw [if_neg hne, hprevious, ← WindowSample.follows_iff]
    refine ⟨fun h => ⟨h.timely, h.follows previous hlast⟩, fun h => ⟨h.1, fun p hp => ?_⟩⟩
    rw [hlast] at hp
    obtain rfl := Option.some.inj hp
    exact h.2

lemma after_concat : WindowVars.after (samples ++ [s]) =
    ⟨if samples.length = 0 then s.finished else (WindowVars.after samples).windowStarted,
      s.finished, samples.length + 1⟩ := by
  rw [WindowVars.after, List.getLast?_concat, List.length_append, List.length_singleton]
  cases samples <;> rfl

/-- Samples that all passed their timing checks and were all baseline. -/
structure Regular (round : ℚ → Double) (samples : List WindowSample) : Prop where
  timely : ∀ s ∈ samples, s.Timely round
  follows : samples.IsChain (WindowSample.Follows round)
  baseline : ∀ s ∈ samples, trialObservationIsBaseline s.observation = true

lemma regular_concat : Regular round (samples ++ [s]) ↔ Regular round samples ∧
    s.InTime round samples ∧ trialObservationIsBaseline s.observation = true := by
  constructor
  · intro h
    have hchain := List.isChain_append.mp h.follows
    refine ⟨⟨fun x hx => h.timely x (List.mem_append_left _ hx), hchain.1,
      fun x hx => h.baseline x (List.mem_append_left _ hx)⟩, ⟨h.timely s (by simp), ?_⟩,
      h.baseline s (by simp)⟩
    exact fun previous hprevious => hchain.2.2 previous hprevious s (by simp)
  · rintro ⟨h, htime, hbaseline⟩
    refine ⟨List.forall_mem_append.mpr ⟨h.timely, by simpa using htime.timely⟩,
      List.isChain_append.mpr ⟨h.follows, List.isChain_singleton s, ?_⟩,
      List.forall_mem_append.mpr ⟨h.baseline, by simpa using hbaseline⟩⟩
    intro previous hprevious x hx
    obtain rfl : s = x := by simpa using hx
    exact htime.follows previous hprevious

/-- The last of the samples completed the window's length after the first. -/
def LongEnough (round : ℚ → Double) (lastSecond : ℕ) (samples : List WindowSample) : Prop :=
  le (finite lastSecond) (sub round (WindowVars.after samples).previousSample
    (WindowVars.after samples).windowStarted) = true

/-! The observer's calls. -/

namespace WindowSample

/-- The calls up to the read of a sample. -/
def reading (started : Double) (observation : Option TrialObservation) : List ObserverEvent :=
  [⟨.shouldStop, false⟩, ⟨.monotonicSeconds, started⟩, ⟨.readObservation, observation⟩]

def readEvents (s : WindowSample) : List ObserverEvent :=
  reading s.started (some s.observation) ++ [⟨.monotonicSeconds, s.finished⟩]

end WindowSample

def waitedEvents (waited : Bool) : List ObserverEvent := [⟨.waitMilliseconds 1000, waited⟩]

/-- The calls for accepted samples, each with the wait after it. -/
def acceptedEvents (samples : List WindowSample) : List ObserverEvent :=
  (samples.mapIdx fun second s => s.observerEvents second ++ waitedEvents true).flatten

lemma acceptedEvents_concat : acceptedEvents (samples ++ [s]) =
    acceptedEvents samples ++ (s.observerEvents samples.length ++ waitedEvents true) := by
  simp [acceptedEvents, List.mapIdx_append]

/-- The calls of the second that violates a condition, with the first that it violates, and how
many reads of the second count as samples. -/
inductive Violates (round : ℚ → Double) (lastSecond : ℕ) (samples : List WindowSample) :
    List ObserverEvent → TrialBaselineStatus → ℕ → Prop
  | stopped : Violates round lastSecond samples [⟨.shouldStop, true⟩] .interrupted 0
  | clockFailed {started : Double}
      (h : started.isfinite = false ∨ le (finite 0) started = false) :
      Violates round lastSecond samples [⟨.shouldStop, false⟩, ⟨.monotonicSeconds, started⟩]
        .timingFailed 0
  | readFailed {started : Double} (h : started.isfinite = true ∧ le (finite 0) started = true) :
      Violates round lastSecond samples (WindowSample.reading started none) .readFailed 0
  | untimely {s : WindowSample}
      (h : s.started.isfinite = true ∧ le (finite 0) s.started = true)
      (htime : ¬ s.InTime round samples) :
      Violates round lastSecond samples s.readEvents .timingFailed 0
  | stoppedAfterRead {s : WindowSample} (h : s.InTime round samples) :
      Violates round lastSecond samples (s.readEvents ++ [⟨.shouldStop, true⟩]) .interrupted 1
  | changed {s : WindowSample} (h : s.InTime round samples)
      (hchanged : trialObservationIsBaseline s.observation = false) :
      Violates round lastSecond samples (s.readEvents ++ [⟨.shouldStop, false⟩,
        ⟨.recordObservation samples.length s.observation, ()⟩]) .changed 1
  | stoppedAfterRecord {s : WindowSample} (h : s.InTime round samples)
      (hbaseline : trialObservationIsBaseline s.observation = true) :
      Violates round lastSecond samples (s.readEvents ++ [⟨.shouldStop, false⟩,
        ⟨.recordObservation samples.length s.observation, ()⟩, ⟨.shouldStop, true⟩]) .interrupted 1
  | tooShort {s : WindowSample} (h : s.InTime round samples)
      (hbaseline : trialObservationIsBaseline s.observation = true)
      (hlast : samples.length = lastSecond)
      (hshort : ¬ LongEnough round lastSecond (samples ++ [s])) :
      Violates round lastSecond samples (s.observerEvents samples.length) .timingFailed 1
  | waitFailed {s : WindowSample} (h : s.InTime round samples)
      (hbaseline : trialObservationIsBaseline s.observation = true)
      (hlast : samples.length ≠ lastSecond) (stop : Bool) :
      Violates round lastSecond samples
        (s.observerEvents samples.length ++ waitedEvents false ++ [⟨.shouldStop, stop⟩])
        (if stop then .interrupted else .waitFailed) 1

/-- What one second of the loop can be. -/
inductive SecondRuns (round : ℚ → Double) (lastSecond : ℕ) (samples : List WindowSample) :
    List ObserverEvent → TrialBaselineResult ⊕ WindowVars → Prop
  | violates {trace status counted} (h : Violates round lastSecond samples trace status counted) :
      SecondRuns round lastSecond samples trace
        (.inl ⟨status, samples.length, samples.length + counted⟩)
  | stable {s : WindowSample} (h : s.InTime round samples)
      (hbaseline : trialObservationIsBaseline s.observation = true)
      (hlast : samples.length = lastSecond)
      (hlong : LongEnough round lastSecond (samples ++ [s])) :
      SecondRuns round lastSecond samples (s.observerEvents samples.length)
        (.inl ⟨.stable, samples.length, samples.length + 1⟩)
  | goesOn {s : WindowSample} (h : s.InTime round samples)
      (hbaseline : trialObservationIsBaseline s.observation = true)
      (hlast : samples.length ≠ lastSecond) :
      SecondRuns round lastSecond samples
        (s.observerEvents samples.length ++ waitedEvents true) (.inr (.after (samples ++ [s])))

/-- The part of a second after its sample was recorded. -/
def observeNext (round : ℚ → Double) (lastSecond second : ℕ) (windowStarted sampled : Double)
    (samples : ℕ) : ObserverM (TrialBaselineResult ⊕ WindowVars) := do
  if second = lastSecond then
    pure (.inl ⟨if le (finite lastSecond) (sub round sampled windowStarted) then .stable
      else .timingFailed, second, samples⟩)
  else if !(← ObserverM.waitMilliseconds 1000) then
    let stopped ← ObserverM.shouldStop
    pure (.inl ⟨if stopped then .interrupted else .waitFailed, second, samples⟩)
  else pure (.inr ⟨windowStarted, sampled, samples⟩)

/-- The part of a second after its sample was in time. -/
def observeTimely (round : ℚ → Double) (lastSecond second : ℕ) (windowStarted sampled : Double)
    (samples : ℕ) (observation : TrialObservation) : ObserverM (TrialBaselineResult ⊕ WindowVars) := do
  if ← ObserverM.shouldStop then pure (.inl ⟨.interrupted, second, samples⟩)
  else
    ObserverM.recordObservation second observation
    if !trialObservationIsBaseline observation then pure (.inl ⟨.changed, second, samples⟩)
    else if ← ObserverM.shouldStop then pure (.inl ⟨.interrupted, second, samples⟩)
    else observeNext round lastSecond second windowStarted sampled samples

/-- The part of a second after its read succeeded. -/
def observeRead (round : ℚ → Double) (lastSecond second : ℕ) (vars : WindowVars) (started : Double)
    (observation : TrialObservation) : ObserverM (TrialBaselineResult ⊕ WindowVars) := do
  let sampled ← ObserverM.monotonicSeconds
  if !(if second = 0 then readTimingValid round started sampled
      else sampleTimingValid round vars.previousSample started sampled) then
    pure (.inl ⟨.timingFailed, second, vars.samples⟩)
  else
    observeTimely round lastSecond second (if second = 0 then sampled else vars.windowStarted)
      sampled (vars.samples + 1) observation

lemma clock_check {started : Double} : (!started.isfinite || lt started (finite 0)) = true ↔
    started.isfinite = false ∨ le (finite 0) started = false := by
  cases hfinite : started.isfinite with
  | false => simp
  | true =>
    rw [lt_of_isfinite hfinite (isfinite_finite 0), le_of_isfinite (isfinite_finite 0) hfinite]
    simp only [Bool.not_true, Bool.false_or, decide_eq_true_eq, Bool.true_eq_false, false_or,
      decide_eq_false_iff_not, not_le]

/-- Every second of the loop is one of these. -/
lemma observeSecond_runs {trace : List ObserverEvent} {out : TrialBaselineResult ⊕ WindowVars}
    (h : Ends (observeSecond round lastSecond samples.length (.after samples)) trace out) :
    SecondRuns round lastSecond samples trace out := by
  rw [observeSecond] at h
  obtain ⟨stopBefore, trace₁, rfl, h₁⟩ := ends_perform_bind.mp h
  cases stopBefore with
  | true =>
    obtain ⟨rfl, rfl⟩ := ends_done.mp h₁
    exact .violates .stopped
  | false =>
  obtain ⟨started, trace₂, rfl, h₂⟩ := ends_perform_bind.mp h₁
  dsimp only at h₂
  split at h₂
  · rename_i hclock
    obtain ⟨rfl, rfl⟩ := ends_done.mp h₂
    exact .violates (.clockFailed (clock_check.mp hclock))
  rename_i hclock
  rw [clock_check, not_or, Bool.not_eq_false, Bool.not_eq_false] at hclock
  obtain ⟨answer, trace₃, rfl, h₃⟩ := ends_perform_bind.mp h₂
  cases answer with
  | none =>
    obtain ⟨rfl, rfl⟩ := ends_done.mp h₃
    exact .violates (.readFailed hclock)
  | some observation =>
  obtain ⟨finished, trace₄, rfl, h₄⟩ := ends_perform_bind.mp h₃
  let s : WindowSample := ⟨started, observation, finished⟩
  have hcheck : s.InTime round samples ↔ (if samples.length = 0
      then readTimingValid round started finished
      else sampleTimingValid round (WindowVars.after samples).previousSample started finished) = true :=
    inTime_iff
  by_cases hintime : s.InTime round samples
  swap
  · rw [if_pos (by simpa using mt hcheck.mpr hintime)] at h₄
    obtain ⟨rfl, rfl⟩ := ends_done.mp h₄
    exact .violates (.untimely (s := s) hclock hintime)
  rw [if_neg (by simpa using hcheck.mp hintime)] at h₄
  obtain ⟨stopAfter, trace₅, rfl, h₅⟩ := ends_perform_bind.mp h₄
  cases stopAfter with
  | true =>
    obtain ⟨rfl, rfl⟩ := ends_done.mp h₅
    exact .violates (.stoppedAfterRead hintime)
  | false =>
  obtain ⟨-, trace₆, rfl, h₆⟩ := ends_perform_bind.mp h₅
  split at h₆
  · rename_i hchanged
    obtain ⟨rfl, rfl⟩ := ends_done.mp h₆
    exact .violates (.changed hintime (by simpa using hchanged))
  rename_i hbaseline
  have hbaseline : trialObservationIsBaseline observation = true := by simpa using hbaseline
  obtain ⟨stopLast, trace₇, rfl, h₇⟩ := ends_perform_bind.mp h₆
  cases stopLast with
  | true =>
    obtain ⟨rfl, rfl⟩ := ends_done.mp h₇
    exact .violates (.stoppedAfterRecord hintime hbaseline)
  | false =>
  have hlong : LongEnough round lastSecond (samples ++ [s]) ↔ le (finite lastSecond)
      (sub round finished (if samples.length = 0 then finished
        else (WindowVars.after samples).windowStarted)) = true := by
    rw [LongEnough, after_concat]
  rw [if_neg Bool.false_ne_true] at h₇
  split at h₇
  · rename_i hlast
    obtain ⟨rfl, rfl⟩ := ends_done.mp h₇
    by_cases hspan : LongEnough round lastSecond (samples ++ [s])
    · rw [if_pos (hlong.mp hspan)]
      exact .stable hintime hbaseline hlast hspan
    · rw [if_neg (mt hlong.mpr hspan)]
      exact .violates (.tooShort hintime hbaseline hlast hspan)
  rename_i hlast
  obtain ⟨waited, trace₈, rfl, h₈⟩ := ends_perform_bind.mp h₇
  cases waited with
  | true =>
    obtain ⟨rfl, rfl⟩ := ends_done.mp h₈
    have hgoes := SecondRuns.goesOn hintime hbaseline hlast
    rw [after_concat] at hgoes
    exact hgoes
  | false =>
    obtain ⟨stop, trace₉, rfl, h₉⟩ := ends_perform_bind.mp h₈
    obtain ⟨rfl, rfl⟩ := ends_done.mp h₉
    exact .violates (.waitFailed hintime hbaseline hlast stop)

/-- A second whose clock is right is read. -/
lemma ends_reading {started : Double} {answer : Option TrialObservation}
    {rest : List ObserverEvent} {out : TrialBaselineResult ⊕ WindowVars} {vars : WindowVars}
    {second : ℕ} (hclock : started.isfinite = true ∧ le (finite 0) started = true)
    (h : Ends (match answer with
      | none => pure (.inl ⟨.readFailed, second, vars.samples⟩)
      | some observation => observeRead round lastSecond second vars started observation) rest out) :
    Ends (observeSecond round lastSecond second vars) (WindowSample.reading started answer ++ rest)
      out := by
  have hcheck : ¬ (!started.isfinite || lt started (finite 0)) = true := by
    rw [clock_check, not_or, hclock.1, hclock.2]
    simp
  refine ends_perform_bind.mpr ⟨false, _, rfl, ?_⟩
  refine ends_perform_bind.mpr ⟨started, _, rfl, ?_⟩
  rw [if_neg hcheck]
  exact ends_perform_bind.mpr ⟨answer, rest, rfl, h⟩

/-- The parts of a second after a sample that was in time. -/
lemma ends_timely {rest : List ObserverEvent} {out : TrialBaselineResult ⊕ WindowVars}
    (h : s.InTime round samples)
    (hrest : Ends (observeTimely round lastSecond samples.length
      (WindowVars.after (samples ++ [s])).windowStarted s.finished (samples.length + 1)
      s.observation) rest out) :
    Ends (observeSecond round lastSecond samples.length (.after samples)) (s.readEvents ++ rest)
      out := by
  have hclock := And.intro h.timely.started h.timely.nonneg
  have hread : Ends (observeRead round lastSecond samples.length (.after samples) s.started
      s.observation) (⟨.monotonicSeconds, s.finished⟩ :: rest) out := by
    refine ends_perform_bind.mpr ⟨s.finished, rest, rfl, ?_⟩
    rw [if_neg (by simpa using inTime_iff.mp h)]
    rw [after_concat] at hrest
    exact hrest
  rw [WindowSample.readEvents, List.append_assoc]
  exact ends_reading hclock hread

lemma ends_recorded {rest : List ObserverEvent} {out : TrialBaselineResult ⊕ WindowVars}
    (h : s.InTime round samples) (hbaseline : trialObservationIsBaseline s.observation = true)
    (hrest : Ends (observeNext round lastSecond samples.length
      (WindowVars.after (samples ++ [s])).windowStarted s.finished (samples.length + 1)) rest out) :
    Ends (observeSecond round lastSecond samples.length (.after samples))
      (s.observerEvents samples.length ++ rest) out := by
  have hevents : s.observerEvents samples.length ++ rest = s.readEvents ++ (⟨.shouldStop, false⟩ ::
    ⟨.recordObservation samples.length s.observation, ()⟩ :: ⟨.shouldStop, false⟩ :: rest) := rfl
  rw [hevents]
  refine ends_timely h ?_
  refine ends_perform_bind.mpr ⟨false, _, rfl, ends_perform_bind.mpr ⟨(), _, rfl, ?_⟩⟩
  rw [if_neg (by simp [hbaseline])]
  exact ends_perform_bind.mpr ⟨false, rest, rfl, hrest⟩

/-- Each of these is a second of the loop. -/
lemma SecondRuns.ends {trace : List ObserverEvent} {out : TrialBaselineResult ⊕ WindowVars}
    (h : SecondRuns round lastSecond samples trace out) :
    Ends (observeSecond round lastSecond samples.length (.after samples)) trace out := by
  have hlong : ∀ s, LongEnough round lastSecond (samples ++ [s]) ↔ le (finite lastSecond)
      (sub round s.finished (WindowVars.after (samples ++ [s])).windowStarted) = true := fun s => by
    rw [LongEnough, after_concat]
  cases h with
  | violates h =>
    cases h with
    | stopped => exact ends_perform_bind.mpr ⟨true, [], rfl, .refl _⟩
    | clockFailed h =>
      refine ends_perform_bind.mpr ⟨false, _, rfl, ends_perform_bind.mpr ⟨_, [], rfl, ?_⟩⟩
      rw [if_pos (clock_check.mpr h)]
      exact .refl _
    | readFailed h =>
      rename_i started
      rw [← List.append_nil (WindowSample.reading started none)]
      exact ends_reading h (.refl _)
    | untimely h htime =>
      rename_i s
      have hread : Ends (observeRead round lastSecond samples.length (.after samples) s.started
          s.observation) [⟨.monotonicSeconds, s.finished⟩]
          (.inl ⟨.timingFailed, samples.length, samples.length⟩) := by
        refine ends_perform_bind.mpr ⟨s.finished, [], rfl, ?_⟩
        rw [if_pos (by simpa using mt inTime_iff.mpr htime)]
        exact .refl _
      exact ends_reading h hread
    | stoppedAfterRead h => exact ends_timely h (ends_perform_bind.mpr ⟨true, [], rfl, .refl _⟩)
    | changed h hchanged =>
      refine ends_timely h (ends_perform_bind.mpr ⟨false, _, rfl,
        ends_perform_bind.mpr ⟨(), [], rfl, ?_⟩⟩)
      rw [if_pos (by simp [hchanged])]
      exact .refl _
    | stoppedAfterRecord h hbaseline =>
      refine ends_timely h (ends_perform_bind.mpr ⟨false, _, rfl,
        ends_perform_bind.mpr ⟨(), _, rfl, ?_⟩⟩)
      rw [if_neg (by simp [hbaseline])]
      exact ends_perform_bind.mpr ⟨true, [], rfl, .refl _⟩
    | tooShort h hbaseline hlast hshort =>
      rename_i s
      rw [← List.append_nil (s.observerEvents samples.length)]
      refine ends_recorded h hbaseline ?_
      rw [observeNext, if_pos hlast, if_neg (mt (hlong s).mpr hshort)]
      exact .refl _
    | waitFailed h hbaseline hlast stop =>
      rw [List.append_assoc]
      refine ends_recorded h hbaseline ?_
      rw [observeNext, if_neg hlast]
      exact ends_perform_bind.mpr ⟨false, _, rfl, ends_perform_bind.mpr ⟨stop, [], rfl, .refl _⟩⟩
  | stable h hbaseline hlast hspan =>
    rename_i s
    rw [← List.append_nil (s.observerEvents samples.length)]
    refine ends_recorded h hbaseline ?_
    rw [observeNext, if_pos hlast, if_pos ((hlong s).mp hspan)]
    exact .refl _
  | goesOn h hbaseline hlast =>
    refine ends_recorded h hbaseline ?_
    rw [observeNext, if_neg hlast, after_concat]
    exact ends_perform_bind.mpr ⟨true, [], rfl, .refl _⟩

/-! The whole window. -/

def TrialBaselineObserver.complete (observer : TrialBaselineObserver) : Bool :=
  observer.hasReadObservation && observer.hasWaitMilliseconds && observer.hasShouldStop &&
    observer.hasMonotonicSeconds && observer.hasRecordObservation

/-- The runs of the window: without a callback it makes no call; else it accepts samples up to the
last second, or up to the first violation. -/
inductive WindowRuns (observer : TrialBaselineObserver) (lastSecond : ℕ) :
    List ObserverEvent → TrialBaselineResult → Prop
  | invalid (h : observer.complete = false) : WindowRuns observer lastSecond [] ⟨.invalid, 0, 0⟩
  | stable {samples : List WindowSample} {s : WindowSample} (h : observer.complete = true)
      (hregular : Regular observer.round (samples ++ [s])) (hlast : samples.length = lastSecond)
      (hlong : LongEnough observer.round lastSecond (samples ++ [s])) :
      WindowRuns observer lastSecond (acceptedEvents samples ++ s.observerEvents lastSecond)
        ⟨.stable, lastSecond, lastSecond + 1⟩
  | violated {samples : List WindowSample} {trace status counted} (h : observer.complete = true)
      (hregular : Regular observer.round samples) (hbound : samples.length ≤ lastSecond)
      (hviolates : Violates observer.round lastSecond samples trace status counted) :
      WindowRuns observer lastSecond (acceptedEvents samples ++ trace)
        ⟨status, samples.length, samples.length + counted⟩

/-- The samples accepted before a second. -/
structure AcceptedTo (round : ℚ → Double) (lastSecond second : ℕ) (vars : WindowVars)
    (samples : List WindowSample) (trace : List ObserverEvent) : Prop where
  regular : Regular round samples
  length : samples.length = second
  bound : second ≤ lastSecond
  vars : vars = .after samples
  trace : trace = acceptedEvents samples

lemma AcceptedTo.next {second : ℕ} {vars vars' : WindowVars} {before trace : List ObserverEvent}
    (h : ∃ samples, AcceptedTo round lastSecond second vars samples before)
    (hround : Ends (observeSecond round lastSecond second vars) trace (.inr vars')) :
    ∃ samples, AcceptedTo round lastSecond (second + 1) vars' samples (before ++ trace) := by
  obtain ⟨samples, hregular, rfl, hbound, rfl, rfl⟩ := h
  cases observeSecond_runs hround with
  | goesOn hintime hbaseline hlast =>
    rename_i s
    have hlength : (samples ++ [s]).length = samples.length + 1 := by simp
    exact ⟨samples ++ [s], regular_concat.mpr ⟨hregular, hintime, hbaseline⟩, hlength, by omega,
      rfl, acceptedEvents_concat.symm⟩

/-- After accepted samples the loop is where they leave it. -/
lemma ends_loop_accepted (hregular : Regular round samples) (hbound : samples.length ≤ lastSecond)
    {trace : List ObserverEvent} {out : TrialBaselineResult ⊕ WindowVars}
    (h : Ends (loop (observeSecond round lastSecond) (lastSecond + 1 - samples.length)
      samples.length (.after samples)) trace out) :
    Ends (loop (observeSecond round lastSecond) (lastSecond + 1) 0 (.after []))
      (acceptedEvents samples ++ trace) out := by
  induction samples using List.reverseRecOn generalizing trace with
  | nil => exact h
  | append_singleton samples s ih =>
    obtain ⟨hregular, hintime, hbaseline⟩ := regular_concat.mp hregular
    have hlength : (samples ++ [s]).length = samples.length + 1 := by simp
    rw [hlength] at hbound h
    have hround := (SecondRuns.goesOn hintime hbaseline
      (show samples.length ≠ lastSecond by omega)).ends
    rw [acceptedEvents_concat, List.append_assoc]
    refine ih hregular (by omega) ?_
    have hrounds : lastSecond + 1 - samples.length = (lastSecond + 1 - (samples.length + 1)) + 1 := by
      omega
    rw [hrounds]
    exact ends_bind.mpr ⟨_, _, _, rfl, hround, h⟩

/-- The window's runs are exactly these. -/
lemma trialObserveBaselineWindow_runs {observer : TrialBaselineObserver} {lastSecond : ℕ}
    {trace : List ObserverEvent} {result : TrialBaselineResult} :
    Ends (trialObserveBaselineWindow observer lastSecond) trace result ↔
      WindowRuns observer lastSecond trace result := by
  have hcheck : (!observer.hasReadObservation || !observer.hasWaitMilliseconds ||
      !observer.hasShouldStop || !observer.hasMonotonicSeconds ||
      !observer.hasRecordObservation) = !observer.complete := by
    simp [TrialBaselineObserver.complete]
  rw [trialObserveBaselineWindow, hcheck]
  cases hcomplete : observer.complete with
  | false =>
    constructor
    · intro h
      obtain ⟨rfl, rfl⟩ := ends_done.mp h
      exact .invalid hcomplete
    · intro h
      cases h with
      | invalid h => exact .refl _
      | stable h => exact absurd (hcomplete.symm.trans h) nofun
      | violated h => exact absurd (hcomplete.symm.trans h) nofun
  | true =>
    constructor
    · intro h
      have hinit : ∃ samples, AcceptedTo observer.round lastSecond 0 ⟨finite 0, finite 0, 0⟩ samples
          [] := ⟨[], ⟨nofun, .nil, nofun⟩, rfl, Nat.zero_le _, rfl, rfl⟩
      have hstep : ∀ second vars before trace vars',
          (∃ samples, AcceptedTo observer.round lastSecond second vars samples before) →
          Ends (observeSecond observer.round lastSecond second vars) trace (.inr vars') →
          ∃ samples, AcceptedTo observer.round lastSecond (second + 1) vars' samples
            (before ++ trace) := fun _ _ _ _ _ hI hround => AcceptedTo.next hI hround
      obtain ⟨second, vars, middle, last, rfl, ⟨samples, hregular, rfl, hbound, rfl, rfl⟩,
        ⟨-, hlast⟩ | ⟨hrounds, -⟩⟩ := Ends.forLoop hstep hinit h
      · cases observeSecond_runs hlast with
        | violates hviolates => exact .violated hcomplete hregular hbound hviolates
        | stable hintime hbaseline hsecond hlong =>
          rw [hsecond]
          exact .stable hcomplete (regular_concat.mpr ⟨hregular, hintime, hbaseline⟩) hsecond hlong
      · omega
    · intro h
      have hreturns : ∀ {samples : List WindowSample} {last : List ObserverEvent}
          {result : TrialBaselineResult}, Regular observer.round samples →
          samples.length ≤ lastSecond →
          SecondRuns observer.round lastSecond samples last (.inl result) →
          Ends (forLoop (observeSecond observer.round lastSecond) (lastSecond + 1)
            ⟨finite 0, finite 0, 0⟩ fun vars => pure ⟨.invalid, lastSecond, vars.samples⟩)
            (acceptedEvents samples ++ last) result := by
        intro samples last result hregular hbound hsecond
        have hrounds : lastSecond + 1 - samples.length = (lastSecond - samples.length) + 1 := by omega
        have hloop : Ends (loop (observeSecond observer.round lastSecond)
            (lastSecond + 1 - samples.length) samples.length (.after samples)) last (.inl result) := by
          rw [hrounds]
          exact ends_bind.mpr ⟨last, [], _, by simp, hsecond.ends, .refl _⟩
        exact ends_bind.mpr ⟨_, [], _, by simp, ends_loop_accepted hregular hbound hloop, .refl _⟩
      cases h with
      | invalid h => exact absurd (hcomplete.symm.trans h) nofun
      | stable h hregular hlast hlong =>
        obtain ⟨hsamples, hintime, hbaseline⟩ := regular_concat.mp hregular
        subst hlast
        exact hreturns hsamples le_rfl (.stable hintime hbaseline rfl hlong)
      | violated h hregular hbound hviolates =>
        exact hreturns hregular hbound (.violates hviolates)

/-- The observations that were recorded, with their seconds. -/
def recorded (trace : List ObserverEvent) : List (ℕ × TrialObservation) :=
  trace.filterMap fun
    | ⟨.recordObservation second observation, _⟩ => some (second, observation)
    | _ => none

lemma recorded_accepted (samples : List WindowSample) :
    recorded (acceptedEvents samples) = samples.mapIdx fun second s => (second, s.observation) := by
  induction samples using List.reverseRecOn with
  | nil => rfl
  | append_singleton samples s ih =>
    rw [acceptedEvents_concat, recorded, List.filterMap_append, List.mapIdx_append]
    exact congrArg₂ _ ih (by simp [WindowSample.observerEvents, waitedEvents])

/-- The calls and answers of a stable window of these samples. -/
structure StableWindow (observer : TrialBaselineObserver) (lastSecond : ℕ)
    (samples : List WindowSample) (trace : List ObserverEvent) : Prop where
  complete : observer.complete = true
  length : samples.length = lastSecond + 1
  regular : Regular observer.round samples
  long : LongEnough observer.round lastSecond samples
  trace : ∃ before last, samples = before ++ [last] ∧
    trace = acceptedEvents before ++ last.observerEvents lastSecond

/-- The answers of the reads. -/
def readAnswers (trace : List ObserverEvent) : List (Option TrialObservation) :=
  trace.filterMap fun
    | ⟨.readObservation, observation⟩ => some observation
    | _ => none

/-- A second that violates a condition makes at most one read, which counts exactly if it was in
time. -/
structure Violates.Counts (round : ℚ → Double) (samples : List WindowSample)
    (trace : List ObserverEvent) (status : TrialBaselineStatus) (counted : ℕ) : Prop where
  unstable : status ≠ .stable
  reads : (readAnswers trace).length ≤ 1
  counted : counted = 1 ∧ (∃ s : WindowSample, s.InTime round samples ∧ s.readEvents <+: trace) ∨
    counted = 0 ∧ ∀ s : WindowSample, s.readEvents <+: trace → ¬ s.InTime round samples

lemma Violates.counts {trace : List ObserverEvent} {status : TrialBaselineStatus} {counted : ℕ}
    (h : Violates round lastSecond samples trace status counted) :
    Violates.Counts round samples trace status counted := by
  have hshort : ∀ {trace : List ObserverEvent}, trace.length < 4 →
      ∀ s : WindowSample, s.readEvents <+: trace → ¬ s.InTime round samples :=
    fun hlength s hprefix => absurd hprefix.length_le (by simpa [WindowSample.readEvents,
      WindowSample.reading] using hlength)
  cases h with
  | stopped => exact ⟨nofun, Nat.zero_le 1, .inr ⟨rfl, hshort (by simp)⟩⟩
  | clockFailed h => exact ⟨nofun, Nat.zero_le 1, .inr ⟨rfl, hshort (by simp)⟩⟩
  | readFailed h => exact ⟨nofun, le_rfl, .inr ⟨rfl, hshort (by simp [WindowSample.reading])⟩⟩
  | untimely h htime =>
    rename_i s
    refine ⟨nofun, le_rfl, .inr ⟨rfl, fun s' hprefix => ?_⟩⟩
    have hevents : s'.readEvents = s.readEvents := hprefix.eq_of_length rfl
    have hsame : s' = s := by
      simp only [WindowSample.readEvents, WindowSample.reading, List.cons_append, List.nil_append,
        List.cons.injEq, Sigma.mk.injEq, heq_eq_eq, true_and, and_true, Option.some.injEq] at hevents
      cases s
      cases s'
      simp only [WindowSample.mk.injEq]
      exact hevents
    rwa [hsame]
  | stoppedAfterRead h => exact ⟨nofun, le_rfl, .inl ⟨rfl, _, h, List.prefix_append _ _⟩⟩
  | changed h => exact ⟨nofun, le_rfl, .inl ⟨rfl, _, h, List.prefix_append _ _⟩⟩
  | stoppedAfterRecord h => exact ⟨nofun, le_rfl, .inl ⟨rfl, _, h, List.prefix_append _ _⟩⟩
  | tooShort h => exact ⟨nofun, le_rfl, .inl ⟨rfl, _, h, ⟨_, rfl⟩⟩⟩
  | waitFailed h _ _ stop =>
    refine ⟨by cases stop <;> nofun, le_rfl, .inl ⟨rfl, _, h, ?_⟩⟩
    rw [List.append_assoc]
    exact ⟨_, rfl⟩

/-- The window's runs, exactly: a run is stable if and only if every second up to the last was
accepted and the window is long enough, its samples are then those recorded, and any other run
ends with the first violation. -/
theorem trialObserveBaselineWindow_exact (observer : TrialBaselineObserver) (lastSecond : ℕ) :
    (∀ trace result, Ends (trialObserveBaselineWindow observer lastSecond) trace result ↔
      WindowRuns observer lastSecond trace result) ∧
    (∀ trace result, WindowRuns observer lastSecond trace result →
      (result.status = .stable ↔ ∃ samples, StableWindow observer lastSecond samples trace)) ∧
    (∀ trace samples, StableWindow observer lastSecond samples trace →
      WindowRuns observer lastSecond trace ⟨.stable, lastSecond, lastSecond + 1⟩ ∧
        recorded trace = samples.mapIdx fun second s => (second, s.observation)) ∧
    ∀ samples trace status counted,
      Violates observer.round lastSecond samples trace status counted →
      Violates.Counts observer.round samples trace status counted := by
  have hstable : ∀ trace samples, StableWindow observer lastSecond samples trace →
      WindowRuns observer lastSecond trace ⟨.stable, lastSecond, lastSecond + 1⟩ ∧
        recorded trace = samples.mapIdx fun second s => (second, s.observation) := by
    rintro trace samples ⟨hcomplete, hlength, hregular, hlong, before, last, rfl, rfl⟩
    have hlast : before.length = lastSecond := by simpa using hlength
    refine ⟨.stable hcomplete hregular hlast hlong, ?_⟩
    rw [recorded, List.filterMap_append, List.mapIdx_append]
    exact congrArg₂ _ (recorded_accepted before) (by simp [WindowSample.observerEvents, hlast])
  refine ⟨fun _ _ => trialObserveBaselineWindow_runs, fun trace result h => ⟨fun hstatus => ?_, ?_⟩,
    hstable, fun _ _ _ _ h => h.counts⟩
  · cases h with
    | invalid => cases hstatus
    | stable hcomplete hregular hlast hlong =>
      exact ⟨_, hcomplete, by simp [hlast], hregular, hlong, _, _, rfl, rfl⟩
    | violated _ _ _ hviolates => exact absurd hstatus hviolates.counts.unstable
  · rintro ⟨samples, hwindow⟩
    have hends := trialObserveBaselineWindow_runs.mpr h
    have hends' := trialObserveBaselineWindow_runs.mpr (hstable trace samples hwindow).1
    have happend : trace ++ [] = trace ++ [] := rfl
    rw [(hends.unique hends' happend).2]

end Ventilator
