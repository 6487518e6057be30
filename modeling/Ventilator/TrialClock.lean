import Ventilator.FtstCheck

/-! The time limits of the trials under a clock that may fail. The limits are compared with
differences of readings that are not checked themselves. -/
namespace Ventilator
open Double CallTree

namespace TrialBackend
open TrialM

variable {backend : TrialBackend} {plan : TrialPlan} {baselineRpm : Fin 2 → Double}

/-- Every reading a limit is checked with is valid, and its limit is kept. -/
structure ManualRun.InTime (round : ℚ → Double) (run : ManualRun) : Prop where
  windows : ∀ fan,
    Within round (finite (1 / 4)) (run.start.entries fan).started (run.start.entries fan).now
  times : ∀ now ∈ run.times, Before round (finite 15) run.start.manualStarted now

/-- The readings the limits are measured from are valid, and none is measured that is before
them. -/
structure ManualRun.ClockValid (run : ManualRun) : Prop where
  started : run.start.manualStarted.isfinite = true ∧ le (finite 0) run.start.manualStarted = true
  windows : ∀ fan, (run.start.entries fan).started.isfinite = true ∧
    le (finite 0) (run.start.entries fan).started = true ∧
    le (run.start.entries fan).started (run.start.entries fan).now = true
  times : ∀ now ∈ run.times, le run.start.manualStarted now = true

lemma ManualRun.inTime_iff {run : ManualRun} (hround : Rounds backend.round)
    (h : run.Accepted backend plan baselineRpm) : run.InTime backend.round ↔ run.ClockValid := by
  constructor
  · intro hintime
    have hfirst := (hintime.times run.checked List.mem_cons_self).span
    exact ⟨⟨hfirst.startedFinite, hfirst.startedNonneg⟩, fun fan => ⟨(hintime.windows fan).span.1,
      (hintime.windows fan).span.2, (hintime.windows fan).span.ordered⟩,
      fun now hnow => (hintime.times now hnow).span.ordered⟩
  · intro hvalid
    refine ⟨fun fan => ?_, fun now hnow => ?_⟩
    · obtain ⟨hfinite, hnonneg, hordered⟩ := hvalid.windows fan
      exact (within_iff hround rfl hfinite hnonneg (FanEntry.not_late (h.window fan))).mpr hordered
    · exact (before_iff hround rfl hvalid.started.1 hvalid.started.2
        (not_expired (h.inTime now hnow))).mpr (hvalid.times now hnow)

/-- The reading the check's limit is checked with is valid, and the limit is kept. -/
structure CheckRun.InTime (round : ℚ → Double) (run : CheckRun) : Prop where
  span : Span run.started run.now
  limited : lt (sub round run.now run.started) (finite 5) = true

lemma CheckRun.inTime_iff {run : CheckRun} (h : run.Accepted backend) :
    run.InTime backend.round ↔ le run.started run.now = true := by
  have hspan := span_iff h.startedFinite h.startedNonneg h.inTime
  exact ⟨fun hintime => hspan.mp hintime.span, fun hle => ⟨hspan.mpr hle, h.inTime⟩⟩

/-- `followsPlan` with a clock that fails the `failing`-th time it is read. -/
def failsOnce (rpm : ℚ) (failing : ℕ) (env : ℕ × ℕ) : (c : TrialCall) → c.Answer × (ℕ × ℕ)
  | .monotonicSeconds =>
    (if env.2 = failing then finite (-1) else (followsPlan rpm env.1 .monotonicSeconds).1,
      (env.1, env.2 + 1))
  | c => ((followsPlan rpm env.1 c).1, ((followsPlan rpm env.1 c).2, env.2))

abbrev lateRun : List TrialEvent × (TrialRunStatus × Bool) × (ℕ × ℕ) :=
  play (failsOnce 1600 2)
    ((exact.trialExecuteDirect ⟨fun _ => finite 1600⟩ fun _ => finite 1200).run false) (0, 0)

/-- `brieflyUnlocked` with a clock that fails the second time it is read. -/
def brieflyUntimed (env : ℕ × ℕ) : (c : TrialCall) → c.Answer × (ℕ × ℕ)
  | .monotonicSeconds => (if env.2 = 1 then finite (-1) else finite env.2, (env.1, env.2 + 1))
  | c => brieflyUnlocked env c

abbrev untimedRun : List TrialEvent × TrialRunStatus × (ℕ × ℕ) :=
  play brieflyUntimed exact.trialCheckFtst (0, 0)

end TrialBackend
end Ventilator
