import Ventilator.RestoreSystem
import Ventilator.TrialRelease

/-! The manual phase of `trial_execute_direct`, call by call: what it does while nothing fails, and
every way in which it can fail. -/
namespace Ventilator
open Double CallTree

namespace TrialBackend
open TrialM

variable {backend : TrialBackend} {plan : TrialPlan} {baselineRpm : Fin 2 → Double}

def clockRead (seconds : Double) : TrialEvent := ⟨.monotonicSeconds, seconds⟩

def stopAnswer (stop : Bool) : TrialEvent := ⟨.shouldStop, stop⟩

def safetyRead (answer : Option TrialObservation) : TrialEvent := ⟨.readObservation true, answer⟩

def secondWaited (waited : Bool) : TrialEvent := ⟨.waitMilliseconds 1000, waited⟩

def recordEvents (backend : TrialBackend) (second : ℕ) (o : TrialObservation) : List TrialEvent :=
  if backend.hasRecordObservation then [⟨.recordObservation second o, ()⟩] else []

lemma gives_recorded {second : ℕ} {o : TrialObservation} {s s' : Bool} {trace : List TrialEvent}
    {a : Unit} (h : Gives (backend.record second o) s trace a s') :
    trace = backend.recordEvents second o ∧ s' = s := by
  unfold record at h
  unfold recordEvents
  split at h
  · rename_i hrecord
    rw [if_pos hrecord]
    exact gives_ask.mp h
  · rename_i hrecord
    rw [if_neg hrecord]
    obtain ⟨rfl, -, rfl⟩ := gives_pure.mp h
    exact ⟨rfl, rfl⟩

/-! One fan's manual mode and target. -/

/-- The two clock readings around a fan's target write. -/
structure FanEntry where
  started : Double
  now : Double
  deriving DecidableEq

/-- The calls of a fan's entry up to its target write, answered as asked for. -/
def entered (fan : Fin 2) (started : Double) : List TrialEvent :=
  [stopAnswer false, modeWrite fan 1 true, clockRead started]

def FanEntry.events (plan : TrialPlan) (fan : Fin 2) (entry : FanEntry) : List TrialEvent :=
  entered fan entry.started ++ [targetWrite fan (plan.targetRpm fan) true, clockRead entry.now]

/-- The code's check of the target window. -/
def FanEntry.inWindow (round : ℚ → Double) (entry : FanEntry) : Bool :=
  !lt (finite (1 / 4)) (sub round entry.now entry.started)

/-- The ways an entry fails; the trace ends with the failure. -/
inductive EntryFails (round : ℚ → Double) (plan : TrialPlan) (fan : Fin 2) :
    List TrialEvent → Prop
  | stopped : EntryFails round plan fan [stopAnswer true]
  | modeRefused : EntryFails round plan fan [stopAnswer false, modeWrite fan 1 false]
  | targetRefused (started : Double) : EntryFails round plan fan
      (entered fan started ++ [targetWrite fan (plan.targetRpm fan) false])
  | late (entry : FanEntry) (h : entry.inWindow round = false) :
      EntryFails round plan fan (entry.events plan fan)

lemma enterManual_runs {fan : Fin 2} {s s' a : Bool} {trace : List TrialEvent}
    (h : Gives (backend.enterManual plan fan) s trace a s') :
    s' = s ∧ (a = true ∧ (∃ entry : FanEntry, trace = entry.events plan fan ∧
        entry.inWindow backend.round = true) ∨
      a = false ∧ EntryFails backend.round plan fan trace) := by
  obtain ⟨stop, rest₁, rfl, h₁⟩ := gives_ask_bind.mp h
  cases stop with
  | true =>
    obtain ⟨rfl, rfl, rfl⟩ := gives_pure.mp h₁
    exact ⟨rfl, .inr ⟨rfl, .stopped⟩⟩
  | false =>
  obtain ⟨accepted, rest₂, rfl, h₂⟩ := gives_ask_bind.mp h₁
  cases accepted with
  | false =>
    obtain ⟨rfl, rfl, rfl⟩ := gives_pure.mp h₂
    exact ⟨rfl, .inr ⟨rfl, .modeRefused⟩⟩
  | true =>
  obtain ⟨started, rest₃, rfl, h₃⟩ := gives_ask_bind.mp h₂
  obtain ⟨accepted, rest₄, rfl, h₄⟩ := gives_ask_bind.mp h₃
  cases accepted with
  | false =>
    obtain ⟨rfl, rfl, rfl⟩ := gives_pure.mp h₄
    exact ⟨rfl, .inr ⟨rfl, .targetRefused started⟩⟩
  | true =>
  obtain ⟨now, rest₅, rfl, h₅⟩ := gives_ask_bind.mp h₄
  obtain ⟨rfl, rfl, rfl⟩ := gives_pure.mp h₅
  let entry : FanEntry := ⟨started, now⟩
  refine ⟨rfl, ?_⟩
  cases hwindow : entry.inWindow backend.round with
  | true => exact .inl ⟨hwindow, entry, rfl, hwindow⟩
  | false => exact .inr ⟨hwindow, .late entry hwindow⟩

/-! One manual second. -/

/-- The two clock readings of a second and the observation between them. -/
structure ManualSecond where
  checked : Double
  observation : TrialObservation
  finished : Double

/-- The code's check of the manual phase's duration. -/
def inManualTime (round : ℚ → Double) (manualStarted now : Double) : Bool :=
  !le (finite 15) (sub round now manualStarted)

/-- The calls of a second up to its wait, answered as asked for. -/
def awaited (checked : Double) : List TrialEvent :=
  [stopAnswer false, clockRead checked, secondWaited true]

def ManualSecond.events (second : ManualSecond) : List TrialEvent :=
  awaited second.checked ++
    [stopAnswer false, safetyRead (some second.observation), clockRead second.finished]

structure ManualSecond.Accepted (round : ℚ → Double) (plan : TrialPlan) (manualStarted : Double)
    (second : ManualSecond) : Prop where
  checked : inManualTime round manualStarted second.checked = true
  matching : manualStateMatches second.observation plan true round = true
  finished : inManualTime round manualStarted second.finished = true

/-- The ways a second fails; the trace ends with the failure. -/
inductive SecondFails (round : ℚ → Double) (plan : TrialPlan) (manualStarted : Double) :
    List TrialEvent → Prop
  | stopped : SecondFails round plan manualStarted [stopAnswer true]
  | expired (now : Double) (h : inManualTime round manualStarted now = false) :
      SecondFails round plan manualStarted [stopAnswer false, clockRead now]
  | unwaited (checked : Double) : SecondFails round plan manualStarted
      [stopAnswer false, clockRead checked, secondWaited false]
  | stoppedAfter (checked : Double) : SecondFails round plan manualStarted
      (awaited checked ++ [stopAnswer true])
  | unmatched (checked : Double) (answer : Option TrialObservation)
      (h : (answer.any fun o => manualStateMatches o plan true round) = false) :
      SecondFails round plan manualStarted
        (awaited checked ++ [stopAnswer false, safetyRead answer])
  | late (second : ManualSecond)
      (h : inManualTime round manualStarted second.finished = false) :
      SecondFails round plan manualStarted second.events

/-- One round of the manual seconds. -/
def manualRound (backend : TrialBackend) (plan : TrialPlan) (baselineRpm : Fin 2 → Double)
    (manualStarted : Double) (index : ℕ) : TrialM (Bool ⊕ Unit) := do
  let second := index + 1
  if ← shouldStop then pure (.inl false)
  else if ← backend.manualExpired manualStarted then pure (.inl false)
  else if !(← waitMilliseconds 1000) then pure (.inl false)
  else if ← shouldStop then pure (.inl false)
  else
    match ← readObservation true with
    | none => pure (.inl false)
    | some observation =>
      if !manualStateMatches observation plan true backend.round then pure (.inl false)
      else if ← backend.manualExpired manualStarted then pure (.inl false)
      else
        backend.record second observation
        if second = 5 then pure (.inl (backend.reachedTargets plan baselineRpm observation))
        else pure (.inr ())

lemma gives_manualExpired {manualStarted : Double} {s s' a : Bool} {trace : List TrialEvent}
    (h : Gives (backend.manualExpired manualStarted) s trace a s') :
    s' = s ∧ ∃ now, trace = [clockRead now] ∧ a = !inManualTime backend.round manualStarted now := by
  obtain ⟨now, rest, rfl, hdone⟩ := gives_ask_bind.mp h
  obtain ⟨rfl, rfl, rfl⟩ := gives_pure.mp hdone
  exact ⟨rfl, now, rfl, (Bool.not_not _).symm⟩

/-- The end of a round, after its last check. -/
lemma manualRound_ends (second : ManualSecond) {index : ℕ} {s s' : Bool}
    {trace : List TrialEvent} {out : Bool ⊕ Unit}
    (h : Gives (do
      backend.record (index + 1) second.observation
      if index + 1 = 5 then
        pure (.inl (backend.reachedTargets plan baselineRpm second.observation))
      else pure (.inr ()) : TrialM (Bool ⊕ Unit)) s trace out s') :
    s' = s ∧ trace = backend.recordEvents (index + 1) second.observation ∧
      out = if index + 1 = 5 then
        .inl (backend.reachedTargets plan baselineRpm second.observation) else .inr () := by
  obtain ⟨recs, rest, _, s₁, rfl, hrecord, hdone⟩ := gives_bind.mp h
  obtain ⟨rfl, rfl⟩ := gives_recorded hrecord
  split at hdone
  · rename_i hlast
    obtain ⟨rfl, rfl, rfl⟩ := gives_pure.mp hdone
    exact ⟨rfl, List.append_nil _, (if_pos hlast).symm⟩
  · rename_i hlast
    obtain ⟨rfl, rfl, rfl⟩ := gives_pure.mp hdone
    exact ⟨rfl, List.append_nil _, (if_neg hlast).symm⟩

lemma manualRound_runs {manualStarted : Double} {index : ℕ} {s s' : Bool}
    {trace : List TrialEvent} {out : Bool ⊕ Unit}
    (h : Gives (backend.manualRound plan baselineRpm manualStarted index) s trace out s') :
    s' = s ∧ (out = .inl false ∧ SecondFails backend.round plan manualStarted trace ∨
      ∃ second : ManualSecond, second.Accepted backend.round plan manualStarted ∧
        trace = second.events ++ backend.recordEvents (index + 1) second.observation ∧
        out = if index + 1 = 5 then
          .inl (backend.reachedTargets plan baselineRpm second.observation) else .inr ()) := by
  obtain ⟨stop, rest₁, rfl, h₁⟩ := gives_ask_bind.mp h
  cases stop with
  | true =>
    obtain ⟨rfl, rfl, rfl⟩ := gives_pure.mp h₁
    exact ⟨rfl, .inl ⟨rfl, .stopped⟩⟩
  | false =>
  obtain ⟨xs, rest₂, expired, s₁, rfl, hexpired, h₂⟩ := gives_bind.mp h₁
  obtain ⟨rfl, checked, rfl, rfl⟩ := gives_manualExpired hexpired
  cases hchecked : inManualTime backend.round manualStarted checked with
  | false =>
    rw [hchecked] at h₂
    obtain ⟨rfl, rfl, rfl⟩ := gives_pure.mp h₂
    exact ⟨rfl, .inl ⟨rfl, .expired checked hchecked⟩⟩
  | true =>
  rw [hchecked] at h₂
  obtain ⟨waited, rest₃, rfl, h₃⟩ := gives_ask_bind.mp h₂
  cases waited with
  | false =>
    obtain ⟨rfl, rfl, rfl⟩ := gives_pure.mp h₃
    exact ⟨rfl, .inl ⟨rfl, .unwaited checked⟩⟩
  | true =>
  obtain ⟨stop, rest₄, rfl, h₄⟩ := gives_ask_bind.mp h₃
  cases stop with
  | true =>
    obtain ⟨rfl, rfl, rfl⟩ := gives_pure.mp h₄
    exact ⟨rfl, .inl ⟨rfl, .stoppedAfter checked⟩⟩
  | false =>
  obtain ⟨answer, rest₅, rfl, h₅⟩ := gives_ask_bind.mp h₄
  cases answer with
  | none =>
    obtain ⟨rfl, rfl, rfl⟩ := gives_pure.mp h₅
    exact ⟨rfl, .inl ⟨rfl, .unmatched checked none rfl⟩⟩
  | some o =>
  cases hmatching : manualStateMatches o plan true backend.round with
  | false =>
    simp only [hmatching, Bool.not_false, if_true] at h₅
    obtain ⟨rfl, rfl, rfl⟩ := gives_pure.mp h₅
    exact ⟨rfl, .inl ⟨rfl, .unmatched checked (some o) hmatching⟩⟩
  | true =>
  simp only [hmatching, Bool.not_true, Bool.false_eq_true, if_false] at h₅
  obtain ⟨xs, rest₆, expired, s₁, rfl, hexpired, h₆⟩ := gives_bind.mp h₅
  obtain ⟨rfl, finished, rfl, rfl⟩ := gives_manualExpired hexpired
  let second : ManualSecond := ⟨checked, o, finished⟩
  cases hfinished : inManualTime backend.round manualStarted finished with
  | false =>
    rw [hfinished] at h₆
    obtain ⟨rfl, rfl, rfl⟩ := gives_pure.mp h₆
    exact ⟨rfl, .inl ⟨rfl, .late second hfinished⟩⟩
  | true =>
  rw [hfinished] at h₆
  obtain ⟨rfl, rfl, hout⟩ := manualRound_ends second h₆
  exact ⟨rfl, .inr ⟨second, ⟨hchecked, hmatching, hfinished⟩, rfl, hout⟩⟩

/-! The manual seconds. -/

def secondsEvents (backend : TrialBackend) (seconds : List ManualSecond) : List TrialEvent :=
  seconds.zipIdx.flatMap fun (second, index) =>
    second.events ++ backend.recordEvents (index + 1) second.observation

lemma secondsEvents_concat (seconds : List ManualSecond) (second : ManualSecond) :
    backend.secondsEvents (seconds ++ [second]) = backend.secondsEvents seconds ++
      (second.events ++ backend.recordEvents (seconds.length + 1) second.observation) := by
  simp [secondsEvents, List.zipIdx_append]

/-- Accepted seconds and their trace. -/
structure Observed (backend : TrialBackend) (plan : TrialPlan) (manualStarted : Double)
    (seconds : List ManualSecond) (trace : List TrialEvent) : Prop where
  accepted : ∀ second ∈ seconds, second.Accepted backend.round plan manualStarted
  trace_eq : trace = backend.secondsEvents seconds

lemma Observed.nil {manualStarted : Double} : backend.Observed plan manualStarted [] [] :=
  ⟨nofun, rfl⟩

lemma Observed.concat {manualStarted : Double} {seconds : List ManualSecond}
    {before trace : List TrialEvent} {second : ManualSecond}
    (h : backend.Observed plan manualStarted seconds before)
    (haccepted : second.Accepted backend.round plan manualStarted)
    (htrace : trace = second.events ++
      backend.recordEvents (seconds.length + 1) second.observation) :
    backend.Observed plan manualStarted (seconds ++ [second]) (before ++ trace) := by
  constructor
  · intro x hx
    rcases List.mem_append.mp hx with hx | hx
    · exact h.accepted x hx
    · obtain rfl := List.mem_singleton.mp hx
      exact haccepted
  · rw [secondsEvents_concat, h.trace_eq, htrace]

/-- The manual seconds end with the fifth, or fail before. -/
inductive ObserveRuns (backend : TrialBackend) (plan : TrialPlan) (baselineRpm : Fin 2 → Double)
    (manualStarted : Double) : List TrialEvent → Bool → Prop
  | ended {seconds : List ManualSecond} {last : ManualSecond} {trace : List TrialEvent}
      (hlength : seconds.length = 4)
      (hobserved : backend.Observed plan manualStarted (seconds ++ [last]) trace) :
      ObserveRuns backend plan baselineRpm manualStarted trace
        (backend.reachedTargets plan baselineRpm last.observation)
  | failed {seconds : List ManualSecond} {trace rest : List TrialEvent}
      (hlength : seconds.length < 5)
      (hobserved : backend.Observed plan manualStarted seconds trace)
      (hfails : SecondFails backend.round plan manualStarted rest) :
      ObserveRuns backend plan baselineRpm manualStarted (trace ++ rest) false

lemma observeManual_runs {manualStarted : Double} {s s' a : Bool} {trace : List TrialEvent}
    (h : Gives (backend.observeManual plan baselineRpm manualStarted) s trace a s') :
    s' = s ∧ backend.ObserveRuns plan baselineRpm manualStarted trace a := by
  have hstep : ∀ index (vars : Unit) s₀ before round vars' s₁,
      (s₀ = s ∧ index ≠ 5 ∧ ∃ seconds : List ManualSecond, seconds.length = index ∧
        backend.Observed plan manualStarted seconds before) →
      Gives (backend.manualRound plan baselineRpm manualStarted index) s₀ round (.inr vars') s₁ →
      s₁ = s ∧ index + 1 ≠ 5 ∧ ∃ seconds : List ManualSecond, seconds.length = index + 1 ∧
        backend.Observed plan manualStarted seconds (before ++ round) := by
    rintro index vars s₀ before round vars' s₁ ⟨rfl, -, seconds, rfl, hobserved⟩ hround
    obtain ⟨rfl, ⟨hout, -⟩ | ⟨second, haccepted, htrace, hout⟩⟩ := manualRound_runs hround
    · cases hout
    split at hout
    · cases hout
    · rename_i hfifth
      exact ⟨rfl, hfifth, seconds ++ [second], List.length_append,
        hobserved.concat haccepted htrace⟩
  have hnone : s = s ∧ 0 ≠ 5 ∧ ∃ seconds : List ManualSecond, seconds.length = 0 ∧
      backend.Observed plan manualStarted seconds [] := ⟨rfl, by decide, [], rfl, .nil⟩
  obtain ⟨index, vars, s₁, middle, last, rfl, ⟨rfl, hnotFifth, seconds, rfl, hobserved⟩, hend⟩ :=
    Gives.forLoop hstep hnone h
  rcases hend with ⟨hlt, hlast⟩ | ⟨hlength, -⟩
  · obtain ⟨rfl, ⟨hout, hfails⟩ | ⟨second, haccepted, htrace, hout⟩⟩ := manualRound_runs hlast
    · obtain rfl := Sum.inl.inj hout
      exact ⟨rfl, .failed hlt hobserved hfails⟩
    · split at hout
      · rename_i hfifth
        obtain rfl := Sum.inl.inj hout
        exact ⟨rfl, .ended (by omega) (hobserved.concat haccepted htrace)⟩
      · cases hout
  · exact absurd hlength hnotFifth

/-! The manual phase. -/

/-- The manual phase up to its first observation. -/
structure ManualStart where
  manualStarted : Double
  entries : Fin 2 → FanEntry

def ManualStart.begun (plan : TrialPlan) (start : ManualStart) : List TrialEvent :=
  clockRead start.manualStarted :: (start.entries 0).events plan 0

def ManualStart.events (plan : TrialPlan) (start : ManualStart) : List TrialEvent :=
  start.begun plan ++ (start.entries 1).events plan 1

def ManualStart.InWindow (round : ℚ → Double) (start : ManualStart) : Prop :=
  ∀ fan, (start.entries fan).inWindow round = true

/-- The first observation and the clock reading after it. -/
def seenEvents (o : TrialObservation) (checked : Double) : List TrialEvent :=
  [safetyRead (some o), clockRead checked]

/-- The manual phase: every way in which it fails, and its end. -/
inductive ControlRuns (backend : TrialBackend) (plan : TrialPlan) (baselineRpm : Fin 2 → Double) :
    List TrialEvent → Bool × Bool → Prop
  | firstFan (manualStarted : Double) {rest : List TrialEvent}
      (hfails : EntryFails backend.round plan 0 rest) :
      ControlRuns backend plan baselineRpm (clockRead manualStarted :: rest) (false, false)
  | secondFan (start : ManualStart) {rest : List TrialEvent}
      (hwindow : (start.entries 0).inWindow backend.round = true)
      (hfails : EntryFails backend.round plan 1 rest) :
      ControlRuns backend plan baselineRpm (start.begun plan ++ rest) (false, false)
  | unmatched (start : ManualStart) (answer : Option TrialObservation)
      (hwindow : start.InWindow backend.round)
      (h : (answer.any fun o => manualStateMatches o plan true backend.round) = false) :
      ControlRuns backend plan baselineRpm (start.events plan ++ [safetyRead answer]) (false, false)
  | late (start : ManualStart) (o : TrialObservation) (checked : Double)
      (hwindow : start.InWindow backend.round)
      (hmatching : manualStateMatches o plan true backend.round = true)
      (h : inManualTime backend.round start.manualStarted checked = false) :
      ControlRuns backend plan baselineRpm (start.events plan ++ seenEvents o checked) (false, true)
  | observed (start : ManualStart) (o : TrialObservation) (checked : Double)
      {rest : List TrialEvent} {controlOk : Bool} (hwindow : start.InWindow backend.round)
      (hmatching : manualStateMatches o plan true backend.round = true)
      (h : inManualTime backend.round start.manualStarted checked = true)
      (hobserve : backend.ObserveRuns plan baselineRpm start.manualStarted rest controlOk) :
      ControlRuns backend plan baselineRpm (start.events plan ++ (seenEvents o checked ++ rest))
        (controlOk, true)

lemma controlManual_runs {s s' : Bool} {trace : List TrialEvent} {control : Bool × Bool}
    (h : Gives (backend.controlManual plan baselineRpm) s trace control s') :
    s' = s ∧ backend.ControlRuns plan baselineRpm trace control := by
  obtain ⟨manualStarted, rest₁, rfl, h₁⟩ := gives_ask_bind.mp h
  obtain ⟨xs, rest₂, first, s₁, rfl, hfirst, h₂⟩ := gives_bind.mp h₁
  obtain ⟨rfl, ⟨rfl, entry₀, rfl, hwindow₀⟩ | ⟨rfl, hfails⟩⟩ := enterManual_runs hfirst
  swap
  · obtain ⟨rfl, rfl, rfl⟩ := gives_pure.mp h₂
    rw [List.append_nil]
    exact ⟨rfl, .firstFan manualStarted hfails⟩
  obtain ⟨xs, rest₃, second, s₂, rfl, hsecond, h₃⟩ := gives_bind.mp h₂
  obtain ⟨rfl, ⟨rfl, entry₁, rfl, hwindow₁⟩ | ⟨rfl, hfails⟩⟩ := enterManual_runs hsecond
  swap
  · obtain ⟨rfl, rfl, rfl⟩ := gives_pure.mp h₃
    rw [List.append_nil]
    exact ⟨rfl, .secondFan ⟨manualStarted, fun _ => entry₀⟩ hwindow₀ hfails⟩
  let start : ManualStart := ⟨manualStarted, fun fan => if fan = 0 then entry₀ else entry₁⟩
  have hwindow : start.InWindow backend.round := by
    intro fan
    match fan with
    | 0 => exact hwindow₀
    | 1 => exact hwindow₁
  have hevents : ∀ rest, clockRead manualStarted ::
      (entry₀.events plan 0 ++ (entry₁.events plan 1 ++ rest)) = start.events plan ++ rest := by
    intro rest
    simp [ManualStart.events, ManualStart.begun, start]
  obtain ⟨answer, rest₄, rfl, h₄⟩ := gives_ask_bind.mp h₃
  cases hmatching : answer.any fun o => manualStateMatches o plan true backend.round with
  | false =>
    simp only [hmatching, Bool.not_false, if_true] at h₄
    obtain ⟨rfl, rfl, rfl⟩ := gives_pure.mp h₄
    exact ⟨rfl, hevents [safetyRead answer] ▸ .unmatched start answer hwindow hmatching⟩
  | true =>
  simp only [hmatching, Bool.not_true, Bool.false_eq_true, if_false] at h₄
  obtain ⟨o, rfl, hmatches⟩ := (Option.any_eq_true _ _).mp hmatching
  obtain ⟨xs, rest₅, expired, s₃, rfl, hexpired, h₅⟩ := gives_bind.mp h₄
  obtain ⟨rfl, checked, rfl, rfl⟩ := gives_manualExpired hexpired
  cases hchecked : inManualTime backend.round manualStarted checked with
  | false =>
    rw [hchecked] at h₅
    obtain ⟨rfl, rfl, rfl⟩ := gives_pure.mp h₅
    exact ⟨rfl, hevents (seenEvents o checked) ▸ .late start o checked hwindow hmatches hchecked⟩
  | true =>
  rw [hchecked] at h₅
  obtain ⟨ys, rest₆, controlOk, s₄, rfl, hobserve, h₆⟩ := gives_bind.mp h₅
  obtain ⟨rfl, rfl, rfl⟩ := gives_pure.mp h₆
  obtain ⟨rfl, hruns⟩ := observeManual_runs hobserve
  rw [List.append_nil]
  exact ⟨rfl, hevents (seenEvents o checked ++ ys) ▸
    .observed start o checked hwindow hmatches hchecked hruns⟩

end TrialBackend
end Ventilator
