import Ventilator.TrialActions

/-! Verified baseline windows in the trace of a trial: what the read-only observer's answer
`stable` and the counter of the loop after the release each prove about the trace. -/
namespace Ventilator
open Double CallTree

abbrev TrialEvent := Event TrialCall.Answer

namespace TrialCall

def isWrite : TrialCall → Bool
  | writeMode _ _ => true
  | writeTarget _ _ => true
  | writeFtst _ => true
  | _ => false

/-- The calls a window is made of: reads and clock readings. -/
def isSampling : TrialCall → Bool
  | readObservation _ => true
  | monotonicSeconds => true
  | _ => false

end TrialCall

/-- One timed read: the clock before it, the observation and the clock after it. -/
structure WindowSample where
  started : Double
  observation : TrialObservation
  finished : Double

namespace WindowSample

def events (sample : WindowSample) : List TrialEvent :=
  [⟨.monotonicSeconds, sample.started⟩, ⟨.readObservation false, some sample.observation⟩,
    ⟨.monotonicSeconds, sample.finished⟩]

end WindowSample

def sampling (trace : List TrialEvent) : List TrialEvent := trace.filter fun e => e.1.isSampling

def NoWrite (trace : List TrialEvent) : Prop := ∀ e ∈ trace, e.1.isWrite = false

/-- A part of a trace without a write whose reads are exactly `samples`: all successful
baseline reads of at most 5 seconds, completed 0.9 to 5 seconds after one another. -/
structure QuietWindow (round : ℚ → Double) (window : List TrialEvent)
    (samples : List WindowSample) : Prop where
  noWrite : NoWrite window
  reads : sampling window = samples.flatMap WindowSample.events
  baseline : ∀ s ∈ samples, trialObservationIsBaseline s.observation = true
  clock : ∀ s ∈ samples, s.started.isfinite = true ∧ s.finished.isfinite = true ∧
    le s.started s.finished = true
  duration : ∀ s ∈ samples, le (sub round s.finished s.started) (finite 5) = true
  gaps : samples.IsChain fun a b =>
    le a.finished b.started = true ∧ le sampleMinSeconds (sub round b.finished a.finished) = true ∧
      le (sub round b.finished a.finished) (finite 5) = true

/-- A quiet window whose last read completed at least 60 seconds after its first. -/
structure VerifiedWindow (round : ℚ → Double) (window : List TrialEvent)
    (samples : List WindowSample) : Prop extends QuietWindow round window samples where
  span : ∃ first last, samples.head? = some first ∧ samples.getLast? = some last ∧
    le (finite 60) (sub round last.finished first.finished) = true

/-- The trace ends with a verified window whose number of samples satisfies `count`. -/
def EndsVerified (round : ℚ → Double) (count : ℕ → Prop) (trace : List TrialEvent) : Prop :=
  ∃ before window samples, trace = before ++ window ∧ count samples.length ∧
    VerifiedWindow round window samples

lemma EndsVerified.append_left {round : ℚ → Double} {count : ℕ → Prop} {trace : List TrialEvent}
    (before : List TrialEvent) (h : EndsVerified round count trace) :
    EndsVerified round count (before ++ trace) := by
  obtain ⟨earlier, window, samples, rfl, hcount, hwindow⟩ := h
  exact ⟨before ++ earlier, window, samples, (List.append_assoc _ _ _).symm, hcount, hwindow⟩

lemma EndsVerified.mono {round : ℚ → Double} {count count' : ℕ → Prop}
    {trace : List TrialEvent} (himp : ∀ n, count n → count' n)
    (h : EndsVerified round count trace) : EndsVerified round count' trace := by
  obtain ⟨before, window, samples, rfl, hcount, hwindow⟩ := h
  exact ⟨before, window, samples, rfl, himp _ hcount, hwindow⟩

lemma sampling_append (xs ys : List TrialEvent) :
    sampling (xs ++ ys) = sampling xs ++ sampling ys := List.filter_append ..

lemma NoWrite.append {xs ys : List TrialEvent} (hx : NoWrite xs) (hy : NoWrite ys) :
    NoWrite (xs ++ ys) := by
  intro e he
  rcases List.mem_append.mp he with he | he
  · exact hx e he
  · exact hy e he

lemma readTimingValid_iff {round : ℚ → Double} {started finished : Double}
    (h : readTimingValid round started finished = true) :
    started.isfinite = true ∧ finished.isfinite = true ∧ le started finished = true ∧
      le (sub round finished started) (finite 5) = true := by
  simp only [readTimingValid, Bool.and_eq_true] at h
  exact ⟨h.1.1.1.1, h.1.1.2, h.1.2, h.2⟩

lemma sampleTimingValid_iff {round : ℚ → Double} {previous started finished : Double}
    (h : sampleTimingValid round previous started finished = true) :
    readTimingValid round started finished = true ∧ le previous started = true ∧
      le sampleMinSeconds (sub round finished previous) = true ∧
      le (sub round finished previous) (finite 5) = true := by
  simp only [sampleTimingValid, Bool.and_eq_true] at h
  exact ⟨h.1.1.1, h.1.1.2, h.1.2, h.2⟩

lemma QuietWindow.nil (round : ℚ → Double) : QuietWindow round [] [] := by
  constructor <;> simp [NoWrite, sampling]

/-- A timed baseline read, with calls around it that neither read nor write. -/
lemma QuietWindow.single {round : ℚ → Double} {window : List TrialEvent} {s : WindowSample}
    (hwrite : NoWrite window) (hreads : sampling window = s.events)
    (hbaseline : trialObservationIsBaseline s.observation = true)
    (htiming : readTimingValid round s.started s.finished = true) :
    QuietWindow round window [s] := by
  obtain ⟨hstarted, hfinished, hle, hduration⟩ := readTimingValid_iff htiming
  constructor
  · exact hwrite
  · simpa using hreads
  · simpa using hbaseline
  · simpa using ⟨hstarted, hfinished, hle⟩
  · simpa using hduration
  · exact List.isChain_singleton s

/-- Two windows join when the second's first read is timed from the first's last. -/
lemma QuietWindow.append {round : ℚ → Double} {xs ys : List TrialEvent}
    {before after : List WindowSample} (hx : QuietWindow round xs before)
    (hy : QuietWindow round ys after)
    (hjoin : ∀ last ∈ before.getLast?, ∀ first ∈ after.head?,
      sampleTimingValid round last.finished first.started first.finished = true) :
    QuietWindow round (xs ++ ys) (before ++ after) := by
  constructor
  · exact hx.noWrite.append hy.noWrite
  · rw [sampling_append, hx.reads, hy.reads, List.flatMap_append]
  · exact List.forall_mem_append.mpr ⟨hx.baseline, hy.baseline⟩
  · exact List.forall_mem_append.mpr ⟨hx.clock, hy.clock⟩
  · exact List.forall_mem_append.mpr ⟨hx.duration, hy.duration⟩
  · refine List.isChain_append.mpr ⟨hx.gaps, hy.gaps, fun last hlast first hfirst => ?_⟩
    exact (sampleTimingValid_iff (hjoin last hlast first hfirst)).2

/-- The first and the last of `samples` completed at these times. -/
def Spans (samples : List WindowSample) (started previous : Double) : Prop :=
  (∀ first ∈ samples.head?, first.finished = started) ∧
    ∀ last ∈ samples.getLast?, last.finished = previous

lemma ends_of_length_pos {samples : List WindowSample} (h : 0 < samples.length) :
    ∃ first, samples.head? = some first ∧ ∃ last, samples.getLast? = some last := by
  have hne : samples ≠ [] := List.ne_nil_of_length_pos h
  exact ⟨samples.head hne, List.head?_eq_some_head hne, samples.getLast hne,
    List.getLast?_eq_some_getLast hne⟩

/-- A longer window, whose variables are updated as both loops update theirs. -/
lemma QuietWindow.concat {round : ℚ → Double} {xs ys : List TrialEvent}
    {samples : List WindowSample} {s : WindowSample} {started previous : Double}
    (h : QuietWindow round xs samples) (hspans : Spans samples started previous)
    (hwrite : NoWrite ys) (hreads : sampling ys = s.events)
    (hbaseline : trialObservationIsBaseline s.observation = true)
    (htiming : (if samples.length = 0 then readTimingValid round s.started s.finished
      else sampleTimingValid round previous s.started s.finished) = true) :
    QuietWindow round (xs ++ ys) (samples ++ [s]) ∧
      Spans (samples ++ [s]) (if samples.length = 0 then s.finished else started) s.finished := by
  cases samples with
  | nil =>
    have hsingle := QuietWindow.single hwrite hreads hbaseline htiming
    refine ⟨h.append hsingle (by simp), ?_⟩
    simp [Spans]
  | cons first samples =>
    rw [if_neg (by simp)] at htiming ⊢
    have hread := (sampleTimingValid_iff htiming).1
    refine ⟨h.append (.single hwrite hreads hbaseline hread) fun last hlast first hfirst => ?_, ?_⟩
    · rw [List.head?_cons, Option.mem_some_iff] at hfirst
      subst hfirst
      rwa [hspans.2 last hlast]
    · refine ⟨fun x hx => hspans.1 x hx, fun x hx => ?_⟩
      rw [List.getLast?_concat, Option.mem_some_iff] at hx
      rw [hx]

/-- The observer's events a window is made of, as the backend sees them. -/
def observed (outer : List (Event ObserverCall.Answer)) : List TrialEvent :=
  outer.filterMap fun
    | ⟨.monotonicSeconds, time⟩ => some ⟨.monotonicSeconds, time⟩
    | ⟨.readObservation, observation⟩ => some ⟨.readObservation false, observation⟩
    | _ => none

lemma observed_append (xs ys : List (Event ObserverCall.Answer)) :
    observed (xs ++ ys) = observed xs ++ observed ys := List.filterMap_append ..

/-- The observer's calls for one accepted sample, up to the decision about the next. -/
def WindowSample.observerEvents (s : WindowSample) (second : ℕ) :
    List (Event ObserverCall.Answer) :=
  [⟨.shouldStop, false⟩, ⟨.monotonicSeconds, s.started⟩,
    ⟨.readObservation, some s.observation⟩, ⟨.monotonicSeconds, s.finished⟩,
    ⟨.shouldStop, false⟩, ⟨.recordObservation second s.observation, ()⟩, ⟨.shouldStop, false⟩]

/-- A round that goes on, or returns `stable`, accepted one timed baseline read. -/
lemma observeSecond_accepts {round : ℚ → Double} {lastSecond second : ℕ} {vars : WindowVars}
    {outer : List (Event ObserverCall.Answer)} {out : TrialBaselineResult ⊕ WindowVars}
    (h : Ends (observeSecond round lastSecond second vars) outer out)
    (haccepts : ∀ r, out = .inl r → r.status = .stable) :
    ∃ (s : WindowSample) (rest : List (Event ObserverCall.Answer)),
      outer = s.observerEvents second ++ rest ∧
      (if second = 0 then readTimingValid round s.started s.finished
        else sampleTimingValid round vars.previousSample s.started s.finished) = true ∧
      trialObservationIsBaseline s.observation = true ∧
      ((second = lastSecond ∧ rest = [] ∧ ∃ r, out = .inl r ∧ le (finite lastSecond)
          (sub round s.finished (if second = 0 then s.finished else vars.windowStarted)) = true) ∨
        second ≠ lastSecond ∧ rest = [⟨.waitMilliseconds 1000, true⟩] ∧
          out = .inr ⟨if second = 0 then s.finished else vars.windowStarted, s.finished,
            vars.samples + 1⟩) := by
  have hne : ∀ status second samples, status ≠ .stable → out ≠ .inl ⟨status, second, samples⟩ :=
    fun status second samples hstatus heq => hstatus (haccepts _ heq)
  rw [observeSecond] at h
  obtain ⟨stopBefore, trace₁, rfl, g₁⟩ := ends_perform_bind.mp h
  obtain ⟨hstopBefore, h₁⟩ := g₁.past_return (hne _ _ _ nofun)
  obtain ⟨started, trace₂, rfl, g₂⟩ := ends_perform_bind.mp h₁
  obtain ⟨-, h₂⟩ := g₂.past_return (hne _ _ _ nofun)
  obtain ⟨answer, trace₃, rfl, g₃⟩ := ends_perform_bind.mp h₂
  cases answer with
  | none => exact absurd (ends_done.mp g₃).2 (hne _ _ _ nofun)
  | some observation =>
    obtain ⟨finished, trace₄, rfl, g₄⟩ := ends_perform_bind.mp g₃
    obtain ⟨htiming, h₄⟩ := g₄.past_return (hne _ _ _ nofun)
    obtain ⟨stopAfter, trace₅, rfl, g₅⟩ := ends_perform_bind.mp h₄
    obtain ⟨hstopAfter, h₅⟩ := g₅.past_return (hne _ _ _ nofun)
    obtain ⟨_, trace₆, rfl, g₆⟩ := ends_perform_bind.mp h₅
    obtain ⟨hbaseline, h₆⟩ := g₆.past_return (hne _ _ _ nofun)
    obtain ⟨stopLast, trace₇, rfl, g₇⟩ := ends_perform_bind.mp h₆
    obtain ⟨hstopLast, h₇⟩ := g₇.past_return (hne _ _ _ nofun)
    rw [Bool.not_eq_true] at hstopBefore hstopAfter hstopLast
    subst hstopBefore hstopAfter hstopLast
    refine ⟨⟨started, observation, finished⟩, trace₇, rfl, by simpa using htiming,
      by simpa using hbaseline, ?_⟩
    split at h₇
    · rename_i hlast
      obtain ⟨rfl, rfl⟩ := ends_done.mp h₇
      refine .inl ⟨hlast, rfl, _, rfl, ?_⟩
      by_contra hspan
      exact absurd (haccepts _ rfl) (by simp [hspan])
    · rename_i hlast
      obtain ⟨waited, trace₈, rfl, g₈⟩ := ends_perform_bind.mp h₇
      cases waited with
      | false =>
        obtain ⟨stop, trace₉, rfl, g₉⟩ := ends_perform_bind.mp g₈
        refine absurd (ends_done.mp g₉).2 (hne _ _ _ ?_)
        cases stop <;> nofun
      | true =>
        obtain ⟨rfl, rfl⟩ := ends_done.mp g₈
        exact .inr ⟨hlast, rfl, rfl⟩

lemma observerEvents_window (s : WindowSample) (second : ℕ) :
    NoWrite (observed (s.observerEvents second)) ∧
      sampling (observed (s.observerEvents second)) = s.events := by
  constructor
  · intro e he
    simp only [observed, WindowSample.observerEvents, List.filterMap_cons, List.filterMap_nil,
      List.mem_cons, List.not_mem_nil, or_false] at he
    rcases he with rfl | rfl | rfl <;> rfl
  · rfl

/-- The window the loop has seen when it begins a second. -/
def SecondInvariant (round : ℚ → Double) (second : ℕ) (vars : WindowVars)
    (outer : List (Event ObserverCall.Answer)) : Prop :=
  ∃ samples : List WindowSample, samples.length = second ∧
    QuietWindow round (observed outer) samples ∧
    Spans samples vars.windowStarted vars.previousSample

lemma SecondInvariant.accept {round : ℚ → Double} {second : ℕ} {vars : WindowVars}
    {outer : List (Event ObserverCall.Answer)} {s : WindowSample}
    (h : SecondInvariant round second vars outer)
    (htiming : (if second = 0 then readTimingValid round s.started s.finished
      else sampleTimingValid round vars.previousSample s.started s.finished) = true)
    (hbaseline : trialObservationIsBaseline s.observation = true) :
    ∃ samples : List WindowSample, samples.length = second + 1 ∧
      QuietWindow round (observed (outer ++ s.observerEvents second)) samples ∧
      Spans samples (if second = 0 then s.finished else vars.windowStarted) s.finished := by
  obtain ⟨samples, rfl, hquiet, hspans⟩ := h
  obtain ⟨hwrite, hreads⟩ := observerEvents_window s samples.length
  refine ⟨samples ++ [s], by simp, ?_⟩
  rw [observed_append]
  exact hquiet.concat hspans hwrite hreads hbaseline htiming

lemma SecondInvariant.round {round : ℚ → Double} {lastSecond : ℕ} (index : ℕ) (vars : WindowVars)
    (before trace : List (Event ObserverCall.Answer)) (vars' : WindowVars)
    (h : SecondInvariant round index vars before)
    (hbody : Ends (observeSecond round lastSecond index vars) trace (.inr vars')) :
    SecondInvariant round (index + 1) vars' (before ++ trace) := by
  obtain ⟨s, rest, rfl, htiming, hbaseline, ⟨-, -, r, hout, -⟩ | ⟨-, rfl, hvars⟩⟩ :=
    observeSecond_accepts hbody nofun
  · exact absurd hout nofun
  · obtain ⟨samples, hlength, hquiet, hspans⟩ := h.accept htiming hbaseline
    cases hvars
    refine ⟨samples, hlength, ?_, hspans⟩
    rw [← List.append_assoc, observed_append]
    simpa [observed] using hquiet

/-- The observer answers `stable` only after a full window of baseline reads. -/
lemma observe_stable {observer : TrialBaselineObserver} {lastSecond : ℕ}
    {outer : List (Event ObserverCall.Answer)} {r : TrialBaselineResult}
    (h : Ends (trialObserveBaselineWindow observer lastSecond) outer r)
    (hstable : r.status = .stable) :
    ∃ samples first last, samples.length = lastSecond + 1 ∧
      QuietWindow observer.round (observed outer) samples ∧ samples.head? = some first ∧
      samples.getLast? = some last ∧
      le (finite lastSecond) (sub observer.round last.finished first.finished) = true := by
  have hne : ∀ second samples, r ≠ ⟨.invalid, second, samples⟩ := by
    rintro second samples rfl
    exact absurd hstable nofun
  obtain ⟨-, hloop⟩ := h.past_return (hne _ _)
  have hinit : SecondInvariant observer.round 0 ⟨finite 0, finite 0, 0⟩ [] :=
    ⟨[], rfl, .nil _, by simp [Spans]⟩
  obtain ⟨second, vars, middle, last, rfl, hI, ⟨-, hlast⟩ | ⟨-, hlast⟩⟩ :=
    hloop.forLoop SecondInvariant.round hinit
  · obtain ⟨s, rest, rfl, htiming, hbaseline, ⟨rfl, rfl, r', hr', hspan⟩ | ⟨-, -, hout⟩⟩ :=
      observeSecond_accepts hlast (by rintro _ ⟨⟩; exact hstable)
    · obtain ⟨samples, hlength, hquiet, hspans⟩ := hI.accept htiming hbaseline
      obtain ⟨first, hfirst, final, hfinal⟩ := ends_of_length_pos (by omega : 0 < samples.length)
      refine ⟨samples, first, final, hlength, by simpa using hquiet, hfirst, hfinal, ?_⟩
      rw [hspans.1 first hfirst, hspans.2 final hfinal]
      exact hspan
    · exact absurd hout nofun
  · exact absurd (ends_done.mp hlast).2 (hne _ _)

namespace TrialBackend

lemma gives_record {backend : TrialBackend} {second : ℕ} {o : TrialObservation} {s s' : Bool}
    {trace : List TrialEvent} {a : Unit} (h : Gives (backend.record second o) s trace a s') :
    s' = s ∧ (trace = [] ∨ trace = [⟨.recordObservation second o, ()⟩]) := by
  unfold record at h
  split at h
  · obtain ⟨rfl, rfl⟩ := gives_ask.mp h
    exact ⟨rfl, .inr rfl⟩
  · obtain ⟨rfl, -, rfl⟩ := gives_pure.mp h
    exact ⟨rfl, .inl rfl⟩

lemma gives_noteFanState {o : TrialObservation} {s s' : Bool} {trace : List TrialEvent} {a : Unit}
    (h : Gives (noteFanState o) s trace a s') :
    trace = [] ∧ s' = (s || !systemModesAndZeroTargets o) := gives_modify.mp h

/-- Recording neither reads nor writes. -/
lemma record_silent {backend : TrialBackend} {second : ℕ} {o : TrialObservation} {s s' : Bool}
    {trace : List TrialEvent} {a : Unit} (h : Gives (backend.record second o) s trace a s') :
    sampling trace = [] ∧ NoWrite trace := by
  obtain ⟨-, rfl | rfl⟩ := gives_record h
  · exact ⟨rfl, by simp [NoWrite]⟩
  · exact ⟨rfl, by simp [NoWrite, TrialCall.isWrite]⟩

end TrialBackend

/-- The backend sees the observer's reads and clock readings, and no write. -/
lemma handled_observed {backend : TrialBackend} {s s' : Bool}
    {outer : List (Event ObserverCall.Answer)} {inner : List TrialEvent}
    (h : Handled backend.observerHandler s outer inner s') :
    sampling inner = observed outer ∧ NoWrite inner := by
  induction h with
  | nil s => exact ⟨rfl, by simp [NoWrite]⟩
  | @cons s s₁ s' c answer outer xs ys hcall hrest ih =>
    have hone : sampling xs = observed [⟨c, answer⟩] ∧ NoWrite xs := by
      cases c with
      | shouldStop =>
        obtain ⟨rfl, -⟩ := gives_ask.mp hcall
        exact ⟨rfl, by simp [NoWrite, TrialCall.isWrite]⟩
      | monotonicSeconds =>
        obtain ⟨rfl, -⟩ := gives_ask.mp hcall
        exact ⟨rfl, by simp [NoWrite, TrialCall.isWrite]⟩
      | readObservation =>
        obtain ⟨read, rest, rfl, hread⟩ := gives_ask_bind.mp hcall
        cases read with
        | none =>
          obtain ⟨rfl, rfl, -⟩ := gives_pure.mp hread
          exact ⟨rfl, by simp [NoWrite, TrialCall.isWrite]⟩
        | some current =>
          obtain ⟨xs, ys, a, s₂, rfl, hnote, hdone⟩ := gives_bind.mp hread
          obtain ⟨rfl, -⟩ := TrialBackend.gives_noteFanState hnote
          obtain ⟨rfl, rfl, -⟩ := gives_pure.mp hdone
          exact ⟨rfl, by simp [NoWrite, TrialCall.isWrite]⟩
      | recordObservation second observation => exact TrialBackend.record_silent hcall
      | waitMilliseconds milliseconds =>
        obtain ⟨rfl, -⟩ := gives_ask.mp hcall
        exact ⟨rfl, by simp [NoWrite, TrialCall.isWrite]⟩
    refine ⟨?_, hone.2.append ih.2⟩
    rw [sampling_append, hone.1, ih.1, ← observed_append]
    rfl

namespace TrialBackend

/-- The observation after a recovery answers `stable` only after exactly 61 reads. -/
theorem observeAfterFtst_stable {backend : TrialBackend} {s s' : Bool} {trace : List TrialEvent}
    {r : TrialBaselineResult} (h : Gives backend.trialObserveAfterFtst s trace r s')
    (hstable : r.status = .stable) : EndsVerified backend.round (· = 61) trace := by
  obtain ⟨outer, hends, hhandled⟩ := gives_handle h
  obtain ⟨samples, first, last, hlength, hquiet, hfirst, hlast, hspan⟩ :=
    observe_stable hends hstable
  obtain ⟨hsampling, hwrite⟩ := handled_observed hhandled
  refine ⟨[], trace, samples, rfl, hlength, ⟨hwrite, ?_, hquiet.baseline, hquiet.clock,
    hquiet.duration, hquiet.gaps⟩, first, last, hfirst, hlast, hspan⟩
  have hidem : sampling (sampling trace) = sampling trace := by simp [sampling]
  rw [← hidem, hsampling]
  exact hquiet.reads

end TrialBackend
end Ventilator
