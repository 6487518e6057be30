import Ventilator.DirectTrial
import Ventilator.ElapsedTime

/-! What a run of `trial_execute_direct` has done: everything asked for when it reports success,
and otherwise nothing more after its first failure than to restore the system. -/
namespace Ventilator
open Double CallTree

/-- The writes that take control of a fan: mode 1 and a target above 0. -/
def TrialCall.controls : TrialCall → Bool
  | writeMode _ mode => mode == 1
  | writeTarget _ rpm => lt (finite 0) rpm
  | _ => false

namespace TrialBackend
open TrialM

variable {backend : TrialBackend} {plan : TrialPlan} {baselineRpm : Fin 2 → Double}

lemma not_controls_of_restores {c : TrialCall} (h : c.restores = true) : c.controls = false := by
  cases c with
  | writeMode fan mode =>
    obtain rfl := beq_iff_eq.mp h
    rfl
  | writeTarget fan rpm =>
    obtain rfl := beq_iff_eq.mp h
    rfl
  | _ => rfl

def controlsOf (trace : List TrialEvent) : List TrialEvent := trace.filter fun e => e.1.controls

lemma controlsOf_append (xs ys : List TrialEvent) :
    controlsOf (xs ++ ys) = controlsOf xs ++ controlsOf ys := List.filter_append ..

lemma controlsOf_restores {trace : List TrialEvent} (h : ∀ e ∈ trace, e.1.restores = true) :
    controlsOf trace = [] :=
  List.filter_eq_nil_iff.mpr fun e he => by simp [not_controls_of_restores (h e he)]

/-! A manual phase in which nothing fails. -/

structure ManualRun where
  start : ManualStart
  observation : TrialObservation
  checked : Double
  seconds : List ManualSecond

namespace ManualRun

def events (backend : TrialBackend) (plan : TrialPlan) (run : ManualRun) : List TrialEvent :=
  run.start.events plan ++ (seenEvents run.observation run.checked ++
    backend.secondsEvents run.seconds)

/-- The observations of the manual phase, in order. -/
def observations (run : ManualRun) : List TrialObservation :=
  run.observation :: run.seconds.map ManualSecond.observation

/-- The clock readings that are checked against the manual phase's limit. -/
def times (run : ManualRun) : List Double :=
  run.checked :: run.seconds.flatMap fun second => [second.checked, second.finished]

/-- The checks of the code, as it makes them. -/
structure Accepted (backend : TrialBackend) (plan : TrialPlan) (baselineRpm : Fin 2 → Double)
    (run : ManualRun) : Prop where
  window : run.start.InWindow backend.round
  matching : ∀ o ∈ run.observations, manualStateMatches o plan true backend.round = true
  inTime : ∀ now ∈ run.times, inManualTime backend.round run.start.manualStarted now = true
  five : run.seconds.length = 5
  reached : ∃ last, run.observations.getLast? = some last ∧
    backend.reachedTargets plan baselineRpm last = true

end ManualRun

/-- A manual phase that ends well is one in which nothing failed. -/
lemma ControlRuns.accepted {trace : List TrialEvent}
    (h : backend.ControlRuns plan baselineRpm trace (true, true)) :
    ∃ run : ManualRun, trace = run.events backend plan ∧ run.Accepted backend plan baselineRpm := by
  cases h with
  | @observed start o checked rest _ hwindow hmatching hchecked hobserve =>
    generalize hout : true = controlOk at hobserve
    cases hobserve with
    | failed hlength hobserved hfails => cases hout
    | @ended seconds last _ hlength hobserved =>
      let run : ManualRun := ⟨start, o, checked, seconds ++ [last]⟩
      refine ⟨run, by simp [ManualRun.events, run, hobserved.trace_eq], hwindow, ?_, ?_, ?_, ?_⟩
      · intro current hcurrent
        rcases List.mem_cons.mp hcurrent with rfl | hcurrent
        · exact hmatching
        · obtain ⟨second, hsecond, rfl⟩ := List.mem_map.mp hcurrent
          exact (hobserved.accepted second hsecond).matching
      · intro now hnow
        rcases List.mem_cons.mp hnow with rfl | hnow
        · exact hchecked
        · obtain ⟨second, hsecond, hnow⟩ := List.mem_flatMap.mp hnow
          have haccepted := hobserved.accepted second hsecond
          rcases List.mem_cons.mp hnow with rfl | hnow
          · exact haccepted.checked
          · obtain rfl := List.mem_singleton.mp hnow
            exact haccepted.finished
      · simp [run, hlength]
      · refine ⟨last.observation, ?_, hout.symm⟩
        rw [ManualRun.observations, List.map_append, ← List.cons_append]
        exact List.getLast?_concat

/-! The whole trial. -/

def directCallbacks (backend : TrialBackend) : Bool :=
  backend.hasWriteMode && backend.hasWriteTarget && backend.hasReadObservation &&
    backend.hasWaitMilliseconds && backend.hasMonotonicSeconds && backend.hasShouldStop

/-- The end of a direct trial: a restoration, entered first, and nothing that takes control. -/
structure Restoration (backend : TrialBackend) (trace : List TrialEvent) (restored : Bool) :
    Prop where
  entered : ∃ xs ys, trace = xs ++ ys ∧ RestoresSystem xs restored
  restores : ∀ e ∈ trace, e.1.restores = true

lemma restoreCallbacks_of_direct (h : backend.directCallbacks = true) :
    backend.restoreCallbacks = true := by
  simp only [directCallbacks, restoreCallbacks, Bool.and_eq_true] at h ⊢
  exact h.1.1

/-- What follows a successful restoration. -/
def afterRestored (backend : TrialBackend) (status : TrialRunStatus) : TrialM TrialRunStatus := do
  let result ← backend.trialObserveAfterFtst
  if result.status ≠ .stable then
    if !(← backend.restoredAndStable backend.trialRestoreSystem) then pure .restoreFailed
    else pure status
  else pure status

lemma restores_afterRestored (status : TrialRunStatus) : Restores (backend.afterRestored status) :=
  watches_observe.restores.bind fun _ => .ite (fun _ =>
    (restores_restoredAndStable restores_restoreSystem).bind fun _ =>
      .ite (fun _ => .pure _) fun _ => .pure _) fun _ => .pure _

/-- It ends with the status it was given, or with a failed restoration. -/
lemma afterRestored_status {good status : TrialRunStatus} {s s' : Bool} {trace : List TrialEvent}
    (h : Gives (backend.afterRestored good) s trace status s') (hne : status ≠ .restoreFailed) :
    status = good := by
  obtain ⟨xs, ys, result, s₁, rfl, -, h₁⟩ := gives_bind.mp h
  split at h₁
  · obtain ⟨zs, ws, restored, s₂, rfl, -, h₂⟩ := gives_bind.mp h₁
    exact (gives_pure.mp (h₂.past_return hne).2).2.1
  · exact (gives_pure.mp h₁).2.1

lemma executeDirect_runs {s s' : Bool} {trace : List TrialEvent} {status : TrialRunStatus}
    (hcallbacks : backend.directCallbacks = true)
    (h : Gives (backend.trialExecuteDirect plan baselineRpm) s trace status s') :
    ∃ manual recovery control restored, trace = manual ++ recovery ∧
      backend.ControlRuns plan baselineRpm manual control ∧
      backend.Restoration recovery restored ∧
      (status = .succeeded → control = (true, true) ∧ restored = true ∧
        EndsVerified backend.round (· = 61) recovery) := by
  have hset := hcallbacks
  simp only [directCallbacks, Bool.and_eq_true] at hset
  rw [trialExecuteDirect, if_neg (by simp [hset])] at h
  obtain ⟨manual, rest₁, control, s₁, rfl, hcontrol, h₁⟩ := gives_bind.mp h
  obtain ⟨rfl, hruns⟩ := controlManual_runs hcontrol
  obtain ⟨xs, ys, restored, s₂, rfl, hrestore, h₂⟩ := gives_bind.mp h₁
  have hsystem := restoresSystem_of_gives (restoreCallbacks_of_direct hcallbacks) hrestore
  have hxs := restores_restoreSystem.gives hrestore
  refine ⟨manual, xs ++ ys, control, restored, rfl, hruns, ?_⟩
  cases restored with
  | false =>
    obtain ⟨rfl, rfl, -⟩ := gives_pure.mp h₂
    exact ⟨⟨⟨xs, [], rfl, hsystem⟩, by simpa using hxs⟩, nofun⟩
  | true =>
    have hafter : Gives (backend.afterRestored _) _ ys status s' := h₂
    have hys := (restores_afterRestored _).gives hafter
    refine ⟨⟨⟨xs, ys, rfl, hsystem⟩, List.forall_mem_append.mpr ⟨hxs, hys⟩⟩, fun hsucceeded => ?_⟩
    subst hsucceeded
    have hverified := (settles_settled (pure_settles _) hafter).verified nofun
    refine ⟨?_, rfl, hverified.append_left xs⟩
    have hstatus := afterRestored_status hafter nofun
    obtain ⟨controlOk, seen⟩ := control
    cases seen <;> cases controlOk <;> first | rfl | cases hstatus

/-! The clock. -/

def clockReadings (trace : List TrialEvent) : List Double :=
  trace.filterMap fun e => match e with
    | ⟨.monotonicSeconds, seconds⟩ => some seconds
    | _ => none

lemma clockReadings_append (xs ys : List TrialEvent) :
    clockReadings (xs ++ ys) = clockReadings xs ++ clockReadings ys := List.filterMap_append ..

/-- Finite readings that are not negative and never go back. -/
structure SteadyClock (readings : List Double) : Prop where
  valid : ∀ now ∈ readings, now.isfinite = true ∧ le (finite 0) now = true
  ordered : readings.Pairwise fun earlier later => le earlier later = true

/-- It is enough to compare each reading with the next. -/
lemma steadyClock_of_chain {readings : List Double}
    (hvalid : (readings.all fun now => now.isfinite && le (finite 0) now) = true)
    (hchain : readings.IsChain fun earlier later => le earlier later = true) :
    SteadyClock readings where
  valid now hnow := by simpa using List.all_eq_true.mp hvalid now hnow
  ordered := by
    have htrans : Trans (fun x y => le x y = true) (fun x y => le x y = true)
        fun x y => le x y = true := ⟨le_trans⟩
    exact hchain.pairwise

lemma clockReadings_recordEvents (second : ℕ) (o : TrialObservation) :
    clockReadings (backend.recordEvents second o) = [] := by
  unfold recordEvents
  split <;> rfl

lemma clockReadings_seconds (seconds : List ManualSecond) :
    clockReadings (backend.secondsEvents seconds) =
      seconds.flatMap fun second => [second.checked, second.finished] := by
  induction seconds using List.reverseRecOn with
  | nil => rfl
  | append_singleton seconds second ih =>
    rw [secondsEvents_concat, clockReadings_append, clockReadings_append, ih,
      clockReadings_recordEvents, List.flatMap_append, List.append_nil]
    rfl

lemma ManualRun.clockReadings_events (run : ManualRun) :
    clockReadings (run.events backend plan) = run.start.manualStarted ::
      (run.start.entries 0).started :: (run.start.entries 0).now ::
      (run.start.entries 1).started :: (run.start.entries 1).now :: run.times := by
  rw [events, clockReadings_append, clockReadings_append, clockReadings_seconds]
  rfl

/-! The writes. -/

/-- The four writes of the manual phase, in order and accepted. -/
def stepWrites (plan : TrialPlan) : List TrialEvent :=
  [modeWrite 0 1 true, targetWrite 0 (plan.targetRpm 0) true, modeWrite 1 1 true,
    targetWrite 1 (plan.targetRpm 1) true]

lemma controlsOf_recordEvents (second : ℕ) (o : TrialObservation) :
    controlsOf (backend.recordEvents second o) = [] := by
  unfold recordEvents
  split <;> rfl

lemma controlsOf_seconds (seconds : List ManualSecond) :
    controlsOf (backend.secondsEvents seconds) = [] := by
  induction seconds using List.reverseRecOn with
  | nil => rfl
  | append_singleton seconds second ih =>
    rw [secondsEvents_concat, controlsOf_append, controlsOf_append, ih, controlsOf_recordEvents]
    rfl

lemma FanEntry.controlsOf_events (fan : Fin 2) (entry : FanEntry) :
    controlsOf (entry.events plan fan) =
      controlsOf [modeWrite fan 1 true, targetWrite fan (plan.targetRpm fan) true] := by
  simp [controlsOf, FanEntry.events, entered, TrialCall.controls, stopAnswer, clockRead, modeWrite,
    targetWrite, List.filter_cons]

lemma ManualRun.controlsOf_events (run : ManualRun) :
    controlsOf (run.events backend plan) = controlsOf (stepWrites plan) := by
  have hclock : controlsOf [clockRead run.start.manualStarted] = [] := rfl
  have hseen : controlsOf (seenEvents run.observation run.checked) = [] := rfl
  have hbegun : run.start.begun plan =
      [clockRead run.start.manualStarted] ++ (run.start.entries 0).events plan 0 := rfl
  have hsteps : stepWrites plan = [modeWrite 0 1 true, targetWrite 0 (plan.targetRpm 0) true] ++
      [modeWrite 1 1 true, targetWrite 1 (plan.targetRpm 1) true] := rfl
  rw [events, ManualStart.events, hbegun, hsteps]
  simp only [controlsOf_append, controlsOf_seconds, FanEntry.controlsOf_events, hclock, hseen,
    List.nil_append, List.append_nil]

/-! What the checks mean. -/

/-- The manual state: unlocked by nothing, both fans in mode 1 and within 1 RPM of their planned
targets, safe temperatures. -/
structure ManualState (round : ℚ → Double) (plan : TrialPlan) (o : TrialObservation) : Prop where
  ftst : o.ftst = 0
  modes : ∀ fan, o.mode fan = 1
  targets : ∀ fan, le (fabs (sub round (o.targetRpm fan) (plan.targetRpm fan))) (finite 1) = true
  temperatures : ∀ sensor, le (finite 10) (o.temperaturesC sensor) = true ∧
    lt (o.temperaturesC sensor) trialTemperatureLimitC = true

lemma fabs_ne_nan {x : Double} (h : x ≠ nan) : fabs x ≠ nan := by
  cases x <;> first | exact absurd rfl h | exact nofun

lemma temperatures_of_safe {o : TrialObservation} (h : temperaturesSafe o = true) (sensor : Fin 3) :
    le (finite 10) (o.temperaturesC sensor) = true ∧
      lt (o.temperaturesC sensor) trialTemperatureLimitC = true := by
  have hsensor := List.all_eq_true.mp h sensor (List.mem_finRange sensor)
  simp only [Bool.and_eq_true, Bool.not_eq_true'] at hsensor
  have hnan := ne_nan_of_isfinite hsensor.1.1
  exact ⟨le_of_not_lt hnan nofun hsensor.1.2, lt_of_not_le nofun hnan hsensor.2⟩

lemma manualState_of_matches {round : ℚ → Double} {o : TrialObservation} (hround : Rounds round)
    (hplan : ∀ fan, (plan.targetRpm fan).isfinite = true)
    (h : manualStateMatches o plan true round = true) : ManualState round plan o := by
  simp only [manualStateMatches, Bool.not_true, Bool.false_or, Bool.and_eq_true, beq_iff_eq,
    List.all_eq_true, List.mem_finRange, true_implies, Bool.not_eq_true'] at h
  refine ⟨h.1.1, fun fan => (h.1.2 fan).1.1, fun fan => ?_, temperatures_of_safe h.2⟩
  refine le_of_not_lt nofun (fabs_ne_nan ?_) (h.1.2 fan).2
  rw [sub_of_isfinite (h.1.2 fan).1.2 (hplan fan)]
  exact hround.notNan _

/-- The fan turns faster than at its baseline, and within 250 RPM or 15 percent of its target. -/
structure ActualReached (round : ℚ → Double) (baselineRpm actualRpm targetRpm : Double) : Prop where
  above : lt baselineRpm actualRpm = true
  near : le (fabs (sub round actualRpm targetRpm))
    (fmax (finite 250) (mul round targetRpm targetTolerance)) = true

lemma actualReached {round : ℚ → Double} {baseline actual target : Double}
    (h : trialActualReachedTarget round baseline actual target = true) :
    ActualReached round baseline actual target := by
  rw [trialActualReachedTarget] at h
  split at h
  · cases h
  rename_i hfinite
  simp only [Bool.or_eq_true, Bool.not_eq_true', not_or, Bool.not_eq_false] at hfinite
  split at h
  · cases h
  rename_i habove
  exact ⟨lt_of_not_le (ne_nan_of_isfinite hfinite.1.2) (ne_nan_of_isfinite hfinite.1.1)
    (Bool.not_eq_true _ ▸ habove), h⟩

/-- What a reported success stands for. -/
structure ManualRun.Guaranteed (round : ℚ → Double) (plan : TrialPlan)
    (baselineRpm : Fin 2 → Double) (run : ManualRun) : Prop where
  windows : ∀ fan,
    Within round (finite (1 / 4)) (run.start.entries fan).started (run.start.entries fan).now
  six : run.observations.length = 6
  states : ∀ o ∈ run.observations, ManualState round plan o
  times : ∀ now ∈ run.times, Before round (finite 15) run.start.manualStarted now
  reached : ∃ last, run.observations.getLast? = some last ∧
    ∀ fan, ActualReached round (baselineRpm fan) (last.actualRpm fan) (plan.targetRpm fan)

lemma FanEntry.not_late {round : ℚ → Double} {entry : FanEntry}
    (h : entry.inWindow round = true) :
    lt (finite (1 / 4)) (sub round entry.now entry.started) = false := Bool.not_eq_true' _ ▸ h

lemma not_expired {round : ℚ → Double} {manualStarted now : Double}
    (h : inManualTime round manualStarted now = true) :
    le (finite 15) (sub round now manualStarted) = false := Bool.not_eq_true' _ ▸ h

lemma ManualRun.Accepted.guaranteed {run : ManualRun} {more : List Double}
    (hround : Rounds backend.round) (hplan : ∀ fan, (plan.targetRpm fan).isfinite = true)
    (hclock : SteadyClock (clockReadings (run.events backend plan) ++ more))
    (h : run.Accepted backend plan baselineRpm) :
    run.Guaranteed backend.round plan baselineRpm := by
  rw [run.clockReadings_events] at hclock
  obtain ⟨hvalid, hordered⟩ := hclock
  simp only [List.cons_append, List.pairwise_cons, List.mem_cons, List.mem_append, forall_eq_or_imp]
    at hvalid hordered
  refine ⟨fun fan => ?_, by simp [observations, h.five], fun o ho => ?_, fun now hnow => ?_, ?_⟩
  · have hwindow := FanEntry.not_late (h.window fan)
    match fan with
    | 0 => exact (within_iff hround rfl hvalid.2.1.1 hvalid.2.1.2 hwindow).mpr hordered.2.1.1
    | 1 =>
      have hstarted := hvalid.2.2.2.1
      exact (within_iff hround rfl hstarted.1 hstarted.2 hwindow).mpr hordered.2.2.2.1.1
  · exact manualState_of_matches hround hplan (h.matching o ho)
  · refine (before_iff hround rfl hvalid.1.1 hvalid.1.2 (not_expired (h.inTime now hnow))).mpr ?_
    exact hordered.1.2.2.2.2 now (.inl hnow)
  · obtain ⟨last, hlast, hreached⟩ := h.reached
    refine ⟨last, hlast, fun fan => actualReached ?_⟩
    exact List.all_eq_true.mp hreached fan (List.mem_finRange fan)

lemma controls_nothing {trace : List TrialEvent} {restored : Bool}
    (h : backend.Restoration trace restored) : controlsOf trace = [] :=
  controlsOf_restores h.restores

lemma executeDirect_missing {s s' : Bool} {trace : List TrialEvent} {status : TrialRunStatus}
    (hcallbacks : backend.directCallbacks = false)
    (h : Gives (backend.trialExecuteDirect plan baselineRpm) s trace status s') :
    trace = [] ∧ status = .restoreFailed := by
  have hmissing : (!backend.hasWriteMode || !backend.hasWriteTarget || !backend.hasReadObservation ||
      !backend.hasWaitMilliseconds || !backend.hasMonotonicSeconds || !backend.hasShouldStop) =
      true := by
    rw [← Bool.not_eq_false', ← hcallbacks]
    simp [directCallbacks]
  rw [trialExecuteDirect, if_pos hmissing] at h
  obtain ⟨rfl, rfl, -⟩ := gives_pure.mp h
  exact ⟨rfl, rfl⟩

/-- A direct trial that reports success did all it reports: both fans entered within 250 ms, six
observations of the manual state within 15 s, both fans near their targets in the last, no other
write that takes control, and the system restored. Any other trial that attempted manual mode took
no control after its first failure and entered a restoration. -/
theorem trialExecuteDirect_guarantees (backend : TrialBackend) (plan : TrialPlan)
    (baselineRpm : Fin 2 → Double) (hround : Rounds backend.round)
    (hplan : ∀ fan, (plan.targetRpm fan).isfinite = true) (s : Bool) (trace : List TrialEvent)
    (status : TrialRunStatus) (s' : Bool)
    (h : Gives (backend.trialExecuteDirect plan baselineRpm) s trace status s')
    (hclock : SteadyClock (clockReadings trace)) :
    (status = .succeeded → ∃ (run : ManualRun) (recovery : List TrialEvent),
      trace = run.events backend plan ++ recovery ∧
      run.Guaranteed backend.round plan baselineRpm ∧
      controlsOf trace = controlsOf (stepWrites plan) ∧ backend.Restoration recovery true ∧
      EndsVerified backend.round (· = 61) recovery) ∧
    (status ≠ .succeeded → (∃ fan ok, modeWrite fan 1 ok ∈ trace) →
      ∃ manual recovery control restored, trace = manual ++ recovery ∧
        backend.ControlRuns plan baselineRpm manual control ∧ controlsOf recovery = [] ∧
        backend.Restoration recovery restored) := by
  cases hcallbacks : backend.directCallbacks with
  | false =>
    obtain ⟨rfl, rfl⟩ := executeDirect_missing hcallbacks h
    refine ⟨nofun, fun _ hattempted => ?_⟩
    obtain ⟨fan, ok, hmem⟩ := hattempted
    cases hmem
  | true =>
  obtain ⟨manual, recovery, control, restored, rfl, hruns, hrestoration, hsuccess⟩ :=
    executeDirect_runs hcallbacks h
  refine ⟨fun hstatus => ?_, fun _ _ =>
    ⟨manual, recovery, control, restored, rfl, hruns, controls_nothing hrestoration, hrestoration⟩⟩
  obtain ⟨rfl, rfl, hverified⟩ := hsuccess hstatus
  obtain ⟨run, rfl, haccepted⟩ := hruns.accepted
  rw [clockReadings_append] at hclock
  refine ⟨run, recovery, rfl, haccepted.guaranteed hround hplan hclock, ?_, hrestoration, hverified⟩
  rw [controlsOf_append, controls_nothing hrestoration, List.append_nil, run.controlsOf_events]

/-- Fans that follow their targets while temperatures are read with them, and a clock that shows
the milliseconds waited. -/
def followsPlan (rpm : ℚ) (waited : ℕ) : (c : TrialCall) → c.Answer × ℕ
  | .writeMode _ _ => (true, waited)
  | .writeTarget _ _ => (true, waited)
  | .writeFtst _ => (true, waited)
  | .readObservation full =>
    (some (if full then { quietObservation 0 with mode := fun _ => 1,
                                                  actualRpm := fun _ => finite rpm,
                                                  targetRpm := fun _ => finite rpm }
      else quietObservation 0), waited)
  | .waitMilliseconds milliseconds => (true, waited + milliseconds)
  | .monotonicSeconds => (finite (waited / 1000), waited)
  | .shouldStop => (false, waited)
  | .recordObservation _ _ => ((), waited)

abbrev followingRun : List TrialEvent × (TrialRunStatus × Bool) × ℕ :=
  play (followsPlan 1600)
    ((exact.trialExecuteDirect ⟨fun _ => finite 1600⟩ fun _ => finite 1200).run false) 0

theorem following_run_guaranteed :
    followingRun.2.1.1 = .succeeded ∧
      ∃ (run : ManualRun) (recovery : List TrialEvent),
        followingRun.1 = run.events exact ⟨fun _ => finite 1600⟩ ++ recovery ∧
        run.Guaranteed exact.round ⟨fun _ => finite 1600⟩ fun _ => finite 1200 := by
  have hrun := ends_play (followsPlan 1600)
    ((exact.trialExecuteDirect ⟨fun _ => finite 1600⟩ fun _ => finite 1200).run false) 0
  have hstatus : followingRun.2.1.1 = .succeeded := by decide +kernel
  have hclock : SteadyClock (clockReadings followingRun.1) :=
    steadyClock_of_chain (by decide +kernel) (by decide +kernel)
  obtain ⟨run, recovery, htrace, hguaranteed, -⟩ := (trialExecuteDirect_guarantees exact
    ⟨fun _ => finite 1600⟩ (fun _ => finite 1200) rounds_finite (fun _ => rfl) false _ _ _ hrun
    hclock).1 hstatus
  exact ⟨hstatus, run, recovery, htrace, hguaranteed⟩

end TrialBackend
end Ventilator
