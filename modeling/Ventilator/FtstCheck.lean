import Ventilator.DirectGuarantee
import Ventilator.FanStateTracking

/-! What a run of `trial_check_ftst` that reports success has done and seen. -/
namespace Ventilator
open Double CallTree

namespace TrialBackend
open TrialM

variable {backend : TrialBackend}

def ftstWrite (value : UInt8) (ok : Bool) : TrialEvent := ⟨.writeFtst value, ok⟩

/-- Both fans under system control: mode 3 and a target within 1 RPM of zero. -/
structure SystemState (o : TrialObservation) : Prop where
  modes : ∀ fan, o.mode fan = 3
  targets : ∀ fan, le (fabs (o.targetRpm fan)) (finite 1) = true

lemma systemState_of_check {o : TrialObservation} (h : systemModesAndZeroTargets o = true) :
    SystemState o := by
  have hfan : ∀ fan, (o.mode fan = 3 ∧ (o.targetRpm fan).isfinite = true) ∧
      lt (finite 1) (fabs (o.targetRpm fan)) = false := fun fan => by
    simpa using List.all_eq_true.mp h fan (List.mem_finRange fan)
  refine ⟨fun fan => (hfan fan).1.1, fun fan => le_of_not_lt nofun ?_ (hfan fan).2⟩
  exact fabs_ne_nan (ne_nan_of_isfinite (hfan fan).1.2)

lemma baseline_iff (o : TrialObservation) : trialObservationIsBaseline o = true ↔
    o.ftst = 0 ∧ systemModesAndZeroTargets o = true := by
  rw [trialObservationIsBaseline, Bool.and_eq_true, beq_iff_eq]
  rfl

/-- The parts of a successful check. -/
structure CheckRun where
  baseline : TrialObservation
  started : Double
  effect : List TrialEvent
  afterWrite : TrialObservation
  now : Double
  recovery : List TrialEvent

namespace CheckRun

/-- The reads before the first write, which is accepted. -/
def admission (run : CheckRun) : List TrialEvent :=
  [safetyRead (some run.baseline), stopAnswer false, clockRead run.started]

/-- The checks of the observed effect. -/
def verdict (run : CheckRun) : List TrialEvent := [clockRead run.now, stopAnswer false]

def events (run : CheckRun) : List TrialEvent :=
  run.admission ++ ftstWrite 1 true :: (run.effect ++ (run.verdict ++ run.recovery))

lemma events_parts (run : CheckRun) : run.events = run.admission ++ ([ftstWrite 1 true] ++
    (run.effect ++ (run.verdict ++ run.recovery))) := rfl

/-- The checks of the code, as it makes them, and what its parts have done. -/
structure Accepted (backend : TrialBackend) (run : CheckRun) : Prop where
  baseline : trialObservationIsBaseline run.baseline = true
  baselineSafe : temperaturesSafe run.baseline = true
  startedFinite : run.started.isfinite = true
  startedNonneg : le (finite 0) run.started = true
  seen : safetyRead (some run.afterWrite) ∈ run.effect
  ftst : run.afterWrite.ftst = 1
  system : systemModesAndZeroTargets run.afterWrite = true
  safe : temperaturesSafe run.afterWrite = true
  inTime : lt (sub backend.round run.now run.started) (finite 5) = true
  untimed : clockReadings run.effect = []
  effectRestores : ∀ e ∈ run.effect, e.1.restores = true
  recovers : ∀ e ∈ run.recovery, e.1.recovers = true
  allSystem : AllSystem (run.effect ++ run.recovery)

end CheckRun

/-- The admission of a Ftst trial. -/
lemma admitFtst_admits {started : Double} {s s' : Bool} {trace : List TrialEvent}
    (h : Gives admitFtst s trace (some started) s') :
    s' = s ∧ ∃ baseline, trace =
        [safetyRead (some baseline), stopAnswer false, clockRead started] ∧
      trialObservationIsBaseline baseline = true ∧ temperaturesSafe baseline = true ∧
      started.isfinite = true ∧ le (finite 0) started = true := by
  obtain ⟨answer, rest₁, rfl, h₁⟩ := gives_ask_bind.mp h
  cases answer with
  | none => cases (gives_pure.mp h₁).2.1
  | some baseline =>
  obtain ⟨hchecks, h₂⟩ := h₁.past_return nofun
  simp only [Bool.or_eq_true, Bool.not_eq_true', not_or, Bool.not_eq_false] at hchecks
  obtain ⟨stop, rest₂, rfl, h₃⟩ := gives_ask_bind.mp h₂
  obtain ⟨hstop, h₄⟩ := h₃.past_return nofun
  obtain rfl : stop = false := by simpa using hstop
  obtain ⟨reading, rest₃, rfl, h₅⟩ := gives_ask_bind.mp h₄
  obtain ⟨rfl, hreading, rfl⟩ := gives_pure.mp h₅
  split at hreading
  · cases hreading
  rename_i hvalid
  obtain rfl := Option.some.inj hreading
  simp only [Bool.or_eq_true, Bool.not_eq_true', not_or, Bool.not_eq_false, Bool.not_eq_true]
    at hvalid
  refine ⟨rfl, baseline, rfl, hchecks.1, hchecks.2, hvalid.1, ?_⟩
  exact le_of_not_lt (ne_nan_of_isfinite hvalid.1) nofun hvalid.2

/-- The wait for the effect reads no clock. -/
lemma awaitEffect_untimed :
    Only (fun c => c ≠ .monotonicSeconds) backend.awaitEffect := by
  refine .forLoop (fun _ _ => (Only.ask (by simp)).bind fun read => ?_) (fun _ => .pure _) _ _
  cases read with
  | none => exact .pure _
  | some o =>
    have hrecord : ∀ second, Only (fun c => c ≠ .monotonicSeconds) (backend.record second o) :=
      fun second => .ite (fun _ => .ask (by simp)) fun _ => .pure _
    exact (hrecord _).bind fun _ => (Only.modify _).bind fun _ => .ite (fun _ => .pure _)
      fun _ => .ite (fun _ => .pure _) fun _ => (Only.ask (by simp)).bind fun _ =>
        .ite (fun _ => .pure _) fun _ => .ite (fun _ => .pure _) fun _ =>
          (Only.ask (by simp)).bind fun _ => .ite (fun _ => .pure _) fun _ => .pure _

lemma clockReadings_eq_nil {trace : List TrialEvent}
    (h : ∀ e ∈ trace, e.1 ≠ .monotonicSeconds) : clockReadings trace = [] := by
  refine List.filterMap_eq_nil_iff.mpr fun e he => ?_
  obtain ⟨c, answer⟩ := e
  cases c with
  | monotonicSeconds => exact absurd rfl (h _ he)
  | _ => rfl

/-- The effect is among the observations read. -/
lemma awaitEffect_seen {s s' : Bool} {trace : List TrialEvent} {o : TrialObservation}
    (h : Gives backend.awaitEffect s trace (some o) s') : safetyRead (some o) ∈ trace := by
  obtain ⟨halfSecond, _, s₁, middle, last, rfl, -, ⟨-, hlast⟩ | ⟨-, hafter⟩⟩ :=
    Gives.forLoop (I := fun _ _ _ _ => True) (fun _ _ _ _ _ _ _ _ _ => trivial) trivial h
  · obtain ⟨answer, rest, rfl, h₁⟩ := gives_ask_bind.mp hlast
    cases answer with
    | none => cases (gives_pure.mp h₁).2.1
    | some current =>
    obtain ⟨xs, ys, _, s₂, rfl, -, h₂⟩ := gives_bind.mp h₁
    obtain ⟨zs, ws, _, s₃, rfl, -, h₃⟩ := gives_bind.mp h₂
    split at h₃
    · obtain ⟨-, heq, -⟩ := gives_pure.mp h₃
      obtain rfl := Option.some.inj (Sum.inl.inj heq)
      simp [safetyRead]
    · exfalso
      obtain ⟨-, h₄⟩ := h₃.past_return nofun
      obtain ⟨stop, rest₅, rfl, h₅⟩ := gives_ask_bind.mp h₄
      obtain ⟨-, h₆⟩ := h₅.past_return nofun
      obtain ⟨-, h₇⟩ := h₆.past_return nofun
      obtain ⟨waited, rest₈, rfl, h₈⟩ := gives_ask_bind.mp h₇
      obtain ⟨-, h₉⟩ := h₈.past_return nofun
      cases (gives_pure.mp h₉).2.1
  · cases (gives_pure.mp hafter).2.1

lemma unlockChecked_true {writeOk : Bool} {afterWrite : TrialObservation} {started : Double}
    {s s' : Bool} {trace : List TrialEvent}
    (h : Gives (backend.unlockChecked writeOk afterWrite started) s trace true s') :
    s' = s ∧ writeOk = true ∧ afterWrite.ftst = 1 ∧ systemModesAndZeroTargets afterWrite = true ∧
      temperaturesSafe afterWrite = true ∧ ∃ now, trace = [clockRead now, stopAnswer false] ∧
        lt (sub backend.round now started) (finite 5) = true := by
  rw [unlockChecked] at h
  split at h
  swap
  · cases (gives_pure.mp h).2.1
  rename_i hchecks
  simp only [Bool.and_eq_true, beq_iff_eq] at hchecks
  obtain ⟨now, rest₁, rfl, h₁⟩ := gives_ask_bind.mp h
  obtain ⟨htime, h₂⟩ := h₁.past_return nofun
  obtain ⟨stop, rest₂, rfl, h₃⟩ := gives_ask_bind.mp h₂
  obtain ⟨rfl, hstop, rfl⟩ := gives_pure.mp h₃
  obtain rfl : stop = false := by simpa using hstop.symm
  refine ⟨rfl, hchecks.1.1.1, hchecks.1.1.2, hchecks.1.2, hchecks.2, now, rfl, ?_⟩
  simpa using htime

/-- The recovery of a check that succeeds: one recovery, one stable observation, no change noted. -/
lemma recoverEffect_succeeded {unlockOk s s' : Bool} {trace : List TrialEvent}
    (h : Gives (backend.recoverEffect unlockOk) s trace .succeeded s') :
    unlockOk = true ∧ s = false ∧ AllSystem trace := by
  obtain ⟨xs, rest₁, restored, s₁, rfl, hrestore, h₁⟩ := gives_bind.mp h
  cases restored with
  | false =>
    obtain ⟨ys, rest₂, result, s₂, rfl, -, h₂⟩ := gives_bind.mp h₁
    have hstatus := (gives_pure.mp h₂).2.1
    split at hstatus <;> cases hstatus
  | true =>
  obtain ⟨ys, rest₂, result, s₂, rfl, hobserve, h₂⟩ := gives_bind.mp h₁
  split at h₂
  · obtain ⟨zs, rest₃, both, s₃, rfl, -, h₃⟩ := gives_bind.mp h₂
    have hstatus := (gives_pure.mp (h₃.past_return nofun).2).2.1
    cases hstatus
  · obtain ⟨zs, rest₃, changed, s₃, rfl, hget, h₃⟩ := gives_bind.mp h₂
    obtain ⟨rfl, rfl, rfl⟩ := gives_get.mp hget
    obtain ⟨rfl, hstatus, rfl⟩ := gives_pure.mp h₃
    split at hstatus
    · rename_i hflags
      simp only [Bool.and_eq_true, Bool.not_eq_true'] at hflags
      obtain ⟨hs₁, hys⟩ := tracks_observe _ _ _ _ hobserve hflags.2
      obtain ⟨hs, hxs⟩ := tracks_restoreUnlock _ _ _ _ hrestore hs₁
      refine ⟨hflags.1, hs, allSystem_append.mpr ⟨hxs rfl, ?_⟩⟩
      simpa using hys trivial
    · cases hstatus

lemma recovers_recoverEffect (unlockOk : Bool) : Recovers (backend.recoverEffect unlockOk) := by
  have hobserve : Recovers backend.trialObserveAfterFtst := watches_observe.restores.recovers
  have hagain : Recovers (backend.restoredAndStable backend.trialRestoreUnlock) :=
    recovers_restoreUnlock.bind fun _ => .ite (fun _ => .pure _) fun _ =>
      hobserve.bind fun _ => .pure _
  exact recovers_restoreUnlock.bind fun _ => .ite (fun _ => hobserve.bind fun _ => .pure _)
    fun _ => hobserve.bind fun _ => .ite (fun _ => hagain.bind fun _ =>
      .ite (fun _ => .pure _) fun _ => .pure _) fun _ => Only.get.bind fun _ => .pure _

/-- A check that succeeds has these parts. -/
lemma checkFtst_succeeded {trace : List TrialEvent}
    (h : Ends backend.trialCheckFtst trace .succeeded) :
    ∃ run : CheckRun, trace = run.events ∧ run.Accepted backend := by
  obtain ⟨-, h₁⟩ := h.past_return nofun
  obtain ⟨s', hcheck⟩ := ends_run' h₁
  obtain ⟨xs, rest₁, admitted, s₁, rfl, hadmit, h₂⟩ := gives_bind.mp hcheck
  cases admitted with
  | none => cases (gives_pure.mp h₂).2.1
  | some started =>
  obtain ⟨-, baseline, rfl, hbaseline, hsafe, hfinite, hnonneg⟩ := admitFtst_admits hadmit
  obtain ⟨writeOk, rest₂, rfl, h₃⟩ := gives_ask_bind.mp h₂
  obtain ⟨effect, rest₃, seen, s₂, rfl, heffect, h₄⟩ := gives_bind.mp h₃
  cases seen with
  | none =>
    exfalso
    obtain ⟨releaseOk, rest₄, rfl, h₅⟩ := gives_ask_bind.mp h₄
    obtain ⟨ys, rest₅, later, s₃, rfl, -, h₆⟩ := gives_bind.mp h₅
    split at h₆
    · obtain ⟨zs, rest₆, both, s₄, rfl, -, h₇⟩ := gives_bind.mp h₆
      have hstatus := (gives_pure.mp (h₇.past_return nofun).2).2.1
      split at hstatus <;> cases hstatus
    · have hstatus := (gives_pure.mp h₆).2.1
      split at hstatus <;> cases hstatus
  | some afterWrite =>
  obtain ⟨verdict, recovery, unlockOk, s₃, rfl, hverdict, hrecover⟩ := gives_bind.mp h₄
  obtain ⟨rfl, hs₃, hrecovery⟩ := recoverEffect_succeeded hrecover
  obtain ⟨rfl, rfl, hftst, hsystem, hafterSafe, now, rfl, htime⟩ := unlockChecked_true hverdict
  obtain ⟨-, heffectSystem⟩ := tracks_awaitEffect _ _ _ _ heffect hs₃
  exact ⟨⟨baseline, started, effect, afterWrite, now, recovery⟩, rfl,
    { baseline := hbaseline, baselineSafe := hsafe, startedFinite := hfinite,
      startedNonneg := hnonneg, seen := awaitEffect_seen heffect, ftst := hftst,
      system := hsystem, safe := hafterSafe, inTime := htime,
      untimed := clockReadings_eq_nil (awaitEffect_untimed.gives heffect),
      effectRestores := watches_awaitEffect.restores.gives heffect,
      recovers := (recovers_recoverEffect true).gives hrecover,
      allSystem := allSystem_append.mpr ⟨heffectSystem trivial, hrecovery⟩ }⟩

/-- What a reported success stands for. -/
structure CheckRun.Guaranteed (round : ℚ → Double) (run : CheckRun) : Prop where
  baseline : run.baseline.ftst = 0 ∧ SystemState run.baseline
  baselineSafe : ∀ sensor, le (finite 10) (run.baseline.temperaturesC sensor) = true ∧
    lt (run.baseline.temperaturesC sensor) trialTemperatureLimitC = true
  seen : safetyRead (some run.afterWrite) ∈ run.effect
  unlocked : run.afterWrite.ftst = 1 ∧ SystemState run.afterWrite
  safe : ∀ sensor, le (finite 10) (run.afterWrite.temperaturesC sensor) = true ∧
    lt (run.afterWrite.temperaturesC sensor) trialTemperatureLimitC = true
  inTime : Span run.started run.now ∧ lt (sub round run.now run.started) (finite 5) = true

lemma CheckRun.clockReadings_events {run : CheckRun} (h : run.Accepted backend) :
    clockReadings run.events = run.started :: run.now :: clockReadings run.recovery := by
  rw [run.events_parts]
  simp only [clockReadings_append, h.untimed]
  rfl

lemma CheckRun.controlsOf_events {run : CheckRun} (h : run.Accepted backend) :
    controlsOf run.events = [] := by
  have hrecovery : controlsOf run.recovery = [] := by
    refine List.filter_eq_nil_iff.mpr fun e he => ?_
    have hrecovers := h.recovers e he
    rw [TrialCall.recovers, Bool.or_eq_true, beq_iff_eq] at hrecovers
    rcases hrecovers with hrestores | hrelease
    · simp [not_controls_of_restores hrestores]
    · simp [hrelease, TrialCall.controls]
  rw [run.events_parts]
  simp only [controlsOf_append, controlsOf_restores h.effectRestores, hrecovery, List.append_nil]
  rfl

lemma CheckRun.allSystem_events {run : CheckRun} (h : run.Accepted backend) :
    AllSystem run.events := by
  have hadmission : AllSystem run.admission := by
    intro full o hmem
    simp only [admission, safetyRead, stopAnswer, clockRead, List.mem_cons, List.not_mem_nil,
      or_false] at hmem
    rcases hmem with hread | hstop | hclock
    · cases hread
      exact ((baseline_iff _).mp h.baseline).2
    · cases hstop
    · cases hclock
  have hrest := allSystem_append.mp h.allSystem
  rw [run.events_parts]
  simp only [allSystem_append]
  refine ⟨hadmission, fun full o hmem => ?_, hrest.1, fun full o hmem => ?_, hrest.2⟩
  · cases List.mem_singleton.mp hmem
  · simp only [verdict, clockRead, stopAnswer, List.mem_cons, List.not_mem_nil, or_false] at hmem
    rcases hmem with hclock | hstop
    · cases hclock
    · cases hstop

lemma CheckRun.Accepted.guaranteed {run : CheckRun} (h : run.Accepted backend)
    (hordered : le run.started run.now = true) : run.Guaranteed backend.round where
  baseline := ⟨((baseline_iff _).mp h.baseline).1,
    systemState_of_check ((baseline_iff _).mp h.baseline).2⟩
  baselineSafe := temperatures_of_safe h.baselineSafe
  seen := h.seen
  unlocked := ⟨h.ftst, systemState_of_check h.system⟩
  safe := temperatures_of_safe h.safe
  inTime := ⟨(span_iff h.startedFinite h.startedNonneg h.inTime).mpr hordered, h.inTime⟩

/-- A check that reports success began with an accepted `Ftst = 1` at a safe baseline, saw
`Ftst = 1` under system control less than 5 s after, took control of no fan, and saw both fans under
system control in every observation of the whole run. -/
theorem trialCheckFtst_guarantees (backend : TrialBackend) (trace : List TrialEvent)
    (h : Ends backend.trialCheckFtst trace .succeeded)
    (hclock : SteadyClock (clockReadings trace)) :
    ∃ run : CheckRun, trace = run.events ∧ run.Guaranteed backend.round ∧ controlsOf trace = [] ∧
      ∀ full o, ⟨.readObservation full, some o⟩ ∈ trace → SystemState o := by
  obtain ⟨run, rfl, haccepted⟩ := checkFtst_succeeded h
  have hordered : le run.started run.now = true := by
    have hpairs := hclock.ordered
    rw [run.clockReadings_events haccepted, List.pairwise_cons] at hpairs
    exact hpairs.1 _ List.mem_cons_self
  refine ⟨run, rfl, haccepted.guaranteed hordered, run.controlsOf_events haccepted, ?_⟩
  exact fun full o hmem => systemState_of_check (run.allSystem_events haccepted full o hmem)

/-- The clock of `brieflyUnlocked` is steady, and its check succeeds. -/
theorem briefly_unlocked_guaranteed :
    ∃ run : CheckRun, (play brieflyUnlocked exact.trialCheckFtst (0, 0)).1 = run.events ∧
      run.Guaranteed exact.round := by
  have hrun := ends_play brieflyUnlocked exact.trialCheckFtst (0, 0)
  have hstatus : (play brieflyUnlocked exact.trialCheckFtst (0, 0)).2.1 = .succeeded := by
    decide +kernel
  rw [hstatus] at hrun
  have hclock : SteadyClock (clockReadings (play brieflyUnlocked exact.trialCheckFtst (0, 0)).1) :=
    steadyClock_of_chain (by decide +kernel) (by decide +kernel)
  obtain ⟨run, htrace, hguaranteed, -⟩ := trialCheckFtst_guarantees exact _ hrun hclock
  exact ⟨run, htrace, hguaranteed⟩

end TrialBackend
end Ventilator
