import Ventilator.BaselineWatch

/-! The daemon's watch controller of `BaselineWatchController.m` under any order of requests and
timer callbacks. A callback reads outside the lock, so others may run between its read, its entry
into the lock and the scheduling of the next one. -/
namespace Ventilator
open TimedSequence

/-- What one read of the machine gives, with the monotonic and the continuous clock after it. -/
structure ClockedRead where
  result : SmcBaselineResult
  snapshot : SmcBaselineSnapshot
  sampledAt : UInt64
  continuousAt : UInt64
  deriving DecidableEq

/-- What the reducer is given of it; a failed monotonic clock spoils the read. -/
def ClockedRead.reading (sample : ClockedRead) : Reading :=
  ⟨if sample.sampledAt = 0 then .unexpectedFormat else sample.result, some sample.snapshot,
    sample.continuousAt⟩

/-- Where a timer callback stands. -/
inductive CallbackStage
  | scheduled
  | sampled (sample : ClockedRead)
  | continuing
  deriving DecidableEq

structure TimerCallback where
  second : UInt32
  generation : UInt64
  stage : CallbackStage
  deriving DecidableEq

structure BaselineWatchController where
  watch : BaselineWatch
  generation : UInt64
  startedAt : UInt64
  lastSampleAt : UInt64
  callbacks : List TimerCallback
  deriving DecidableEq

/-- What can happen next; a callback is named by its place. -/
inductive WatchInput
  | start (sample : ClockedRead)
  | status
  | sample (index : ℕ) (sample : ClockedRead)
  | enter (index : ℕ)
  | schedule (index : ℕ)
  deriving DecidableEq

/-- What it came to. -/
inductive WatchEvent
  | refused
  | started (reading : Reading)
  | reported
  | read
  | dropped
  | counted (second : UInt32) (reading : Reading)
  | scheduled
  deriving DecidableEq

namespace BaselineWatchController

def initial : BaselineWatchController := ⟨.zero, 0, 0, 0, []⟩

/-- `start`, which holds the lock throughout. -/
def start (controller : BaselineWatchController) (sample : ClockedRead) :
    BaselineWatchController × WatchEvent :=
  if controller.watch.status = .running ∨ controller.watch.status = .changed ∨
      controller.watch.status = .readFailed then (controller, .refused)
  else
    let reading := sample.reading
    let watch := BaselineWatch.start reading.result reading.snapshot reading.nowNs
    let generation := controller.generation + 1
    let callbacks :=
      if watch.status = .running then controller.callbacks ++ [⟨1, generation, .scheduled⟩]
      else controller.callbacks
    (⟨watch, generation, sample.sampledAt, sample.sampledAt, callbacks⟩, .started reading)

/-- The part of a callback inside the lock. -/
def enter (controller : BaselineWatchController) (index : ℕ) (second : UInt32)
    (generation : UInt64) (sample : ClockedRead) : BaselineWatchController × WatchEvent :=
  if controller.generation ≠ generation ∨ controller.watch.status ≠ .running then
    ({ controller with callbacks := controller.callbacks.eraseIdx index }, .dropped)
  else
    let reading := sample.reading
    let watch := controller.watch.next second reading.result reading.snapshot reading.nowNs
    let callbacks :=
      if watch.status = .running then controller.callbacks.set index ⟨second, generation, .continuing⟩
      else controller.callbacks.eraseIdx index
    ({ controller with watch := watch, lastSampleAt := sample.sampledAt, callbacks := callbacks },
      .counted second reading)

def step (controller : BaselineWatchController) :
    WatchInput → Option (BaselineWatchController × WatchEvent)
  | .start sample => some (controller.start sample)
  | .status => some (controller, .reported)
  | .sample index sample =>
    match controller.callbacks[index]? with
    | some ⟨second, generation, .scheduled⟩ =>
      let callbacks := controller.callbacks.set index ⟨second, generation, .sampled sample⟩
      some ({ controller with callbacks := callbacks }, .read)
    | _ => none
  | .enter index =>
    match controller.callbacks[index]? with
    | some ⟨second, generation, .sampled sample⟩ =>
      some (controller.enter index second generation sample)
    | _ => none
  | .schedule index =>
    match controller.callbacks[index]? with
    | some ⟨second, generation, .continuing⟩ =>
      let callbacks := controller.callbacks.set index ⟨second + 1, generation, .scheduled⟩
      some ({ controller with callbacks := callbacks }, .scheduled)
    | _ => none

/-- Where a run from `first` can come to, and what its inputs came to. -/
inductive Reaches (first : BaselineWatchController) :
    BaselineWatchController → List WatchEvent → Prop
  | refl : Reaches first first []
  | step {controller next : BaselineWatchController} {events : List WatchEvent}
      {input : WatchInput} {event : WatchEvent} (h : Reaches first controller events)
      (hstep : controller.step input = some (next, event)) :
      Reaches first next (events ++ [event])

end BaselineWatchController

namespace WatchEvent

def isStarted : WatchEvent → Bool
  | started _ => true
  | _ => false

/-- The sample the reducer was given, with its second. -/
def sample? : WatchEvent → Option (UInt32 × Reading)
  | started reading => some (0, reading)
  | counted second reading => some (second, reading)
  | _ => none

end WatchEvent

/-- The samples of an unbroken window: one for each second from 0 on, each a valid system read, 0.9
to 5 seconds apart. -/
structure WatchWindow (samples : List (UInt32 × Reading)) : Prop where
  seconds : samples.map (fun s => s.1.toNat) = List.range samples.length
  uninterrupted : Reading.Uninterrupted (samples.map Prod.snd)


namespace BaselineWatch

/-- Everything a sample can do to a running watch. -/
inductive NextEffect (watch : BaselineWatch) (second : UInt32) (reading : Reading) :
    BaselineWatch → Prop
  | failed {after : BaselineWatch} (status : after.status = .readFailed) :
    NextEffect watch second reading after
  | counted {after : BaselineWatch} (expected : second = watch.lastSecond + 1)
    (bound : second.toNat ≤ 60) (samples : after.samples = watch.samples + 1)
    (last : after.lastSecond = second) (time : after.lastContinuousNs = reading.nowNs)
    (started : after.startedContinuousNs = watch.startedContinuousNs)
    (gap : ControlLease.SampleGap watch.lastContinuousNs reading.nowNs)
    (span : second = finalSecond →
      watch.startedContinuousNs.toNat ≤ reading.nowNs.toNat →
      watch.startedContinuousNs.toNat + 60000000000 ≤ reading.nowNs.toNat)
    (status : after.status = .changed ∨ reading.isSystem = true ∧
      after.status = if second = finalSecond then .stable else .running) :
    NextEffect watch second reading after

lemma badTiming_gap {watch : BaselineWatch} {second : UInt32} {t : UInt64}
    (h : watch.badTiming second t = false) :
    ControlLease.SampleGap watch.lastContinuousNs t ∧
      (second = finalSecond → watch.startedContinuousNs.toNat ≤ t.toNat →
        watch.startedContinuousNs.toNat + 60000000000 ≤ t.toNat) := by
  simp only [badTiming, Bool.or_eq_false_iff, decide_eq_false_iff_not, Bool.and_eq_false_iff,
    beq_eq_false_iff_ne] at h
  obtain ⟨⟨⟨hlt, hmin⟩, hmax⟩, hspan⟩ := h
  obtain ⟨hlt, hsub⟩ := ControlLease.toNat_gap hlt
  simp only [UInt64.lt_iff_toNat_lt, gt_iff_lt, hsub, minGapNs_toNat, maxGapNs_toNat] at hmin hmax
  refine ⟨⟨by omega, by omega⟩, fun hsecond hle => ?_⟩
  have hduration := hspan.resolve_left (not_not.mpr hsecond)
  rw [UInt64.lt_iff_toNat_lt, UInt64.toNat_sub_of_le _ _ (UInt64.le_iff_toNat_le.mpr hle),
    durationNs_toNat] at hduration
  omega

lemma next_effect {watch : BaselineWatch} (h : watch.status = .running) (second : UInt32)
    (reading : Reading) :
    NextEffect watch second reading
      (watch.next second reading.result reading.snapshot reading.nowNs) := by
  unfold next
  rw [if_neg (not_not.mpr h)]
  split
  · exact .failed rfl
  rename_i hchecks
  rw [not_or, not_or, not_not, not_not] at hchecks
  obtain ⟨hexpected, hbound, hresult⟩ := hchecks
  cases hsnapshot : reading.snapshot with
  | none => exact .failed rfl
  | some latest =>
    dsimp only
    split
    · exact .failed rfl
    rename_i htiming
    obtain ⟨hgap, hspan⟩ := badTiming_gap (Bool.eq_false_iff.mpr htiming)
    have hle : second.toNat ≤ 60 := by
      rw [gt_iff_lt, UInt32.lt_iff_toNat_lt, not_lt] at hbound
      exact hbound
    refine .counted hexpected hle rfl rfl rfl rfl hgap hspan ?_
    by_cases hsystem : smcBaselineIsSystem (some latest) = true
    · refine .inr ⟨by simp [Reading.isSystem, hresult, hsnapshot, hsystem], ?_⟩
      simp [hsystem, h]
    · exact .inl (by simp [hsystem])

end BaselineWatch

namespace BaselineWatchController
open BaselineWatch

/-- The samples since a start. -/
def samplesSince (opening : Reading) (after : List WatchEvent) : List (UInt32 × Reading) :=
  (0, opening) :: after.filterMap WatchEvent.sample?

/-- The window behind a watch: no later start, and the samples the watch has counted. -/
structure Behind (watch : BaselineWatch) (opening : Reading) (after : List WatchEvent) : Prop where
  latest : ∀ event ∈ after, event.isStarted = false
  window : WatchWindow (samplesSince opening after)
  length : (samplesSince opening after).length = watch.lastSecond.toNat + 1
  last : ∃ s, (samplesSince opening after).getLast? = some s ∧
    s.2.nowNs = watch.lastContinuousNs
  started : opening.nowNs = watch.startedContinuousNs
  rising : watch.startedContinuousNs.toNat ≤ watch.lastContinuousNs.toNat

/-- What holds in every state with its history. -/
structure Sound (controller : BaselineWatchController) (events : List WatchEvent) : Prop where
  chain : controller.callbacks = [] ∨
    ∃ callback, controller.callbacks = [callback] ∧ controller.watch.status = .running
  counted : controller.watch.status = .running ∨ controller.watch.status = .stable ∨
    controller.watch.status = .changed →
      controller.watch.samples.toNat = controller.watch.lastSecond.toNat + 1 ∧
        controller.watch.lastSecond.toNat ≤ 60
  window : controller.watch.status = .running ∨ controller.watch.status = .stable →
    ∃ before opening after, events = before ++ .started opening :: after ∧
      Behind controller.watch opening after
  stable : controller.watch.status = .stable → controller.watch.lastSecond = finalSecond ∧
    controller.watch.startedContinuousNs.toNat + 60000000000 ≤
      controller.watch.lastContinuousNs.toNat

lemma sound_initial : Sound initial [] := by
  refine ⟨.inl rfl, ?_, ?_, ?_⟩
  · rintro (h | h | h) <;> cases h
  · rintro (h | h) <;> cases h
  · intro h
    cases h

/-- An event that gives the reducer nothing. -/
lemma Behind.quiet {watch : BaselineWatch} {opening : Reading} {after : List WatchEvent}
    (h : Behind watch opening after) {event : WatchEvent} (hevent : event.isStarted = false)
    (hsample : event.sample? = none) : Behind watch opening (after ++ [event]) := by
  have hsamples : samplesSince opening (after ++ [event]) = samplesSince opening after := by
    simp [samplesSince, hsample]
  refine ⟨?_, ?_, ?_, ?_, h.started, h.rising⟩
  · intro e he
    rcases List.mem_append.mp he with he | he
    · exact h.latest e he
    · obtain rfl := List.mem_singleton.mp he
      exact hevent
  · rw [hsamples]
    exact h.window
  · rw [hsamples]
    exact h.length
  · rw [hsamples]
    exact h.last

lemma Sound.quiet {controller next : BaselineWatchController} {events : List WatchEvent}
    (h : Sound controller events) {event : WatchEvent} (hwatch : next.watch = controller.watch)
    (hchain : next.callbacks = [] ∨
      ∃ callback, next.callbacks = [callback] ∧ controller.watch.status = .running)
    (hevent : event.isStarted = false) (hsample : event.sample? = none) :
    Sound next (events ++ [event]) := by
  refine ⟨by rwa [hwatch], by rw [hwatch]; exact h.counted, ?_, by rw [hwatch]; exact h.stable⟩
  rw [hwatch]
  intro hstatus
  obtain ⟨before, opening, after, rfl, hbehind⟩ := h.window hstatus
  exact ⟨before, opening, after ++ [event], by simp, hbehind.quiet hevent hsample⟩

lemma samplesSince_concat (opening : Reading) (after : List WatchEvent) (second : UInt32)
    (reading : Reading) :
    samplesSince opening (after ++ [.counted second reading]) =
      samplesSince opening after ++ [(second, reading)] := by
  simp [samplesSince, WatchEvent.sample?]

/-- A valid system sample of the next second extends the window. -/
lemma Behind.count {watch next : BaselineWatch} {opening reading : Reading}
    {after : List WatchEvent} (h : Behind watch opening after) {second : UInt32}
    (hexpected : second = watch.lastSecond + 1)
    (hlast : watch.lastSecond.toNat ≤ 60)
    (hsystem : reading.isSystem = true)
    (hgap : ControlLease.SampleGap watch.lastContinuousNs reading.nowNs)
    (hsecond : next.lastSecond = second) (htime : next.lastContinuousNs = reading.nowNs)
    (hstarted : next.startedContinuousNs = watch.startedContinuousNs) :
    Behind next opening (after ++ [.counted second reading]) := by
  have hnumber : second.toNat = watch.lastSecond.toNat + 1 := by
    rw [hexpected, UInt32.toNat_add, UInt32.toNat_one]
    omega
  obtain ⟨s, hs, htimes⟩ := h.last
  have hrising := h.rising
  refine ⟨?_, ?_, ?_, ?_, by rw [hstarted, h.started], ?_⟩
  · intro e he
    rcases List.mem_append.mp he with he | he
    · exact h.latest e he
    · obtain rfl := List.mem_singleton.mp he
      rfl
  · rw [samplesSince_concat]
    constructor
    · rw [List.map_append, h.window.seconds, List.length_append, h.length, List.length_singleton,
        List.range_succ (n := watch.lastSecond.toNat + 1), List.map_singleton, hnumber]
    · rw [List.map_append]
      have hlast : ((samplesSince opening after).map (·.2)).getLast? = some s.2 := by
        rw [List.getLast?_map, hs]
        rfl
      exact h.window.uninterrupted.concat hlast hsystem (by rwa [htimes])
  · rw [samplesSince_concat, List.length_append, h.length, hsecond, hnumber]
    rfl
  · rw [samplesSince_concat, List.getLast?_concat]
    exact ⟨_, rfl, htime.symm⟩
  · rw [hstarted, htime]
    have hlo := hgap.1
    omega

/-- Everything a start can make of the watch. -/
lemma start_effect (reading : Reading) :
    let watch := BaselineWatch.start reading.result reading.snapshot reading.nowNs
    watch.status = .readFailed ∨
      watch.samples = 1 ∧ watch.lastSecond = 0 ∧ watch.lastContinuousNs = reading.nowNs ∧
        watch.startedContinuousNs = reading.nowNs ∧
        (watch.status = .changed ∨ watch.status = .running ∧ reading.isSystem = true) := by
  unfold BaselineWatch.start
  cases hsnapshot : reading.snapshot with
  | none => exact .inl rfl
  | some latest =>
    dsimp only
    split
    · exact .inl rfl
    split
    · exact .inl rfl
    rename_i hresult _
    rw [not_not] at hresult
    refine .inr ⟨rfl, rfl, rfl, rfl, ?_⟩
    by_cases hsystem : smcBaselineIsSystem (some latest) = true
    · exact .inr ⟨by simp [hsystem], by simp [Reading.isSystem, hresult, hsnapshot, hsystem]⟩
    · exact .inl (by simp [hsystem])

/-- A start keeps the invariant. -/
lemma Sound.start {controller : BaselineWatchController} {events : List WatchEvent}
    (h : Sound controller events) (sample : ClockedRead) :
    Sound (controller.start sample).1 (events ++ [(controller.start sample).2]) := by
  unfold BaselineWatchController.start
  split
  · exact h.quiet rfl h.chain rfl rfl
  rename_i hidle
  have hcallbacks : controller.callbacks = [] := by
    rcases h.chain with hnone | ⟨callback, -, hrunning⟩
    · exact hnone
    · exact absurd (.inl hrunning) hidle
  have hbegin := start_effect sample.reading
  dsimp only
  generalize BaselineWatch.start sample.reading.result sample.reading.snapshot
    sample.reading.nowNs = watch at hbegin
  rcases hbegin with hfailed | ⟨hsamples, hsecond, htime, hstarted, hstatus⟩
  · refine ⟨.inl (by simp [hfailed, hcallbacks]), ?_, ?_, by simp [hfailed]⟩
    · simp [hfailed]
    · simp [hfailed]
  refine ⟨?_, fun _ => ?_, fun hrunning => ?_, fun hstable => ?_⟩
  · rw [hcallbacks]
    by_cases hrunning : watch.status = .running
    · exact .inr ⟨_, by rw [if_pos hrunning]; rfl, hrunning⟩
    · exact .inl (by rw [if_neg hrunning])
  · rw [hsamples, hsecond]
    exact ⟨rfl, by decide⟩
  · have hsystem : sample.reading.isSystem = true := by
      rcases hstatus with hchanged | ⟨-, hsystem⟩
      · rcases hrunning with hr | hr <;> exact absurd (hchanged.symm.trans hr) nofun
      · exact hsystem
    refine ⟨events, sample.reading, [], by simp, by simp, ⟨rfl, .singleton hsystem⟩, ?_,
      ⟨_, rfl, htime.symm⟩, hstarted.symm, by rw [hstarted, htime]⟩
    rw [hsecond]
    rfl
  · rcases hstatus with hchanged | ⟨hrunning, -⟩
    · exact absurd (hchanged.symm.trans hstable) nofun
    · exact absurd (hrunning.symm.trans hstable) nofun

/-- A callback inside the lock keeps the invariant. -/
lemma Sound.enter {controller : BaselineWatchController} {events : List WatchEvent}
    (h : Sound controller events) {index : ℕ} {callback : TimerCallback}
    (hcallback : controller.callbacks[index]? = some callback) (second : UInt32)
    (generation : UInt64) (sample : ClockedRead) :
    Sound (controller.enter index second generation sample).1
      (events ++ [(controller.enter index second generation sample).2]) := by
  obtain ⟨hone, hrunning⟩ : index = 0 ∧ controller.callbacks.length = 1 ∧
      controller.watch.status = .running := by
    rcases h.chain with hnone | ⟨only, honly, hrunning⟩
    · simp [hnone] at hcallback
    · rw [honly, List.getElem?_singleton] at hcallback
      split at hcallback
      · rename_i hindex
        exact ⟨hindex, by rw [honly]; rfl, hrunning⟩
      · cases hcallback
  subst hone
  obtain ⟨hlength, hrunning⟩ := hrunning
  obtain ⟨only, honly⟩ := List.length_eq_one_iff.mp hlength
  unfold BaselineWatchController.enter
  split
  · exact h.quiet rfl (.inl (by rw [honly]; rfl)) rfl rfl
  have heffect := next_effect hrunning second sample.reading
  dsimp only
  generalize controller.watch.next second sample.reading.result sample.reading.snapshot
    sample.reading.nowNs = watch at heffect
  have hchain : (if watch.status = .running then
      controller.callbacks.set 0 ⟨second, generation, .continuing⟩
      else controller.callbacks.eraseIdx 0) = [] ∨
      ∃ callback, (if watch.status = .running then
        controller.callbacks.set 0 ⟨second, generation, .continuing⟩
        else controller.callbacks.eraseIdx 0) = [callback] ∧ watch.status = .running := by
    rw [honly]
    by_cases hstatus : watch.status = .running
    · exact .inr ⟨_, by rw [if_pos hstatus]; rfl, hstatus⟩
    · exact .inl (by rw [if_neg hstatus]; rfl)
  obtain ⟨hsamples, hlast⟩ := h.counted (.inl hrunning)
  obtain ⟨before, opening, after, rfl, hbehind⟩ := h.window (.inl hrunning)
  cases heffect with
  | failed status =>
    refine ⟨hchain, ?_, ?_, ?_⟩
    · simp [status]
    · simp [status]
    · simp [status]
  | counted expected bound samples last time started gap span status =>
    have hnumber : second.toNat = controller.watch.lastSecond.toNat + 1 := by
      rw [expected, UInt32.toNat_add, UInt32.toNat_one]
      omega
    refine ⟨hchain, fun _ => ?_, fun hwatching => ?_, fun hstable => ?_⟩
    · dsimp only
      rw [samples, last, UInt32.toNat_add, hsamples, hnumber, UInt32.toNat_one]
      omega
    · have hsystem : sample.reading.isSystem = true := by
        rcases status with hchanged | ⟨hsystem, -⟩
        · rcases hwatching with hw | hw <;> exact absurd (hchanged.symm.trans hw) nofun
        · exact hsystem
      refine ⟨before, opening, after ++ [.counted second sample.reading], by simp, ?_⟩
      exact hbehind.count expected hlast hsystem gap last time started
    · rcases status with hchanged | ⟨-, hstatus⟩
      · exact absurd (hchanged.symm.trans hstable) nofun
      · by_cases hfinal : second = finalSecond
        · have hgap := gap.1
          have hrising := hbehind.rising
          have hspan := span hfinal (by omega)
          dsimp only
          rw [last, started, time]
          exact ⟨hfinal, hspan⟩
        · rw [if_neg hfinal] at hstatus
          exact absurd (hstatus.symm.trans hstable) nofun

/-- Every step keeps the invariant. -/
lemma Sound.step {controller next : BaselineWatchController} {events : List WatchEvent}
    (h : Sound controller events) {input : WatchInput} {event : WatchEvent}
    (hstep : controller.step input = some (next, event)) : Sound next (events ++ [event]) := by
  have hset : ∀ {index callback} callback', controller.callbacks[index]? = some callback →
      controller.callbacks.set index callback' = [] ∨
        ∃ only, controller.callbacks.set index callback' = [only] ∧
          controller.watch.status = .running := fun {index callback} callback' hget => by
    rcases h.chain with hnone | ⟨only, honly, hrunning⟩
    · exact .inl (by rw [hnone]; rfl)
    · rw [honly] at hget ⊢
      have hindex : index = 0 := by
        by_contra hne
        simp [hne] at hget
      exact .inr ⟨callback', by rw [hindex]; rfl, hrunning⟩
  cases input with
  | start sample =>
    obtain ⟨rfl, rfl⟩ := Prod.mk.inj (Option.some.inj hstep)
    exact h.start sample
  | status =>
    obtain ⟨rfl, rfl⟩ := Prod.mk.inj (Option.some.inj hstep)
    exact h.quiet rfl h.chain rfl rfl
  | sample index sample =>
    simp only [BaselineWatchController.step] at hstep
    split at hstep
    · rename_i hget
      obtain ⟨rfl, rfl⟩ := Prod.mk.inj (Option.some.inj hstep)
      exact h.quiet rfl (hset _ hget) rfl rfl
    · cases hstep
  | enter index =>
    simp only [BaselineWatchController.step] at hstep
    split at hstep
    · rename_i second generation sample hget
      have heq := Option.some.inj hstep
      have hentered := h.enter hget second generation sample
      rwa [heq] at hentered
    · cases hstep
  | schedule index =>
    simp only [BaselineWatchController.step] at hstep
    split at hstep
    · rename_i hget
      obtain ⟨rfl, rfl⟩ := Prod.mk.inj (Option.some.inj hstep)
      exact h.quiet rfl (hset _ hget) rfl rfl
    · cases hstep

/-- The invariant holds after every run. -/
lemma Reaches.sound {controller : BaselineWatchController} {events : List WatchEvent}
    (h : Reaches initial controller events) : Sound controller events := by
  induction h with
  | refl => exact sound_initial
  | step _ hstep ih => exact ih.step hstep

/-- A step keeps a watch that has changed or failed. -/
lemma step_keeps {controller next : BaselineWatchController} {input : WatchInput}
    {event : WatchEvent} (hstep : controller.step input = some (next, event))
    (hstatus : controller.watch.status = .changed ∨ controller.watch.status = .readFailed) :
    next.watch = controller.watch := by
  have hstopped : controller.watch.status ≠ .running := by
    rcases hstatus with h | h <;> simp [h]
  cases input with
  | start sample =>
    have hrefused : controller.start sample = (controller, .refused) := by
      rw [BaselineWatchController.start, if_pos (.inr hstatus)]
    rw [BaselineWatchController.step, hrefused] at hstep
    obtain ⟨rfl, -⟩ := Prod.mk.inj (Option.some.inj hstep)
    rfl
  | status =>
    obtain ⟨rfl, -⟩ := Prod.mk.inj (Option.some.inj hstep)
    rfl
  | sample index sample =>
    simp only [BaselineWatchController.step] at hstep
    split at hstep
    · obtain ⟨rfl, -⟩ := Prod.mk.inj (Option.some.inj hstep)
      rfl
    · cases hstep
  | enter index =>
    simp only [BaselineWatchController.step] at hstep
    split at hstep
    · rw [BaselineWatchController.enter, if_pos (.inr hstopped)] at hstep
      obtain ⟨rfl, -⟩ := Prod.mk.inj (Option.some.inj hstep)
      rfl
    · cases hstep
  | schedule index =>
    simp only [BaselineWatchController.step] at hstep
    split at hstep
    · obtain ⟨rfl, -⟩ := Prod.mk.inj (Option.some.inj hstep)
      rfl
    · cases hstep

/-- No run leaves a watch that has changed or failed. -/
lemma Reaches.keeps {first controller : BaselineWatchController} {events : List WatchEvent}
    (h : Reaches first controller events)
    (hstatus : first.watch.status = .changed ∨ first.watch.status = .readFailed) :
    controller.watch = first.watch := by
  induction h with
  | refl => rfl
  | step _ hstep ih => rw [step_keeps hstep (by rwa [ih]), ih]

/-- A callback of another generation only ends. -/
lemma enter_stale (controller : BaselineWatchController) (index : ℕ) (second : UInt32)
    {generation : UInt64} (sample : ClockedRead) (h : generation ≠ controller.generation) :
    controller.enter index second generation sample =
      ({ controller with callbacks := controller.callbacks.eraseIdx index }, .dropped) := by
  rw [enter, if_pos (.inl h.symm)]

/-- In every run at most one timer callback is outstanding; a callback of an older generation
changes nothing; a change or a failed read is never left; the samples are one more than the last
second; and a stable watch rests on the 61 valid system samples of the seconds 0 to 60 since its
start, 0.9 to 5 seconds apart and at least 60 seconds in all. -/
theorem watch_runs :
    (∀ controller events, Reaches initial controller events →
      controller.callbacks.length ≤ 1 ∧
      (controller.watch.status = .running ∨ controller.watch.status = .stable ∨
        controller.watch.status = .changed →
          controller.watch.samples.toNat = controller.watch.lastSecond.toNat + 1) ∧
      (controller.watch.status = .stable → ∃ before opening after last,
        events = before ++ .started opening :: after ∧
        (∀ event ∈ after, event.isStarted = false) ∧
        WatchWindow (samplesSince opening after) ∧ (samplesSince opening after).length = 61 ∧
        (samplesSince opening after).getLast? = some last ∧
        opening.nowNs.toNat + 60000000000 ≤ last.2.nowNs.toNat)) ∧
    (∀ (controller : BaselineWatchController) index second generation sample,
      generation ≠ controller.generation →
      controller.enter index second generation sample =
        ({ controller with callbacks := controller.callbacks.eraseIdx index }, .dropped)) ∧
    ∀ first controller events, Reaches first controller events →
      first.watch.status = .changed ∨ first.watch.status = .readFailed →
      controller.watch = first.watch := by
  refine ⟨fun controller events h => ⟨?_, fun hstatus => ?_, fun hstable => ?_⟩,
    fun controller index second generation sample h => enter_stale controller index second sample h,
    fun first controller events h hstatus => h.keeps hstatus⟩
  · rcases h.sound.chain with hnone | ⟨callback, hone, -⟩
    · rw [hnone]
      exact Nat.zero_le 1
    · rw [hone]
      rfl
  · exact (h.sound.counted hstatus).1
  · obtain ⟨before, opening, after, rfl, hbehind⟩ := h.sound.window (.inr hstable)
    obtain ⟨hfinal, hspan⟩ := h.sound.stable hstable
    obtain ⟨last, hlast, htime⟩ := hbehind.last
    have hlength := hbehind.length
    rw [hfinal] at hlength
    refine ⟨before, opening, after, last, rfl, hbehind.latest, hbehind.window, hlength, hlast, ?_⟩
    rwa [hbehind.started, htime]

end BaselineWatchController
end Ventilator
