import Ventilator.HelperReplies

/-! Which of the daemon's descriptions of a snapshot its clients accept. -/
namespace Ventilator
open Double PropertyValue PropertyNumber

/-- No target and no speed of the snapshot is below zero. -/
def SmcBaselineSnapshot.speedsNonnegative (snapshot : SmcBaselineSnapshot) : Bool :=
  (List.finRange 2).all fun fan =>
    !lt (snapshot.targetRpm fan) (finite 0) && !lt (snapshot.actualRpm fan) (finite 0)

@[simp] lemma number?_ofUInt8 (n : UInt8) :
    number? (some (ofUInt8 n)) = some (.integer n.toNat) := rfl
@[simp] lemma number?_ofUInt32 (n : UInt32) :
    number? (some (ofUInt32 n)) = some (.integer n.toNat) := rfl
@[simp] lemma number?_ofUInt64 (n : UInt64) :
    number? (some (ofUInt64 n)) = some (.integer n.toNat) := rfl
@[simp] lemma number?_ofBool (b : Bool) : number? (some (ofBool b)) = some (.bool b) := rfl
@[simp] lemma isNumber_ofBool (b : Bool) (n : PropertyNumber) :
    isNumber (some (ofBool b)) n = (PropertyNumber.bool b).isEqual n := rfl

/-- A described temperature is one that the client takes. -/
@[simp] lemma helperTemperatureValueValid_value (celsius : Double) :
    helperTemperatureValueValid (helperTemperatureValue celsius) = true := by
  by_cases h : smcBaselineTemperatureValid celsius = true
  · rw [helperTemperatureValue, if_pos h]
    exact h
  · rw [helperTemperatureValue, if_neg h]
    rfl

/-- A fan with finite speeds is refused exactly when one of them is negative. -/
lemma fanBaseline_described {mode : UInt8} {target actual : Double}
    (htarget : target.isfinite = true) (hactual : actual.isfinite = true) :
    fanBaseline (ofUInt8 mode) (.number (.real target)) (.number (.real actual)) =
      if lt target (finite 0) ∨ lt actual (finite 0) then none
      else some (mode == 3 && !lt (finite 1) (fabs target)) := by
  have hmode : (mode.toUInt64 == 3) = (mode == 3) := by
    rw [Bool.eq_iff_iff, beq_iff_eq, beq_iff_eq, ← UInt64.toNat_inj, ← UInt8.toNat_inj]
    simp
  have hfabs : (fabs target).isfinite = true := by
    cases target <;> simp_all [fabs]
  have hle : le (fabs target) (finite 1) = !lt (finite 1) (fabs target) := by
    rw [le_of_isfinite hfabs rfl, lt_of_isfinite rfl hfabs, ← decide_not]
    exact decide_eq_decide.mpr not_lt.symm
  simp only [fanBaseline, ofUInt8, doubleValue_real, htarget, hactual, not_true_eq_false, false_or,
    unsignedLongLongValue_ofUInt8, hmode, hle]

/-- The entries of a snapshot that was read are refused exactly when a speed is negative, and
otherwise amount to the daemon's own classification. -/
lemma describedBaseline_entries {snapshot : SmcBaselineSnapshot} (h : snapshot.Readable)
    (d : PropertyDictionary) :
    describedBaseline (d.setAll snapshot.entries) =
      if snapshot.speedsNonnegative then some (smcBaselineIsSystem snapshot) else none := by
  have hftst : (snapshot.ftst.toUInt64 == 0) = (snapshot.ftst == 0) := by
    rw [Bool.eq_iff_iff, beq_iff_eq, beq_iff_eq, ← UInt64.toNat_inj, ← UInt8.toNat_inj]
    simp
  have hsystem : smcBaselineIsSystem snapshot = (snapshot.ftst == 0 &&
      (snapshot.mode 0 == 3 && !lt (finite 1) (fabs (snapshot.targetRpm 0))) &&
      (snapshot.mode 1 == 3 && !lt (finite 1) (fabs (snapshot.targetRpm 1)))) := by
    simp [smcBaselineIsSystem, List.finRange_succ, h.target, Bool.and_assoc]
  have hnonnegative : snapshot.speedsNonnegative =
      (!(lt (snapshot.targetRpm 0) (finite 0) || lt (snapshot.actualRpm 0) (finite 0)) &&
        !(lt (snapshot.targetRpm 1) (finite 0) || lt (snapshot.actualRpm 1) (finite 0))) := by
    simp [SmcBaselineSnapshot.speedsNonnegative, List.finRange_succ]
  simp only [describedBaseline, SmcBaselineSnapshot.entries, PropertyDictionary.setAll_cons,
    PropertyDictionary.setAll_nil, PropertyDictionary.get_set, String.reduceEq, if_true, if_false,
    number?_ofUInt8, array?_array, fanBaseline_described (h.target _) (h.actual _),
    helperTemperatureValueValid_value, Bool.and_self, unsignedLongLongValue_ofUInt8, hftst]
  rw [hsystem, hnonnegative]
  generalize lt (snapshot.targetRpm 0) (finite 0) = t0
  generalize lt (snapshot.actualRpm 0) (finite 0) = a0
  generalize lt (snapshot.targetRpm 1) (finite 0) = t1
  generalize lt (snapshot.actualRpm 1) (finite 0) = a1
  cases t0 <;> cases a0 <;> cases t1 <;> cases a1 <;> rfl

/-! What a watch shows of the reads behind it. -/

/-- The reading is what a machine answered, with the clocks read after it. -/
def Reading.FromRead (reading : Reading) : Prop :=
  ∃ (machine : BaselineMachine) (sampledAt continuousAt : UInt64),
    reading = (ClockedRead.mk machine.smcBaselineRead.1 machine.smcBaselineRead.2 sampledAt
      continuousAt).reading

lemma Reading.FromRead.readable {reading : Reading} (h : reading.FromRead)
    (hok : reading.result = .ok) : ∃ s, reading.snapshot = some s ∧ s.Readable := by
  obtain ⟨machine, sampledAt, continuousAt, rfl⟩ := h
  by_cases hclock : sampledAt = 0
  · simp [ClockedRead.reading, hclock] at hok
  · simp only [ClockedRead.reading, if_neg hclock] at hok
    have hread : machine.smcBaselineRead = (.ok, machine.smcBaselineRead.2) := Prod.ext hok rfl
    exact ⟨_, rfl, BaselineMachine.smcBaselineRead_readable hread⟩

namespace BaselineWatch

/-- The state of a watch that has counted a sample each second. -/
inductive Phase (watch : BaselineWatch) : Prop
  | running (status : watch.status = .running)
    (system : smcBaselineIsSystem watch.latest = true) (second : watch.lastSecond.toNat < 60)
  | stable (status : watch.status = .stable)
    (system : smcBaselineIsSystem watch.latest = true) (second : watch.lastSecond.toNat = 60)
  | changed (status : watch.status = .changed)
    (system : smcBaselineIsSystem watch.latest = false) (second : watch.lastSecond.toNat ≤ 60)

/-- What a watch can show when all its samples come from reads. -/
inductive Shown (watch : BaselineWatch) : Prop
  | idle (status : watch.status = .idle) (samples : watch.samples = 0)
    (second : watch.lastSecond = 0)
  | failed (status : watch.status = .readFailed) (samples : watch.samples.toNat ≤ 60)
    (second : watch.lastSecond.toNat ≤ 59)
  | counted (samples : watch.samples = watch.lastSecond + 1) (readable : watch.latest.Readable)
    (phase : watch.Phase)

lemma shown_start {reading : Reading} (h : reading.FromRead) :
    (start reading.result reading.snapshot reading.nowNs).Shown := by
  unfold start
  cases hsnapshot : reading.snapshot with
  | none => exact .failed rfl (Nat.zero_le 60) (Nat.zero_le 59)
  | some latest =>
    dsimp only
    by_cases hresult : reading.result ≠ .ok
    · rw [if_pos hresult]
      exact .failed rfl (Nat.zero_le 60) (Nat.zero_le 59)
    rw [if_neg hresult]
    by_cases htime : reading.nowNs = 0
    · rw [if_pos htime]
      exact .failed rfl (Nat.zero_le 60) (Nat.zero_le 59)
    rw [if_neg htime]
    obtain ⟨s, hs, hreadable⟩ := h.readable (not_not.mp hresult)
    obtain rfl := Option.some.inj (hsnapshot.symm.trans hs)
    refine .counted rfl hreadable ?_
    cases hsystem : smcBaselineIsSystem (some latest) with
    | true => exact .running rfl hsystem (Nat.zero_lt_succ 59)
    | false => exact .changed rfl hsystem (Nat.zero_le 60)

lemma shown_next {watch : BaselineWatch} (h : watch.Shown) (second : UInt32) {reading : Reading}
    (hread : reading.FromRead) :
    (watch.next second reading.result reading.snapshot reading.nowNs).Shown := by
  by_cases hrunning : watch.status = .running
  swap
  · rwa [next_of_stopped hrunning]
  cases h with
  | idle hidle => cases hrunning.symm.trans hidle
  | failed hfailed => cases hrunning.symm.trans hfailed
  | counted hsamples hreadable hphase =>
    cases hphase with
    | stable hstable => cases hrunning.symm.trans hstable
    | changed hchanged => cases hrunning.symm.trans hchanged
    | running _ _ hlast =>
      have hcount : watch.samples.toNat = watch.lastSecond.toNat + 1 := by
        rw [hsamples, UInt32.toNat_add, UInt32.toNat_one]
        omega
      have hle : watch.samples.toNat ≤ 60 := by omega
      unfold next
      rw [if_neg (not_not.mpr hrunning)]
      split
      · exact .failed rfl hle (by show watch.lastSecond.toNat ≤ 59; omega)
      rename_i hchecks
      rw [not_or, not_or, not_not, not_not] at hchecks
      obtain ⟨hexpected, hbound, hresult⟩ := hchecks
      obtain ⟨s, hs, hlatest⟩ := hread.readable hresult
      rw [hs]
      dsimp only
      split
      · exact .failed rfl hle (by show watch.lastSecond.toNat ≤ 59; omega)
      have hsecond : second.toNat ≤ 60 := by
        rw [gt_iff_lt, UInt32.lt_iff_toNat_lt, not_lt] at hbound
        exact hbound
      refine .counted ?_ hlatest ?_
      · rw [hsamples, hexpected]
      · by_cases hsystem : smcBaselineIsSystem (some s) = true
        · by_cases hfinal : second = finalSecond
          · exact .stable (by simp [hsystem, hfinal]) hsystem (by rw [hfinal]; rfl)
          · have hne : second.toNat ≠ 60 := fun he => hfinal (UInt32.toNat_inj.mp he)
            exact .running (by simp [hsystem, hfinal, hrunning]) hsystem (by dsimp only; omega)
        · exact .changed (by simp [hsystem]) (Bool.eq_false_iff.mpr hsystem) hsecond

end BaselineWatch

namespace BaselineWatchController

/-- A step keeps the watch or gives it one sample. -/
lemma step_watch {controller next : BaselineWatchController} {input : WatchInput}
    {event : WatchEvent} (hstep : controller.step input = some (next, event)) :
    next.watch = controller.watch ∨ ∃ second reading, event.sample? = some (second, reading) ∧
      (next.watch = BaselineWatch.start reading.result reading.snapshot reading.nowNs ∨
        next.watch =
          controller.watch.next second reading.result reading.snapshot reading.nowNs) := by
  cases input with
  | start sample =>
    rw [BaselineWatchController.step, BaselineWatchController.start] at hstep
    split at hstep
    · obtain ⟨rfl, -⟩ := Prod.mk.inj (Option.some.inj hstep)
      exact .inl rfl
    · obtain ⟨rfl, rfl⟩ := Prod.mk.inj (Option.some.inj hstep)
      exact .inr ⟨0, sample.reading, rfl, .inl rfl⟩
  | status =>
    obtain ⟨rfl, -⟩ := Prod.mk.inj (Option.some.inj hstep)
    exact .inl rfl
  | sample index sample =>
    simp only [BaselineWatchController.step] at hstep
    split at hstep
    · obtain ⟨rfl, -⟩ := Prod.mk.inj (Option.some.inj hstep)
      exact .inl rfl
    · cases hstep
  | enter index =>
    simp only [BaselineWatchController.step] at hstep
    split at hstep
    · rename_i second generation sample _
      rw [BaselineWatchController.enter] at hstep
      split at hstep
      · obtain ⟨rfl, -⟩ := Prod.mk.inj (Option.some.inj hstep)
        exact .inl rfl
      · obtain ⟨rfl, rfl⟩ := Prod.mk.inj (Option.some.inj hstep)
        exact .inr ⟨second, sample.reading, rfl, .inr rfl⟩
    · cases hstep
  | schedule index =>
    simp only [BaselineWatchController.step] at hstep
    split at hstep
    · obtain ⟨rfl, -⟩ := Prod.mk.inj (Option.some.inj hstep)
      exact .inl rfl
    · cases hstep

/-- Every watch that is reached with samples from reads shows them. -/
lemma Reaches.shown {controller : BaselineWatchController} {events : List WatchEvent}
    (h : Reaches initial controller events)
    (hreads : ∀ event ∈ events, ∀ s, event.sample? = some s → s.2.FromRead) :
    controller.watch.Shown := by
  induction h with
  | refl => exact .idle rfl rfl rfl
  | @step controller next events input event _ hstep ih =>
    have hbefore := ih fun e he => hreads e (List.mem_append_left _ he)
    rcases step_watch hstep with hkeep | ⟨second, reading, hsample, hnext⟩
    · rwa [hkeep]
    · have hread : reading.FromRead := hreads event (by simp) _ hsample
      rcases hnext with hnext | hnext
      · rw [hnext]
        exact BaselineWatch.shown_start hread
      · rw [hnext]
        exact BaselineWatch.shown_next hbefore second hread

end BaselineWatchController
/-! The three checks. -/

/-- A process id as the kernel gives it. -/
abbrev ProcessId := {pid : Int32 // 0 < pid}

/-- The keys of the entries do not depend on the snapshot. -/
lemma keys_setAll_entries (d : PropertyDictionary) (snapshot : SmcBaselineSnapshot) :
    (d.setAll snapshot.entries).keys = insert "temperatures_c" (insert "actual_rpm"
      (insert "target_rpm" (insert "mode" (insert "Ftst" (insert "baseline" d.keys))))) := rfl

/-- The entries leave every other key alone. -/
lemma get_setAll_entries {key : String} (d : PropertyDictionary) (snapshot : SmcBaselineSnapshot)
    (h : key ∉ ["baseline", "Ftst", "mode", "target_rpm", "actual_rpm", "temperatures_c"]) :
    (d.setAll snapshot.entries).get key = d.get key := by
  simp only [List.mem_cons, List.not_mem_nil, or_false, not_or] at h
  simp [SmcBaselineSnapshot.entries, h]

lemma get_baseline_setAll_entries (d : PropertyDictionary) (snapshot : SmcBaselineSnapshot) :
    (d.setAll snapshot.entries).get "baseline" = some (ofBool (smcBaselineIsSystem snapshot)) := by
  simp [SmcBaselineSnapshot.entries]

/-- What a client makes of the entries: a refusal, or the daemon's own classification. -/
lemma any_describedBaseline {snapshot : SmcBaselineSnapshot} (h : snapshot.Readable)
    (d : PropertyDictionary) (check : Bool → Bool) :
    ((describedBaseline (d.setAll snapshot.entries)).any fun baseline =>
        isNumber ((d.setAll snapshot.entries).get "baseline") (.bool baseline) && check baseline) =
      (snapshot.speedsNonnegative && check (smcBaselineIsSystem snapshot)) := by
  rw [describedBaseline_entries h, get_baseline_setAll_entries]
  cases snapshot.speedsNonnegative <;> simp

/-- The client's check of the entries of a complete reply. -/
lemma baselineResponseValid_entries {snapshot : SmcBaselineSnapshot} (h : snapshot.Readable)
    (clock : UInt64) :
    helperBaselineResponseValid (fetchBaselineReply (.ok, snapshot) (some clock)) =
      (clock != 0 && snapshot.speedsNonnegative) := by
  have hcount : (fetchBaselineReply (.ok, snapshot) (some clock)).count = 11 := by
    show Finset.card _ = 11
    simp only [fetchBaselineReply, ne_eq, not_true_eq_false, if_false, keys_setAll_entries]
    rfl
  have hany := any_describedBaseline h (PropertyDictionary.ofList
    [("protocol_version", .number helperStatusProtocolVersion), ("available", ofBool true),
      ("model", .string "Mac15,7"), ("macos", .string "27.0"),
      ("sample_monotonic_ns", ofUInt64 clock)]) fun _ => true
  simp only [Bool.and_true] at hany
  rw [helperBaselineResponseValid, hcount]
  simp only [fetchBaselineReply, ne_eq, not_true_eq_false, if_false, hany]
  simp [get_setAll_entries, PropertyDictionary.ofList, unsignedLongLongValue_ofUInt64]

/-- The check of a baseline reply looks at these keys and the count only. -/
lemma helperBaselineResponseValid_congr {d e : PropertyDictionary} (hcount : d.count = e.count)
    (hget : ∀ key, key ≠ "state" → key ≠ "daemon_pid" → key ≠ "control_allowed" →
      d.get key = e.get key) : helperBaselineResponseValid d = helperBaselineResponseValid e := by
  have hkey : ∀ key ∈ ["protocol_version", "available", "model", "macos", "sample_monotonic_ns",
      "baseline", "Ftst", "mode", "target_rpm", "actual_rpm", "temperatures_c"],
      d.get key = e.get key := by
    intro key hkey
    refine hget key ?_ ?_ ?_ <;> rintro rfl <;> simp at hkey
  have hdescribed : describedBaseline d = describedBaseline e := by
    unfold describedBaseline
    rw [hkey "Ftst" (by simp), hkey "mode" (by simp), hkey "target_rpm" (by simp),
      hkey "actual_rpm" (by simp), hkey "temperatures_c" (by simp)]
  unfold helperBaselineResponseValid
  rw [hdescribed, hcount, hkey "protocol_version" (by simp), hkey "available" (by simp),
    hkey "model" (by simp), hkey "macos" (by simp), hkey "sample_monotonic_ns" (by simp),
    hkey "baseline" (by simp)]

/-- The client's check of a startup audit that was read. -/
lemma startupAuditResponseValid_entries {snapshot : SmcBaselineSnapshot} (h : snapshot.Readable)
    (pid : ProcessId) {sampledAt : UInt64} (hclock : sampledAt ≠ 0) :
    helperStartupAuditResponseValid (startupAuditStatus pid (.ok, snapshot) sampledAt) =
      snapshot.speedsNonnegative := by
  have hcount : (startupAuditStatus pid (.ok, snapshot) sampledAt).count = 14 := by
    show Finset.card _ = 14
    simp only [startupAuditStatus, hclock, ne_eq, not_true_eq_false, if_false, keys_setAll_entries]
    rfl
  have hsnapshot : helperBaselineResponseValid
      ((((startupAuditStatus pid (.ok, snapshot) sampledAt).remove "state").remove
        "daemon_pid").remove "control_allowed") = snapshot.speedsNonnegative := by
    rw [helperBaselineResponseValid_congr (e := fetchBaselineReply (.ok, snapshot) (some sampledAt)),
      baselineResponseValid_entries h]
    · simp [hclock]
    · show Finset.card _ = Finset.card _
      simp only [startupAuditStatus, fetchBaselineReply, hclock, ne_eq, not_true_eq_false, if_false,
        keys_setAll_entries, PropertyDictionary.keys_remove]
      rfl
    · intro key hstate hpid hcontrol
      simp [startupAuditStatus, fetchBaselineReply, hclock, SmcBaselineSnapshot.entries,
        PropertyDictionary.ofList, hstate, hpid, hcontrol]
  have hpid : (0 : Int32) < (PropertyNumber.integer pid.1.toInt).intValue := by
    rw [intValue_ofInt32]
    exact pid.2
  have hbaseline : (startupAuditStatus pid (.ok, snapshot) sampledAt).get "baseline" =
      some (ofBool (smcBaselineIsSystem snapshot)) := by
    simp [startupAuditStatus, hclock, get_baseline_setAll_entries]
  have hstate : (startupAuditStatus pid (.ok, snapshot) sampledAt).get "state" = some (.string
      (if smcBaselineIsSystem snapshot then "system_at_start" else "changed_at_start")) := by
    simp [startupAuditStatus, hclock, get_setAll_entries]
  simp only [helperStartupAuditResponseValid, hcount, hsnapshot, hbaseline, hstate]
  simp [startupAuditStatus, hclock, get_setAll_entries, PropertyDictionary.ofList, hpid]
  cases smcBaselineIsSystem (some snapshot) <;> simp

/-- A startup audit that failed is accepted under every reason it can have. -/
lemma startupAuditResponseValid_failed (pid : ProcessId)
    {read : SmcBaselineResult × SmcBaselineSnapshot} {sampledAt : UInt64}
    (h : sampledAt = 0 ∨ read.1 ≠ .ok) :
    helperStartupAuditResponseValid (startupAuditStatus pid read sampledAt) = true := by
  have hpid : (0 : Int32) < (PropertyNumber.integer pid.1.toInt).intValue := by
    rw [intValue_ofInt32]
    exact pid.2
  obtain ⟨result, snapshot⟩ := read
  by_cases hclock : sampledAt = 0
  · simp [helperStartupAuditResponseValid, startupAuditStatus, hclock, PropertyDictionary.ofList,
      hpid, PropertyDictionary.count, startupAuditReasons, SmcBaselineResult.name]
  · have hresult : result ≠ .ok := h.resolve_left hclock
    cases result <;>
      simp_all [helperStartupAuditResponseValid, startupAuditStatus, PropertyDictionary.ofList,
        PropertyDictionary.count, startupAuditReasons, SmcBaselineResult.name]

/-- The seconds and samples of a watch that has counted a sample each second. -/
lemma BaselineWatch.Phase.bounds {watch : BaselineWatch} (h : watch.Phase)
    (hsamples : watch.samples = watch.lastSecond + 1) :
    watch.samples ≠ 0 ∧ ¬ 61 < watch.samples ∧ watch.lastSecond = watch.samples - 1 := by
  have hsecond : watch.lastSecond.toNat ≤ 60 := by
    cases h <;> omega
  have hnat : watch.samples.toNat = watch.lastSecond.toNat + 1 := by
    rw [hsamples, UInt32.toNat_add, UInt32.toNat_one]
    omega
  refine ⟨fun hzero => ?_, fun hlt => ?_, ?_⟩
  · rw [hzero] at hnat
    simp at hnat
  · have hlt := UInt32.lt_iff_toNat_lt.mp hlt
    have h61 : (61 : UInt32).toNat = 61 := rfl
    omega
  · rw [hsamples, add_sub_cancel_right]

/-- The status reply of a watch that has counted samples. -/
lemma statusReply_counted {controller : BaselineWatchController} (pid : ProcessId)
    (hsamples : controller.watch.samples ≠ 0)
    (hstatus : controller.watch.status ≠ .readFailed) :
    controller.statusReply pid = (PropertyDictionary.ofList
      [("protocol_version", .number helperStatusProtocolVersion),
        ("state", .string controller.watch.status.name),
        ("samples", ofUInt32 controller.watch.samples),
        ("last_second", ofUInt32 controller.watch.lastSecond),
        ("daemon_pid", .number (.integer pid.1.toInt)),
        ("started_monotonic_ns", ofUInt64 controller.startedAt),
        ("last_sample_monotonic_ns", ofUInt64 controller.lastSampleAt)]).setAll
      controller.watch.latest.entries := by
  have hpositive : 0 < controller.watch.samples := UInt32.pos_iff_ne_zero.mpr hsamples
  simp only [BaselineWatchController.statusReply, if_neg hstatus]
  rw [if_pos ⟨hpositive, hstatus⟩]

/-- The client's check of a watch in any state that it can show. -/
lemma watchResponseValid_shown {controller : BaselineWatchController}
    (h : controller.watch.Shown) (pid : ProcessId) :
    helperWatchResponseValid (controller.statusReply pid) =
      (controller.watch.status == .idle || controller.watch.status == .readFailed ||
        controller.watch.latest.speedsNonnegative) := by
  have hpid : (0 : Int32) < (PropertyNumber.integer pid.1.toInt).intValue := by
    rw [intValue_ofInt32]
    exact pid.2
  cases h with
  | idle hstatus hsamples hsecond =>
    have hzero : (PropertyNumber.integer 0).unsignedIntValue = 0 := unsignedIntValue_ofUInt32 0
    simp [helperWatchResponseValid, BaselineWatchController.statusReply, hstatus, hsamples,
      hsecond, PropertyDictionary.ofList, hpid, BaselineWatchStatus.name, PropertyDictionary.count,
      hzero]
  | failed hstatus hsamples hsecond =>
    have hsamples' : controller.watch.samples ≤ 60 := UInt32.le_iff_toNat_le.mpr hsamples
    have hsecond' : controller.watch.lastSecond ≤ 59 := UInt32.le_iff_toNat_le.mpr hsecond
    simp [helperWatchResponseValid, BaselineWatchController.statusReply, hstatus,
      PropertyDictionary.ofList, hpid, BaselineWatchStatus.name, PropertyDictionary.count,
      unsignedIntValue_ofUInt32, hsamples', hsecond']
  | counted hsamples hreadable hphase =>
    obtain ⟨hzero, hmany, hsecond⟩ := hphase.bounds hsamples
    have hfailed : controller.watch.status ≠ .readFailed := by
      cases hphase <;> simp [*]
    have hidle : controller.watch.status ≠ .idle := by
      cases hphase <;> simp [*]
    have hcount : (controller.statusReply pid).count = 13 := by
      rw [statusReply_counted pid hzero hfailed]
      show Finset.card _ = 13
      rw [keys_setAll_entries]
      rfl
    rw [helperWatchResponseValid, hcount, statusReply_counted pid hzero hfailed]
    simp only [any_describedBaseline hreadable]
    simp [get_setAll_entries, PropertyDictionary.ofList, hpid, unsignedIntValue_ofUInt32, hzero,
      hmany, ← hsecond]
    cases hphase with
    | running hstatus hsystem hlast =>
      have hlast' : controller.watch.lastSecond < 60 := UInt32.lt_iff_toNat_lt.mpr hlast
      simp [hstatus, BaselineWatchStatus.name, hsystem, hlast']
    | stable hstatus hsystem hlast =>
      have hlast' : controller.watch.lastSecond = 60 := UInt32.toNat_inj.mp hlast
      have hsamples' : controller.watch.samples = 61 := by
        rw [hsamples, hlast']
        rfl
      simp [hstatus, BaselineWatchStatus.name, hsystem, hlast', hsamples']
    | changed hstatus hsystem hlast =>
      simp [hstatus, BaselineWatchStatus.name, hsystem]

/-- A described snapshot is accepted exactly when none of its targets and speeds is negative and
its clock was read, and a description of a failure always. What is accepted carries the daemon's
own classification. -/
theorem helper_replies_accepted_iff :
    (∀ (machine : BaselineMachine) (snapshot : SmcBaselineSnapshot) (clock : UInt64),
      machine.smcBaselineRead = (.ok, snapshot) →
      (helperBaselineResponseValid (fetchBaselineReply machine.smcBaselineRead (some clock)) ↔
        clock ≠ 0 ∧ snapshot.speedsNonnegative) ∧
      (fetchBaselineReply machine.smcBaselineRead (some clock)).get "baseline" =
        some (ofBool (smcBaselineIsSystem snapshot))) ∧
    (∀ (machine : BaselineMachine) (pid : ProcessId) (sampledAt : UInt64),
      helperStartupAuditResponseValid
          (startupAuditStatus pid machine.smcBaselineRead sampledAt) ↔
        (sampledAt = 0 ∨ machine.smcBaselineRead.1 ≠ .ok) ∨
          machine.smcBaselineRead.2.speedsNonnegative) ∧
    ∀ (controller : BaselineWatchController) (events : List WatchEvent) (pid : ProcessId),
      BaselineWatchController.Reaches .initial controller events →
      (∀ event ∈ events, ∀ s, event.sample? = some s → s.2.FromRead) →
      (helperWatchResponseValid (controller.statusReply pid) ↔
        controller.watch.status = .idle ∨ controller.watch.status = .readFailed ∨
          controller.watch.latest.speedsNonnegative) ∧
      (controller.watch.status = .running ∨ controller.watch.status = .stable →
        smcBaselineIsSystem controller.watch.latest) ∧
      (controller.watch.status = .changed → ¬ smcBaselineIsSystem controller.watch.latest) := by
  refine ⟨fun machine snapshot clock h => ?_, fun machine pid sampledAt => ?_,
    fun controller events pid h hreads => ?_⟩
  · have hreadable := BaselineMachine.smcBaselineRead_readable h
    rw [h, baselineResponseValid_entries hreadable]
    refine ⟨by simp, ?_⟩
    simp [fetchBaselineReply, get_baseline_setAll_entries]
  · by_cases hfailed : sampledAt = 0 ∨ machine.smcBaselineRead.1 ≠ .ok
    · exact iff_of_true (startupAuditResponseValid_failed pid hfailed) (.inl hfailed)
    · obtain ⟨hclock, hresult⟩ := not_or.mp hfailed
      have hread : machine.smcBaselineRead = (.ok, machine.smcBaselineRead.2) :=
        Prod.ext (not_not.mp hresult) rfl
      have hreadable := BaselineMachine.smcBaselineRead_readable hread
      rw [or_iff_right hfailed, ← startupAuditResponseValid_entries hreadable pid hclock, ← hread]
  · have hshown := h.shown hreads
    refine ⟨?_, ?_, ?_⟩
    · rw [watchResponseValid_shown hshown]
      simp [or_assoc]
    · intro hstatus
      cases hshown with
      | idle hidle => simp [hidle] at hstatus
      | failed hfailed => simp [hfailed] at hstatus
      | counted _ _ hphase => cases hphase <;> simp_all
    · intro hstatus
      cases hshown with
      | idle hidle => simp [hidle] at hstatus
      | failed hfailed => simp [hfailed] at hstatus
      | counted _ _ hphase => cases hphase <;> simp_all

/-- A machine in system mode whose first fan reports a target of -0.5. -/
def negativeTargetMachine : BaselineMachine where
  model := some "Mac15,7"
  version := some "27.0"
  service := true
  opens := true
  keyInfo := fun key =>
    if key.get 2 = 'T'.toUInt8 ∨ key.get 2 = 'A'.toUInt8 ∨ key.get 0 = 'T'.toUInt8 then
      some (fourcc typeFlt, 4)
    else some (fourcc typeUi8, 1)
  keyBytes := fun key =>
    if key = fourChars 'F' 'N' 'u' 'm' then some (.ofList [2])
    else if key.get 2 = 'M'.toUInt8 then some (.ofList [3])
    else if key = fourChars 'F' '0' 'T' 'g' then some (.ofList [0, 0, 0, 0xbf])
    else some .zero

/-- Its snapshot is read and is the system's baseline, and the client refuses the reply. -/
theorem negativeTarget_baseline_refused :
    negativeTargetMachine.smcBaselineRead.1 = .ok ∧
      smcBaselineIsSystem negativeTargetMachine.smcBaselineRead.2 = true ∧
      helperBaselineResponseValid
        (fetchBaselineReply negativeTargetMachine.smcBaselineRead (some 1)) = false := by
  refine ⟨by decide +kernel, by decide +kernel, by decide +kernel⟩

end Ventilator
