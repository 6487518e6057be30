import Ventilator.HelperReplyContract
import Ventilator.ProbeAdmission
import Ventilator.PropertyJson
import Ventilator.SupervisorTally

/-! Which of the reports of recoveries that the runner prints the daemon accepts. -/
namespace Ventilator
open CallTree JsonText PropertyValue

def ofPid (pid : Pid) : PropertyValue := .number (.integer pid.toInt)

namespace ProbeReport

/-- The property list that the printed report stands for. -/
def dictionary (report : ProbeReport) : PropertyDictionary := .ofList
  [("state", .string report.state), ("runner_pid", ofPid report.runnerPid),
    ("runner_uid", ofUInt32 report.runnerUid), ("resumed", ofBool report.resumed),
    ("admission_pid", ofPid report.admissionPid),
    ("admission_samples", ofUInt32 report.admissionSamples),
    ("admission_duration_ns", ofUInt64 report.admissionDurationNs),
    ("operation_pid", ofPid report.operationPid), ("recovery_pid", ofPid report.recoveryPid),
    ("observer_pid", ofPid report.observerPid), ("reaped", ofUInt32 report.reaped),
    ("recovery_samples", ofUInt32 report.recoverySamples),
    ("recovery_duration_ns", ofUInt64 report.recoveryDurationNs),
    ("journal_clear", ofBool report.journalClear)]

/-- The members that `main` prints, in their order. -/
def members (report : ProbeReport) : List (String × JsonElement) :=
  [("state", .string report.state), ("runner_pid", .number (.ofInt report.runnerPid.toInt)),
    ("runner_uid", .number (.ofInt report.runnerUid.toNat)), ("resumed", .boolean report.resumed),
    ("admission_pid", .number (.ofInt report.admissionPid.toInt)),
    ("admission_samples", .number (.ofInt report.admissionSamples.toNat)),
    ("admission_duration_ns", .number (.ofInt report.admissionDurationNs.toNat)),
    ("operation_pid", .number (.ofInt report.operationPid.toInt)),
    ("recovery_pid", .number (.ofInt report.recoveryPid.toInt)),
    ("observer_pid", .number (.ofInt report.observerPid.toInt)),
    ("reaped", .number (.ofInt report.reaped.toNat)),
    ("recovery_samples", .number (.ofInt report.recoverySamples.toNat)),
    ("recovery_duration_ns", .number (.ofInt report.recoveryDurationNs.toNat)),
    ("journal_clear", .boolean report.journalClear)]

/-- The line that `main` prints; its format has nothing between the tokens. -/
def output (report : ProbeReport) : List Char := (JsonElement.object report.members).text ++ ['\n']

example : String.ofList
    (output ⟨"pending", 2, 0, false, 3, 61, 60000000000, -1, 0, 0, 1, 0, 0, false⟩) =
      "\x7b\"state\":\"pending\",\"runner_pid\":2,\"runner_uid\":0,\"resumed\":false," ++
      "\"admission_pid\":3,\"admission_samples\":61,\"admission_duration_ns\":60000000000," ++
      "\"operation_pid\":-1,\"recovery_pid\":0,\"observer_pid\":0,\"reaped\":1," ++
      "\"recovery_samples\":0,\"recovery_duration_ns\":0,\"journal_clear\":false\x7d\n" := by
  decide +kernel

/-- The workers of a verified report. -/
def workers (report : ProbeReport) : List Pid :=
  if report.resumed then [report.recoveryPid, report.observerPid]
  else [report.admissionPid, report.operationPid, report.recoveryPid, report.observerPid]

/-- What the runner has done for a report that says verified. -/
structure Earned (report : ProbeReport) : Prop where
  runner : 0 < report.runnerPid
  uid : report.runnerUid = 0
  clear : report.journalClear = true
  recovery : 0 < report.recoveryPid
  observer : 0 < report.observerPid
  samples : report.recoverySamples = 61
  span : 60000000000 ≤ report.recoveryDurationNs
  resumed : report.resumed = true → report.admissionPid = 0 ∧ report.operationPid = 0 ∧
    report.admissionSamples = 0 ∧ report.admissionDurationNs = 0 ∧ report.reaped = 2
  admitted : report.resumed = false → 0 < report.admissionPid ∧ report.admissionSamples = 61 ∧
    60000000000 ≤ report.admissionDurationNs ∧ (0 < report.operationPid → report.reaped = 4)

end ProbeReport

/-! What the daemon's checks say of the report's numbers. -/

lemma number?_ofPid (pid : Pid) : number? (some (ofPid pid)) = some (.integer pid.toInt) := rfl

lemma supervisorUInt_ofPid (pid : Pid) :
    supervisorUInt (some (ofPid pid)) pidMax = decide (0 ≤ pid) := by
  by_cases hpid : 0 ≤ pid
  · rw [decide_eq_true hpid]
    exact supervisorUInt_pid hpid
  · have hneg : pid.toInt < 0 := by
      rw [Int32.le_iff_toInt_le] at hpid
      simpa using hpid
    have hle : Double.le (.finite 0) (.finite (pid.toInt : ℚ)) = false := by
      rw [Double.le_of_isfinite rfl rfl, decide_eq_false_iff_not, not_le]
      exact Int.cast_lt_zero.mpr hneg
    rw [decide_eq_false hpid]
    simp [supervisorUInt, number?_ofPid, hle]

lemma supervisorUInt_ofUInt32 (n : UInt32) (maximum : UInt64) :
    supervisorUInt (some (ofUInt32 n)) maximum = decide (n.toUInt64 ≤ maximum) := by
  have hnumber : ofUInt32 n = ofUInt64 n.toUInt64 := by simp [ofUInt32, ofUInt64]
  rw [hnumber, supervisorUInt_ofUInt64]

lemma intOf_ofPid (pid : Pid) : intOf (some (ofPid pid)) = pid := intOf_pid pid

lemma intOf_ofUInt32 (n : UInt32) : intOf (some (ofUInt32 n)) = .ofInt n.toNat := by
  simp [intOf, PropertyNumber.intValue]

lemma longOf_ofUInt64 (n : UInt64) : longOf (some (ofUInt64 n)) = n := by
  simp [longOf, PropertyNumber.unsignedLongLongValue_ofUInt64]

lemma boolOf_ofBool (b : Bool) : boolOf (some (ofBool b)) = b := by simp [boolOf]

lemma supervisorBool_ofBool (b : Bool) : supervisorBool (some (ofBool b)) = true := by
  simp [supervisorBool]

lemma nonneg_of_pos {pid : Pid} (h : 0 < pid) : 0 ≤ pid := Int32.le_of_lt h

lemma ne_of_pos {pid : Pid} (h : 0 < pid) : pid ≠ 0 := fun heq => by
  rw [heq] at h
  exact absurd h (by decide)

namespace ProbeReport

variable {report : ProbeReport}

lemma members_plain (h : PlainString report.state) :
    (JsonElement.object report.members).Plain := by
  simp only [members, JsonElement.Plain, JsonElement.PlainMembers, JsonNumber.ofInt_valid, h,
    true_and, and_true]
  decide

/-- The printed report is read back. -/
lemma readOutput_output (h : PlainString report.state) :
    readOutput report.output = some report.dictionary.toValue := by
  rw [readOutput, output, (members_plain h).parseDocument]
  simp [property?, members, members?, scalar?, dictionary, ofPid, ofUInt32, ofUInt64, ofBool]

lemma count_dictionary : report.dictionary.count = 14 := by
  simp [dictionary, PropertyDictionary.ofList, PropertyDictionary.count]

/-- A report of a resumption is accepted when its pids differ and its window was short enough. -/
lemma accepted_resumed (h : report.Earned) (hstate : report.state = "verified")
    (hresumed : report.resumed = true) :
    helperSupervisorReportValid (some report.dictionary.toValue) = true ↔
      (report.runnerPid :: report.workers).Nodup ∧
        report.recoveryDurationNs ≤ 75000000000 := by
  obtain ⟨hadmission, hoperation, hsamples, hduration, hreaped⟩ := h.resumed hresumed
  simp only [helperSupervisorReportValid, PropertyDictionary.dictionary?_toValue, Option.any_some,
    supervisorReportFields, count_dictionary]
  simp [dictionary, PropertyDictionary.ofList, hstate, h.uid, h.clear, h.samples, hresumed,
    hadmission, hoperation, hsamples, hduration, hreaped, supervisorUInt_ofPid,
    supervisorUInt_ofUInt32, intOf_ofPid, intOf_ofUInt32, longOf_ofUInt64, boolOf_ofBool,
    supervisorBool_ofBool, reportPids, distinctPids, number?_ofPid, workers,
    PropertyNumber.intValue_ofInt32, Int32.toInt_inj, nonneg_of_pos h.runner, ne_of_pos h.runner,
    nonneg_of_pos h.recovery, ne_of_pos h.recovery, nonneg_of_pos h.observer,
    ne_of_pos h.observer, h.span]
  tauto

/-- A report of a run is accepted when it forked its operation, its pids differ and both its windows
were short enough. -/
lemma accepted_admitted (h : report.Earned) (hstate : report.state = "verified")
    (hresumed : report.resumed = false) :
    helperSupervisorReportValid (some report.dictionary.toValue) = true ↔
      0 < report.operationPid ∧ (report.runnerPid :: report.workers).Nodup ∧
        report.admissionDurationNs ≤ 75000000000 ∧ report.recoveryDurationNs ≤ 75000000000 := by
  obtain ⟨hadmission, hsamples, hspan, hreaped⟩ := h.admitted hresumed
  simp only [helperSupervisorReportValid, PropertyDictionary.dictionary?_toValue, Option.any_some,
    supervisorReportFields, count_dictionary]
  by_cases hoperation : 0 < report.operationPid
  · simp [dictionary, PropertyDictionary.ofList, hstate, h.uid, h.clear, h.samples, hresumed,
      hsamples, hspan, hreaped hoperation, hoperation, supervisorUInt_ofPid,
      supervisorUInt_ofUInt32, intOf_ofPid, intOf_ofUInt32, longOf_ofUInt64, boolOf_ofBool,
      supervisorBool_ofBool, reportPids, distinctPids, number?_ofPid, workers,
      PropertyNumber.intValue_ofInt32, Int32.toInt_inj, nonneg_of_pos h.runner, ne_of_pos h.runner,
      nonneg_of_pos h.recovery, ne_of_pos h.recovery, nonneg_of_pos h.observer,
      ne_of_pos h.observer, nonneg_of_pos hadmission, ne_of_pos hadmission,
      nonneg_of_pos hoperation, ne_of_pos hoperation, h.span]
    tauto
  · have hzero : 0 ≤ report.operationPid → report.operationPid = 0 :=
      fun hle => Int32.le_antisymm (Int32.not_lt.mp hoperation) hle
    have hvalue : (PropertyNumber.integer 0).intValue = 0 := PropertyNumber.intValue_ofInt32 0
    by_cases hle : 0 ≤ report.operationPid
    · simp [dictionary, PropertyDictionary.ofList, hstate, hresumed, hzero hle, hvalue, intOf_ofPid,
        boolOf_ofBool, reportPids, distinctPids, number?_ofPid, PropertyNumber.intValue_ofInt32]
    · simp [hoperation, dictionary, PropertyDictionary.ofList, reportPids, supervisorUInt_ofPid,
        hle]

/-- What the daemon asks beyond what every verified report has earned. -/
lemma accepted_iff (h : report.Earned) (hverified : report.state = "verified") :
    helperSupervisorReportValid (some report.dictionary.toValue) = true ↔
      (report.resumed = true ∨ 0 < report.operationPid) ∧
        (report.runnerPid :: report.workers).Nodup ∧
        report.admissionDurationNs ≤ 75000000000 ∧ report.recoveryDurationNs ≤ 75000000000 := by
  cases hresumed : report.resumed with
  | true =>
    obtain ⟨-, -, -, hduration, -⟩ := h.resumed hresumed
    rw [accepted_resumed h hverified hresumed, hduration]
    simp
  | false =>
    rw [accepted_admitted h hverified hresumed]
    simp

lemma plain_of_verified (hverified : report.state = "verified") : PlainString report.state := by
  rw [hverified]
  decide

end ProbeReport

/-! What the runner's calls of the supervisor come to. -/

/-- The span of a whole window. -/
lemma windowNs_whole {lease : ControlLease} (h : lease.WholeWindow) :
    60000000000 ≤ windowNs lease := by
  have hspan := h.span
  have hle : lease.observationStartedNs ≤ lease.lastSampleNs := by
    rw [UInt64.le_iff_toNat_le]
    omega
  rw [windowNs, if_pos hle, UInt64.le_iff_toNat_le, UInt64.toNat_sub_of_le _ _ hle]
  change 60000000000 ≤ _
  omega

namespace WorkerSupervisor

variable {supervisor : WorkerSupervisor} {state state' : Supervision}
  {trace : List SupervisorEvent} {report : WorkerSupervisorReport}

/-- The workers that a report counts, by their kinds. -/
lemma reaped_of_gives {entry : SupervisorEntry}
    (h : Gives (supervisor.entry entry).run state trace (some report) state')
    (hresult : report.result ≠ .stopFailed) :
    report.reaped.toNat = (if 0 < report.operationPid then 1 else 0) +
      (if 0 < report.recoveryPid then 1 else 0) + if 0 < report.observerPid then 1 else 0 := by
  have htallied := entry_tallied h
  rw [htallied.counted hresult, forks_eq, htallied.named, htallied.named, htallied.named]
  rfl

/-- A recovery is reported with its two workers and a whole window. -/
lemma recovered_of_gives {entry : SupervisorEntry}
    (h : Gives (supervisor.entry entry).run state trace (some report) state')
    (hresult : report.result = .recovered) :
    0 < report.recoveryPid ∧ 0 < report.observerPid ∧ state'.lease.WholeWindow ∧
      report.reaped.toNat = (if 0 < report.operationPid then 1 else 0) + 2 := by
  have htallied := entry_tallied h
  obtain ⟨hobserver, hwindow⟩ := htallied.verified (by rw [hresult]; rfl)
  have hrecovery := htallied.recovery hresult
  have hcounted := reaped_of_gives h (by rw [hresult]; nofun)
  rw [if_pos hrecovery, if_pos hobserver] at hcounted
  exact ⟨hrecovery, hobserver, hwindow, hcounted⟩

end WorkerSupervisor

/-- What an admission reports when its lease was claimed. -/
structure Admission.Passed (admission : Admission) : Prop where
  observer : 0 < admission.report.observerPid
  samples : admission.samples = 61
  span : 60000000000 ≤ admission.durationNs
  reaped : admission.report.reaped = 1

namespace SupervisorProbe
open ProbeM

variable {probe : SupervisorProbe} {before : List ProbeEvent} {state : Supervision}
  {directory : Int32} {mode : SupervisorProbeMode}

abbrev anyProbeCall : List ProbeEvent → ProbeEvent → Prop := fun _ _ => True

lemma supervise_gives {α : Type} (m : SupervisorM α) :
    Holds anyProbeCall before state (supervise m) fun a state' _ =>
      ∃ run, Gives m.run state run (some a) state' := by
  have hany : Holds WorkerSupervisor.anyCall [] state m fun _ _ _ => True :=
    holds_of_allowed fun _ _ => trivial
  refine (holds_supervise hany fun _ _ _ => trivial).mono ?_
  rintro a state' after ⟨run, hgives, -⟩
  exact ⟨run, hgives⟩

lemma controlIntentRead_leaves {supervisor : WorkerSupervisor} :
    Holds anyProbeCall before state (supervise supervisor.controlIntentRead)
      fun _ state' after => state' = state ∧
        ∃ run : List SupervisorEvent, after = before ++ run.map supervised := by
  refine (holds_supervise (WorkerSupervisor.quiet_controlIntentRead WorkerSupervisor.anyCall []
    state fun _ _ _ => trivial) fun _ _ _ => trivial).mono ?_
  rintro a state' after ⟨run, -, hafter, hstate, -⟩
  exact ⟨hstate, run, hafter⟩

lemma enterLease_passes : Holds anyProbeCall before state (probe.enterLease directory)
    fun admission _ _ => admission.claimed = true → admission.Passed := by
  refine (supervise_gives _).bind ?_
  rintro report state₁ after₁ ⟨run, hgives⟩
  refine Holds.get_bind ?_
  have hready : Holds anyProbeCall after₁ state₁ (probe.claimReady directory report.result)
      fun claimed _ _ => claimed = true → report.result = .baselineReady :=
    Holds.ite (fun h => (holds_of_allowed fun _ _ => trivial).mono fun _ _ _ _ _ => h)
      fun _ => .pure nofun
  refine hready.bind fun claimed state₂ after₂ hclaimed => .pure fun h => ?_
  have hbaseline : Gives ((probe.supervisor directory).entry .observeBaseline).run state run
    (some report) state₁ := hgives
  have hresult := hclaimed h
  have htallied := WorkerSupervisor.entry_tallied hbaseline
  obtain ⟨hobserver, hwindow⟩ := htallied.verified (by rw [hresult]; rfl)
  have hcounted := WorkerSupervisor.reaped_of_gives hbaseline (by rw [hresult]; nofun)
  have hoperation : report.operationPid = 0 := htallied.idle .operation (by decide)
  have hrecovery : report.recoveryPid = 0 := htallied.idle .recovery (by decide)
  rw [hoperation, hrecovery, if_pos hobserver] at hcounted
  exact ⟨hobserver, hwindow.samples, windowNs_whole hwindow, UInt32.toNat.inj hcounted⟩

/-- What `main` has before it prints: where a recovery is reported, its workers and its window, and
the admission of a run. -/
structure Worked (pending : Bool) (admission : Admission) (report : WorkerSupervisorReport)
    (lease : ControlLease) : Prop where
  recovery : 0 < report.recoveryPid
  observer : 0 < report.observerPid
  window : lease.WholeWindow
  resumed : pending = true → admission = .none ∧ report.operationPid = 0 ∧ report.reaped = 2
  admitted : pending = false → admission.Passed ∧ (0 < report.operationPid → report.reaped = 3)

lemma work_works (intent : ControlIntentStatus) :
    Holds anyProbeCall before state (probe.work directory mode intent) fun worked state' _ =>
      worked.2.result = .recovered →
        Worked (decide (intent = .pending)) worked.1 worked.2 state'.lease := by
  refine Holds.ite (fun hresume => ?_) fun _ => Holds.ite (fun hrun => ?_) fun _ => .pure nofun
  · refine (supervise_gives _).bind ?_
    rintro report state₁ after₁ ⟨run, hgives⟩
    refine .pure fun hresult => ?_
    have hentry : Gives ((probe.supervisor directory).entry .resume).run state run (some report)
      state₁ := hgives
    obtain ⟨hrecovery, hobserver, hwindow, hreaped⟩ :=
      WorkerSupervisor.recovered_of_gives hentry hresult
    have hoperation : report.operationPid = 0 :=
      (WorkerSupervisor.entry_tallied hentry).idle .operation (by decide)
    rw [hoperation] at hreaped
    refine ⟨hrecovery, hobserver, hwindow, fun _ => ⟨rfl, hoperation, UInt32.toNat.inj hreaped⟩,
      fun hpending => ?_⟩
    rw [decide_eq_true hresume.1] at hpending
    cases hpending
  · refine enterLease_passes.bind fun admission state₁ after₁ hpassed => ?_
    refine Holds.ite (fun hclaimed => ?_) fun _ => .pure nofun
    refine (supervise_gives _).bind ?_
    rintro report state₂ after₂ ⟨run, hgives⟩
    refine .pure fun hresult => ?_
    have hentry : Gives ((probe.supervisor directory).entry .run).run state₁ run (some report)
      state₂ := hgives
    obtain ⟨hrecovery, hobserver, hwindow, hreaped⟩ :=
      WorkerSupervisor.recovered_of_gives hentry hresult
    refine ⟨hrecovery, hobserver, hwindow, fun hpending => ?_, fun _ => ⟨hpassed hclaimed,
      fun hoperation => ?_⟩⟩
    · rw [hrun.1] at hpending
      cases hpending
    · rw [if_pos hoperation] at hreaped
      exact UInt32.toNat.inj hreaped

/-- Only a recovery that left the journal clear is printed as verified. -/
lemma recovered_of_printed {pid : Pid} {euid : UInt32} {resumed clear : Bool}
    {admission : Admission} {report : WorkerSupervisorReport} {lease : ControlLease}
    (hstate : (printed pid euid resumed admission report lease clear).state = "verified") :
    report.result = .recovered ∧ clear = true := by
  by_contra hnot
  change (if report.result = .recovered ∧ clear then "verified" else
    if clear then "blocked" else "pending") = "verified" at hstate
  rw [if_neg hnot] at hstate
  cases clear <;> exact absurd hstate (by decide)

/-- What is printed as verified was earned. -/
lemma printed_earned {pid : Pid} {resumed clear : Bool} {admission : Admission}
    {report : WorkerSupervisorReport} {lease : ControlLease} (hpid : 0 < pid)
    (hworked : report.result = .recovered → Worked resumed admission report lease)
    (hstate : (printed pid 0 resumed admission report lease clear).state = "verified") :
    (printed pid 0 resumed admission report lease clear).Earned := by
  obtain ⟨hresult, hclear⟩ := recovered_of_printed hstate
  have h := hworked hresult
  have hsamples : (printed pid 0 resumed admission report lease clear).recoverySamples = 61 :=
    (if_pos hresult).trans h.window.samples
  have hspan : (printed pid 0 resumed admission report lease clear).recoveryDurationNs =
    windowNs lease := if_pos hresult
  refine ⟨hpid, rfl, hclear, h.recovery, h.observer, hsamples, ?_, fun hresumed => ?_,
    fun hrun => ?_⟩
  · rw [hspan]
    exact windowNs_whole h.window
  · obtain ⟨rfl, hoperation, hreaped⟩ := h.resumed hresumed
    refine ⟨rfl, hoperation, rfl, rfl, ?_⟩
    change Admission.none.report.reaped + report.reaped = 2
    rw [hreaped]
    rfl
  · obtain ⟨hpassed, hreaped⟩ := h.admitted hrun
    refine ⟨hpassed.observer, hpassed.samples, hpassed.span, fun hoperation => ?_⟩
    change admission.report.reaped + report.reaped = 4
    rw [hpassed.reaped, hreaped hoperation]
    rfl

/-- Whatever `main` prints as verified was earned. -/
lemma report_earned : Holds anyProbeCall before state (probe.report directory mode 0)
    fun ended _ _ => ∀ report, ended = .reported report → report.state = "verified" →
      report.Earned := by
  refine controlIntentRead_leaves.bind ?_
  rintro intent state₁ after₁ ⟨-, -⟩
  refine (work_works intent).bind ?_
  rintro ⟨admission, report⟩ state₂ after₂ hworked
  refine controlIntentRead_leaves.bind ?_
  rintro final state₃ after₃ ⟨rfl, -⟩
  refine (plain_supervisorRunnerLifetimeCheck anyProbeCall after₃ state₃
    fun _ _ _ => trivial).bind ?_
  rintro - state₄ after₄ ⟨rfl, -⟩
  refine Holds.get_bind (Holds.ask_bind fun pid => ⟨trivial, Holds.ask_bind fun _ => ⟨trivial,
    Holds.ask_bind fun _ => ⟨trivial, .pure ?_⟩⟩⟩)
  rintro printed ⟨⟩ hstate
  exact printed_earned pid.property hworked hstate

lemma main_earned (arguments : List String) : Holds anyProbeCall [] state (probe.main arguments)
    fun ended _ _ => ∀ report, ended = .reported report → report.state = "verified" →
      report.Earned := by
  refine Holds.ask_bind fun ids => ⟨trivial, ?_⟩
  cases probeMode arguments with
  | none => exact .pure nofun
  | some mode =>
    refine Holds.ite (fun _ => .pure nofun) fun hroot => ?_
    rw [not_or, not_not, not_not] at hroot
    rw [hroot.2]
    refine (holds_of_allowed fun _ _ => trivial).bind fun entered state₁ after₁ _ => ?_
    refine Holds.ite (fun _ => .pure nofun) fun _ => ?_
    refine (holds_of_allowed fun _ _ => trivial).bind fun opened state₂ after₂ _ => ?_
    cases opened with
    | none => exact .pure nofun
    | some directory =>
      refine (holds_of_allowed fun _ _ => trivial).bind fun locked state₃ after₃ _ => ?_
      refine Holds.ite (fun _ => Holds.ask_bind fun _ => ⟨trivial, .pure nofun⟩) fun _ => ?_
      refine Holds.ite (fun _ => ?_) fun _ => report_earned
      refine (holds_of_allowed fun _ _ => trivial).bind fun _ state₄ after₄ _ => ?_
      refine (holds_of_allowed fun _ _ => trivial).bind fun clean state₅ after₅ _ => ?_
      refine Holds.ask_bind fun _ => ⟨trivial, Holds.ask_bind fun _ => ⟨trivial, .pure ?_⟩⟩
      cases clean <;> exact nofun

lemma workerPid_pos (channel : Fin 4) : (0 : Pid) < .ofNat (channel.val + 3) := by
  revert channel
  decide

/-- As `healthyAnswer`, with workers that have pids of their own and records for two observers. -/
def distinctAnswer (env : Bool × ℕ × ℕ × Bool) :
    (c : ProbeCall) → c.Answer × Bool × ℕ × ℕ × Bool
  | .supervisor (.fork worker) =>
    (if h : worker.channel < 4 then some ⟨.ofNat (worker.channel + 3), workerPid_pos ⟨_, h⟩⟩
      else none, env)
  | .supervisor (.readPipe size) =>
    if h : env.2.1 < (if env.2.2.1 = 1 then 61 else 122) ∧ 1 ≤ size then
      (.ok ⟨[env.2.1.toUInt8 + 1], h.2⟩, env.1, env.2.1 + 1, env.2.2)
    else (.ok ⟨[], Nat.zero_le _⟩, env)
  | c => healthyAnswer env c

def distinctRun (arguments : List String) :
    List ProbeEvent × (Option ProbeEnd × Supervision) × Bool × ℕ × ℕ × Bool :=
  play distinctAnswer ((minuteProbe.main arguments).run.run .zero) (false, 0, 0, false)

lemma distinctRun_gives (arguments : List String) : Gives (minuteProbe.main arguments).run .zero
    (distinctRun arguments).1 (distinctRun arguments).2.1.1 (distinctRun arguments).2.1.2 :=
  ends_play _ _ _

lemma distinctRun_reports : (distinctRun []).2.1.1 = some (.reported ⟨"verified", 2, 0, false, 3,
    61, 60000000000, 4, 5, 6, 4, 61, 60000000000, true⟩) := by decide +kernel

end SupervisorProbe
end Ventilator
