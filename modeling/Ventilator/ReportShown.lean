import Ventilator.CrashMarker

/-! What stands behind a recovery that the daemon shows: the runs of the supervisor in the runner
whose report it read. -/
namespace Ventilator
open CallTree JsonText PropertyValue

namespace ProbeReport

/-- The workers that a report names of the supervisor's last call. -/
def pid (report : ProbeReport) : WorkerKind → Pid
  | .operation => report.operationPid
  | .recovery => report.recoveryPid
  | .observer => report.observerPid

/-- The end of a runner that printed its report. -/
def runnerEnd (report : ProbeReport) (finished : UInt64) : RunnerEnd where
  tooLarge := decide (ProbeCrash.outputSize < report.output.length)
  output := readOutput report.output
  uncaughtSignal := false
  terminationStatus := 0
  finished := finished

end ProbeReport

namespace SupervisorProbe
open ProbeM

/-- A whole call of the supervisor removed the marker after a recovery that it verified, and forked
the workers that are named; the journal was pending before it, or a verified admission was
claimed. -/
def RecoveredWith (probe : SupervisorProbe) (pids : WorkerKind → Pid) (resumed : Bool)
    (trace : List ProbeEvent) : Prop :=
  ∃ directory early recovery late, trace = early ++ recovery.map supervised ++ late ∧
    (probe.supervisor directory).RecoveredBy recovery ∧
    (∀ kind, forksOf kind recovery = if 0 < pids kind then 1 else 0) ∧
    (resumed = false → probe.Claimed directory early)

variable {probe : SupervisorProbe} {before : List ProbeEvent} {state : Supervision}
  {directory : Int32} {mode : SupervisorProbeMode}

lemma RecoveredWith.append {pids : WorkerKind → Pid} {resumed : Bool} {trace : List ProbeEvent}
    (h : probe.RecoveredWith pids resumed trace) (more : List ProbeEvent) :
    probe.RecoveredWith pids resumed (trace ++ more) := by
  obtain ⟨directory, early, recovery, late, rfl, hrest⟩ := h
  exact ⟨directory, early, recovery, late ++ more, by simp, hrest⟩

/-- A call of the supervisor, in the history of the runner. -/
lemma supervise_recovers (entry : SupervisorEntry) {resumed : Bool}
    (hclaimed : resumed = false → probe.Claimed directory before) :
    Holds anyProbeCall before state (supervise ((probe.supervisor directory).entry entry))
      fun report _ after => report.result = .recovered →
        probe.RecoveredWith report.pid resumed after := by
  refine (holds_supervise (WorkerSupervisor.entry_reports entry) fun _ _ _ => trivial).mono ?_
  rintro report state' after ⟨run, hgives, rfl, hreported⟩ hresult
  exact ⟨directory, before, run, [], by simp, hreported.recovered hresult,
    (WorkerSupervisor.entry_tallied hgives).named, hclaimed⟩

lemma work_recovers (intent : ControlIntentStatus) (hheld : LaunchHeld before)
    (hmode : mode ≠ .cleanup) :
    Holds anyProbeCall before state (probe.work directory mode intent) fun worked _ after =>
      worked.2.result = .recovered →
        probe.RecoveredWith worked.2.pid (decide (intent = .pending)) after := by
  refine Holds.ite (fun hresume => ?_) fun _ => Holds.ite (fun _ => ?_) fun _ => .pure nofun
  · rw [decide_eq_true hresume.1]
    have hunclaimed : true = false → probe.Claimed directory before := nofun
    exact (supervise_recovers .resume hunclaimed).bind fun report _ _ hreport => .pure hreport
  · refine ((enterLease_claims hheld hmode).weaken fun _ _ _ => trivial).bind ?_
    rintro admission state₁ after₁ ⟨-, hclaimed⟩
    refine Holds.ite (fun h => ?_) fun _ => .pure nofun
    exact (supervise_recovers .run fun _ => hclaimed h).bind fun report _ _ hreport =>
      .pure hreport

lemma report_recovers (hheld : LaunchHeld before) (hmode : mode ≠ .cleanup) :
    Holds anyProbeCall before state (probe.report directory mode 0) fun ended _ after =>
      ∀ report, ended = .reported report → report.state = "verified" →
        probe.RecoveredWith report.pid report.resumed after := by
  refine controlIntentRead_leaves.bind ?_
  rintro intent state₁ after₁ ⟨-, run, rfl⟩
  refine (work_recovers intent (hheld.supervised run) hmode).bind ?_
  rintro ⟨admission, report⟩ state₂ after₂ hworked
  refine controlIntentRead_leaves.bind ?_
  rintro final state₃ after₃ ⟨-, run', rfl⟩
  refine (plain_supervisorRunnerLifetimeCheck anyProbeCall _ state₃ fun _ _ _ => trivial).bind ?_
  rintro - state₄ after₄ ⟨-, more, rfl, -⟩
  refine Holds.get_bind (Holds.ask_bind fun pid => ⟨trivial, Holds.ask_bind fun _ => ⟨trivial,
    Holds.ask_bind fun _ => ⟨trivial, .pure ?_⟩⟩⟩)
  rintro shown ⟨⟩ hstate
  have hrecovered := hworked (recovered_of_printed hstate).1
  have hpids : (printed pid.val 0 (decide (intent = .pending)) admission report state₄.lease
      (decide (final = .clear))).pid = report.pid := funext fun kind => by cases kind <;> rfl
  rw [hpids]
  exact ((((hrecovered.append _).append _).append _).append _).append _

lemma supervisorProbeLock_takes (probe : SupervisorProbe)
    (hopen : ∀ e ∈ before, e.1 ≠ .closeLaunch) :
    Holds anyProbeCall before state supervisorProbeLock fun locked _ after =>
      locked = true → LaunchHeld after := by
  have hholds : Holds (probe.CallGuard .run) before state supervisorProbeLock
    fun locked state' after => state' = state ∧ (locked = true → LaunchHeld after) :=
      supervisorProbeLock_holds hopen
  exact (hholds.weaken fun _ _ _ => trivial).mono fun _ _ _ h => h.2

/-- Before the launch lock is taken no call closes it. -/
lemma open_of_plain {more : List ProbeEvent} (hopen : ∀ e ∈ before, e.1 ≠ .closeLaunch)
    (hmore : ∀ e ∈ more, e.1.isPlain = true) : ∀ e ∈ before ++ more, e.1 ≠ .closeLaunch := by
  refine List.forall_mem_append.mpr ⟨hopen, ?_⟩
  rintro ⟨c, answer⟩ he rfl
  cases hmore _ he

lemma launch_recovers (hopen : ∀ e ∈ before, e.1 ≠ .closeLaunch) :
    Holds anyProbeCall before state (probe.launch mode 0) fun ended _ after =>
      ∀ report, ended = .reported report → report.state = "verified" →
        probe.RecoveredWith report.pid report.resumed after := by
  refine (plain_supervisorRunnerLifetimeEnter anyProbeCall _ state fun _ _ _ => trivial).bind ?_
  rintro entered state₁ after₁ ⟨-, more, rfl, hmore⟩
  refine Holds.ite (fun _ => .pure nofun) fun _ => ?_
  refine (plain_supervisorProbeOpenDirectory anyProbeCall _ state₁ fun _ _ _ => trivial).bind ?_
  rintro opened state₂ after₂ ⟨-, more', rfl, hmore'⟩
  cases opened with
  | none => exact .pure nofun
  | some directory =>
    refine (supervisorProbeLock_takes probe (open_of_plain (open_of_plain hopen hmore) hmore')).bind
      fun locked state₃ after₃ hlocked => ?_
    refine Holds.ite (fun _ => Holds.ask_bind fun _ => ⟨trivial, .pure nofun⟩) fun hheld => ?_
    rw [Bool.not_eq_true, Bool.not_eq_false'] at hheld
    refine Holds.ite (fun _ => ?_) fun hmode => report_recovers (hlocked hheld) hmode
    refine (holds_of_allowed fun _ _ => trivial).bind fun _ state₄ after₄ _ => ?_
    refine (holds_of_allowed fun _ _ => trivial).bind fun clean state₅ after₅ _ => ?_
    refine Holds.ask_bind fun _ => ⟨trivial, Holds.ask_bind fun _ => ⟨trivial, .pure ?_⟩⟩
    cases clean <;> exact nofun

lemma main_recovers (arguments : List String) :
    Holds anyProbeCall [] state (probe.main arguments) fun ended _ after =>
      ∀ report, ended = .reported report → report.state = "verified" →
        probe.RecoveredWith report.pid report.resumed after := by
  refine Holds.ask_bind fun ids => ⟨trivial, ?_⟩
  cases probeMode arguments with
  | none => exact .pure nofun
  | some mode =>
    refine Holds.ite (fun _ => .pure nofun) fun hroot => ?_
    rw [not_or, not_not, not_not] at hroot
    rw [hroot.2]
    have hopen : ∀ e ∈ ([⟨.userIds, ids⟩] : List ProbeEvent), e.1 ≠ .closeLaunch := by simp
    exact launch_recovers hopen

end SupervisorProbe

/-! What the daemon shows. -/
namespace ProbeReport

/-- The daemon takes the whole text of a verified report. -/
lemma output_fits {report : ProbeReport} (hverified : report.state = "verified") :
    report.output.length ≤ ProbeCrash.outputSize := by
  have hrunner := length_int32_text report.runnerPid
  have huid := length_uint32_text report.runnerUid
  have hadmission := length_int32_text report.admissionPid
  have hadmissionSamples := length_uint32_text report.admissionSamples
  have hadmissionNs := length_uint64_text report.admissionDurationNs
  have hoperation := length_int32_text report.operationPid
  have hrecovery := length_int32_text report.recoveryPid
  have hobserver := length_int32_text report.observerPid
  have hreaped := length_uint32_text report.reaped
  have hsamples := length_uint32_text report.recoverySamples
  have hns := length_uint64_text report.recoveryDurationNs
  have hresumed := length_boolean_text report.resumed
  have hclear := length_boolean_text report.journalClear
  have hstate : (JsonElement.string report.state).text.length = 10 := by
    rw [hverified]
    rfl
  have hnames : (quoted "state").length = 7 ∧ (quoted "runner_pid").length = 12 ∧
      (quoted "runner_uid").length = 12 ∧ (quoted "resumed").length = 9 ∧
      (quoted "admission_pid").length = 15 ∧ (quoted "admission_samples").length = 19 ∧
      (quoted "admission_duration_ns").length = 23 ∧ (quoted "operation_pid").length = 15 ∧
      (quoted "recovery_pid").length = 14 ∧ (quoted "observer_pid").length = 14 ∧
      (quoted "reaped").length = 8 ∧ (quoted "recovery_samples").length = 18 ∧
      (quoted "recovery_duration_ns").length = 22 ∧ (quoted "journal_clear").length = 15 := by
    decide
  rw [output, JsonElement.text, ProbeCrash.outputSize]
  simp only [members, JsonElement.membersText, List.length_append, List.length_cons,
    List.length_nil, List.cons_append, List.tail_cons]
  omega

end ProbeReport

namespace SupervisorProbe

end SupervisorProbe
end Ventilator
