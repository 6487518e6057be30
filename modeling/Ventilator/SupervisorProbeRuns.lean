import Ventilator.SupervisorProbeController

/-! What holds of the probe's controller in every run, and that its clients accept each of its
replies. -/
namespace Ventilator
open PropertyValue

/-- The pid of the daemon is not the observer's in a crash marker. -/
def ProbeInput.MarkerDiffers {Owner : Type} (daemon : ProcessId) : ProbeInput Owner → Prop
  | .complete _ ended => ∀ marker runner now, dictionary? ended.output = some marker →
    helperSupervisorCrashMarkerValid ended.output runner now = true →
    sameNumber (marker.get "observer_pid") (some (.number (.integer daemon.1.toInt))) = false
  | _ => True

namespace SupervisorProbeController
variable {Owner : Type} {controller : SupervisorProbeController Owner} {daemon : ProcessId}

/-- A crash that a client accepts of a runner and a daemon. -/
structure CrashShown (crash : PropertyDictionary) (runner : Int32) (daemon : ProcessId) : Prop where
  count : crash.count = 3
  observer : supervisorUInt (crash.get "observer_pid") pidMax = true
  positive : 0 < intOf (crash.get "observer_pid")
  runner : sameNumber (crash.get "observer_pid") (some (.number (.integer runner.toInt))) = false
  daemon : sameNumber (crash.get "observer_pid") (some (.number (.integer daemon.1.toInt))) = false
  pending : crash.get "journal_pending" = some (ofBool true)
  loss : supervisorUInt (crash.get "loss_duration_ns") 2000000000 = true

/-- Which fields stand in which state. -/
inductive Shape (controller : SupervisorProbeController Owner) (daemon : ProcessId) : Prop
  | quiet (state : controller.state = .idle ∨ controller.state = .cleaned)
    (task : controller.task = none) (report : controller.report = none)
    (crash : controller.crash = none) (reason : controller.reason = none)
    (pid : 0 ≤ controller.runnerPID)
  | running (state : controller.state = .running) (task : controller.task.isSome = true)
    (report : controller.report = none) (crash : controller.crash = none)
    (reason : controller.reason = none) (pid : 0 < controller.runnerPID)
  | failed {reason : SupervisorProbeReason} (state : controller.state = .failed)
    (task : controller.task = none) (report : controller.report = none)
    (crash : controller.crash = none) (reason : controller.reason = some reason)
    (pid : 0 ≤ controller.runnerPID)
  | finished {d : PropertyDictionary} (state : controller.state = .finished)
    (task : controller.task = none) (report : controller.report = some d)
    (crash : controller.crash = none) (reason : controller.reason = none)
    (valid : helperSupervisorReportValid (some d.toValue) = true)
    (runner : isNumber (d.get "runner_pid") (.integer controller.runnerPID.toInt) = true)
    (pid : 0 ≤ controller.runnerPID)
  | interrupted {d : PropertyDictionary} (state : controller.state = .interrupted)
    (task : controller.task = none) (report : controller.report = none)
    (crash : controller.crash = some d) (reason : controller.reason = none)
    (shown : CrashShown d controller.runnerPID daemon) (pid : 0 < controller.runnerPID)

lemma supervisorReasons_name (reason : SupervisorProbeReason) :
    reason.name ∈ supervisorReasons := by
  cases reason <;> simp [SupervisorProbeReason.name, supervisorReasons]

lemma daemon_ne_zero (daemon : ProcessId) : daemon.1 ≠ 0 := by
  intro h
  have := daemon.2
  rw [h] at this
  exact absurd this (by decide)

lemma daemon_nonneg (daemon : ProcessId) : 0 ≤ daemon.1 :=
  Int32.le_of_lt daemon.2

lemma Shape.pid_nonneg (h : controller.Shape daemon) : 0 ≤ controller.runnerPID := by
  cases h with
  | quiet _ _ _ _ _ hpid => exact hpid
  | running _ _ _ _ _ hpid => exact Int32.le_of_lt hpid
  | failed _ _ _ _ _ hpid => exact hpid
  | finished _ _ _ _ _ _ _ hpid => exact hpid
  | interrupted _ _ _ _ _ _ hpid => exact Int32.le_of_lt hpid

/-- The status is accepted in every shape. -/
lemma Shape.status_valid (h : controller.Shape daemon) :
    helperSupervisorResponseValid (controller.statusLocked daemon) = true := by
  have hpid := supervisorUInt_pid h.pid_nonneg
  have hdaemon := supervisorUInt_pid (daemon_nonneg daemon)
  have hzero := daemon_ne_zero daemon
  cases h with
  | quiet hstate _ hreport hcrash hreason =>
    rcases hstate with hstate | hstate <;>
      simp [helperSupervisorResponseValid, statusLocked, withOptional, hstate, hreport, hcrash,
        hreason, SupervisorProbeState.name, PropertyDictionary.ofList, PropertyDictionary.count,
        supervisorBool, boolOf, hpid, hdaemon, hzero]
  | running hstate _ hreport hcrash hreason hpositive =>
    simp [helperSupervisorResponseValid, statusLocked, withOptional, hstate, hreport, hcrash,
      hreason, SupervisorProbeState.name, PropertyDictionary.ofList, PropertyDictionary.count,
      supervisorBool, boolOf, hpid, hdaemon, hzero, hpositive]
  | @failed reason hstate _ hreport hcrash hreason =>
    have hknown := supervisorReasons_name reason
    simp [helperSupervisorResponseValid, statusLocked, withOptional, hstate, hreport, hcrash,
      hreason, SupervisorProbeState.name, PropertyDictionary.ofList, PropertyDictionary.count,
      supervisorBool, boolOf, hpid, hdaemon, hzero, hknown]
  | finished hstate _ hreport hcrash hreason hvalid hrunner =>
    simp [helperSupervisorResponseValid, statusLocked, withOptional, hstate, hreport, hcrash,
      hreason, SupervisorProbeState.name, PropertyDictionary.ofList, PropertyDictionary.count,
      supervisorBool, boolOf, hpid, hdaemon, hzero, hvalid, hrunner, sameNumber]
  | @interrupted crash hstate _ hreport hcrash hreason hshown hpositive =>
    have hcount : crash.keys.card = 3 := hshown.count
    simp [helperSupervisorResponseValid, statusLocked, withOptional, hstate, hreport, hcrash,
      hreason, SupervisorProbeState.name, PropertyDictionary.ofList, PropertyDictionary.count,
      supervisorBool, boolOf, hpid, hdaemon, hzero, hpositive, hcount, hshown.observer, hshown.positive,
      hshown.runner, hshown.daemon, hshown.pending, hshown.loss]

/-- A busy reply is accepted while a runner is running. -/
lemma Shape.busy_valid (h : controller.Shape daemon) (htask : controller.task.isSome = true) :
    helperSupervisorResponseValid (controller.busyLocked daemon) = true := by
  have hpid := supervisorUInt_pid h.pid_nonneg
  have hdaemon := supervisorUInt_pid (daemon_nonneg daemon)
  have hzero := daemon_ne_zero daemon
  cases h with
  | running hstate _ hreport hcrash hreason =>
    simp [helperSupervisorResponseValid, busyLocked, statusLocked, withOptional, hreport, hcrash,
      hreason, PropertyDictionary.ofList, PropertyDictionary.count, supervisorBool, boolOf, hpid,
      hdaemon, hzero, supervisorReasons]
  | quiet _ hnone => simp [hnone] at htask
  | failed _ hnone => simp [hnone] at htask
  | finished _ hnone => simp [hnone] at htask
  | interrupted _ hnone => simp [hnone] at htask

variable [DecidableEq Owner]

/-- The pointers agree with the block that is still waiting, if there is one. -/
structure Sound (controller : SupervisorProbeController Owner) (daemon : ProcessId) : Prop where
  tasks : controller.tasks = controller.task.toList
  owner : controller.owner = controller.task.map (·.owner)
  shape : controller.Shape daemon

lemma sound_initial : (initial : SupervisorProbeController Owner).Sound daemon :=
  ⟨rfl, rfl, .quiet (.inl rfl) rfl rfl rfl rfl (Int32.le_refl 0)⟩

/-- A launch when no runner is waited for. -/
lemma Sound.launchLocked (h : controller.Sound daemon) (htask : controller.task = none)
    (mode : SupervisorProbeMode) (owner : Option Owner) (answers : LaunchAnswers) :
    (controller.launchLocked mode owner answers).Sound daemon := by
  have htasks : controller.tasks = [] := by rw [h.tasks, htask]; rfl
  have howner : controller.owner = none := by rw [h.owner, htask]; rfl
  have hfail : ∀ (c : SupervisorProbeController Owner) (reason : SupervisorProbeReason),
      c.tasks = [] → c.task = none → c.owner = none → c.report = none → c.crash = none →
      c.runnerPID = 0 → (c.fail reason).Sound daemon := by
    intro c reason htasks htask howner hreport hcrash hpid
    refine ⟨?_, ?_, .failed rfl htask hreport hcrash rfl ?_⟩
    · simp [fail, htasks, htask]
    · simp [fail, htask, howner]
    · simp [fail, hpid]
  unfold SupervisorProbeController.launchLocked
  dsimp only
  split
  · exact hfail _ _ htasks htask howner rfl rfl rfl
  cases owner with
  | none => exact hfail _ _ htasks htask howner rfl rfl rfl
  | some owner =>
    dsimp only
    split
    · exact hfail _ _ htasks htask howner rfl rfl rfl
    split
    · exact hfail _ _ htasks htask howner rfl rfl rfl
    split
    · exact hfail _ _ htasks htask howner rfl rfl rfl
    split
    · exact hfail _ _ htasks htask howner rfl rfl rfl
    · next pid _ =>
      refine ⟨?_, rfl, .running rfl rfl rfl rfl rfl pid.2⟩
      simp [htasks]

/-- What is shown of a valid marker. -/
lemma crashOf_shown {marker : PropertyDictionary} {result : Option PropertyValue} {runner : Int32}
    {now : UInt64} (hresult : dictionary? result = some marker)
    (h : helperSupervisorCrashMarkerValid result runner now = true)
    (hdaemon : sameNumber (marker.get "observer_pid")
      (some (.number (.integer daemon.1.toInt))) = false) :
    CrashShown (crashOf marker now) runner daemon := by
  simp only [helperSupervisorCrashMarkerValid, hresult, Option.any_some, Bool.and_eq_true,
    decide_eq_true_eq, beq_iff_eq, bne_iff_ne] at h
  obtain ⟨⟨⟨⟨⟨⟨⟨-, hobserver⟩, hpositive⟩, hrunner⟩, -⟩, -⟩, -⟩, -, hloss⟩ := h
  obtain ⟨n, k, hn, hrational, -, htruncated, -⟩ := supervisorUInt_number hobserver
  obtain ⟨value, hvalue⟩ : ∃ value, marker.get "observer_pid" = some value := by
    cases hget : marker.get "observer_pid" with
    | none => simp [hget, number?] at hn
    | some value => exact ⟨value, rfl⟩
  have hget : (crashOf marker now).get "observer_pid" = marker.get "observer_pid" := by
    simp [crashOf, PropertyDictionary.ofList, hvalue]
  refine ⟨rfl, by rwa [hget], by rwa [hget], ?_, by rwa [hget], ?_, ?_⟩
  · rw [hget, sameNumber, hn, Option.any_some, isNumber_number, Bool.eq_false_iff]
    intro hequal
    have hr : n.rational? = some ((runner.toInt : ℤ) : ℚ) := by
      rw [PropertyNumber.isEqual_comm] at hequal
      exact PropertyNumber.rational?_of_isEqual_integer hequal
    apply hrunner
    simp only [intOf, hn, Option.map_some, Option.getD_some, PropertyNumber.intValue,
      PropertyNumber.truncated_of_rational hr, Int32.ofInt_toInt]
  · simp [crashOf, PropertyDictionary.ofList]
  · simp [crashOf, PropertyDictionary.ofList, hloss]

/-- The fields as a running controller leaves them once its runner has ended. -/
structure Ended (controller : SupervisorProbeController Owner) : Prop where
  task : controller.task = none
  owner : controller.owner = none
  tasks : controller.tasks = []
  report : controller.report = none
  crash : controller.crash = none
  reason : controller.reason = none
  pid : 0 < controller.runnerPID

lemma Ended.fail (h : controller.Ended) (reason : SupervisorProbeReason) :
    (controller.fail reason).Sound daemon := by
  refine ⟨?_, ?_, .failed rfl h.task h.report h.crash rfl (Int32.le_of_lt h.pid)⟩
  · rw [SupervisorProbeController.fail, h.tasks, h.task]
    rfl
  · rw [SupervisorProbeController.fail, h.owner, h.task]
    rfl

lemma Ended.settle (h : controller.Ended) (mode : SupervisorProbeMode) {ended : RunnerEnd}
    (hmarker : ∀ marker runner now, dictionary? ended.output = some marker →
      helperSupervisorCrashMarkerValid ended.output runner now = true →
      sameNumber (marker.get "observer_pid") (some (.number (.integer daemon.1.toInt))) = false) :
    (controller.settle mode ended).Sound daemon := by
  have hnonneg := Int32.le_of_lt h.pid
  unfold SupervisorProbeController.settle
  dsimp only
  split
  · exact h.fail _
  split
  · rename_i hcrash
    obtain ⟨-, -, -, hvalid⟩ := hcrash
    cases hresult : dictionary? ended.output with
    | none => simp [helperSupervisorCrashMarkerValid, hresult] at hvalid
    | some marker =>
      have hshown := crashOf_shown hresult hvalid (hmarker _ _ _ hresult hvalid)
      exact ⟨by simp [h.tasks, h.task], by simp [h.owner, h.task],
        .interrupted rfl h.task h.report rfl h.reason hshown h.pid⟩
  split
  · exact h.fail _
  split
  · exact ⟨by simp [h.tasks, h.task], by simp [h.owner, h.task],
      .quiet (.inr rfl) h.task h.report h.crash h.reason hnonneg⟩
  split
  · rename_i hreport
    obtain ⟨-, hvalid, hrunner⟩ := hreport
    cases hresult : dictionary? ended.output with
    | none => simp [hresult] at hrunner
    | some report =>
      have hvalid' : helperSupervisorReportValid (some report.toValue) = true := by
        rw [helperSupervisorReportValid, hresult] at hvalid
        exact hvalid
      rw [hresult, Option.any_some] at hrunner
      exact ⟨by simp [h.tasks, h.task], by simp [h.owner, h.task],
        .finished rfl h.task rfl h.crash h.reason hvalid' hrunner hnonneg⟩
  · exact h.fail _

/-- The controller whose runner has ended, before the state it leaves. -/
lemma Sound.complete (h : controller.Sound daemon) {index : ℕ} {task : ProbeTask Owner}
    (hindex : controller.tasks[index]? = some task) {ended : RunnerEnd}
    (hmarker : ∀ marker runner now, dictionary? ended.output = some marker →
      helperSupervisorCrashMarkerValid ended.output runner now = true →
      sameNumber (marker.get "observer_pid") (some (.number (.integer daemon.1.toInt))) = false) :
    controller.task = some task ∧ (controller.complete index task ended).Sound daemon ∧
      ((controller.owners task.owner).lost = true →
        (controller.complete index task ended).state = .failed ∧
        (controller.complete index task ended).reason = some .ownerLost) := by
  obtain ⟨htasks, howner, hshape⟩ := h
  cases htask : controller.task with
  | none => simp [htasks, htask] at hindex
  | some current =>
    obtain ⟨rfl, rfl⟩ : index = 0 ∧ current = task := by
      rw [htasks, htask, Option.toList_some] at hindex
      cases index with
      | zero => exact ⟨rfl, by simpa using hindex⟩
      | succ index => simp at hindex
    have howner' : controller.owner = some current.owner := by rw [howner, htask]; rfl
    cases hshape with
    | running hstate _ hreport hcrash hreason hpid =>
      have hended : (SupervisorProbeController.mk none controller.state controller.reason
          controller.report controller.crash controller.runnerPID none
          (Function.update controller.owners current.owner
            (controller.owners current.owner).releaseChannel)
          (controller.tasks.eraseIdx 0)).Ended :=
        ⟨rfl, rfl, by simp [htasks, htask], hreport, hcrash, hreason, hpid⟩
      refine ⟨rfl, ?_, fun hlost => ?_⟩
      · simp only [SupervisorProbeController.complete, howner', Option.any_some]
        split
        · exact hended.fail _
        · exact hended.settle _ hmarker
      · simp [SupervisorProbeController.complete, howner', hlost, SupervisorProbeController.fail]
    | quiet _ hnone => simp [hnone] at htask
    | failed _ hnone => simp [hnone] at htask
    | finished _ hnone => simp [hnone] at htask
    | interrupted _ hnone => simp [hnone] at htask

/-- A request keeps the pointers and shapes, and its reply is accepted. -/
lemma Sound.request (h : controller.Sound daemon) (mode : SupervisorProbeMode)
    (owner : Option Owner) (answers : LaunchAnswers) :
    (controller.request daemon mode owner answers).1.Sound daemon ∧
      helperSupervisorResponseValid (controller.request daemon mode owner answers).2 = true := by
  unfold SupervisorProbeController.request
  split
  · rename_i hbusy
    exact ⟨h, h.shape.busy_valid hbusy.1⟩
  split
  · exact ⟨h, h.shape.status_valid⟩
  · rename_i hallowed
    have htask : controller.task = none := by
      cases mode with
      | resume => simpa [refuses] using hallowed
      | cleanup => simpa [refuses] using hallowed
      | run | crash =>
        cases h.shape with
        | running hstate => simp [refuses, hstate] at hallowed
        | quiet _ hnone => exact hnone
        | failed _ hnone => exact hnone
        | finished _ hnone => exact hnone
        | interrupted _ hnone => exact hnone
    have hlaunched := h.launchLocked htask mode owner answers
    exact ⟨hlaunched, hlaunched.shape.status_valid⟩

/-! Which connections are lost. -/

lemma lost_update (owners : Owner → SupervisorProbeOwner) {owner : Owner}
    {value : SupervisorProbeOwner} (h : value.lost = (owners owner).lost) (other : Owner) :
    (Function.update owners owner value other).lost = (owners other).lost := by
  by_cases heq : other = owner
  · subst heq
    rw [Function.update_self, h]
  · rw [Function.update_of_ne heq]

lemma openChannel_lost {owner opened : SupervisorProbeOwner} {opens : Bool}
    (h : owner.openChannel opens = some opened) : opened.lost = owner.lost := by
  unfold SupervisorProbeOwner.openChannel at h
  split_ifs at h
  cases h
  rfl

lemma launchLocked_lost (mode : SupervisorProbeMode) (owner : Option Owner)
    (answers : LaunchAnswers) (other : Owner) :
    ((controller.launchLocked mode owner answers).owners other).lost =
      (controller.owners other).lost := by
  unfold SupervisorProbeController.launchLocked
  dsimp only
  split
  · rfl
  cases owner with
  | none => rfl
  | some owner =>
    dsimp only
    split
    · rfl
    split
    · rfl
    split
    · rfl
    next opened hopened =>
      have hlost := openChannel_lost hopened
      have hreleased : opened.releaseChannel.lost = (controller.owners owner).lost := hlost
      split
      · exact lost_update controller.owners hreleased other
      · exact lost_update controller.owners hlost other

lemma launchLocked_state (mode : SupervisorProbeMode) (owner : Option Owner)
    (answers : LaunchAnswers) :
    (controller.launchLocked mode owner answers).state = .failed ∨
      (controller.launchLocked mode owner answers).state = .running := by
  unfold SupervisorProbeController.launchLocked
  dsimp only
  split
  · exact .inl rfl
  cases owner with
  | none => exact .inl rfl
  | some owner =>
    dsimp only
    split
    · exact .inl rfl
    split
    · exact .inl rfl
    split
    · exact .inl rfl
    split
    · exact .inl rfl
    · exact .inr rfl

omit [DecidableEq Owner] in
lemma settle_owners (mode : SupervisorProbeMode) (ended : RunnerEnd) :
    (controller.settle mode ended).owners = controller.owners := by
  unfold SupervisorProbeController.settle
  dsimp only
  split_ifs <;> rfl

lemma complete_lost (index : ℕ) (task : ProbeTask Owner) (ended : RunnerEnd) (other : Owner) :
    ((controller.complete index task ended).owners other).lost = (controller.owners other).lost := by
  unfold SupervisorProbeController.complete
  cases controller.owner with
  | none =>
    simp only [Option.any_none, Bool.false_eq_true, if_false, settle_owners]
  | some owner =>
    have hsame : (controller.owners owner).releaseChannel.lost = (controller.owners owner).lost := rfl
    have hkeep := lost_update controller.owners hsame other
    dsimp only
    split
    · exact hkeep
    · rw [settle_owners]
      exact hkeep

/-- A step loses a connection exactly when it invalidates it. -/
lemma step_lost {next : SupervisorProbeController Owner} {input : ProbeInput Owner}
    {reply : Option PropertyDictionary} (h : controller.step daemon input = some (next, reply))
    (owner : Owner) :
    (next.owners owner).lost = true ↔
      (controller.owners owner).lost = true ∨ input = .invalidate owner := by
  cases input with
  | request mode asking answers =>
    cases h
    have hsame : ((controller.request daemon mode asking answers).1.owners owner).lost =
        (controller.owners owner).lost := by
      unfold SupervisorProbeController.request
      split
      · rfl
      split
      · rfl
      · exact launchLocked_lost mode asking answers owner
    simp [hsame]
  | status =>
    cases h
    simp
  | invalidate lost =>
    cases h
    by_cases heq : owner = lost
    · subst heq
      simp [setOwner, SupervisorProbeOwner.invalidate, SupervisorProbeOwner.releaseChannel]
    · have hne : ProbeInput.invalidate lost ≠ .invalidate owner := by
        rintro ⟨⟩
        exact heq rfl
      simp [setOwner, Function.update_of_ne heq, hne]
  | complete index ended =>
    simp only [SupervisorProbeController.step] at h
    split at h
    · cases h
    · cases h
      simp [complete_lost]

/-- In a run, the lost connections are those that were invalidated. -/
lemma Reaches.lost_iff {inputs : List (ProbeInput Owner)} (h : Reaches daemon controller inputs)
    (owner : Owner) : (controller.owners owner).lost = true ↔ .invalidate owner ∈ inputs := by
  induction h with
  | initial => simp [SupervisorProbeController.initial, SupervisorProbeOwner.initial]
  | step _ hstep ih =>
    rw [step_lost hstep, ih, List.mem_append, List.mem_singleton]
    exact or_congr_right eq_comm

/-- A step keeps the pointers and shapes, and its reply is accepted. -/
lemma Sound.step (h : controller.Sound daemon) {next : SupervisorProbeController Owner}
    {input : ProbeInput Owner} {reply : Option PropertyDictionary}
    (hstep : controller.step daemon input = some (next, reply))
    (hmarker : input.MarkerDiffers daemon) :
    next.Sound daemon ∧ ∀ d, reply = some d → helperSupervisorResponseValid d = true := by
  cases input with
  | request mode owner answers =>
    cases hstep
    obtain ⟨hnext, hreply⟩ := h.request mode owner answers
    exact ⟨hnext, by rintro _ ⟨⟩; exact hreply⟩
  | status =>
    cases hstep
    exact ⟨h, by rintro _ ⟨⟩; exact h.shape.status_valid⟩
  | invalidate owner =>
    cases hstep
    refine ⟨⟨h.tasks, h.owner, ?_⟩, nofun⟩
    cases h.shape with
    | quiet a b c d e f => exact .quiet a b c d e f
    | running a b c d e f => exact .running a b c d e f
    | failed a b c d e f => exact .failed a b c d e f
    | finished a b c d e f g i => exact .finished a b c d e f g i
    | interrupted a b c d e f g => exact .interrupted a b c d e f g
  | complete index ended =>
    simp only [SupervisorProbeController.step] at hstep
    split at hstep
    · cases hstep
    · next task hindex =>
      cases hstep
      exact ⟨(h.complete hindex hmarker).2.1, nofun⟩

lemma Reaches.sound {inputs : List (ProbeInput Owner)} (h : Reaches daemon controller inputs)
    (hmarkers : ∀ input ∈ inputs, input.MarkerDiffers daemon) : controller.Sound daemon := by
  induction h with
  | initial => exact sound_initial
  | @step _ _ _ input _ _ hstep ih =>
    have hbefore := ih fun i hi => hmarkers i (List.mem_append_left _ hi)
    exact (hbefore.step hstep (hmarkers input (by simp))).1

/-- A step that leaves a finished or interrupted run found it, or ends a run whose connection is
not lost. -/
lemma Sound.step_ended (h : controller.Sound daemon) {next : SupervisorProbeController Owner}
    {input : ProbeInput Owner} {reply : Option PropertyDictionary}
    (hstep : controller.step daemon input = some (next, reply))
    (hmarker : input.MarkerDiffers daemon)
    (hended : next.state = .finished ∨ next.state = .interrupted) :
    next.state = controller.state ∨ ∃ index ended task, input = .complete index ended ∧
      controller.task = some task ∧ (controller.owners task.owner).lost = false := by
  cases input with
  | request mode owner answers =>
    cases hstep
    left
    unfold SupervisorProbeController.request at hended ⊢
    split
    · rfl
    rename_i hasks
    rw [if_neg hasks] at hended
    split
    · rfl
    · rename_i hallowed
      rw [if_neg hallowed] at hended
      rcases controller.launchLocked_state mode owner answers with hstate | hstate <;>
        simp [hstate] at hended
  | status =>
    cases hstep
    exact .inl rfl
  | invalidate owner =>
    cases hstep
    exact .inl rfl
  | complete index ended =>
    simp only [SupervisorProbeController.step] at hstep
    split at hstep
    · cases hstep
    · next task hindex =>
      cases hstep
      obtain ⟨htask, -, hlost⟩ := h.complete hindex hmarker
      refine .inr ⟨index, ended, task, rfl, htask, ?_⟩
      by_contra hne
      have hfailed := (hlost (Bool.not_eq_false _ ▸ hne)).1
      simp [hfailed] at hended

/-- In every run: one runner at most; running means a task and an owner; another connection is
told that the runner is busy; a run whose connection was lost ends as failed; and every reply is
accepted by the client. -/
theorem probe_controller_runs {inputs : List (ProbeInput Owner)}
    (h : Reaches daemon controller inputs)
    (hmarkers : ∀ input ∈ inputs, input.MarkerDiffers daemon) :
    controller.tasks.length ≤ 1 ∧
    (controller.state = .running ↔
      controller.task.isSome = true ∧ controller.owner.isSome = true) ∧
    (∀ mode owner answers, controller.task.isSome = true → controller.owner ≠ owner →
      controller.request daemon mode owner answers = (controller, controller.busyLocked daemon) ∧
      (controller.busyLocked daemon).get "state" = some (.string "failed") ∧
      (controller.busyLocked daemon).get "reason" = some (.string "busy")) ∧
    ∀ input next reply, input.MarkerDiffers daemon →
      controller.step daemon input = some (next, reply) →
      (next.state = .finished ∨ next.state = .interrupted → next.state = controller.state ∨
        ∃ index ended task, input = .complete index ended ∧ controller.task = some task ∧
          controller.owner = some task.owner ∧ .invalidate task.owner ∉ inputs) ∧
      ∀ d, reply = some d → helperSupervisorResponseValid d = true := by
  have hsound := h.sound hmarkers
  refine ⟨?_, ?_, fun mode owner answers htask howner => ⟨?_, ?_, ?_⟩,
    fun input next reply hmarker hstep => ⟨fun hended => ?_, (hsound.step hstep hmarker).2⟩⟩
  · rw [hsound.tasks]
    cases controller.task <;> simp
  · have howner : controller.owner.isSome = controller.task.isSome := by
      rw [hsound.owner, Option.isSome_map]
    rw [howner, and_self]
    cases hsound.shape with
    | quiet hstate htask => rcases hstate with hstate | hstate <;> simp [hstate, htask]
    | running hstate htask => simp [hstate, htask]
    | failed hstate htask => simp [hstate, htask]
    | finished hstate htask => simp [hstate, htask]
    | interrupted hstate htask => simp [hstate, htask]
  · rw [SupervisorProbeController.request, if_pos ⟨htask, howner⟩]
  · simp [busyLocked]
  · simp [busyLocked]
  · rcases hsound.step_ended hstep hmarker hended with hsame | ⟨index, ended, task, hinput, htask, hlost⟩
    · exact .inl hsame
    · refine .inr ⟨index, ended, task, hinput, htask, by rw [hsound.owner, htask]; rfl, ?_⟩
      rw [← h.lost_iff, hlost]
      exact Bool.false_ne_true

/-- The system answers of a launch that succeeds with pid 7. -/
def launched : LaunchAnswers := ⟨true, true, true, some ⟨7, by decide⟩⟩

/-- A connection starts a runner. -/
theorem probe_controller_runs_started :
    ∃ controller : SupervisorProbeController ℕ, controller.state = .running ∧
      controller.tasks.length ≤ 1 := by
  have hstep : (initial : SupervisorProbeController ℕ).step ⟨5, by decide⟩
      (.request .run (some 0) launched) = some (_, _) := rfl
  refine ⟨_, rfl, (probe_controller_runs (Reaches.step .initial hstep) ?_).1⟩
  intro input hinput
  obtain rfl := List.mem_singleton.mp hinput
  trivial

end SupervisorProbeController
end Ventilator
