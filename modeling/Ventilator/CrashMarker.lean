import Ventilator.ReportContract

/-! The crash that the runner brings about while an observer runs,
`supervisor_probe_crash_after_observer_start` of `SupervisorProbeCrash.c`, and what the daemon makes
of its marker. -/
namespace Ventilator
open CallTree JsonText PropertyValue

/-- The calls of the crash. `proc_pidinfo` gives the parent and the uid of a process. The marker is
ASCII, so its characters are its bytes. -/
inductive CrashCall
  | procPidinfo (pid : Pid)
  | journal (c : JournalCall)
  | clockGettime
  | writeOutput (text : List Char)
  | raiseKill

abbrev CrashCall.Answer : CrashCall → Type
  | procPidinfo _ => Option (UInt32 × UInt32)
  | journal c => c.Answer
  | clockGettime => UInt64
  | writeOutput text => Except Errno (Fin (text.length + 1))
  | raiseKill => Unit

abbrev CrashEvent := Event CrashCall.Answer

abbrev CrashM := OptionT (StateT Unit (CallTree CrashCall CrashCall.Answer))

/-- What does not change during the call: the runner's pid, its euid and the journal. -/
structure ProbeCrash where
  pid : { pid : Pid // 0 < pid }
  journal : JournalDirectory
  fuel : ℕ

namespace ProbeCrash

abbrev sys (c : CrashCall) : CrashM c.Answer := OptionT.lift (ask c)

variable (crash : ProbeCrash)

def controlIntentRead : CrashM ControlIntentStatus :=
  OptionT.mk (handle (fun c => ask (CrashCall.journal c))
    (crash.journal.controlIntentRead crash.fuel))

/-- `sizeof(message)` -/
def messageSize : ℕ := 256

/-- The members of the marker, in their order. -/
def members (observer : Pid) (now : UInt64) : List (String × JsonElement) :=
  [("runner_pid", .number (.ofInt crash.pid.val.toInt)),
    ("runner_uid", .number (.ofInt crash.journal.euid.toNat)),
    ("observer_pid", .number (.ofInt observer.toInt)), ("journal_pending", .boolean true),
    ("armed_monotonic_ns", .number (.ofInt now.toNat))]

/-- The whole text of `snprintf`, which gives its length also where it does not fit. -/
def message (observer : Pid) (now : UInt64) : List Char :=
  (JsonElement.object (crash.members observer now)).text ++ ['\n']

/-- One write: what was sent, or to write again. -/
def writeRound (text : List Char) : CrashM (Option ℕ ⊕ Unit) := do
  match ← sys (.writeOutput text) with
  | .ok sent => pure (.inl (some sent.val))
  | .error errno => pure (if errno = .interrupted then .inr () else .inl none)

/-- The marker is sent and the process kills itself. -/
def send (text : List Char) : CrashM Bool := do
  match ← loop (fun _ _ => writeRound text) crash.fuel 0 () with
  | .inr _ => failure
  | .inl sent =>
    if sent ≠ some text.length then pure false
    else
      sys .raiseKill
      pure false

/-- `supervisor_probe_crash_after_observer_start` -/
def afterObserverStart (observer : Pid) : CrashM Bool :=
  if observer ≤ 1 ∨ observer = crash.pid.val then pure false
  else do
    let child ← sys (.procPidinfo observer)
    if child ≠ some (crash.pid.val.toUInt32, crash.journal.euid) then pure false
    else if (← crash.controlIntentRead) ≠ .pending then pure false
    else
      let now ← sys .clockGettime
      if now = 0 then pure false
      else if messageSize ≤ (crash.message observer now).length then pure false
      else crash.send (crash.message observer now)

/-- A call on the journal among those of the crash. -/
def journalEvent (e : JournalEvent) : CrashEvent := ⟨.journal e.1, e.2⟩

/-- The writes of a marker of which only the last, which took all of it, was not interrupted. -/
def sending (text : List Char) (interrupted : ℕ) : List CrashEvent :=
  List.replicate interrupted ⟨.writeOutput text, .error .interrupted⟩ ++
    [⟨.writeOutput text, .ok (Fin.last _)⟩]

/-- Everything that a runner that kills itself has done since the observer was started. -/
structure Killed (observer : Pid) (now : UInt64) (trace : List CrashEvent) : Prop where
  child : 1 < observer ∧ observer ≠ crash.pid.val
  armed : now ≠ 0
  history : ∃ read interrupted,
    Ends (crash.journal.controlIntentRead crash.fuel) read (some .pending) ∧
      trace = ⟨.procPidinfo observer, some (crash.pid.val.toUInt32, crash.journal.euid)⟩ ::
        read.map journalEvent ++ ⟨.clockGettime, now⟩ ::
          sending (crash.message observer now) interrupted ++ [⟨.raiseKill, ()⟩]

/-- The property list that the marker stands for. -/
def dictionary (observer : Pid) (now : UInt64) : PropertyDictionary := .ofList
  [("runner_pid", ofPid crash.pid.val), ("runner_uid", ofUInt32 crash.journal.euid),
    ("observer_pid", ofPid observer), ("journal_pending", ofBool true),
    ("armed_monotonic_ns", ofUInt64 now)]

variable {crash} {observer : Pid} {now : UInt64}

/-! The text of the marker. -/

lemma members_plain : (JsonElement.object (crash.members observer now)).Plain := by
  simp only [members, JsonElement.Plain, JsonElement.PlainMembers, JsonNumber.ofInt_valid,
    true_and, and_true]
  decide

/-- The marker is read back. -/
lemma readOutput_message :
    readOutput (crash.message observer now) = some (crash.dictionary observer now).toValue := by
  rw [readOutput, message, members_plain.parseDocument]
  simp [property?, members, members?, scalar?, dictionary, ofPid, ofUInt32, ofUInt64, ofBool]

/-- The marker fits, whatever its numbers are: the check of its length refuses none. -/
lemma message_fits : (crash.message observer now).length < messageSize := by
  have hrunner := length_int32_text crash.pid.val
  have hobserver := length_int32_text observer
  have huid := length_uint32_text crash.journal.euid
  have hnow := length_uint64_text now
  have htrue : (JsonElement.boolean true).text.length = 4 := rfl
  have hnames : (quoted "runner_pid").length = 12 ∧ (quoted "runner_uid").length = 12 ∧
      (quoted "observer_pid").length = 14 ∧ (quoted "journal_pending").length = 17 ∧
      (quoted "armed_monotonic_ns").length = 20 := ⟨rfl, rfl, rfl, rfl, rfl⟩
  rw [message, JsonElement.text, messageSize]
  simp only [members, JsonElement.membersText, htrue, List.length_append, List.length_cons,
    List.length_nil, List.cons_append, List.tail_cons]
  omega

/-! What a run did. -/

abbrev anyCrashCall : List CrashEvent → CrashEvent → Prop := fun _ _ => True

variable {trace : List CrashEvent}

lemma meets_journal {α : Type} (t : JournalM α) :
    Meets anyCrashCall trace ((handle (fun c => ask (CrashCall.journal c)) t :
        StateT Unit (CallTree CrashCall CrashCall.Answer) α).run ()) fun r after =>
      ∃ run, Ends t run r.1 ∧ after = trace ++ run.map journalEvent := by
  induction t generalizing trace with
  | done a => exact ⟨[], .refl _, by simp⟩
  | call c next ih =>
    refine fun answer => ⟨trivial, (ih answer).mono ?_⟩
    rintro r after ⟨run, hends, rfl⟩
    exact ⟨⟨c, answer⟩ :: run, ends_call.mpr ⟨answer, run, rfl, hends⟩, by simp [journalEvent]⟩

lemma controlIntentRead_reads :
    Holds anyCrashCall trace () crash.controlIntentRead fun status _ after => ∃ read,
      Ends (crash.journal.controlIntentRead crash.fuel) read (some status) ∧
        after = trace ++ read.map journalEvent :=
  (meets_journal _).mono fun _ _ hr status hstatus => by
    obtain ⟨read, hends, hafter⟩ := hr
    rw [hstatus] at hends
    exact ⟨read, hends, hafter⟩

/-- The process did not kill itself. -/
def Alive (trace : List CrashEvent) : Prop := ∀ e ∈ trace, e.1 ≠ .raiseKill

lemma Alive.event {e : CrashEvent} (h : Alive trace) (he : e.1 ≠ .raiseKill) :
    Alive (trace ++ [e]) :=
  List.forall_mem_append.mpr ⟨h, by simpa using he⟩

lemma Alive.read (h : Alive trace) (read : List JournalEvent) :
    Alive (trace ++ read.map journalEvent) := by
  refine List.forall_mem_append.mpr ⟨h, fun e he => ?_⟩
  obtain ⟨e', -, rfl⟩ := List.mem_map.mp he
  exact nofun

lemma Alive.interrupted (h : Alive trace) (text : List Char) (interrupted : ℕ) :
    Alive (trace ++ List.replicate interrupted ⟨.writeOutput text, .error .interrupted⟩) := by
  refine List.forall_mem_append.mpr ⟨h, fun e he => ?_⟩
  rw [List.eq_of_mem_replicate he]
  exact nofun

/-- The process kills itself only when the whole marker went out in one write. -/
lemma send_kills {text : List Char} (h : Alive trace) :
    Holds anyCrashCall trace () (crash.send text) fun _ _ after => ¬ Alive after →
      ∃ interrupted, after = trace ++ sending text interrupted ++ [⟨.raiseKill, ()⟩] := by
  let Trying (_ : Unit) (_ : Unit) (after : List CrashEvent) : Prop := ∃ interrupted,
    after = trace ++ List.replicate interrupted ⟨.writeOutput text, .error .interrupted⟩
  refine Holds.bind (Q := fun out _ after => ∀ sent, out = .inl sent → Alive after ∧
      (sent = some text.length → ∃ interrupted, after = trace ++ sending text interrupted))
    (Holds.loop (I := Trying) (fun _ _ _ before hI => ?_) (fun _ _ _ _ => nofun) _ _
      ⟨0, by simp⟩) ?_
  · obtain ⟨interrupted, rfl⟩ := hI
    refine Holds.ask_bind fun answer => ⟨trivial, ?_⟩
    have halive := (h.interrupted text interrupted).event
      (e := ⟨.writeOutput text, answer⟩) nofun
    cases answer with
    | ok count =>
      refine .pure ?_
      rintro _ ⟨⟩
      refine ⟨halive, fun hwhole => ⟨interrupted, ?_⟩⟩
      obtain rfl : count = Fin.last _ := Fin.ext (Option.some.inj hwhole)
      rw [sending, List.append_assoc]
    | error errno =>
      refine .pure ?_
      by_cases hagain : errno = .interrupted
      · rw [if_pos hagain, hagain]
        exact ⟨interrupted + 1, by rw [List.replicate_succ', List.append_assoc]⟩
      · rw [if_neg hagain]
        rintro _ ⟨⟩
        exact ⟨halive, nofun⟩
  · intro out _ after hout
    cases out with
    | inr _ => exact .failure
    | inl sent =>
      obtain ⟨halive, hwhole⟩ := hout sent rfl
      refine Holds.ite (fun _ => .pure fun hdead => absurd halive hdead) fun hsent => ?_
      obtain ⟨interrupted, rfl⟩ := hwhole (not_not.mp hsent)
      exact Holds.ask_bind fun _ => ⟨trivial, .pure fun _ => ⟨interrupted, rfl⟩⟩

lemma afterObserverStart_kills : Holds anyCrashCall [] () (crash.afterObserverStart observer)
    fun _ _ after => ¬ Alive after → ∃ now, crash.Killed observer now after := by
  have hnone : Alive [] := nofun
  refine Holds.ite (fun _ => .pure fun hdead => absurd hnone hdead) fun hchild => ?_
  rw [not_or, Int32.not_le] at hchild
  refine Holds.ask_bind fun child => ⟨trivial, ?_⟩
  have hasked := hnone.event (e := ⟨.procPidinfo observer, child⟩) nofun
  refine Holds.ite (fun _ => .pure fun hdead => absurd hasked hdead) fun hparent => ?_
  obtain rfl := not_not.mp hparent
  refine controlIntentRead_reads.bind ?_
  rintro status _ after ⟨read, hread, rfl⟩
  have hreads := hasked.read read
  refine Holds.ite (fun _ => .pure fun hdead => absurd hreads hdead) fun hpending => ?_
  rw [not_not.mp hpending] at hread
  refine Holds.ask_bind fun now => ⟨trivial, ?_⟩
  have htimed := hreads.event (e := ⟨.clockGettime, now⟩) nofun
  refine Holds.ite (fun _ => .pure fun hdead => absurd htimed hdead) fun hnow => ?_
  refine Holds.ite (fun _ => .pure fun hdead => absurd htimed hdead) fun _ => ?_
  refine (send_kills htimed).mono fun _ _ after hkills hdead => ⟨now, hchild, hnow, read, ?_⟩
  obtain ⟨interrupted, rfl⟩ := hkills hdead
  exact ⟨interrupted, hread, by simp⟩

/-! What the daemon makes of it. -/

/-- The characters that an event sent to the daemon. -/
def sent : CrashEvent → List Char
  | ⟨.writeOutput text, .ok count⟩ => text.take count.val
  | _ => []

/-- The most output that the daemon takes of a runner. -/
def outputSize : ℕ := 4096

/-- The end of a runner that killed itself: its output and an uncaught signal 9. -/
def runnerEnd (trace : List CrashEvent) (finished : UInt64) : RunnerEnd where
  tooLarge := decide (outputSize < (trace.flatMap sent).length)
  output := readOutput (trace.flatMap sent)
  uncaughtSignal := true
  terminationStatus := 9
  finished := finished

lemma Killed.sent (h : crash.Killed observer now trace) :
    trace.flatMap sent = crash.message observer now := by
  obtain ⟨read, interrupted, -, rfl⟩ := h.history
  have hread : (read.map journalEvent).flatMap ProbeCrash.sent = [] := by
    refine List.flatMap_eq_nil_iff.mpr fun e he => ?_
    obtain ⟨e', -, rfl⟩ := List.mem_map.mp he
    rfl
  have htries : (List.replicate interrupted (⟨.writeOutput (crash.message observer now),
      .error .interrupted⟩ : CrashEvent)).flatMap ProbeCrash.sent = [] := by
    refine List.flatMap_eq_nil_iff.mpr fun e he => ?_
    rw [List.eq_of_mem_replicate he]
    rfl
  simp only [sending, List.flatMap_cons, List.flatMap_append, List.flatMap_nil, hread, htries]
  simp [ProbeCrash.sent]

/-- The daemon's conditions on the marker of a runner that killed itself. -/
lemma crashMarkerValid_iff (h : crash.Killed observer now trace) (runner : Pid) (clock : UInt64) :
    helperSupervisorCrashMarkerValid (some (crash.dictionary observer now).toValue) runner clock =
        true ↔
      runner = crash.pid.val ∧ crash.journal.euid = 0 ∧ now ≤ clock ∧ clock - now ≤ 2000000000 := by
  have hpositive : 0 < observer := Int32.lt_trans (by decide) h.child.1
  have hcount : (crash.dictionary observer now).count = 5 := by
    simp [dictionary, PropertyDictionary.ofList, PropertyDictionary.count]
  have harmed : 0 < now := by
    rw [UInt64.pos_iff_ne_zero]
    exact h.armed
  simp only [helperSupervisorCrashMarkerValid, PropertyDictionary.dictionary?_toValue,
    Option.any_some, hcount]
  simp [dictionary, PropertyDictionary.ofList, supervisorUInt_ofPid, supervisorUInt_ofUInt32,
    intOf_ofPid, longOf_ofUInt64, boolOf_ofBool, supervisorBool_ofBool, hpositive, harmed,
    nonneg_of_pos hpositive, nonneg_of_pos crash.pid.property]
  have huid : crash.journal.euid.toUInt64 = 0 ↔ crash.journal.euid = 0 := by
    rw [← UInt64.toNat_inj, ← UInt32.toNat_inj, UInt32.toNat_toUInt64]
    rfl
  have hmax : now ≤ 0xffffffffffffffff := by
    rw [UInt64.le_iff_toNat_le]
    exact Nat.le_of_lt_succ now.toNat_lt
  rw [huid]
  constructor
  · rintro ⟨⟨⟨⟨⟨-, hrunner⟩, hroot⟩, -⟩, -⟩, hclock⟩
    exact ⟨hrunner.symm, hroot, hclock⟩
  · rintro ⟨rfl, hroot, hclock⟩
    exact ⟨⟨⟨⟨⟨crash.pid.property, rfl⟩, hroot⟩, h.child.2⟩, hmax⟩, hclock⟩

/-- A runner that kills itself leaves the journal as it is. -/
lemma Killed.keeps_journal (h : crash.Killed observer now trace) {e : CrashEvent} (he : e ∈ trace)
    {c : JournalCall} (hc : e.1 = .journal c) : c.modifies = false := by
  obtain ⟨read, interrupted, hread, rfl⟩ := h.history
  simp only [sending, List.mem_append, List.mem_cons, List.not_mem_nil, or_false] at he
  obtain ((rfl | hjournal) | rfl | htry | rfl) | rfl := he
  · cases hc
  · obtain ⟨e', he', rfl⟩ := List.mem_map.mp hjournal
    cases hc
    exact (crash.journal.controlIntentRead_calls crash.fuel).runs hread e' he'
  · cases hc
  · rw [List.eq_of_mem_replicate htry] at hc
    cases hc
  · cases hc
  · cases hc

/-- A write that is interrupted first, of a runner with pid 7. -/
def killedAnswer (tried : Bool) : (c : CrashCall) → c.Answer × Bool
  | .procPidinfo _ => (some (7, 0), tried)
  | .journal c => (WorkerSupervisor.journalAnswer true c, tried)
  | .clockGettime => (5, tried)
  | .writeOutput _ => (if tried then .ok (Fin.last _) else .error .interrupted, true)
  | .raiseKill => ((), tried)

lemma killedPid_pos : (0 : Pid) < 7 := by decide

def killedCrash : ProbeCrash := ⟨⟨7, killedPid_pos⟩, ⟨3, 0⟩, 3⟩

def killedRun : List CrashEvent × (Option Bool × Unit) × Bool :=
  play killedAnswer ((killedCrash.afterObserverStart 9).run.run ()) false

lemma killedRun_gives : Gives (killedCrash.afterObserverStart 9).run () killedRun.1
    killedRun.2.1.1 killedRun.2.1.2 := ends_play _ _ _

def raises : CrashEvent → Bool
  | ⟨.raiseKill, _⟩ => true
  | _ => false

lemma killedRun_raises : ⟨.raiseKill, ()⟩ ∈ killedRun.1 := by
  have hany : killedRun.1.any raises = true := by decide +kernel
  obtain ⟨⟨c, answer⟩, he, hraises⟩ := List.any_eq_true.mp hany
  cases c with
  | raiseKill => exact he
  | _ => cases hraises

end ProbeCrash
end Ventilator
