import Ventilator.WorkerRecord

/-! Which contents of the worker record let a new supervisor start: what `old_worker_absent` takes
for the record of a PID, and when that is what `supervisor_ownership_record` wrote. -/
namespace Ventilator
open CallTree TraceGuard

namespace WorkerSupervisor
open SupervisorM

variable {supervisor : WorkerSupervisor} {state : Supervision} {contents : List UInt8}

/-- The answers of a directory whose worker record is a private file of these contents. Every call
may fail, and a read may be short. -/
def Shows (euid : UInt32) (contents : List UInt8) : SupervisorEvent → Prop
  | ⟨.openFile .worker, opened⟩ => opened ≠ .error .noEntry
  | ⟨.fstatFile .worker, info⟩ => ∀ i ∈ info, i.kind = .regular ∧ i.uid = euid ∧
    i.mode &&& 0o777 = 0o600 ∧ i.nlink = 1 ∧ i.size = (contents.length : Int)
  | ⟨.readWorker _, read⟩ => ∀ bytes, read = .ok bytes → bytes.val <+: contents
  | _ => True

abbrev ShowsAll (supervisor : WorkerSupervisor) (contents : List UInt8)
    (trace : List SupervisorEvent) : Prop :=
  ∀ e ∈ trace, Shows supervisor.journal.euid contents e

/-- The contents are short enough and the scan takes this PID from them. -/
structure Taken (contents : List UInt8) (recorded : Int) : Prop where
  scanned : scanWorker contents = some recorded
  nonneg : 0 ≤ recorded
  bounded : recorded ≤ intMax
  short : contents.length ≤ 63

/-- Only a process whose PID was taken from the record is asked for. -/
def AsksTaken (supervisor : WorkerSupervisor) (contents : List UInt8)
    (before : List SupervisorEvent) (e : SupervisorEvent) : Prop :=
  ∀ recorded answer, e = ⟨.procPidinfo recorded, answer⟩ → supervisor.ShowsAll contents before →
    Taken contents recorded

/-- The bytes that are read are the whole contents. -/
lemma readRecord_whole {before : List SupervisorEvent} :
    Holds (supervisor.AsksTaken contents) before state supervisor.readRecord fun bytes _ after =>
      supervisor.ShowsAll contents after → ∀ read ∈ bytes, read = contents ∧ contents.length ≤ 63 := by
  have hprivate : Holds (supervisor.AsksTaken contents) before state
      (supervisor.privateFile .worker) fun _ _ _ => True :=
    Holds.ask_bind fun info => ⟨nofun, .pure trivial⟩
  refine hprivate.bind fun isPrivate state₁ after₁ _ => Holds.ite (fun _ => .pure nofun) fun _ => ?_
  refine Holds.ask_bind fun answer => ⟨nofun, ?_⟩
  cases answer with
  | error errno => exact .pure nofun
  | ok bytes =>
    refine Holds.ite (fun _ => .pure nofun) fun _ => Holds.ask_bind fun info => ⟨nofun, .pure ?_⟩
    intro hshows read hread
    have hprefix : bytes.val <+: contents := hshows ⟨.readWorker 63, .ok bytes⟩ (by simp) bytes rfl
    have hsize : ∀ i ∈ info, i.size = (contents.length : Int) := fun i hi =>
      (hshows ⟨.fstatFile .worker, info⟩ (by simp) i hi).2.2.2.2
    have hlength : bytes.val.length ≤ 63 := bytes.property
    cases info with
    | none => cases hread
    | some i =>
      dsimp only [Option.any_some] at hread
      split at hread
      swap
      · cases hread
      rename_i hcount
      obtain rfl := Option.some.inj hread
      have hequal : bytes.val.length = contents.length := by
        have hinfo := hsize i rfl
        rw [beq_iff_eq] at hcount
        omega
      have hwhole := hprefix.eq_of_length hequal
      exact ⟨hwhole, hwhole ▸ hlength⟩

/-- An old worker is found absent, and a process asked for, by what is taken from the record. -/
lemma oldWorkerAbsent_takes (supervisor : WorkerSupervisor) (pending : Bool) (state : Supervision)
    (contents : List UInt8) :
    Holds (supervisor.AsksTaken contents) [] state (supervisor.oldWorkerAbsent pending)
      fun absent _ after => absent = true → supervisor.ShowsAll contents after →
        ∃ recorded, Taken contents recorded ∧
          (recorded = 0 ∨ ⟨.procPidinfo recorded, true⟩ ∈ after) := by
  refine Holds.ask_bind fun opened => ⟨nofun, ?_⟩
  cases opened with
  | error errno =>
    refine .pure fun habsent hshows => ?_
    simp only [Bool.and_eq_true, decide_eq_true_eq] at habsent
    have hopened : Except.error errno ≠ Except.error Errno.noEntry :=
      hshows ⟨.openFile .worker, .error errno⟩ (by simp)
    exact absurd (congrArg Except.error habsent.1) hopened
  | ok u =>
    refine readRecord_whole.bind fun bytes state₁ after₁ hread => ?_
    refine Holds.ask_bind fun closed => ⟨nofun, Holds.ite (fun _ => .pure nofun) fun _ => ?_⟩
    have hstart : supervisor.ShowsAll contents (after₁ ++ [⟨.closeFile .worker, closed⟩]) →
        supervisor.ShowsAll contents after₁ := fun hall => (List.forall_mem_append.mp hall).1
    cases hscan : bytes.bind scanWorker with
    | none => exact .pure nofun
    | some recorded =>
      obtain ⟨read, rfl, hrecorded⟩ := Option.bind_eq_some_iff.mp hscan
      have htaken : 0 ≤ recorded → recorded ≤ intMax →
          supervisor.ShowsAll contents (after₁ ++ [⟨.closeFile .worker, closed⟩]) →
          Taken contents recorded := fun hnonneg hmax hall => by
        obtain ⟨rfl, hshort⟩ := hread (hstart hall) read rfl
        exact ⟨hrecorded, hnonneg, hmax, hshort⟩
      refine Holds.ite (fun _ => .pure nofun) fun hrange => ?_
      refine Holds.ite (fun hzero => .pure fun _ hall => ?_) fun _ => Holds.ask fun answer => ?_
      · exact ⟨recorded, htaken (by omega) (by omega) hall, .inl hzero⟩
      · refine ⟨fun recorded' answer' heq hall => ?_, fun habsent hall => ?_⟩
        · cases heq
          exact htaken (by omega) (by omega) hall
        · have hbefore := (List.forall_mem_append.mp hall).1
          refine ⟨recorded, htaken (by omega) (by omega) hbefore, .inr ?_⟩
          rw [habsent]
          simp

lemma gives_sys_bind {α : Type} {c : SupervisorCall} {f : c.Answer → SupervisorM α}
    {state state' : Supervision} {trace : List SupervisorEvent} {a : α} :
    Gives (sys c >>= f).run state trace (some a) state' ↔
      ∃ answer rest, trace = ⟨c, answer⟩ :: rest ∧ Gives (f answer).run state rest (some a) state' :=
  ends_call

/-- A run whose calls all succeed, and in which the asked process is absent. -/
lemma exists_absent (supervisor : WorkerSupervisor) (pending : Bool) (state : Supervision)
    {recorded : Int} (h : Taken contents recorded) :
    ∃ trace, Gives (supervisor.oldWorkerAbsent pending).run state trace (some true) state ∧
      supervisor.ShowsAll contents trace ∧
      (recorded ≠ 0 → ⟨.procPidinfo recorded, true⟩ ∈ trace) := by
  have hne : contents ≠ [] := by
    rintro rfl
    have hnone : scanWorker [] = none := by decide +kernel
    exact absurd (hnone.symm.trans h.scanned) nofun
  have hmode : (0o600 : UInt16) &&& 0o777 = 0o600 := by decide
  let info : FileStat := ⟨.regular, 0o600, supervisor.journal.euid, 1, contents.length⟩
  let opening : List SupervisorEvent := [⟨.openFile .worker, .ok ()⟩, ⟨.fstatFile .worker, some info⟩,
    ⟨.readWorker 63, .ok ⟨contents, h.short⟩⟩, ⟨.fstatFile .worker, some info⟩,
    ⟨.closeFile .worker, true⟩]
  have hopening : supervisor.ShowsAll contents opening := by
    have hinfo : ∀ i ∈ some info, i.kind = .regular ∧ i.uid = supervisor.journal.euid ∧
        i.mode &&& 0o777 = 0o600 ∧ i.nlink = 1 ∧ i.size = (contents.length : Int) := by
      intro i hi
      obtain rfl := Option.some.inj hi
      exact ⟨rfl, rfl, hmode, rfl, rfl⟩
    intro e he
    simp only [opening, List.mem_cons, List.not_mem_nil, or_false] at he
    rcases he with rfl | rfl | rfl | rfl | rfl
    · exact nofun
    · exact hinfo
    · rintro bytes heq
      obtain rfl := Except.ok.inj heq
      exact List.prefix_refl _
    · exact hinfo
    · trivial
  have hprivate : Gives (supervisor.privateFile .worker).run state
      [⟨.fstatFile .worker, some info⟩] (some true) state := by
    refine gives_sys_bind.mpr ⟨some info, [], rfl, ?_⟩
    refine gives_pure.mpr ⟨rfl, ?_, rfl⟩
    simp [info, hmode]
  have hread : Gives supervisor.readRecord.run state [⟨.fstatFile .worker, some info⟩,
      ⟨.readWorker 63, .ok ⟨contents, h.short⟩⟩, ⟨.fstatFile .worker, some info⟩]
      (some (some contents)) state := by
    refine Gives.optionBind hprivate ?_
    refine gives_sys_bind.mpr ⟨.ok ⟨contents, h.short⟩, _, rfl, ?_⟩
    dsimp only
    rw [if_neg hne]
    refine gives_sys_bind.mpr ⟨some info, [], rfl, gives_pure.mpr ⟨rfl, ?_, rfl⟩⟩
    simp [info]
  have hasked : ∃ last, Gives (recordedAbsent recorded).run state last (some true) state ∧
      supervisor.ShowsAll contents last ∧ (recorded ≠ 0 → ⟨.procPidinfo recorded, true⟩ ∈ last) := by
    have hnonneg := h.nonneg
    have hbounded := h.bounded
    rw [recordedAbsent, if_neg (by omega)]
    by_cases hzero : recorded = 0
    · rw [if_pos hzero]
      exact ⟨[], gives_pure.mpr ⟨rfl, rfl, rfl⟩, nofun, fun hne => absurd hzero hne⟩
    · rw [if_neg hzero]
      have hask : Gives (sys (.procPidinfo recorded)).run state [⟨.procPidinfo recorded, true⟩]
          (some true) state := gives_ask_bind.mpr ⟨true, [], rfl, gives_pure.mpr ⟨rfl, rfl, rfl⟩⟩
      exact ⟨_, hask, by simp [ShowsAll, Shows], fun _ => by simp⟩
  obtain ⟨last, hlast, hshows, hmem⟩ := hasked
  have hscanned : (some contents).bind scanWorker = some recorded := h.scanned
  refine ⟨opening ++ last, gives_sys_bind.mpr ⟨.ok (), _, rfl, hread.optionBind
    (show Gives _ state (⟨.closeFile .worker, true⟩ :: last) (some true) state from
      gives_sys_bind.mpr ⟨true, last, rfl, ?_⟩)⟩,
    List.forall_mem_append.mpr ⟨hopening, hshows⟩, fun hne => List.mem_append_right _ (hmem hne)⟩
  rw [hscanned]
  exact hlast

/-- Whatever happens, the contents are taken for the record of a PID only if they are the record
that is written for it, and no worker is found absent on other contents. -/
def TakesRecordsOnly (supervisor : WorkerSupervisor) (contents : List UInt8) : Prop :=
  ∀ (pending : Bool) (state state' : Supervision) (trace : List SupervisorEvent) (absent : Bool),
    Gives (supervisor.oldWorkerAbsent pending).run state trace (some absent) state' →
    supervisor.ShowsAll contents trace →
    (∀ recorded answer, ⟨.procPidinfo recorded, answer⟩ ∈ trace → IsRecord contents recorded) ∧
      (absent = true → ∃ recorded, IsRecord contents recorded ∧
        (recorded = 0 ∨ ⟨.procPidinfo recorded, true⟩ ∈ trace))

/-- Where everything that can be taken is what was written, no run takes anything else. -/
lemma takesRecordsOnly_of_taken
    (h : ∀ recorded, Taken contents recorded → IsRecord contents recorded) :
    supervisor.TakesRecordsOnly contents := by
  intro pending state state' trace absent hgives hshows
  have htakes := supervisor.oldWorkerAbsent_takes pending state contents
  refine ⟨fun recorded answer hmem => ?_, fun habsent => ?_⟩
  · obtain ⟨before, after, rfl⟩ := List.append_of_mem hmem
    have hbefore : supervisor.ShowsAll contents before := (List.forall_mem_append.mp hshows).1
    exact h recorded (htakes.guarded hgives before _ after rfl recorded answer rfl hbefore)
  · obtain ⟨recorded, htaken, hasked⟩ := htakes.gives hgives habsent hshows
    exact ⟨recorded, h recorded htaken, hasked⟩

/-- What is taken of contents is what was written for some PID. -/
lemma TakesRecordsOnly.of_taken {recorded : Int} (h : supervisor.TakesRecordsOnly contents)
    (htaken : Taken contents recorded) : ∃ recorded, IsRecord contents recorded := by
  obtain ⟨trace, hgives, hshows, -⟩ :=
    supervisor.exists_absent false ⟨ControlLease.zero, .blocked, none⟩ htaken
  obtain ⟨recorded, hrecord, -⟩ := (h _ _ _ _ _ hgives hshows).2 rfl
  exact ⟨recorded, hrecord⟩

/-- The scan allows any spaces, or none, after the words and the number, a sign and leading zeros.
So the contents are judged rightly exactly if, as far as they are short enough and their number
is a PID, they have one space after each word, no sign, no leading zero and one newline at the
end. -/
theorem takesRecordsOnly_iff (supervisor : WorkerSupervisor) (contents : List UInt8) :
    supervisor.TakesRecordsOnly contents ↔ ∀ record : ScannedRecord, record.bytes = contents →
      contents.length ≤ 63 → 0 ≤ record.recorded → record.recorded ≤ intMax → record.Exact := by
  constructor
  · rintro htakes record rfl hshort hnonneg hbounded
    have htaken : Taken record.bytes record.recorded :=
      ⟨record.scanWorker_bytes, hnonneg, hbounded, hshort⟩
    obtain ⟨recorded, hrecord⟩ := htakes.of_taken htaken
    exact ((isRecord_iff hbounded).mp hrecord).1
  · intro hexact
    refine takesRecordsOnly_of_taken fun recorded htaken => ?_
    obtain ⟨record, rfl, rfl⟩ := scanWorker_iff.mp htaken.scanned
    have hrecord := hexact record rfl htaken.short htaken.nonneg htaken.bounded
    exact (isRecord_iff htaken.bounded).mpr ⟨hrecord, rfl⟩

/-- `Ventilator worker v1 12`, the beginning of the record of PID 123. -/
def truncatedRecord : List UInt8 := (workerRecord 123).take 23

/-- The truncated record of one worker is taken for the record of another. -/
theorem truncated_record_taken : truncatedRecord <+: workerRecord 123 ∧
    truncatedRecord ≠ workerRecord 123 ∧
    ∀ supervisor : WorkerSupervisor, ¬ supervisor.TakesRecordsOnly truncatedRecord := by
  refine ⟨List.take_prefix _ _, by decide +kernel, fun supervisor htakes => ?_⟩
  have htaken : Taken truncatedRecord 12 :=
    ⟨by decide +kernel, by decide, by decide, by decide +kernel⟩
  obtain ⟨recorded, child, -, -, hwritten⟩ := htakes.of_taken htaken
  have hlast : (workerRecord child).getLast? = some 10 := by
    have hend : "\n".toUTF8.toList = [10] := by decide +kernel
    rw [workerRecord, toUTF8_append, hend, List.getLast?_concat]
  rw [← hwritten] at hlast
  exact absurd hlast (by decide +kernel)

end WorkerSupervisor
end Ventilator
