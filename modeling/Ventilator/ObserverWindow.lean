import Ventilator.CallTreeLogic
import Ventilator.ControlLeaseWindow
import Ventilator.WorkerSupervisor

/-! What a verified observer sent: 61 whole records, timed as the lease demands and each received
soon after it was read, before its pipe ended and the supervisor reaped it. -/
namespace Ventilator
open CallTree TimedSequence

namespace Observation

def reading (observation : Observation) : Reading :=
  ⟨observation.result, some observation.snapshot, observation.finishedNs⟩

/-- The read lasted at most five seconds and was received at most two seconds after it. -/
structure Timely (observation : Observation) (receivedNs : UInt64) : Prop where
  finished : observation.startedNs.toNat ≤ observation.finishedNs.toNat
  short : observation.finishedNs.toNat ≤ observation.startedNs.toNat + 5000000000
  received : observation.finishedNs.toNat ≤ receivedNs.toNat
  fresh : receivedNs.toNat ≤ observation.finishedNs.toNat + 2000000000

/-- Each read starts no earlier than the one before it finished, and the first no earlier than the
launch. -/
def Ordered (launchedNs : UInt64) : List Observation → Prop
  | [] => True
  | observation :: rest =>
    launchedNs ≤ observation.startedNs ∧ Ordered observation.finishedNs rest

/-- When the last read finished, or else the launch. -/
def lastFinish (launchedNs : UInt64) (observations : List Observation) : UInt64 :=
  (observations.getLast?.map Observation.finishedNs).getD launchedNs

lemma lastFinish_concat (launchedNs : UInt64) (observations : List Observation)
    (observation : Observation) :
    lastFinish launchedNs (observations ++ [observation]) = observation.finishedNs := by
  simp [lastFinish]

lemma ordered_concat {launchedNs : UInt64} {observations : List Observation}
    {observation : Observation} (h : Ordered launchedNs observations)
    (hstart : lastFinish launchedNs observations ≤ observation.startedNs) :
    Ordered launchedNs (observations ++ [observation]) := by
  induction observations generalizing launchedNs with
  | nil => exact ⟨hstart, trivial⟩
  | cons first rest ih =>
    refine ⟨h.1, ih h.2 ?_⟩
    cases rest with
    | nil => exact hstart
    | cons second rest =>
      rw [lastFinish, List.getLast?_cons_cons] at hstart
      rw [lastFinish]
      have hlast : ((second :: rest).getLast?.map Observation.finishedNs).isSome = true := by simp
      obtain ⟨t, ht⟩ := Option.isSome_iff_exists.mp hlast
      rw [ht] at hstart ⊢
      exact hstart

end Observation

/-! The lease over the observations it accepted. -/
section Lease
open Observation ControlLease

/-- The state of a lease between the samples of its window. -/
def watchingState (recovering : Bool) : ControlLeaseState :=
  if recovering then .verifyingRecovery else .observing

/-- The lease that one observation after another was accepted into. -/
structure LeaseWindow (recovering : Bool) (lease : ControlLease)
    (observations : List Observation) : Prop where
  uninterrupted : Reading.Uninterrupted (observations.map reading)
  first : observations.head?.map Observation.finishedNs = some lease.observationStartedNs
  last : observations.getLast?.map Observation.finishedNs = some lease.lastSampleNs
  counted : lease.samples.toNat = observations.length
  state : lease.state = watchingState recovering ∨
    lease.state = .stable ∧ lease.recoveryVerified = recovering ∧
      Reading.Complete (observations.map reading)

/-- Before the first observation a recovering lease still requires the recovery. -/
def LeaseAccepts (recovering : Bool) (lease : ControlLease) (observations : List Observation) :
    Prop :=
  (observations = [] ∧ (recovering = true → lease.state = .recoveryRequired)) ∨
    LeaseWindow recovering lease observations

lemma LeaseWindow.opened {recovering : Bool} {lease : ControlLease} {observation : Observation}
    (hsystem : observation.reading.isSystem = true)
    (hstarted : lease.observationStartedNs = observation.finishedNs)
    (hlast : lease.lastSampleNs = observation.finishedNs) (hsamples : lease.samples = 1)
    (hstate : lease.state = watchingState recovering) :
    LeaseWindow recovering lease [observation] :=
  ⟨.singleton hsystem, by simp [hstarted], by simp [hlast], by simp [hsamples], .inl hstate⟩

/-- The states `accept_observation` accepts. -/
lemma accepted_state {recovering : Bool} {lease : ControlLease}
    (h : (decide (lease.state = if recovering then .verifyingRecovery else .observing) ||
      (lease.state == .stable && lease.recoveryVerified == recovering)) = true) :
    lease.state = watchingState recovering ∨
      lease.state = .stable ∧ lease.recoveryVerified = recovering := by
  rw [Bool.or_eq_true, decide_eq_true_eq, Bool.and_eq_true, beq_iff_eq, beq_iff_eq] at h
  exact h

lemma reading_isSystem {observation : Observation}
    (h : smcBaselineIsSystem (some observation.snapshot) = true)
    (hresult : observation.result = .ok) : observation.reading.isSystem = true := by
  rw [Reading.isSystem, reading, h, hresult]
  rfl

/-- The first observation opens the window. -/
lemma window_start {observation : Observation}
    (hstate : (ControlLease.start .clear observation.result (some observation.snapshot)
      observation.finishedNs).state = .observing) :
    LeaseWindow false (ControlLease.start .clear observation.result (some observation.snapshot)
      observation.finishedNs) [observation] := by
  rw [ControlLease.start, if_neg (by decide)] at hstate ⊢
  split at hstate
  · cases hstate
  rename_i hread
  rw [if_neg hread]
  split at hstate
  · cases hstate
  rename_i hsystem
  rw [if_neg hsystem]
  rw [not_or, not_not] at hread
  exact .opened (reading_isSystem (not_not.mp hsystem) (validRead_ok hread.2)) rfl rfl rfl rfl

lemma window_recoveryStarted {lease : ControlLease} {observation : Observation}
    (hrequired : lease.state = .recoveryRequired)
    (hstate : (lease.recoveryStarted observation.result (some observation.snapshot)
      observation.finishedNs).state = .verifyingRecovery) :
    LeaseWindow true (lease.recoveryStarted observation.result (some observation.snapshot)
      observation.finishedNs) [observation] := by
  rw [ControlLease.recoveryStarted, if_neg (by simp [hrequired])] at hstate ⊢
  split at hstate
  · cases hstate
  rename_i hread
  rw [if_neg hread]
  split at hstate
  swap
  · rw [hrequired] at hstate
    cases hstate
  rename_i hsystem
  rw [if_pos hsystem]
  rw [not_or, not_not] at hread
  exact .opened (reading_isSystem hsystem (validRead_ok hread.2)) rfl rfl rfl rfl

/-- The window began no later than its last sample. -/
lemma LeaseWindow.started_le {recovering : Bool} {lease : ControlLease}
    {observations : List Observation} (h : LeaseWindow recovering lease observations) :
    lease.observationStartedNs.toNat ≤ lease.lastSampleNs.toNat := by
  cases observations with
  | nil => exact absurd h.first nofun
  | cons first rest =>
    obtain ⟨last, hlast, hlastNs⟩ := Option.map_eq_some_iff.mp h.last
    have hfirst : first.finishedNs = lease.observationStartedNs := Option.some.inj h.first
    have hgaps := h.uninterrupted.gaps
    have htimes : Reading.times ((first :: rest).map Observation.reading) =
        first.finishedNs.toNat :: Reading.times (rest.map Observation.reading) := rfl
    have hend : (Reading.times ((first :: rest).map Observation.reading)).getLast? =
        some last.finishedNs.toNat := by
      rw [Reading.times, List.getLast?_map, List.getLast?_map, hlast]
      rfl
    rw [htimes] at hgaps hend
    have hspan := hgaps.length_nsmul_le hend
    rw [← hfirst, ← hlastNs]
    omega

/-- A further observation extends the window of a lease that is not stable yet. -/
lemma LeaseWindow.sampled {recovering : Bool} {lease : ControlLease}
    {observations : List Observation} {observation : Observation}
    (h : LeaseWindow recovering lease observations)
    (hwatching : lease.state = watchingState recovering) (hshort : observations.length < 61)
    (hstate : (lease.sample observation.result (some observation.snapshot)
        observation.finishedNs).state = watchingState recovering ∨
      (lease.sample observation.result (some observation.snapshot)
        observation.finishedNs).state = .stable) :
    LeaseWindow recovering (lease.sample observation.result (some observation.snapshot)
      observation.finishedNs) (observations ++ [observation]) := by
  obtain ⟨previous, hprevious, hpreviousNs⟩ := Option.map_eq_some_iff.mp h.last
  have hcounted : (lease.samples + 1).toNat = (observations ++ [observation]).length := by
    rw [UInt32.toNat_add, h.counted, List.length_append, List.length_singleton]
    exact Nat.mod_eq_of_lt (by simp; omega)
  have hfirst : (observations ++ [observation]).head?.map Observation.finishedNs =
      some lease.observationStartedNs := by
    cases observations with
    | nil => exact absurd h.first nofun
    | cons first rest => exact h.first
  have hlast : (observations ++ [observation]).getLast?.map Observation.finishedNs =
      some observation.finishedNs := by simp
  have hextended : smcBaselineIsSystem (some observation.snapshot) = true →
      observation.result = .ok → SampleGap lease.lastSampleNs observation.finishedNs →
      Reading.Uninterrupted ((observations ++ [observation]).map reading) := by
    intro hsystem hresult hgap
    have hreading : (observations.map reading).getLast? = some previous.reading := by
      rw [List.getLast?_map, hprevious]
      rfl
    rw [← hpreviousNs] at hgap
    rw [List.map_append, List.map_singleton]
    exact h.uninterrupted.concat hreading (reading_isSystem hsystem hresult) hgap
  have heffect := effect_sample lease observation.result (some observation.snapshot)
    observation.finishedNs
  generalize lease.sample observation.result (some observation.snapshot)
    observation.finishedNs = after at heffect hstate ⊢
  generalize hresult : observation.result = result at heffect
  cases heffect with
  | unchanged start sample =>
    refine absurd ?_ (sample rfl)
    rw [ControlLease.watching, hwatching]
    cases recovering
    · exact .inl rfl
    · exact .inr rfl
  | dropped start => cases recovering <;> simp [requireRecovery, watchingState] at hstate
  | changed watching gap => cases recovering <;> simp [requireRecovery, watchingState] at hstate
  | failed start state => cases recovering <;> simp [watchingState] at hstate
  | counted watching gap system short =>
    exact ⟨hextended system hresult gap, hfirst, hlast, hcounted, .inl hwatching⟩
  | stabilised watching gap system enough span =>
    have hwindow := hextended system hresult gap
    have hstarted := h.started_le
    have hspan : lease.observationStartedNs.toNat + 60000000000 ≤ observation.finishedNs.toNat := by
      have hle : lease.observationStartedNs ≤ observation.finishedNs := by
        rw [UInt64.le_iff_toNat_le]
        have := gap.1
        omega
      rw [ge_iff_le, UInt64.le_iff_toNat_le, UInt64.toNat_sub_of_le _ _ hle, baselineNs_toNat] at span
      omega
    have henough : 61 ≤ (observations ++ [observation]).length := by
      rw [ge_iff_le, UInt32.le_iff_toNat_le, hcounted] at enough
      exact enough
    have hrecovering : decide (lease.state = .verifyingRecovery) = recovering := by
      rw [hwatching]
      cases recovering <;> rfl
    obtain ⟨opening, hopening, hopeningNs⟩ := Option.map_eq_some_iff.mp hfirst
    refine ⟨hwindow, hfirst, hlast, hcounted, .inr ⟨rfl, hrecovering, hwindow, by simpa using henough,
      opening.reading, observation.reading, ?_, by simp, ?_⟩⟩
    · rw [List.head?_map, hopening]
      rfl
    · rw [← hopeningNs] at hspan
      exact hspan

/-- The next observation that `accept_observation` accepts is timely, follows the one before it
and extends the window. -/
lemma acceptObservation_window {recovering : Bool} {lease : ControlLease}
    {observations : List Observation} {observation : Observation} {launchedNs receivedNs : UInt64}
    (h : LeaseAccepts recovering lease observations) (hshort : observations.length < 61)
    (haccept : (acceptObservation lease observation launchedNs receivedNs observations.length
      recovering).1 = true) :
    Timely observation receivedNs ∧ lastFinish launchedNs observations ≤ observation.startedNs ∧
      LeaseAccepts recovering (acceptObservation lease observation launchedNs receivedNs
        observations.length recovering).2 (observations ++ [observation]) := by
  unfold acceptObservation at haccept ⊢
  split at haccept
  · cases haccept
  rename_i htimes
  rw [if_neg htimes]
  simp only [not_or, not_and] at htimes
  obtain ⟨hlaunched, hfinished, hshortRead, hreceived, hfresh, hfollows⟩ := htimes
  obtain ⟨hstartLe, hread⟩ := ControlLease.toNat_sub_of_not_lt hfinished
  obtain ⟨hfinishLe, hage⟩ := ControlLease.toNat_sub_of_not_lt hreceived
  have htimely : Timely observation receivedNs := by
    rw [gt_iff_lt, UInt64.lt_iff_toNat_lt, hread] at hshortRead
    rw [gt_iff_lt, UInt64.lt_iff_toNat_lt, hage] at hfresh
    have hmax : maxReadNs.toNat = 5000000000 := rfl
    have htwo : (2 * uint64Second).toNat = 2000000000 := rfl
    exact ⟨hstartLe, by omega, hfinishLe, by omega⟩
  have hstate := accepted_state haccept
  rcases h with ⟨rfl, hrequired⟩ | hwindow
  · refine ⟨htimely, UInt64.not_lt.mp hlaunched, .inr ?_⟩
    rw [List.length_nil, if_pos rfl] at hstate ⊢
    cases recovering with
    | false =>
      rw [if_neg (by simp)] at hstate ⊢
      refine window_start ?_
      rcases hstate with hstate | ⟨hstable, -⟩
      · exact hstate
      · rw [ControlLease.start, if_neg (by decide)] at hstable
        split at hstable
        · cases hstable
        · split at hstable <;> cases hstable
    | true =>
      rw [if_pos rfl] at hstate ⊢
      refine window_recoveryStarted (hrequired rfl) ?_
      rcases hstate with hstate | ⟨hstable, -⟩
      · exact hstate
      · rw [ControlLease.recoveryStarted, if_neg (by simp [hrequired])] at hstable
        split at hstable
        · cases hstable
        · split at hstable
          · cases hstable
          · rw [hrequired rfl] at hstable
            cases hstable
  · have hpositive : 0 < observations.length := by
      cases observations with
      | nil => exact absurd hwindow.first (by simp)
      | cons first rest => simp
    have hfollow : lastFinish launchedNs observations ≤ observation.startedNs := by
      rw [lastFinish, hwindow.last]
      exact UInt64.not_lt.mp (hfollows hpositive)
    refine ⟨htimely, hfollow, .inr ?_⟩
    rw [if_neg (by omega)] at hstate ⊢
    have hwatching : lease.state = watchingState recovering := by
      rcases hwindow.state with hwatching | ⟨-, -, hcomplete⟩
      · exact hwatching
      · have henough := hcomplete.enough
        rw [List.length_map] at henough
        omega
    exact hwindow.sampled hwatching hshort (hstate.imp_right And.left)

end Lease
/-! The pipe. -/

/-- The bytes the reads of a trace gave, in order. -/
def receivedBytes (trace : List SupervisorEvent) : List UInt8 :=
  trace.flatMap fun
    | ⟨.readPipe _, .ok bytes⟩ => bytes.val
    | _ => []

def SupervisorCall.readsPipe : SupervisorCall → Bool
  | readPipe _ => true
  | _ => false

/-- One whole record as it was received. -/
structure Receipt where
  bytes : List UInt8
  receivedNs : UInt64

def Receipt.observation (supervisor : WorkerSupervisor) (receipt : Receipt) : Observation :=
  supervisor.layout.decode receipt.bytes

/-- The clock said `receivedNs` right after the read that completed the bytes. -/
def ReceivedAt (trace : List SupervisorEvent) (bytes : List UInt8) (receivedNs : UInt64) : Prop :=
  ∃ before size data after, trace = before ++ ⟨.readPipe size, .ok data⟩ ::
    ⟨.nowNs, receivedNs⟩ :: after ∧ data.val ≠ [] ∧ receivedBytes before ++ data.val = bytes

/-- The pipe ended once it had given the bytes, and is not read again. -/
def EndsPipe (trace : List SupervisorEvent) (bytes : List UInt8) : Prop :=
  ∃ before size data after, trace = before ++ ⟨.readPipe size, .ok data⟩ :: after ∧
    data.val = [] ∧ receivedBytes before = bytes ∧ ∀ e ∈ after, e.1.readsPipe = false

/-- The last clock reading of the trace satisfies `p`. -/
def LastClock (trace : List SupervisorEvent) (p : UInt64 → Prop) : Prop :=
  ∃ before now after, trace = before ++ ⟨.nowNs, now⟩ :: after ∧ p now ∧
    ∀ e ∈ after, e.1 ≠ .nowNs

lemma receivedBytes_append (xs ys : List SupervisorEvent) :
    receivedBytes (xs ++ ys) = receivedBytes xs ++ receivedBytes ys := List.flatMap_append ..

lemma receivedBytes_quiet {e : SupervisorEvent} (h : e.1.readsPipe = false) :
    receivedBytes [e] = [] := by
  obtain ⟨c, answer⟩ := e
  cases c with
  | readPipe size => cases h
  | _ => rfl

lemma ReceivedAt.append {trace : List SupervisorEvent} {bytes : List UInt8} {t : UInt64}
    (h : ReceivedAt trace bytes t) (more : List SupervisorEvent) :
    ReceivedAt (trace ++ more) bytes t := by
  obtain ⟨before, size, data, after, rfl, hdata, hbytes⟩ := h
  exact ⟨before, size, data, after ++ more, by simp, hdata, hbytes⟩

lemma EndsPipe.append {trace : List SupervisorEvent} {bytes : List UInt8} {e : SupervisorEvent}
    (h : EndsPipe trace bytes) (he : e.1.readsPipe = false) : EndsPipe (trace ++ [e]) bytes := by
  obtain ⟨before, size, data, after, rfl, hdata, hbytes, hafter⟩ := h
  refine ⟨before, size, data, after ++ [e], by simp, hdata, hbytes, ?_⟩
  exact List.forall_mem_append.mpr ⟨hafter, by simpa using he⟩

lemma LastClock.append {trace : List SupervisorEvent} {p : UInt64 → Prop} {e : SupervisorEvent}
    (h : LastClock trace p) (he : e.1 ≠ .nowNs) : LastClock (trace ++ [e]) p := by
  obtain ⟨before, now, after, rfl, hp, hafter⟩ := h
  refine ⟨before, now, after ++ [e], by simp, hp, ?_⟩
  exact List.forall_mem_append.mpr ⟨hafter, by simpa using he⟩

namespace WorkerSupervisor
open Observation SupervisorM

/-- What a verified observer sent, and how the supervisor received it. -/
structure VerifiedObserver (supervisor : WorkerSupervisor) (child : Pid)
    (launchedNs deadline : UInt64) (trace : List SupervisorEvent) (receipts : List Receipt) :
    Prop where
  whole : ∀ receipt ∈ receipts, receipt.bytes.length = supervisor.layout.size
  count : receipts.length = 61
  ended : EndsPipe trace (receipts.flatMap Receipt.bytes)
  received : ∀ k receipt, receipts[k]? = some receipt →
    ReceivedAt trace ((receipts.take (k + 1)).flatMap Receipt.bytes) receipt.receivedNs
  timely : ∀ receipt ∈ receipts,
    Timely (receipt.observation supervisor) receipt.receivedNs
  ordered : Ordered launchedNs (receipts.map (Receipt.observation supervisor))
  complete : Reading.Complete (receipts.map fun receipt => (receipt.observation supervisor).reading)
  reaped : ⟨.waitpid child, .reaped (.exited 0)⟩ ∈ trace
  clock : LastClock trace fun now => now ≠ 0 ∧ now < deadline ∧
    now < lastFinish launchedNs (receipts.map (Receipt.observation supervisor)) + maxReadNs +
      2 * uint64Second

/-- What the loop of `supervise_observer` keeps. -/
structure ObserverInvariant (supervisor : WorkerSupervisor) (child : Pid) (launchedNs : UInt64)
    (recovering : Bool) (receipts : List Receipt) (vars : ObserverVars) (state : Supervision)
    (trace : List SupervisorEvent) : Prop where
  whole : ∀ receipt ∈ receipts, receipt.bytes.length = supervisor.layout.size
  count : receipts.length = vars.samples
  bytes : receivedBytes trace = receipts.flatMap Receipt.bytes ++ vars.filled
  received : ∀ k receipt, receipts[k]? = some receipt →
    ReceivedAt trace ((receipts.take (k + 1)).flatMap Receipt.bytes) receipt.receivedNs
  timely : ∀ receipt ∈ receipts,
    Timely (receipt.observation supervisor) receipt.receivedNs
  ordered : Ordered launchedNs (receipts.map (Receipt.observation supervisor))
  lease : LeaseAccepts recovering state.lease (receipts.map (Receipt.observation supervisor))
  progress : vars.progressDeadline = lastFinish launchedNs
    (receipts.map (Receipt.observation supervisor)) + maxReadNs + 2 * uint64Second
  ended : vars.eof = true → EndsPipe trace (receipts.flatMap Receipt.bytes ++ vars.filled)
  exited : vars.exitedOk = true → ⟨.waitpid child, .reaped (.exited 0)⟩ ∈ trace

/-- The clock was last read in this round, before both deadlines. -/
def InTime (deadline : UInt64) (vars : ObserverVars) (trace : List SupervisorEvent) : Prop :=
  LastClock trace fun now => now ≠ 0 ∧ now < deadline ∧ now < vars.progressDeadline

/-- A verdict is only given on a verified observer. -/
def VerdictSound (supervisor : WorkerSupervisor) (child : Pid) (launchedNs deadline : UInt64)
    (recovering : Bool) (state : Supervision) (trace : List SupervisorEvent) : ObserverEnd → Prop
  | .returned true =>
    (∃ receipts, VerifiedObserver supervisor child launchedNs deadline trace receipts ∧
      LeaseWindow recovering state.lease (receipts.map (Receipt.observation supervisor))) ∧
      state.lease.state = .stable ∧ state.lease.recoveryVerified = recovering
  | _ => True

variable {supervisor : WorkerSupervisor} {child : Pid} {launchedNs deadline : UInt64}
  {recovering keepsLatest : Bool} {receipts : List Receipt} {vars : ObserverVars}
  {state : Supervision} {trace : List SupervisorEvent}

/-- An event that gives no bytes leaves the loop's records; after the end none reads the pipe. -/
lemma ObserverInvariant.silent {e : SupervisorEvent}
    (h : ObserverInvariant supervisor child launchedNs recovering receipts vars state trace)
    (hbytes : receivedBytes [e] = []) (hend : vars.eof = true → e.1.readsPipe = false) :
    ObserverInvariant supervisor child launchedNs recovering receipts vars state (trace ++ [e]) := by
  refine { h with bytes := ?_, received := ?_, ended := ?_, exited := ?_ }
  · rw [receivedBytes_append, hbytes, List.append_nil]
    exact h.bytes
  · exact fun k receipt hk => (h.received k receipt hk).append [e]
  · exact fun heof => (h.ended heof).append (hend heof)
  · exact fun hexited => List.mem_append_left _ (h.exited hexited)

lemma ObserverInvariant.quiet {e : SupervisorEvent}
    (h : ObserverInvariant supervisor child launchedNs recovering receipts vars state trace)
    (he : e.1.readsPipe = false) :
    ObserverInvariant supervisor child launchedNs recovering receipts vars state (trace ++ [e]) :=
  h.silent (receivedBytes_quiet he) fun _ => he

/-- What a round leads to. -/
abbrev RoundPost (supervisor : WorkerSupervisor) (child : Pid) (launchedNs deadline : UInt64)
    (recovering : Bool) (out : ObserverEnd ⊕ ObserverVars) (state : Supervision)
    (trace : List SupervisorEvent) : Prop :=
  match out with
  | .inl finish => VerdictSound supervisor child launchedNs deadline recovering state trace finish
  | .inr vars => ∃ receipts,
    ObserverInvariant supervisor child launchedNs recovering receipts vars state trace

/-- Every call is allowed. -/
abbrev anyCall : List SupervisorEvent → SupervisorEvent → Prop := fun _ _ => True

lemma concludeRound_sound
    (h : ObserverInvariant supervisor child launchedNs recovering receipts vars state trace)
    (hclock : InTime deadline vars trace) :
    Holds anyCall trace state (concludeRound recovering vars)
      (RoundPost supervisor child launchedNs deadline recovering) := by
  refine Holds.ite (fun hdone => ?_) fun _ => ?_
  · refine Holds.get_bind (Holds.pure ?_)
    cases hverdict : state.verdict vars recovering with
    | false => trivial
    | true =>
      simp only [Supervision.verdict, Bool.and_eq_true, decide_eq_true_eq, beq_iff_eq] at hverdict
      obtain ⟨⟨⟨⟨hexited, hfilled⟩, hsamples⟩, hstable⟩, hrecovering⟩ := hverdict
      rw [Bool.and_eq_true] at hdone
      have hlength : receipts.length = 61 := h.count.trans hsamples
      have hwindow : LeaseWindow recovering state.lease
          (receipts.map (Receipt.observation supervisor)) := by
        rcases h.lease with ⟨hnil, -⟩ | hwindow
        · rw [List.map_eq_nil_iff.mp hnil] at hlength
          cases hlength
        · exact hwindow
      refine ⟨⟨receipts, ⟨h.whole, hlength, ?_, h.received, h.timely, h.ordered, ?_,
        h.exited hexited, ?_⟩, hwindow⟩, hstable, hrecovering⟩
      · have hended := h.ended hdone.2
        rwa [hfilled, List.append_nil] at hended
      · rcases hwindow.state with hwatching | ⟨-, -, hcomplete⟩
        · rw [hstable] at hwatching
          cases recovering <;> cases hwatching
        · rwa [List.map_map] at hcomplete
      · have hin := hclock
        rwa [InTime, h.progress] at hin
  · exact Holds.ask_bind fun _ => ⟨trivial, .pure ⟨receipts, h.quiet rfl⟩⟩

/-- A round that received nothing leaves the records alone. -/
lemma collectObserver_sound
    (h : ObserverInvariant supervisor child launchedNs recovering receipts vars state trace)
    (hclock : InTime deadline vars trace) :
    Holds anyCall trace state (collectObserver child recovering vars)
      (RoundPost supervisor child launchedNs deadline recovering) := by
  refine Holds.ite (fun _ => concludeRound_sound h hclock) fun _ => ?_
  refine Holds.ask_bind fun waited => ⟨trivial, ?_⟩
  have hquiet := h.quiet (e := ⟨.waitpid child, waited⟩) rfl
  have hin : InTime deadline vars (trace ++ [⟨.waitpid child, waited⟩]) := hclock.append nofun
  cases waited with
  | reaped status =>
    refine Holds.modify_bind (concludeRound_sound ⟨hquiet.whole, hquiet.count, hquiet.bytes,
      hquiet.received, hquiet.timely, hquiet.ordered, hquiet.lease, hquiet.progress, hquiet.ended,
      fun hexited => ?_⟩ hin)
    have hstatus : status = .exited 0 := by
      rw [decide_eq_true_eq] at hexited
      cases status with
      | exited code =>
        by_cases hcode : code = 0
        · rw [hcode]
        · rw [WaitStatus.classifyExit, if_neg hcode] at hexited
          cases hexited
      | signaled => cases hexited
    rw [hstatus]
    exact List.mem_append_right _ (List.mem_singleton_self _)
  | running => exact Holds.ite (fun hlost => absurd hlost (by decide)) fun _ =>
      concludeRound_sound hquiet hin
  | failed errno =>
    exact Holds.ite (fun _ => Holds.modify_bind (.pure trivial)) fun _ =>
      concludeRound_sound hquiet hin

/-- A record that is complete is received at the next clock reading and checked there. -/
lemma receiveObservation_sound {size : ℕ} {data : { bytes : List UInt8 // bytes.length ≤ size }}
    (h : ObserverInvariant supervisor child launchedNs recovering receipts vars state trace)
    (heof : vars.eof = false) (hdata : data.val ≠ [])
    (hsize : (vars.filled ++ data.val).length = supervisor.layout.size) :
    Holds anyCall (trace ++ [⟨.readPipe size, .ok data⟩]) state
      (receiveObservation launchedNs recovering keepsLatest
        (supervisor.layout.decode (vars.filled ++ data.val)) vars)
      (RoundPost supervisor child launchedNs deadline recovering) := by
  refine Holds.ite (fun _ => .pure trivial) fun hsamples => ?_
  refine Holds.ask_bind fun receivedNs => ⟨trivial, Holds.get_bind (Holds.modify_bind ?_)⟩
  refine Holds.ite (fun _ => .pure trivial) fun haccepted => ?_
  rw [Bool.not_eq_true, Bool.not_eq_false'] at haccepted
  refine Holds.modify_bind (.pure ⟨receipts ++ [⟨vars.filled ++ data.val, receivedNs⟩], ?_⟩)
  have hcount : (receipts.map (Receipt.observation supervisor)).length = vars.samples := by
    rw [List.length_map]
    exact h.count
  rw [← hcount] at haccepted hsamples
  obtain ⟨htimely, hstart, hlease⟩ := acceptObservation_window h.lease (by omega) haccepted
  have hflat : (receipts ++ [⟨vars.filled ++ data.val, receivedNs⟩] : List Receipt).flatMap
      Receipt.bytes = receipts.flatMap Receipt.bytes ++ (vars.filled ++ data.val) := by simp
  have hread : ReceivedAt (trace ++ [⟨.readPipe size, .ok data⟩] ++ [⟨.nowNs, receivedNs⟩])
      (receipts.flatMap Receipt.bytes ++ (vars.filled ++ data.val)) receivedNs := by
    refine ⟨trace, size, data, [], by simp, hdata, ?_⟩
    rw [h.bytes, List.append_assoc]
  refine ⟨?_, by simp [h.count], ?_, ?_, ?_, ?_, ?_, ?_, ?_, ?_⟩
  · exact List.forall_mem_append.mpr ⟨h.whole, by simpa using hsize⟩
  · rw [hflat, List.append_nil, receivedBytes_append, receivedBytes_append, h.bytes]
    simp [receivedBytes]
  · intro k receipt hk
    by_cases hlt : k < receipts.length
    · rw [List.getElem?_append_left hlt] at hk
      rw [List.take_append_of_le_length (by omega)]
      exact ((h.received k receipt hk).append _).append _
    · rw [List.getElem?_append_right (by omega)] at hk
      obtain ⟨hindex, rfl⟩ := List.getElem?_eq_some_iff.mp hk
      rw [List.length_singleton] at hindex
      rw [List.take_of_length_le (by rw [List.length_append, List.length_singleton]; omega), hflat]
      simpa using hread
  · exact List.forall_mem_append.mpr ⟨h.timely, List.forall_mem_singleton.mpr htimely⟩
  · rw [List.map_append]
    exact ordered_concat h.ordered hstart
  · rw [List.map_append, ← hcount]
    cases keepsLatest <;> exact hlease
  · rw [List.map_append, List.map_singleton, lastFinish_concat]
    rfl
  · exact fun h => absurd (h.symm.trans heof) nofun
  · exact fun hexited => by simp [h.exited hexited]

lemma parentCheck_quiet {post : Unit → Supervision → List SupervisorEvent → Prop}
    (h : post () state trace) (h' : ∀ answer, post () state (trace ++ [⟨.parentCheck, answer⟩])) :
    Holds anyCall trace state supervisor.parentCheck post :=
  .ite (fun _ => .ask fun answer => ⟨trivial, h' answer⟩) fun _ => .pure h

/-- One round, whatever is answered in it. -/
lemma observerRound_sound
    (h : ObserverInvariant supervisor child launchedNs recovering receipts vars state trace) :
    Holds anyCall trace state
      (supervisor.observerRound child launchedNs deadline recovering keepsLatest vars)
      (RoundPost supervisor child launchedNs deadline recovering) := by
  refine Holds.bind (Q := fun _ after history => after = state ∧
    ObserverInvariant supervisor child launchedNs recovering receipts vars state history)
    (parentCheck_quiet ⟨rfl, h⟩ fun answer => ⟨rfl, h.quiet rfl⟩) ?_
  rintro ⟨⟩ after history ⟨rfl, hchecked⟩
  refine Holds.ask_bind fun now => ⟨trivial, Holds.ite (fun _ => .pure trivial) fun htime => ?_⟩
  simp only [not_or, ge_iff_le, UInt64.not_le] at htime
  have hnow := hchecked.quiet (e := ⟨.nowNs, now⟩) rfl
  have hin : InTime deadline vars (history ++ [⟨.nowNs, now⟩]) :=
    ⟨history, now, [], rfl, htime, by simp⟩
  refine Holds.ite (fun _ => collectObserver_sound hnow hin) fun heof => ?_
  rw [Bool.not_eq_true] at heof
  refine Holds.ask_bind fun read => ⟨trivial, ?_⟩
  cases read with
  | error errno =>
    exact Holds.ite (fun _ => .pure trivial) fun _ =>
      collectObserver_sound (hnow.silent rfl fun h => absurd (h.symm.trans heof) nofun)
        (hin.append nofun)
  | ok data =>
    refine Holds.ite (fun hempty => ?_) fun hdata => Holds.ite (fun hsize => ?_) fun _ => ?_
    · have hbytes : receivedBytes [(⟨.readPipe (supervisor.layout.size - vars.filled.length),
          .ok data⟩ : SupervisorEvent)] = [] := by simpa [receivedBytes] using hempty
      have hread := hnow.silent hbytes fun h => absurd (h.symm.trans heof) nofun
      refine collectObserver_sound { hread with ended := fun _ => ?_ } (hin.append nofun)
      exact ⟨_, _, data, [], rfl, hempty, hnow.bytes, by simp⟩
    · exact receiveObservation_sound hnow heof hdata hsize
    · refine .pure ⟨receipts, { hnow with bytes := ?_, received := ?_, ended := ?_, exited := ?_ }⟩
      · rw [receivedBytes_append, hnow.bytes]
        simp [receivedBytes]
      · exact fun k receipt hk => (hnow.received k receipt hk).append _
      · exact fun h => absurd (h.symm.trans heof) nofun
      · exact fun hexited => List.mem_append_left _ (hnow.exited hexited)

lemma observerInvariant_start (hlease : recovering = true → state.lease.state = .recoveryRequired) :
    ObserverInvariant supervisor child launchedNs recovering [] (ObserverVars.start launchedNs)
      state [] :=
  ⟨by simp, rfl, rfl, by simp, by simp, trivial, .inl ⟨rfl, hlease⟩, rfl, nofun, nofun⟩

/-- What a true answer of `supervise_observer` says of the observer and of the lease. -/
lemma superviseObserver_window
    (hlease : recovering = true → state.lease.state = .recoveryRequired) {state' : Supervision}
    (h : Gives (supervisor.superviseObserver child launchedNs deadline recovering keepsLatest).run
      state trace (some true) state') :
    (∃ receipts, VerifiedObserver supervisor child launchedNs deadline trace receipts ∧
      LeaseWindow recovering state'.lease (receipts.map (Receipt.observation supervisor))) ∧
      state'.lease.state = .stable ∧ state'.lease.recoveryVerified = recovering := by
  have hloop : Holds anyCall [] state
      (rounds supervisor.fuel
        (supervisor.observerRound child launchedNs deadline recovering keepsLatest)
        (ObserverVars.start launchedNs))
      fun finish after history =>
        VerdictSound supervisor child launchedNs deadline recovering after history finish := by
    refine holds_rounds (I := fun vars after history => ∃ receipts,
      ObserverInvariant supervisor child launchedNs recovering receipts vars after history)
      (fun vars after before hI => ?_) ⟨[], observerInvariant_start hlease⟩
    obtain ⟨receipts, hI⟩ := hI
    refine (observerRound_sound hI).mono fun out _ _ hout => ?_
    cases out <;> exact hout
  have hcall : Holds anyCall [] state
      (supervisor.superviseObserver child launchedNs deadline recovering keepsLatest)
      fun verified after history => verified = true →
        (∃ receipts, VerifiedObserver supervisor child launchedNs deadline history receipts ∧
          LeaseWindow recovering after.lease (receipts.map (Receipt.observation supervisor))) ∧
          after.lease.state = .stable ∧ after.lease.recoveryVerified = recovering := by
    refine hloop.bind fun finish after history hfinish => ?_
    match finish with
    | .returned verified =>
      refine .pure fun hverified => ?_
      rw [hverified] at hfinish
      exact hfinish
    | .broke true => exact .pure nofun
    | .broke false =>
      refine (holds_of_allowed fun _ _ => trivial).bind fun stopped after history _ => ?_
      exact Holds.ite (fun _ => .pure nofun) fun _ => Holds.modify_bind (.pure nofun)
  exact hcall.gives h rfl

/-- `supervise_observer` returns true only on a verified observer, and leaves the lease stable
with the proof that a recovery needs. -/
theorem superviseObserver_verified (supervisor : WorkerSupervisor) (child : Pid)
    (launchedNs deadline : UInt64) (recovering keepsLatest : Bool) {state state' : Supervision}
    {trace : List SupervisorEvent}
    (hlease : recovering = true → state.lease.state = .recoveryRequired)
    (h : Gives (supervisor.superviseObserver child launchedNs deadline recovering keepsLatest).run
      state trace (some true) state') :
    (∃ receipts, VerifiedObserver supervisor child launchedNs deadline trace receipts) ∧
      state'.lease.state = .stable ∧ state'.lease.recoveryVerified = recovering := by
  obtain ⟨⟨receipts, hverified, -⟩, hstable⟩ := superviseObserver_window hlease h
  exact ⟨⟨receipts, hverified⟩, hstable⟩

def baselineSnapshot : SmcBaselineSnapshot :=
  ⟨0, fun _ => 3, fun _ => .finite 0, fun _ => .finite 1200, fun _ => .finite 40⟩

/-- One byte a record: the second the read started and finished in. -/
def secondLayout : ObservationLayout :=
  ⟨1, by decide, fun bytes =>
    let second := (bytes.headD 0).toUInt64 * uint64Second
    ⟨second, second, .ok, baselineSnapshot⟩⟩

def minuteSupervisor : WorkerSupervisor :=
  ⟨⟨3, 0⟩, ⟨true, true, true, false, false⟩,
    ⟨15000000000, 90000000000, 90000000000, 5000000000⟩, false, secondLayout, 62⟩

/-- An observer that sends one system record a second for a minute and exits, a second after each
of them on the clock. -/
def minuteAnswer (reads : ℕ) : (c : SupervisorCall) → c.Answer × ℕ
  | .nowNs => ((reads.toUInt64 + 1) * uint64Second, reads)
  | .readPipe size =>
    if h : reads < 61 ∧ 1 ≤ size then (.ok ⟨[reads.toUInt8 + 1], h.2⟩, reads + 1)
    else (.ok ⟨[], by simp⟩, reads)
  | .waitpid _ => (.reaped (.exited 0), reads)
  | c => (c.failed, reads)

abbrev minuteObserver : SupervisorM Bool :=
  minuteSupervisor.superviseObserver 7 uint64Second (90 * uint64Second) true false

def requiredRecovery : Supervision :=
  ⟨ControlLease.start .pending .readFailed none uint64Second, .blocked, none⟩

/-- Such an observer is verified. -/
theorem superviseObserver_verified_minute :
    ∃ receipts, VerifiedObserver minuteSupervisor 7 uint64Second (90 * uint64Second)
      (play minuteAnswer (minuteObserver.run.run requiredRecovery) 0).1 receipts := by
  have hresult : (play minuteAnswer (minuteObserver.run.run requiredRecovery) 0).2.1.1 =
      some true := by decide +kernel
  have hends := ends_play minuteAnswer (minuteObserver.run.run requiredRecovery) 0
  generalize play minuteAnswer (minuteObserver.run.run requiredRecovery) 0 = run at hresult hends ⊢
  obtain ⟨trace, ⟨result, state⟩, reads⟩ := run
  obtain rfl : result = some true := hresult
  exact (superviseObserver_verified minuteSupervisor 7 uint64Second (90 * uint64Second) true false
    (fun _ => rfl) hends).1

end WorkerSupervisor
end Ventilator
