import Ventilator.ControlLeaseAuthority
import Ventilator.TimedSequence

/-! The observation window a stable or held lease rests on: the opening sample and the
samples after it, recovered from the operations that led to the lease. -/
namespace Ventilator
open Double TimedSequence

/-- What one observation call was given: the read's result, its snapshot and the time. -/
structure Reading where
  result : SmcBaselineResult
  snapshot : Option SmcBaselineSnapshot
  nowNs : UInt64
  deriving DecidableEq

namespace Reading

def isSystem (reading : Reading) : Bool :=
  reading.result == .ok && smcBaselineIsSystem reading.snapshot

def times (readings : List Reading) : List ℕ := readings.map fun reading => reading.nowNs.toNat

/-- Consecutive readings that are all successful system reads, 0.9 to 5 seconds apart. -/
structure Uninterrupted (readings : List Reading) : Prop where
  system : ∀ reading ∈ readings, reading.isSystem
  gaps : Spaced 900000000 5000000000 (times readings)

/-- An uninterrupted window of at least 61 readings spanning at least 60 seconds. -/
structure Complete (readings : List Reading) : Prop extends Uninterrupted readings where
  enough : 61 ≤ readings.length
  span : ∃ first last, readings.head? = some first ∧ readings.getLast? = some last ∧
    first.nowNs.toNat + 60000000000 ≤ last.nowNs.toNat

lemma times_append (xs ys : List Reading) : times (xs ++ ys) = times xs ++ times ys :=
  List.map_append

lemma times_getLast? {readings : List Reading} {last : Reading}
    (h : readings.getLast? = some last) : (times readings).getLast? = some last.nowNs.toNat := by
  rw [times, List.getLast?_map, h]
  rfl

lemma Uninterrupted.singleton {reading : Reading} (h : reading.isSystem) :
    Uninterrupted [reading] :=
  ⟨by simpa using h, .singleton _ _ _⟩

lemma Uninterrupted.concat {readings : List Reading} {last reading : Reading}
    (h : Uninterrupted readings) (hlast : readings.getLast? = some last)
    (hsystem : reading.isSystem) (hgap : ControlLease.SampleGap last.nowNs reading.nowNs) :
    Uninterrupted (readings ++ [reading]) := by
  refine ⟨fun r hr => ?_, ?_⟩
  · rcases List.mem_append.mp hr with hr | hr
    · exact h.system r hr
    · obtain rfl := List.mem_singleton.mp hr
      exact hsystem
  · rw [times_append]
    exact h.gaps.concat (times_getLast? hlast) hgap.1 hgap.2

end Reading

namespace LeaseOp

/-- The reading an opening is given: a start with a clear journal or a recovery start. -/
def opening? : LeaseOp → Option Reading
  | start .clear result snapshot nowNs => some ⟨result, snapshot, nowNs⟩
  | recoveryStarted result snapshot nowNs => some ⟨result, snapshot, nowNs⟩
  | _ => none

def sample? : LeaseOp → Option Reading
  | sample result snapshot nowNs => some ⟨result, snapshot, nowNs⟩
  | _ => none

lemma sample?_eq_none {op : LeaseOp} (h : op.isSample = false) : op.sample? = none := by
  cases op <;> simp_all [isSample, sample?]

end LeaseOp

namespace ControlLease

/-- `op` opens a window in `lease`: a start with a clear journal, or a recovery start that
changes the state. -/
def Opens (lease : ControlLease) (op : LeaseOp) (reading : Reading) : Prop :=
  op.opening? = some reading ∧ (op.isStart = true ∨ (lease.step op).state ≠ lease.state)

/-- The lease stays in `state` before, between and after the operations `ops`. -/
def Stays (state : ControlLeaseState) (lease : ControlLease) (ops : List LeaseOp) : Prop :=
  ∀ initial, initial <+: ops → (lease.runs initial).state = state

def sampledReadings (ops : List LeaseOp) : List Reading := ops.filterMap LeaseOp.sample?

lemma Stays.nil {state : ControlLeaseState} {lease : ControlLease} (h : lease.state = state) :
    Stays state lease [] := fun initial hinitial => by
  rw [List.prefix_nil.mp hinitial]
  exact h

lemma Stays.concat {state : ControlLeaseState} {lease : ControlLease} {ops : List LeaseOp}
    {op : LeaseOp} (h : Stays state lease ops)
    (hop : ((lease.runs ops).step op).state = state) : Stays state lease (ops ++ [op]) :=
  fun initial hinitial => by
    rcases List.prefix_concat_iff.mp hinitial with rfl | hinitial
    · rw [runs_append]
      exact hop
    · exact h initial hinitial

lemma Stays.last {state : ControlLeaseState} {lease : ControlLease} {ops : List LeaseOp}
    (h : Stays state lease ops) : (lease.runs ops).state = state := h ops List.prefix_rfl

lemma sampledReadings_concat (ops : List LeaseOp) (op : LeaseOp) :
    sampledReadings (ops ++ [op]) = sampledReadings ops ++ op.sample?.toList := by
  cases h : op.sample? <;> simp [sampledReadings, h]

lemma runs_concat (lease : ControlLease) (ops : List LeaseOp) (op : LeaseOp) :
    lease.runs (ops ++ [op]) = (lease.runs ops).step op := by
  rw [runs_append, runs_cons, runs_nil]

lemma noStart_concat {ops : List LeaseOp} {op : LeaseOp} (h : ∀ x ∈ ops, x.isStart = false)
    (hop : op.isStart = false) : ∀ x ∈ ops ++ [op], x.isStart = false := by
  intro x hx
  rcases List.mem_append.mp hx with hx | hx
  · exact h x hx
  · rw [List.mem_singleton.mp hx]
    exact hop

/-- An operation that fails or is of another kind leaves the absence of successes alone. -/
lemma lastSuccess_concat_none {p : LeaseOp → Bool} {lease : ControlLease} {ops : List LeaseOp}
    {op : LeaseOp} (h : lastSuccess p lease ops = none)
    (hop : (p op && (lease.runs ops).succeeds op) = false) :
    lastSuccess p lease (ops ++ [op]) = none := by
  rw [lastSuccess_concat, hop]
  exact h

/-- An unfinished window: `opening` opened it in `lease`, and `mid` has not ended it. -/
structure Watched (lease : ControlLease) (opening : LeaseOp) (reading : Reading)
    (mid : List LeaseOp) : Prop where
  opens : Opens lease opening reading
  noStart : ∀ op ∈ mid, op.isStart = false
  stays : Stays (lease.step opening).state (lease.step opening) mid
  window : Reading.Uninterrupted (reading :: sampledReadings mid)
  noClaim : lastSuccess LeaseOp.isClaim (lease.step opening) mid = none
  noTake : lastSuccess LeaseOp.isTakeRecoveryProof (lease.step opening) mid = none
  verifying : (lease.step opening).state = .verifyingRecovery → opening.isStart = false
  started : ((lease.step opening).runs mid).observationStartedNs = reading.nowNs
  last : ∃ last, (reading :: sampledReadings mid).getLast? = some last ∧
    last.nowNs = ((lease.step opening).runs mid).lastSampleNs
  count : ((lease.step opening).runs mid).samples.toNat = (reading :: sampledReadings mid).length
  short : ((lease.step opening).runs mid).samples.toNat < 61 ∨
    ((lease.step opening).runs mid).lastSampleNs.toNat < reading.nowNs.toNat + 60000000000

/-- A finished window: `upto` ends with the sample that made the lease stable, and `rest` has
left it so. -/
structure Settled (lease : ControlLease) (opening : LeaseOp) (reading : Reading)
    (upto rest : List LeaseOp) : Prop where
  opens : Opens lease opening reading
  noStart : ∀ op ∈ upto ++ rest, op.isStart = false
  watched : Stays (lease.step opening).state (lease.step opening) upto.dropLast
  stays : Stays .stable ((lease.step opening).runs upto) rest
  free : ∀ initial, initial <+: upto ++ rest → ((lease.step opening).runs initial).state ≠ .held
  window : Reading.Complete (reading :: sampledReadings upto)
  noClaim : lastSuccess LeaseOp.isClaim (lease.step opening) (upto ++ rest) = none
  proof : ((lease.step opening).runs (upto ++ rest)).recoveryVerified = true →
    opening.isStart = false ∧
      lastSuccess LeaseOp.isTakeRecoveryProof (lease.step opening) (upto ++ rest) = none
  last : ∃ last, (reading :: sampledReadings upto).getLast? = some last ∧
    last.nowNs = ((lease.step opening).runs (upto ++ rest)).lastSampleNs

/-- While the window is unfinished the gaps keep its count below 68. -/
lemma Watched.count_le {lease : ControlLease} {opening : LeaseOp} {reading : Reading}
    {mid : List LeaseOp} (h : Watched lease opening reading mid) :
    ((lease.step opening).runs mid).samples.toNat ≤ 67 := by
  obtain ⟨last, hlast, htime⟩ := h.last
  have hspan := h.window.gaps.length_nsmul_le (Reading.times_getLast? hlast)
  have hcount := h.count
  have hshort := h.short
  rw [← htime] at hshort
  simp only [List.length_map, smul_eq_mul, List.length_cons] at hspan hcount
  omega

lemma Watched.opened {lease base : ControlLease} {op : LeaseOp} {reading : Reading}
    {state : ControlLeaseState} (hopens : Opens lease op reading) (hsystem : reading.isSystem)
    (hstep : lease.step op = base.opened state reading.nowNs)
    (hverifying : state = .verifyingRecovery → op.isStart = false) :
    Watched lease op reading [] where
  opens := hopens
  noStart := by simp
  stays := .nil rfl
  window := .singleton hsystem
  noClaim := rfl
  noTake := rfl
  verifying := by rw [hstep]; exact hverifying
  started := by rw [hstep]; rfl
  last := ⟨reading, rfl, by rw [hstep]; rfl⟩
  count := by rw [hstep]; rfl
  short := .inl (by rw [hstep]; exact (by decide : (1 : UInt32).toNat < 61))

/-- An operation that does nothing leaves the window as it was. -/
lemma Watched.skip {lease : ControlLease} {opening op : LeaseOp} {reading : Reading}
    {mid : List LeaseOp} (h : Watched lease opening reading mid) (hstart : op.isStart = false)
    (hsample : op.isSample = false)
    (hstep : ((lease.step opening).runs mid).step op = (lease.step opening).runs mid)
    (hanswer : ((lease.step opening).runs mid).succeeds op = false) :
    Watched lease opening reading (mid ++ [op]) := by
  have hsampled : sampledReadings (mid ++ [op]) = sampledReadings mid := by
    rw [sampledReadings_concat, LeaseOp.sample?_eq_none hsample]
    exact List.append_nil _
  have hruns : (lease.step opening).runs (mid ++ [op]) = (lease.step opening).runs mid := by
    rw [runs_concat, hstep]
  constructor
  · exact h.opens
  · exact noStart_concat h.noStart hstart
  · exact h.stays.concat (by rw [hstep]; exact h.stays.last)
  · rw [hsampled]; exact h.window
  · exact lastSuccess_concat_none h.noClaim (by rw [hanswer, Bool.and_false])
  · exact lastSuccess_concat_none h.noTake (by rw [hanswer, Bool.and_false])
  · exact h.verifying
  · rw [hruns]; exact h.started
  · rw [hsampled, hruns]; exact h.last
  · rw [hsampled, hruns]; exact h.count
  · rw [hruns]; exact h.short

lemma concat_uninterrupted {lease : ControlLease} {opening : LeaseOp} {reading : Reading}
    {mid : List LeaseOp} {snapshot : Option SmcBaselineSnapshot} {t : UInt64}
    (h : Watched lease opening reading mid) (hsystem : smcBaselineIsSystem snapshot = true)
    (hgap : SampleGap ((lease.step opening).runs mid).lastSampleNs t) :
    Reading.Uninterrupted (reading :: sampledReadings (mid ++ [.sample .ok snapshot t])) := by
  obtain ⟨last, hlast, htime⟩ := h.last
  rw [sampledReadings_concat, ← List.cons_append]
  exact h.window.concat hlast (by simp [Reading.isSystem, hsystem]) (by rwa [htime])

/-- The counter counts the readings of the window. -/
lemma Watched.count_succ {lease : ControlLease} {opening : LeaseOp} {reading : Reading}
    {mid : List LeaseOp} (h : Watched lease opening reading mid) :
    (((lease.step opening).runs mid).samples + 1).toNat =
      ((lease.step opening).runs mid).samples.toNat + 1 := by
  have hle := h.count_le
  rw [UInt32.toNat_add]
  simp only [UInt32.toNat_one]
  omega

/-- The last sample is never before the opening one. -/
lemma Watched.started_le {lease : ControlLease} {opening : LeaseOp} {reading : Reading}
    {mid : List LeaseOp} (h : Watched lease opening reading mid) :
    reading.nowNs.toNat ≤ ((lease.step opening).runs mid).lastSampleNs.toNat := by
  obtain ⟨last, hlast, htime⟩ := h.last
  have hspan := h.window.gaps.length_nsmul_le (Reading.times_getLast? hlast)
  rw [htime] at hspan
  exact (Nat.le_add_right _ _).trans hspan

/-- The code's subtraction gives the true span, the last sample being after the first. -/
lemma Watched.span_toNat {lease : ControlLease} {opening : LeaseOp} {reading : Reading}
    {mid : List LeaseOp} {t : UInt64} (h : Watched lease opening reading mid)
    (hgap : SampleGap ((lease.step opening).runs mid).lastSampleNs t) :
    (t - ((lease.step opening).runs mid).observationStartedNs).toNat =
      t.toNat - reading.nowNs.toNat := by
  have hle := h.started_le
  have hlo := hgap.1
  rw [h.started]
  exact UInt64.toNat_sub_of_le _ _ (UInt64.le_iff_toNat_le.mpr (by omega))

/-- An accepted sample that does not finish the window extends it. -/
lemma Watched.count_sample {lease : ControlLease} {opening : LeaseOp} {reading : Reading}
    {mid : List LeaseOp} {snapshot : Option SmcBaselineSnapshot} {t : UInt64}
    (h : Watched lease opening reading mid) (hsystem : smcBaselineIsSystem snapshot = true)
    (hgap : SampleGap ((lease.step opening).runs mid).lastSampleNs t)
    (hshort : ¬ (((lease.step opening).runs mid).samples + 1 ≥ requiredSamples ∧
      t - ((lease.step opening).runs mid).observationStartedNs ≥ baselineNs))
    (hstep : ((lease.step opening).runs mid).step (.sample .ok snapshot t) =
      ((lease.step opening).runs mid).counted t) :
    Watched lease opening reading (mid ++ [.sample .ok snapshot t]) := by
  have hruns := (runs_concat (lease.step opening) mid (.sample .ok snapshot t)).trans hstep
  constructor
  · exact h.opens
  · exact noStart_concat h.noStart rfl
  · exact h.stays.concat (by rw [hstep]; exact h.stays.last)
  · exact concat_uninterrupted h hsystem hgap
  · exact lastSuccess_concat_none h.noClaim rfl
  · exact lastSuccess_concat_none h.noTake rfl
  · exact h.verifying
  · rw [hruns]; exact h.started
  · refine ⟨⟨.ok, snapshot, t⟩, ?_, by rw [hruns]; rfl⟩
    rw [sampledReadings_concat, ← List.cons_append]
    exact List.getLast?_concat
  · rw [hruns, sampledReadings_concat, ← List.cons_append, List.length_append, ← h.count]
    exact h.count_succ
  · rw [hruns]
    change (((lease.step opening).runs mid).samples + 1).toNat < 61 ∨
      t.toNat < reading.nowNs.toNat + 60000000000
    rw [ge_iff_le, ge_iff_le, UInt32.le_iff_toNat_le, UInt64.le_iff_toNat_le, h.span_toNat hgap,
      requiredSamples_toNat, baselineNs_toNat] at hshort
    omega

/-- The sample that makes the lease stable finishes the window. -/
lemma Watched.stabilise {lease : ControlLease} {opening : LeaseOp} {reading : Reading}
    {mid : List LeaseOp} {snapshot : Option SmcBaselineSnapshot} {t : UInt64}
    (h : Watched lease opening reading mid) (hwatching : ((lease.step opening).runs mid).watching)
    (hsystem : smcBaselineIsSystem snapshot = true)
    (hgap : SampleGap ((lease.step opening).runs mid).lastSampleNs t)
    (henough : ((lease.step opening).runs mid).samples + 1 ≥ requiredSamples)
    (hspan : t - ((lease.step opening).runs mid).observationStartedNs ≥ baselineNs)
    (hstep : ((lease.step opening).runs mid).step (.sample .ok snapshot t) =
      ((lease.step opening).runs mid).stabilised t) :
    Settled lease opening reading (mid ++ [.sample .ok snapshot t]) [] := by
  have hruns := (runs_concat (lease.step opening) mid (.sample .ok snapshot t)).trans hstep
  have hlast : (reading :: sampledReadings (mid ++ [.sample .ok snapshot t])).getLast? =
      some ⟨.ok, snapshot, t⟩ := by
    rw [sampledReadings_concat, ← List.cons_append]
    exact List.getLast?_concat
  constructor
  · exact h.opens
  · rw [List.append_nil]
    exact noStart_concat h.noStart rfl
  · rw [List.dropLast_concat]
    exact h.stays
  · exact .nil (by rw [hruns]; rfl)
  · rw [List.append_nil]
    intro initial hinitial
    rcases List.prefix_concat_iff.mp hinitial with rfl | hinitial
    · rw [hruns]
      exact nofun
    · rw [h.stays initial hinitial, ← h.stays.last]
      exact watching_not_held hwatching
  · refine ⟨concat_uninterrupted h hsystem hgap, ?_, reading, _, rfl, hlast, ?_⟩
    · rw [ge_iff_le, UInt32.le_iff_toNat_le, requiredSamples_toNat, h.count_succ, h.count] at henough
      rw [sampledReadings_concat, ← List.cons_append, List.length_append]
      exact henough
    · rw [ge_iff_le, UInt64.le_iff_toNat_le, h.span_toNat hgap, baselineNs_toNat] at hspan
      change reading.nowNs.toNat + 60000000000 ≤ t.toNat
      omega
  · rw [List.append_nil]
    exact lastSuccess_concat_none h.noClaim rfl
  · intro hproof
    rw [List.append_nil] at hproof ⊢
    rw [hruns] at hproof
    refine ⟨h.verifying ?_, lastSuccess_concat_none h.noTake rfl⟩
    rw [← h.stays.last]
    exact of_decide_eq_true hproof
  · refine ⟨_, hlast, ?_⟩
    rw [List.append_nil, hruns]
    rfl

/-- An operation that leaves the lease stable leaves the finished window behind it. -/
lemma Settled.keep {lease : ControlLease} {opening op : LeaseOp} {reading : Reading}
    {upto rest : List LeaseOp} (h : Settled lease opening reading upto rest)
    (hstart : op.isStart = false)
    (hstate : (((lease.step opening).runs (upto ++ rest)).step op).state = .stable)
    (hlast : (((lease.step opening).runs (upto ++ rest)).step op).lastSampleNs =
      ((lease.step opening).runs (upto ++ rest)).lastSampleNs)
    (hclaim : (op.isClaim && ((lease.step opening).runs (upto ++ rest)).succeeds op) = false)
    (hproof : (((lease.step opening).runs (upto ++ rest)).step op).recoveryVerified = true →
      ((lease.step opening).runs (upto ++ rest)).recoveryVerified = true ∧
        (op.isTakeRecoveryProof && ((lease.step opening).runs (upto ++ rest)).succeeds op) = false) :
    Settled lease opening reading upto (rest ++ [op]) := by
  have hruns := runs_concat (lease.step opening) (upto ++ rest) op
  constructor
  · exact h.opens
  · rw [← List.append_assoc]
    exact noStart_concat h.noStart hstart
  · exact h.watched
  · exact h.stays.concat (by rwa [runs_append] at hstate)
  · rw [← List.append_assoc]
    intro initial hinitial
    rcases List.prefix_concat_iff.mp hinitial with rfl | hinitial
    · rw [hruns, hstate]
      exact nofun
    · exact h.free initial hinitial
  · exact h.window
  · rw [← List.append_assoc]
    exact lastSuccess_concat_none h.noClaim hclaim
  · intro hverified
    rw [← List.append_assoc] at hverified ⊢
    rw [hruns] at hverified
    obtain ⟨hbefore, htake⟩ := hproof hverified
    exact ⟨(h.proof hbefore).1, lastSuccess_concat_none (h.proof hbefore).2 htake⟩
  · rw [← List.append_assoc, hruns, hlast]
    exact h.last

/-- What the run from `memory` says about the window behind the lease's current state. -/
structure History (memory : ControlLease) (run : List LeaseOp) : Prop where
  watching : (memory.runs run).watching → ∃ before opening reading mid,
    run = before ++ opening :: mid ∧ Watched (memory.runs before) opening reading mid
  stable : (memory.runs run).state = .stable → ∃ before opening reading upto rest,
    run = before ++ opening :: (upto ++ rest) ∧
      Settled (memory.runs before) opening reading upto rest
  held : (memory.runs run).state = .held → ∃ before opening reading upto rest claimed tail,
    run = before ++ opening :: (upto ++ rest ++ claimed :: tail) ∧
      Settled (memory.runs before) opening reading upto rest ∧
      (∀ op ∈ claimed :: tail, op.isStart = false) ∧
      Stays .held (memory.runs (before ++ opening :: (upto ++ rest ++ [claimed]))) tail
  bound : (memory.runs run).samples.toNat ≤ 68

lemma History.of_idle {memory : ControlLease} {run : List LeaseOp}
    (hwatching : ¬ (memory.runs run).watching) (hstable : (memory.runs run).state ≠ .stable)
    (hheld : (memory.runs run).state ≠ .held) (hbound : (memory.runs run).samples.toNat ≤ 68) :
    History memory run :=
  ⟨fun h => absurd h hwatching, fun h => absurd h hstable, fun h => absurd h hheld, hbound⟩

lemma History.of_watching {memory : ControlLease} {before mid : List LeaseOp}
    {opening : LeaseOp} {reading : Reading}
    (h : Watched (memory.runs before) opening reading mid)
    (hwatching : (memory.runs (before ++ opening :: mid)).watching) :
    History memory (before ++ opening :: mid) where
  watching _ := ⟨before, opening, reading, mid, rfl, h⟩
  stable hs := absurd hs (watching_not_stable hwatching)
  held hs := absurd hs (watching_not_held hwatching)
  bound := by
    rw [runs_append, runs_cons]
    exact h.count_le.trans (by omega)

/-- A start opens a window or leaves the lease idle, whatever memory held before. -/
lemma History.start (memory : ControlLease) (before : List LeaseOp) (intent : ControlIntentStatus)
    (result : SmcBaselineResult) (snapshot : Option SmcBaselineSnapshot) (t : UInt64) :
    History memory (before ++ [.start intent result snapshot t]) := by
  have heffect := effect (memory.runs before) (.start intent result snapshot t)
  generalize hanswer : (memory.runs before).succeeds (.start intent result snapshot t) = answer
    at heffect
  generalize hafter : (memory.runs before).step (.start intent result snapshot t) = after
    at heffect
  have hruns := (runs_concat memory before (.start intent result snapshot t)).trans hafter
  cases heffect with
  | restarted state owner expires samples proof =>
    refine .of_idle ?_ ?_ ?_ (by rw [hruns, samples]; decide) <;> rw [hruns]
    · rcases state with h | h <;> simp [ControlLease.watching, h]
    · rcases state with h | h <;> simp [h]
    · rcases state with h | h <;> simp [h]
  | startOpened time system =>
    have hwatched : Watched (memory.runs before) (.start .clear .ok snapshot t)
        ⟨.ok, snapshot, t⟩ [] :=
      .opened ⟨rfl, .inl rfl⟩ (by simp [Reading.isSystem, system]) hafter nofun
    refine .of_watching hwatched ?_
    rw [hruns]
    exact .inl rfl
  | unchanged start sample => cases start
  | dropped start => cases start
  | failed start state => cases start

lemma History.of_stable {memory : ControlLease} {before upto rest : List LeaseOp}
    {opening : LeaseOp} {reading : Reading}
    (h : Settled (memory.runs before) opening reading upto rest)
    (hbound : (memory.runs (before ++ opening :: (upto ++ rest))).samples.toNat ≤ 68) :
    History memory (before ++ opening :: (upto ++ rest)) := by
  have hstate : (memory.runs (before ++ opening :: (upto ++ rest))).state = .stable := by
    rw [runs_append, runs_cons, runs_append]
    exact h.stays.last
  exact ⟨fun hs => absurd hstate (watching_not_stable hs),
    fun _ => ⟨before, opening, reading, upto, rest, rfl, h⟩,
    fun hs => absurd (hstate.symm.trans hs) (by decide), hbound⟩

lemma History.of_held {memory : ControlLease} {before upto rest tail : List LeaseOp}
    {opening claimed : LeaseOp} {reading : Reading}
    (h : Settled (memory.runs before) opening reading upto rest)
    (hstart : ∀ op ∈ claimed :: tail, op.isStart = false)
    (hheld : Stays .held (memory.runs (before ++ opening :: (upto ++ rest ++ [claimed]))) tail)
    (hbound : (memory.runs
      (before ++ opening :: (upto ++ rest ++ claimed :: tail))).samples.toNat ≤ 68) :
    History memory (before ++ opening :: (upto ++ rest ++ claimed :: tail)) := by
  have hstate : (memory.runs (before ++ opening :: (upto ++ rest ++ claimed :: tail))).state =
      .held := by
    simpa using hheld.last
  exact ⟨fun hs => absurd hstate (watching_not_held hs),
    fun hs => absurd (hstate.symm.trans hs) (by decide),
    fun _ => ⟨before, opening, reading, upto, rest, claimed, tail, rfl, h, hstart, hheld⟩, hbound⟩

/-- An operation that keeps a held lease held keeps its evidence. -/
lemma History.keep_held {memory : ControlLease} {run : List LeaseOp} {op : LeaseOp}
    (h : History memory run) (hstate : (memory.runs run).state = .held)
    (hstart : op.isStart = false) (hafter : ((memory.runs run).step op).state = .held)
    (hbound : ((memory.runs run).step op).samples.toNat ≤ 68) : History memory (run ++ [op]) := by
  obtain ⟨before, opening, reading, upto, rest, claimed, tail, rfl, hsettled, hnoStart, hheld⟩ :=
    h.held hstate
  have hmore : before ++ opening :: (upto ++ rest ++ claimed :: tail) ++ [op] =
      before ++ opening :: (upto ++ rest ++ claimed :: (tail ++ [op])) := by simp
  have hcurrent : memory.runs (before ++ opening :: (upto ++ rest ++ claimed :: tail)) =
      (memory.runs (before ++ opening :: (upto ++ rest ++ [claimed]))).runs tail := by simp
  rw [hcurrent] at hafter
  rw [hmore]
  refine .of_held hsettled (noStart_concat hnoStart hstart) (hheld.concat hafter) ?_
  rw [← hmore, runs_concat]
  exact hbound

lemma History.keep_stable {memory : ControlLease} {run : List LeaseOp} {op : LeaseOp}
    (h : History memory run) (hstate : (memory.runs run).state = .stable)
    (hstart : op.isStart = false)
    (hafter : ((memory.runs run).step op).state = .stable)
    (hlast : ((memory.runs run).step op).lastSampleNs = (memory.runs run).lastSampleNs)
    (hclaim : (op.isClaim && (memory.runs run).succeeds op) = false)
    (hproof : ((memory.runs run).step op).recoveryVerified = true →
      (memory.runs run).recoveryVerified = true ∧
        (op.isTakeRecoveryProof && (memory.runs run).succeeds op) = false)
    (hbound : ((memory.runs run).step op).samples.toNat ≤ 68) : History memory (run ++ [op]) := by
  obtain ⟨before, opening, reading, upto, rest, rfl, hsettled⟩ := h.stable hstate
  have hmore : before ++ opening :: (upto ++ rest) ++ [op] =
      before ++ opening :: (upto ++ (rest ++ [op])) := by simp
  have hcurrent : memory.runs (before ++ opening :: (upto ++ rest)) =
      ((memory.runs before).step opening).runs (upto ++ rest) := by
    rw [runs_append, runs_cons]
  rw [← runs_concat, hmore] at hbound
  rw [hcurrent] at hafter hlast hclaim hproof
  rw [hmore]
  exact .of_stable (hsettled.keep hstart hafter hlast hclaim hproof) hbound

/-- One operation keeps the history of the window. -/
lemma History.step {memory : ControlLease} {run : List LeaseOp} (op : LeaseOp)
    (h : History memory run) : History memory (run ++ [op]) := by
  have heffect := effect (memory.runs run) op
  generalize hanswer : (memory.runs run).succeeds op = answer at heffect
  generalize hafter : (memory.runs run).step op = after at heffect
  have hruns := (runs_concat memory run op).trans hafter
  have hbound := h.bound
  cases heffect with
  | restarted state owner expires samples proof => exact .start memory run _ _ _ _
  | startOpened time system => exact .start memory run _ _ _ _
  | @recoveryOpened snapshot t state time system =>
    have hchanged : ((memory.runs run).step (.recoveryStarted .ok snapshot t)).state ≠
        (memory.runs run).state := by
      rw [hafter, state]
      exact nofun
    have hwatched : Watched (memory.runs run) (.recoveryStarted .ok snapshot t)
        ⟨.ok, snapshot, t⟩ [] :=
      .opened ⟨rfl, .inr hchanged⟩ (by simp [Reading.isSystem, system]) hafter fun _ => rfl
    refine .of_watching hwatched ?_
    rw [hruns]
    exact .inr rfl
  | unchanged start sample =>
    by_cases hwatching : (memory.runs run).watching
    · obtain ⟨before, opening, reading, mid, rfl, hwatched⟩ := h.watching hwatching
      have hcurrent : memory.runs (before ++ opening :: mid) =
          ((memory.runs before).step opening).runs mid := by rw [runs_append, runs_cons]
      have hsample : op.isSample = false := by
        by_contra hs
        exact sample (by simpa using hs) hwatching
      rw [hcurrent] at hafter hanswer
      have hskip := hwatched.skip start hsample hafter hanswer
      rw [List.append_assoc, List.cons_append] at hruns ⊢
      exact .of_watching hskip (by rw [hruns]; exact hwatching)
    by_cases hstable : (memory.runs run).state = .stable
    · refine h.keep_stable hstable start ?_ ?_ ?_ ?_ ?_ <;> simp [hafter, hanswer, hstable, hbound]
    by_cases hheld : (memory.runs run).state = .held
    · refine h.keep_held hheld start ?_ ?_ <;> simp [hafter, hheld, hbound]
    refine .of_idle ?_ ?_ ?_ ?_ <;> rw [hruns] <;> assumption
  | dropped start =>
    refine .of_idle ?_ ?_ ?_ ?_ <;> rw [hruns] <;> simp [requireRecovery, ControlLease.watching, hbound]
  | changed watching gap =>
    obtain ⟨before, opening, reading, mid, rfl, hwatched⟩ := h.watching watching
    refine .of_idle ?_ ?_ ?_ ?_ <;> rw [hruns]
    · simp [requireRecovery, ControlLease.watching]
    · simp [requireRecovery]
    · simp [requireRecovery]
    · have hle := hwatched.count_le
      have hcount := hwatched.count_succ
      rw [← runs_cons, ← runs_append] at hle hcount
      change ((memory.runs (before ++ opening :: mid)).samples + 1).toNat ≤ 68
      omega
  | failed start state =>
    refine .of_idle ?_ ?_ ?_ ?_ <;> rw [hruns] <;> simp [ControlLease.watching, hbound]
  | counted watching gap system short =>
    obtain ⟨before, opening, reading, mid, rfl, hwatched⟩ := h.watching watching
    have hcurrent : memory.runs (before ++ opening :: mid) =
        ((memory.runs before).step opening).runs mid := by rw [runs_append, runs_cons]
    rw [List.append_assoc, List.cons_append] at hruns ⊢
    refine .of_watching (hwatched.count_sample system ?_ ?_ ?_) ?_
    · rwa [hcurrent] at gap
    · rwa [hcurrent] at short
    · rwa [hcurrent] at hafter
    · rw [hruns]
      exact watching
  | stabilised watching gap system enough span =>
    obtain ⟨before, opening, reading, mid, rfl, hwatched⟩ := h.watching watching
    have hcurrent : memory.runs (before ++ opening :: mid) =
        ((memory.runs before).step opening).runs mid := by rw [runs_append, runs_cons]
    have hle := hwatched.count_le
    have hcount := hwatched.count_succ
    rw [List.append_assoc, List.cons_append] at hruns ⊢
    rw [hcurrent] at watching gap enough span hafter hruns
    have hsettled := hwatched.stabilise watching system gap enough span hafter
    have hstable := History.of_stable hsettled
    rw [List.append_nil, hruns] at hstable
    refine hstable ?_
    change ((((memory.runs before).step opening).runs mid).samples + 1).toNat ≤ 68
    omega
  | @claimed owner t snapshot state nonzero fresh age deadline system cool =>
    obtain ⟨before, opening, reading, upto, rest, rfl, hsettled⟩ := h.stable state
    rw [List.append_assoc, List.cons_append] at hruns ⊢
    have hheld : (memory.runs (before ++ opening :: (upto ++ rest ++
        [.claim owner t true .clear .ok snapshot]))).state = .held := by rw [hruns]
    refine .of_held hsettled (by simp [LeaseOp.isStart]) (.nil hheld) ?_
    rw [hruns]
    exact hbound
  | marked state fresh live =>
    refine h.keep_held state rfl ?_ ?_ <;> simp [hafter, state, hbound]
  | prepared state =>
    refine h.keep_held state rfl ?_ ?_ <;> simp [hafter, state, hbound]
  | renewed state fresh live deadline =>
    refine h.keep_held state rfl ?_ ?_ <;> simp [hafter, state, hbound]
  | took state proof =>
    refine h.keep_stable state rfl ?_ ?_ rfl ?_ ?_ <;> simp [hafter, state, hbound]

/-- Every run that begins with a start keeps the history of its windows. -/
theorem history (memory : ControlLease) (intent : ControlIntentStatus)
    (result : SmcBaselineResult) (snapshot : Option SmcBaselineSnapshot) (t : UInt64)
    (ops : List LeaseOp) : History memory (.start intent result snapshot t :: ops) := by
  induction ops using List.reverseRecOn with
  | nil => exact .start memory [] intent result snapshot t
  | append_singleton ops op ih => exact ih.step op

/-- Two ways to cut one run: the first cut lies before the opening, or inside what follows. -/
lemma cut_cases {pre post before mid : List LeaseOp} {op opening : LeaseOp}
    (h : pre ++ op :: post = before ++ opening :: mid) :
    (∃ gap, before = pre ++ gap ∧ op :: post = gap ++ opening :: mid) ∨
      ∃ inside, pre = before ++ opening :: inside ∧ mid = inside ++ op :: post := by
  rcases List.append_eq_append_iff.mp h with ⟨gap, rfl, hgap⟩ | ⟨inside, rfl, hinside⟩
  · exact .inl ⟨gap, rfl, hgap⟩
  · cases inside with
    | nil => exact .inl ⟨[], by simp, by simpa using hinside.symm⟩
    | cons x inside =>
      rw [List.cons_append, List.cons.injEq] at hinside
      exact .inr ⟨inside, by rw [hinside.1], hinside.2⟩

/-- A held lease never ends inside the window it was claimed on: nothing before the claim
holds, and everything after it does. -/
lemma Settled.held_stays_held {lease : ControlLease} {opening op : LeaseOp} {reading : Reading}
    {upto rest inside post tail : List LeaseOp} {claimed : LeaseOp}
    (h : Settled lease opening reading upto rest)
    (hheld : Stays .held ((lease.step opening).runs (upto ++ rest ++ [claimed])) tail)
    (hinside : ((lease.step opening).runs inside).state = .held)
    (hcut : upto ++ rest ++ claimed :: tail = inside ++ op :: post) :
    ((lease.step opening).runs (inside ++ [op])).state = .held := by
  rcases List.append_eq_append_iff.mp hcut with ⟨gap, rfl, hgap⟩ | ⟨gap, hgap, -⟩
  · cases gap with
    | nil =>
      rw [List.append_nil] at hinside
      exact absurd hinside (h.free _ List.prefix_rfl)
    | cons x gap =>
      rw [List.cons_append, List.cons.injEq] at hgap
      obtain ⟨rfl, rfl⟩ := hgap
      have hstate := hheld (gap ++ [op]) ⟨post, by simp⟩
      rw [← runs_append] at hstate
      simpa using hstate
  · exact absurd hinside (h.free inside ⟨gap, hgap.symm⟩)

/-- Once a held lease ends, the lease is stable or held again only on a window that was
opened and completed after the end. -/
lemma History.reopened {memory : ControlLease} {pre post : List LeaseOp} {op : LeaseOp}
    (h : History memory (pre ++ op :: post)) (hheld : (memory.runs pre).state = .held)
    (hended : (memory.runs (pre ++ [op])).state ≠ .held)
    (hagain : (memory.runs (pre ++ op :: post)).state = .stable ∨
      (memory.runs (pre ++ op :: post)).state = .held) :
    ∃ gap opening reading upto rest later, op :: post = gap ++ opening :: (upto ++ rest ++ later) ∧
      Settled (memory.runs (pre ++ gap)) opening reading upto rest := by
  rcases hagain with hstable | hheldAgain
  · obtain ⟨before, opening, reading, upto, rest, hrun, hsettled⟩ := h.stable hstable
    rcases cut_cases hrun with ⟨gap, rfl, hgap⟩ | ⟨inside, rfl, hinside⟩
    · exact ⟨gap, opening, reading, upto, rest, [], by rw [List.append_nil]; exact hgap, hsettled⟩
    · rw [runs_append, runs_cons] at hheld
      exact absurd hheld (hsettled.free inside ⟨op :: post, hinside.symm⟩)
  · obtain ⟨before, opening, reading, upto, rest, claimed, tail, hrun, hsettled, -, hstays⟩ :=
      h.held hheldAgain
    rcases cut_cases hrun with ⟨gap, rfl, hgap⟩ | ⟨inside, rfl, hinside⟩
    · exact ⟨gap, opening, reading, upto, rest, claimed :: tail, hgap, hsettled⟩
    · rw [runs_append, runs_cons] at hstays hheld
      have hstill := hsettled.held_stays_held hstays hheld hinside
      rw [List.append_assoc, runs_append, List.cons_append, runs_cons] at hended
      exact absurd hstill hended

/-- What a successful claim checked, from the effect it had. -/
lemma claim_checked {lease : ControlLease} {owner t : UInt64} {verified : Bool}
    {intent : ControlIntentStatus} {result : SmcBaselineResult}
    {snapshot : Option SmcBaselineSnapshot}
    (h : lease.succeeds (.claim owner t verified intent result snapshot) = true) :
    lease.state = .stable ∧ intent = .clear ∧ result = .ok ∧
      smcBaselineIsSystem snapshot = true ∧ coolEnough snapshot = true ∧
      lease.lastSampleNs.toNat ≤ t.toNat ∧ t.toNat ≤ lease.lastSampleNs.toNat + 2000000000 := by
  have heffect := effect lease (.claim owner t verified intent result snapshot)
  rw [h] at heffect
  generalize lease.step _ = after at heffect
  cases heffect with
  | claimed state nonzero fresh age deadline system cool =>
    exact ⟨state, rfl, rfl, system, cool, fresh, age⟩

lemma coolEnough_some {snapshot : Option SmcBaselineSnapshot} (h : coolEnough snapshot = true) :
    ∃ s, snapshot = some s ∧ ∀ i, smcBaselineTemperatureValid (s.temperaturesC i) = true ∧
      lt (s.temperaturesC i) (finite 75) = true := by
  cases snapshot with
  | none => simp [coolEnough] at h
  | some s =>
    refine ⟨s, rfl, fun i => ?_⟩
    simp only [coolEnough, List.all_eq_true, Bool.and_eq_true, Bool.not_eq_true'] at h
    obtain ⟨hvalid, hcool⟩ := h i (List.mem_finRange i)
    refine ⟨hvalid, ?_⟩
    have hfinite : (s.temperaturesC i).isfinite = true := by
      simp only [smcBaselineTemperatureValid, Bool.and_eq_true] at hvalid
      exact hvalid.1.1
    rw [le_of_isfinite rfl hfinite, decide_eq_false_iff_not, not_le] at hcool
    rw [lt_of_isfinite hfinite rfl]
    exact decide_eq_true hcool

/-- Every successful claim rests on its own completed window, opened by the latest start or
by a later recovery; after a held lease ends only a new window leads back to stable or held;
and the sample counter never exceeds 68. -/
theorem claim_rests_on_window (memory : ControlLease) (intent₀ : ControlIntentStatus)
    (result₀ : SmcBaselineResult) (snapshot₀ : Option SmcBaselineSnapshot) (t₀ : UInt64)
    (ops : List LeaseOp) :
    (∀ owner t verified intent result snapshot,
      (memory.runs (.start intent₀ result₀ snapshot₀ t₀ :: ops)).succeeds
        (.claim owner t verified intent result snapshot) = true →
      intent = .clear ∧ result = .ok ∧ smcBaselineIsSystem snapshot = true ∧
      (∃ s, snapshot = some s ∧ ∀ i, smcBaselineTemperatureValid (s.temperaturesC i) = true ∧
        lt (s.temperaturesC i) (finite 75) = true) ∧
      ∃ before opening reading upto rest last,
        .start intent₀ result₀ snapshot₀ t₀ :: ops = before ++ opening :: (upto ++ rest) ∧
        Settled (memory.runs before) opening reading upto rest ∧
        (reading :: sampledReadings upto).getLast? = some last ∧
        last.nowNs.toNat ≤ t.toNat ∧ t.toNat ≤ last.nowNs.toNat + 2000000000) ∧
    (∀ pre op post, .start intent₀ result₀ snapshot₀ t₀ :: ops = pre ++ op :: post →
      (memory.runs pre).state = .held → (memory.runs (pre ++ [op])).state ≠ .held →
      ((memory.runs (pre ++ op :: post)).state = .stable ∨
        (memory.runs (pre ++ op :: post)).state = .held) →
      ∃ gap opening reading upto rest later,
        op :: post = gap ++ opening :: (upto ++ rest ++ later) ∧
        Settled (memory.runs (pre ++ gap)) opening reading upto rest) ∧
    (memory.runs (.start intent₀ result₀ snapshot₀ t₀ :: ops)).samples ≤ 68 := by
  have h := history memory intent₀ result₀ snapshot₀ t₀ ops
  refine ⟨fun owner t verified intent result snapshot hclaim => ?_,
    fun pre op post hrun hheld hended hagain => ?_, UInt32.le_iff_toNat_le.mpr h.bound⟩
  · obtain ⟨hstate, hintent, hresult, hsystem, hcool, hfresh, hage⟩ := claim_checked hclaim
    obtain ⟨before, opening, reading, upto, rest, hrun, hsettled⟩ := h.stable hstate
    obtain ⟨last, hlast, htime⟩ := hsettled.last
    rw [hrun, runs_append, runs_cons, ← htime] at hfresh hage
    exact ⟨hintent, hresult, hsystem, coolEnough_some hcool, before, opening, reading, upto, rest,
      last, hrun, hsettled, hlast, hfresh, hage⟩
  · rw [hrun] at h
    exact h.reopened hheld hended hagain

end ControlLease
end Ventilator
