import Ventilator.ControlLeaseWindow

/-! The one-minute watch of `BaselineWatch.c`, and its agreement with the control lease that
applies the same rule. -/
namespace Ventilator

inductive BaselineWatchStatus
  | idle
  | running
  | stable
  | changed
  | readFailed
  deriving DecidableEq

def SmcBaselineSnapshot.zero : SmcBaselineSnapshot :=
  ⟨0, fun _ => 0, fun _ => .finite 0, fun _ => .finite 0, fun _ => .finite 0⟩

structure BaselineWatch where
  status : BaselineWatchStatus
  samples : UInt32
  lastSecond : UInt32
  lastReadResult : SmcBaselineResult
  latest : SmcBaselineSnapshot
  startedContinuousNs : UInt64
  lastContinuousNs : UInt64
  timingFailed : Bool
  deriving DecidableEq

namespace BaselineWatch

def finalSecond : UInt32 := 60
def minGapNs : UInt64 := 900000000
def maxGapNs : UInt64 := 5000000000
def durationNs : UInt64 := 60000000000

@[simp] lemma minGapNs_toNat : minGapNs.toNat = 900000000 := rfl
@[simp] lemma maxGapNs_toNat : maxGapNs.toNat = 5000000000 := rfl
@[simp] lemma durationNs_toNat : durationNs.toNat = 60000000000 := rfl

/-- Memory as `memset(watch, 0, sizeof(*watch))` leaves it. -/
def zero : BaselineWatch := ⟨.idle, 0, 0, .ok, .zero, 0, 0, false⟩

/-- `baseline_watch_begin`, which begins by zeroing the watch. -/
def start (result : SmcBaselineResult) (snapshot : Option SmcBaselineSnapshot)
    (sampledContinuousNs : UInt64) : BaselineWatch :=
  let watch := { zero with lastReadResult := result }
  match snapshot with
  | none => { watch with status := .readFailed }
  | some latest =>
    if result ≠ .ok then { watch with status := .readFailed }
    else if sampledContinuousNs = 0 then
      { watch with status := .readFailed, timingFailed := true }
    else
      { watch with
        samples := 1
        latest := latest
        startedContinuousNs := sampledContinuousNs
        lastContinuousNs := sampledContinuousNs
        status := if smcBaselineIsSystem snapshot then .running else .changed }

/-- The gap and, for the last second, the duration that a sample may not have. -/
def badTiming (watch : BaselineWatch) (second : UInt32) (sampledContinuousNs : UInt64) : Bool :=
  decide (sampledContinuousNs ≤ watch.lastContinuousNs) ||
    decide (sampledContinuousNs - watch.lastContinuousNs < minGapNs) ||
    decide (sampledContinuousNs - watch.lastContinuousNs > maxGapNs) ||
    (second == finalSecond && decide (sampledContinuousNs - watch.startedContinuousNs < durationNs))

def next (watch : BaselineWatch) (second : UInt32) (result : SmcBaselineResult)
    (snapshot : Option SmcBaselineSnapshot) (sampledContinuousNs : UInt64) : BaselineWatch :=
  if watch.status ≠ .running then watch
  else if second ≠ watch.lastSecond + 1 ∨ second > finalSecond ∨ result ≠ .ok then
    { watch with
      status := .readFailed
      lastReadResult := if result = .ok then .unexpectedFormat else result }
  else
    match snapshot with
    | none => { watch with status := .readFailed, lastReadResult := .unexpectedFormat }
    | some latest =>
      if watch.badTiming second sampledContinuousNs then
        { watch with status := .readFailed, timingFailed := true }
      else
        let status :=
          if ¬ smcBaselineIsSystem snapshot then .changed
          else if second = finalSecond then .stable
          else watch.status
        { watch with latest := latest, samples := watch.samples + 1, lastSecond := second,
                     lastContinuousNs := sampledContinuousNs, status := status }

/-- The watch after one sample each second from `second` on. -/
def feed (watch : BaselineWatch) (second : ℕ) : List Reading → BaselineWatch
  | [] => watch
  | r :: rs => feed (watch.next second.toUInt32 r.result r.snapshot r.nowNs) (second + 1) rs

/-- The watch after the samples of seconds 0, 1, 2 and so on. -/
def watched (first : Reading) (rest : List Reading) : BaselineWatch :=
  feed (start first.result first.snapshot first.nowNs) 1 rest

end BaselineWatch

namespace ControlLease

/-- The lease after the same samples. -/
def sampled (lease : ControlLease) (readings : List Reading) : ControlLease :=
  readings.foldl (fun lease r => lease.sample r.result r.snapshot r.nowNs) lease

def observed (first : Reading) (rest : List Reading) : ControlLease :=
  (start .clear first.result first.snapshot first.nowNs).sampled rest

end ControlLease

/-! Both reducers see the same samples. -/
namespace BaselineWatch
open ControlLease

/-- Both still watch the same window after `n` samples. -/
structure Together (n : ℕ) (watch : BaselineWatch) (lease : ControlLease) : Prop where
  running : watch.status = .running
  observing : lease.state = .observing
  second : watch.lastSecond.toNat + 1 = n
  samples : lease.samples.toNat = n
  last : lease.lastSampleNs = watch.lastContinuousNs
  started : lease.observationStartedNs = watch.startedContinuousNs

/-- What the two reducers have come to after `n` samples. -/
inductive Agree (n : ℕ) (watch : BaselineWatch) (lease : ControlLease) : Prop
  | together (h : Together n watch lease)
  | changed (hwatch : watch.status = .changed) (hlease : lease.state = .recoveryRequired)
  | failed (hwatch : watch.status = .readFailed) (hlease : lease.state = .readFailed)

lemma toUInt32_toNat {n : ℕ} (h : n ≤ 60) : n.toUInt32.toNat = n := by
  have hlt : n < UInt32.size := by simp only [UInt32.size]; omega
  exact UInt32.toNat_ofNat_of_lt' hlt

lemma next_of_stopped {watch : BaselineWatch} (h : watch.status ≠ .running) (second : UInt32)
    (result : SmcBaselineResult) (snapshot : Option SmcBaselineSnapshot) (t : UInt64) :
    watch.next second result snapshot t = watch := by
  unfold next
  rw [if_pos h]

lemma sample_of_stopped {lease : ControlLease} (hobserving : lease.state ≠ .observing)
    (hverifying : lease.state ≠ .verifyingRecovery) (result : SmcBaselineResult)
    (snapshot : Option SmcBaselineSnapshot) (t : UInt64) :
    lease.sample result snapshot t = lease := by
  rw [sample, if_pos ⟨hobserving, hverifying⟩]

/-- The next second is the expected one. -/
lemma Together.expected {n : ℕ} {watch : BaselineWatch} {lease : ControlLease}
    (h : Together n watch lease) (hn : n ≤ 60) : n.toUInt32 = watch.lastSecond + 1 := by
  apply UInt32.toNat_inj.mp
  have hsecond := h.second
  rw [toUInt32_toNat hn, UInt32.toNat_add, UInt32.toNat_one]
  omega

lemma Together.next_unread {n : ℕ} {watch : BaselineWatch} {lease : ControlLease}
    (h : Together n watch lease) {r : Reading} (hread : validRead r.result r.snapshot = false) :
    (watch.next n.toUInt32 r.result r.snapshot r.nowNs).status = .readFailed := by
  unfold next
  rw [if_neg (not_not.mpr h.running)]
  split
  · rfl
  · rename_i hchecks
    cases hsnapshot : r.snapshot with
    | none => rfl
    | some latest =>
      rw [not_or, not_or, not_not, not_not] at hchecks
      simp [validRead, hsnapshot, hchecks.2.2] at hread

/-- The watch after a sample that was read. -/
lemma Together.next_read {n : ℕ} {watch : BaselineWatch} {lease : ControlLease}
    (h : Together n watch lease) (hn : n ≤ 60) {r : Reading} {latest : SmcBaselineSnapshot}
    (hresult : r.result = .ok) (hsnapshot : r.snapshot = some latest) :
    watch.next n.toUInt32 r.result r.snapshot r.nowNs =
      if watch.badTiming n.toUInt32 r.nowNs then
        { watch with status := .readFailed, timingFailed := true }
      else
        { watch with latest := latest, samples := watch.samples + 1, lastSecond := n.toUInt32,
                     lastContinuousNs := r.nowNs
                     status := if ¬ smcBaselineIsSystem r.snapshot then .changed
                       else if n.toUInt32 = finalSecond then .stable else .running } := by
  have hfinal : ¬ n.toUInt32 > finalSecond := by
    rw [gt_iff_lt, UInt32.lt_iff_toNat_lt, toUInt32_toNat hn]
    exact not_lt.mpr hn
  have hexpected := h.expected hn
  unfold next
  rw [if_neg (not_not.mpr h.running), if_neg (by simp [← hexpected, hfinal, hresult]), hsnapshot]
  simp only [h.running]

/-- Before the last second both apply the same checks to the time. -/
lemma Together.badTiming_eq {n : ℕ} {watch : BaselineWatch} {lease : ControlLease}
    (h : Together n watch lease) (hn : n < 60) {r : Reading}
    (hread : validRead r.result r.snapshot = true) :
    watch.badTiming n.toUInt32 r.nowNs = !lease.sampleAccepted r.result r.snapshot r.nowNs := by
  have hfinal : (n.toUInt32 == finalSecond) = false := by
    rw [beq_eq_false_iff_ne, ne_eq, ← UInt32.toNat_inj, toUInt32_toNat hn.le]
    exact hn.ne
  rw [badTiming, sampleAccepted, hread, h.last, hfinal, Bool.not_not]
  simp only [Bool.false_and, Bool.or_false, Bool.not_true, Bool.false_or]
  rfl

lemma lease_unread {lease : ControlLease} (h : lease.state = .observing) {r : Reading}
    (hread : lease.sampleAccepted r.result r.snapshot r.nowNs = false) :
    (lease.sample r.result r.snapshot r.nowNs).state = .readFailed := by
  rw [sample, if_neg (by simp [h]), if_pos (by simp [hread])]

/-- The lease after an accepted sample. -/
lemma lease_read {lease : ControlLease} (h : lease.state = .observing) {r : Reading}
    (hread : lease.sampleAccepted r.result r.snapshot r.nowNs = true) :
    lease.sample r.result r.snapshot r.nowNs =
      if ¬ smcBaselineIsSystem r.snapshot then requireRecovery (lease.counted r.nowNs)
      else if lease.samples + 1 ≥ requiredSamples ∧
          r.nowNs - lease.observationStartedNs ≥ baselineNs then lease.stabilised r.nowNs
      else lease.counted r.nowNs := by
  rw [sample, if_neg (by simp [h]), if_neg (by simp [hread])]
  rfl

lemma Together.samples_succ {n : ℕ} {watch : BaselineWatch} {lease : ControlLease}
    (h : Together n watch lease) (hn : n ≤ 60) : (lease.samples + 1).toNat = n + 1 := by
  rw [UInt32.toNat_add, h.samples, UInt32.toNat_one]
  omega

/-- A sample before the last second keeps the two in agreement. -/
lemma Agree.step {n : ℕ} {watch : BaselineWatch} {lease : ControlLease}
    (h : Agree n watch lease) (hn : n < 60) (r : Reading) :
    Agree (n + 1) (watch.next n.toUInt32 r.result r.snapshot r.nowNs)
      (lease.sample r.result r.snapshot r.nowNs) := by
  cases h with
  | changed hwatch hlease =>
    rw [next_of_stopped (by simp [hwatch]), sample_of_stopped (by simp [hlease]) (by simp [hlease])]
    exact .changed hwatch hlease
  | failed hwatch hlease =>
    rw [next_of_stopped (by simp [hwatch]), sample_of_stopped (by simp [hlease]) (by simp [hlease])]
    exact .failed hwatch hlease
  | together h =>
    cases hread : validRead r.result r.snapshot with
    | false =>
      exact .failed (h.next_unread hread) (lease_unread h.observing (by simp [sampleAccepted, hread]))
    | true =>
      obtain ⟨latest, hsnapshot⟩ : ∃ latest, r.snapshot = some latest := by
        simp only [validRead, Bool.and_eq_true, Option.isSome_iff_exists] at hread
        exact hread.2
      have hbad := h.badTiming_eq hn hread
      rw [h.next_read hn.le (validRead_ok hread) hsnapshot]
      cases haccepted : lease.sampleAccepted r.result r.snapshot r.nowNs with
      | false =>
        rw [haccepted] at hbad
        rw [if_pos (by simpa using hbad)]
        exact .failed rfl (lease_unread h.observing haccepted)
      | true =>
        rw [haccepted] at hbad
        rw [if_neg (by simp [hbad])]
        by_cases hsystem : smcBaselineIsSystem r.snapshot = true
        · have hsamples := h.samples_succ hn.le
          have hfew : ¬ lease.samples + 1 ≥ requiredSamples := by
            rw [ge_iff_le, UInt32.le_iff_toNat_le, hsamples, requiredSamples_toNat]
            omega
          have hfinal : n.toUInt32 ≠ finalSecond := by
            rw [ne_eq, ← UInt32.toNat_inj, toUInt32_toNat hn.le]
            exact hn.ne
          have hlease := lease_read h.observing haccepted
          rw [if_neg (not_not.mpr hsystem), if_neg fun hboth => hfew hboth.1] at hlease
          rw [hlease]
          have hsecond := congrArg (· + 1) (toUInt32_toNat hn.le)
          exact .together ⟨by simp [hsystem, hfinal], h.observing, hsecond, hsamples, rfl, h.started⟩
        · have hlease := lease_read h.observing haccepted
          rw [if_pos hsystem] at hlease
          rw [hlease]
          exact .changed (by simp [hsystem]) rfl

/-- The sample of the last second makes both stable or neither. -/
lemma Agree.final {watch : BaselineWatch} {lease : ControlLease} (h : Agree 60 watch lease)
    (r : Reading) :
    (watch.next (60 : ℕ).toUInt32 r.result r.snapshot r.nowNs).status = .stable ↔
      (lease.sample r.result r.snapshot r.nowNs).state = .stable := by
  cases h with
  | changed hwatch hlease =>
    rw [next_of_stopped (by simp [hwatch]), sample_of_stopped (by simp [hlease]) (by simp [hlease])]
    simp [hwatch, hlease]
  | failed hwatch hlease =>
    rw [next_of_stopped (by simp [hwatch]), sample_of_stopped (by simp [hlease]) (by simp [hlease])]
    simp [hwatch, hlease]
  | together h =>
    cases hread : validRead r.result r.snapshot with
    | false =>
      rw [h.next_unread hread, lease_unread h.observing (by simp [sampleAccepted, hread])]
      simp
    | true =>
      obtain ⟨latest, hsnapshot⟩ : ∃ latest, r.snapshot = some latest := by
        simp only [validRead, Bool.and_eq_true, Option.isSome_iff_exists] at hread
        exact hread.2
      rw [h.next_read le_rfl (validRead_ok hread) hsnapshot]
      have hbad : watch.badTiming (60 : ℕ).toUInt32 r.nowNs =
          (!lease.sampleAccepted r.result r.snapshot r.nowNs ||
            decide (r.nowNs - lease.observationStartedNs < baselineNs)) := by
        rw [badTiming, sampleAccepted, hread, h.last, h.started, Bool.not_not]
        rfl
      have hsamples : lease.samples + 1 ≥ requiredSamples := by
        rw [ge_iff_le, UInt32.le_iff_toNat_le, h.samples_succ le_rfl, requiredSamples_toNat]
      cases haccepted : lease.sampleAccepted r.result r.snapshot r.nowNs with
      | false =>
        rw [haccepted, Bool.not_false, Bool.true_or] at hbad
        rw [if_pos hbad, lease_unread h.observing haccepted]
        simp
      | true =>
        rw [haccepted, Bool.not_true, Bool.false_or] at hbad
        rw [lease_read h.observing haccepted, hbad]
        by_cases hspan : r.nowNs - lease.observationStartedNs < baselineNs
        · rw [if_pos (by simpa using hspan), if_neg (c := _ ∧ _) (fun hboth =>
            absurd hspan (UInt64.not_lt.mpr hboth.2))]
          split
          · simp [requireRecovery]
          · simp [counted, h.observing]
        · rw [if_neg (by simpa using hspan), if_pos (c := _ ∧ _) ⟨hsamples, UInt64.not_lt.mp hspan⟩]
          by_cases hsystem : smcBaselineIsSystem r.snapshot = true
          · simp [hsystem, stabilised, finalSecond]
          · simp [hsystem, requireRecovery]

/-- The first sample starts both in agreement. -/
lemma agree_start (first : Reading) :
    Agree 1 (start first.result first.snapshot first.nowNs)
      (ControlLease.start .clear first.result first.snapshot first.nowNs) := by
  unfold start ControlLease.start
  rw [if_neg (c := ControlIntentStatus.clear ≠ .clear) (by simp)]
  cases hsnapshot : first.snapshot with
  | none => exact .failed rfl (by simp [validRead])
  | some latest =>
    dsimp only
    by_cases hresult : first.result = .ok
    · rw [if_neg (not_not.mpr hresult)]
      by_cases htime : first.nowNs = 0
      · rw [if_pos htime, if_pos (c := _ ∨ _) (.inl htime)]
        exact .failed rfl rfl
      · rw [if_neg htime, if_neg (c := _ ∨ _) (by simp [htime, hresult, validRead])]
        by_cases hsystem : smcBaselineIsSystem (some latest) = true
        · rw [if_neg (not_not.mpr hsystem)]
          exact .together ⟨by simp [hsystem], rfl, rfl, rfl, rfl, rfl⟩
        · rw [if_pos hsystem]
          exact .changed (by simp [hsystem]) rfl
    · rw [if_pos hresult, if_pos (c := _ ∨ _) (.inr (by simp [hresult, validRead]))]
      exact .failed rfl rfl

/-- Samples that end before the last second keep the agreement. -/
lemma Agree.feed {n : ℕ} {watch : BaselineWatch} {lease : ControlLease}
    (h : Agree n watch lease) (rs : List Reading) (hn : n + rs.length ≤ 60) :
    Agree (n + rs.length) (watch.feed n rs) (lease.sampled rs) := by
  induction rs generalizing n watch lease with
  | nil => exact h
  | cons r rs ih =>
    rw [List.length_cons] at hn ⊢
    have hstep := ih (h.step (by omega) r) (by omega)
    rwa [show n + 1 + rs.length = n + (rs.length + 1) by omega] at hstep

lemma feed_concat (watch : BaselineWatch) (n : ℕ) (rs : List Reading) (r : Reading) :
    watch.feed n (rs ++ [r]) =
      (watch.feed n rs).next (n + rs.length).toUInt32 r.result r.snapshot r.nowNs := by
  induction rs generalizing watch n with
  | nil => rfl
  | cons x rs ih =>
    rw [List.cons_append, BaselineWatch.feed, ih, List.length_cons]
    rw [show n + 1 + rs.length = n + (rs.length + 1) by omega]
    rfl

/-- The watch and the lease, fed the same samples, agree on what they have come to as long as
fewer than 61 samples were taken, and the sixty-first makes both stable or neither. -/
theorem watch_agrees_with_lease (first : Reading) (rest : List Reading) :
    (rest.length + 1 < 61 →
      ((watched first rest).status = .running ↔ (observed first rest).state = .observing) ∧
      ((watched first rest).status = .changed ↔
        (observed first rest).state = .recoveryRequired) ∧
      ((watched first rest).status = .readFailed ↔
        (observed first rest).state = .readFailed)) ∧
    (rest.length + 1 = 61 →
      ((watched first rest).status = .stable ↔ (observed first rest).state = .stable)) := by
  constructor
  · intro hlength
    have hagree : Agree (1 + rest.length) (watched first rest) (observed first rest) :=
      (agree_start first).feed rest (by omega)
    cases hagree with
    | together h => simp [h.running, h.observing]
    | changed hwatch hlease => simp [hwatch, hlease]
    | failed hwatch hlease => simp [hwatch, hlease]
  · intro hlength
    have hne : rest ≠ [] := by
      rintro rfl
      simp at hlength
    obtain ⟨init, last, rfl⟩ : ∃ init last, rest = init ++ [last] :=
      ⟨rest.dropLast, rest.getLast hne, (List.dropLast_append_getLast hne).symm⟩
    have hinit : init.length = 59 := by simpa using hlength
    have hagree := (agree_start first).feed init (by omega)
    rw [hinit] at hagree
    rw [watched, feed_concat, observed, sampled, List.foldl_append, hinit]
    exact hagree.final last

end BaselineWatch
end Ventilator
