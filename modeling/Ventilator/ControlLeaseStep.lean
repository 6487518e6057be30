import Ventilator.ControlLease

/-! The eleven operations as one step function, and the list of everything a step can do.
Every invariant of the lease is read off `Effect`. -/
namespace Ventilator
open Double

inductive LeaseOp
  | start (intent : ControlIntentStatus) (result : SmcBaselineResult)
      (snapshot : Option SmcBaselineSnapshot) (nowNs : UInt64)
  | sample (result : SmcBaselineResult) (snapshot : Option SmcBaselineSnapshot) (nowNs : UInt64)
  | claim (owner nowNs : UInt64) (restoreProtocolVerified : Bool) (intent : ControlIntentStatus)
      (result : SmcBaselineResult) (snapshot : Option SmcBaselineSnapshot)
  | markWritePending (owner nowNs : UInt64) (intent : ControlIntentStatus)
  | preparePersistentIntent
  | renew (owner nowNs : UInt64) (intent : ControlIntentStatus) (result : SmcBaselineResult)
      (snapshot : Option SmcBaselineSnapshot)
  | ownerLost (owner : UInt64)
  | tick (nowNs : UInt64)
  | sleep
  | recoveryStarted (result : SmcBaselineResult) (snapshot : Option SmcBaselineSnapshot)
      (nowNs : UInt64)
  | takeRecoveryProof
  deriving DecidableEq

namespace LeaseOp

def isStart : LeaseOp → Bool
  | start _ _ _ _ => true
  | _ => false

def isSample : LeaseOp → Bool
  | sample _ _ _ => true
  | _ => false

/-- The owner an operation speaks for, if it names one. -/
def owner? : LeaseOp → Option UInt64
  | claim owner _ _ _ _ _ => some owner
  | markWritePending owner _ _ => some owner
  | renew owner _ _ _ _ => some owner
  | ownerLost owner => some owner
  | _ => none

/-- The time at which an operation claims, uses or renews the lease. -/
def requestTime? : LeaseOp → Option UInt64
  | claim _ nowNs _ _ _ _ => some nowNs
  | markWritePending _ nowNs _ => some nowNs
  | renew _ nowNs _ _ _ => some nowNs
  | _ => none

def isClaim : LeaseOp → Bool
  | claim _ _ _ _ _ _ => true
  | _ => false

def isRenew : LeaseOp → Bool
  | renew _ _ _ _ _ => true
  | _ => false

def isMark : LeaseOp → Bool
  | markWritePending _ _ _ => true
  | _ => false

/-- The operations that set a new deadline. -/
def setsDeadline (op : LeaseOp) : Bool := op.isClaim || op.isRenew

def isTakeRecoveryProof : LeaseOp → Bool
  | takeRecoveryProof => true
  | _ => false

end LeaseOp

namespace ControlLease

/-- The call's answer and the lease it leaves; the `void` operations answer `false`. -/
def call (lease : ControlLease) : LeaseOp → Bool × ControlLease
  | .start intent result snapshot nowNs => (false, start intent result snapshot nowNs)
  | .sample result snapshot nowNs => (false, lease.sample result snapshot nowNs)
  | .claim owner nowNs verified intent result snapshot =>
    lease.claim owner nowNs verified intent result snapshot
  | .markWritePending owner nowNs intent => lease.markWritePending owner nowNs intent
  | .preparePersistentIntent => lease.preparePersistentIntent
  | .renew owner nowNs intent result snapshot => lease.renew owner nowNs intent result snapshot
  | .ownerLost owner => (false, lease.ownerLost owner)
  | .tick nowNs => (false, lease.tick nowNs)
  | .sleep => (false, lease.sleep)
  | .recoveryStarted result snapshot nowNs => (false, lease.recoveryStarted result snapshot nowNs)
  | .takeRecoveryProof => lease.takeRecoveryProof

def succeeds (lease : ControlLease) (op : LeaseOp) : Bool := (lease.call op).1

def step (lease : ControlLease) (op : LeaseOp) : ControlLease := (lease.call op).2

/-- The lease after a finite sequence of operations. -/
def runs (lease : ControlLease) (ops : List LeaseOp) : ControlLease := ops.foldl step lease

@[simp] lemma runs_nil (lease : ControlLease) : lease.runs [] = lease := rfl

@[simp] lemma runs_cons (lease : ControlLease) (op : LeaseOp) (ops : List LeaseOp) :
    lease.runs (op :: ops) = (lease.step op).runs ops := rfl

@[simp] lemma runs_append (lease : ControlLease) (xs ys : List LeaseOp) :
    lease.runs (xs ++ ys) = (lease.runs xs).runs ys := by
  simp [runs, List.foldl_append]

/-- The last operation of the run that satisfies `p` and succeeded. -/
def lastSuccess (p : LeaseOp → Bool) (lease : ControlLease) : List LeaseOp → Option LeaseOp
  | [] => none
  | op :: ops =>
    (lastSuccess p (lease.step op) ops).or
      (if p op && lease.succeeds op then some op else none)

lemma lastSuccess_concat (p : LeaseOp → Bool) (lease : ControlLease) (ops : List LeaseOp)
    (op : LeaseOp) :
    lastSuccess p lease (ops ++ [op]) =
      if p op && (lease.runs ops).succeeds op then some op else lastSuccess p lease ops := by
  induction ops generalizing lease with
  | nil => simp [lastSuccess]
  | cons x xs ih =>
    simp only [List.cons_append, lastSuccess, ih, runs_cons]
    split_ifs <;> simp

def watching (lease : ControlLease) : Prop :=
  lease.state = .observing ∨ lease.state = .verifyingRecovery

lemma watching_not_held {lease : ControlLease} (h : lease.watching) : lease.state ≠ .held := by
  rcases h with h | h <;> simp [h]

lemma watching_not_stable {lease : ControlLease} (h : lease.watching) :
    lease.state ≠ .stable := by
  rcases h with h | h <;> simp [h]

/-- `later` comes 0.9 to 5 seconds after `earlier`. -/
def SampleGap (earlier later : UInt64) : Prop :=
  earlier.toNat + 900000000 ≤ later.toNat ∧ later.toNat ≤ earlier.toNat + 5000000000

lemma toNat_gap {a b : UInt64} (h : ¬ b ≤ a) :
    a.toNat < b.toNat ∧ (b - a).toNat = b.toNat - a.toNat := by
  rw [UInt64.le_iff_toNat_le] at h
  exact ⟨by omega, UInt64.toNat_sub_of_le _ _ (UInt64.le_iff_toNat_le.mpr (by omega))⟩

lemma toNat_sub_of_not_lt {a b : UInt64} (h : ¬ b < a) :
    a.toNat ≤ b.toNat ∧ (b - a).toNat = b.toNat - a.toNat := by
  rw [UInt64.lt_iff_toNat_lt] at h
  exact ⟨by omega, UInt64.toNat_sub_of_le _ _ (UInt64.le_iff_toNat_le.mpr (by omega))⟩

lemma validRead_ok {result : SmcBaselineResult} {snapshot : Option SmcBaselineSnapshot}
    (h : validRead result snapshot = true) : result = .ok := by
  simp only [validRead, Bool.and_eq_true, beq_iff_eq] at h
  exact h.1

lemma sampleAccepted_gap {lease : ControlLease} {result : SmcBaselineResult}
    {snapshot : Option SmcBaselineSnapshot} {t : UInt64}
    (h : lease.sampleAccepted result snapshot t = true) :
    result = .ok ∧ SampleGap lease.lastSampleNs t := by
  simp only [sampleAccepted, Bool.not_eq_true', Bool.or_eq_false_iff, decide_eq_false_iff_not,
    Bool.not_eq_false'] at h
  obtain ⟨⟨⟨hread, hlt⟩, hmin⟩, hmax⟩ := h
  obtain ⟨hlt, hsub⟩ := toNat_gap hlt
  simp only [UInt64.lt_iff_toNat_lt, gt_iff_lt, hsub, sampleMinNs_toNat, sampleMaxNs_toNat]
    at hmin hmax
  exact ⟨validRead_ok hread, by omega, by omega⟩

/-- The renewed deadline does not wrap. -/
lemma deadline_toNat {t : UInt64} (h : ¬ t > uint64Max - ttlNs) :
    (t + ttlNs).toNat = t.toNat + 15000000000 := by
  simp only [gt_iff_lt, UInt64.lt_iff_toNat_lt, lastClaimNs_toNat] at h
  rw [UInt64.toNat_add, ttlNs_toNat]
  omega

/-- The lease an accepted opening sample at `t` leaves. -/
def opened (lease : ControlLease) (state : ControlLeaseState) (t : UInt64) : ControlLease :=
  { lease with recoveryVerified := false, state := state, observationStartedNs := t,
               lastSampleNs := t, samples := 1 }

def counted (lease : ControlLease) (t : UInt64) : ControlLease :=
  { lease with lastSampleNs := t, samples := lease.samples + 1 }

def stabilised (lease : ControlLease) (t : UInt64) : ControlLease :=
  { lease.counted t with recoveryVerified := decide (lease.state = .verifyingRecovery)
                         state := .stable, writePending := false, owner := 0, expiresAtNs := 0 }

/-- Everything one operation can do: the answer and the lease it leaves, with the guards
the operation checked. -/
inductive Effect (lease : ControlLease) : LeaseOp → Bool → ControlLease → Prop
  | restarted {intent result snapshot t after} (state : after.state = .recoveryRequired ∨
      after.state = .readFailed) (owner : after.owner = 0) (expires : after.expiresAtNs = 0)
      (samples : after.samples = 0) (proof : after.recoveryVerified = false) :
      Effect lease (.start intent result snapshot t) false after
  | startOpened {snapshot t} (time : t ≠ 0) (system : smcBaselineIsSystem snapshot = true) :
      Effect lease (.start .clear .ok snapshot t) false (zero.opened .observing t)
  | recoveryOpened {snapshot t} (state : lease.state = .recoveryRequired) (time : t ≠ 0)
      (system : smcBaselineIsSystem snapshot = true) :
      Effect lease (.recoveryStarted .ok snapshot t) false (lease.opened .verifyingRecovery t)
  | unchanged {op} (start : op.isStart = false) (sample : op.isSample → ¬ lease.watching) :
      Effect lease op false lease
  | dropped {op} (start : op.isStart = false) : Effect lease op false lease.requireRecovery
  | changed {snapshot t} (watching : lease.watching) (gap : SampleGap lease.lastSampleNs t) :
      Effect lease (.sample .ok snapshot t) false (lease.counted t).requireRecovery
  | failed {op} (start : op.isStart = false) (state : lease.state ≠ .held) :
      Effect lease op false { lease with state := .readFailed }
  | counted {snapshot t} (watching : lease.watching) (gap : SampleGap lease.lastSampleNs t)
      (system : smcBaselineIsSystem snapshot = true)
      (short : ¬ (lease.samples + 1 ≥ requiredSamples ∧
        t - lease.observationStartedNs ≥ baselineNs)) :
      Effect lease (.sample .ok snapshot t) false (lease.counted t)
  | stabilised {snapshot t} (watching : lease.watching) (gap : SampleGap lease.lastSampleNs t)
      (system : smcBaselineIsSystem snapshot = true)
      (enough : lease.samples + 1 ≥ requiredSamples)
      (span : t - lease.observationStartedNs ≥ baselineNs) :
      Effect lease (.sample .ok snapshot t) false (lease.stabilised t)
  | claimed {owner t snapshot} (state : lease.state = .stable) (nonzero : owner ≠ 0)
      (fresh : lease.lastSampleNs.toNat ≤ t.toNat)
      (age : t.toNat ≤ lease.lastSampleNs.toNat + 2000000000)
      (deadline : (t + ttlNs).toNat = t.toNat + 15000000000)
      (system : smcBaselineIsSystem snapshot = true) (cool : coolEnough snapshot = true) :
      Effect lease (.claim owner t true .clear .ok snapshot) true
        { lease with state := .held, owner := owner, lastSampleNs := t,
                     expiresAtNs := t + ttlNs, writePending := false }
  | marked {t} (state : lease.state = .held) (fresh : lease.lastSampleNs.toNat ≤ t.toNat)
      (live : t.toNat < lease.expiresAtNs.toNat) :
      Effect lease (.markWritePending lease.owner t .pending) true
        { lease with writePending := true }
  | prepared (state : lease.state = .held) :
      Effect lease .preparePersistentIntent true { lease with recoveryVerified := false }
  | renewed {t intent snapshot} (state : lease.state = .held)
      (fresh : lease.lastSampleNs.toNat ≤ t.toNat) (live : t.toNat < lease.expiresAtNs.toNat)
      (deadline : (t + ttlNs).toNat = t.toNat + 15000000000) :
      Effect lease (.renew lease.owner t intent .ok snapshot) true
        { lease with lastSampleNs := t, expiresAtNs := t + ttlNs }
  | took (state : lease.state = .stable) (proof : lease.recoveryVerified = true) :
      Effect lease .takeRecoveryProof true { lease with recoveryVerified := false }

lemma effect_start (lease : ControlLease) (intent : ControlIntentStatus)
    (result : SmcBaselineResult) (snapshot : Option SmcBaselineSnapshot) (t : UInt64) :
    Effect lease (.start intent result snapshot t) false (start intent result snapshot t) := by
  unfold start
  split_ifs with hintent hread hsystem
  · exact .restarted (.inl rfl) rfl rfl rfl rfl
  · exact .restarted (.inr rfl) rfl rfl rfl rfl
  · simp only [not_or, not_not] at hintent hread
    obtain rfl := validRead_ok hread.2
    rw [hintent]
    exact .startOpened hread.1 hsystem
  · exact .restarted (.inl rfl) rfl rfl rfl rfl

lemma effect_sample (lease : ControlLease) (result : SmcBaselineResult)
    (snapshot : Option SmcBaselineSnapshot) (t : UInt64) :
    Effect lease (.sample result snapshot t) false (lease.sample result snapshot t) := by
  unfold sample
  by_cases hstate : lease.state ≠ .observing ∧ lease.state ≠ .verifyingRecovery
  · rw [if_pos hstate]
    refine .unchanged rfl fun _ h => ?_
    rcases h with h | h <;> simp [h] at hstate
  rw [if_neg hstate]
  have hwatching : lease.watching := by unfold watching; tauto
  by_cases haccepted : lease.sampleAccepted result snapshot t = true
  · obtain ⟨rfl, hgap⟩ := sampleAccepted_gap haccepted
    rw [if_neg (not_not.mpr haccepted)]
    dsimp only
    split_ifs with hsystem hfull
    · exact .stabilised hwatching hgap hsystem hfull.1 hfull.2
    · exact .counted hwatching hgap hsystem hfull
    · exact .changed hwatching hgap
  · rw [if_pos haccepted]
    refine .failed rfl ?_
    rcases hwatching with h | h <;> simp [h]

lemma effect_claim (lease : ControlLease) (owner t : UInt64) (verified : Bool)
    (intent : ControlIntentStatus) (result : SmcBaselineResult)
    (snapshot : Option SmcBaselineSnapshot) :
    Effect lease (.claim owner t verified intent result snapshot)
      (lease.claim owner t verified intent result snapshot).1
      (lease.claim owner t verified intent result snapshot).2 := by
  unfold claim
  split_ifs with hstate hintent hguard hread hsystem
  · exact .unchanged rfl (by simp [LeaseOp.isSample])
  · exact .dropped rfl
  · exact .unchanged rfl (by simp [LeaseOp.isSample])
  · exact .dropped rfl
  · simp only [not_or, not_not] at hstate hintent hguard hread hsystem
    obtain ⟨rfl, howner, -, hlt, hage, hmax⟩ := hguard
    obtain rfl := validRead_ok hread
    obtain ⟨hle, hsub⟩ := toNat_sub_of_not_lt hlt
    simp only [gt_iff_lt, UInt64.lt_iff_toNat_lt, hsub, claimMaxAgeNs_toNat] at hage
    rw [hintent]
    exact .claimed hstate howner hle (by omega) (deadline_toNat hmax) hsystem.1 hsystem.2
  · exact .failed rfl (by simp [not_not.mp hstate])

lemma effect_markWritePending (lease : ControlLease) (owner t : UInt64)
    (intent : ControlIntentStatus) :
    Effect lease (.markWritePending owner t intent) (lease.markWritePending owner t intent).1
      (lease.markWritePending owner t intent).2 := by
  unfold markWritePending
  split_ifs with howner hguard
  · exact .unchanged rfl (by simp [LeaseOp.isSample])
  · exact .dropped rfl
  · simp only [not_or, not_not, ge_iff_le, UInt64.lt_iff_toNat_lt, UInt64.le_iff_toNat_le]
      at howner hguard
    obtain ⟨hstate, -, rfl⟩ := howner
    obtain ⟨rfl, hfresh, hlive⟩ := hguard
    exact .marked hstate (by omega) (by omega)

lemma effect_renew (lease : ControlLease) (owner t : UInt64) (intent : ControlIntentStatus)
    (result : SmcBaselineResult) (snapshot : Option SmcBaselineSnapshot) :
    Effect lease (.renew owner t intent result snapshot)
      (lease.renew owner t intent result snapshot).1
      (lease.renew owner t intent result snapshot).2 := by
  unfold renew
  generalize (if lease.writePending then ControlIntentStatus.pending else .clear) = expected
  split_ifs with howner hguard
  · exact .unchanged rfl (by simp [LeaseOp.isSample])
  · exact .dropped rfl
  · simp only [not_or, not_not] at howner
    rw [not_or, not_or, not_or, not_or, not_or] at hguard
    obtain ⟨hstate, -, rfl⟩ := howner
    obtain ⟨-, hfresh, hlive, hmax, hread, -⟩ := hguard
    obtain rfl := validRead_ok (not_not.mp hread)
    rw [UInt64.lt_iff_toNat_lt] at hfresh
    rw [ge_iff_le, UInt64.le_iff_toNat_le] at hlive
    exact .renewed hstate (by omega) (by omega) (deadline_toNat hmax)

/-- One operation does one of the effects, whatever its arguments. -/
theorem effect (lease : ControlLease) (op : LeaseOp) :
    Effect lease op (lease.succeeds op) (lease.step op) := by
  cases op with
  | start intent result snapshot t => exact effect_start lease intent result snapshot t
  | sample result snapshot t => exact effect_sample lease result snapshot t
  | claim owner t verified intent result snapshot =>
    exact effect_claim lease owner t verified intent result snapshot
  | markWritePending owner t intent => exact effect_markWritePending lease owner t intent
  | preparePersistentIntent =>
    simp only [succeeds, step, call, preparePersistentIntent]
    split_ifs with h
    · exact .unchanged rfl (by simp [LeaseOp.isSample])
    · exact .prepared (by tauto)
  | renew owner t intent result snapshot =>
    exact effect_renew lease owner t intent result snapshot
  | ownerLost owner =>
    simp only [succeeds, step, call, ownerLost]
    split_ifs with h
    · exact .dropped rfl
    · exact .unchanged rfl (by simp [LeaseOp.isSample])
  | tick t =>
    simp only [succeeds, step, call, tick]
    split_ifs with h
    · exact .dropped rfl
    · exact .unchanged rfl (by simp [LeaseOp.isSample])
  | sleep =>
    simp only [succeeds, step, call, sleep]
    split_ifs with h
    · exact .dropped rfl
    · exact .unchanged rfl (by simp [LeaseOp.isSample])
  | recoveryStarted result snapshot t =>
    simp only [succeeds, step, call, recoveryStarted]
    split_ifs with hstate hread hsystem
    · exact .unchanged rfl (by simp [LeaseOp.isSample])
    · exact .failed rfl (by simp [not_not.mp hstate])
    · simp only [not_or, not_not] at hstate hread
      obtain rfl := validRead_ok hread.2
      exact .recoveryOpened hstate hread.1 hsystem
    · exact .unchanged rfl (by simp [LeaseOp.isSample])
  | takeRecoveryProof =>
    simp only [succeeds, step, call, takeRecoveryProof]
    split_ifs with h
    · exact .unchanged rfl (by simp [LeaseOp.isSample])
    · exact .took (by tauto) (by tauto)

end ControlLease
end Ventilator
