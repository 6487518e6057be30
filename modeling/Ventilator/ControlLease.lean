import Ventilator.SmcBaseline

/-! The control-lease reducer of `ControlLease.c`. Times are the source's `uint64_t`
nanoseconds and the sample counter is its 32-bit `unsigned`. -/
namespace Ventilator
open Double

inductive ControlIntentStatus
  | clear
  | pending
  | unknown
  deriving DecidableEq

inductive ControlLeaseState
  | observing
  | stable
  | held
  | recoveryRequired
  | verifyingRecovery
  | readFailed
  deriving DecidableEq

structure ControlLease where
  state : ControlLeaseState
  owner : UInt64
  expiresAtNs : UInt64
  observationStartedNs : UInt64
  lastSampleNs : UInt64
  samples : UInt32
  writePending : Bool
  recoveryVerified : Bool
  deriving DecidableEq

namespace ControlLease

def requiredSamples : UInt32 := 61
def baselineNs : UInt64 := 60000000000
def ttlNs : UInt64 := 15000000000
def sampleMinNs : UInt64 := 900000000
def sampleMaxNs : UInt64 := 5000000000
/-- `UINT64_C(2000000000)`, the age at which `claim` finds the last sample stale. -/
def claimMaxAgeNs : UInt64 := 2000000000
def uint64Max : UInt64 := 18446744073709551615

@[simp] lemma requiredSamples_toNat : requiredSamples.toNat = 61 := rfl
@[simp] lemma baselineNs_toNat : baselineNs.toNat = 60000000000 := rfl
@[simp] lemma ttlNs_toNat : ttlNs.toNat = 15000000000 := rfl
@[simp] lemma sampleMinNs_toNat : sampleMinNs.toNat = 900000000 := rfl
@[simp] lemma sampleMaxNs_toNat : sampleMaxNs.toNat = 5000000000 := rfl
@[simp] lemma claimMaxAgeNs_toNat : claimMaxAgeNs.toNat = 2000000000 := rfl
@[simp] lemma lastClaimNs_toNat : (uint64Max - ttlNs).toNat = 18446744058709551615 := rfl

/-- Memory as `memset(lease, 0, sizeof(*lease))` leaves it. -/
def zero : ControlLease :=
  { state := .observing, owner := 0, expiresAtNs := 0, observationStartedNs := 0,
    lastSampleNs := 0, samples := 0, writePending := false, recoveryVerified := false }

def validRead (result : SmcBaselineResult) (snapshot : Option SmcBaselineSnapshot) : Bool :=
  result == .ok && snapshot.isSome

/-- Callers test `validRead` first, so the null snapshot is never reached. -/
def coolEnough : Option SmcBaselineSnapshot → Bool
  | none => false
  | some snapshot =>
    (List.finRange 3).all fun index =>
      smcBaselineTemperatureValid (snapshot.temperaturesC index) &&
        !le (finite 75) (snapshot.temperaturesC index)

def requireRecovery (lease : ControlLease) : ControlLease :=
  { lease with state := .recoveryRequired, owner := 0, expiresAtNs := 0, recoveryVerified := false }

def start (intent : ControlIntentStatus) (result : SmcBaselineResult)
    (snapshot : Option SmcBaselineSnapshot) (nowNs : UInt64) : ControlLease :=
  if intent ≠ .clear then
    requireRecovery { zero with writePending := true }
  else if nowNs = 0 ∨ ¬ validRead result snapshot then
    { zero with state := .readFailed }
  else if ¬ smcBaselineIsSystem snapshot then
    requireRecovery zero
  else
    { zero with state := .observing, observationStartedNs := nowNs, lastSampleNs := nowNs,
                samples := 1 }

/-- The read and timing checks an observation sample must pass. -/
def sampleAccepted (lease : ControlLease) (result : SmcBaselineResult)
    (snapshot : Option SmcBaselineSnapshot) (nowNs : UInt64) : Bool :=
  !(!validRead result snapshot || decide (nowNs ≤ lease.lastSampleNs) ||
    decide (nowNs - lease.lastSampleNs < sampleMinNs) ||
    decide (nowNs - lease.lastSampleNs > sampleMaxNs))

def sample (lease : ControlLease) (result : SmcBaselineResult)
    (snapshot : Option SmcBaselineSnapshot) (nowNs : UInt64) : ControlLease :=
  if lease.state ≠ .observing ∧ lease.state ≠ .verifyingRecovery then lease
  else if ¬ lease.sampleAccepted result snapshot nowNs then { lease with state := .readFailed }
  else
    let counted := { lease with lastSampleNs := nowNs, samples := lease.samples + 1 }
    if ¬ smcBaselineIsSystem snapshot then requireRecovery counted
    else if counted.samples ≥ requiredSamples ∧
        nowNs - lease.observationStartedNs ≥ baselineNs then
      { counted with recoveryVerified := decide (lease.state = .verifyingRecovery)
                     state := .stable, writePending := false, owner := 0, expiresAtNs := 0 }
    else counted

def claim (lease : ControlLease) (owner nowNs : UInt64) (restoreProtocolVerified : Bool)
    (intent : ControlIntentStatus) (result : SmcBaselineResult)
    (snapshot : Option SmcBaselineSnapshot) : Bool × ControlLease :=
  if lease.state ≠ .stable then (false, lease)
  else if intent ≠ .clear then (false, requireRecovery lease)
  else if ¬ restoreProtocolVerified ∨ owner = 0 ∨ nowNs = 0 ∨ nowNs < lease.lastSampleNs ∨
      nowNs - lease.lastSampleNs > claimMaxAgeNs ∨ nowNs > uint64Max - ttlNs then (false, lease)
  else if ¬ validRead result snapshot then (false, { lease with state := .readFailed })
  else if ¬ smcBaselineIsSystem snapshot ∨ ¬ coolEnough snapshot then
    (false, requireRecovery lease)
  else
    (true, { lease with state := .held, owner := owner, lastSampleNs := nowNs,
                        expiresAtNs := nowNs + ttlNs, writePending := false })

def markWritePending (lease : ControlLease) (owner nowNs : UInt64)
    (intent : ControlIntentStatus) : Bool × ControlLease :=
  if lease.state ≠ .held ∨ owner = 0 ∨ owner ≠ lease.owner then (false, lease)
  else if intent ≠ .pending ∨ nowNs < lease.lastSampleNs ∨ nowNs ≥ lease.expiresAtNs then
    (false, requireRecovery lease)
  else (true, { lease with writePending := true })

def preparePersistentIntent (lease : ControlLease) : Bool × ControlLease :=
  if lease.state ≠ .held ∨ lease.owner = 0 ∨ lease.writePending then (false, lease)
  else (true, { lease with recoveryVerified := false })

def renew (lease : ControlLease) (owner nowNs : UInt64) (intent : ControlIntentStatus)
    (result : SmcBaselineResult) (snapshot : Option SmcBaselineSnapshot) :
    Bool × ControlLease :=
  if lease.state ≠ .held ∨ owner = 0 ∨ owner ≠ lease.owner then (false, lease)
  else if intent ≠ (if lease.writePending then .pending else .clear) ∨
      nowNs < lease.lastSampleNs ∨ nowNs ≥ lease.expiresAtNs ∨ nowNs > uint64Max - ttlNs ∨
      ¬ validRead result snapshot ∨ ¬ coolEnough snapshot ∨
      (lease.writePending ∧ smcBaselineIsSystem snapshot) ∨
      (¬ lease.writePending ∧ ¬ smcBaselineIsSystem snapshot) then
    (false, requireRecovery lease)
  else (true, { lease with lastSampleNs := nowNs, expiresAtNs := nowNs + ttlNs })

def ownerLost (lease : ControlLease) (owner : UInt64) : ControlLease :=
  if lease.state = .held ∧ owner ≠ 0 ∧ owner = lease.owner then requireRecovery lease else lease

def tick (lease : ControlLease) (nowNs : UInt64) : ControlLease :=
  if lease.state = .held ∧ nowNs ≥ lease.expiresAtNs then requireRecovery lease else lease

def sleep (lease : ControlLease) : ControlLease :=
  if lease.state = .held ∨ lease.state = .stable ∨ lease.state = .observing ∨
      lease.state = .verifyingRecovery then requireRecovery lease
  else lease

def recoveryStarted (lease : ControlLease) (result : SmcBaselineResult)
    (snapshot : Option SmcBaselineSnapshot) (nowNs : UInt64) : ControlLease :=
  if lease.state ≠ .recoveryRequired then lease
  else if nowNs = 0 ∨ ¬ validRead result snapshot then { lease with state := .readFailed }
  else if smcBaselineIsSystem snapshot then
    { lease with recoveryVerified := false, state := .verifyingRecovery,
                 observationStartedNs := nowNs, lastSampleNs := nowNs, samples := 1 }
  else lease

def takeRecoveryProof (lease : ControlLease) : Bool × ControlLease :=
  if lease.state ≠ .stable ∨ ¬ lease.recoveryVerified ∨ lease.writePending ∨
      lease.owner ≠ 0 ∨ lease.expiresAtNs ≠ 0 ∨ lease.samples < requiredSamples ∨
      lease.lastSampleNs < lease.observationStartedNs ∨
      lease.lastSampleNs - lease.observationStartedNs < baselineNs then (false, lease)
  else (true, { lease with recoveryVerified := false })

end ControlLease
end Ventilator
