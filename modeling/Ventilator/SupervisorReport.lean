import Ventilator.HelperReplies

/-! The checks of the supervisor probe's marker, report and status, from
`HelperSupervisorValidation.h`. -/
namespace Ventilator
open Double PropertyValue

def pidMax : UInt64 := 2147483647

def supervisorUInt (value : Option PropertyValue) (maximum : UInt64) : Bool :=
  (number? value).any fun n =>
    !n.isBoolean && n.doubleValue.isfinite && le (finite 0) n.doubleValue &&
      decide (n.unsignedLongLongValue ≤ maximum) &&
      n.isEqual (.integer n.unsignedLongLongValue.toNat)

def supervisorBool (value : Option PropertyValue) : Bool :=
  (number? value).any (·.isBoolean)

/-- The accessors of a value that may be missing; a message to nil answers 0. -/
def intOf (value : Option PropertyValue) : Int32 := ((number? value).map (·.intValue)).getD 0

def longOf (value : Option PropertyValue) : UInt64 :=
  ((number? value).map (·.unsignedLongLongValue)).getD 0

def boolOf (value : Option PropertyValue) : Bool :=
  ((number? value).map (·.boolValue)).getD false

/-- Two values are numbers and equal. -/
def sameNumber (a b : Option PropertyValue) : Bool :=
  (number? a).any fun m => isNumber b m

def helperSupervisorCrashMarkerValid (marker : Option PropertyValue) (runner : Int32)
    (now : UInt64) : Bool :=
  (dictionary? marker).any fun marker =>
    marker.count == 5 && decide (0 < runner) &&
      supervisorUInt (marker.get "runner_pid") pidMax && intOf (marker.get "runner_pid") == runner &&
      supervisorUInt (marker.get "runner_uid") 0 &&
      supervisorUInt (marker.get "observer_pid") pidMax &&
      decide (0 < intOf (marker.get "observer_pid")) &&
      intOf (marker.get "observer_pid") != runner &&
      supervisorBool (marker.get "journal_pending") && boolOf (marker.get "journal_pending") &&
      supervisorUInt (marker.get "armed_monotonic_ns") 0xffffffffffffffff &&
      let armed := longOf (marker.get "armed_monotonic_ns")
      decide (0 < armed) && decide (armed ≤ now) && decide (now - armed ≤ 2000000000)

def reportPids : List String := ["admission_pid", "operation_pid", "recovery_pid", "observer_pid"]

/-- The loop over the pids: each that is looked at is not 0 and is none of those seen. -/
def distinctPids (report : PropertyDictionary) (resumed : Bool) (seen : List PropertyNumber) :
    List String → Bool
  | [] => true
  | key :: keys =>
    if resumed && (key == "admission_pid" || key == "operation_pid") then
      distinctPids report resumed seen keys
    else
      match number? (report.get key) with
      | none => false
      | some pid =>
        if pid.intValue = 0 ∨ seen.any (·.isEqual pid) then false
        else distinctPids report resumed (pid :: seen) keys

/-- The checks of a report that do not depend on its state. -/
def supervisorReportFields (report : PropertyDictionary) : Bool :=
  report.count == 14 && (string? (report.get "state")).isSome &&
    supervisorUInt (report.get "runner_uid") 0 &&
    supervisorUInt (report.get "runner_pid") pidMax && intOf (report.get "runner_pid") != 0 &&
    supervisorBool (report.get "resumed") && supervisorBool (report.get "journal_clear") &&
    reportPids.all (fun key => supervisorUInt (report.get key) pidMax) &&
    ["admission_samples", "recovery_samples"].all
      (fun key => supervisorUInt (report.get key) 61) &&
    ["admission_duration_ns", "recovery_duration_ns"].all
      (fun key => supervisorUInt (report.get key) 75000000000) &&
    supervisorUInt (report.get "reaped") 4

def helperSupervisorReportValid (report : Option PropertyValue) : Bool :=
  (dictionary? report).any fun report =>
    supervisorReportFields report &&
      let state := report.get "state"
      let clear := boolOf (report.get "journal_clear")
      let resumed := boolOf (report.get "resumed")
      if isText state "blocked" || isText state "pending" then
        clear == isText state "blocked" && intOf (report.get "recovery_samples") == 0 &&
          longOf (report.get "recovery_duration_ns") == 0
      else if !isText state "verified" || !clear || intOf (report.get "recovery_samples") != 61 ||
          decide (longOf (report.get "recovery_duration_ns") < 60000000000) then false
      else if resumed && (intOf (report.get "admission_pid") != 0 ||
          intOf (report.get "operation_pid") != 0 || intOf (report.get "admission_samples") != 0 ||
          longOf (report.get "admission_duration_ns") != 0 ||
          intOf (report.get "reaped") != 2) then false
      else if !resumed && (intOf (report.get "admission_samples") != 61 ||
          decide (longOf (report.get "admission_duration_ns") < 60000000000) ||
          intOf (report.get "reaped") != 4) then false
      else
        match number? (report.get "runner_pid") with
        | none => false
        | some runner => distinctPids report resumed [runner] reportPids

def supervisorReasons : List String :=
  ["permission", "signature", "launch", "exit", "contract", "output", "owner_lost", "busy"]

def helperSupervisorResponseValid (response : PropertyDictionary) : Bool :=
  isNumber (response.get "protocol_version") helperStatusProtocolVersion &&
    isText (response.get "backend") "read_only" &&
    supervisorBool (response.get "write_available") && !boolOf (response.get "write_available") &&
    supervisorUInt (response.get "daemon_pid") pidMax && intOf (response.get "daemon_pid") != 0 &&
    supervisorUInt (response.get "runner_pid") pidMax &&
    (string? (response.get "state")).any fun state =>
      if state = "interrupted" then
        response.count == 7 && decide (0 < intOf (response.get "runner_pid")) &&
          (dictionary? (response.get "crash")).any fun crash =>
            crash.count == 3 && supervisorUInt (crash.get "observer_pid") pidMax &&
              decide (0 < intOf (crash.get "observer_pid")) &&
              !sameNumber (crash.get "observer_pid") (response.get "runner_pid") &&
              !sameNumber (crash.get "observer_pid") (response.get "daemon_pid") &&
              supervisorBool (crash.get "journal_pending") &&
              boolOf (crash.get "journal_pending") &&
              supervisorUInt (crash.get "loss_duration_ns") 2000000000
      else if state = "finished" then
        response.count == 7 && helperSupervisorReportValid (response.get "report") &&
          (dictionary? (response.get "report")).any fun report =>
            sameNumber (response.get "runner_pid") (report.get "runner_pid")
      else if state = "failed" then
        response.count == 7 &&
          (string? (response.get "reason")).any fun reason => supervisorReasons.contains reason
      else if state = "running" then
        response.count == 6 && decide (0 < intOf (response.get "runner_pid"))
      else response.count == 6 && (state == "idle" || state == "cleaned")

/-! What the checks of a number say. -/
namespace PropertyNumber

lemma rational?_of_isEqual_integer {n : PropertyNumber} {i : ℤ}
    (h : n.isEqual (.integer i) = true) : n.rational? = some (i : ℚ) := by
  unfold isEqual at h
  cases hn : n.rational? with
  | none => simp [hn] at h
  | some q => simpa [hn] using h

lemma truncated_of_rational {n : PropertyNumber} {i : ℤ} (h : n.rational? = some (i : ℚ)) :
    n.truncated = i := by
  by_cases hneg : (i : ℚ) < 0 <;> simp [truncated, h, hneg]

end PropertyNumber

/-- An accepted number is a natural number in its range, and all its conversions agree. -/
lemma supervisorUInt_number {value : Option PropertyValue} {maximum : UInt64}
    (h : supervisorUInt value maximum = true) :
    ∃ n k, number? value = some n ∧ n.rational? = some ((k : ℕ) : ℚ) ∧ k ≤ maximum.toNat ∧
      n.truncated = k ∧ longOf value = UInt64.ofNat k := by
  unfold supervisorUInt at h
  cases hn : number? value with
  | none => simp [hn] at h
  | some n =>
    simp only [hn, Option.any_some, Bool.and_eq_true, decide_eq_true_eq] at h
    obtain ⟨⟨-, hle⟩, hequal⟩ := h
    have hrational := PropertyNumber.rational?_of_isEqual_integer hequal
    refine ⟨n, n.unsignedLongLongValue.toNat, rfl, by simpa using hrational,
      UInt64.le_iff_toNat_le.mp hle, PropertyNumber.truncated_of_rational hrational, ?_⟩
    simp [longOf, hn]

@[simp] lemma supervisorUInt_ofUInt64 (x maximum : UInt64) :
    supervisorUInt (some (ofUInt64 x)) maximum = decide (x ≤ maximum) := by
  have hle : le (finite 0) (finite (x.toNat : ℚ)) = true := by
    rw [le_of_isfinite rfl rfl]
    simp
  simp [supervisorUInt, ofUInt64, PropertyNumber.unsignedLongLongValue_ofUInt64, hle]

/-- A pid that is not negative passes the check. -/
lemma supervisorUInt_pid {pid : Int32} (h : 0 ≤ pid) :
    supervisorUInt (some (.number (.integer pid.toInt))) pidMax = true := by
  have hpid : 0 ≤ pid.toInt := Int32.le_iff_toInt_le.mp h
  have hlt : pid.toInt < 2 ^ 31 := pid.toInt_lt
  have hnumber : (PropertyValue.number (.integer pid.toInt)) =
      ofUInt64 (UInt64.ofNat pid.toInt.toNat) := by
    have hnat : (UInt64.ofNat pid.toInt.toNat).toNat = pid.toInt.toNat := by
      rw [UInt64.toNat_ofNat_of_lt']
      simp only [UInt64.size]
      omega
    rw [ofUInt64, hnat, Int.toNat_of_nonneg hpid]
  rw [hnumber, supervisorUInt_ofUInt64, decide_eq_true_eq, UInt64.le_iff_toNat_le,
    UInt64.toNat_ofNat_of_lt']
  · show _ ≤ 2147483647
    omega
  · simp only [UInt64.size]
    omega

@[simp] lemma intOf_pid (pid : Int32) :
    intOf (some (.number (.integer pid.toInt))) = pid :=
  PropertyNumber.intValue_ofInt32 pid

end Ventilator
