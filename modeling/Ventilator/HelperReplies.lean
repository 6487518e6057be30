import Ventilator.PropertyValue
import Ventilator.SmcBaselineRead
import Ventilator.BaselineWatchController

/-! The dictionaries in which the daemon describes a snapshot, from `daemon-status.m`,
`StartupAuditController.m` and `BaselineWatchController.m`, and the checks that a client makes of
them, from `HelperBaselineValidation.h`, `HelperStartupAuditValidation.h` and
`HelperWatchValidation.h`. -/
namespace Ventilator
open Double PropertyValue

def helperStatusProtocolVersion : PropertyNumber := .integer 1

/-- `HelperTemperatureValue`. -/
def helperTemperatureValue (celsius : Double) : PropertyValue :=
  if smcBaselineTemperatureValid celsius then .number (.real celsius) else .null

def helperTemperatureValueValid : PropertyValue → Bool
  | .null => true
  | .number n => smcBaselineTemperatureValid n.doubleValue
  | _ => false

def SmcBaselineResult.name : SmcBaselineResult → String
  | .ok => "ok"
  | .unsupportedEnvironment => "unsupported_environment"
  | .openFailed => "open_failed"
  | .readFailed => "read_failed"
  | .unexpectedFormat => "unexpected_format"

def BaselineWatchStatus.name : BaselineWatchStatus → String
  | .idle => "idle"
  | .running => "running"
  | .stable => "stable"
  | .changed => "changed"
  | .readFailed => "read_failed"

def ofUInt8 (n : UInt8) : PropertyValue := .number (.integer n.toNat)
def ofUInt32 (n : UInt32) : PropertyValue := .number (.integer n.toNat)
def ofUInt64 (n : UInt64) : PropertyValue := .number (.integer n.toNat)
def ofBool (b : Bool) : PropertyValue := .number (.bool b)

/-- The six entries that each of the three replies makes of a snapshot. -/
def SmcBaselineSnapshot.entries (snapshot : SmcBaselineSnapshot) :
    List (String × PropertyValue) :=
  [("baseline", ofBool (smcBaselineIsSystem snapshot)),
    ("Ftst", ofUInt8 snapshot.ftst),
    ("mode", .array [ofUInt8 (snapshot.mode 0), ofUInt8 (snapshot.mode 1)]),
    ("target_rpm", .array
      [.number (.real (snapshot.targetRpm 0)), .number (.real (snapshot.targetRpm 1))]),
    ("actual_rpm", .array
      [.number (.real (snapshot.actualRpm 0)), .number (.real (snapshot.actualRpm 1))]),
    ("temperatures_c", .array
      [helperTemperatureValue (snapshot.temperaturesC 0),
        helperTemperatureValue (snapshot.temperaturesC 1),
        helperTemperatureValue (snapshot.temperaturesC 2)])]

/-- `fetchBaselineWithReply`; the clock answers `none` if it fails. -/
def fetchBaselineReply (read : SmcBaselineResult × SmcBaselineSnapshot) (clock : Option UInt64) :
    PropertyDictionary :=
  if read.1 ≠ .ok then
    .ofList [("protocol_version", .number helperStatusProtocolVersion),
      ("available", ofBool false), ("reason", .string read.1.name)]
  else
    match clock with
    | none => .ofList [("protocol_version", .number helperStatusProtocolVersion),
      ("available", ofBool false), ("reason", .string "clock_failed")]
    | some sampled => (PropertyDictionary.ofList
        [("protocol_version", .number helperStatusProtocolVersion),
          ("available", ofBool true), ("model", .string "Mac15,7"), ("macos", .string "27.0"),
          ("sample_monotonic_ns", ofUInt64 sampled)]).setAll read.2.entries

/-- The status that `StartupAuditController` captures; `sampledAt` is 0 if the clock fails. -/
def startupAuditStatus (pid : Int32) (read : SmcBaselineResult × SmcBaselineSnapshot)
    (sampledAt : UInt64) : PropertyDictionary :=
  let result := if sampledAt = 0 then .unexpectedFormat else read.1
  let response : PropertyDictionary := .ofList
    [("protocol_version", .number helperStatusProtocolVersion),
      ("daemon_pid", .number (.integer pid.toInt)), ("control_allowed", ofBool false)]
  if result ≠ .ok then
    response.setAll [("state", .string "read_failed"), ("available", ofBool false),
      ("reason", .string result.name)]
  else
    (response.setAll
      [("state", .string
          (if smcBaselineIsSystem read.2 then "system_at_start" else "changed_at_start")),
        ("available", ofBool true), ("model", .string "Mac15,7"), ("macos", .string "27.0"),
        ("sample_monotonic_ns", ofUInt64 sampledAt)]).setAll read.2.entries

/-- `statusLocked` of `BaselineWatchController`. -/
def BaselineWatchController.statusReply (controller : BaselineWatchController) (pid : Int32) :
    PropertyDictionary :=
  let watch := controller.watch
  let response : PropertyDictionary := .ofList
    [("protocol_version", .number helperStatusProtocolVersion),
      ("state", .string watch.status.name), ("samples", ofUInt32 watch.samples),
      ("last_second", ofUInt32 watch.lastSecond), ("daemon_pid", .number (.integer pid.toInt)),
      ("started_monotonic_ns", ofUInt64 controller.startedAt),
      ("last_sample_monotonic_ns", ofUInt64 controller.lastSampleAt)]
  let response :=
    if watch.status = .readFailed then
      response.set "reason" (.string
        (if watch.timingFailed then "sample_gap" else watch.lastReadResult.name))
    else response
  if 0 < watch.samples ∧ watch.status ≠ .readFailed then response.setAll watch.latest.entries
  else response

/-- One fan as both validators check it: whether it is in system mode, or a refusal. -/
def fanBaseline : PropertyValue → PropertyValue → PropertyValue → Option Bool
  | .number mode, .number target, .number actual =>
    let goal := target.doubleValue
    let rpm := actual.doubleValue
    if ¬ goal.isfinite ∨ ¬ rpm.isfinite ∨ lt goal (finite 0) ∨ lt rpm (finite 0) then none
    else some (mode.unsignedLongLongValue == 3 && le (fabs goal) (finite 1))
  | _, _, _ => none

/-- The part of both validators that looks at the entries of a snapshot: the baseline these
amount to, or a refusal. -/
def describedBaseline (result : PropertyDictionary) : Option Bool :=
  match number? (result.get "Ftst"), array? (result.get "mode"), array? (result.get "target_rpm"),
      array? (result.get "actual_rpm"), array? (result.get "temperatures_c") with
  | some ftst, some [mode0, mode1], some [target0, target1], some [actual0, actual1],
      some [temperature0, temperature1, temperature2] =>
    match fanBaseline mode0 target0 actual0, fanBaseline mode1 target1 actual1 with
    | some fan0, some fan1 =>
      if helperTemperatureValueValid temperature0 && helperTemperatureValueValid temperature1 &&
          helperTemperatureValueValid temperature2 then
        some (ftst.unsignedLongLongValue == 0 && fan0 && fan1)
      else none
    | _, _ => none
  | _, _, _, _, _ => none

def helperBaselineResponseValid (result : PropertyDictionary) : Bool :=
  result.count == 11 &&
    isNumber (result.get "protocol_version") helperStatusProtocolVersion &&
    isNumber (result.get "available") (.bool true) &&
    isText (result.get "model") "Mac15,7" && isText (result.get "macos") "27.0" &&
    (number? (result.get "sample_monotonic_ns")).any (fun n => n.unsignedLongLongValue != 0) &&
    (describedBaseline result).any fun baseline =>
      isNumber (result.get "baseline") (.bool baseline)

def startupAuditReasons : List String :=
  ["unsupported_environment", "open_failed", "read_failed", "unexpected_format"]

def helperStartupAuditResponseValid (result : PropertyDictionary) : Bool :=
  isNumber (result.get "protocol_version") helperStatusProtocolVersion &&
    (number? (result.get "daemon_pid")).any (fun n => decide (0 < n.intValue)) &&
    isNumber (result.get "control_allowed") (.bool false) &&
    (string? (result.get "state")).any fun state =>
      if state = "read_failed" then
        result.count == 6 && isNumber (result.get "available") (.bool false) &&
          (string? (result.get "reason")).any fun reason => startupAuditReasons.contains reason
      else if state ≠ "system_at_start" ∧ state ≠ "changed_at_start" ∨ result.count ≠ 14 then false
      else
        let snapshot := ((result.remove "state").remove "daemon_pid").remove "control_allowed"
        helperBaselineResponseValid snapshot &&
          (state == "system_at_start") ==
            (number? (result.get "baseline")).any PropertyNumber.boolValue

def helperWatchResponseValid (result : PropertyDictionary) : Bool :=
  isNumber (result.get "protocol_version") helperStatusProtocolVersion &&
    (number? (result.get "daemon_pid")).any (fun n => decide (0 < n.intValue)) &&
    (number? (result.get "started_monotonic_ns")).isSome &&
    (number? (result.get "last_sample_monotonic_ns")).isSome &&
    match string? (result.get "state"), number? (result.get "samples"),
      number? (result.get "last_second") with
    | some state, some samples, some second =>
      let samples := samples.unsignedIntValue
      let second := second.unsignedIntValue
      if state = "idle" then result.count == 7 && samples == 0 && second == 0
      else if state = "read_failed" then
        result.count == 8 && (string? (result.get "reason")).isSome &&
          decide (samples ≤ 60) && decide (second ≤ 59)
      else if ¬ (state = "running" ∨ state = "stable" ∨ state = "changed") ∨ result.count ≠ 13 ∨
          samples = 0 ∨ 61 < samples ∨ second ≠ samples - 1 then false
      else
        (describedBaseline result).any fun baseline =>
          isNumber (result.get "baseline") (.bool baseline) &&
            if state = "running" then baseline && decide (second < 60)
            else if state = "stable" then baseline && samples == 61 && second == 60
            else !baseline
    | _, _, _ => false

end Ventilator
