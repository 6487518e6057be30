import Ventilator.FanLevels

/-! The line the app sends to the menu bar's process: `TrayReading.kt` writes it and `accept` of
`StatusItemBridge.swift` reads it. How a double is written and read is Kotlin's and Swift's own. -/
namespace Ventilator
open Double

/-! `TrayReading.kt`. -/
namespace KotlinRead

/-- A single snapshot for the window and for the menu bar. -/
structure TrayReading where
  level : Option ℤ
  cpuCelsius : Option Double
  fan0Rpm : Option Double
  fan1Rpm : Option Double
  deriving DecidableEq

namespace TrayReading

/-- `TrayReading()`. -/
def unknown : TrayReading := ⟨none, none, none, none⟩

/-- The doubles it knows. -/
def numbers (reading : TrayReading) : List Double :=
  [reading.cpuCelsius, reading.fan0Rpm, reading.fan1Rpm].filterMap id

/-- A field, or a dash for what is not known. -/
def orDash (text : Option (List Char)) : List Char := text.getD ['-']

def fields (doubleToString : Double → List Char) (reading : TrayReading) (windowVisible : Bool) :
    List (List Char) :=
  ["snapshot".toList, orDash (reading.level.map fun level => (toString level).toList),
    orDash (reading.cpuCelsius.map doubleToString), orDash (reading.fan0Rpm.map doubleToString),
    orDash (reading.fan1Rpm.map doubleToString), if windowVisible then ['1'] else ['0']]

def wireLine (doubleToString : Double → List Char) (reading : TrayReading)
    (windowVisible : Bool) : List Char :=
  ['\t'].intercalate (reading.fields doubleToString windowVisible) ++ ['\n']

variable {Instant : Type}

/-- The speed of the first fan with the index, when it is available. -/
def rpm (snapshot : StatusSnapshot Instant) (index : ℤ) : Option Double := do
  let fan ← snapshot.fans.find? fun fan => fan.index == index
  if fan.availability = .available then fan.actualRpm else none

def cpu (snapshot : StatusSnapshot Instant) : Option Double :=
  if snapshot.cpuTemperature.availability = .available then snapshot.cpuTemperature.celsius
  else none

/-- `TrayReading.from`. -/
def ofSnapshot : Option (StatusSnapshot Instant) → TrayReading
  | none => unknown
  | some snapshot => ⟨snapshot.trayLevel, cpu snapshot, rpm snapshot 0, rpm snapshot 1⟩

end TrayReading
end KotlinRead

/-! `StatusItemBridge.swift`. -/
namespace StatusItemBridge

/-- `Int(text)`: an optional sign and digits, in 64 bits. -/
def int (text : List Char) : Option ℤ :=
  let (negative, digits) := match text with
    | '-' :: digits => (true, digits)
    | '+' :: digits => (false, digits)
    | digits => (false, digits)
  if digits.isEmpty || !digits.all Char.isDigit then none
  else
    let magnitude : ℤ := digits.foldl (fun n c => 10 * n + (c.toNat - 48)) 0
    let value := if negative then -magnitude else magnitude
    if -2 ^ 63 ≤ value ∧ value < 2 ^ 63 then some value else none

/-- What `accept` reads from a line. -/
structure Reading where
  level : Option ℤ
  temperature : Option Double
  rpms : Fin 2 → Option Double
  visible : Bool

def cpuTitle (temperature : Option Double) : String :=
  "CPU · максимум кристалла (TCMz): " ++
    ((temperature.map fun t => String.ofList (StatusReader.printf 0 t)).getD "—") ++ " °C"

def fanTitle (index : Fin 2) (rpm : Option Double) : String :=
  "Вентилятор " ++ toString index.val ++ ": " ++
    ((rpm.map fun r => String.ofList (StatusReader.printf 0 r)).getD "—") ++ " RPM"

/-- What the process keeps and shows. -/
structure Bridge where
  visible : Bool
  level : Option ℤ
  temperature : Option Double
  windowTitle : String
  cpuTitle : String
  fanTitles : Fin 2 → String

variable (double : List Char → Option Double)

def levelField (field : List Char) : Option ℤ :=
  (int field).filter fun level => decide (0 ≤ level ∧ level ≤ 5)

def temperatureField (field : List Char) : Option Double :=
  (double field).filter fun t => t.isfinite && (le (finite 10) t && le t (finite 115))

def rpmField (field : List Char) : Option Double :=
  (double field).filter fun r => r.isfinite && le (finite 0) r

/-- The guard of `accept` and the fields it reads. -/
def readLine (line : List Char) : Option Reading :=
  match line.splitOn '\t' with
  | [tag, level, temperature, rpm0, rpm1, visible] =>
    if tag = "snapshot".toList ∧ (visible = ['0'] ∨ visible = ['1']) then
      some { level := levelField level
             temperature := temperatureField double temperature
             rpms := ![rpmField double rpm0, rpmField double rpm1]
             visible := decide (visible = ['1']) }
    else none
  | _ => none

def Bridge.show (reading : Reading) : Bridge where
  visible := reading.visible
  level := reading.level
  temperature := reading.temperature
  windowTitle := if reading.visible then "Скрыть окно" else "Открыть окно"
  cpuTitle := StatusItemBridge.cpuTitle reading.temperature
  fanTitles index := fanTitle index (reading.rpms index)

def Bridge.accept (bridge : Bridge) (line : List Char) : Bridge :=
  match readLine double line with
  | none => bridge
  | some reading => .show reading

end StatusItemBridge

open KotlinRead StatusItemBridge

/-! What a tray reading holds. -/

variable {Instant : Type}

/-- The ranges of both sides: what the app knows is what the menu bar's process lets through. -/
structure KotlinRead.TrayReading.InRange (reading : TrayReading) : Prop where
  level : ∀ level, reading.level = some level → 0 ≤ level ∧ level ≤ 5
  cpu : ∀ t, reading.cpuCelsius = some t →
    (t.isfinite && (le (finite 10) t && le t (finite 115))) = true
  fan0 : ∀ r, reading.fan0Rpm = some r → (r.isfinite && le (finite 0) r) = true
  fan1 : ∀ r, reading.fan1Rpm = some r → (r.isfinite && le (finite 0) r) = true

lemma temperature_available {reading : TemperatureReading Instant} {t : Double}
    (h : reading.availability = .available) (hcelsius : reading.celsius = some t) :
    (t.isfinite && (le (finite 10) t && le t (finite 115))) = true := by
  simp only [TemperatureReading.availability, hcelsius] at h
  by_contra hout
  rw [if_neg hout] at h
  cases h

lemma cpu_inRange {snapshot : StatusSnapshot Instant} {t : Double}
    (h : TrayReading.cpu snapshot = some t) :
    (t.isfinite && (le (finite 10) t && le t (finite 115))) = true := by
  by_cases havailable : snapshot.cpuTemperature.availability = .available
  · rw [TrayReading.cpu, if_pos havailable] at h
    exact temperature_available havailable h
  · rw [TrayReading.cpu, if_neg havailable] at h
    cases h

lemma rpm_inRange {snapshot : StatusSnapshot Instant} {index : ℤ} {r : Double}
    (h : TrayReading.rpm snapshot index = some r) : (r.isfinite && le (finite 0) r) = true := by
  obtain ⟨fan, -, h⟩ := Option.bind_eq_some_iff.mp h
  by_cases havailable : fan.availability = .available
  · rw [if_pos havailable] at h
    obtain ⟨actual, hturning⟩ := FanSnapshot.available_iff.mp havailable
    obtain rfl := Option.some.inj (h.symm.trans hturning.reading)
    exact turning_iff.mpr ⟨hturning.isfinite, hturning.nonneg⟩
  · rw [if_neg havailable] at h
    cases h

lemma trayLevel_inRange {snapshot : StatusSnapshot Instant} {level : ℤ}
    (h : snapshot.trayLevel = some level) : 0 ≤ level ∧ level ≤ 5 := by
  obtain ⟨_, -, -, -, -, ⟨fan, -, hlevel⟩, -⟩ := (snapshot.trayLevel_iff level).mp h
  exact ((fan.level_iff level).mp hlevel).bounds

lemma ofSnapshot_inRange (snapshot : Option (StatusSnapshot Instant)) :
    (TrayReading.ofSnapshot snapshot).InRange := by
  cases snapshot with
  | none => constructor <;> exact nofun
  | some snapshot =>
    exact ⟨fun _ => trayLevel_inRange, fun _ => cpu_inRange, fun _ => rpm_inRange,
      fun _ => rpm_inRange⟩

/-! The fields, each read back. -/

/-- A level is written as one digit. -/
lemma level_digit {level : ℤ} (h : 0 ≤ level ∧ level ≤ 5) :
    levelField (toString level).toList = some level ∧ '\t' ∉ (toString level).toList := by
  obtain ⟨h0, h5⟩ := h
  interval_cases level <;> decide

lemma levelField_orDash {level : Option ℤ} (h : ∀ l, level = some l → 0 ≤ l ∧ l ≤ 5) :
    levelField (TrayReading.orDash (level.map fun l => (toString l).toList)) = level ∧
      '\t' ∉ TrayReading.orDash (level.map fun l => (toString l).toList) := by
  cases level with
  | none => decide
  | some l => exact level_digit (h l rfl)

variable {doubleToString : Double → List Char} {double : List Char → Option Double}

/-- A double is written without a tab and read back exactly. -/
def Exact (doubleToString : Double → List Char) (double : List Char → Option Double)
    (x : Double) : Prop :=
  double (doubleToString x) = some x ∧ '\t' ∉ doubleToString x

/-- A double, or a dash, read back through a filter it passes. -/
lemma field_orDash {known : Option Double} {guard : Double → Bool} (hdash : double ['-'] = none)
    (hexact : ∀ x, known = some x → Exact doubleToString double x)
    (hguard : ∀ x, known = some x → guard x = true) :
    (double (TrayReading.orDash (known.map doubleToString))).filter guard = known ∧
      '\t' ∉ TrayReading.orDash (known.map doubleToString) := by
  cases known with
  | none =>
    constructor
    · change (double ['-']).filter guard = none
      rw [hdash]
      rfl
    · change '\t' ∉ ['-']
      decide
  | some x =>
    obtain ⟨hread, htab⟩ := hexact x rfl
    constructor
    · change (double (doubleToString x)).filter guard = some x
      rw [hread, Option.filter_some, if_pos (hguard x rfl)]
    · exact htab

/-- A line of a reading in range is read as that reading. -/
lemma readLine_fields {reading : TrayReading} (visible : Bool) (hrange : reading.InRange)
    (hdash : double ['-'] = none)
    (hexact : ∀ x ∈ reading.numbers, Exact doubleToString double x) :
    readLine double (['\t'].intercalate (reading.fields doubleToString visible)) =
      some ⟨reading.level, reading.cpuCelsius, ![reading.fan0Rpm, reading.fan1Rpm], visible⟩ := by
  have hnumber : ∀ {known : Option Double}, known ∈
      [reading.cpuCelsius, reading.fan0Rpm, reading.fan1Rpm] → ∀ x, known = some x →
      Exact doubleToString double x := by
    rintro _ hmem x rfl
    exact hexact x (List.mem_filterMap.mpr ⟨some x, hmem, rfl⟩)
  obtain ⟨hlevel, hlevelTab⟩ := levelField_orDash hrange.level
  obtain ⟨hcpu, hcpuTab⟩ := field_orDash hdash (hnumber (by simp)) hrange.cpu
  obtain ⟨hfan0, hfan0Tab⟩ := field_orDash hdash (hnumber (by simp)) hrange.fan0
  obtain ⟨hfan1, hfan1Tab⟩ := field_orDash hdash (hnumber (by simp)) hrange.fan1
  have htabs : ∀ field ∈ reading.fields doubleToString visible, '\t' ∉ field := by
    have htag : '\t' ∉ "snapshot".toList := by decide
    have hvisible : '\t' ∉ (if visible then ['1'] else ['0']) := by cases visible <;> decide
    simp only [TrayReading.fields, List.forall_mem_cons, List.not_mem_nil, IsEmpty.forall_iff,
      implies_true, and_true]
    exact ⟨htag, hlevelTab, hcpuTab, hfan0Tab, hfan1Tab, hvisible⟩
  have hsplit := List.splitOn_intercalate '\t' htabs (by simp [TrayReading.fields])
  rw [readLine, hsplit]
  dsimp only [TrayReading.fields]
  have hguard : "snapshot".toList = "snapshot".toList ∧
      ((if visible then ['1'] else ['0']) = ['0'] ∨ (if visible then ['1'] else ['0']) = ['1']) := by
    cases visible <;> decide
  have hvisible : decide ((if visible then ['1'] else ['0']) = ['1']) = visible := by
    cases visible <;> decide
  rw [if_pos hguard, hlevel, hvisible]
  unfold temperatureField rpmField
  rw [hcpu, hfan0, hfan1]

/-- What a line must have to be read. -/
lemma readLine_malformed {line : List Char}
    (h : (line.splitOn '\t').length ≠ 6 ∨ (line.splitOn '\t')[0]? ≠ some "snapshot".toList ∨
      (line.splitOn '\t')[5]? ≠ some ['0'] ∧ (line.splitOn '\t')[5]? ≠ some ['1']) :
    readLine double line = none := by
  unfold readLine
  split
  · rename_i tag level temperature rpm0 rpm1 visible hfields
    rw [hfields] at h
    rw [if_neg]
    rintro ⟨rfl, hvisible⟩
    rcases h with hlength | htag | hshown
    · exact hlength rfl
    · exact htag rfl
    · rcases hvisible with rfl | rfl
      · exact hshown.1 rfl
      · exact hshown.2 rfl
  · rfl

/-- A line of the app shows in the menu bar exactly the reading it was written from, and a line
without six fields, the tag or a visibility shows nothing. -/
theorem tray_line_recovered (snapshot : Option (StatusSnapshot Instant)) (visible : Bool)
    (bridge : Bridge) (hdash : double ['-'] = none)
    (hexact : ∀ x ∈ (TrayReading.ofSnapshot snapshot).numbers, Exact doubleToString double x) :
    (∃ line, (TrayReading.ofSnapshot snapshot).wireLine doubleToString visible = line ++ ['\n'] ∧
      ∃ reading, readLine double line = some reading ∧ bridge.accept double line = .show reading ∧
        reading.level = (TrayReading.ofSnapshot snapshot).level ∧
        reading.temperature = (TrayReading.ofSnapshot snapshot).cpuCelsius ∧
        reading.rpms 0 = (TrayReading.ofSnapshot snapshot).fan0Rpm ∧
        reading.rpms 1 = (TrayReading.ofSnapshot snapshot).fan1Rpm ∧
        reading.visible = visible) ∧
      ∀ line : List Char,
        ((line.splitOn '\t').length ≠ 6 ∨ (line.splitOn '\t')[0]? ≠ some "snapshot".toList ∨
          (line.splitOn '\t')[5]? ≠ some ['0'] ∧ (line.splitOn '\t')[5]? ≠ some ['1']) →
        bridge.accept double line = bridge := by
  constructor
  · have hread := readLine_fields visible (ofSnapshot_inRange snapshot) hdash hexact
    refine ⟨_, rfl, _, hread, ?_, rfl, rfl, rfl, rfl, rfl⟩
    rw [Bridge.accept, hread]
  · intro line hmalformed
    rw [Bridge.accept, readLine_malformed hmalformed]

/-- A stopped fan, a fan and a sensor that tell nothing, and the text of their one number. -/
def stoppedSnapshot : StatusSnapshot Unit where
  declaredFanCount := some 2
  fans := [⟨0, some (finite 0), none, none, (), by decide⟩, ⟨1, none, none, none, (), by decide⟩]
  cpuTemperature := ⟨"TCMz", none, (), .observedOnMac15_7⟩
  selectedTemperatures := []

/-- Zero stays zero and unknown stays unknown. -/
theorem stopped_line_recovered :
    ∃ line, (TrayReading.ofSnapshot (some stoppedSnapshot)).wireLine (fun _ => "0.0".toList) true =
      line ++ ['\n'] ∧ ∃ reading, readLine (fun text =>
        if text = "0.0".toList then some (finite 0) else none) line = some reading ∧
        reading.level = none ∧ reading.rpms 0 = some (finite 0) ∧ reading.rpms 1 = none := by
  have hexact : ∀ x ∈ (TrayReading.ofSnapshot (some stoppedSnapshot)).numbers,
      Exact (fun _ => "0.0".toList)
        (fun text => if text = "0.0".toList then some (finite 0) else none) x := by
    have hnumbers : (TrayReading.ofSnapshot (some stoppedSnapshot)).numbers = [finite 0] := by
      decide
    rw [hnumbers, List.forall_mem_singleton]
    exact ⟨rfl, by decide⟩
  obtain ⟨⟨line, hline, reading, hread, -, hlevel, -, h0, h1, -⟩, -⟩ :=
    tray_line_recovered (some stoppedSnapshot) true ⟨true, none, none, "", "", fun _ => ""⟩
      (by decide) hexact
  refine ⟨line, hline, reading, hread, hlevel.trans ?_, h0.trans ?_, h1.trans ?_⟩
  · decide
  · decide
  · decide

end Ventilator
