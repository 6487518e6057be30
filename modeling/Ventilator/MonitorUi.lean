import Ventilator.TrayLine

/-! What the monitoring window shows, from `MonitorUiState.kt`. How numbers and times are written
is left to the platform. -/
namespace Ventilator
open Double KotlinRead

namespace MonitorUi

inductive MonitorDisplayState
  | loading
  | running
  | stopped
  | unavailable
  | noFans
  | error
  deriving DecidableEq

structure FanUiItem where
  index : ℤ
  rpm : String
  level : Option ℤ
  state : String
  range : String
  key : String
  deriving DecidableEq

structure TemperatureUiItem where
  component : String
  key : String
  value : String
  available : Bool
  description : String
  deriving DecidableEq

structure MonitorUiState where
  displayState : MonitorDisplayState
  temperatures : List TemperatureUiItem
  fans : List FanUiItem
  refreshing : Bool
  error : Option String
  updatedAt : Option String
  trayReading : TrayReading
  deriving DecidableEq

/-- `String.format` of a double with so many places, and the format of a time. -/
structure Formats (Instant : Type) where
  fixed : ℕ → Double → String
  time : Instant → String

variable {Instant : Type} (formats : Formats Instant)

def number (places : ℕ) (value : Option Double) : String :=
  match value with
  | some value => if value.isfinite then formats.fixed places value else "—"
  | none => "—"

def temperatureItem (component key description : String)
    (reading : Option (TemperatureReading Instant)) : TemperatureUiItem :=
  let available := reading.any fun reading =>
    reading.rawKey == key && decide (reading.availability = .available)
  { component := component
    key := key
    value := if available then number formats 1 (reading.bind (·.celsius)) else "—"
    available := available
    description := description }

/-- The selected temperature of a key. -/
def selected (status : Option (StatusSnapshot Instant)) (key : String) :
    Option (TemperatureReading Instant) :=
  status.bind fun status => status.selectedTemperatures.find? fun reading => reading.rawKey == key

def temperatures (status : Option (StatusSnapshot Instant)) : List TemperatureUiItem :=
  [temperatureItem formats "CPU" "TCMz" "Максимум кристалла" (status.map (·.cpuTemperature)),
    temperatureItem formats "GPU" "Tg0D" "Датчик GPU · проверен нагрузкой"
      (selected status "Tg0D"),
    temperatureItem formats "SSD" "TH0a" "Датчик SSD · проверен нагрузкой"
      (selected status "TH0a")]

def displayState (status : Option (StatusSnapshot Instant)) (error : Option String) :
    MonitorDisplayState :=
  match status with
  | none => if error.isSome then .error else .loading
  | some status =>
    if status.declaredFanCount = some 0 then .noFans
    else if status.declaredFanCount ≠ some status.fans.length ∨
        (status.fans.any fun fan => decide (fan.availability = .unavailable)) then .unavailable
    else if status.fans.all fun fan => fan.actualRpm.any (Double.eq · (finite 0)) then .stopped
    else .running

def fanItem (fan : FanSnapshot Instant) : FanUiItem where
  index := fan.index
  rpm := if fan.availability = .available then number formats 0 fan.actualRpm else "—"
  level := fan.level
  state :=
    if fan.availability = .unavailable then "Показание недоступно"
    else if fan.actualRpm.any (Double.eq · (finite 0)) then "Остановлен"
    else "Вращается"
  range :=
    match fan.minRpm, fan.maxRpm with
    | some minimum, some maximum =>
      if lt minimum maximum then
        number formats 0 (some minimum) ++ "–" ++ number formats 0 (some maximum) ++ " RPM"
      else "Диапазон недоступен"
    | _, _ => "Диапазон недоступен"
  key := "F" ++ toString fan.index ++ "Ac"

/-- `MonitorUiMapper.map`. -/
def map (status : Option (StatusSnapshot Instant)) (refreshing : Bool) (error : Option String) :
    MonitorUiState where
  displayState := displayState status error
  temperatures := temperatures formats status
  fans := (status.elim [] (·.fans)).map (fanItem formats)
  refreshing := refreshing
  error := error
  updatedAt := status.map fun status => formats.time status.cpuTemperature.measuredAt
  trayReading := TrayReading.ofSnapshot (if error = none then status else none)

/-- What the window shows of the readings themselves. -/
structure Window where
  temperatures : List TemperatureUiItem
  fans : List FanUiItem
  updatedAt : Option String

def MonitorUiState.window (state : MonitorUiState) : Window :=
  ⟨state.temperatures, state.fans, state.updatedAt⟩

/-- The window of a snapshot, or of none. -/
def windowOf (status : Option (StatusSnapshot Instant)) : Window :=
  ⟨temperatures formats status, (status.elim [] (·.fans)).map (fanItem formats),
    status.map fun status => formats.time status.cpuTemperature.measuredAt⟩

variable {formats} {status : Option (StatusSnapshot Instant)} {refreshing : Bool}
  {error : Option String}

@[simp] lemma map_window : (map formats status refreshing error).window = windowOf formats status :=
  rfl

/-- The error state is that of an error without any reading. -/
lemma displayState_error_iff :
    displayState status error = .error ↔ status = none ∧ error ≠ none := by
  cases status with
  | none => cases error <;> simp [displayState]
  | some status =>
    simp only [displayState]
    split
    · simp
    split
    · simp
    split <;> simp

/-- An error hides every reading from the menu bar. -/
lemma trayReading_of_error (h : error ≠ none) :
    (map formats status refreshing error).trayReading = TrayReading.unknown := by
  simp only [map, if_neg h]
  rfl

end MonitorUi
end Ventilator
