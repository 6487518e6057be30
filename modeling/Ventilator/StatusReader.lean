import Ventilator.JsonText
import Ventilator.SmcTransport

/-! The status line of `smc-read.c` and the snapshot `Main.kt` reads from it. -/
namespace Ventilator
open Double JsonText

/-! `smc-read.c`. -/

/-- What the SMC tells of each key, and the data bytes it gives for a size. -/
structure SmcState where
  keyInfo : FourChars → Option SmcKeyInfo
  bytes : FourChars → UInt32 → Option SmcBytes

namespace StatusReader

/-- `printf` of a double with so many places; it rounds the exact value, ties to even. -/
def printf (places : ℕ) : Double → List Char
  | .finite q => fixedPoint (decide (q < 0)) (Binary32.roundHalfEven (|q| * 10 ^ places))
  | .negZero => fixedPoint true 0
  | .inf negative => if negative then "-inf".toList else "inf".toList
  | .nan => "nan".toList
where
  fixedPoint (negative : Bool) (scaled : ℕ) : List Char :=
    (if negative then ['-'] else []) ++ (decimal (scaled / 10 ^ places)).map digitChar ++
      if places = 0 then []
      else '.' :: (padded places (scaled % 10 ^ places)).map digitChar

def readKey (smc : SmcState) (name : FourChars) : Option SmcValue := do
  let info ← smc.keyInfo name
  if info.size = 0 ∨ info.size > 32 then none
  else
    let bytes ← smc.bytes name info.size
    some ⟨info.size, info.type, .ofList (bytes.toList.take info.size.toNat)⟩

/-- The number of a value whose type and size fit, before the check that it is finite. -/
def decode (value : SmcValue) : Option Double :=
  if exactType value.type typeFlt ∧ 4 ≤ value.size then
    some (Binary32.toDouble (little32 value.bytes))
  else if exactType value.type typeSp78 ∧ 2 ≤ value.size then
    some (finite ((big16 value.bytes).toInt16.toInt / 256))
  else if exactType value.type typeFpe2 ∧ 2 ≤ value.size then
    some (finite ((big16 value.bytes).toNat / 4))
  else if exactType value.type typeUi8 ∧ 1 ≤ value.size then
    some (finite (value.bytes.get 0).toNat)
  else if exactType value.type typeUi16 ∧ 2 ≤ value.size then
    some (finite (big16 value.bytes).toNat)
  else if exactType value.type typeUi32 ∧ 4 ≤ value.size then
    some (finite (big32 value.bytes).toNat)
  else none

def readNumber (value : SmcValue) : Option Double := (decode value).filter isfinite

def readFiniteNumber (smc : SmcState) (key : FourChars) : Option Double := do
  readNumber (← readKey smc key)

def printJsonNumber (smc : SmcState) (key : FourChars) (temperature : Bool) : List Char :=
  match readFiniteNumber smc key with
  | none => "null".toList
  | some number =>
    if temperature && (lt number (finite 10) || lt (finite 115) number) ||
        !temperature && lt number (finite 0) then "null".toList
    else printf 2 number

/-- `count_valid`, with the count. -/
def fanCount (smc : SmcState) : Option Double :=
  (readFiniteNumber smc keyFNum).filter fun count =>
    le (finite 0) count && le count (finite 10) && decide ((⌊count.value⌋ : ℚ) = count.value)

/-- `(unsigned)fan_count`. -/
def fans (count : Double) : ℕ := ⌊count.value⌋₊

def fanKeyAt (fan : ℕ) (a b : Char) : FourChars := fourChars 'F' (Char.ofNat (48 + fan)) a b

def printFan (smc : SmcState) (fan : ℕ) : List Char :=
  (if fan ≠ 0 then [','] else []) ++
    "\x7b\"index\":".toList ++ (decimal fan).map digitChar ++ ",\"actual_rpm\":".toList ++
    printJsonNumber smc (fanKeyAt fan 'A' 'c') false ++ ",\"min_rpm\":".toList ++
    printJsonNumber smc (fanKeyAt fan 'M' 'n') false ++ ",\"max_rpm\":".toList ++
    printJsonNumber smc (fanKeyAt fan 'M' 'x') false ++ ['}']

def keyTCMz : FourChars := fourChars 'T' 'C' 'M' 'z'

/-- `selected`, as the keys read and as the texts printed. -/
def selected : List (FourChars × String) :=
  [(fourChars 'T' 'g' '0' 'D', "Tg0D"), (fourChars 'T' 'H' '0' 'a', "TH0a")]

def printSelected (smc : SmcState) : List Char :=
  selected.zipIdx.flatMap fun ((key, name), index) =>
    (if index ≠ 0 then [','] else []) ++ "\x7b\"key\":\"".toList ++ name.toList ++
      "\",\"celsius\":".toList ++ printJsonNumber smc key true ++ ['}']

def printCount (smc : SmcState) : List Char :=
  match fanCount smc with
  | some count => printf 0 count
  | none => "null".toList

def printFans (smc : SmcState) : List Char :=
  match fanCount smc with
  | some count => (List.range (fans count)).flatMap (printFan smc)
  | none => []

/-- `print_status_json`: the line it prints. -/
def printStatusJson (smc : SmcState) : List Char :=
  "\x7b\"schema\":1,\"fan_count\":".toList ++ printCount smc ++ ",\"fans\":[".toList ++
    printFans smc ++ "],\"cpu_key\":\"TCMz\",\"cpu_temp_c\":".toList ++
    printJsonNumber smc keyTCMz true ++ ",\"selected_temperatures\":[".toList ++
    printSelected smc ++ [']'] ++ ['}', '\n']

end StatusReader

/-! `Main.kt` and `Readings.kt`, over the elements of a document. A function that throws gives no
result. -/
namespace KotlinRead

inductive JsonPrimitive
  | null
  | boolean (value : Bool)
  | number (literal : JsonNumber)
  | string (content : String)

/-- What Kotlin makes of the text of a number: the nearest double, and the numbers in quotes. -/
structure Conversions where
  round : ℚ → Double
  quotedInt : String → Option ℤ
  quotedDouble : String → Option Double

def negate : Double → Double
  | .finite q => if q = 0 then .negZero else .finite (-q)
  | .negZero => .finite 0
  | .inf negative => .inf !negative
  | .nan => .nan

def signed (negative : Bool) (x : Double) : Double := if negative then negate x else x

def jsonPrimitive : JsonElement → Option JsonPrimitive
  | .null => some .null
  | .boolean value => some (.boolean value)
  | .number literal => some (.number literal)
  | .string content => some (.string content)
  | _ => none

def jsonObject : JsonElement → Option (List (String × JsonElement))
  | .object members => some members
  | _ => none

def jsonArray : JsonElement → Option (List JsonElement)
  | .array elements => some elements
  | _ => none

/-- The last member of the name, as a map keeps it. -/
def getValue (members : List (String × JsonElement)) (name : String) : Option JsonElement :=
  (members.reverse.find? fun member => member.1 == name).map (·.2)

namespace JsonPrimitive

def content : JsonPrimitive → String
  | null => "null"
  | boolean value => if value then "true" else "false"
  | number literal => String.ofList literal.text
  | string content => content

def intOrNull (conversions : Conversions) : JsonPrimitive → Option ℤ
  | number literal =>
    let value : ℤ := if literal.negative then -ofDigits literal.whole else ofDigits literal.whole
    if literal.fraction = [] ∧ -2 ^ 31 ≤ value ∧ value < 2 ^ 31 then some value else none
  | string content => conversions.quotedInt content
  | _ => none

def doubleOrNull (conversions : Conversions) : JsonPrimitive → Option Double
  | number literal => some (signed literal.negative (conversions.round literal.magnitude))
  | string content => conversions.quotedDouble content
  | _ => none

end JsonPrimitive

inductive LabelConfidence
  | observedOnMac15_7
  | rawKeyOnly
  deriving DecidableEq

variable {Instant : Type}

/-- A `FanSnapshot`, with what its `init` requires. -/
structure FanSnapshot (Instant : Type) where
  index : ℤ
  actualRpm : Option Double
  minRpm : Option Double
  maxRpm : Option Double
  measuredAt : Instant
  index_valid : 0 ≤ index ∧ index ≤ 9

structure TemperatureReading (Instant : Type) where
  rawKey : String
  celsius : Option Double
  measuredAt : Instant
  labelConfidence : LabelConfidence

structure StatusSnapshot (Instant : Type) where
  declaredFanCount : Option ℤ
  fans : List (FanSnapshot Instant)
  cpuTemperature : TemperatureReading Instant
  selectedTemperatures : List (TemperatureReading Instant)

def temperatureInRange (x : Double) : Bool :=
  x.isfinite && le (finite 10) x && le x (finite 115)

def rpmInRange (x : Double) : Bool := x.isfinite && le (finite 0) x

/-- `String.length`, in UTF-16 units. -/
def length (text : String) : ℕ :=
  (text.toList.map fun c => if c.toNat < 0x10000 then 1 else 2).sum

def temperatureLabel (key : String) : LabelConfidence :=
  if key = "Tg0D" ∨ key = "TH0a" then .observedOnMac15_7 else .rawKeyOnly

def parseTemperature (conversions : Conversions) (measuredAt : Instant) (element : JsonElement) :
    Option (TemperatureReading Instant) := do
  let entry ← jsonObject element
  let key := (← jsonPrimitive (← getValue entry "key")).content
  if ¬ (length key = 4 ∧ key.toList.head? = some 'T') then none
  else
    let celsius ← jsonPrimitive (← getValue entry "celsius")
    some { rawKey := key
           celsius := (celsius.doubleOrNull conversions).filter temperatureInRange
           measuredAt := measuredAt
           labelConfidence := temperatureLabel key }

/-- An RPM of a fan's object. -/
def parseRpm (conversions : Conversions) (fan : List (String × JsonElement)) (name : String) :
    Option (Option Double) := do
  let rpm ← jsonPrimitive (← getValue fan name)
  some ((rpm.doubleOrNull conversions).filter rpmInRange)

def parseFan (conversions : Conversions) (measuredAt : Instant) (element : JsonElement) :
    Option (FanSnapshot Instant) := do
  let fan ← jsonObject element
  let index ← (← jsonPrimitive (← getValue fan "index")).intOrNull conversions
  let actualRpm ← parseRpm conversions fan "actual_rpm"
  let minRpm ← parseRpm conversions fan "min_rpm"
  let maxRpm ← parseRpm conversions fan "max_rpm"
  if h : 0 ≤ index ∧ index ≤ 9 then some ⟨index, actualRpm, minRpm, maxRpm, measuredAt, h⟩
  else none

/-- `parseSnapshot`, from the element of its document. -/
def parseSnapshot (conversions : Conversions) (measuredAt : Instant) (document : JsonElement) :
    Option (StatusSnapshot Instant) := do
  let root ← jsonObject document
  let schema ← (← jsonPrimitive (← getValue root "schema")).intOrNull conversions
  if schema ≠ 1 then none
  else
    let cpuKey ← jsonPrimitive (← getValue root "cpu_key")
    if cpuKey.content ≠ "TCMz" then none
    else
      let declaredFanCount ← jsonPrimitive (← getValue root "fan_count")
      let elements ← jsonArray (← getValue root "fans")
      let fans ← elements.mapM (parseFan conversions measuredAt)
      let cpu ← jsonPrimitive (← getValue root "cpu_temp_c")
      let selectedTemperatures ← match getValue root "selected_temperatures" with
        | none => some []
        | some selected => do (← jsonArray selected).mapM (parseTemperature conversions measuredAt)
      some { declaredFanCount := declaredFanCount.intOrNull conversions
             fans := fans
             cpuTemperature :=
              { rawKey := "TCMz"
                celsius := (cpu.doubleOrNull conversions).filter temperatureInRange
                measuredAt := measuredAt
                labelConfidence := .observedOnMac15_7 }
             selectedTemperatures := selectedTemperatures }

end KotlinRead
end Ventilator
