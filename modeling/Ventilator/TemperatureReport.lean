import Ventilator.JsonReader
import Ventilator.StatusReader

/-! The enumeration of temperature keys of `smc-read.c` and the diagnostics `Main.kt` reads from
it. -/
namespace Ventilator
open Double JsonText

/-! `smc-read.c`. -/

/-- What the SMC tells in the course of an enumeration: while the keys are counted, of each index,
and while the key at an index is read. -/
structure SmcEnumeration where
  counting : SmcState
  keyAt : ℕ → Option FourChars
  reading : ℕ → SmcState

namespace StatusReader

def maxSmcKeys : UInt32 := 20000

def keyCountName : FourChars := fourChars '#' 'K' 'E' 'Y'

/-- `memcpy(memory, bytes, size)`. -/
def copyBytes (memory bytes : SmcBytes) (size : UInt32) : SmcBytes :=
  .ofFn fun i => if i.val < size.toNat then bytes[i] else memory[i]

/-- `read_key` into a value that may hold an earlier one: what was not read stays. -/
def readKeyInto (smc : SmcState) (name : FourChars) (value : SmcValue) : Bool × SmcValue :=
  match smc.keyInfo name with
  | none => (false, value)
  | some info =>
    if info.size = 0 ∨ info.size > 32 then (false, value)
    else
      match smc.bytes name info.size with
      | none => (false, ⟨info.size, info.type, value.bytes⟩)
      | some bytes => (true, ⟨info.size, info.type, copyBytes value.bytes bytes info.size⟩)

/-- `read_key_at`. -/
def readKeyAt (smc : SmcEnumeration) (index : ℕ) : Option FourChars := do
  let key ← smc.keyAt index
  if key.toList.any fun character => character < 32 || 126 < character then none else some key

/-- `\u%04x` of a byte. -/
def escapedByte (character : UInt8) : List Char :=
  ['\\', 'u', '0', '0', hexChar ⟨character.toNat / 16, by have := character.toNat_lt; omega⟩,
    hexChar ⟨character.toNat % 16, by omega⟩]

def printJsonCharacter (character : UInt8) : List Char :=
  (if character = '"'.toUInt8 ∨ character = '\\'.toUInt8 then ['\\'] else []) ++
    if character < 32 ∨ 126 < character then escapedByte character
    else [Char.ofNat character.toNat]

/-- `print_json_key`. -/
def printJsonKey (key : FourChars) : List Char :=
  '"' :: (key.toList.flatMap printJsonCharacter ++ ['"'])

/-- The `celsius` of an entry, by whether `read_key` succeeded and by the value it left. -/
def printCelsius (found : Bool) (value : SmcValue) : List Char :=
  if found && (exactType value.type typeFlt || exactType value.type typeSp78) then
    match readNumber value with
    | none => "null".toList
    | some celsius =>
      if le (finite 10) celsius && le celsius (finite 115) then printf 2 celsius
      else "null".toList
  else "null".toList

/-- The loop over the indexes, which reads every key into the same value. -/
def printEntries (smc : SmcEnumeration) : List ℕ → Bool → SmcValue → List Char
  | [], _, _ => []
  | index :: indexes, first, value =>
    match readKeyAt smc index with
    | none => printEntries smc indexes first value
    | some key =>
      if key.get 0 ≠ 'T'.toUInt8 then printEntries smc indexes first value
      else
        let read := readKeyInto (smc.reading index) key value
        (if first then [] else [',']) ++ "\x7b\"key\":".toList ++ printJsonKey key ++
          ",\"celsius\":".toList ++ printCelsius read.1 read.2 ++ ['}'] ++
          printEntries smc indexes false read.2

/-- The count, big-endian where that is plausible and else little-endian. -/
def keyCount (bytes : SmcBytes) : UInt32 :=
  if big32 bytes = 0 ∨ big32 bytes > maxSmcKeys then little32 bytes else big32 bytes

/-- `print_temperatures_json`: the line it prints. -/
def printTemperaturesJson (smc : SmcEnumeration) : List Char :=
  let read := readKeyInto smc.counting keyCountName .zero
  "\x7b\"schema\":1,\"temperatures\":".toList ++
    if ¬ read.1 ∨ read.2.size < 4 then "null\x7d\n".toList
    else
      let count := keyCount read.2.bytes
      if count = 0 ∨ count > maxSmcKeys then "null\x7d\n".toList
      else '[' :: printEntries smc (List.range count.toNat) true read.2 ++ "]\x7d\n".toList

end StatusReader

/-! `Main.kt`. -/
namespace KotlinRead

variable {Instant : Type}

structure DiagnosticsSnapshot (Instant : Type) where
  temperatures : Option (List (TemperatureReading Instant))
  measuredAt : Instant

/-- `parseDiagnostics`, with the library's reader of JSON. -/
def parseDiagnostics (parseToJsonElement : List Char → Option JsonElement)
    (conversions : Conversions) (measuredAt : Instant) (json : List Char) :
    Option (DiagnosticsSnapshot Instant) := do
  let root ← jsonObject (← parseToJsonElement json)
  let schema ← (← jsonPrimitive (← getValue root "schema")).intOrNull conversions
  if schema ≠ 1 then none
  else
    match ← getValue root "temperatures" with
    | .null => some ⟨none, measuredAt⟩
    | temperatures =>
      let elements ← jsonArray temperatures
      let readings ← elements.mapM (parseTemperature conversions measuredAt)
      some ⟨some readings, measuredAt⟩

end KotlinRead
end Ventilator
