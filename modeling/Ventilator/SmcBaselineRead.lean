import Ventilator.BaselineWatch
import Ventilator.SmcValue

/-! The read of the fixed keys in `SmcBaselineRead.c`. Each key is asked for once, so a machine
is what it answers for each key. -/
namespace Ventilator
open Double

/-- What the system answers one read. A call that fails answers `none`. -/
structure BaselineMachine where
  model : Option String
  version : Option String
  service : Bool
  opens : Bool
  /-- The type and the size of a key. -/
  keyInfo : FourChars → Option (UInt32 × UInt32)
  keyBytes : FourChars → Option SmcBytes

namespace BaselineMachine

def expectedEnvironment (machine : BaselineMachine) : Bool :=
  machine.model == some "Mac15,7" && machine.version == some "27.0"

def readValue (machine : BaselineMachine) (key type : FourChars) (size : UInt32) :
    Except SmcBaselineResult SmcBytes :=
  match machine.keyInfo key with
  | none => .error .readFailed
  | some (actualType, actualSize) =>
    if actualType ≠ fourcc type ∨ actualSize ≠ size then .error .unexpectedFormat
    else
      match machine.keyBytes key with
      | none => .error .readFailed
      | some bytes => .ok bytes

def readU8 (machine : BaselineMachine) (key : FourChars) : Except SmcBaselineResult UInt8 := do
  let bytes ← machine.readValue key typeUi8 1
  return bytes.get 0

def readFloat (machine : BaselineMachine) (key : FourChars) : Except SmcBaselineResult Double := do
  let bytes ← machine.readValue key typeFlt 4
  let converted := Binary32.toDouble (little32 bytes)
  if ¬ converted.isfinite then .error .unexpectedFormat else .ok converted

def readTemperature (machine : BaselineMachine) (key : FourChars) :
    Except SmcBaselineResult Double := do
  let value ← machine.readFloat key
  return if smcBaselineTemperatureValid value then value else nan

def readKeys (machine : BaselineMachine) : Except SmcBaselineResult SmcBaselineSnapshot := do
  let fanCount ← machine.readU8 (fourChars 'F' 'N' 'u' 'm')
  if fanCount ≠ 2 then .error .unexpectedFormat else
  let ftst ← machine.readU8 (fourChars 'F' 't' 's' 't')
  let mode0 ← machine.readU8 (fourChars 'F' '0' 'M' 'd')
  let mode1 ← machine.readU8 (fourChars 'F' '1' 'M' 'd')
  let target0 ← machine.readFloat (fourChars 'F' '0' 'T' 'g')
  let target1 ← machine.readFloat (fourChars 'F' '1' 'T' 'g')
  let actual0 ← machine.readFloat (fourChars 'F' '0' 'A' 'c')
  let actual1 ← machine.readFloat (fourChars 'F' '1' 'A' 'c')
  let temperature0 ← machine.readTemperature (fourChars 'T' 'C' 'M' 'z')
  let temperature1 ← machine.readTemperature (fourChars 'T' 'g' '0' 'D')
  let temperature2 ← machine.readTemperature (fourChars 'T' 'H' '0' 'a')
  return ⟨ftst, ![mode0, mode1], ![target0, target1], ![actual0, actual1],
    ![temperature0, temperature1, temperature2]⟩

/-- `smc_baseline_read`: the result, and the snapshot, which is zeroed unless all was read. -/
def smcBaselineRead (machine : BaselineMachine) : SmcBaselineResult × SmcBaselineSnapshot :=
  if ¬ machine.expectedEnvironment then (.unsupportedEnvironment, .zero)
  else if ¬ machine.service then (.openFailed, .zero)
  else if ¬ machine.opens then (.openFailed, .zero)
  else
    match machine.readKeys with
    | .ok snapshot => (.ok, snapshot)
    | .error result => (result, .zero)

end BaselineMachine

/-- What every snapshot that was read completely satisfies. -/
structure SmcBaselineSnapshot.Readable (snapshot : SmcBaselineSnapshot) : Prop where
  target : ∀ fan, (snapshot.targetRpm fan).isfinite = true
  actual : ∀ fan, (snapshot.actualRpm fan).isfinite = true
  temperatures : ∀ sensor, snapshot.temperaturesC sensor = nan ∨
    smcBaselineTemperatureValid (snapshot.temperaturesC sensor) = true

namespace BaselineMachine

/-- A step of a read that succeeded. -/
lemma bind_ok {α β : Type} {x : Except SmcBaselineResult α}
    {f : α → Except SmcBaselineResult β} {b : β} (h : x >>= f = .ok b) :
    ∃ a, x = .ok a ∧ f a = .ok b := by
  cases x with
  | error e => cases h
  | ok a => exact ⟨a, rfl, h⟩

lemma readFloat_isfinite {machine : BaselineMachine} {key : FourChars} {value : Double}
    (h : machine.readFloat key = .ok value) : value.isfinite = true := by
  obtain ⟨bytes, -, h⟩ := bind_ok h
  by_cases hfinite : (Binary32.toDouble (little32 bytes)).isfinite = true
  · simp only [hfinite, not_true_eq_false, if_false, Except.ok.injEq] at h
    rw [← h]
    exact hfinite
  · simp [hfinite] at h

lemma readTemperature_valid {machine : BaselineMachine} {key : FourChars} {value : Double}
    (h : machine.readTemperature key = .ok value) :
    value = nan ∨ smcBaselineTemperatureValid value = true := by
  obtain ⟨raw, -, h⟩ := bind_ok h
  cases h
  by_cases hvalid : smcBaselineTemperatureValid raw = true
  · exact .inr (by rw [if_pos hvalid]; exact hvalid)
  · exact .inl (if_neg hvalid)

lemma readKeys_readable {machine : BaselineMachine} {snapshot : SmcBaselineSnapshot}
    (h : machine.readKeys = .ok snapshot) : snapshot.Readable := by
  obtain ⟨fanCount, -, h⟩ := bind_ok h
  by_cases hcount : fanCount ≠ 2
  · rw [if_pos hcount] at h
    cases h
  rw [if_neg hcount] at h
  obtain ⟨ftst, -, h⟩ := bind_ok h
  obtain ⟨mode0, -, h⟩ := bind_ok h
  obtain ⟨mode1, -, h⟩ := bind_ok h
  obtain ⟨target0, htarget0, h⟩ := bind_ok h
  obtain ⟨target1, htarget1, h⟩ := bind_ok h
  obtain ⟨actual0, hactual0, h⟩ := bind_ok h
  obtain ⟨actual1, hactual1, h⟩ := bind_ok h
  obtain ⟨temperature0, htemperature0, h⟩ := bind_ok h
  obtain ⟨temperature1, htemperature1, h⟩ := bind_ok h
  obtain ⟨temperature2, htemperature2, h⟩ := bind_ok h
  cases h
  constructor
  · exact Fin.forall_fin_two.mpr ⟨readFloat_isfinite htarget0, readFloat_isfinite htarget1⟩
  · exact Fin.forall_fin_two.mpr ⟨readFloat_isfinite hactual0, readFloat_isfinite hactual1⟩
  · intro sensor
    fin_cases sensor
    · exact readTemperature_valid htemperature0
    · exact readTemperature_valid htemperature1
    · exact readTemperature_valid htemperature2

/-- A read whose steps never fail with `ok` does not either. -/
lemma bind_ne_error_ok {α β : Type} {x : Except SmcBaselineResult α}
    {f : α → Except SmcBaselineResult β} (hx : x ≠ .error .ok) (hf : ∀ a, f a ≠ .error .ok) :
    x >>= f ≠ .error .ok := by
  cases x with
  | error e =>
    intro h
    cases h
    exact hx rfl
  | ok a => exact hf a

lemma readValue_ne_error_ok (machine : BaselineMachine) (key type : FourChars) (size : UInt32) :
    machine.readValue key type size ≠ .error .ok := by
  unfold readValue
  split
  · nofun
  · split_ifs
    · nofun
    · split <;> nofun

lemma readU8_ne_error_ok (machine : BaselineMachine) (key : FourChars) :
    machine.readU8 key ≠ .error .ok :=
  bind_ne_error_ok (machine.readValue_ne_error_ok _ _ _) fun _ hread => by cases hread

lemma readFloat_ne_error_ok (machine : BaselineMachine) (key : FourChars) :
    machine.readFloat key ≠ .error .ok := by
  refine bind_ne_error_ok (machine.readValue_ne_error_ok _ _ _) fun bytes => ?_
  dsimp only
  split_ifs <;> nofun

lemma readTemperature_ne_error_ok (machine : BaselineMachine) (key : FourChars) :
    machine.readTemperature key ≠ .error .ok :=
  bind_ne_error_ok (machine.readFloat_ne_error_ok _) fun _ => nofun

lemma readKeys_ne_error_ok (machine : BaselineMachine) : machine.readKeys ≠ .error .ok := by
  refine bind_ne_error_ok (machine.readU8_ne_error_ok _) fun fanCount => ?_
  by_cases hcount : fanCount ≠ 2
  · rw [if_pos hcount]
    nofun
  rw [if_neg hcount]
  iterate 3 refine bind_ne_error_ok (machine.readU8_ne_error_ok _) fun _ => ?_
  iterate 4 refine bind_ne_error_ok (machine.readFloat_ne_error_ok _) fun _ => ?_
  iterate 3 refine bind_ne_error_ok (machine.readTemperature_ne_error_ok _) fun _ => ?_
  nofun

/-- A read that succeeds gives finite speeds, and a temperature that is plausible or a NaN. -/
lemma smcBaselineRead_readable {machine : BaselineMachine} {snapshot : SmcBaselineSnapshot}
    (h : machine.smcBaselineRead = (.ok, snapshot)) : snapshot.Readable := by
  unfold smcBaselineRead at h
  split_ifs at h <;> try cases h
  split at h
  · next s hs =>
    cases h
    exact readKeys_readable hs
  · next result hresult =>
    cases h
    exact absurd hresult machine.readKeys_ne_error_ok

end BaselineMachine
end Ventilator
