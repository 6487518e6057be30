import Ventilator.RpmEncoding
import Ventilator.SmcBaselineRead
import Ventilator.StatusReader

/-! The decoders of the reader, the trial and the helper, which agree on every value they accept. -/
namespace Ventilator
open Double

/-! A four-character text and its number. -/

lemma fourccText_fourcc (text : FourChars) : fourccText (fourcc text) = text := by
  have hsplit : ∀ a b c d : UInt8,
      fourccText (a.toUInt32 <<< 24 ||| b.toUInt32 <<< 16 ||| c.toUInt32 <<< 8 ||| d.toUInt32) =
        #v[a, b, c, d] := by
    intro a b c d
    simp only [fourccText]
    congr
    all_goals
      apply UInt8.toBitVec_inj.mp
      apply BitVec.eq_of_getLsbD_eq
      intro i hi
      simp only [UInt32.toBitVec_or, UInt32.toBitVec_shiftLeft, UInt8.toBitVec_toUInt32,
        UInt32.toBitVec_toUInt8, UInt32.toBitVec_shiftRight, BitVec.getLsbD_or]
      interval_cases i <;> simp
  rw [fourcc, hsplit]
  ext i hi
  interval_cases i <;> rfl

/-- The helper compares the types as numbers, which is to compare the texts. -/
lemma fourcc_inj {text text' : FourChars} (h : fourcc text = fourcc text') : text = text' := by
  rw [← fourccText_fourcc text, h, fourccText_fourcc]

/-! The reader and the trial. -/

/-- The six types a number can have, each with its size. -/
def numberTypes : List (FourChars × UInt32) :=
  [(typeFlt, 4), (typeSp78, 2), (typeFpe2, 2), (typeUi8, 1), (typeUi16, 2), (typeUi32, 4)]

/-- A value the strict decoder takes has one of the types, in exactly its size. -/
lemma decode_numberTypes {value : SmcValue} {number : Double} (h : value.decode = some number) :
    (value.type, value.size) ∈ numberTypes := by
  have htyped : ∀ {expected : FourChars} {size : UInt32},
      exactType value.type expected = true ∧ value.size = size →
      (expected, size) ∈ numberTypes → (value.type, value.size) ∈ numberTypes := by
    rintro expected size ⟨htype, hsize⟩ hmem
    have hzero : ∀ b ∈ expected.toList, b ≠ 0 := by
      have hall : ∀ t ∈ numberTypes, ∀ b ∈ t.1.toList, b ≠ 0 := by decide +kernel
      exact hall _ hmem
    rw [exactType_eq hzero htype, hsize]
    exact hmem
  unfold SmcValue.decode at h
  split at h
  · exact htyped ‹_› (by decide)
  split at h
  · exact htyped ‹_› (by decide)
  split at h
  · exact htyped ‹_› (by decide)
  split at h
  · exact htyped ‹_› (by decide)
  split at h
  · exact htyped ‹_› (by decide)
  split at h
  · exact htyped ‹_› (by decide)
  · cases h

/-- On a type in its own size the lenient decoder is the strict one. -/
lemma decode_agrees {type : FourChars} {size : UInt32} (h : (type, size) ∈ numberTypes)
    (bytes : SmcBytes) :
    StatusReader.decode ⟨size, type, bytes⟩ = SmcValue.decode ⟨size, type, bytes⟩ := by
  have hchecks : ∀ typed ∈ numberTypes, ∀ expected ∈ numberTypes,
      (exactType typed.1 expected.1 = true ∧ expected.2 ≤ typed.2) =
        (exactType typed.1 expected.1 = true ∧ typed.2 = expected.2) := by
    have hall : ∀ typed ∈ numberTypes, ∀ expected ∈ numberTypes,
        (exactType typed.1 expected.1 = true ∧ expected.2 ≤ typed.2) ↔
          (exactType typed.1 expected.1 = true ∧ typed.2 = expected.2) := by decide +kernel
    exact fun typed htyped expected hexpected => propext (hall typed htyped expected hexpected)
  have hcheck := hchecks _ h
  have hfirst : bytes.get 0 = bytes[0] := rfl
  simp only [StatusReader.decode, SmcValue.decode, hfirst, hcheck (typeFlt, 4) (by decide),
    hcheck (typeSp78, 2) (by decide), hcheck (typeFpe2, 2) (by decide),
    hcheck (typeUi8, 1) (by decide), hcheck (typeUi16, 2) (by decide),
    hcheck (typeUi32, 4) (by decide)]

lemma reader_accepts {value : SmcValue} {number : Double} (h : value.readNumber = some number) :
    StatusReader.readNumber value = some number := by
  obtain ⟨hdecode, -⟩ := Option.filter_eq_some_iff.mp h
  rw [StatusReader.readNumber, decode_agrees (decode_numberTypes hdecode) value.bytes]
  exact h

/-! The helper. -/

/-- What a machine holds in a key. -/
structure BaselineMachine.Holds (machine : BaselineMachine) (key : FourChars) (value : SmcValue) :
    Prop where
  info : machine.keyInfo key = some (fourcc value.type, value.size)
  bytes : machine.keyBytes key = some value.bytes

namespace BaselineMachine.Holds

variable {machine : BaselineMachine} {key : FourChars} {value : SmcValue}

lemma readValue (h : machine.Holds key value) (type : FourChars) (size : UInt32) :
    machine.readValue key type size =
      if value.type ≠ type ∨ value.size ≠ size then .error .unexpectedFormat
      else .ok value.bytes := by
  have htypes : fourcc value.type = fourcc type ↔ value.type = type := ⟨fourcc_inj, congrArg _⟩
  simp only [BaselineMachine.readValue, h.info, h.bytes, ne_eq, htypes]

/-- The helper takes a float exactly when the trial does. -/
lemma readFloat_iff (h : machine.Holds key value) (number : Double) :
    machine.readFloat key = .ok number ↔
      value.type = typeFlt ∧ value.size = 4 ∧ value.readNumber = some number := by
  rw [readFloat, h.readValue typeFlt 4]
  by_cases hformat : value.type = typeFlt ∧ value.size = 4
  · obtain ⟨htype, hsize⟩ := hformat
    have hdecode : value.decode = some (Binary32.toDouble (little32 value.bytes)) := by
      rw [SmcValue.decode, if_pos ⟨by rw [htype]; decide, hsize⟩]
    rw [if_neg (by simp [htype, hsize]), SmcValue.readNumber, hdecode]
    change (if ¬ (Binary32.toDouble (little32 value.bytes)).isfinite then
      Except.error SmcBaselineResult.unexpectedFormat
        else .ok (Binary32.toDouble (little32 value.bytes))) = .ok number ↔ _
    by_cases hfinite : (Binary32.toDouble (little32 value.bytes)).isfinite = true
    · simp [hfinite, htype, hsize, Option.filter]
    · simp [hfinite, Option.filter]
  · rw [if_pos (by rwa [ne_eq, ne_eq, ← not_and_or])]
    exact ⟨fun hread => (by cases hread), fun h => absurd ⟨h.1, h.2.1⟩ hformat⟩

/-- The helper takes a byte exactly when the trial does. -/
lemma readU8_iff (h : machine.Holds key value) (byte : UInt8) :
    machine.readU8 key = .ok byte ↔
      value.type = typeUi8 ∧ value.size = 1 ∧ value.readNumber = some (finite byte.toNat) := by
  rw [readU8, h.readValue typeUi8 1]
  by_cases hformat : value.type = typeUi8 ∧ value.size = 1
  · obtain ⟨htype, hsize⟩ := hformat
    have hdecode : value.decode = some (finite value.bytes[0].toNat) := by
      have hflt : exactType typeUi8 typeFlt = false := by decide
      have hsp : exactType typeUi8 typeSp78 = false := by decide
      have hfpe : exactType typeUi8 typeFpe2 = false := by decide
      have hui8 : exactType typeUi8 typeUi8 = true := by decide
      simp [SmcValue.decode, htype, hsize, hflt, hsp, hfpe, hui8]
    rw [if_neg (by simp [htype, hsize]), SmcValue.readNumber, hdecode]
    change (Except.ok value.bytes[0] : Except SmcBaselineResult UInt8) = .ok byte ↔ _
    simp [htype, hsize, Option.filter, UInt8.toNat_inj]
  · rw [if_pos (by rwa [ne_eq, ne_eq, ← not_and_or])]
    exact ⟨fun hread => (by cases hread), fun h => absurd ⟨h.1, h.2.1⟩ hformat⟩

end BaselineMachine.Holds

/-- Whatever the trial's decoder accepts, the reader's accepts as the same number, and so does the
helper where it reads the format at all. -/
theorem decoders_agree {value : SmcValue} {number : Double} (h : value.readNumber = some number) :
    StatusReader.readNumber value = some number ∧
    ∀ (machine : BaselineMachine) (key : FourChars), machine.Holds key value →
      (value.type = typeFlt ∧ value.size = 4 → machine.readFloat key = .ok number) ∧
      (value.type = typeUi8 ∧ value.size = 1 →
        ∃ byte, machine.readU8 key = .ok byte ∧ number = finite byte.toNat) ∧
      (∀ other, machine.readFloat key = .ok other → other = number) ∧
      (∀ byte, machine.readU8 key = .ok byte → finite byte.toNat = number) := by
  refine ⟨reader_accepts h, fun machine key holds => ⟨?float, ?byte, ?floats, ?bytes⟩⟩
  case float => exact fun hformat => (holds.readFloat_iff number).mpr ⟨hformat.1, hformat.2, h⟩
  case byte =>
    intro hformat
    have hread : machine.readU8 key = .ok value.bytes[0] := by
      rw [BaselineMachine.readU8, holds.readValue typeUi8 1, if_neg (by simp [hformat])]
      rfl
    have hnumber := ((holds.readU8_iff _).mp hread).2.2
    exact ⟨_, hread, Option.some.inj (h.symm.trans hnumber)⟩
  case floats =>
    intro other hread
    exact Option.some.inj (((holds.readFloat_iff other).mp hread).2.2.symm.trans h)
  case bytes =>
    intro byte hread
    exact Option.some.inj (((holds.readU8_iff byte).mp hread).2.2.symm.trans h)

/-- A float of 50, as the SMC holds it in a key. -/
theorem fifty_read_alike :
    StatusReader.readNumber ⟨4, typeFlt, .ofList [0, 0, 0x48, 0x42]⟩ = some (finite 50) ∧
      (⟨none, none, false, false, fun _ => some (fourcc typeFlt, 4),
        fun _ => some (.ofList [0, 0, 0x48, 0x42])⟩ : BaselineMachine).readFloat typeFlt =
          .ok (finite 50) := by
  have hagree := @decoders_agree ⟨4, typeFlt, .ofList [0, 0, 0x48, 0x42]⟩ (finite 50)
    (by decide +kernel)
  exact ⟨hagree.1, (hagree.2 _ typeFlt ⟨rfl, rfl⟩).1 ⟨rfl, rfl⟩⟩

end Ventilator
