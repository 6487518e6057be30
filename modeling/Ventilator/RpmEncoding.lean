import Ventilator.WriteAllowlist

/-! The bytes `trial_encode_rpm` leaves in its caller's memory and the number they read back as. -/
namespace Ventilator
open Double

/-- The memory an encoding is written to: `output` and `output_size`. -/
structure RpmOutput where
  output : Vector UInt8 4
  outputSize : ℕ
  deriving DecidableEq

/-- The bytes of a pattern, the low one first. -/
def littleBytes (bits : UInt32) : Vector UInt8 4 :=
  #v[bits.toUInt8, (bits >>> 8).toUInt8, (bits >>> 16).toUInt8, (bits >>> 24).toUInt8]

/-- `trial_encode_rpm` with the memory it was given: whether it succeeds, and the memory after. -/
def trialEncodeRpmInto (type : FourChars) (size : UInt32) (rpm : Double) (memory : RpmOutput) :
    Bool × RpmOutput :=
  if !rpm.isfinite || lt rpm (finite 0) then (false, memory)
  else if exactType type typeFlt ∧ size = 4 then
    (true, ⟨littleBytes (Binary32.ofDouble rpm), 4⟩)
  else if exactType type typeFpe2 ∧ size = 2 ∧ le rpm (finite 16383) then
    let encoded : UInt16 := ⌊rpm.value * 4⌋₊.toUInt16
    (true, ⟨#v[(encoded >>> 8).toUInt8, encoded.toUInt8, 0, 0], 2⟩)
  else (false, memory)

/-- The bytes in use. -/
def RpmOutput.bytes (memory : RpmOutput) : List UInt8 :=
  memory.output.toList.take memory.outputSize

/-- The number `read_number` finds in a key of the type that holds the bytes. -/
def RpmOutput.readBack (type : FourChars) (memory : RpmOutput) : Option Double :=
  SmcValue.readNumber ⟨memory.outputSize.toUInt32, type, .ofList memory.bytes⟩

/-- The encoding other models use is the bytes left in memory. -/
lemma trialEncodeRpm_eq (type : FourChars) (size : UInt32) (rpm : Double) (memory : RpmOutput) :
    trialEncodeRpm type size rpm =
      if (trialEncodeRpmInto type size rpm memory).1 then
        some (trialEncodeRpmInto type size rpm memory).2.bytes
      else none := by
  unfold trialEncodeRpm trialEncodeRpmInto
  by_cases hrejected : (!rpm.isfinite || lt rpm (finite 0)) = true
  · simp only [hrejected, if_true, Bool.false_eq_true, if_false]
  by_cases hflt : exactType type typeFlt ∧ size = 4
  · simp only [hrejected, hflt, Bool.false_eq_true, if_false, and_self, if_true]
    rfl
  by_cases hfpe : exactType type typeFpe2 ∧ size = 2 ∧ le rpm (finite 16383)
  · simp only [if_neg hrejected, if_neg hflt, if_pos hfpe, if_true]
    rfl
  · simp only [if_neg hrejected, if_neg hflt, if_neg hfpe, Bool.false_eq_true, if_false]

/-! The byte orders. -/

lemma ofList_getElem (bytes : List UInt8) (i : ℕ) (h : i < 32) :
    (SmcBytes.ofList bytes)[i] = bytes.getD i 0 := by
  simp only [SmcBytes.ofList, Vector.getElem_ofFn]

lemma little32_littleBytes (bits : UInt32) :
    little32 (.ofList (littleBytes bits).toList) = bits := by
  have hjoin : little32 (.ofList (littleBytes bits).toList) =
      (bits >>> 24).toUInt8.toUInt32 <<< 24 ||| (bits >>> 16).toUInt8.toUInt32 <<< 16 |||
        (bits >>> 8).toUInt8.toUInt32 <<< 8 ||| bits.toUInt8.toUInt32 := by
    simp only [little32, ofList_getElem]
    rfl
  rw [hjoin]
  apply UInt32.toBitVec_inj.mp
  apply BitVec.eq_of_getLsbD_eq
  intro i hi
  simp only [UInt32.toBitVec_or, UInt32.toBitVec_shiftLeft, UInt8.toBitVec_toUInt32,
    UInt32.toBitVec_toUInt8, UInt32.toBitVec_shiftRight, BitVec.getLsbD_or]
  interval_cases i <;> simp

lemma big16_ofList (encoded : UInt16) :
    big16 (.ofList [(encoded >>> 8).toUInt8, encoded.toUInt8]) = encoded := by
  have hjoin : big16 (.ofList [(encoded >>> 8).toUInt8, encoded.toUInt8]) =
      (encoded >>> 8).toUInt8.toUInt16 <<< 8 ||| encoded.toUInt8.toUInt16 := by
    simp only [big16, ofList_getElem]
    rfl
  rw [hjoin]
  apply UInt16.toBitVec_inj.mp
  apply BitVec.eq_of_getLsbD_eq
  intro i hi
  simp only [UInt16.toBitVec_or, UInt16.toBitVec_shiftLeft, UInt8.toBitVec_toUInt16,
    UInt16.toBitVec_toUInt8, UInt16.toBitVec_shiftRight, BitVec.getLsbD_or]
  interval_cases i <;> simp

/-! What each type accepts. -/

lemma exactType_fpe2 {type : FourChars} (h : exactType type typeFpe2 = true) : type = typeFpe2 :=
  exactType_eq (writeType_nonzero (by simp)) h

lemma exactType_flt {type : FourChars} (h : exactType type typeFlt = true) : type = typeFlt :=
  exactType_eq (writeType_nonzero (by simp)) h

/-- A speed no type encodes. -/
lemma rejected_iff (rpm : Double) :
    (!rpm.isfinite || lt rpm (finite 0)) = true ↔ ¬ (rpm.isfinite = true ∧ 0 ≤ rpm.value) := by
  by_cases hfinite : rpm.isfinite = true
  · rw [lt_of_isfinite hfinite rfl, hfinite, value_finite, Bool.not_true, Bool.false_or,
      decide_eq_true_eq, ← not_le]
    simp only [true_and]
  · simp [hfinite]

/-- The memory after an encoding of type `fpe2`. -/
def fpe2Output (rpm : ℚ) : RpmOutput :=
  let encoded : UInt16 := ⌊rpm * 4⌋₊.toUInt16
  ⟨#v[(encoded >>> 8).toUInt8, encoded.toUInt8, 0, 0], 2⟩

lemma trialEncodeRpmInto_fpe2 (rpm : Double) (memory : RpmOutput) :
    trialEncodeRpmInto typeFpe2 2 rpm memory =
      if rpm.isfinite = true ∧ 0 ≤ rpm.value ∧ rpm.value ≤ 16383 then
        (true, fpe2Output rpm.value)
      else (false, memory) := by
  have hflt : ¬ (exactType typeFpe2 typeFlt = true ∧ (2 : UInt32) = 4) := by decide
  have hfpe : exactType typeFpe2 typeFpe2 = true := by decide
  rw [trialEncodeRpmInto, if_neg hflt, hfpe]
  by_cases hrejected : (!rpm.isfinite || lt rpm (finite 0)) = true
  · have hout := (rejected_iff rpm).mp hrejected
    rw [if_pos hrejected, if_neg fun h => hout ⟨h.1, h.2.1⟩]
  · have hin := not_not.mp (mt (rejected_iff rpm).mpr hrejected)
    rw [if_neg hrejected, le_of_isfinite hin.1 rfl]
    by_cases hmax : rpm.value ≤ 16383
    · rw [if_pos ⟨rfl, rfl, decide_eq_true hmax⟩, if_pos ⟨hin.1, hin.2, hmax⟩]
      rfl
    · rw [if_neg fun h => hmax (of_decide_eq_true h.2.2), if_neg fun h => hmax h.2.2]

lemma trialEncodeRpmInto_flt (rpm : Double) (memory : RpmOutput) :
    trialEncodeRpmInto typeFlt 4 rpm memory =
      if rpm.isfinite = true ∧ 0 ≤ rpm.value then
        (true, ⟨littleBytes (Binary32.ofDouble rpm), 4⟩)
      else (false, memory) := by
  have hflt : exactType typeFlt typeFlt = true ∧ (4 : UInt32) = 4 := by decide
  rw [trialEncodeRpmInto, if_pos hflt]
  by_cases hrejected : (!rpm.isfinite || lt rpm (finite 0)) = true
  · rw [if_pos hrejected, if_neg ((rejected_iff rpm).mp hrejected)]
  · rw [if_neg hrejected, if_pos (not_not.mp (mt (rejected_iff rpm).mpr hrejected))]

/-- What is neither a nonnegative number nor of a supported type leaves the memory alone. -/
lemma trialEncodeRpmInto_other {type : FourChars} {size : UInt32} {rpm : Double}
    (memory : RpmOutput)
    (h : supportedTargetType type size = false ∨ ¬ (rpm.isfinite = true ∧ 0 ≤ rpm.value)) :
    trialEncodeRpmInto type size rpm memory = (false, memory) := by
  rw [trialEncodeRpmInto]
  rcases h with htype | hrpm
  · simp only [supportedTargetType, Bool.or_eq_false_iff, Bool.and_eq_false_iff,
      beq_eq_false_iff_ne, ne_eq] at htype
    split
    · rfl
    rw [if_neg fun h => htype.1.elim (by simp [h.1]) fun hsize => hsize h.2,
      if_neg fun h => htype.2.elim (by simp [h.1]) fun hsize => hsize h.2.1]
  · rw [if_pos ((rejected_iff rpm).mpr hrpm)]

/-! What an encoding of type `fpe2` reads back as. -/

/-- Four times an accepted speed fits in 16 bits. -/
lemma quarters_lt {rpm : ℚ} (h : rpm ≤ 16383) : ⌊rpm * 4⌋₊ < 2 ^ 16 := by
  rcases le_total 0 rpm with h0 | h0
  · rw [Nat.floor_lt (by positivity)]
    norm_num
    linarith
  · rw [Nat.floor_of_nonpos (by linarith)]
    norm_num

lemma decode_fpe2 (bytes : SmcBytes) :
    SmcValue.decode ⟨2, typeFpe2, bytes⟩ = some (finite ((big16 bytes).toNat / 4)) := by
  have hflt : exactType typeFpe2 typeFlt = false := by decide
  have hsp : exactType typeFpe2 typeSp78 = false := by decide
  have hfpe : exactType typeFpe2 typeFpe2 = true := by decide
  simp only [SmcValue.decode, hflt, hsp, hfpe, Bool.false_eq_true, false_and, if_false, and_self,
    if_true]

lemma readBack_fpe2 {rpm : ℚ} (h : rpm ≤ 16383) :
    (fpe2Output rpm).readBack typeFpe2 = some (finite (⌊rpm * 4⌋₊ / 4)) := by
  have hbytes : big16 (.ofList (fpe2Output rpm).bytes) = ⌊rpm * 4⌋₊.toUInt16 := big16_ofList _
  have hexact : ⌊rpm * 4⌋₊.toUInt16.toNat = ⌊rpm * 4⌋₊ := by
    simpa using Nat.mod_eq_of_lt (quarters_lt h)
  change (SmcValue.decode ⟨2, typeFpe2, .ofList (fpe2Output rpm).bytes⟩).filter isfinite = _
  rw [decode_fpe2, hbytes, hexact]
  rfl

/-- What is read back is at most the speed and less than a quarter below it. -/
lemma quarters_near {rpm : ℚ} (h : 0 ≤ rpm) :
    (⌊rpm * 4⌋₊ / 4 : ℚ) ≤ rpm ∧ rpm - ⌊rpm * 4⌋₊ / 4 < 1 / 4 := by
  have hle := Nat.floor_le (show 0 ≤ rpm * 4 by positivity)
  have hlt := Nat.lt_floor_add_one (rpm * 4)
  constructor <;> linarith

lemma quarters_mono {rpm rpm' : ℚ} (h : rpm ≤ rpm') :
    (⌊rpm * 4⌋₊ / 4 : ℚ) ≤ ⌊rpm' * 4⌋₊ / 4 := by
  have hfloor : ⌊rpm * 4⌋₊ ≤ ⌊rpm' * 4⌋₊ := Nat.floor_le_floor (by linarith)
  gcongr

/-- The speed read back has the same encoding. -/
lemma fpe2Output_readBack (rpm : ℚ) : fpe2Output (⌊rpm * 4⌋₊ / 4) = fpe2Output rpm := by
  have hfloor : ⌊(⌊rpm * 4⌋₊ / 4 : ℚ) * 4⌋₊ = ⌊rpm * 4⌋₊ := by
    rw [div_mul_cancel₀ _ (by norm_num), Nat.floor_natCast]
  simp only [fpe2Output, hfloor]

lemma accepted_fpe2 {rpm : Double} {memory after : RpmOutput}
    (h : trialEncodeRpmInto typeFpe2 2 rpm memory = (true, after)) :
    0 ≤ rpm.value ∧ rpm.value ≤ 16383 ∧ after = fpe2Output rpm.value := by
  rw [trialEncodeRpmInto_fpe2] at h
  split at h
  · rename_i haccepted
    exact ⟨haccepted.2.1, haccepted.2.2, (Prod.mk.inj h).2.symm⟩
  · cases h

lemma accepted_flt {rpm : Double} {memory after : RpmOutput}
    (h : trialEncodeRpmInto typeFlt 4 rpm memory = (true, after)) :
    after = ⟨littleBytes (Binary32.ofDouble rpm), 4⟩ := by
  rw [trialEncodeRpmInto_flt] at h
  split at h
  · exact (Prod.mk.inj h).2.symm
  · cases h

/-- A refused encoding writes nothing. -/
lemma refused_unchanged {type : FourChars} {size : UInt32} {rpm : Double} {memory : RpmOutput}
    (h : (trialEncodeRpmInto type size rpm memory).1 = false) :
    trialEncodeRpmInto type size rpm memory = (false, memory) := by
  unfold trialEncodeRpmInto at h ⊢
  split
  · rfl
  split
  · rename_i hrejected hflt
    rw [if_neg hrejected, if_pos hflt] at h
    cases h
  split
  · rename_i hrejected hflt hfpe
    rw [if_neg hrejected, if_neg hflt, if_pos hfpe] at h
    cases h
  · rfl

/-- What type `fpe2` promises of an encoding that left `after`. -/
structure Fpe2Encoded (rpm : Double) (after : RpmOutput) (read : ℚ) : Prop where
  size : after.outputSize = 2
  fits : ⌊rpm.value * 4⌋₊ < 2 ^ 16
  reads : after.readBack typeFpe2 = some (finite read)
  floor : read = ⌊4 * rpm.value⌋ / 4
  below : read ≤ rpm.value
  near : rpm.value - read < 1 / 4
  again : ∀ memory, trialEncodeRpmInto typeFpe2 2 (finite read) memory = (true, after)

lemma fpe2Encoded {rpm : Double} (h0 : 0 ≤ rpm.value) (hmax : rpm.value ≤ 16383) :
    Fpe2Encoded rpm (fpe2Output rpm.value) (⌊rpm.value * 4⌋₊ / 4) where
  size := rfl
  fits := quarters_lt hmax
  reads := readBack_fpe2 hmax
  floor := by rw [natCast_floor_eq_intCast_floor (by positivity), mul_comm]
  below := (quarters_near h0).1
  near := (quarters_near h0).2
  again memory := by
    have hread : (0 : ℚ) ≤ ⌊rpm.value * 4⌋₊ / 4 := by positivity
    rw [trialEncodeRpmInto_fpe2, if_pos ⟨rfl, hread, (quarters_near h0).1.trans hmax⟩,
      value_finite, fpe2Output_readBack]

/-- `trial_encode_rpm` over every type, size and number: with type `fpe2` it accepts the speeds up
to 16383, whose bytes read back as the speed cut to a quarter, in order; with type `flt` the bytes
read back as the pattern of the float; and what it refuses leaves its memory alone. -/
theorem rpm_encoding_exact (type : FourChars) (size : UInt32) (rpm : Double)
    (memory : RpmOutput) :
    (exactType type typeFpe2 = true ∧ size = 2 →
      ((trialEncodeRpmInto type size rpm memory).1 = true ↔
        rpm.isfinite = true ∧ 0 ≤ rpm.value ∧ rpm.value ≤ 16383) ∧
      ∀ after, trialEncodeRpmInto type size rpm memory = (true, after) →
        ∃ read, Fpe2Encoded rpm after read ∧
          ∀ rpm' memory' after' read', trialEncodeRpmInto type size rpm' memory' = (true, after') →
            rpm.value ≤ rpm'.value → after'.readBack typeFpe2 = some (finite read') →
            read ≤ read') ∧
    (exactType type typeFlt = true ∧ size = 4 →
      ((trialEncodeRpmInto type size rpm memory).1 = true ↔
        rpm.isfinite = true ∧ 0 ≤ rpm.value) ∧
      ∀ after, trialEncodeRpmInto type size rpm memory = (true, after) →
        after.outputSize = 4 ∧ after.output = littleBytes (Binary32.ofDouble rpm)) ∧
    (∀ bits, little32 (.ofList (littleBytes bits).toList) = bits) ∧
    (supportedTargetType type size = false ∨ rpm.isfinite = false ∨ rpm.value < 0 →
      (trialEncodeRpmInto type size rpm memory).1 = false) ∧
    ((trialEncodeRpmInto type size rpm memory).1 = false →
      trialEncodeRpmInto type size rpm memory = (false, memory)) := by
  refine ⟨?fpe2, ?flt, little32_littleBytes, ?rejected, refused_unchanged⟩
  case fpe2 =>
    rintro ⟨htype, rfl⟩
    obtain rfl := exactType_fpe2 htype
    constructor
    · rw [trialEncodeRpmInto_fpe2]
      split <;> simp_all
    · intro after h
      obtain ⟨h0, hmax, rfl⟩ := accepted_fpe2 h
      refine ⟨_, fpe2Encoded h0 hmax, fun rpm' memory' after' read' h' hle hread => ?_⟩
      obtain ⟨h0', hmax', rfl⟩ := accepted_fpe2 h'
      rw [readBack_fpe2 hmax', Option.some.injEq, Double.finite.injEq] at hread
      rw [← hread]
      exact quarters_mono hle
  case flt =>
    rintro ⟨htype, rfl⟩
    obtain rfl := exactType_flt htype
    constructor
    · rw [trialEncodeRpmInto_flt]
      split <;> simp_all
    · intro after h
      obtain rfl := accepted_flt h
      exact ⟨rfl, rfl⟩
  case rejected =>
    intro h
    have hother : supportedTargetType type size = false ∨
        ¬ (rpm.isfinite = true ∧ 0 ≤ rpm.value) := by
      rcases h with htype | hfinite | hnegative
      · exact .inl htype
      · exact .inr fun h => by simp [hfinite] at h
      · exact .inr fun h => absurd h.2 (not_le.mpr hnegative)
    rw [trialEncodeRpmInto_other memory hother]

/-- A speed between two quarters. -/
example : (trialEncodeRpmInto typeFpe2 2 (finite (12007 / 5)) ⟨#v[9, 9, 9, 9], 0⟩) =
    (true, ⟨#v[0x25, 0x85, 0, 0], 2⟩) := by decide +kernel

end Ventilator
