import Ventilator.Binary32

/-! Four-character SMC names and types and the values read from a key, from `smc-write-trial.c`. -/
namespace Ventilator
open Double

instance neZero_two : NeZero 2 := ⟨two_ne_zero⟩

instance neZero_three : NeZero 3 := ⟨three_ne_zero⟩

instance neZero_four : NeZero 4 := ⟨four_ne_zero⟩

instance neZero_thirtyTwo : NeZero 32 := ⟨by decide⟩

/-- A four-character name or type, without its terminating zero. -/
abbrev FourChars := Vector UInt8 4

def fourChars (a b c d : Char) : FourChars := #v[a.toUInt8, b.toUInt8, c.toUInt8, d.toUInt8]

def typeFlt : FourChars := fourChars 'f' 'l' 't' ' '
def typeSp78 : FourChars := fourChars 's' 'p' '7' '8'
def typeFpe2 : FourChars := fourChars 'f' 'p' 'e' '2'
def typeUi8 : FourChars := fourChars 'u' 'i' '8' ' '
def typeUi16 : FourChars := fourChars 'u' 'i' '1' '6'
def typeUi32 : FourChars := fourChars 'u' 'i' '3' '2'

/-- `strncmp` finds the strings equal in as many characters as both lists have. -/
def sameText : List UInt8 → List UInt8 → Bool
  | a :: as, b :: bs => a == b && (a == 0 || sameText as bs)
  | _, _ => true

/-- `strncmp(actual, expected, 4) == 0`. -/
def exactType (actual expected : FourChars) : Bool := sameText actual.toList expected.toList

def fourcc (text : FourChars) : UInt32 :=
  text[0].toUInt32 <<< 24 ||| text[1].toUInt32 <<< 16 ||| text[2].toUInt32 <<< 8 |||
    text[3].toUInt32

def fourccText (value : UInt32) : FourChars :=
  #v[(value >>> 24).toUInt8, (value >>> 16).toUInt8, (value >>> 8).toUInt8, value.toUInt8]

/-- The data bytes of a request, a response or a value. -/
abbrev SmcBytes := Vector UInt8 32

def SmcBytes.zero : SmcBytes := Vector.replicate 32 0

/-- The given bytes at the beginning of zeroed memory. -/
def SmcBytes.ofList (bytes : List UInt8) : SmcBytes := Vector.ofFn fun i => bytes.getD i 0

def big16 (bytes : SmcBytes) : UInt16 := bytes[0].toUInt16 <<< 8 ||| bytes[1].toUInt16

def big32 (bytes : SmcBytes) : UInt32 :=
  bytes[0].toUInt32 <<< 24 ||| bytes[1].toUInt32 <<< 16 ||| bytes[2].toUInt32 <<< 8 |||
    bytes[3].toUInt32

def little32 (bytes : SmcBytes) : UInt32 :=
  bytes[3].toUInt32 <<< 24 ||| bytes[2].toUInt32 <<< 16 ||| bytes[1].toUInt32 <<< 8 |||
    bytes[0].toUInt32

structure SmcValue where
  size : UInt32
  type : FourChars
  bytes : SmcBytes
  deriving DecidableEq

namespace SmcValue

def zero : SmcValue := ⟨0, Vector.replicate 4 0, .zero⟩

/-- The number of a value whose type and size fit, before the check that it is finite. -/
def decode (value : SmcValue) : Option Double :=
  if exactType value.type typeFlt ∧ value.size = 4 then
    some (Binary32.toDouble (little32 value.bytes))
  else if exactType value.type typeSp78 ∧ value.size = 2 then
    some (finite ((big16 value.bytes).toInt16.toInt / 256))
  else if exactType value.type typeFpe2 ∧ value.size = 2 then
    some (finite ((big16 value.bytes).toNat / 4))
  else if exactType value.type typeUi8 ∧ value.size = 1 then
    some (finite value.bytes[0].toNat)
  else if exactType value.type typeUi16 ∧ value.size = 2 then
    some (finite (big16 value.bytes).toNat)
  else if exactType value.type typeUi32 ∧ value.size = 4 then
    some (finite (big32 value.bytes).toNat)
  else none

def readNumber (value : SmcValue) : Option Double :=
  value.decode.filter isfinite

def readUi8Exact (value : SmcValue) : Option UInt8 :=
  if value.size ≠ 1 ∨ ¬ exactType value.type typeUi8 then none else some value.bytes[0]

end SmcValue

/-- Texts without a zero that compare equal are equal. -/
lemma sameText_eq {as bs : List UInt8} (hlength : as.length = bs.length)
    (hzero : ∀ b ∈ bs, b ≠ 0) (h : sameText as bs = true) : as = bs := by
  induction as generalizing bs with
  | nil => exact (List.length_eq_zero_iff.mp hlength.symm).symm
  | cons a as ih =>
    cases bs with
    | nil => cases hlength
    | cons b bs =>
      simp only [sameText, Bool.and_eq_true, beq_iff_eq, Bool.or_eq_true] at h
      obtain ⟨rfl, hrest⟩ := h
      have hne : a ≠ 0 := hzero a (by simp)
      rw [ih (by simpa using hlength) (fun b hb => hzero b (by simp [hb]))
        (hrest.resolve_left hne)]

lemma exactType_eq {actual expected : FourChars} (hzero : ∀ b ∈ expected.toList, b ≠ 0)
    (h : exactType actual expected = true) : actual = expected := by
  have hlist : actual.toList = expected.toList := sameText_eq (by simp) hzero h
  exact Vector.toList_inj.mp hlist

end Ventilator
