import Ventilator.DoubleValue

/-! Property lists: numbers, strings, arrays and dictionaries with the questions that code asks
of a value whose class it does not know. A missing value is `none`. -/
namespace Ventilator

inductive PropertyNumber
  | bool (b : Bool)
  | integer (i : ℤ)
  | real (x : Double)
  deriving DecidableEq

inductive PropertyValue
  | null
  | number (n : PropertyNumber)
  | string (text : String)
  | array (items : List PropertyValue)
  | dictionary (keys : Finset String) (value : {key // key ∈ keys} → PropertyValue)

namespace PropertyNumber

/-- The number without rounding. An infinity or a NaN has none. -/
def rational? : PropertyNumber → Option ℚ
  | bool b => some b.toNat
  | integer i => some i
  | real x => x.value?

/-- The integer a conversion truncates to, before it is cut to the width asked for. -/
def truncated (n : PropertyNumber) : ℤ :=
  let q := n.rational?.getD 0
  if q < 0 then ⌈q⌉ else ⌊q⌋

def intValue (n : PropertyNumber) : Int32 := .ofInt n.truncated

def unsignedIntValue (n : PropertyNumber) : UInt32 := .ofInt n.truncated

def unsignedLongLongValue (n : PropertyNumber) : UInt64 := .ofInt n.truncated

/-- The number as a double; an integer too large for one stays exact here. -/
def doubleValue : PropertyNumber → Double
  | bool b => .finite b.toNat
  | integer i => .finite i
  | real x => x

def boolValue (n : PropertyNumber) : Bool := n.rational? != some 0

def isBoolean : PropertyNumber → Bool
  | bool _ => true
  | _ => false

/-- Numbers are equal by value, whatever their types. -/
def isEqual (m n : PropertyNumber) : Bool :=
  match m.rational?, n.rational? with
  | some p, some q => p == q
  | none, none => m == n
  | _, _ => false

@[simp] lemma rational?_bool (b : Bool) : (bool b).rational? = some (b.toNat : ℚ) := rfl
@[simp] lemma rational?_integer (i : ℤ) : (integer i).rational? = some (i : ℚ) := rfl
@[simp] lemma rational?_real (x : Double) : (real x).rational? = x.value? := rfl
@[simp] lemma doubleValue_real (x : Double) : (real x).doubleValue = x := rfl
@[simp] lemma doubleValue_integer (i : ℤ) : (integer i).doubleValue = .finite i := rfl
@[simp] lemma isBoolean_bool (b : Bool) : (bool b).isBoolean = true := rfl
@[simp] lemma isBoolean_integer (i : ℤ) : (integer i).isBoolean = false := rfl

@[simp] lemma truncated_integer (i : ℤ) : (integer i).truncated = i := by
  by_cases h : (i : ℚ) < 0 <;> simp [truncated, h]

@[simp] lemma isEqual_self (n : PropertyNumber) : n.isEqual n = true := by
  rcases h : n.rational? with - | q <;> simp [isEqual, h]

lemma isEqual_comm (m n : PropertyNumber) : m.isEqual n = n.isEqual m := by
  unfold isEqual
  rcases m.rational? with - | p <;> rcases n.rational? with - | q <;> simp [Bool.beq_comm]

@[simp] lemma isEqual_bool (b c : Bool) : (bool b).isEqual (bool c) = (b == c) := by
  cases b <;> cases c <;> simp [isEqual]

@[simp] lemma isEqual_integer (i j : ℤ) : (integer i).isEqual (integer j) = (i == j) := by
  simp [isEqual, Bool.beq_eq_decide_eq]

@[simp] lemma boolValue_bool (b : Bool) : (bool b).boolValue = b := by
  cases b <;> simp [boolValue, rational?]

lemma unsignedLongLongValue_ofUInt8 (n : UInt8) :
    (integer n.toNat).unsignedLongLongValue = n.toUInt64 := by
  rw [unsignedLongLongValue, truncated_integer]
  apply UInt64.toNat_inj.mp
  have := n.toNat_lt
  simp [UInt64.ofInt]
  omega

lemma unsignedLongLongValue_ofUInt64 (n : UInt64) :
    (integer n.toNat).unsignedLongLongValue = n := by
  rw [unsignedLongLongValue, truncated_integer]
  apply UInt64.toNat_inj.mp
  have := n.toNat_lt
  simp only [UInt64.ofInt, UInt64.toNat_ofNat']
  omega

lemma unsignedIntValue_ofUInt32 (n : UInt32) :
    (integer n.toNat).unsignedIntValue = n := by
  rw [unsignedIntValue, truncated_integer]
  apply UInt32.toNat_inj.mp
  have := n.toNat_lt
  simp only [UInt32.ofInt, UInt32.toNat_ofNat']
  omega

lemma intValue_ofInt32 (n : Int32) : (integer n.toInt).intValue = n := by
  rw [intValue, truncated_integer, Int32.ofInt_toInt]

end PropertyNumber

namespace PropertyValue

def number? : Option PropertyValue → Option PropertyNumber
  | some (number n) => some n
  | _ => none

def string? : Option PropertyValue → Option String
  | some (string text) => some text
  | _ => none

def array? : Option PropertyValue → Option (List PropertyValue)
  | some (array items) => some items
  | _ => none

/-- The value is a string equal to this one. -/
def isText (value : Option PropertyValue) (text : String) : Bool :=
  string? value == some text

/-- The value is a number equal to this one. -/
def isNumber (value : Option PropertyValue) (n : PropertyNumber) : Bool :=
  (number? value).any (·.isEqual n)

@[simp] lemma number?_number (n : PropertyNumber) : number? (some (number n)) = some n := rfl
@[simp] lemma string?_string (text : String) : string? (some (string text)) = some text := rfl
@[simp] lemma array?_array (items : List PropertyValue) :
    array? (some (array items)) = some items := rfl
@[simp] lemma isText_string (text other : String) :
    isText (some (string text)) other = (text == other) := rfl
@[simp] lemma isNumber_number (m n : PropertyNumber) :
    isNumber (some (number m)) n = m.isEqual n := rfl

end PropertyValue

structure PropertyDictionary where
  keys : Finset String
  value : {key // key ∈ keys} → PropertyValue

namespace PropertyDictionary

def empty : PropertyDictionary := ⟨∅, fun key => absurd key.2 (Finset.notMem_empty _)⟩

def get (d : PropertyDictionary) (key : String) : Option PropertyValue :=
  if h : key ∈ d.keys then some (d.value ⟨key, h⟩) else none

def count (d : PropertyDictionary) : ℕ := d.keys.card

def set (d : PropertyDictionary) (key : String) (value : PropertyValue) : PropertyDictionary :=
  ⟨insert key d.keys, fun k =>
    if h : k.1 = key then value else d.value ⟨k.1, (Finset.mem_insert.mp k.2).resolve_left h⟩⟩

def remove (d : PropertyDictionary) (key : String) : PropertyDictionary :=
  ⟨d.keys.erase key, fun k => d.value ⟨k.1, Finset.mem_of_mem_erase k.2⟩⟩

/-- The dictionary after the entries are set in order. -/
def setAll (d : PropertyDictionary) : List (String × PropertyValue) → PropertyDictionary
  | [] => d
  | (key, value) :: entries => (d.set key value).setAll entries

def ofList (entries : List (String × PropertyValue)) : PropertyDictionary := empty.setAll entries

def toValue (d : PropertyDictionary) : PropertyValue := .dictionary d.keys d.value

@[simp] lemma keys_empty : empty.keys = ∅ := rfl

@[simp] lemma keys_set (d : PropertyDictionary) (key : String) (value : PropertyValue) :
    (d.set key value).keys = insert key d.keys := rfl

@[simp] lemma keys_remove (d : PropertyDictionary) (key : String) :
    (d.remove key).keys = d.keys.erase key := rfl

@[simp] lemma setAll_nil (d : PropertyDictionary) : d.setAll [] = d := rfl

@[simp] lemma setAll_cons (d : PropertyDictionary) (entry : String × PropertyValue)
    (entries : List (String × PropertyValue)) :
    d.setAll (entry :: entries) = (d.set entry.1 entry.2).setAll entries := rfl

@[simp] lemma get_set (d : PropertyDictionary) (key other : String) (value : PropertyValue) :
    (d.set key value).get other = if other = key then some value else d.get other := by
  by_cases h : other = key <;> simp [get, set, h]

@[simp] lemma get_remove (d : PropertyDictionary) (key other : String) :
    (d.remove key).get other = if other = key then none else d.get other := by
  by_cases h : other = key
  · simp [get, h]
  · rw [if_neg h, get, get]
    by_cases hmem : other ∈ d.keys
    · have hkept : other ∈ (d.remove key).keys := Finset.mem_erase.mpr ⟨h, hmem⟩
      rw [dif_pos hmem, dif_pos hkept]
      rfl
    · have hgone : other ∉ (d.remove key).keys := fun he => hmem (Finset.mem_of_mem_erase he)
      rw [dif_neg hmem, dif_neg hgone]

@[simp] lemma get_empty (key : String) : empty.get key = none := by
  simp [get, empty]

end PropertyDictionary

/-- The dictionary that a value is. -/
def PropertyValue.dictionary? : Option PropertyValue → Option PropertyDictionary
  | some (dictionary keys value) => some ⟨keys, value⟩
  | _ => none

@[simp] lemma PropertyDictionary.dictionary?_toValue (d : PropertyDictionary) :
    PropertyValue.dictionary? (some d.toValue) = some d := rfl

end Ventilator
