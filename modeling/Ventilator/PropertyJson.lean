import Ventilator.JsonReader
import Ventilator.PropertyValue

/-! JSON documents of one object without nesting, read as property lists. -/
namespace JsonText

mutual

/-- A plain element is written with its own text. -/
lemma JsonElement.Plain.written {element : JsonElement} (h : element.Plain) :
    Written element element.text := by
  cases element with
  | null => exact .null
  | boolean value => exact .boolean value
  | number literal => exact .number h
  | string content => exact .string (stringText_plain h)
  | array elements => exact .array (JsonElement.PlainElements.written h)
  | object members => exact .object (JsonElement.PlainMembers.written h)

lemma JsonElement.PlainElements.written {elements : List JsonElement}
    (h : JsonElement.PlainElements elements) :
    WrittenElements elements (JsonElement.elementsText elements) := by
  cases elements with
  | nil => exact .nil
  | cons element elements => exact .cons h.1.written (JsonElement.PlainElements.written h.2)

lemma JsonElement.PlainMembers.written {members : List (String × JsonElement)}
    (h : JsonElement.PlainMembers members) :
    WrittenMembers members (JsonElement.membersText members) := by
  cases members with
  | nil => exact .nil
  | cons member members =>
    obtain ⟨name, element⟩ := member
    have hmembers := WrittenMembers.cons (stringText_plain h.1) h.2.1.written
      (JsonElement.PlainMembers.written h.2.2)
    simpa [JsonElement.membersText, quoted] using hmembers

end

/-- A plain document is read back, with the newline after it. -/
theorem JsonElement.Plain.parseDocument {element : JsonElement} (h : element.Plain) :
    JsonText.parseDocument (element.text ++ ['\n']) = some element := h.written.parseDocument

namespace JsonNumber

/-- The literal of an integer, as `printf` writes it. -/
def ofInt (i : ℤ) : JsonNumber := ⟨decide (i < 0), decimal i.natAbs, []⟩

lemma ofInt_valid (i : ℤ) : (ofInt i).Valid := decimal_leading _

/-- The integer of a literal without a fraction. -/
def integer? (literal : JsonNumber) : Option ℤ :=
  if literal.fraction = [] then
    some (if literal.negative then -(ofDigits literal.whole : ℤ) else ofDigits literal.whole)
  else none

@[simp] lemma integer?_ofInt (i : ℤ) : (ofInt i).integer? = some i := by
  have hwhole : ofDigits (ofInt i).whole = i.natAbs := ofDigits_decimal _
  have hfraction : (ofInt i).fraction = [] := rfl
  rw [integer?, if_pos hfraction, hwhole]
  by_cases hneg : i < 0
  · have hnegative : (ofInt i).negative = true := decide_eq_true hneg
    rw [if_pos hnegative, Int.ofNat_natAbs_of_nonpos hneg.le, neg_neg]
  · have hnegative : ¬ (ofInt i).negative = true := by simpa [ofInt] using hneg
    rw [if_neg hnegative, Int.natAbs_of_nonneg (not_lt.mp hneg)]

end JsonNumber

/-! How long the text of an element is. -/

lemma length_boolean_text (value : Bool) : (JsonElement.boolean value).text.length ≤ 5 := by
  cases value <;> decide

/-- So many digits are enough. -/
lemma length_decimal_le {places n : ℕ} (hplaces : 0 < places) (h : n < 10 ^ places) :
    (decimal n).length ≤ places := by
  induction places generalizing n with
  | zero => exact absurd hplaces (lt_irrefl 0)
  | succ places ih =>
    rw [decimal]
    by_cases hsmall : n < 10
    · rw [dif_pos hsmall, List.length_singleton]
      exact hplaces
    · rw [dif_neg hsmall, List.length_append, List.length_singleton]
      have hpos : 0 < places := by
        rcases Nat.eq_zero_or_pos places with rfl | hpos
        · exact absurd h hsmall
        · exact hpos
      have hdiv : n / 10 < 10 ^ places := by
        rw [pow_succ] at h
        omega
      exact Nat.succ_le_succ (ih hpos hdiv)

lemma length_ofInt_text {places : ℕ} {i : ℤ} (hplaces : 0 < places) (h : i.natAbs < 10 ^ places) :
    (JsonElement.number (.ofInt i)).text.length ≤ places + 1 := by
  have hdecimal := length_decimal_le hplaces h
  have htext : (JsonElement.number (.ofInt i)).text = (JsonNumber.ofInt i).text := rfl
  rw [htext, JsonNumber.text, JsonNumber.ofInt]
  simp only [reduceIte, List.append_nil, List.length_append, List.length_map]
  by_cases hneg : i < 0
  · rw [if_pos (decide_eq_true hneg), List.length_singleton]
    omega
  · rw [if_neg (by simpa using hneg), List.length_nil]
    omega

lemma length_int32_text (n : Int32) :
    (JsonElement.number (.ofInt n.toInt)).text.length ≤ 11 := by
  have hlt := n.toInt_lt
  have hle := n.le_toInt
  exact length_ofInt_text (Nat.succ_pos 9) (by omega)

lemma length_uint32_text (n : UInt32) :
    (JsonElement.number (.ofInt n.toNat)).text.length ≤ 11 := by
  have hlt := n.toNat_lt
  exact length_ofInt_text (Nat.succ_pos 9) (by omega)

lemma length_uint64_text (n : UInt64) :
    (JsonElement.number (.ofInt n.toNat)).text.length ≤ 21 := by
  have hlt := n.toNat_lt
  exact length_ofInt_text (Nat.succ_pos 19) (by omega)

end JsonText

namespace Ventilator
open JsonText

/-- The value of an element without parts; a number with a fraction is not read here. -/
def scalar? : JsonElement → Option PropertyValue
  | .null => some .null
  | .boolean value => some (.number (.bool value))
  | .number literal => literal.integer?.map fun i => .number (.integer i)
  | .string content => some (.string content)
  | _ => none

def members? : List (String × JsonElement) → Option (List (String × PropertyValue))
  | [] => some []
  | (name, element) :: members => do
    let value ← scalar? element
    let values ← members? members
    some ((name, value) :: values)

/-- The dictionary of an object without nesting. -/
def property? : JsonElement → Option PropertyValue
  | .object members =>
    (members? members).map fun values => (PropertyDictionary.ofList values).toValue
  | element => scalar? element

/-- What `NSJSONSerialization` makes of an output. -/
def readOutput (text : List Char) : Option PropertyValue := (parseDocument text).bind property?

end Ventilator
