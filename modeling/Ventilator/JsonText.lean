import Mathlib

/-! JSON documents without insignificant whitespace, as they are printed: the elements, their
texts, and the numbers their digits stand for. -/
namespace JsonText

abbrev Digit := Fin 10

instance neZero_ten : NeZero 10 := ⟨by decide⟩

/-- The number the digits stand for, the first the most significant. -/
def ofDigits (digits : List Digit) : ℕ := 
  digits.foldl (fun (n : ℕ) (digit : Digit) => 10 * n + digit.val) 0

def digitChar (digit : Digit) : Char := Char.ofNat (48 + digit.val)

lemma ofDigits_append_digit (digits : List Digit) (digit : Digit) :
    ofDigits (digits ++ [digit]) = 10 * ofDigits digits + digit.val := by
  rw [ofDigits, List.foldl_append]
  rfl

/-- The digits of a number, a zero for zero and no leading zero otherwise. -/
def decimal (n : ℕ) : List Digit :=
  if h : n < 10 then [⟨n, h⟩]
  else decimal (n / 10) ++ [⟨n % 10, Nat.mod_lt n (by decide)⟩]
decreasing_by omega

/-- So many last digits of a number. -/
def padded : ℕ → ℕ → List Digit
  | 0, _ => []
  | width + 1, n => padded width (n / 10) ++ [⟨n % 10, Nat.mod_lt n (by decide)⟩]

lemma ofDigits_decimal (n : ℕ) : ofDigits (decimal n) = n := by
  induction n using decimal.induct with
  | case1 n h =>
    rw [decimal, dif_pos h]
    exact Nat.zero_add n
  | case2 n h ih =>
    rw [decimal, dif_neg h, ofDigits_append_digit, ih]
    exact Nat.div_add_mod n 10

lemma decimal_leading (n : ℕ) :
    decimal n = [0] ∨ ∃ digit rest, decimal n = digit :: rest ∧ digit ≠ 0 := by
  induction n using decimal.induct with
  | case1 n h =>
    rw [decimal, dif_pos h]
    by_cases hzero : (⟨n, h⟩ : Digit) = 0
    · exact .inl (by rw [hzero])
    · exact .inr ⟨_, [], rfl, hzero⟩
  | case2 n h ih =>
    rw [decimal, dif_neg h]
    rcases ih with hzero | ⟨digit, rest, heq, hdigit⟩
    · have hvalue := ofDigits_decimal (n / 10)
      rw [hzero] at hvalue
      have hpos : 0 < n / 10 := Nat.div_pos (not_lt.mp h) (by decide)
      exact absurd hvalue.symm hpos.ne'
    · exact .inr ⟨digit, rest ++ [_], by rw [heq]; rfl, hdigit⟩

lemma length_padded (width n : ℕ) : (padded width n).length = width := by
  induction width generalizing n with
  | zero => rfl
  | succ width ih => rw [padded, List.length_append, ih, List.length_singleton]

lemma ofDigits_append_padded (digits : List Digit) (width n : ℕ) :
    ofDigits (digits ++ padded width n) = ofDigits digits * 10 ^ width + n % 10 ^ width := by
  induction width generalizing n with
  | zero => simp [padded, Nat.mod_one]
  | succ width ih =>
    rw [padded, ← List.append_assoc, ofDigits_append_digit, ih, pow_succ', Nat.mod_mul]
    ring

/-- A number literal without an exponent; no digits after the point mean no point. -/
structure JsonNumber where
  negative : Bool
  whole : List Digit
  fraction : List Digit
  deriving DecidableEq

namespace JsonNumber

/-- The digits before the point are a `0`, or do not begin with one. -/
def Valid (number : JsonNumber) : Prop :=
  number.whole = [0] ∨ ∃ digit rest, number.whole = digit :: rest ∧ digit ≠ 0

def text (number : JsonNumber) : List Char :=
  (if number.negative then ['-'] else []) ++ number.whole.map digitChar ++
    if number.fraction = [] then [] else '.' :: number.fraction.map digitChar

/-- The value without the sign. -/
def magnitude (number : JsonNumber) : ℚ :=
  ofDigits (number.whole ++ number.fraction) / 10 ^ number.fraction.length

/-- The literal of a number of units of the last of so many decimal places. -/
def fixed (negative : Bool) (places scaled : ℕ) : JsonNumber :=
  ⟨negative, decimal (scaled / 10 ^ places), padded places (scaled % 10 ^ places)⟩

lemma fixed_valid (negative : Bool) (places scaled : ℕ) : (fixed negative places scaled).Valid :=
  decimal_leading _

lemma fixed_magnitude (negative : Bool) (places scaled : ℕ) :
    (fixed negative places scaled).magnitude = scaled / 10 ^ places := by
  rw [magnitude, fixed, length_padded, ofDigits_append_padded, ofDigits_decimal, Nat.mod_mod,
    Nat.div_add_mod']

end JsonNumber

inductive JsonElement
  | null
  | boolean (value : Bool)
  | number (literal : JsonNumber)
  | string (content : String)
  | array (elements : List JsonElement)
  | object (members : List (String × JsonElement))

/-- A string of characters that need no escape. -/
def PlainString (content : String) : Prop :=
  (content.toList.all fun c => decide (0x20 ≤ c.toNat) && c != '"' && c != '\\') = true

instance (content : String) : Decidable (PlainString content) :=
  inferInstanceAs (Decidable (_ = true))

def quoted (content : String) : List Char := '"' :: content.toList ++ ['"']

namespace JsonElement

mutual

/-- The text of an element, with nothing between its tokens. -/
def text : JsonElement → List Char
  | null => "null".toList
  | boolean value => (if value then "true" else "false").toList
  | number literal => literal.text
  | string content => quoted content
  | array elements => '[' :: (elementsText elements).tail ++ [']']
  | object members => '{' :: (membersText members).tail ++ ['}']

/-- The texts of elements, each after a comma. -/
def elementsText : List JsonElement → List Char
  | [] => []
  | element :: elements => ',' :: element.text ++ elementsText elements

def membersText : List (String × JsonElement) → List Char
  | [] => []
  | (name, element) :: members =>
    ',' :: quoted name ++ ':' :: element.text ++ membersText members

end

mutual

/-- Every number literal of the element is one and no string of it needs an escape. -/
def Plain : JsonElement → Prop
  | null => True
  | boolean _ => True
  | number literal => literal.Valid
  | string content => PlainString content
  | array elements => PlainElements elements
  | object members => PlainMembers members

def PlainElements : List JsonElement → Prop
  | [] => True
  | element :: elements => element.Plain ∧ PlainElements elements

def PlainMembers : List (String × JsonElement) → Prop
  | [] => True
  | (name, element) :: members => PlainString name ∧ element.Plain ∧ PlainMembers members

end
end JsonElement
end JsonText
