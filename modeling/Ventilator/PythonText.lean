import Mathlib

/-! The operations of Python's strings that the scripts use, on texts as lists of characters. -/
namespace PythonText

abbrev Text := List Char

/-- `str.isspace`, which is also what `\s` of a regular expression stands for. -/
def isSpace (c : Char) : Bool :=
  (9 ≤ c.toNat ∧ c.toNat ≤ 13) ∨ (28 ≤ c.toNat ∧ c.toNat ≤ 32) ∨
    (0x2000 ≤ c.toNat ∧ c.toNat ≤ 0x200a) ∨
    c.toNat ∈ [0x85, 0xa0, 0x1680, 0x2028, 0x2029, 0x202f, 0x205f, 0x3000]

/-- `str.strip`. -/
def strip (text : Text) : Text := (text.dropWhile isSpace).rdropWhile isSpace

lemma strip_eq_nil_iff {text : Text} : strip text = [] ↔ ∀ c ∈ text, isSpace c = true := by
  rw [strip, List.rdropWhile_eq_nil_iff]
  induction text with
  | nil => simp
  | cons c text ih =>
    by_cases hc : isSpace c = true
    · simp [hc, ih]
    · simp [hc]

/-- A text as `read` gives it in text mode: every end of a line is a newline. -/
def translated : Text → Text
  | [] => []
  | '\r' :: '\n' :: text => '\n' :: translated text
  | '\r' :: text => '\n' :: translated text
  | c :: text => c :: translated text

lemma prefix_translated {part text : Text} (hpart : '\r' ∉ part) (h : part <+: text) :
    part <+: translated text := by
  induction text using translated.induct generalizing part with
  | case1 => exact h
  | case2 text ih =>
    cases part with
    | nil => exact List.nil_prefix
    | cons c part => simp_all [List.cons_prefix_cons]
  | case3 text hnewline ih =>
    cases part with
    | nil => exact List.nil_prefix
    | cons c part => simp_all [List.cons_prefix_cons]
  | case4 c text hreturn hreturn' ih =>
    cases part with
    | nil => exact List.nil_prefix
    | cons d part => simp_all [List.cons_prefix_cons, translated]

/-- What contains no carriage return is not lost. -/
lemma infix_translated {part text : Text} (hpart : '\r' ∉ part) (h : part <:+: text) :
    part <:+: translated text := by
  induction text using translated.induct with
  | case1 => exact h
  | case2 text ih =>
    rw [List.infix_cons_iff] at h
    rcases h with hhere | hlater
    · exact (prefix_translated hpart hhere).isInfix
    · rw [List.infix_cons_iff] at hlater
      rw [translated, List.infix_cons_iff]
      rcases hlater with hnewline | hlater
      · left
        cases part with
        | nil => exact List.nil_prefix
        | cons c part =>
          rw [List.cons_prefix_cons] at hnewline ⊢
          exact ⟨hnewline.1, prefix_translated (by simp_all) hnewline.2⟩
      · exact .inr (ih hlater)
  | case3 text hnewline ih =>
    rw [List.infix_cons_iff] at h
    rcases h with hhere | hlater
    · exact (prefix_translated hpart hhere).isInfix
    · rw [translated, List.infix_cons_iff]
      · exact .inr (ih hlater)
      · exact hnewline
  | case4 c text hreturn hreturn' ih =>
    rw [List.infix_cons_iff] at h
    rcases h with hhere | hlater
    · exact (prefix_translated hpart hhere).isInfix
    · rw [translated, List.infix_cons_iff]
      · exact .inr (ih hlater)
      · exact hreturn
      · exact hreturn'

end PythonText
