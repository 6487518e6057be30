import Ventilator.CoverageMap

/-! The headings of the layers in their parts, and their counters. -/
namespace Ventilator
open JsonText PythonText

namespace CoverageMap

/-- No letter is taken for what is not a letter. -/
lemma eq_of_fold_eq {c d : Char} (hd : d.toNat < 65) (h : fold c = d) : c = d := by
  subst h
  by_cases hspecial : c = 'ſ' ∨ c = 'K' ∨ c = 'İ' ∨ c = 'ı'
  · rcases hspecial with rfl | rfl | rfl | rfl <;> simp [fold] at hd
  · push Not at hspecial
    have hfold : fold c = c.toLower := by simp [fold, hspecial]
    rw [hfold, Char.toLower] at hd ⊢
    split at hd
    · rename_i hupper
      exfalso
      have hlow : 65 ≤ c.val.toNat := UInt32.le_iff_toNat_le.mp hupper.1
      have hhigh : c.val.toNat ≤ 90 := UInt32.le_iff_toNat_le.mp hupper.2
      have hshift : ('a'.val - 'A'.val).toNat = 32 := rfl
      change (c.val + ('a'.val - 'A'.val)).toNat < 65 at hd
      rw [UInt32.toNat_add, hshift] at hd
      omega
    · rename_i hupper
      rw [dif_neg hupper]

lemma layer_opening {layer : Layer} (h : layer ∈ layers) :
    ∃ name, layer.opening = "### ".toList ++ name ++ ['('] ∧ '(' ∉ name.map fold := by
  simp only [layers, List.mem_cons, List.not_mem_nil, or_false] at h
  rcases h with rfl | rfl | rfl | rfl | rfl
  · exact ⟨"Research ".toList, rfl, by decide⟩
  · exact ⟨"Services ".toList, rfl, by decide⟩
  · exact ⟨"Features ".toList, rfl, by decide⟩
  · exact ⟨"Screens / Flows ".toList, rfl, by decide⟩
  · exact ⟨"API ".toList, rfl, by decide⟩

/-- No line is the heading of two layers. -/
lemma layer_unique {layer other : Layer} (hlayer : layer ∈ layers) (hother : other ∈ layers)
    {line : Text} (h : layer.opening.map fold <+: line.map fold)
    (h' : other.opening.map fold <+: line.map fold) : layer = other := by
  have hlayers : ∀ layer ∈ layers, ∀ other ∈ layers,
      layer.opening.map fold <+: other.opening.map fold → layer = other := by decide
  rcases List.prefix_or_prefix_of_prefix h h' with hfirst | hsecond
  · exact hlayers layer hlayer other hother hfirst
  · exact (hlayers other hother layer hlayer hsecond).symm

lemma isDecimal_ascii (digits : DecimalDigits) {c : Char} (hc : c.toNat < 128)
    (h : digit? c = none) : isDecimal digits c = false := by
  rw [isDecimal, digits.ascii c hc, h, Option.isSome_none]

lemma digitChar_ascii (digit : Digit) : (digitChar digit).toNat < 128 := by
  revert digit
  decide

lemma value_digitChar (digits : DecimalDigits) (digit : Digit) :
    digits.value (digitChar digit) = some digit := by
  rw [digits.ascii _ (digitChar_ascii digit), digit?_digitChar]

/-- `int` reads what `str` writes. -/
lemma number_numeral (digits : DecimalDigits) (n : ℕ) : number digits (numeral n) = n := by
  have hvalues : (numeral n).filterMap digits.value = decimal n := by
    rw [numeral, List.filterMap_map]
    have hsome : digits.value ∘ digitChar = some := by
      funext digit
      exact value_digitChar digits digit
    rw [hsome, List.filterMap_some]
  rw [number, hvalues, ofDigits_decimal]

lemma numeral_ne_nil (n : ℕ) : numeral n ≠ [] := by
  rw [numeral, ne_eq, List.map_eq_nil_iff]
  intro hnone
  rcases decimal_leading n with h | ⟨digit, rest, h, -⟩ <;> simp [h] at hnone

lemma numeral_decimal (digits : DecimalDigits) (n : ℕ) :
    ∀ c ∈ numeral n, isDecimal digits c = true := by
  intro c hc
  rw [numeral, List.mem_map] at hc
  obtain ⟨digit, -, rfl⟩ := hc
  rw [isDecimal, value_digitChar, Option.isSome_some]

/-- Nothing, or a slash with a number. -/
def IsTotal (digits : DecimalDigits) (total : Text) : Prop :=
  total = [] ∨ ∃ count, total = '/' :: count ∧ count ≠ [] ∧ ∀ c ∈ count, isDecimal digits c = true

def isBlank (c : Char) : Bool := c = ' ' ∨ c = '\t'

/-- The line of a heading of a layer. -/
structure Heading (digits : DecimalDigits) (layer : Layer) where
  opening : Text
  claimed : Text
  total : Text
  blanks : Text
  ending : Text
  layer_mem : layer ∈ layers
  opening_folds : opening.map fold = layer.opening.map fold
  claimed_ne : claimed ≠ []
  claimed_decimal : ∀ c ∈ claimed, isDecimal digits c = true
  total_none : layer.hasTotal = false → total = []
  total_form : IsTotal digits total
  blanks_blank : ∀ c ∈ blanks, isBlank c = true
  ending_form : ending = [] ∨ ending = ['\r']

variable {digits : DecimalDigits} {layer : Layer}

namespace Heading

def closing (heading : Heading digits layer) : Text := ')' :: (heading.blanks ++ heading.ending)

def text (heading : Heading digits layer) : Text :=
  heading.opening ++ (heading.claimed ++ (heading.total ++ heading.closing))

/-- The heading with another counter. -/
def recounted (heading : Heading digits layer) (n : ℕ) : Heading digits layer :=
  { heading with
    claimed := numeral n
    claimed_ne := numeral_ne_nil n
    claimed_decimal := numeral_decimal digits n }

/-- The heading with a carriage return. -/
def returned (heading : Heading digits layer) : Heading digits layer :=
  { heading with
    ending := ['\r']
    ending_form := .inr rfl }

/-- The heading without a carriage return. -/
def bare (heading : Heading digits layer) : Heading digits layer :=
  { heading with
    ending := []
    ending_form := .inl rfl }

lemma text_bare (heading : Heading digits layer) :
    heading.text = heading.bare.text ++ heading.ending := by
  simp [text, closing, bare]

lemma text_returned {heading : Heading digits layer} (h : heading.ending = []) :
    heading.returned.text = heading.text ++ ['\r'] := by
  simp [text, closing, returned, h]

/-- Nothing but its ending is a carriage return at the end of a heading. -/
lemma getLast?_bare (heading : Heading digits layer) : heading.bare.text.getLast? ≠ some '\r' := by
  intro hlast
  have htext : heading.bare.text = (heading.opening ++ (heading.claimed ++ heading.total)) ++
      (')' :: heading.blanks) := by
    simp [text, closing, bare]
  rw [htext, List.getLast?_append] at hlast
  have hmem : '\r' ∈ ')' :: heading.blanks := by
    cases hblanks : (')' :: heading.blanks).getLast? with
    | none => simp at hblanks
    | some c =>
      rw [hblanks, Option.some_or, Option.some.injEq] at hlast
      rw [← hlast]
      exact List.mem_of_getLast? hblanks
  rcases List.mem_cons.mp hmem with hbracket | hblank
  · cases hbracket
  · cases heading.blanks_blank _ hblank

lemma ending_iff (heading : Heading digits layer) :
    heading.ending = ['\r'] ↔ heading.text.getLast? = some '\r' := by
  rw [heading.text_bare, List.getLast?_append]
  rcases heading.ending_form with hnone | hreturn
  · simp [hnone, heading.getLast?_bare]
  · simp [hreturn]

lemma opening_eq (heading : Heading digits layer) :
    ∃ name, heading.opening = "### ".toList ++ name ++ ['('] ∧ '(' ∉ name := by
  obtain ⟨name, hname, hbracket⟩ := layer_opening heading.layer_mem
  have hfolds := heading.opening_folds
  rw [hname, List.map_append, List.map_append] at hfolds
  obtain ⟨front, last, hopening, hfront, hlast⟩ := List.map_eq_append_iff.mp hfolds
  obtain ⟨marks, other, hother, hmarks, hmap⟩ := List.map_eq_append_iff.mp hfront
  obtain ⟨c, hc, hfold⟩ := List.map_eq_singleton_iff.mp hlast
  have hmarks' : marks = "### ".toList := by
    have hplain : ∀ (texts plain : Text), (∀ c ∈ plain, c.toNat < 65) →
        texts.map fold = plain → texts = plain := by
      intro texts plain hplain heq
      induction texts generalizing plain with
      | nil => simpa using heq
      | cons c texts ih =>
        subst heq
        rw [List.map_cons, List.forall_mem_cons] at hplain
        rw [List.map_cons, ← ih _ hplain.2 rfl, ← eq_of_fold_eq hplain.1 rfl]
    exact hplain marks _ (by simp) hmarks
  refine ⟨other, ?_, ?_⟩
  · rw [hopening, hother, hmarks', hc, eq_of_fold_eq (by decide) hfold]
    rfl
  · intro hmem
    apply hbracket
    rw [← hmap]
    exact List.mem_map.mpr ⟨'(', hmem, rfl⟩

lemma length_opening (heading : Heading digits layer) :
    heading.opening.length = layer.opening.length := by
  simpa using congrArg List.length heading.opening_folds

/-- What follows the number does not begin with a digit. -/
lemma rest_head (heading : Heading digits layer) (after : Text) :
    ∃ c rest, heading.total ++ ')' :: after = c :: rest ∧ isDecimal digits c = false := by
  rcases heading.total_form with hnone | ⟨count, htotal, -, -⟩
  · exact ⟨')', after, by rw [hnone]; rfl, isDecimal_ascii digits (by decide) rfl⟩
  · exact ⟨'/', _, by rw [htotal]; rfl, isDecimal_ascii digits (by decide) rfl⟩

lemma takeWhile_counter (heading : Heading digits layer) (after : Text) :
    (heading.claimed ++ (heading.total ++ ')' :: after)).takeWhile (isDecimal digits) =
      heading.claimed := by
  obtain ⟨c, rest, hrest, hc⟩ := heading.rest_head after
  rw [List.takeWhile_append_of_pos heading.claimed_decimal, hrest,
    List.takeWhile_cons_of_neg (by simp [hc]), List.append_nil]

lemma dropWhile_counter (heading : Heading digits layer) (after : Text) :
    (heading.claimed ++ (heading.total ++ ')' :: after)).dropWhile (isDecimal digits) =
      heading.total ++ ')' :: after := by
  obtain ⟨c, rest, hrest, hc⟩ := heading.rest_head after
  rw [List.dropWhile_append_of_pos heading.claimed_decimal, hrest,
    List.dropWhile_cons_of_neg (by simp [hc])]

lemma slashNumber_rest (heading : Heading digits layer) (after : Text) :
    slashNumber digits (heading.total ++ ')' :: after) = heading.total := by
  rcases heading.total_form with hnone | ⟨count, htotal, hne, hcount⟩
  · rw [hnone]
    rfl
  · have hclosing : (')' :: after).takeWhile (isDecimal digits) = [] := by
      rw [List.takeWhile_cons_of_neg]
      simp [isDecimal_ascii digits (c := ')') (by decide) rfl]
    rw [htotal, List.cons_append, slashNumber, List.takeWhile_append_of_pos hcount, hclosing,
      List.append_nil, if_neg hne]

lemma closes_closing (heading : Heading digits layer) : closes heading.closing = true := by
  have hdrop : (heading.blanks ++ heading.ending).dropWhile isBlank = heading.ending := by
    rw [List.dropWhile_append_of_pos heading.blanks_blank]
    rcases heading.ending_form with hnone | hreturn
    · rw [hnone, List.dropWhile_nil]
    · rw [hreturn]
      rfl
  change decide ((heading.blanks ++ heading.ending).dropWhile isBlank = [] ∨
    (heading.blanks ++ heading.ending).dropWhile isBlank = ['\r']) = true
  rw [hdrop]
  exact decide_eq_true heading.ending_form

lemma opens (heading : Heading digits layer) (more : Text) :
    layer.opening.map fold <+: (heading.text ++ more).map fold := by
  rw [text, List.append_assoc, List.map_append, heading.opening_folds]
  exact List.prefix_append _ _

/-- With more at its end the heading is one if its end is. -/
lemma matchHeader_append (heading : Heading digits layer) (more : Text) :
    matchHeader digits layer (heading.text ++ more) =
      if closes (heading.closing ++ more) = true then some heading.claimed else none := by
  have hdrop : (heading.text ++ more).drop layer.opening.length = heading.claimed ++
      (heading.total ++ ')' :: (heading.blanks ++ heading.ending ++ more)) := by
    have htext : heading.text ++ more = heading.opening ++ (heading.claimed ++
        (heading.total ++ ')' :: (heading.blanks ++ heading.ending ++ more))) := by
      simp [text, closing]
    rw [htext, ← heading.length_opening, List.drop_left]
  have htotal : (if layer.hasTotal then
        slashNumber digits (heading.total ++ ')' :: (heading.blanks ++ heading.ending ++ more))
      else []) = heading.total := by
    cases hhas : layer.hasTotal with
    | false => rw [if_neg (by simp), heading.total_none hhas]
    | true => rw [if_pos rfl, heading.slashNumber_rest]
  simp only [matchHeader, if_pos (heading.opens more), hdrop, heading.takeWhile_counter,
    heading.dropWhile_counter, htotal, List.drop_left]
  have hclosing : heading.closing ++ more = ')' :: (heading.blanks ++ heading.ending ++ more) := rfl
  rw [hclosing]
  by_cases hcloses : closes (')' :: (heading.blanks ++ heading.ending ++ more)) = true
  · rw [if_pos ⟨heading.claimed_ne, hcloses⟩, if_pos hcloses]
  · rw [if_neg fun h => hcloses h.2, if_neg hcloses]

/-- The pattern of the layer matches. -/
lemma matchHeader_text (heading : Heading digits layer) :
    matchHeader digits layer heading.text = some heading.claimed := by
  have hmatch := heading.matchHeader_append []
  rwa [List.append_nil, List.append_nil, if_pos heading.closes_closing] at hmatch

/-- A heading with two carriage returns at its end is none. -/
lemma matchHeader_doubled (heading : Heading digits layer) (h : heading.ending = ['\r']) :
    matchHeader digits layer (heading.text ++ ['\r']) = none := by
  have hdrop : (heading.blanks ++ heading.ending ++ ['\r']).dropWhile isBlank =
      ['\r', '\r'] := by
    rw [List.append_assoc, List.dropWhile_append_of_pos heading.blanks_blank, h]
    rfl
  have hcloses : closes (heading.closing ++ ['\r']) = false := by
    change decide ((heading.blanks ++ heading.ending ++ ['\r']).dropWhile isBlank = [] ∨
      (heading.blanks ++ heading.ending ++ ['\r']).dropWhile isBlank = ['\r']) = false
    rw [hdrop]
    rfl
  rw [heading.matchHeader_append, hcloses]
  rfl

lemma isHeading_text (heading : Heading digits layer) : isHeading heading.text = true := by
  obtain ⟨name, hopening, -⟩ := heading.opening_eq
  rw [text, hopening]
  rfl

/-- `fix` replaces the counter only. -/
lemma recount_text (heading : Heading digits layer) (n : ℕ) :
    recount digits n heading.text = (heading.recounted n).text := by
  obtain ⟨name, hopening, hname⟩ := heading.opening_eq
  have hfront : ∀ c ∈ "### ".toList ++ name, decide (c ≠ '(') = true := by
    intro c hc
    rw [List.mem_append] at hc
    rw [decide_eq_true_iff]
    rintro rfl
    rcases hc with hc | hc
    · simp at hc
    · exact hname hc
  have htext : heading.text = ("### ".toList ++ name) ++
      '(' :: (heading.claimed ++ (heading.total ++ heading.closing)) := by
    rw [text, hopening]
    simp
  have hbefore : heading.text.takeWhile (fun c => c ≠ '(') = "### ".toList ++ name := by
    rw [htext, List.takeWhile_append_of_pos hfront, List.takeWhile_cons_of_neg (by simp),
      List.append_nil]
  have hafter : heading.text.dropWhile (fun c => c ≠ '(') =
      '(' :: (heading.claimed ++ (heading.total ++ heading.closing)) := by
    rw [htext, List.dropWhile_append_of_pos hfront, List.dropWhile_cons_of_neg (by simp)]
  simp only [recount, hbefore, hafter, List.tail_cons, closing, heading.takeWhile_counter,
    heading.dropWhile_counter, heading.slashNumber_rest, List.drop_left]
  rw [if_pos ⟨heading.claimed_ne, rfl⟩]
  simp [text, recounted, closing, hopening]

end Heading

lemma slashNumber_spec (digits : DecimalDigits) (rest : Text) :
    IsTotal digits (slashNumber digits rest) ∧
      slashNumber digits rest ++ rest.drop (slashNumber digits rest).length = rest := by
  unfold slashNumber
  split
  · rename_i text
    split
    · exact ⟨.inl rfl, rfl⟩
    · rename_i hne
      refine ⟨.inr ⟨_, rfl, hne, fun c hc => List.mem_takeWhile_imp hc⟩, ?_⟩
      have hdrop := List.takeWhile_append_dropWhile (p := isDecimal digits) (l := text)
      rw [List.length_cons, List.drop_succ_cons, List.cons_append]
      nth_rewrite 3 [← hdrop]
      rw [List.drop_left, hdrop]
  · exact ⟨.inl rfl, rfl⟩

lemma closes_spec {text : Text} (h : closes text = true) :
    ∃ blanks ending, text = ')' :: (blanks ++ ending) ∧ (∀ c ∈ blanks, isBlank c = true) ∧
      (ending = [] ∨ ending = ['\r']) := by
  unfold closes at h
  split at h
  · rename_i rest
    refine ⟨rest.takeWhile isBlank, rest.dropWhile isBlank, ?_, ?_, of_decide_eq_true h⟩
    · rw [List.takeWhile_append_dropWhile]
    · exact fun c hc => List.mem_takeWhile_imp hc
  · cases h

/-- A line in which the pattern matches has the parts. -/
lemma exists_heading {line claimed : Text} (hlayer : layer ∈ layers)
    (h : matchHeader digits layer line = some claimed) :
    ∃ heading : Heading digits layer, heading.text = line ∧ heading.claimed = claimed := by
  simp only [matchHeader, Option.ite_none_right_eq_some] at h
  obtain ⟨hopens, ⟨hne, hclosing⟩, hclaimed⟩ := h
  cases hclaimed
  obtain ⟨blanks, ending, hclosed, hblanks, hending⟩ := closes_spec hclosing
  obtain ⟨after, hafter⟩ := hopens
  have hopening : (line.take layer.opening.length).map fold = layer.opening.map fold := by
    rw [List.map_take, ← hafter, List.take_left' (by simp)]
  set counter := line.drop layer.opening.length with hcounter
  set rest := counter.dropWhile (isDecimal digits) with hrest
  set total := if layer.hasTotal = true then slashNumber digits rest else [] with htotal
  have hform : IsTotal digits total ∧ total ++ rest.drop total.length = rest := by
    cases hhas : layer.hasTotal with
    | false =>
      rw [htotal, hhas]
      exact ⟨.inl rfl, rfl⟩
    | true =>
      rw [htotal, hhas]
      exact slashNumber_spec digits rest
  refine ⟨⟨line.take layer.opening.length, counter.takeWhile (isDecimal digits), total, blanks,
    ending, hlayer, hopening, hne, fun c hc => List.mem_takeWhile_imp hc, ?_, hform.1, hblanks,
    hending⟩, ?_, rfl⟩
  · intro hhas
    rw [htotal, hhas]
    rfl
  · rw [Heading.text, Heading.closing]
    simp only
    rw [← hclosed, hform.2, hrest, List.takeWhile_append_dropWhile, hcounter,
      List.take_append_drop]

/-- The pattern matches the headings of the map only. -/
lemma isHeading_of_matchHeader {line claimed : Text} (hlayer : layer ∈ layers)
    (h : matchHeader digits layer line = some claimed) : isHeading line = true := by
  obtain ⟨heading, rfl, -⟩ := exists_heading hlayer h
  exact heading.isHeading_text

/-- No line is the heading of two layers. -/
lemma matchHeader_unique {other : Layer} (hlayer : layer ∈ layers) (hother : other ∈ layers)
    {line : Text} (h : matchHeader digits layer line ≠ none)
    (h' : matchHeader digits other line ≠ none) : layer = other := by
  obtain ⟨claimed, hclaimed⟩ := Option.ne_none_iff_exists'.mp h
  obtain ⟨claimed', hclaimed'⟩ := Option.ne_none_iff_exists'.mp h'
  obtain ⟨heading, rfl, -⟩ := exists_heading hlayer hclaimed
  obtain ⟨heading', hheading', -⟩ := exists_heading hother hclaimed'
  have hopens := heading.opens []
  have hopens' := heading'.opens []
  rw [List.append_nil] at hopens hopens'
  rw [hheading'] at hopens'
  exact layer_unique hlayer hother hopens hopens'

end CoverageMap
end Ventilator
