import Ventilator.StatusReader

/-! The status line is a JSON document, and the snapshot read from it shows every number of the
reader, rounded to two decimals. -/
namespace Ventilator
open Double JsonText

namespace Binary32

/-- Rounding to the nearest integer moves a value by a half at most. -/
lemma roundHalfEven_close {q : ℚ} (hq : 0 ≤ q) : |q - roundHalfEven q| ≤ 1 / 2 := by
  have hfloor := Nat.floor_le hq
  have hceil := Nat.lt_floor_add_one q
  rw [abs_le]
  unfold roundHalfEven
  dsimp only
  split_ifs <;> push_cast <;> constructor <;> linarith

lemma roundHalfEven_natCast (n : ℕ) : roundHalfEven n = n := by
  unfold roundHalfEven
  norm_num

lemma le_roundHalfEven {n : ℕ} {q : ℚ} (h : (n : ℚ) ≤ q) : n ≤ roundHalfEven q := by
  have hfloor : n ≤ ⌊q⌋₊ := Nat.le_floor h
  unfold roundHalfEven
  dsimp only
  split_ifs <;> omega

lemma roundHalfEven_le {n : ℕ} {q : ℚ} (hq : 0 ≤ q) (h : q ≤ n) : roundHalfEven q ≤ n := by
  rcases h.eq_or_lt with rfl | hlt
  · rw [roundHalfEven_natCast]
  · have hfloor : ⌊q⌋₊ < n := (Nat.floor_lt hq).mpr hlt
    unfold roundHalfEven
    dsimp only
    split_ifs <;> omega

/-- A finite pattern's value, without its sign. -/
lemma magnitude_le {e f : ℕ} (he : e ≤ 255) (hne : e ≠ 255) (hf : f < 2 ^ 23) {q : ℚ}
    (hq : (if e = 0 then (f : ℚ) / 2 ^ 149 else ((2 : ℚ) ^ 23 + f) * 2 ^ ((e : ℤ) - 150)) = q) :
    0 ≤ q ∧ q ≤ 2 ^ 128 := by
  have hfq : (f : ℚ) ≤ 2 ^ 23 := by exact_mod_cast hf.le
  subst hq
  split_ifs with hzero
  · refine ⟨by positivity, ?_⟩
    rw [div_le_iff₀ (by positivity)]
    refine hfq.trans ?_
    norm_num
  · refine ⟨by positivity, ?_⟩
    have hpow : (2 : ℚ) ^ ((e : ℤ) - 150) ≤ 2 ^ (104 : ℤ) :=
      zpow_le_zpow_right₀ (by norm_num) (by omega)
    calc (2 ^ 23 + f : ℚ) * 2 ^ ((e : ℤ) - 150) ≤ 2 ^ 24 * 2 ^ (104 : ℤ) :=
          mul_le_mul (by linarith) hpow (by positivity) (by positivity)
      _ = 2 ^ 128 := by norm_num

/-- Finite floats are at most 2 ^ 128. -/
lemma toDouble_le {bits : UInt32} (h : (toDouble bits).isfinite = true) :
    (toDouble bits).value ≤ 2 ^ 128 := by
  have he : ((bits >>> 23) &&& 0xff).toNat ≤ 255 := by
    rw [UInt32.toNat_and]
    exact Nat.and_le_right
  have hf : (bits &&& 0x7fffff).toNat < 2 ^ 23 := by
    rw [UInt32.toNat_and]
    exact Nat.and_le_right.trans_lt (by decide)
  unfold toDouble at h ⊢
  dsimp only at h ⊢
  generalize hq : (if ((bits >>> 23) &&& 0xff).toNat = 0 then
    ((bits &&& 0x7fffff).toNat : ℚ) / 2 ^ 149
    else (2 ^ 23 + ((bits &&& 0x7fffff).toNat : ℚ)) *
      2 ^ ((((bits >>> 23) &&& 0xff).toNat : ℤ) - 150)) = q at h ⊢
  by_cases h255 : ((bits >>> 23) &&& 0xff).toNat = 255
  · rw [if_pos h255] at h
    split at h <;> cases h
  · obtain ⟨hnonneg, hle⟩ := magnitude_le he h255 hf hq
    rw [if_neg h255]
    split
    · norm_num
    · split
      · rw [value_finite]
        linarith
      · exact hle
end Binary32

namespace StatusReader

/-- What the digits of a printed double say. -/
def literal (places : ℕ) : Double → JsonNumber
  | .finite q => .fixed (decide (q < 0)) places (Binary32.roundHalfEven (|q| * 10 ^ places))
  | _ => .fixed true places 0

lemma fixedPoint_text (places : ℕ) (negative : Bool) (scaled : ℕ) :
    printf.fixedPoint places negative scaled = (JsonNumber.fixed negative places scaled).text := by
  have hplaces : padded places (scaled % 10 ^ places) = [] ↔ places = 0 := by
    rw [← List.length_eq_zero_iff, length_padded]
  rw [printf.fixedPoint, JsonNumber.text, JsonNumber.fixed]
  simp only [hplaces]

lemma printf_text {places : ℕ} {x : Double} (hx : x.isfinite = true) :
    printf places x = (literal places x).text := by
  cases x with
  | finite q => exact fixedPoint_text ..
  | negZero => exact fixedPoint_text ..
  | inf negative => cases hx
  | nan => cases hx

/-- A printed number: `null` where there is none to show. -/
def numberElement : Option Double → JsonElement
  | none => .null
  | some x => .number (literal 2 x)

/-- The reader's number of a key, where it is in its range. -/
def shown (smc : SmcState) (key : FourChars) (temperature : Bool) : Option Double :=
  (readFiniteNumber smc key).filter fun number =>
    if temperature then le (finite 10) number && le number (finite 115)
    else le (finite 0) number

lemma readFiniteNumber_finite {smc : SmcState} {key : FourChars} {x : Double}
    (h : readFiniteNumber smc key = some x) : x.isfinite = true := by
  obtain ⟨value, -, hnumber⟩ := Option.bind_eq_some_iff.mp h
  exact (Option.filter_eq_some_iff.mp hnumber).2

lemma not_lt_of_isfinite {x y : Double} (hx : x.isfinite = true) (hy : y.isfinite = true) :
    (!lt x y) = le y x := by
  rw [lt_of_isfinite hx hy, le_of_isfinite hy hx, Bool.eq_iff_iff]
  simp

lemma printJsonNumber_text (smc : SmcState) (key : FourChars) (temperature : Bool) :
    printJsonNumber smc key temperature =
      (numberElement (shown smc key temperature)).text := by
  unfold printJsonNumber shown
  cases hread : readFiniteNumber smc key with
  | none => rfl
  | some x =>
    have hx := readFiniteNumber_finite hread
    have hcheck : (temperature && (lt x (finite 10) || lt (finite 115) x) ||
        !temperature && lt x (finite 0)) = !(if temperature then
          le (finite 10) x && le x (finite 115) else le (finite 0) x) := by
      cases temperature with
      | false => simp [← not_lt_of_isfinite hx (isfinite_finite 0)]
      | true =>
        simp [← not_lt_of_isfinite hx (isfinite_finite 10),
          ← not_lt_of_isfinite (isfinite_finite 115) hx]
    dsimp only
    rw [hcheck]
    cases hrange : (if temperature then le (finite 10) x && le x (finite 115)
        else le (finite 0) x) with
    | false =>
      rw [Option.filter_some, hrange]
      rfl
    | true =>
      rw [Option.filter_some, hrange]
      exact printf_text hx

lemma readFiniteNumber_le {smc : SmcState} {key : FourChars} {x : Double}
    (h : readFiniteNumber smc key = some x) : x.value ≤ 2 ^ 128 := by
  obtain ⟨value, -, hnumber⟩ := Option.bind_eq_some_iff.mp h
  obtain ⟨hdecode, hfinite⟩ := Option.filter_eq_some_iff.mp hnumber
  have h16 : ((big16 value.bytes).toNat : ℚ) ≤ 2 ^ 16 := by
    exact_mod_cast (big16 value.bytes).toNat_lt.le
  have h32 : ((big32 value.bytes).toNat : ℚ) ≤ 2 ^ 32 := by
    exact_mod_cast (big32 value.bytes).toNat_lt.le
  have h8 : ((value.bytes.get 0).toNat : ℚ) ≤ 2 ^ 8 := by
    exact_mod_cast (value.bytes.get 0).toNat_lt.le
  have hsigned : ((big16 value.bytes).toInt16.toInt : ℚ) ≤ 2 ^ 15 := by
    exact_mod_cast (Int16.toInt_lt _).le
  unfold decode at hdecode
  split at hdecode
  · obtain rfl := Option.some.inj hdecode
    exact Binary32.toDouble_le hfinite
  repeat' split at hdecode
  all_goals
    first
    | cases hdecode
      done
    | obtain rfl := Option.some.inj hdecode
      rw [value_finite]
      linarith

/-! The document of the line. -/

def countElement (smc : SmcState) : JsonElement :=
  match fanCount smc with
  | none => .null
  | some count => .number (literal 0 count)

def fanElement (smc : SmcState) (fan : ℕ) : JsonElement :=
  .object [("index", .number ⟨false, decimal fan, []⟩),
    ("actual_rpm", numberElement (shown smc (fanKeyAt fan 'A' 'c') false)),
    ("min_rpm", numberElement (shown smc (fanKeyAt fan 'M' 'n') false)),
    ("max_rpm", numberElement (shown smc (fanKeyAt fan 'M' 'x') false))]

def fanTotal (smc : SmcState) : ℕ := ((fanCount smc).map fans).getD 0

def temperatureElement (smc : SmcState) (sensor : FourChars × String) : JsonElement :=
  .object [("key", .string sensor.2), ("celsius", numberElement (shown smc sensor.1 true))]

def statusMembers (smc : SmcState) : List (String × JsonElement) :=
  [("schema", .number ⟨false, [1], []⟩), ("fan_count", countElement smc),
    ("fans", .array ((List.range (fanTotal smc)).map (fanElement smc))),
    ("cpu_key", .string "TCMz"), ("cpu_temp_c", numberElement (shown smc keyTCMz true)),
    ("selected_temperatures", .array (selected.map (temperatureElement smc)))]

def statusElement (smc : SmcState) : JsonElement := .object (statusMembers smc)

lemma fanCount_finite {smc : SmcState} {count : Double} (h : fanCount smc = some count) :
    count.isfinite = true :=
  readFiniteNumber_finite (Option.filter_eq_some_iff.mp h).1

lemma printFan_text (smc : SmcState) (fan : ℕ) :
    printFan smc fan = (if fan ≠ 0 then [','] else []) ++ (fanElement smc fan).text := by
  have hindex : "\x7b\"index\":".toList = '{' :: (quoted "index" ++ [':']) := rfl
  have hactual : ",\"actual_rpm\":".toList = ',' :: (quoted "actual_rpm" ++ [':']) := rfl
  have hmin : ",\"min_rpm\":".toList = ',' :: (quoted "min_rpm" ++ [':']) := rfl
  have hmax : ",\"max_rpm\":".toList = ',' :: (quoted "max_rpm" ++ [':']) := rfl
  rw [printFan, hindex, hactual, hmin, hmax, printJsonNumber_text, printJsonNumber_text,
    printJsonNumber_text, fanElement]
  simp only [JsonElement.text, JsonElement.membersText, JsonNumber.text, List.tail_cons,
    List.append_assoc, List.cons_append, List.nil_append, List.append_nil, Bool.false_eq_true,
    if_false, if_true]

/-- The texts of elements, each after a comma, as a loop prints them. -/
lemma elementsText_map {α : Type} (f : α → JsonElement) (xs : List α) :
    JsonElement.elementsText (xs.map f) = xs.flatMap fun x => ',' :: (f x).text := by
  induction xs with
  | nil => rfl
  | cons x xs ih => rw [List.map_cons, JsonElement.elementsText, ih, List.flatMap_cons]

lemma printFans_text (smc : SmcState) : printFans smc =
    (JsonElement.elementsText ((List.range (fanTotal smc)).map (fanElement smc))).tail := by
  have htotal : printFans smc = (List.range (fanTotal smc)).flatMap (printFan smc) := by
    unfold printFans fanTotal
    cases fanCount smc <;> rfl
  rw [htotal, elementsText_map]
  cases fanTotal smc with
  | zero => rfl
  | succ n =>
    have hmore : ∀ fan, printFan smc (fan + 1) = ',' :: (fanElement smc (fan + 1)).text := by
      intro fan
      rw [printFan_text, if_pos (Nat.succ_ne_zero fan)]
      rfl
    rw [List.range_succ_eq_map, List.flatMap_cons, List.flatMap_cons, List.flatMap_map,
      List.flatMap_map, printFan_text, if_neg (not_not.mpr rfl), List.nil_append,
      List.cons_append, List.tail_cons]
    simp only [Nat.succ_eq_add_one, hmore]

lemma printSelected_text (smc : SmcState) : printSelected smc =
    (JsonElement.elementsText (selected.map (temperatureElement smc))).tail := by
  have hkey : "\x7b\"key\":\"".toList = '{' :: (quoted "key" ++ [':', '"']) := rfl
  have hcelsius : "\",\"celsius\":".toList = '"' :: ',' :: (quoted "celsius" ++ [':']) := rfl
  rw [printSelected, hkey, hcelsius]
  simp only [selected, List.zipIdx_cons, List.zipIdx_nil, List.flatMap_cons, List.flatMap_nil,
    List.map_cons, List.map_nil, temperatureElement, JsonElement.elementsText, JsonElement.text,
    JsonElement.membersText, printJsonNumber_text, List.tail_cons, quoted, List.append_assoc,
    List.cons_append, List.nil_append, List.append_nil]
  rfl

/-- The texts between the values, as names and separators. -/
lemma startText : "\x7b\"schema\":1,\"fan_count\":".toList =
    '{' :: (quoted "schema" ++ ':' :: ((JsonNumber.mk false [1] []).text ++
      ',' :: (quoted "fan_count" ++ [':']))) := by decide

lemma cpuText : "],\"cpu_key\":\"TCMz\",\"cpu_temp_c\":".toList =
    ']' :: ',' :: (quoted "cpu_key" ++ ':' :: (quoted "TCMz" ++
      ',' :: (quoted "cpu_temp_c" ++ [':']))) := by decide

lemma selectedText : ",\"selected_temperatures\":[".toList =
    ',' :: (quoted "selected_temperatures" ++ [':', '[']) := by decide

lemma fansText : ",\"fans\":[".toList = ',' :: (quoted "fans" ++ [':', '[']) := by
  decide

lemma printCount_text (smc : SmcState) : printCount smc = (countElement smc).text := by
  unfold printCount countElement
  cases hcount : fanCount smc with
  | none => rfl
  | some count => exact printf_text (fanCount_finite hcount)

/-- The printed line is the text of a document and a newline. -/
lemma printStatusJson_text (smc : SmcState) :
    printStatusJson smc = (statusElement smc).text ++ ['\n'] := by
  unfold printStatusJson
  rw [startText, fansText, cpuText, selectedText, printCount_text, printFans_text,
    printSelected_text, printJsonNumber_text]
  unfold statusElement statusMembers
  simp only [JsonElement.text, JsonElement.membersText, List.tail_cons, List.append_assoc,
    List.cons_append, List.nil_append, List.append_nil]

/-! Every literal of the document is one, and no string of it needs an escape. -/

lemma numberElement_plain (x : Option Double) : (numberElement x).Plain := by
  cases x with
  | none => trivial
  | some x => cases x <;> exact JsonNumber.fixed_valid ..

lemma plainElements_map {α : Type} {f : α → JsonElement} (h : ∀ x, (f x).Plain) (xs : List α) :
    JsonElement.PlainElements (xs.map f) := by
  induction xs with
  | nil => trivial
  | cons x xs ih => exact ⟨h x, ih⟩

lemma fanNames_plain : PlainString "index" ∧ PlainString "actual_rpm" ∧ PlainString "min_rpm" ∧
    PlainString "max_rpm" := by decide

lemma statusNames_plain : PlainString "schema" ∧ PlainString "fan_count" ∧ PlainString "fans" ∧
    PlainString "cpu_key" ∧ PlainString "TCMz" ∧ PlainString "cpu_temp_c" ∧
    PlainString "selected_temperatures" := by decide

lemma temperatureNames_plain : PlainString "key" ∧ PlainString "celsius" ∧
    ∀ sensor ∈ selected, PlainString sensor.2 := by decide

lemma fanElement_plain (smc : SmcState) (fan : ℕ) : (fanElement smc fan).Plain := by
  obtain ⟨hindex, hactual, hmin, hmax⟩ := fanNames_plain
  exact ⟨hindex, decimal_leading fan, hactual, numberElement_plain _, hmin, numberElement_plain _,
    hmax, numberElement_plain _, trivial⟩

lemma temperatureElement_plain (smc : SmcState) {sensor : FourChars × String}
    (h : sensor ∈ selected) : (temperatureElement smc sensor).Plain := by
  obtain ⟨hkey, hcelsius, hselected⟩ := temperatureNames_plain
  exact ⟨hkey, hselected sensor h, hcelsius, numberElement_plain _, trivial⟩

lemma countElement_plain (smc : SmcState) : (countElement smc).Plain := by
  unfold countElement
  split
  · trivial
  · rename_i count _
    cases count <;> exact JsonNumber.fixed_valid ..

lemma statusElement_plain (smc : SmcState) : (statusElement smc).Plain := by
  obtain ⟨hschema, hcount, hfans, hkey, hname, hcpu, hselected⟩ := statusNames_plain
  refine ⟨hschema, .inr ⟨1, [], rfl, by decide⟩, hcount, countElement_plain smc, hfans,
    plainElements_map (fanElement_plain smc) _, hkey, hname, hcpu, numberElement_plain _,
    hselected, ?_, trivial⟩
  exact ⟨temperatureElement_plain smc (by simp [selected]),
    temperatureElement_plain smc (by simp [selected]), trivial⟩

end StatusReader

/-! The snapshot of the document. -/
namespace KotlinRead
open StatusReader

/-- Rounding to the nearest double keeps the order and keeps the doubles. -/
structure RoundsDoubles (round : ℚ → Double) : Prop where
  mono : ∀ p q, p ≤ q → le (round p) (round q) = true
  fixes : ∀ m e : ℕ, m < 2 ^ 53 → e ≤ 971 → round (m * 2 ^ e) = finite (m * 2 ^ e)

/-- A number as it is shown: rounded to two decimals, and then to the nearest double. -/
def Shows (round : ℚ → Double) (number shown : Double) : Prop :=
  ∃ hundredths : ℕ, |100 * number.value - hundredths| ≤ 1 / 2 ∧
    shown = signed (decide (number = negZero)) (round (hundredths / 100))

variable {conversions : Conversions} {Instant : Type}

lemma isfinite_of_between {x : Double} {a b : ℚ} (ha : le (finite a) x = true)
    (hb : le x (finite b) = true) : x.isfinite = true := by
  cases x with
  | finite q => rfl
  | negZero => rfl
  | inf negative => cases negative <;> simp [le] at ha hb
  | nan => simp at ha

section Shown

variable {round : ℚ → Double}

lemma RoundsDoubles.natCast (h : RoundsDoubles round) {n : ℕ} (hn : n < 2 ^ 53) :
    round n = finite n := by
  simpa using h.fixes n 0 hn (by decide)

/-- What is not negative and at most 2 ^ 128 rounds to a finite double. -/
lemma RoundsDoubles.finite (h : RoundsDoubles round) {q : ℚ} (hq : 0 ≤ q) (hle : q ≤ 2 ^ 128) :
    le (finite 0) (round q) = true ∧ (round q).isfinite = true := by
  have hzero : round 0 = .finite 0 := by simpa using h.natCast (n := 0) (by decide)
  have htop : round (2 ^ 128) = .finite (2 ^ 128) := by
    simpa using h.fixes 1 128 (by decide) (by decide)
  have hlow := h.mono 0 q hq
  have hhigh := h.mono q _ hle
  rw [hzero] at hlow
  rw [htop] at hhigh
  exact ⟨hlow, isfinite_of_between hlow hhigh⟩

/-- What a number that is not negative is printed as. -/
lemma literal_nonneg {x : Double} (hx : x.isfinite = true) (hnonneg : le (.finite 0) x = true) :
    literal 2 x = .fixed (decide (x = negZero)) 2 (Binary32.roundHalfEven (x.value * 100)) := by
  cases x with
  | finite q =>
    have hq : 0 ≤ q := of_decide_eq_true hnonneg
    have hsign : decide (q < 0) = decide (Double.finite q = negZero) := by simp [hq]
    rw [literal, hsign, abs_of_nonneg hq, value_finite]
    norm_num
  | negZero =>
    have hzero : Binary32.roundHalfEven (negZero.value * 100) = 0 := by
      rw [value_negZero, zero_mul]
      exact Binary32.roundHalfEven_natCast 0
    rw [hzero]
    rfl
  | inf negative => cases hx
  | nan => cases hx

/-- A printed number that is not negative is read as a number that is in its range again. -/
lemma shows_number (h : RoundsDoubles round) {x : Double} (hx : x.isfinite = true)
    (hnonneg : le (.finite 0) x = true) (hle : x.value ≤ 2 ^ 128) :
    ∃ shown, signed (literal 2 x).negative (round (literal 2 x).magnitude) = shown ∧
      Shows round x shown ∧ shown.isfinite = true ∧ le (.finite 0) shown = true ∧
      ∀ low high : ℕ, low < 2 ^ 53 → high < 2 ^ 53 → 0 < low →
        le (.finite low) x = true → le x (.finite high) = true →
        le (.finite low) shown = true ∧ le shown (.finite high) = true := by
  have hvalue : 0 ≤ x.value := by
    rw [le_of_isfinite (isfinite_finite 0) hx] at hnonneg
    exact of_decide_eq_true hnonneg
  have hscaled : 0 ≤ x.value * 100 := by positivity
  obtain ⟨n, hn⟩ : ∃ n, Binary32.roundHalfEven (x.value * 100) = n := ⟨_, rfl⟩
  have hclose := Binary32.roundHalfEven_close hscaled
  rw [hn] at hclose
  have htop : n ≤ 2 ^ 128 * 100 := by
    rw [← hn]
    refine Binary32.roundHalfEven_le hscaled ?_
    push_cast
    linarith
  have hntop : (n : ℚ) ≤ 2 ^ 128 * 100 := by exact_mod_cast htop
  have hquot : (0 : ℚ) ≤ n / 100 := by positivity
  obtain ⟨hlow, hfinite⟩ := h.finite hquot (by linarith)
  rw [literal_nonneg hx hnonneg, hn, JsonNumber.fixed_magnitude]
  have hhundred : (n : ℚ) / 10 ^ 2 = n / 100 := by norm_num
  rw [hhundred]
  refine ⟨_, rfl, ⟨n, by rwa [mul_comm], rfl⟩, ?_⟩
  by_cases hneg : x = negZero
  · subst hneg
    have hzero : Binary32.roundHalfEven (negZero.value * 100) = 0 := by
      rw [value_negZero, zero_mul]
      exact Binary32.roundHalfEven_natCast 0
    obtain rfl : 0 = n := hzero.symm.trans hn
    have hround : round ((0 : ℕ) / 100) = .finite 0 := by
      simpa using h.natCast (n := 0) (by decide)
    have hshown : signed (JsonNumber.fixed (decide (negZero = negZero)) 2 0).negative
        (round ((0 : ℕ) / 100)) = negZero := by
      rw [hround]
      rfl
    rw [hshown]
    refine ⟨rfl, rfl, fun low high _ _ hpos hbelow _ => ?_⟩
    have hlowZero : (low : ℚ) ≤ 0 := of_decide_eq_true hbelow
    exact absurd hpos (not_lt.mpr (by exact_mod_cast hlowZero))
  · have hshown : signed (JsonNumber.fixed (decide (x = negZero)) 2 n).negative
        (round (n / 100)) = round (n / 100) := by
      rw [JsonNumber.fixed, decide_eq_false hneg]
      rfl
    rw [hshown]
    refine ⟨hfinite, hlow, fun low high hlow53 hhigh53 _ hbelow habove => ?_⟩
    rw [le_of_isfinite (isfinite_finite _) hx, value_finite] at hbelow
    rw [le_of_isfinite hx (isfinite_finite _), value_finite] at habove
    have hbelow := of_decide_eq_true hbelow
    have habove := of_decide_eq_true habove
    have hn100 : low * 100 ≤ n := by
      rw [← hn]
      refine Binary32.le_roundHalfEven ?_
      push_cast
      linarith
    have hn100' : n ≤ high * 100 := by
      rw [← hn]
      refine Binary32.roundHalfEven_le hscaled ?_
      push_cast
      linarith
    have hnlow : (low : ℚ) * 100 ≤ n := by exact_mod_cast hn100
    have hnhigh : (n : ℚ) ≤ high * 100 := by exact_mod_cast hn100'
    rw [← h.natCast hlow53, ← h.natCast hhigh53]
    exact ⟨h.mono _ _ (by linarith), h.mono _ _ (by linarith)⟩

end Shown

section Snapshot

variable (conversions : Conversions) (smc : SmcState) (measuredAt : Instant)

/-- A reading shows the reader's number where that is in its range, and else nothing. -/
abbrev Reads (key : FourChars) (temperature : Bool) (reading : Option Double) : Prop :=
  Option.Rel (Shows conversions.round) (shown smc key temperature) reading

structure FanShows (fan : ℕ) (snapshot : FanSnapshot Instant) : Prop where
  index : snapshot.index = fan
  actualRpm : Reads conversions smc (fanKeyAt fan 'A' 'c') false snapshot.actualRpm
  minRpm : Reads conversions smc (fanKeyAt fan 'M' 'n') false snapshot.minRpm
  maxRpm : Reads conversions smc (fanKeyAt fan 'M' 'x') false snapshot.maxRpm
  measuredAt : snapshot.measuredAt = measuredAt

structure TemperatureShows (sensor : FourChars × String)
    (reading : TemperatureReading Instant) : Prop where
  rawKey : reading.rawKey = sensor.2
  celsius : Reads conversions smc sensor.1 true reading.celsius
  measuredAt : reading.measuredAt = measuredAt
  label : reading.labelConfidence = .observedOnMac15_7

/-- The declared count is the reader's. -/
def Declares (count : Double) (declared : ℤ) : Prop :=
  (declared : ℚ) = count.value ∧ 0 ≤ declared ∧ declared ≤ 10

/-- A snapshot that agrees with the reader field by field. -/
structure Agrees (snapshot : StatusSnapshot Instant) : Prop where
  count : Option.Rel Declares (fanCount smc) snapshot.declaredFanCount
  fans : List.Forall₂ (FanShows conversions smc measuredAt)
    (List.range (snapshot.declaredFanCount.getD 0).toNat) snapshot.fans
  cpu : TemperatureShows conversions smc measuredAt (keyTCMz, "TCMz") snapshot.cpuTemperature
  selected : List.Forall₂ (TemperatureShows conversions smc measuredAt) selected
    snapshot.selectedTemperatures

end Snapshot

/-- Where each element has a result in the relation, so has the list of them. -/
lemma mapM_shows {α β γ : Type} {f : α → β} {g : β → Option γ} {R : α → γ → Prop} {xs : List α}
    (h : ∀ x ∈ xs, ∃ y, g (f x) = some y ∧ R x y) :
    ∃ ys, (xs.map f).mapM g = some ys ∧ List.Forall₂ R xs ys := by
  induction xs with
  | nil => exact ⟨[], rfl, .nil⟩
  | cons x xs ih =>
    obtain ⟨y, hy, hR⟩ := h x List.mem_cons_self
    obtain ⟨ys, hys, hRs⟩ := ih fun x' hx' => h x' (List.mem_cons_of_mem _ hx')
    refine ⟨y :: ys, ?_, .cons hR hRs⟩
    rw [List.map_cons, List.mapM_cons, hy, hys]
    rfl

section Parse

variable {smc : SmcState} {measuredAt : Instant} (hround : RoundsDoubles conversions.round)
include hround

/-- What is read of a printed number. -/
lemma reads_number {key : FourChars} {temperature : Bool} {inRange : Double → Bool}
    (hrange : ∀ x : Double, x.isfinite = true → le (finite 0) x = true →
      (temperature = true → le (finite 10) x = true ∧ le x (finite 115) = true) →
      inRange x = true) :
    ∃ primitive, jsonPrimitive (numberElement (shown smc key temperature)) = some primitive ∧
      Reads conversions smc key temperature
        ((primitive.doubleOrNull conversions).filter inRange) := by
  cases hshown : shown smc key temperature with
  | none =>
    refine ⟨.null, rfl, ?_⟩
    rw [Reads, hshown]
    exact .none
  | some x =>
    obtain ⟨hread, hx⟩ := Option.filter_eq_some_iff.mp hshown
    have hfinite := readFiniteNumber_finite hread
    have hnonneg : le (finite 0) x = true := by
      cases temperature with
      | false => exact hx
      | true =>
        have hten : le (finite 10) x = true := (Bool.and_eq_true_iff.mp hx).1
        rw [le_of_isfinite (isfinite_finite _) hfinite] at hten ⊢
        have hten := of_decide_eq_true hten
        exact decide_eq_true (by simpa using (by norm_num : (0 : ℚ) ≤ 10).trans hten)
    obtain ⟨y, hy, hshows, hyfinite, hynonneg, hybetween⟩ :=
      shows_number hround hfinite hnonneg (readFiniteNumber_le hread)
    refine ⟨.number (literal 2 x), rfl, ?_⟩
    have hkept : inRange y = true := by
      refine hrange y hyfinite hynonneg fun htemperature => ?_
      rw [htemperature] at hx
      obtain ⟨hten, hlimit⟩ := Bool.and_eq_true_iff.mp hx
      exact hybetween 10 115 (by decide) (by decide) (by decide) (by exact_mod_cast hten)
        (by exact_mod_cast hlimit)
    rw [Reads, hshown, JsonPrimitive.doubleOrNull, hy, Option.filter_some, hkept]
    exact .some hshows

lemma reads_rpm (smc : SmcState) (key : FourChars) :
    ∃ primitive, jsonPrimitive (numberElement (shown smc key false)) = some primitive ∧
      Reads conversions smc key false ((primitive.doubleOrNull conversions).filter rpmInRange) :=
  reads_number hround fun x hx hnonneg _ => by rw [rpmInRange, hx, hnonneg]; rfl

lemma reads_temperature (smc : SmcState) (key : FourChars) :
    ∃ primitive, jsonPrimitive (numberElement (shown smc key true)) = some primitive ∧
      Reads conversions smc key true
        ((primitive.doubleOrNull conversions).filter temperatureInRange) :=
  reads_number hround fun x hx _ hbetween => by
    rw [temperatureInRange, hx, (hbetween rfl).1, (hbetween rfl).2]
    rfl

omit hround in
lemma selected_names : ∀ sensor ∈ selected, length sensor.2 = 4 ∧
    sensor.2.toList.head? = some 'T' ∧ temperatureLabel sensor.2 = .observedOnMac15_7 := by
  decide

omit hround in
lemma jsonPrimitive_number (literal : JsonNumber) :
    jsonPrimitive (.number literal) = some (.number literal) := rfl

omit hround in
lemma jsonPrimitive_string (content : String) :
    jsonPrimitive (.string content) = some (.string content) := rfl

omit hround in
/-- The index printed for a fan is read as that index. -/
lemma index_read {fan : ℕ} (hfan : fan ≤ 9) :
    (JsonPrimitive.number ⟨false, decimal fan, []⟩).intOrNull conversions = some (fan : ℤ) := by
  rw [JsonPrimitive.intOrNull]
  dsimp only
  rw [ofDigits_decimal, if_neg Bool.false_ne_true, if_pos ⟨rfl, by omega, by omega⟩]

omit hround in
lemma parseRpm_some {fan : List (String × JsonElement)} {name : String} {element : JsonElement}
    {primitive : JsonPrimitive} (hvalue : getValue fan name = some element)
    (hprimitive : jsonPrimitive element = some primitive) :
    parseRpm conversions fan name =
      some ((primitive.doubleOrNull conversions).filter rpmInRange) := by
  rw [parseRpm, hvalue, Option.bind_eq_bind, Option.bind_some, hprimitive]
  rfl

omit hround in
/-- A fan's object, from its members. -/
lemma parseFan_some {fan : List (String × JsonElement)} {literal : JsonNumber} {index : ℤ}
    {actualRpm minRpm maxRpm : Option Double}
    (hliteral : getValue fan "index" = some (.number literal))
    (hindex : (JsonPrimitive.number literal).intOrNull conversions = some index)
    (hactual : parseRpm conversions fan "actual_rpm" = some actualRpm)
    (hmin : parseRpm conversions fan "min_rpm" = some minRpm)
    (hmax : parseRpm conversions fan "max_rpm" = some maxRpm) (hvalid : 0 ≤ index ∧ index ≤ 9) :
    parseFan conversions measuredAt (.object fan) =
      some ⟨index, actualRpm, minRpm, maxRpm, measuredAt, hvalid⟩ := by
  rw [parseFan, jsonObject]
  simp only [hliteral, hindex, hactual, hmin, hmax, jsonPrimitive_number, Option.bind_eq_bind,
    Option.bind_some, dif_pos hvalid]

lemma parseFan_shows {fan : ℕ} (hfan : fan ≤ 9) :
    ∃ snapshot, parseFan conversions measuredAt (fanElement smc fan) = some snapshot ∧
      FanShows conversions smc measuredAt fan snapshot := by
  obtain ⟨actual, hactual, hactualReads⟩ := reads_rpm hround smc (fanKeyAt fan 'A' 'c')
  obtain ⟨least, hleast, hleastReads⟩ := reads_rpm hround smc (fanKeyAt fan 'M' 'n')
  obtain ⟨most, hmost, hmostReads⟩ := reads_rpm hround smc (fanKeyAt fan 'M' 'x')
  have hvalid : 0 ≤ (fan : ℤ) ∧ (fan : ℤ) ≤ 9 := by omega
  exact ⟨_, parseFan_some (by simp [getValue]) (index_read hfan)
    (parseRpm_some (by simp [getValue]) hactual) (parseRpm_some (by simp [getValue]) hleast)
    (parseRpm_some (by simp [getValue]) hmost) hvalid,
    ⟨rfl, hactualReads, hleastReads, hmostReads, rfl⟩⟩

lemma parseTemperature_shows {sensor : FourChars × String} (hsensor : sensor ∈ selected) :
    ∃ reading, parseTemperature conversions measuredAt (temperatureElement smc sensor) =
      some reading ∧ TemperatureShows conversions smc measuredAt sensor reading := by
  obtain ⟨celsius, hcelsius, hreads⟩ := reads_temperature hround smc sensor.1
  have hname : length sensor.2 = 4 ∧ sensor.2.toList.head? = some 'T' ∧
      temperatureLabel sensor.2 = .observedOnMac15_7 := selected_names sensor hsensor
  refine ⟨⟨sensor.2, (celsius.doubleOrNull conversions).filter temperatureInRange, measuredAt,
    temperatureLabel sensor.2⟩, ?_, ⟨rfl, hreads, rfl, hname.2.2⟩⟩
  simp [parseTemperature, temperatureElement, jsonObject, getValue, hcelsius,
    jsonPrimitive_string, JsonPrimitive.content, hname]

lemma parseFans_show (smc : SmcState) (measuredAt : Instant) {n : ℕ} (hten : n ≤ 10) :
    ∃ fans, ((List.range n).map (fanElement smc)).mapM (parseFan conversions measuredAt) =
      some fans ∧ List.Forall₂ (FanShows conversions smc measuredAt) (List.range n) fans := by
  refine mapM_shows fun fan hfan => parseFan_shows hround ?_
  have hlt := List.mem_range.mp hfan
  omega

lemma parseSelected_show (smc : SmcState) (measuredAt : Instant) :
    ∃ readings, (selected.map (temperatureElement smc)).mapM
        (parseTemperature conversions measuredAt) = some readings ∧
      List.Forall₂ (TemperatureShows conversions smc measuredAt) selected readings := by
  exact mapM_shows fun sensor hsensor => parseTemperature_shows hround hsensor

end Parse

/-- The printed count is read as itself. -/
lemma count_read (conversions : Conversions) {smc : SmcState} {count : Double}
    (h : fanCount smc = some count) :
    (JsonPrimitive.number (literal 0 count)).intOrNull conversions =
        some (StatusReader.fans count : ℤ) ∧
      (StatusReader.fans count : ℚ) = count.value ∧ StatusReader.fans count ≤ 10 := by
  obtain ⟨hread, hchecks⟩ := Option.filter_eq_some_iff.mp h
  have hfinite := readFiniteNumber_finite hread
  simp only [Bool.and_eq_true, decide_eq_true_eq] at hchecks
  obtain ⟨⟨hlow, hhigh⟩, hwhole⟩ := hchecks
  rw [le_of_isfinite (isfinite_finite _) hfinite, value_finite, decide_eq_true_eq] at hlow
  rw [le_of_isfinite hfinite (isfinite_finite _), value_finite, decide_eq_true_eq] at hhigh
  have hvalue : (StatusReader.fans count : ℚ) = count.value := by
    rw [StatusReader.fans, natCast_floor_eq_intCast_floor hlow, hwhole]
  have hten : StatusReader.fans count ≤ 10 := by
    have hle : (StatusReader.fans count : ℚ) ≤ 10 := hvalue.trans_le hhigh
    exact_mod_cast hle
  refine ⟨?_, hvalue, hten⟩
  have hliteral : literal 0 count =
      .fixed (decide (count = negZero)) 0 (StatusReader.fans count) := by
    cases count with
    | finite q =>
      have hsign : decide (q < 0) = decide (finite q = negZero) := by
        simpa using hlow
      have habs : |q| = q := abs_of_nonneg hlow
      rw [literal, hsign, habs, pow_zero, mul_one]
      rw [value_finite] at hvalue
      have hrounded : Binary32.roundHalfEven q = StatusReader.fans (finite q) := by
        conv_lhs => rw [← hvalue]
        exact Binary32.roundHalfEven_natCast _
      rw [hrounded]
    | negZero =>
      have hzero : StatusReader.fans negZero = 0 := by
        rw [StatusReader.fans, value_negZero, Nat.floor_zero]
      rw [hzero]
      rfl
    | inf negative => cases hfinite
    | nan => cases hfinite
  have hsame : (if decide (count = negZero) = true then -(StatusReader.fans count : ℤ)
      else StatusReader.fans count) = StatusReader.fans count := by
    split
    · rename_i hneg
      rw [of_decide_eq_true hneg, StatusReader.fans, value_negZero, Nat.floor_zero]
      rfl
    · rfl
  rw [hliteral, JsonPrimitive.intOrNull, JsonNumber.fixed, pow_zero, Nat.div_one]
  dsimp only
  rw [ofDigits_decimal, hsame, if_pos ⟨rfl, by omega, by omega⟩]

lemma countElement_read (conversions : Conversions) (smc : SmcState) :
    ∃ primitive, jsonPrimitive (countElement smc) = some primitive ∧
      Option.Rel Declares (fanCount smc) (primitive.intOrNull conversions) ∧
      ((primitive.intOrNull conversions).getD 0).toNat = fanTotal smc ∧ fanTotal smc ≤ 10 := by
  unfold countElement fanTotal
  cases hcount : fanCount smc with
  | none => exact ⟨.null, rfl, .none, rfl, Nat.zero_le _⟩
  | some count =>
    obtain ⟨hread, hvalue, hten⟩ := count_read conversions hcount
    refine ⟨_, rfl, ?_, ?_, hten⟩
    · rw [hread]
      exact .some ⟨by exact_mod_cast hvalue, by omega, by omega⟩
    · rw [hread]
      rfl

lemma schema_read :
    (JsonPrimitive.number ⟨false, [1], []⟩).intOrNull conversions = some 1 := by
  have hone : ofDigits [1] = 1 := rfl
  rw [JsonPrimitive.intOrNull]
  dsimp only
  rw [hone, if_neg Bool.false_ne_true, if_pos ⟨rfl, by norm_num, by norm_num⟩]
  rfl

/-- The members of the document. -/
lemma getValue_status (smc : SmcState) :
    getValue (statusMembers smc) "schema" = some (.number ⟨false, [1], []⟩) ∧
      getValue (statusMembers smc) "fan_count" = some (countElement smc) ∧
      getValue (statusMembers smc) "fans" =
        some (.array ((List.range (fanTotal smc)).map (fanElement smc))) ∧
      getValue (statusMembers smc) "cpu_key" = some (.string "TCMz") ∧
      getValue (statusMembers smc) "cpu_temp_c" =
        some (numberElement (shown smc keyTCMz true)) ∧
      getValue (statusMembers smc) "selected_temperatures" =
        some (.array (selected.map (temperatureElement smc))) := by
  refine ⟨?_, ?_, ?_, ?_, ?_, ?_⟩ <;> simp [getValue, statusMembers]

/-- The snapshot of a document, from its members. -/
lemma parseSnapshot_some {measuredAt : Instant} {root : List (String × JsonElement)}
    {schema : JsonNumber} {count cpu : JsonElement} {countPrimitive cpuPrimitive : JsonPrimitive}
    {elements temperatures : List JsonElement} {fans : List (FanSnapshot Instant)}
    {readings : List (TemperatureReading Instant)}
    (hschema : getValue root "schema" = some (.number schema))
    (hone : (JsonPrimitive.number schema).intOrNull conversions = some 1)
    (hkey : getValue root "cpu_key" = some (.string "TCMz"))
    (hcount : getValue root "fan_count" = some count)
    (hcountPrimitive : jsonPrimitive count = some countPrimitive)
    (helements : getValue root "fans" = some (.array elements))
    (hfans : elements.mapM (parseFan conversions measuredAt) = some fans)
    (hcpu : getValue root "cpu_temp_c" = some cpu)
    (hcpuPrimitive : jsonPrimitive cpu = some cpuPrimitive)
    (htemperatures : getValue root "selected_temperatures" = some (.array temperatures))
    (hreadings : temperatures.mapM (parseTemperature conversions measuredAt) = some readings) :
    parseSnapshot conversions measuredAt (.object root) =
      some { declaredFanCount := countPrimitive.intOrNull conversions
             fans := fans
             cpuTemperature := ⟨"TCMz", (cpuPrimitive.doubleOrNull conversions).filter
              temperatureInRange, measuredAt, .observedOnMac15_7⟩
             selectedTemperatures := readings } := by
  rw [parseSnapshot, jsonObject]
  simp only [hschema, hone, hkey, hcount, hcountPrimitive, helements, hfans, hcpu, hcpuPrimitive,
    htemperatures, hreadings, jsonPrimitive_number, jsonPrimitive_string, JsonPrimitive.content,
    jsonArray, Option.bind_eq_bind, Option.bind_some, ne_eq, not_true_eq_false, if_false]

/-- The line printed for any state of the SMC is a JSON document, and Kotlin reads from it, without
an exception, a snapshot that agrees with the reader field by field. -/
theorem status_snapshot_agrees {Instant : Type} (smc : SmcState) (conversions : Conversions)
    (measuredAt : Instant) (hround : RoundsDoubles conversions.round) :
    ∃ document : JsonElement, document.Plain ∧
      printStatusJson smc = document.text ++ ['\n'] ∧
      ∃ snapshot, parseSnapshot conversions measuredAt document = some snapshot ∧
        Agrees conversions smc measuredAt snapshot := by
  refine ⟨statusElement smc, statusElement_plain smc, printStatusJson_text smc, ?_⟩
  obtain ⟨countPrimitive, hcountPrimitive, hdeclared, htotal, hten⟩ :=
    countElement_read conversions smc
  obtain ⟨cpuPrimitive, hcpuPrimitive, hcpu⟩ := reads_temperature hround smc keyTCMz
  obtain ⟨fans, hfans, hfansShow⟩ := parseFans_show hround smc measuredAt hten
  obtain ⟨readings, hreadings, hreadingsShow⟩ := parseSelected_show hround smc measuredAt
  obtain ⟨hschema, hcount, helements, hkey, hcpuValue, htemperatures⟩ := getValue_status smc
  have hparse := parseSnapshot_some hschema schema_read hkey hcount hcountPrimitive helements hfans
    hcpuValue hcpuPrimitive htemperatures hreadings
  exact ⟨_, hparse, hdeclared, by rw [htotal]; exact hfansShow, ⟨rfl, hcpu, rfl, rfl⟩,
    hreadingsShow⟩

/-- An SMC with two fans whose other keys all read 50. -/
def fiftySmc : SmcState :=
  ⟨fun _ => some ⟨1, typeUi8⟩, fun key _ => some (.ofList [if key = keyFNum then 2 else 50])⟩

/-- Conversions that do not round at all. -/
def exactConversions : Conversions := ⟨finite, fun _ => none, fun _ => none⟩

theorem fifty_snapshot_agrees : ∃ document snapshot,
    printStatusJson fiftySmc = document.text ++ ['\n'] ∧
      parseSnapshot exactConversions () document = some snapshot ∧
      snapshot.declaredFanCount = some 2 ∧ snapshot.fans.length = 2 := by
  have hround : RoundsDoubles exactConversions.round :=
    ⟨fun p q h => decide_eq_true h, fun _ _ _ _ => rfl⟩
  obtain ⟨document, -, hline, snapshot, hparse, hagrees⟩ :=
    status_snapshot_agrees fiftySmc exactConversions () hround
  have hcount : fanCount fiftySmc = some (finite 2) := by decide
  have hdeclared : snapshot.declaredFanCount = some 2 := by
    have hrel := hagrees.count
    rw [hcount] at hrel
    generalize snapshot.declaredFanCount = declared at hrel ⊢
    cases hrel with
    | some hdeclares =>
      have hvalue := hdeclares.1
      rw [value_finite] at hvalue
      exact congrArg some (by exact_mod_cast hvalue)
  have hlength := hagrees.fans.length_eq
  rw [hdeclared] at hlength
  exact ⟨document, snapshot, hline, hparse, hdeclared, hlength.symm⟩

end KotlinRead
end Ventilator
