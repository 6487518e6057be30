import Ventilator.CallTreeLogic
import Ventilator.SupervisorOwnership

/-! The worker record: which contents its scan takes, and which of them its writer leaves. -/
namespace Ventilator
open CallTree TraceGuard

/-! The bytes of a text and the numerals among them. -/
section Numerals

lemma toList_byteArray (bytes : ByteArray) : bytes.toList = bytes.data.toList := by
  have hloop : ∀ (n i : ℕ) (r : List UInt8), bytes.size - i = n →
      ByteArray.toList.loop bytes i r = r.reverse ++ bytes.data.toList.drop i := by
    intro n
    induction n with
    | zero =>
      intro i r hn
      rw [ByteArray.toList.loop, if_neg (by omega), List.drop_eq_nil_of_le, List.append_nil]
      have : bytes.data.toList.length = bytes.size := Array.length_toList
      omega
    | succ n ih =>
      intro i r hn
      have hi : i < bytes.data.toList.length := by
        have : bytes.data.toList.length = bytes.size := Array.length_toList
        omega
      rw [ByteArray.toList.loop, if_pos (by omega), ih _ _ (by omega), List.drop_eq_getElem_cons hi,
        List.reverse_cons, List.append_assoc, List.singleton_append]
      have hget : bytes.get! i = bytes.data.toList[i] := by
        have hsize : i < bytes.data.size := by simpa using hi
        rw [Array.getElem_toList]
        exact getElem!_pos bytes.data i hsize
      rw [hget]
  rw [ByteArray.toList, hloop _ 0 [] rfl]
  simp

lemma toUTF8_append (s t : String) :
    (s ++ t).toUTF8.toList = s.toUTF8.toList ++ t.toUTF8.toList := by
  simp only [toList_byteArray]
  have h : (s ++ t).toUTF8 = s.toUTF8 ++ t.toUTF8 := String.toByteArray_append
  rw [h]
  simp


lemma numeral_of_lt {n : ℕ} (h : n < 10) : (toString n).toUTF8.toList = [48 + n.toUInt8] := by
  interval_cases n <;> decide +kernel

lemma numeral_of_ge {n : ℕ} (h : 10 ≤ n) : (toString n).toUTF8.toList =
    (toString (n / 10)).toUTF8.toList ++ [48 + (n % 10).toUInt8] := by
  have hrepr : toString n = toString (n / 10) ++ toString (n % 10) := Nat.repr_eq_repr_append_repr h
  rw [hrepr, toUTF8_append, numeral_of_lt (Nat.mod_lt _ (by omega))]

@[simp] lemma decimalValue_append (digits : List UInt8) (digit : UInt8) :
    decimalValue (digits ++ [digit]) = 10 * decimalValue digits + (digit.toNat - 48) := by
  simp [decimalValue]

lemma isDigit_iff {byte : UInt8} : isDigit byte = true ↔ 48 ≤ byte.toNat ∧ byte.toNat ≤ 57 := by
  simp [isDigit, UInt8.le_iff_toNat_le]

/-- A numeral without leading zeros. -/
def Plain (digits : List UInt8) : Prop := digits = [48] ∨ digits.head? ≠ some 48

lemma decimalValue_pos {digits : List UInt8} (hne : digits ≠ []) (hdigits : ∀ d ∈ digits, isDigit d = true)
    (hhead : digits.head? ≠ some 48) : 0 < decimalValue digits := by
  induction digits using List.reverseRecOn with
  | nil => exact absurd rfl hne
  | append_singleton digits digit ih =>
    rw [decimalValue_append]
    have hdigit := isDigit_iff.mp (hdigits digit (by simp))
    cases digits with
    | nil =>
      have hne48 : digit ≠ 48 := by simpa using hhead
      have : digit.toNat ≠ 48 := fun h => hne48 (UInt8.toNat_inj.mp h)
      omega
    | cons d ds =>
      have := ih (by simp) (fun d' hd' => hdigits d' (List.mem_append_left _ hd')) (by simpa using hhead)
      omega

/-- A plain numeral is the one that is written for its value. -/
lemma numeral_value {digits : List UInt8} (hne : digits ≠ [])
    (hdigits : ∀ d ∈ digits, isDigit d = true) (hplain : Plain digits) :
    (toString (decimalValue digits)).toUTF8.toList = digits := by
  induction digits using List.reverseRecOn with
  | nil => exact absurd rfl hne
  | append_singleton digits digit ih =>
    have hdigit := isDigit_iff.mp (hdigits digit (by simp))
    have hbyte : ∀ n, n = digit.toNat - 48 → 48 + n.toUInt8 = digit := by
      rintro n rfl
      apply UInt8.toNat_inj.mp
      simp [UInt8.toNat_add]
      omega
    rw [decimalValue_append]
    cases digits with
    | nil =>
      rw [show decimalValue [] = 0 from rfl, Nat.mul_zero, Nat.zero_add,
        numeral_of_lt (by omega), hbyte _ rfl]
      rfl
    | cons d ds =>
      have hrest : ∀ d' ∈ d :: ds, isDigit d' = true :=
        fun d' hd' => hdigits d' (List.mem_append_left _ hd')
      have hhead : (d :: ds).head? ≠ some 48 := by
        rcases hplain with h | h
        · simp at h
        · simpa using h
      have hpos := decimalValue_pos (by simp) hrest hhead
      rw [numeral_of_ge (by omega), hbyte _ (by omega)]
      congr 1
      rw [show (10 * decimalValue (d :: ds) + (digit.toNat - 48)) / 10 = decimalValue (d :: ds) by omega]
      exact ih (by simp) hrest (.inr hhead)

/-- The numeral that is written for a number. -/
lemma numeral_spec (n : ℕ) : (toString n).toUTF8.toList ≠ [] ∧
    (∀ d ∈ (toString n).toUTF8.toList, isDigit d = true) ∧ Plain (toString n).toUTF8.toList ∧
    decimalValue (toString n).toUTF8.toList = n := by
  induction n using Nat.strongRecOn with
  | ind n ih =>
    rcases Nat.lt_or_ge n 10 with hlt | hge
    · rw [numeral_of_lt hlt]
      interval_cases n <;> simp [Plain] <;> decide
    · obtain ⟨hne, hdigits, hplain, hvalue⟩ := ih (n / 10) (by omega)
      have hlast : (48 + (n % 10).toUInt8).toNat = 48 + n % 10 := by
        simp [UInt8.toNat_add]
        omega
      have hpos : 0 < n / 10 := by omega
      rw [numeral_of_ge hge]
      refine ⟨by simp, ?_, .inr ?_, ?_⟩
      · intro d hd
        rcases List.mem_append.mp hd with hd | hd
        · exact hdigits d hd
        · obtain rfl := List.mem_singleton.mp hd
          rw [isDigit_iff, hlast]
          omega
      · rw [List.head?_append_of_ne_nil _ hne]
        rcases hplain with hzero | hhead
        · rw [hzero] at hvalue
          have : decimalValue [48] = 0 := by decide
          omega
        · exact hhead
      · rw [decimalValue_append, hvalue, hlast]
        omega
end Numerals

/-! The texts the scan takes. -/
section Scan

lemma isSpace_iff {byte : UInt8} :
    isSpace byte = true ↔ byte.toNat = 32 ∨ 9 ≤ byte.toNat ∧ byte.toNat ≤ 13 := by
  simp [isSpace, UInt8.le_iff_toNat_le, ← UInt8.toNat_inj]

/-- A text whose first byte, if there is one, is not of the kind. -/
def Stops (kind : UInt8 → Bool) (text : List UInt8) : Prop := ∀ byte ∈ text.head?, kind byte = false

lemma takeWhile_stops {kind : UInt8 → Bool} {run text : List UInt8} (hrun : ∀ b ∈ run, kind b = true)
    (hstops : Stops kind text) : (run ++ text).takeWhile kind = run := by
  have htext : text.takeWhile kind = [] := by
    cases text with
    | nil => rfl
    | cons byte text => rw [List.takeWhile_cons_of_neg (by simp [hstops byte rfl])]
  rw [List.takeWhile_append_of_pos hrun, htext, List.append_nil]

lemma dropWhile_stops {kind : UInt8 → Bool} {run text : List UInt8} (hrun : ∀ b ∈ run, kind b = true)
    (hstops : Stops kind text) : (run ++ text).dropWhile kind = text := by
  have hsplit := List.takeWhile_append_dropWhile (p := kind) (l := run ++ text)
  rw [takeWhile_stops hrun hstops] at hsplit
  exact List.append_cancel_left hsplit

/-- A run of one kind is determined by the text it begins. -/
lemma run_unique {kind : UInt8 → Bool} {run run' text text' : List UInt8}
    (hrun : ∀ b ∈ run, kind b = true) (hrun' : ∀ b ∈ run', kind b = true)
    (hstops : Stops kind text) (hstops' : Stops kind text') (heq : run ++ text = run' ++ text') :
    run = run' ∧ text = text' := by
  have hruns : run = run' := by
    rw [← takeWhile_stops hrun hstops, heq, takeWhile_stops hrun' hstops']
  rw [hruns] at heq
  exact ⟨hruns, List.append_cancel_left heq⟩

lemma scanWord_iff {word : String} {text rest : List UInt8} :
    scanWord word text = some rest ↔ text = word.toUTF8.toList ++ rest := by
  rw [scanWord]
  constructor
  · intro h
    split at h
    · rename_i hprefix
      obtain ⟨more, rfl⟩ := List.isPrefixOf_iff_prefix.mp hprefix
      rw [List.drop_left] at h
      rw [Option.some.inj h]
    · cases h
  · rintro rfl
    rw [if_pos (List.isPrefixOf_iff_prefix.mpr ⟨rest, rfl⟩), List.drop_left]

/-- The parts of a text that the scan takes as a worker record. -/
structure ScannedRecord where
  first : List UInt8
  second : List UInt8
  third : List UInt8
  sign : List UInt8
  digits : List UInt8
  tail : List UInt8
  first_spaces : ∀ b ∈ first, isSpace b = true
  second_spaces : ∀ b ∈ second, isSpace b = true
  third_spaces : ∀ b ∈ third, isSpace b = true
  sign_known : sign = [] ∨ sign = [43] ∨ sign = [45]
  digits_digits : ∀ b ∈ digits, isDigit b = true
  digits_ne : digits ≠ []
  tail_spaces : ∀ b ∈ tail, isSpace b = true

namespace ScannedRecord

/-- The text from the number on. -/
def number (record : ScannedRecord) : List UInt8 := record.sign ++ (record.digits ++ record.tail)

def bytes (record : ScannedRecord) : List UInt8 :=
  "Ventilator".toUTF8.toList ++ (record.first ++ ("worker".toUTF8.toList ++ (record.second ++
    ("v1".toUTF8.toList ++ (record.third ++ record.number)))))

def recorded (record : ScannedRecord) : Int :=
  if record.sign = [45] then -(decimalValue record.digits : Int) else decimalValue record.digits

/-- One space between the words, no sign, no leading zero and one newline at the end. -/
structure Exact (record : ScannedRecord) : Prop where
  first : record.first = [32]
  second : record.second = [32]
  third : record.third = [32]
  sign : record.sign = []
  digits : Plain record.digits
  tail : record.tail = [10]

variable (record : ScannedRecord)

lemma tail_stops : Stops isDigit record.tail := by
  intro byte hbyte
  have hspace := isSpace_iff.mp (record.tail_spaces byte (List.mem_of_mem_head? hbyte))
  have hdigit : ¬ isDigit byte = true := fun h => by
    have := isDigit_iff.mp h
    omega
  exact eq_false_of_ne_true hdigit

/-- The first digit, with what comes after it. -/
lemma digits_cons : ∃ digit rest, record.digits = digit :: rest ∧ isDigit digit = true := by
  cases hdigits : record.digits with
  | nil => exact absurd hdigits record.digits_ne
  | cons digit rest => exact ⟨digit, rest, rfl, record.digits_digits digit (by simp [hdigits])⟩

lemma number_stops : Stops isSpace record.number := by
  obtain ⟨digit, rest, hdigits, hdigit⟩ := record.digits_cons
  have hnumber := isDigit_iff.mp hdigit
  have hspace : isSpace digit = false := eq_false_of_ne_true fun h => by
    have := isSpace_iff.mp h
    omega
  rw [number, hdigits]
  rcases record.sign_known with hsign | hsign | hsign <;> rw [hsign] <;> intro byte hbyte
  · obtain rfl : digit = byte := by simpa using hbyte
    exact hspace
  · obtain rfl : 43 = byte := by simpa using hbyte
    rfl
  · obtain rfl : 45 = byte := by simpa using hbyte
    rfl

lemma word_stops {word : String} (byte : UInt8) (rest : List UInt8) {text : List UInt8}
    (hword : word.toUTF8.toList = byte :: rest) (hbyte : isSpace byte = false) :
    Stops isSpace (word.toUTF8.toList ++ text) := by
  rw [hword]
  intro byte' hbyte'
  obtain rfl : byte = byte' := by simpa using hbyte'
  exact hbyte

lemma worker_stops {text : List UInt8} : Stops isSpace ("worker".toUTF8.toList ++ text) :=
  word_stops 119 [111, 114, 107, 101, 114] (by decide +kernel) rfl

lemma v1_stops {text : List UInt8} : Stops isSpace ("v1".toUTF8.toList ++ text) :=
  word_stops 118 [49] (by decide +kernel) rfl

/-- The sign of a number that begins with a digit or with its sign. -/
lemma scanSign_number : scanSign record.number =
    (decide (record.sign = [45]), record.digits ++ record.tail) := by
  obtain ⟨digit, rest, hdigits, hdigit⟩ := record.digits_cons
  have hnumber := isDigit_iff.mp hdigit
  have hminus : digit ≠ 45 := by
    rintro rfl
    exact absurd hnumber.1 (by decide)
  have hplus : digit ≠ 43 := by
    rintro rfl
    exact absurd hnumber.1 (by decide)
  rw [number, hdigits]
  rcases record.sign_known with hsign | hsign | hsign <;> rw [hsign]
  · simp [scanSign, hminus, hplus]
  · rfl
  · rfl

lemma scanLong_number :
    scanLong record.number = some (record.recorded, record.tail) := by
  have hnone : ∀ b ∈ ([] : List UInt8), isSpace b = true := by simp
  have hskip : skipSpaces record.number = record.number :=
    dropWhile_stops hnone record.number_stops
  rw [scanLong, hskip, scanSign_number]
  dsimp only
  rw [takeWhile_stops record.digits_digits record.tail_stops,
    dropWhile_stops record.digits_digits record.tail_stops, if_neg record.digits_ne, recorded]
  simp

lemma bytes_nonzero : ∀ b ∈ record.bytes, (b != 0) = true := by
  have hspaces : ∀ {run : List UInt8}, (∀ b ∈ run, isSpace b = true) → ∀ b ∈ run, (b != 0) = true := by
    intro run hrun b hb
    refine bne_iff_ne.mpr fun hzero => ?_
    rw [hzero] at hb
    exact absurd (hrun 0 hb) (by decide)
  have hdigits : ∀ b ∈ record.digits, (b != 0) = true := fun b hb => bne_iff_ne.mpr fun hzero => by
    rw [hzero] at hb
    exact absurd (record.digits_digits 0 hb) (by decide)
  have hsign : ∀ b ∈ record.sign, (b != 0) = true := by
    rcases record.sign_known with h | h | h <;> rw [h] <;> simp
  have hfirst : ∀ b ∈ "Ventilator".toUTF8.toList, (b != 0) = true := by decide +kernel
  have hsecond : ∀ b ∈ "worker".toUTF8.toList, (b != 0) = true := by decide +kernel
  have hthird : ∀ b ∈ "v1".toUTF8.toList, (b != 0) = true := by decide +kernel
  simp only [bytes, number, List.forall_mem_append]
  exact ⟨hfirst, hspaces record.first_spaces, hsecond, hspaces record.second_spaces, hthird,
    hspaces record.third_spaces, hsign, hdigits, hspaces record.tail_spaces⟩

/-- The scan takes the number of a record. -/
lemma scanWorker_bytes : scanWorker record.bytes = some record.recorded := by
  have hwhole : record.bytes.takeWhile (· != 0) = record.bytes :=
    List.takeWhile_eq_self_iff.mpr record.bytes_nonzero
  have hfirst : ∀ text, scanWord "Ventilator" ("Ventilator".toUTF8.toList ++ text) = some text :=
    fun _ => scanWord_iff.mpr rfl
  have hsecond : ∀ text, scanWord "worker" ("worker".toUTF8.toList ++ text) = some text :=
    fun _ => scanWord_iff.mpr rfl
  have hthird : ∀ text, scanWord "v1" ("v1".toUTF8.toList ++ text) = some text :=
    fun _ => scanWord_iff.mpr rfl
  have htail : skipSpaces record.tail = [] := by
    have hend : Stops isSpace [] := nofun
    have hskip := dropWhile_stops record.tail_spaces hend
    rwa [List.append_nil] at hskip
  rw [scanWorker, hwhole]
  conv_lhs => rw [bytes]
  simp only [Option.bind_eq_bind, hfirst, Option.bind_some]
  rw [skipSpaces, dropWhile_stops record.first_spaces worker_stops, hsecond, Option.bind_some,
    skipSpaces, dropWhile_stops record.second_spaces v1_stops, hthird, Option.bind_some,
    skipSpaces, dropWhile_stops record.third_spaces record.number_stops, scanLong_number]
  simp [htail]

/-- No text has two readings. -/
lemma bytes_injective : Function.Injective bytes := by
  intro record record' heq
  obtain ⟨hfirst, heq⟩ := run_unique record.first_spaces record'.first_spaces worker_stops
    worker_stops (List.append_cancel_left heq)
  obtain ⟨hsecond, heq⟩ := run_unique record.second_spaces record'.second_spaces v1_stops
    v1_stops (List.append_cancel_left heq)
  obtain ⟨hthird, heq⟩ := run_unique record.third_spaces record'.third_spaces record.number_stops
    record'.number_stops (List.append_cancel_left heq)
  have hsigned := scanSign_number record
  rw [heq, scanSign_number, Prod.mk.injEq, decide_eq_decide] at hsigned
  obtain ⟨hdigits, htail⟩ := run_unique record.digits_digits record'.digits_digits
    record.tail_stops record'.tail_stops hsigned.2.symm
  have hsign : record.sign = record'.sign := by
    rw [number, number, hsigned.2] at heq
    exact List.append_cancel_right heq
  cases record
  cases record'
  simp only [mk.injEq]
  exact ⟨hfirst, hsecond, hthird, hsign, hdigits, htail⟩

end ScannedRecord

/-- `%ld` reads a sign, digits and what is left. -/
lemma scanLong_some {text rest : List UInt8} {value : Int} (h : scanLong text = some (value, rest)) :
    ∃ spaces sign digits, text = spaces ++ (sign ++ (digits ++ rest)) ∧
      (∀ b ∈ spaces, isSpace b = true) ∧ (sign = [] ∨ sign = [43] ∨ sign = [45]) ∧
      (∀ b ∈ digits, isDigit b = true) ∧ digits ≠ [] ∧
      value = if sign = [45] then -(decimalValue digits : Int) else decimalValue digits := by
  have hsign : ∀ text, ∃ sign, (sign = [] ∨ sign = [43] ∨ sign = [45]) ∧
      text = sign ++ (scanSign text).2 ∧ ((scanSign text).1 = true ↔ sign = [45]) := by
    intro text
    unfold scanSign
    split
    · exact ⟨[45], .inr (.inr rfl), rfl, by simp⟩
    · exact ⟨[43], .inr (.inl rfl), rfl, by simp⟩
    · exact ⟨[], .inl rfl, rfl, by simp⟩
  obtain ⟨sign, hknown, hsplit, hminus⟩ := hsign (skipSpaces text)
  rw [scanLong] at h
  dsimp only at h
  split at h
  · cases h
  rename_i hne
  obtain ⟨hvalue, hrest⟩ := Prod.mk.inj (Option.some.inj h)
  refine ⟨text.takeWhile isSpace, sign, (scanSign (skipSpaces text)).2.takeWhile isDigit, ?_,
    fun b hb => List.mem_takeWhile_imp hb, hknown, fun b hb => List.mem_takeWhile_imp hb, hne, ?_⟩
  · rw [← hrest, List.takeWhile_append_dropWhile, ← hsplit]
    exact (List.takeWhile_append_dropWhile).symm
  · rw [← hvalue]
    simp only [hminus]

/-- The scan takes exactly the texts of records, with their numbers. -/
lemma scanWorker_iff {contents : List UInt8} {value : Int} : scanWorker contents = some value ↔
    ∃ record : ScannedRecord, record.bytes = contents ∧ record.recorded = value := by
  constructor
  swap
  · rintro ⟨record, rfl, rfl⟩
    exact record.scanWorker_bytes
  intro h
  obtain ⟨first, hfirst, h⟩ := Option.bind_eq_some_iff.mp h
  obtain ⟨second, hsecond, h⟩ := Option.bind_eq_some_iff.mp h
  obtain ⟨third, hthird, h⟩ := Option.bind_eq_some_iff.mp h
  obtain ⟨⟨recorded, rest⟩, hlong, h⟩ := Option.bind_eq_some_iff.mp h
  dsimp only at h
  split at h
  swap
  · cases h
  rename_i hend
  obtain rfl := Option.some.inj h
  have hwhole : contents.takeWhile (· != 0) = contents :=
    (List.takeWhile_prefix _).eq_of_length hend.2
  have hskip : ∀ text, text.takeWhile isSpace ++ skipSpaces text = text :=
    fun _ => List.takeWhile_append_dropWhile
  have hspaces : ∀ (text : List UInt8), ∀ b ∈ text.takeWhile isSpace, isSpace b = true :=
    fun _ _ hb => List.mem_takeWhile_imp hb
  obtain ⟨spaces, sign, digits, hnumber, hgap, hsign, hdigits, hne, hvalue⟩ := scanLong_some hlong
  have hrest : ∀ b ∈ rest, isSpace b = true := by
    have hall := hspaces rest
    rwa [← List.append_nil (rest.takeWhile isSpace), ← hend.1, hskip] at hall
  have hthirdSpaces : ∀ b ∈ third.takeWhile isSpace ++ spaces, isSpace b = true :=
    List.forall_mem_append.mpr ⟨hspaces third, hgap⟩
  refine ⟨⟨first.takeWhile isSpace, second.takeWhile isSpace, third.takeWhile isSpace ++ spaces,
    sign, digits, rest, hspaces first, hspaces second, hthirdSpaces, hsign, hdigits, hne, hrest⟩,
    ?_, hvalue.symm⟩
  rw [hwhole] at hfirst
  rw [scanWord_iff] at hfirst hsecond hthird
  simp only [ScannedRecord.bytes, ScannedRecord.number]
  rw [List.append_assoc, ← hnumber, hskip, ← hthird, hskip, ← hsecond, hskip, ← hfirst]

/-- The record of a number as the writer prints it. -/
def printedRecord (n : ℕ) : ScannedRecord where
  first := [32]
  second := [32]
  third := [32]
  sign := []
  digits := (toString n).toUTF8.toList
  tail := [10]
  first_spaces := List.forall_mem_singleton.mpr rfl
  second_spaces := List.forall_mem_singleton.mpr rfl
  third_spaces := List.forall_mem_singleton.mpr rfl
  sign_known := .inl rfl
  digits_digits := (numeral_spec n).2.1
  digits_ne := (numeral_spec n).1
  tail_spaces := List.forall_mem_singleton.mpr rfl

lemma printedRecord_exact (n : ℕ) : (printedRecord n).Exact :=
  ⟨rfl, rfl, rfl, rfl, (numeral_spec n).2.2.1, rfl⟩

lemma printedRecord_recorded (n : ℕ) : (printedRecord n).recorded = n :=
  congrArg Nat.cast (numeral_spec n).2.2.2

lemma printedRecord_bytes {child : Pid} {n : ℕ} (h : child.toInt = n) :
    (printedRecord n).bytes = workerRecord child := by
  have hbegin : "Ventilator worker v1 ".toUTF8.toList = "Ventilator".toUTF8.toList ++ ([32] ++
      ("worker".toUTF8.toList ++ ([32] ++ ("v1".toUTF8.toList ++ [32])))) := by decide +kernel
  have hend : "\n".toUTF8.toList = [10] := by decide +kernel
  have hnumeral : toString child.toInt = toString n := by rw [h]; rfl
  rw [workerRecord, toUTF8_append, toUTF8_append, hbegin, hend, hnumeral]
  simp only [ScannedRecord.bytes, ScannedRecord.number, printedRecord, List.append_assoc,
    List.nil_append]

lemma ScannedRecord.Exact.eq_printed {record : ScannedRecord} (h : record.Exact) :
    record = printedRecord (decimalValue record.digits) := by
  have hdigits := numeral_value record.digits_ne record.digits_digits h.digits
  cases record
  obtain ⟨rfl, rfl, rfl, rfl, -, rfl⟩ := h
  simp only [printedRecord, ScannedRecord.mk.injEq, true_and, and_true]
  exact hdigits.symm

/-- The contents that `supervisor_ownership_record` writes for a PID. -/
def IsRecord (contents : List UInt8) (recorded : Int) : Prop :=
  ∃ child : Pid, 0 ≤ child ∧ child.toInt = recorded ∧ contents = workerRecord child

/-- Of the texts that are taken, the writer leaves those in the exact form. -/
lemma isRecord_iff {record : ScannedRecord} {recorded : Int} (hmax : record.recorded ≤ intMax) :
    IsRecord record.bytes recorded ↔ record.Exact ∧ record.recorded = recorded := by
  constructor
  · rintro ⟨child, hchild, rfl, hbytes⟩
    have hpos : 0 ≤ child.toInt := Int32.le_iff_toInt_le.mp hchild
    obtain ⟨n, hn⟩ := Int.eq_ofNat_of_zero_le hpos
    rw [← printedRecord_bytes hn] at hbytes
    obtain rfl := ScannedRecord.bytes_injective hbytes
    exact ⟨printedRecord_exact n, by rw [printedRecord_recorded, hn]⟩
  · rintro ⟨hexact, rfl⟩
    have hprinted := hexact.eq_printed
    generalize decimalValue record.digits = n at hprinted
    subst hprinted
    rw [printedRecord_recorded] at hmax ⊢
    rw [intMax] at hmax
    have htoInt : (Int32.ofInt n).toInt = n :=
      Int32.toInt_ofInt_of_le (by omega) (by omega)
    refine ⟨Int32.ofInt n, Int32.le_iff_toInt_le.mpr ?_, htoInt, printedRecord_bytes htoInt⟩
    rw [htoInt]
    exact Int.natCast_nonneg n

end Scan
end Ventilator
