import Ventilator.StatusReadings
import Ventilator.TemperatureReport

/-! The enumeration is printed as a JSON document, and the diagnostics read from it list the
temperature keys of the enumeration, whatever bytes they are made of. -/
namespace Ventilator
open Double JsonText

namespace StatusReader

/-! The texts of a key. -/

/-- The code points of a key. -/
def keyContent (key : FourChars) : List Char := key.toList.map fun b => Char.ofNat b.toNat

lemma toNat_ofNat_byte (b : UInt8) : (Char.ofNat b.toNat).toNat = b.toNat := by
  have hbyte : b.toNat < 256 := b.toNat_lt
  have hvalid : b.toNat.isValidChar := .inl (by omega)
  rw [Char.ofNat, dif_pos hvalid]
  rfl

lemma printJsonCharacter_text (b : UInt8) :
    CharText (Char.ofNat b.toNat) (printJsonCharacter b) := by
  by_cases hquote : b = '"'.toUInt8
  · subst hquote
    exact .escaped rfl
  by_cases hescape : b = '\\'.toUInt8
  · subst hescape
    exact .escaped rfl
  rw [printJsonCharacter, if_neg (not_or.mpr ⟨hquote, hescape⟩), List.nil_append]
  have hbyte : b.toNat < 256 := b.toNat_lt
  split
  · refine @CharText.unicode 0 0 ⟨b.toNat / 16, by omega⟩ ⟨b.toNat % 16, by omega⟩ _ ?_ (by omega)
    simp only [Fin.val_zero]
    omega
  · rename_i hprintable
    rw [not_or, UInt8.not_lt, UInt8.not_lt, UInt8.le_iff_toNat_le] at hprintable
    refine .plain ?_ ?_ ?_
    · rw [toNat_ofNat_byte]
      exact hprintable.1
    · intro heq
      have hsame := congrArg Char.toNat heq
      rw [toNat_ofNat_byte] at hsame
      exact hquote (UInt8.toNat_inj.mp hsame)
    · intro heq
      have hsame := congrArg Char.toNat heq
      rw [toNat_ofNat_byte] at hsame
      exact hescape (UInt8.toNat_inj.mp hsame)

lemma printJsonCharacters_text (bytes : List UInt8) :
    StringText (bytes.map fun b => Char.ofNat b.toNat)
      (bytes.flatMap printJsonCharacter ++ ['"']) := by
  induction bytes with
  | nil => exact .nil
  | cons b bytes ih =>
    rw [List.map_cons, List.flatMap_cons, List.append_assoc]
    exact .cons (printJsonCharacter_text b) ih

lemma printJsonKey_decodes (key : FourChars) :
    decodeLiteral (printJsonKey key) = some (keyContent key) :=
  decodeLiteral_stringText (printJsonCharacters_text key.toList)

/-! A key read into a value that held another one. -/

/-- The value holds what was read; bytes after its size may be left from before. -/
structure Holds (value left : SmcValue) : Prop where
  size : left.size = value.size
  type : left.type = value.type
  bytes : ∀ (i : ℕ) (hi : i < 32), i < value.size.toNat → left.bytes[i] = value.bytes[i]

lemma readKeyInto_holds (smc : SmcState) (name : FourChars) (old : SmcValue) :
    match readKey smc name with
    | none => (readKeyInto smc name old).1 = false
    | some value => ∃ left, readKeyInto smc name old = (true, left) ∧ Holds value left := by
  unfold readKey readKeyInto
  cases smc.keyInfo name with
  | none => rfl
  | some info =>
    simp only [Option.bind_eq_bind, Option.bind_some]
    by_cases hsize : info.size = 0 ∨ info.size > 32
    · rw [if_pos hsize, if_pos hsize]
    · rw [if_neg hsize, if_neg hsize]
      cases smc.bytes name info.size with
      | none => rfl
      | some bytes =>
        refine ⟨_, rfl, rfl, rfl, fun i hi hread => ?_⟩
        simp [copyBytes, SmcBytes.ofList, hread, hi]

namespace Holds

variable {value left : SmcValue}

lemma first (h : Holds value left) {size : UInt32} (hsize : size ≤ value.size) {i : ℕ}
    (hi : i < 32) (hfirst : i < size.toNat) : left.bytes[i] = value.bytes[i] :=
  h.bytes i hi (hfirst.trans_le (UInt32.le_iff_toNat_le.mp hsize))

lemma big16_eq (h : Holds value left) (hsize : 2 ≤ value.size) :
    big16 left.bytes = big16 value.bytes := by
  rw [big16, big16, h.first hsize (i := 0) (by decide) (by decide),
    h.first hsize (i := 1) (by decide) (by decide)]

lemma big32_eq (h : Holds value left) (hsize : 4 ≤ value.size) :
    big32 left.bytes = big32 value.bytes := by
  rw [big32, big32, h.first hsize (i := 0) (by decide) (by decide),
    h.first hsize (i := 1) (by decide) (by decide), h.first hsize (i := 2) (by decide) (by decide),
    h.first hsize (i := 3) (by decide) (by decide)]

lemma little32_eq (h : Holds value left) (hsize : 4 ≤ value.size) :
    little32 left.bytes = little32 value.bytes := by
  rw [little32, little32, h.first hsize (i := 0) (by decide) (by decide),
    h.first hsize (i := 1) (by decide) (by decide), h.first hsize (i := 2) (by decide) (by decide),
    h.first hsize (i := 3) (by decide) (by decide)]

/-- A number is read from bytes within the size only. -/
lemma readNumber_eq (h : Holds value left) : readNumber left = readNumber value := by
  rw [readNumber, readNumber]
  congr 1
  unfold decode
  rw [h.size, h.type]
  split_ifs with hflt hsp78 hfpe2 hui8 hui16 hui32
  · rw [h.little32_eq hflt.2]
  · rw [h.big16_eq hsp78.2]
  · rw [h.big16_eq hfpe2.2]
  · have hfirst : left.bytes.get 0 = value.bytes.get 0 :=
      h.first hui8.2 (i := 0) (by decide) (by decide)
    rw [hfirst]
  · rw [h.big16_eq hui16.2]
  · rw [h.big32_eq hui32.2]
  · rfl

end Holds

/-! The entries of the enumeration. -/

/-- The temperature the reader finds: a `flt` or `sp78` number in the range. -/
def foundTemperature (smc : SmcState) (key : FourChars) : Option Double :=
  (((readKey smc key).filter fun value =>
    exactType value.type typeFlt || exactType value.type typeSp78).bind readNumber).filter
      fun celsius => le (finite 10) celsius && le celsius (finite 115)

lemma foundTemperature_shown (smc : SmcState) (key : FourChars) :
    foundTemperature smc key = none ∨ foundTemperature smc key = shown smc key true := by
  unfold foundTemperature shown readFiniteNumber
  cases readKey smc key with
  | none => exact .inl rfl
  | some value =>
    rw [Option.filter_some]
    split
    · exact .inr rfl
    · exact .inl rfl

/-- What an earlier entry left in the value does not show in the printed temperature. -/
lemma printCelsius_text (smc : SmcState) (key : FourChars) (old : SmcValue) :
    printCelsius (readKeyInto smc key old).1 (readKeyInto smc key old).2 =
      (numberElement (foundTemperature smc key)).text := by
  have hread := readKeyInto_holds smc key old
  cases hkey : readKey smc key with
  | none =>
    rw [hkey] at hread
    rw [show (readKeyInto smc key old).1 = false from hread, foundTemperature, hkey]
    rfl
  | some value =>
    rw [hkey] at hread
    obtain ⟨left, hleft, hholds⟩ := hread
    rw [hleft, printCelsius, hholds.type, hholds.readNumber_eq, Bool.true_and]
    rw [foundTemperature, hkey, Option.filter_some]
    split
    · rw [Option.bind_some]
      cases hnumber : readNumber value with
      | none => rfl
      | some celsius =>
        have hfinite : celsius.isfinite = true := (Option.filter_eq_some_iff.mp hnumber).2
        rw [Option.filter_some]
        dsimp only
        split
        · exact printf_text hfinite
        · rfl
    · rfl

/-- A readable key and the temperature found at it. -/
abbrev Entry := FourChars × Option Double

/-- The entry at an index, where its key is readable and begins with a `T`. -/
def entryAt (smc : SmcEnumeration) (index : ℕ) : Option Entry :=
  ((readKeyAt smc index).filter fun key => key.get 0 = 'T'.toUInt8).map fun key =>
    (key, foundTemperature (smc.reading index) key)

def entryText (entry : Entry) : List Char :=
  "\x7b\"key\":".toList ++ printJsonKey entry.1 ++ ",\"celsius\":".toList ++
    (numberElement entry.2).text ++ ['}']

lemma printEntries_skip {smc : SmcEnumeration} {index : ℕ} (h : entryAt smc index = none)
    (indexes : List ℕ) (first : Bool) (value : SmcValue) :
    printEntries smc (index :: indexes) first value = printEntries smc indexes first value := by
  rw [entryAt, Option.map_eq_none_iff, Option.filter_eq_none_iff] at h
  rw [printEntries]
  cases hkey : readKeyAt smc index with
  | none => rfl
  | some key => exact if_pos fun htemperature => h key hkey (decide_eq_true htemperature)

lemma printEntries_entry {smc : SmcEnumeration} {index : ℕ} {entry : Entry}
    (h : entryAt smc index = some entry) (indexes : List ℕ) (first : Bool) (value : SmcValue) :
    ∃ left, printEntries smc (index :: indexes) first value =
      (if first then [] else [',']) ++ entryText entry ++ printEntries smc indexes false left := by
  obtain ⟨key, hkey, rfl⟩ := Option.map_eq_some_iff.mp h
  obtain ⟨hread, htemperature⟩ := Option.filter_eq_some_iff.mp hkey
  refine ⟨(readKeyInto (smc.reading index) key value).2, ?_⟩
  rw [printEntries, hread]
  refine (if_neg (not_not.mpr (of_decide_eq_true htemperature))).trans ?_
  dsimp only
  rw [printCelsius_text]
  unfold entryText
  simp only [List.append_assoc]

/-- The loop prints the entries of its indexes, with commas between them. -/
lemma printEntries_text (smc : SmcEnumeration) (indexes : List ℕ) (first : Bool)
    (value : SmcValue) : ∃ text,
      text = ((indexes.filterMap (entryAt smc)).flatMap fun entry => ',' :: entryText entry) ∧
        printEntries smc indexes first value = if first then text.tail else text := by
  refine ⟨_, rfl, ?_⟩
  induction indexes generalizing first value with
  | nil => cases first <;> rfl
  | cons index indexes ih =>
    rw [List.filterMap_cons]
    cases hentry : entryAt smc index with
    | none => rw [printEntries_skip hentry, ih]
    | some entry =>
      obtain ⟨left, hprint⟩ := printEntries_entry hentry indexes first value
      rw [hprint, ih, if_neg Bool.false_ne_true, List.flatMap_cons]
      cases first <;> rfl

/-! The document of the report. -/

def entryElement (entry : Entry) : JsonElement :=
  .object [("key", .string (String.ofList (keyContent entry.1))),
    ("celsius", numberElement entry.2)]

lemma numberElement_written (x : Option Double) :
    Written (numberElement x) (numberElement x).text := by
  cases x with
  | none => exact .null
  | some x =>
    cases x <;> exact .number (JsonNumber.fixed_valid ..)

/-- The texts between the values, as names and separators. -/
lemma keyText : "\x7b\"key\":".toList = '{' :: (quoted "key" ++ [':']) := by decide

lemma celsiusText : ",\"celsius\":".toList = ',' :: (quoted "celsius" ++ [':']) := by
  decide

lemma entryElement_written (entry : Entry) : Written (entryElement entry) (entryText entry) := by
  have hcontent : Written (.string (String.ofList (keyContent entry.1))) (printJsonKey entry.1) :=
    .string (by rw [String.toList_ofList]; exact printJsonCharacters_text _)
  obtain ⟨hkey, hcelsius, -⟩ := temperatureNames_plain
  unfold entryText
  rw [keyText, celsiusText]
  exact written_pair hkey hcelsius hcontent (numberElement_written entry.2)

lemma entries_written (entries : List Entry) : WrittenElements (entries.map entryElement)
    (entries.flatMap fun entry => ',' :: entryText entry) := by
  induction entries with
  | nil => exact .nil
  | cons entry entries ih => exact .cons (entryElement_written entry) ih

/-- The plausible count of keys that is read, big-endian or else little-endian. -/
def plausibleCount (smc : SmcState) : Option ℕ :=
  ((readKey smc keyCountName).filter fun value => 4 ≤ value.size).bind fun value =>
    [(big32 value.bytes).toNat, (little32 value.bytes).toNat].find? fun count =>
      0 < count ∧ count ≤ 20000

/-- The readable keys that begin with a `T`, in the order of their indexes. -/
def enumeratedKeys (smc : SmcEnumeration) : Option (List Entry) :=
  (plausibleCount smc.counting).map fun count => (List.range count).filterMap (entryAt smc)

def temperaturesElement : Option (List Entry) → JsonElement
  | none => .null
  | some entries => .array (entries.map entryElement)

def reportMembers (entries : Option (List Entry)) : List (String × JsonElement) :=
  [("schema", .number ⟨false, [1], []⟩), ("temperatures", temperaturesElement entries)]

lemma find_keyCount (bytes : SmcBytes) :
    ([(big32 bytes).toNat, (little32 bytes).toNat].find? fun count =>
      0 < count ∧ count ≤ 20000) =
      if keyCount bytes = 0 ∨ keyCount bytes > maxSmcKeys then none
      else some (keyCount bytes).toNat := by
  have hplausible : ∀ count : UInt32, decide (0 < count.toNat ∧ count.toNat ≤ 20000) =
      !decide (count = 0 ∨ count > maxSmcKeys) := by
    intro count
    rw [Bool.eq_iff_iff]
    simp only [decide_eq_true_eq, Bool.not_eq_true', decide_eq_false_iff_not, not_or, gt_iff_lt,
      UInt32.not_lt, UInt32.le_iff_toNat_le, ← UInt32.toNat_inj, maxSmcKeys, UInt32.reduceToNat]
    omega
  rw [List.find?_cons, List.find?_cons, List.find?_nil, hplausible, hplausible, keyCount]
  by_cases hbig : big32 bytes = 0 ∨ big32 bytes > maxSmcKeys
  · rw [if_pos hbig, decide_eq_true hbig]
    by_cases hlittle : little32 bytes = 0 ∨ little32 bytes > maxSmcKeys
    · rw [if_pos hlittle, decide_eq_true hlittle]
      rfl
    · rw [if_neg hlittle, decide_eq_false hlittle]
      rfl
  · rw [if_neg hbig, if_neg hbig, decide_eq_false hbig]
    rfl

lemma reportStart : "\x7b\"schema\":1,\"temperatures\":".toList =
    '{' :: (quoted "schema" ++ [':']) ++ (JsonNumber.mk false [1] []).text ++
      ',' :: (quoted "temperatures" ++ [':']) := by decide

lemma nullEnd : "null\x7d\n".toList = "null".toList ++ ['}', '\n'] := by decide

lemma arrayEnd : "]\x7d\n".toList = [']', '}', '\n'] := by decide

lemma report_written {entries : Option (List Entry)} {text : List Char}
    (h : Written (temperaturesElement entries) text) :
    Written (.object (reportMembers entries))
      ("\x7b\"schema\":1,\"temperatures\":".toList ++ text ++ ['}']) := by
  have hschema : PlainString "schema" := by decide
  have htemperatures : PlainString "temperatures" := by decide
  rw [reportStart]
  exact written_pair hschema htemperatures (.number (.inr ⟨1, [], rfl, by decide⟩)) h

/-- What is printed after the names: the temperatures, the end of the object and a newline. -/
lemma printTemperaturesJson_eq (smc : SmcEnumeration) : ∃ text,
    Written (temperaturesElement (enumeratedKeys smc)) text ∧ printTemperaturesJson smc =
      "\x7b\"schema\":1,\"temperatures\":".toList ++ text ++ ['}'] ++ ['\n'] := by
  have hread := readKeyInto_holds smc.counting keyCountName .zero
  unfold printTemperaturesJson enumeratedKeys plausibleCount
  cases hkey : readKey smc.counting keyCountName with
  | none =>
    rw [hkey] at hread
    refine ⟨"null".toList, .null, ?_⟩
    simp only [show (readKeyInto smc.counting keyCountName .zero).1 = false from hread]
    rw [if_pos (.inl Bool.false_ne_true), nullEnd]
    simp only [List.append_assoc, List.cons_append, List.nil_append]
  | some value =>
    rw [hkey] at hread
    obtain ⟨left, hleft, hholds⟩ := hread
    simp only [hleft, hholds.size, not_true_eq_false, false_or, Option.filter_some]
    by_cases hsize : value.size < 4
    · refine ⟨"null".toList, ?_, ?_⟩
      · have hsmall : ¬ (4 : UInt32) ≤ value.size := UInt32.not_le.mpr hsize
        rw [if_neg (by simpa using hsmall)]
        exact .null
      · rw [if_pos hsize, nullEnd]
        simp only [List.append_assoc, List.cons_append, List.nil_append]
    · have henough : (4 : UInt32) ≤ value.size := UInt32.not_lt.mp hsize
      have hcount : keyCount left.bytes = keyCount value.bytes := by
        rw [keyCount, keyCount, hholds.big32_eq henough, hholds.little32_eq henough]
      rw [if_neg hsize, if_pos (decide_eq_true henough), Option.bind_some, find_keyCount, hcount]
      by_cases himplausible : keyCount value.bytes = 0 ∨ keyCount value.bytes > maxSmcKeys
      · rw [if_pos himplausible, if_pos himplausible]
        refine ⟨"null".toList, .null, ?_⟩
        rw [nullEnd]
        simp only [List.append_assoc, List.cons_append, List.nil_append]
      · rw [if_neg himplausible, if_neg himplausible]
        obtain ⟨text, htext, hprint⟩ :=
          printEntries_text smc (List.range (keyCount value.bytes).toNat) true left
        refine ⟨'[' :: (text.tail ++ [']']), ?_, ?_⟩
        · rw [htext]
          exact .array (entries_written _)
        · rw [hprint, arrayEnd, if_pos rfl]
          simp only [List.append_assoc, List.cons_append, List.nil_append]

/-- The printed line is a text of the report and a newline. -/
lemma printTemperaturesJson_parses (smc : SmcEnumeration) :
    parseDocument (printTemperaturesJson smc) =
      some (.object (reportMembers (enumeratedKeys smc))) := by
  obtain ⟨text, hwritten, hprint⟩ := printTemperaturesJson_eq smc
  rw [hprint]
  exact (report_written hwritten).parseDocument

end StatusReader

/-! The diagnostics of the report. -/
namespace KotlinRead
open StatusReader

variable {Instant : Type} (conversions : Conversions) (measuredAt : Instant)

/-- A reading shows an entry: its four characters, and its temperature where one was found. -/
structure EntryShows (entry : Entry) (reading : TemperatureReading Instant) : Prop where
  rawKey : reading.rawKey.toList = keyContent entry.1
  celsius : Option.Rel (Shows conversions.round) entry.2 reading.celsius
  measuredAt : reading.measuredAt = measuredAt
  label : reading.labelConfidence = temperatureLabel reading.rawKey

/-- The readings are those of the enumeration, in its order, where keys were counted at all. -/
structure DiagnosticsShow (smc : SmcEnumeration) (snapshot : DiagnosticsSnapshot Instant) :
    Prop where
  counted : snapshot.temperatures = none ↔ plausibleCount smc.counting = none
  temperatures : Option.Rel (List.Forall₂ (EntryShows conversions measuredAt))
    (enumeratedKeys smc) snapshot.temperatures
  measuredAt : snapshot.measuredAt = measuredAt

variable {conversions measuredAt}

/-- A key of four bytes is a string of four UTF-16 units. -/
lemma length_keyContent (key : FourChars) : length (String.ofList (keyContent key)) = 4 := by
  have hunits : ∀ bytes : List UInt8, ((bytes.map fun b => Char.ofNat b.toNat).map fun c =>
      if c.toNat < 0x10000 then 1 else 2).sum = bytes.length := by
    intro bytes
    induction bytes with
    | nil => rfl
    | cons b bytes ih =>
      have hbyte : b.toNat < 256 := b.toNat_lt
      have hunit : (Char.ofNat b.toNat).toNat < 0x10000 := by
        rw [toNat_ofNat_byte]
        omega
      rw [List.map_cons, List.map_cons, List.sum_cons, ih, if_pos hunit, List.length_cons,
        Nat.add_comm]
  rw [length, String.toList_ofList, keyContent, hunits, Vector.length_toList]

lemma head_keyContent {key : FourChars} (h : key.get 0 = 'T'.toUInt8) :
    (keyContent key).head? = some 'T' := by
  have hhead : key.toList.head? = some (key.get 0) := by
    rw [List.head?_eq_getElem?, List.getElem?_eq_getElem (by simp)]
    simp [Vector.get_eq_getElem]
  rw [keyContent, List.head?_map, hhead, h]
  rfl

section Parse

variable {smc : SmcEnumeration} (hround : RoundsDoubles conversions.round)
include hround

lemma reads_found (smc : SmcState) (key : FourChars) :
    ∃ primitive, jsonPrimitive (numberElement (foundTemperature smc key)) = some primitive ∧
      Option.Rel (Shows conversions.round) (foundTemperature smc key)
        ((primitive.doubleOrNull conversions).filter temperatureInRange) := by
  rcases foundTemperature_shown smc key with hnone | hshown
  · rw [hnone]
    exact ⟨.null, rfl, .none⟩
  · rw [hshown]
    exact reads_temperature hround smc key

lemma parseEntry_shows {index : ℕ} {entry : Entry} (h : entryAt smc index = some entry) :
    ∃ reading, parseTemperature conversions measuredAt (entryElement entry) = some reading ∧
      EntryShows conversions measuredAt entry reading := by
  obtain ⟨key, hkey, rfl⟩ := Option.map_eq_some_iff.mp h
  have htemperature : key.get 0 = 'T'.toUInt8 :=
    of_decide_eq_true (Option.filter_eq_some_iff.mp hkey).2
  obtain ⟨celsius, hcelsius, hreads⟩ := reads_found hround (smc.reading index) key
  have hname : length (String.ofList (keyContent key)) = 4 ∧
      (String.ofList (keyContent key)).toList.head? = some 'T' := by
    rw [String.toList_ofList]
    exact ⟨length_keyContent key, head_keyContent htemperature⟩
  refine ⟨⟨String.ofList (keyContent key),
    (celsius.doubleOrNull conversions).filter temperatureInRange, measuredAt,
    temperatureLabel (String.ofList (keyContent key))⟩, ?_,
    ⟨String.toList_ofList, hreads, rfl, rfl⟩⟩
  simp [parseTemperature, entryElement, jsonObject, getValue, hcelsius, jsonPrimitive_string,
    JsonPrimitive.content, hname, -String.toList_ofList]

lemma parseEntries_show (smc : SmcEnumeration) (measuredAt : Instant) (indexes : List ℕ) :
    ∃ readings, ((indexes.filterMap (entryAt smc)).map entryElement).mapM
        (parseTemperature conversions measuredAt) = some readings ∧
      List.Forall₂ (EntryShows conversions measuredAt) (indexes.filterMap (entryAt smc))
        readings := by
  refine mapM_shows fun entry hentry => ?_
  obtain ⟨index, -, hindex⟩ := List.mem_filterMap.mp hentry
  exact parseEntry_shows hround hindex

end Parse

lemma getValue_report (entries : Option (List Entry)) :
    getValue (reportMembers entries) "schema" = some (.number ⟨false, [1], []⟩) ∧
      getValue (reportMembers entries) "temperatures" = some (temperaturesElement entries) := by
  refine ⟨?_, ?_⟩ <;> simp [getValue, reportMembers]

/-- Every key is written as a string literal of its four code points. The line printed for any
enumeration is a JSON document, and Kotlin reads from it, without an exception, no temperatures
where no plausible count was read and else the readable keys that begin with a `T`, in order. -/
theorem report_shows_enumeration {Instant : Type}
    (parseToJsonElement : List Char → Option JsonElement)
    (hparse : ∀ text element, parseDocument text = some element →
      parseToJsonElement text = some element)
    (conversions : Conversions) (hround : RoundsDoubles conversions.round) (measuredAt : Instant)
    (smc : SmcEnumeration) :
    (∀ key : FourChars, decodeLiteral (printJsonKey key) = some (keyContent key)) ∧
      (parseDocument (printTemperaturesJson smc)).isSome = true ∧
      ∃ snapshot, parseDiagnostics parseToJsonElement conversions measuredAt
          (printTemperaturesJson smc) = some snapshot ∧
        DiagnosticsShow conversions measuredAt smc snapshot := by
  have hdocument := printTemperaturesJson_parses smc
  have htext := hparse _ _ hdocument
  obtain ⟨hschema, htemperatures⟩ := getValue_report (enumeratedKeys smc)
  refine ⟨printJsonKey_decodes, by rw [hdocument]; rfl, ?_⟩
  rw [parseDiagnostics, htext]
  simp only [Option.bind_eq_bind, Option.bind_some, jsonObject, hschema, jsonPrimitive_number,
    schema_read, ne_eq, not_true_eq_false, if_false, htemperatures]
  unfold enumeratedKeys
  cases hcount : plausibleCount smc.counting with
  | none =>
    refine ⟨⟨none, measuredAt⟩, rfl, ?_, ?_, rfl⟩
    · exact iff_of_true rfl hcount
    · rw [enumeratedKeys, hcount]
      exact .none
  | some count =>
    obtain ⟨readings, hreadings, hshow⟩ := parseEntries_show hround smc measuredAt (List.range count)
    refine ⟨⟨some readings, measuredAt⟩, ?_, ?_, ?_, rfl⟩
    · simp only [Option.map_some, temperaturesElement, jsonArray, Option.bind_some, hreadings]
    · rw [hcount]
      exact iff_of_false (Option.some_ne_none _) (Option.some_ne_none _)
    · rw [enumeratedKeys, hcount]
      exact .some hshow

/-- An enumeration of three indexes: one that fails, a key with a quote and a backslash that reads
50, and a key of a fan. -/
def quotedEnumeration : SmcEnumeration where
  counting := ⟨fun _ => some ⟨4, typeUi32⟩, fun _ _ => some (.ofList [0, 0, 0, 3])⟩
  keyAt index := [none, some (fourChars 'T' '"' '\\' '0'),
    some (fourChars 'F' '0' 'A' 'c')].getD index none
  reading _ := ⟨fun _ => some ⟨2, typeSp78⟩, fun _ _ => some (.ofList [50, 0])⟩

theorem quoted_key_shown : ∃ snapshot reading,
    parseDiagnostics parseDocument exactConversions () (printTemperaturesJson quotedEnumeration) =
      some snapshot ∧ snapshot.temperatures = some [reading] ∧
      reading.rawKey.toList = ['T', '"', '\\', '0'] ∧ reading.celsius.isSome = true := by
  have hround : RoundsDoubles exactConversions.round :=
    ⟨fun p q h => decide_eq_true h, fun _ _ _ _ => rfl⟩
  obtain ⟨-, -, snapshot, hparse, hshow⟩ := report_shows_enumeration parseDocument
    (fun _ _ h => h) exactConversions hround () quotedEnumeration
  have hkeys : enumeratedKeys quotedEnumeration =
      some [(fourChars 'T' '"' '\\' '0', some (finite 50))] := by decide +kernel
  have hrel := hshow.temperatures
  rw [hkeys] at hrel
  generalize htemperatures : snapshot.temperatures = temperatures at hrel
  cases hrel with
  | some hreadings =>
    obtain ⟨reading, more, hentry, hnone, rfl⟩ := List.forall₂_cons_left_iff.mp hreadings
    obtain rfl := List.forall₂_nil_left_iff.mp hnone
    refine ⟨snapshot, reading, hparse, htemperatures, hentry.rawKey, ?_⟩
    have hcelsius := hentry.celsius
    generalize reading.celsius = celsius at hcelsius ⊢
    cases hcelsius with
    | some => rfl

end KotlinRead
end Ventilator
