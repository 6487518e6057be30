import Ventilator.JsonText

/-! A strict reader of JSON documents without insignificant whitespace, and that it reads every
element back from each of its texts, whatever escapes they use. -/
namespace JsonText

def digit? (c : Char) : Option Digit :=
  if h : 48 ≤ c.toNat ∧ c.toNat < 58 then some ⟨c.toNat - 48, by omega⟩ else none

lemma digit?_digitChar (digit : Digit) : digit? (digitChar digit) = some digit := by
  revert digit
  decide

def readDigits : List Char → List Digit × List Char
  | [] => ([], [])
  | c :: text =>
    match digit? c with
    | some digit => (digit :: (readDigits text).1, (readDigits text).2)
    | none => ([], c :: text)

def readSign : List Char → Bool × List Char
  | [] => (false, [])
  | c :: text => if c = '-' then (true, text) else (false, c :: text)

/-- The digits after a point, which must be there, or none where there is no point. -/
def readFraction : List Char → Option (List Digit × List Char)
  | [] => some ([], [])
  | c :: text =>
    if c = '.' then
      if (readDigits text).1 = [] then none else some (readDigits text)
    else some ([], c :: text)

/-- A number without an exponent. -/
def readNumber (text : List Char) : Option (JsonNumber × List Char) :=
  let sign := readSign text
  let whole := readDigits sign.2
  if whole.1 = [] ∨ (whole.1.head? = some 0 ∧ whole.1 ≠ [0]) then none
  else (readFraction whole.2).map fun fraction => (⟨sign.1, whole.1, fraction.1⟩, fraction.2)

/-! Strings. -/

def hexDigit? (c : Char) : Option (Fin 16) :=
  if h : 48 ≤ c.toNat ∧ c.toNat < 58 then some ⟨c.toNat - 48, by omega⟩
  else if h : 97 ≤ c.toNat ∧ c.toNat < 103 then some ⟨c.toNat - 87, by omega⟩
  else if h : 65 ≤ c.toNat ∧ c.toNat < 71 then some ⟨c.toNat - 55, by omega⟩
  else none

/-- A hexadecimal digit in lower case. -/
def hexChar (digit : Fin 16) : Char :=
  Char.ofNat (if digit.val < 10 then 48 + digit.val else 87 + digit.val)

lemma hexDigit?_hexChar (digit : Fin 16) : hexDigit? (hexChar digit) = some digit := by
  revert digit
  decide

/-- The character an escape of one letter stands for. -/
def unescape (c : Char) : Option Char :=
  if c = '"' ∨ c = '\\' ∨ c = '/' then some c
  else if c = 'b' then some (Char.ofNat 8)
  else if c = 'f' then some (Char.ofNat 12)
  else if c = 'n' then some '\n'
  else if c = 'r' then some '\r'
  else if c = 't' then some '\t'
  else none

/-- How far an escape has been read: how many hexadecimal digits are left, and their number. -/
inductive EscapeState
  | plain
  | escaped
  | unicode (left value : ℕ)

/-- The characters up to the closing quote. A surrogate does not stand for a character; pairs of
them are not read. -/
def readString : EscapeState → List Char → Option (List Char × List Char)
  | _, [] => none
  | .plain, c :: text =>
    if c = '"' then some ([], text)
    else if c = '\\' then readString .escaped text
    else if c.toNat < 0x20 then none
    else (readString .plain text).map fun (content, rest) => (c :: content, rest)
  | .escaped, c :: text =>
    if c = 'u' then readString (.unicode 4 0) text
    else do
      let (content, rest) ← readString .plain text
      some ((← unescape c) :: content, rest)
  | .unicode left value, c :: text =>
    match hexDigit? c with
    | none => none
    | some digit =>
      if 1 < left then readString (.unicode (left - 1) (16 * value + digit.val)) text
      else if 0xd800 ≤ 16 * value + digit.val ∧ 16 * value + digit.val < 0xe000 then none
      else (readString .plain text).map fun (content, rest) =>
        (Char.ofNat (16 * value + digit.val) :: content, rest)

/-- The characters of a string literal, which is all of the text. -/
def decodeLiteral : List Char → Option (List Char)
  | [] => none
  | c :: text =>
    if c = '"' then
      match readString .plain text with
      | some (content, []) => some content
      | _ => none
    else none

/-! Elements. -/

/-- The given word at the beginning of the text. -/
def readWord (word : List Char) (element : JsonElement) (text : List Char) :
    Option (JsonElement × List Char) :=
  if word <+: text then some (element, text.drop word.length) else none

mutual

/-- The element at the beginning of a text, and the rest of the text. -/
def read : ℕ → List Char → Option (JsonElement × List Char)
  | 0, _ => none
  | _ + 1, [] => none
  | fuel + 1, c :: text =>
    if c = '"' then (readString .plain text).map fun (content, rest) =>
      (.string (String.ofList content), rest)
    else if c = '[' then
      if text.head? = some ']' then some (.array [], text.tail)
      else (readElements fuel (',' :: text)).map fun (elements, rest) => (.array elements, rest)
    else if c = '{' then
      if text.head? = some '}' then some (.object [], text.tail)
      else (readMembers fuel (',' :: text)).map fun (members, rest) => (.object members, rest)
    else if c = 'n' then readWord "null".toList .null (c :: text)
    else if c = 't' then readWord "true".toList (.boolean true) (c :: text)
    else if c = 'f' then readWord "false".toList (.boolean false) (c :: text)
    else (readNumber (c :: text)).map fun (number, rest) => (.number number, rest)

/-- Elements, each after a comma, up to the closing bracket. -/
def readElements : ℕ → List Char → Option (List JsonElement × List Char)
  | 0, _ => none
  | _ + 1, [] => none
  | fuel + 1, c :: text =>
    if c = ']' then some ([], text)
    else if c = ',' then do
      let (element, rest) ← read fuel text
      let (elements, rest) ← readElements fuel rest
      some (element :: elements, rest)
    else none

def readMembers : ℕ → List Char → Option (List (String × JsonElement) × List Char)
  | 0, _ => none
  | _ + 1, [] => none
  | fuel + 1, c :: text =>
    if c = '}' then some ([], text)
    else if c = ',' then do
      if text.head? ≠ some '"' then none
      else
        let (name, rest) ← readString .plain text.tail
        if rest.head? ≠ some ':' then none
        else
          let (element, rest) ← read fuel rest.tail
          let (members, rest) ← readMembers fuel rest
          some ((String.ofList name, element) :: members, rest)
    else none

end

/-- A document, whose text may be followed by white space. -/
def parseDocument (text : List Char) : Option JsonElement :=
  match read (2 * text.length) text with
  | none => none
  | some (element, rest) =>
    if rest.all fun c => c = ' ' ∨ c = '\t' ∨ c = '\n' ∨ c = '\r' then some element else none

/-! The texts of an element. -/

/-- The texts of a character in a string. -/
inductive CharText : Char → List Char → Prop
  | plain {c : Char} (hcontrol : 0x20 ≤ c.toNat) (hquote : c ≠ '"') (hescape : c ≠ '\\') :
    CharText c [c]
  | escaped {c letter : Char} (h : unescape letter = some c) : CharText c ['\\', letter]
  | unicode {a b c d : Fin 16} {code : ℕ}
    (hcode : 16 * (16 * (16 * a.val + b.val) + c.val) + d.val = code)
    (hscalar : ¬ (0xd800 ≤ code ∧ code < 0xe000)) :
    CharText (Char.ofNat code) ['\\', 'u', hexChar a, hexChar b, hexChar c, hexChar d]

/-- The texts of the characters of a string, with its closing quote. -/
inductive StringText : List Char → List Char → Prop
  | nil : StringText [] ['"']
  | cons {c : Char} {content here more : List Char} (hhere : CharText c here)
    (hmore : StringText content more) : StringText (c :: content) (here ++ more)

mutual

/-- The texts of an element, with nothing between its tokens. -/
inductive Written : JsonElement → List Char → Prop
  | null : Written .null "null".toList
  | boolean (value : Bool) : Written (.boolean value) (if value then "true" else "false").toList
  | number {literal : JsonNumber} (hvalid : literal.Valid) :
    Written (.number literal) literal.text
  | string {content : String} {text : List Char} (h : StringText content.toList text) :
    Written (.string content) ('"' :: text)
  | array {elements : List JsonElement} {text : List Char} (h : WrittenElements elements text) :
    Written (.array elements) ('[' :: (text.tail ++ [']']))
  | object {members : List (String × JsonElement)} {text : List Char}
    (h : WrittenMembers members text) : Written (.object members) ('{' :: (text.tail ++ ['}']))

/-- The texts of elements, each after a comma. -/
inductive WrittenElements : List JsonElement → List Char → Prop
  | nil : WrittenElements [] []
  | cons {element : JsonElement} {elements : List JsonElement} {here more : List Char}
    (hhere : Written element here) (hmore : WrittenElements elements more) :
    WrittenElements (element :: elements) (',' :: (here ++ more))

inductive WrittenMembers : List (String × JsonElement) → List Char → Prop
  | nil : WrittenMembers [] []
  | cons {name : String} {element : JsonElement} {members : List (String × JsonElement)}
    {label here more : List Char} (hlabel : StringText name.toList label)
    (hhere : Written element here) (hmore : WrittenMembers members more) :
    WrittenMembers ((name, element) :: members) (',' :: '"' :: (label ++ ':' :: (here ++ more)))

end

lemma stringText_plain {content : List Char}
    (h : (content.all fun c => decide (0x20 ≤ c.toNat) && c != '"' && c != '\\') = true) :
    StringText content (content ++ ['"']) := by
  induction content with
  | nil => exact .nil
  | cons c content ih =>
    rw [List.all_cons, Bool.and_eq_true] at h
    obtain ⟨hc, hrest⟩ := h
    simp only [Bool.and_eq_true, decide_eq_true_eq, bne_iff_ne] at hc
    have htext := StringText.cons (.plain hc.1.1 hc.1.2 hc.2) (ih hrest)
    rwa [List.singleton_append] at htext

/-- An object of two members whose names need no escape. -/
lemma written_pair {a b : String} (ha : PlainString a) (hb : PlainString b) {x y : JsonElement}
    {first second : List Char} (hx : Written x first) (hy : Written y second) :
    Written (.object [(a, x), (b, y)])
      ('{' :: (quoted a ++ [':']) ++ first ++ ',' :: (quoted b ++ [':']) ++ second ++ ['}']) := by
  have hobject := Written.object
    (.cons (stringText_plain ha) hx (.cons (stringText_plain hb) hy .nil))
  simpa only [quoted, List.tail_cons, List.append_assoc, List.cons_append, List.nil_append,
    List.append_nil] using hobject

/-! Numbers are read back. -/

/-- The text goes on with neither a digit nor a point. -/
def EndsNumber (text : List Char) : Prop := ∀ c ∈ text.head?, digit? c = none ∧ c ≠ '.'

lemma endsNumber_cons {c : Char} (text : List Char) (h : digit? c = none ∧ c ≠ '.') :
    EndsNumber (c :: text) := by
  intro d hd
  obtain rfl : c = d := Option.some.inj hd
  exact h

lemma readDigits_append (digits : List Digit) {text : List Char}
    (h : ∀ c ∈ text.head?, digit? c = none) :
    readDigits (digits.map digitChar ++ text) = (digits, text) := by
  induction digits with
  | nil =>
    cases text with
    | nil => rfl
    | cons c text => simp [readDigits, h c (by simp)]
  | cons digit digits ih => simp [readDigits, digit?_digitChar, ih]

lemma readFraction_append (fraction : List Digit) {text : List Char} (h : EndsNumber text) :
    readFraction ((if fraction = [] then [] else '.' :: fraction.map digitChar) ++ text) =
      some (fraction, text) := by
  split
  · rename_i hnone
    rw [hnone, List.nil_append]
    cases text with
    | nil => rfl
    | cons c text => rw [readFraction, if_neg (h c rfl).2]
  · rename_i hsome
    rw [List.cons_append, readFraction, if_pos rfl,
      readDigits_append fraction fun c hc => (h c hc).1, if_neg hsome]

lemma digitChar_ne (digit : Digit) (c : Char) (h : digit? c = none) : digitChar digit ≠ c := by
  rintro rfl
  rw [digit?_digitChar] at h
  cases h

/-- The first digit of a literal is a zero only where it is the only one. -/
lemma JsonNumber.Valid.leading {number : JsonNumber} (h : number.Valid) :
    ∃ digit rest, number.whole = digit :: rest ∧ (digit = 0 → rest = []) := by
  rcases h with hzero | ⟨digit, rest, heq, hne⟩
  · exact ⟨0, [], hzero, fun _ => rfl⟩
  · exact ⟨digit, rest, heq, fun hdigit => absurd hdigit hne⟩

lemma readNumber_append {number : JsonNumber} (hvalid : number.Valid) {text : List Char}
    (h : EndsNumber text) : readNumber (number.text ++ text) = some (number, text) := by
  obtain ⟨negative, whole, fraction⟩ := number
  obtain ⟨digit, rest, rfl, hleading⟩ := hvalid.leading
  have hchecks : ¬ ((digit :: rest) = [] ∨
      ((digit :: rest).head? = some 0 ∧ (digit :: rest) ≠ [0])) := by
    rintro (hnil | ⟨hzero, hmore⟩)
    · cases hnil
    · obtain rfl := Option.some.inj hzero
      rw [hleading rfl] at hmore
      exact hmore rfl
  have hsign : readSign ((JsonNumber.mk negative (digit :: rest) fraction).text ++ text) =
      (negative, (digit :: rest).map digitChar ++
        ((if fraction = [] then [] else '.' :: fraction.map digitChar) ++ text)) := by
    cases negative with
    | true => simp [JsonNumber.text, readSign]
    | false => simp [JsonNumber.text, readSign, digitChar_ne digit '-' (by decide)]
  have hpoint : ∀ c ∈ ((if fraction = [] then [] else '.' :: fraction.map digitChar) ++
      text).head?, digit? c = none := by
    split
    · exact fun c hc => (h c hc).1
    · intro c hc
      obtain rfl : '.' = c := Option.some.inj hc
      decide
  rw [readNumber]
  simp only [hsign, readDigits_append _ hpoint, if_neg hchecks, readFraction_append fraction h]
  rfl

/-! Strings are read back. -/

lemma readString_charText {c : Char} {here : List Char} (h : CharText c here)
    (text : List Char) : readString .plain (here ++ text) =
      (readString .plain text).map fun (content, rest) => (c :: content, rest) := by
  cases h with
  | plain hcontrol hquote hescape =>
    rw [List.singleton_append, readString, if_neg hquote, if_neg hescape,
      if_neg (not_lt.mpr hcontrol)]
  | @escaped c letter h =>
    have hunicode : letter ≠ 'u' := by
      rintro rfl
      cases h
    have hread : readString .plain ('\\' :: letter :: text) = readString .escaped (letter :: text) :=
      rfl
    rw [List.cons_append, List.singleton_append, hread, readString, if_neg hunicode, h]
    cases readString .plain text <;> rfl
  | @unicode a b c d code hcode hscalar =>
    have hread : readString .plain
        (['\\', 'u', hexChar a, hexChar b, hexChar c, hexChar d] ++ text) =
        readString (.unicode 4 0) (hexChar a :: hexChar b :: hexChar c :: hexChar d :: text) := rfl
    have hvalue : 16 * (16 * (16 * (16 * 0 + a.val) + b.val) + c.val) + d.val = code := by omega
    rw [hread]
    simp only [readString, hexDigit?_hexChar, Nat.reduceLT, Nat.reduceSub, if_true, lt_irrefl,
      if_false, hvalue, if_neg hscalar]

lemma readString_stringText {content here : List Char} (h : StringText content here)
    (text : List Char) : readString .plain (here ++ text) = some (content, text) := by
  induction h with
  | nil => rfl
  | cons hhere _ ih => rw [List.append_assoc, readString_charText hhere, ih, Option.map_some]

lemma decodeLiteral_stringText {content text : List Char} (h : StringText content text) :
    decodeLiteral ('"' :: text) = some content := by
  have hread := readString_stringText h []
  rw [List.append_nil] at hread
  rw [decodeLiteral, if_pos rfl, hread]

/-! Elements are read back. -/

lemma readWord_append (word : List Char) (element : JsonElement) (text : List Char) :
    readWord word element (word ++ text) = some (element, text) := by
  rw [readWord, if_pos (List.prefix_append _ _), List.drop_left]

/-- A literal begins with its sign or a digit. -/
lemma JsonNumber.Valid.text_cons {number : JsonNumber} (h : number.Valid) :
    ∃ c text, number.text = c :: text ∧ (c = '-' ∨ ∃ digit, c = digitChar digit) := by
  obtain ⟨negative, whole, fraction⟩ := number
  obtain ⟨digit, rest, rfl, -⟩ := h.leading
  cases negative with
  | true => exact ⟨'-', _, rfl, .inl rfl⟩
  | false => exact ⟨digitChar digit, _, rfl, .inr ⟨digit, rfl⟩⟩

/-- No character between elements begins one. -/
lemma Written.text_cons {element : JsonElement} {here : List Char} (h : Written element here) :
    ∃ c text, here = c :: text ∧ c ≠ ']' ∧ c ≠ '}' := by
  cases h with
  | null => exact ⟨_, _, rfl, by decide, by decide⟩
  | boolean value => cases value <;> exact ⟨_, _, rfl, by decide, by decide⟩
  | number hvalid =>
    obtain ⟨c, text, heq, hc⟩ := hvalid.text_cons
    refine ⟨c, text, heq, ?_⟩
    rcases hc with rfl | ⟨digit, rfl⟩
    · exact ⟨by decide, by decide⟩
    · exact ⟨digitChar_ne digit _ (by decide), digitChar_ne digit _ (by decide)⟩
  | string h => exact ⟨_, _, rfl, by decide, by decide⟩
  | array h => exact ⟨_, _, rfl, by decide, by decide⟩
  | object h => exact ⟨_, _, rfl, by decide, by decide⟩

lemma WrittenElements.endsNumber {elements : List JsonElement} {here : List Char}
    (h : WrittenElements elements here) (text : List Char) :
    EndsNumber (here ++ ']' :: text) := by
  cases h with
  | nil => exact endsNumber_cons _ (by decide)
  | cons => exact endsNumber_cons _ (by decide)

lemma WrittenMembers.endsNumber {members : List (String × JsonElement)} {here : List Char}
    (h : WrittenMembers members here) (text : List Char) : EndsNumber (here ++ '}' :: text) := by
  cases h with
  | nil => exact endsNumber_cons _ (by decide)
  | cons => exact endsNumber_cons _ (by decide)

lemma read_number {literal : JsonNumber} (hvalid : literal.Valid) (fuel : ℕ) {text : List Char}
    (h : EndsNumber text) :
    read (fuel + 1) (literal.text ++ text) = some (.number literal, text) := by
  obtain ⟨c, more, heq, hc⟩ := hvalid.text_cons
  have hother : ∀ d, digit? d = none → d ≠ '-' → c ≠ d := by
    rintro d hd hsign rfl
    rcases hc with rfl | ⟨digit, rfl⟩
    · exact hsign rfl
    · exact digitChar_ne digit _ hd rfl
  have hread := readNumber_append hvalid h
  rw [heq, List.cons_append] at hread ⊢
  rw [read, if_neg (hother _ (by decide) (by decide)), if_neg (hother _ (by decide) (by decide)),
    if_neg (hother _ (by decide) (by decide)), if_neg (hother _ (by decide) (by decide)),
    if_neg (hother _ (by decide) (by decide)), if_neg (hother _ (by decide) (by decide)), hread]
  rfl

lemma read_null (fuel : ℕ) (text : List Char) :
    read (fuel + 1) ("null".toList ++ text) = some (.null, text) := by
  have hword : "null".toList = ['n', 'u', 'l', 'l'] := rfl
  have hread : read (fuel + 1) (['n', 'u', 'l', 'l'] ++ text) =
      readWord "null".toList .null (['n', 'u', 'l', 'l'] ++ text) := rfl
  rw [hword, hread, ← hword, readWord_append]

lemma read_boolean (value : Bool) (fuel : ℕ) (text : List Char) :
    read (fuel + 1) ((if value then "true" else "false").toList ++ text) =
      some (.boolean value, text) := by
  have htrue : "true".toList = ['t', 'r', 'u', 'e'] := rfl
  have hfalse : "false".toList = ['f', 'a', 'l', 's', 'e'] := rfl
  cases value with
  | true =>
    have hread : read (fuel + 1) (['t', 'r', 'u', 'e'] ++ text) =
        readWord "true".toList (.boolean true) (['t', 'r', 'u', 'e'] ++ text) := rfl
    rw [if_pos rfl, htrue, hread, ← htrue, readWord_append]
  | false =>
    have hread : read (fuel + 1) (['f', 'a', 'l', 's', 'e'] ++ text) =
        readWord "false".toList (.boolean false) (['f', 'a', 'l', 's', 'e'] ++ text) := rfl
    rw [if_neg Bool.false_ne_true, hfalse, hread, ← hfalse, readWord_append]

/-- Elements in brackets are read as the elements, each after a comma. -/
lemma read_array {elements : List JsonElement} {here : List Char}
    (h : WrittenElements elements here) (fuel : ℕ) {text : List Char}
    (hread : readElements fuel (here ++ ']' :: text) = some (elements, text)) :
    read (fuel + 1) ('[' :: (here.tail ++ [']']) ++ text) = some (.array elements, text) := by
  have hbracket : ∀ more, read (fuel + 1) ('[' :: more) =
      if more.head? = some ']' then some (.array [], more.tail)
      else (readElements fuel (',' :: more)).map fun (elements, rest) => (.array elements, rest) :=
    fun _ => rfl
  rw [List.cons_append, List.append_assoc, List.singleton_append, hbracket]
  cases h with
  | nil => rfl
  | cons hhere hmore =>
    obtain ⟨c, more, rfl, hc, -⟩ := hhere.text_cons
    have hhead : ∀ rest, ¬ (c :: more ++ rest ++ ']' :: text).head? = some ']' :=
      fun _ heq => hc (Option.some.inj heq)
    rw [List.tail_cons, if_neg (hhead _), ← List.cons_append, hread]
    rfl

lemma read_object {members : List (String × JsonElement)} {here : List Char}
    (h : WrittenMembers members here) (fuel : ℕ) {text : List Char}
    (hread : readMembers fuel (here ++ '}' :: text) = some (members, text)) :
    read (fuel + 1) ('{' :: (here.tail ++ ['}']) ++ text) = some (.object members, text) := by
  have hbrace : ∀ more, read (fuel + 1) ('{' :: more) =
      if more.head? = some '}' then some (.object [], more.tail)
      else (readMembers fuel (',' :: more)).map fun (members, rest) => (.object members, rest) :=
    fun _ => rfl
  rw [List.cons_append, List.append_assoc, List.singleton_append, hbrace]
  cases h with
  | nil => rfl
  | cons hlabel hhere hmore =>
    have hhead : ∀ rest, ¬ ('"' :: rest ++ '}' :: text).head? = some '}' := by
      intro rest heq
      cases heq
    rw [List.tail_cons, if_neg (hhead _), ← List.cons_append, hread]
    rfl

mutual

/-- With a fuel of twice the length of the text, an element is read back from it. -/
lemma Written.read {element : JsonElement} {here : List Char} (h : Written element here)
    {fuel : ℕ} {text : List Char} (hfuel : 2 * here.length ≤ fuel) (hends : EndsNumber text) :
    JsonText.read fuel (here ++ text) = some (element, text) := by
  have hpos : ∃ spent, fuel = spent + 1 := by
    obtain ⟨c, more, rfl, -⟩ := h.text_cons
    rw [List.length_cons] at hfuel
    exact Nat.exists_eq_add_of_le' (by omega)
  obtain ⟨fuel, rfl⟩ := hpos
  cases h with
  | null => exact read_null fuel text
  | boolean value => exact read_boolean value fuel text
  | number hvalid => exact read_number hvalid fuel hends
  | @string content literal h =>
    have hquote : JsonText.read (fuel + 1) ('"' :: (literal ++ text)) =
        (readString .plain (literal ++ text)).map fun (content, rest) =>
          (.string (String.ofList content), rest) := rfl
    rw [List.cons_append, hquote, readString_stringText h, Option.map_some]
    simp only [String.ofList_toList]
  | array h =>
    refine read_array h fuel (h.read ?_)
    simp only [List.length_cons, List.length_append, List.length_tail, List.length_nil] at hfuel
    omega
  | object h =>
    refine read_object h fuel (h.read ?_)
    simp only [List.length_cons, List.length_append, List.length_tail, List.length_nil] at hfuel
    omega

lemma WrittenElements.read {elements : List JsonElement} {here : List Char}
    (h : WrittenElements elements here) {fuel : ℕ} {text : List Char}
    (hfuel : 2 * here.length + 1 ≤ fuel) :
    readElements fuel (here ++ ']' :: text) = some (elements, text) := by
  obtain ⟨fuel, rfl⟩ : ∃ spent, fuel = spent + 1 := Nat.exists_eq_add_of_le' (by omega)
  cases h with
  | nil => rfl
  | @cons element elements here more hhere hmore =>
    simp only [List.length_cons, List.length_append] at hfuel
    have hcomma : ∀ more, readElements (fuel + 1) (',' :: more) = (do
        let (element, rest) ← JsonText.read fuel more
        let (elements, rest) ← readElements fuel rest
        some (element :: elements, rest)) := fun _ => rfl
    have hfirst : JsonText.read fuel (here ++ (more ++ ']' :: text)) =
        some (element, more ++ ']' :: text) :=
      hhere.read (by omega) (hmore.endsNumber text)
    have hrest : readElements fuel (more ++ ']' :: text) = some (elements, text) :=
      hmore.read (by omega)
    rw [List.cons_append, List.append_assoc, hcomma]
    simp only [hfirst, hrest, Option.bind_eq_bind, Option.bind_some]

lemma WrittenMembers.read {members : List (String × JsonElement)} {here : List Char}
    (h : WrittenMembers members here) {fuel : ℕ} {text : List Char}
    (hfuel : 2 * here.length + 1 ≤ fuel) :
    readMembers fuel (here ++ '}' :: text) = some (members, text) := by
  obtain ⟨fuel, rfl⟩ : ∃ spent, fuel = spent + 1 := Nat.exists_eq_add_of_le' (by omega)
  cases h with
  | nil => rfl
  | @cons name element members label here more hlabel hhere hmore =>
    simp only [List.length_cons, List.length_append] at hfuel
    have hcomma : ∀ more, readMembers (fuel + 1) (',' :: '"' :: more) = (do
        let (name, rest) ← readString .plain more
        if rest.head? ≠ some ':' then none
        else
          let (element, rest) ← JsonText.read fuel rest.tail
          let (members, rest) ← readMembers fuel rest
          some ((String.ofList name, element) :: members, rest)) := fun _ => rfl
    have hfirst : JsonText.read fuel (here ++ (more ++ '}' :: text)) =
        some (element, more ++ '}' :: text) :=
      hhere.read (by omega) (hmore.endsNumber text)
    have hrest : readMembers fuel (more ++ '}' :: text) = some (members, text) :=
      hmore.read (by omega)
    rw [List.cons_append, List.cons_append, List.append_assoc, hcomma,
      readString_stringText hlabel]
    simp only [List.cons_append, List.append_assoc, List.head?_cons, List.tail_cons, ne_eq,
      not_true_eq_false, if_false, hfirst, hrest, String.ofList_toList, Option.bind_eq_bind,
      Option.bind_some]

end

/-- A printed document is read as its element, with a newline after it or without. -/
theorem Written.parseDocument {element : JsonElement} {here : List Char}
    (h : Written element here) : JsonText.parseDocument (here ++ ['\n']) = some element := by
  have hfuel : 2 * here.length ≤ 2 * (here ++ ['\n']).length := by
    rw [List.length_append]
    omega
  rw [JsonText.parseDocument, h.read hfuel (endsNumber_cons _ (by decide))]
  rfl

end JsonText
