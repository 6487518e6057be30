import Ventilator.JsonReader
import Ventilator.LineText
import Ventilator.PythonText

/-! `coverage_map.py`: the sections of the coverage map in a README, the documents on disk, and the
edits that bring the map up to date. -/
namespace Ventilator
open JsonText PythonText

namespace CoverageMap

/-- The decimal digits of Unicode, which `\d` stands for and `int` reads. -/
structure DecimalDigits where
  value : Char → Option Digit
  ascii : ∀ c : Char, c.toNat < 128 → value c = digit? c

/-- A row of `SECTIONS`. The pattern is the text up to the bracket, a number, in one row perhaps a
slash and another number, and the closing bracket with blanks to the end of the line. -/
structure Layer where
  name : Text
  opening : Text
  hasTotal : Bool
  folder : Text
  deriving DecidableEq

/-- `SECTIONS`. -/
def layers : List Layer :=
  [⟨"Research".toList, "### Research (".toList, false, "research".toList⟩,
    ⟨"Services".toList, "### Services (".toList, true, "services".toList⟩,
    ⟨"Features".toList, "### Features (".toList, false, "features".toList⟩,
    ⟨"Screens".toList, "### Screens / Flows (".toList, false, "screens".toList⟩,
    ⟨"API".toList, "### API (".toList, false, "api".toList⟩]

/-- A file with its text, where it can be opened. -/
structure Document where
  name : Text
  text : Option Text

/-- What `os.listdir` gives of the directories there are. -/
abbrev Disk := Text → Option (List Document)

/-! Documents. -/

/-- The shortest title that only a quote and white space may follow. -/
def shortestTitle : Text → Text
  | [] => []
  | c :: text =>
    if (if text.head? = some '"' then text.tail else text).all isSpace then [c]
    else c :: shortestTitle text

/-- `re.match(r'^title:\s*"?(.+?)"?\s*$', line)`: white space and a quote are given back where
nothing else is left for the title. -/
def titleOf (line : Text) : Option Text :=
  if "title:".toList <+: line then
    match (line.drop 6).dropWhile isSpace with
    | [] => (line.drop 6).getLast?.map fun c => [c]
    | ['"'] => some ['"']
    | '"' :: text => some (shortestTitle text)
    | text => some (shortestTitle text)
  else none

def markdown : Text := ".md".toList

def readTitle (disk : Disk) (folder stem : Text) : Text :=
  let content := do
    let files ← disk folder
    let file ← files.find? fun file => file.name = stem ++ markdown
    file.text
  match content with
  | none => stem
  | some text => (((translated text).splitOn '\n').findSome? titleOf).getD stem

/-- `sorted` of texts. -/
def sorted (texts : List Text) : List Text := texts.insertionSort fun a b => a ≤ b

def documents (disk : Disk) (folder : Text) : List Text :=
  match disk folder with
  | none => []
  | some files =>
    sorted ((files.map Document.name).filterMap fun name =>
      if markdown <:+ name ∧ name ≠ "README.md".toList then some (name.take (name.length - 3))
      else none)

/-! The map. -/

/-- Letters are compared without their case; some letters outside of ASCII are taken for others. -/
def fold (c : Char) : Char :=
  if c = 'ſ' then 's' else if c = 'K' then 'k' else if c = 'İ' ∨ c = 'ı' then 'i' else c.toLower

def isDecimal (digits : DecimalDigits) (c : Char) : Bool := (digits.value c).isSome

/-- `int`. -/
def number (digits : DecimalDigits) (text : Text) : ℕ := ofDigits (text.filterMap digits.value)

/-- `/\d+` at the beginning of a text, or nothing. -/
def slashNumber (digits : DecimalDigits) : Text → Text
  | '/' :: text =>
    if text.takeWhile (isDecimal digits) = [] then []
    else '/' :: text.takeWhile (isDecimal digits)
  | _ => []

/-- `\)[ \t]*\r?$`. -/
def closes : Text → Bool
  | ')' :: text =>
    let rest := text.dropWhile fun c => c = ' ' ∨ c = '\t'
    rest = [] ∨ rest = ['\r']
  | _ => false

/-- The number in a line that is the heading of the layer. -/
def matchHeader (digits : DecimalDigits) (layer : Layer) (line : Text) : Option Text :=
  if layer.opening.map fold <+: line.map fold then
    let counter := line.drop layer.opening.length
    let claimed := counter.takeWhile (isDecimal digits)
    let rest := counter.dropWhile (isDecimal digits)
    let total := if layer.hasTotal then slashNumber digits rest else []
    if claimed ≠ [] ∧ closes (rest.drop total.length) then some claimed else none
  else none

/-- `^##+ `. -/
def isHeading (line : Text) : Bool :=
  "##".toList.isPrefixOf line && (line.dropWhile fun c => c = '#').head? == some ' '

def matchHeading (line : Text) : Option Unit := if isHeading line then some () else none

/-- `[A-Za-z0-9._-]`. -/
def stemChar (c : Char) : Bool := c.isAlphanum || c == '.' || c == '_' || c == '-'

def linkOpening (folder : Text) : Text := "](".toList ++ folder ++ ['/']

/-- `\]\(folder/([A-Za-z0-9._-]+)\.md\)` at the beginning of a text: all characters up to the
bracket are of the class. -/
def linkHere (folder text : Text) : Option Text :=
  let target := (text.drop (linkOpening folder).length).takeWhile stemChar
  let stem := target.take (target.length - 3)
  if linkOpening folder ++ stem ++ markdown ++ [')'] <+: text ∧ stem ≠ [] then some stem else none

/-- `re.findall` of the links; none begins within another. -/
def links (folder : Text) : Text → List Text
  | [] => []
  | c :: text => (linkHere folder (c :: text)).toList ++ links folder text

/-- What is found of a layer that has a section. -/
structure Section where
  layer : Layer
  listed : List Text
  actual : List Text
  claimed : ℕ
  header : Text
  headerStart : ℕ
  start : ℕ
  stop : ℕ

inductive Finding
  | missingSection (layer : Layer) (actual : List Text)
  | present (found : Section)

def analyseLayer (digits : DecimalDigits) (disk : Disk) (text : Text) (layer : Layer) :
    Option Finding :=
  let actual := documents disk layer.folder
  match LineText.search '\n' (matchHeader digits layer) text with
  | none => if actual = [] then none else some (.missingSection layer actual)
  | some (headerStart, header, claimed) =>
    let start := headerStart + header.length
    let stop := match LineText.search '\n' matchHeading (text.drop start) with
      | some (next, _) => start + next
      | none => text.length
    some (.present
      { layer := layer
        listed := links layer.folder ((text.take stop).drop start)
        actual := actual
        claimed := number digits claimed
        header := header
        headerStart := headerStart
        start := start
        stop := stop })

def analyse (digits : DecimalDigits) (disk : Disk) (text : Text) : List Finding :=
  layers.filterMap (analyseLayer digits disk text)

/-- A line of the report, without the name of its layer. -/
inductive Problem
  | noSection (documents : ℕ)
  | notInMap (stem : Text)
  | noFile (stem : Text)
  | headingSays (claimed files : ℕ)
  deriving DecidableEq

/-- `str` of a number. -/
def numeral (n : ℕ) : Text := (decimal n).map digitChar

def Problem.message : Problem → Text
  | noSection documents =>
    "no section in README, but ".toList ++ numeral documents ++ " documents on disk".toList
  | notInMap stem => "not in the map: ".toList ++ stem
  | noFile stem => "in the map, but there is no file: ".toList ++ stem
  | headingSays claimed files =>
    "the heading says ".toList ++ numeral claimed ++ ", there are ".toList ++ numeral files ++
      " files".toList

/-- `set(xs) - set(ys)`, sorted. -/
def difference (xs ys : List Text) : List Text :=
  sorted ((xs.filter fun x => x ∉ ys).dedup)

/-- What `report` says of one section. -/
def reportFinding : Finding → List (Layer × Problem)
  | .missingSection layer actual => [(layer, .noSection actual.length)]
  | .present found =>
    (difference found.actual found.listed).map (fun stem => (found.layer, .notInMap stem)) ++
      (difference found.listed found.actual).map (fun stem => (found.layer, .noFile stem)) ++
      if found.claimed ≠ found.actual.length then
        [(found.layer, .headingSays found.claimed found.actual.length)]
      else []

def report (findings : List Finding) : List (Layer × Problem) := findings.flatMap reportFinding

/-! The edits. -/

/-- The end of a line in the README. -/
def eolOf (text : Text) : Text := if ['\r', '\n'] <:+: text then ['\r', '\n'] else ['\n']

/-- `rstrip("\r\n")`. -/
def rstrip (text : Text) : Text := text.rdropWhile fun c => c = '\r' ∨ c = '\n'

/-- The comment that marks a placeholder. -/
def placeholderMark : Text :=
  "  <!-- added by coverage_map.py: write the description and pick the group -->".toList

def placeholder (disk : Disk) (folder stem : Text) : Text :=
  "- [x] [".toList ++ stem ++ linkOpening folder ++ stem ++ markdown ++ ") - ".toList ++
    readTitle disk folder stem ++ placeholderMark

/-- `re.sub` of the counter of a heading, which has one opening bracket. -/
def recount (digits : DecimalDigits) (files : ℕ) (header : Text) : Text :=
  let before := header.takeWhile fun c => c ≠ '('
  let counter := (header.dropWhile fun c => c ≠ '(').tail
  let rest := counter.dropWhile (isDecimal digits)
  let total := slashNumber digits rest
  if counter.takeWhile (isDecimal digits) ≠ [] ∧ (rest.drop total.length).head? = some ')' then
    before ++ '(' :: (numeral files ++ total ++ rest.drop total.length)
  else header

/-- The documents to add to a section. -/
def Section.add (found : Section) : List Text := difference found.actual found.listed

/-- The text of a section with the missing lines at its end. -/
def extended (disk : Disk) (eol : Text) (layer : Layer) (add : List Text) (body : Text) : Text :=
  rstrip body ++ eol ++ eol.intercalate (add.map (placeholder disk layer.folder)) ++ eol ++ eol

/-- The edits of one section, at the offsets found before any edit. -/
def fixSection (digits : DecimalDigits) (disk : Disk) (eol : Text) (text : Text)
    (found : Section) : Text :=
  let text :=
    if found.add = [] then text
    else
      text.take found.start ++
        extended disk eol found.layer found.add ((text.take found.stop).drop found.start) ++
        text.drop found.stop
  if found.claimed ≠ found.actual.length then
    text.take found.headerStart ++ recount digits found.actual.length found.header ++
      text.drop (found.headerStart + found.header.length)
  else text

def fixFinding (digits : DecimalDigits) (disk : Disk) (eol : Text) (text : Text) : Finding → Text
  | .missingSection _ _ => text
  | .present found => fixSection digits disk eol text found

def fix (digits : DecimalDigits) (disk : Disk) (text : Text) (findings : List Finding) : Text :=
  findings.reverse.foldl (fixFinding digits disk (eolOf text)) text

end CoverageMap
end Ventilator
