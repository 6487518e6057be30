import Ventilator.PythonText

/-! `find_test` of `bdd_report.py`: the search for a named test in a git checkout, which is left to
`git grep`, and in any other directory, which is walked. -/
namespace Ventilator
open PythonText

namespace TestSearch

/-- A file; its name is not empty. -/
structure SourceFile where
  name : Text
  text : Text
  name_ne : name ≠ []

/-- A directory with its files and, under their names, its directories. -/
inductive Folder
  | mk (files : List SourceFile) (folders : List (Text × Folder))

/-! The characters of names and words. -/

/-- The characters the name of a test consists of, by the pattern `AUTOMATED`. -/
def needleChar (c : Char) : Bool := c.isAlphanum || ['_', '.', '/', ':', '#', '-'].contains c

/-- A word character of `git grep`. -/
def wordChar (c : Char) : Bool := c.isAlphanum || c == '_'

/-- The text contains the name at a place where it is not a part of a longer word. -/
def WholeWord (name text : Text) : Prop :=
  name ≠ [] ∧ ∃ start ≤ text.length, name <+: text.drop start ∧
    (text.take start).getLast?.any wordChar = false ∧
    (text.drop (start + name.length)).head?.any wordChar = false

instance (name text : Text) : Decidable (WholeWord name text) :=
  inferInstanceAs (Decidable (_ ∧ _))

/-- The characters up to the first newline. -/
def firstLine (text : Text) : Text := text.takeWhile fun c => c ≠ '\n'

/-! The source. -/

def ignoredDirs : List Text :=
  [".git", ".hg", ".svn", "node_modules", "build", "dist", "out", "target", "__pycache__", ".venv",
    "venv", ".tox", ".idea", ".gradle", ".next", "vendor", "coverage", ".mypy_cache",
    ".pytest_cache"].map String.toList

def maxGrepBytes : ℕ := 2000000

/-- `os.path.getsize`. -/
def size (file : SourceFile) : ℕ := (file.text.map Char.utf8Size).sum

/-- `_contains`. -/
def contains (file : SourceFile) (needle : Text) : Bool :=
  decide (¬ maxGrepBytes < size file ∧ needle <:+: translated file.text)

/-- `f.endswith(".md")`. -/
def isMarkdown (file : SourceFile) : Bool := ['.', 'm', 'd'].isSuffixOf file.name

/-- `os.path.splitext(f)[0]`: what is before the last point, if that is not points only. -/
def splitextRoot (name : Text) : Text :=
  let root := ((name.reverse.dropWhile fun c => c ≠ '.').drop 1).reverse
  if root.any fun c => c ≠ '.' then root else name

/-- `name.split(".")[-1]`. -/
def stem (name : Text) : Text := name.rtakeWhile fun c => c ≠ '.'

def isPruned (name : Text) : Bool := ignoredDirs.contains name || ['.'].isPrefixOf name

/-- A path in its printed form. -/
def joined (path : List Text) : Text := ['/'].intercalate path

/-- The files of a directory, sorted by their names. -/
def sortedFiles (files : List SourceFile) : List SourceFile :=
  files.mergeSort fun a b => decide (a.name ≤ b.name)

mutual

/-- The files `os.walk` comes by, with their paths, where ignored directories are not entered. -/
def walked (path : List Text) : Folder → List (List Text × SourceFile)
  | .mk files folders =>
    (sortedFiles files).map (fun file => (path ++ [file.name], file)) ++ walkedFolders path folders

def walkedFolders (path : List Text) : List (Text × Folder) → List (List Text × SourceFile)
  | [] => []
  | (name, folder) :: folders =>
    (if isPruned name then [] else walked (path ++ [name]) folder) ++ walkedFolders path folders

end

mutual

/-- All files of a directory, with their paths. -/
def tracked (path : List Text) : Folder → List (List Text × SourceFile)
  | .mk files folders =>
    files.map (fun file => (path ++ [file.name], file)) ++ trackedFolders path folders

def trackedFolders (path : List Text) : List (Text × Folder) → List (List Text × SourceFile)
  | [] => []
  | (name, folder) :: folders => tracked (path ++ [name]) folder ++ trackedFolders path folders

end

/-- The loops over the files: one named after the test wins, and else the first that mentions it. -/
def search (needle : Text) (inside : Option Text) :
    List (List Text × SourceFile) → Option Bool × Option Text
  | [] =>
    match inside with
    | none => (some false, none)
    | some place => if place = [] then (some false, none) else (some true, some place)
  | (path, file) :: entries =>
    if isMarkdown file then search needle inside entries
    else if splitextRoot file.name = needle then (some true, some (joined path))
    else if inside.isNone ∧ contains file needle then search needle (some (joined path)) entries
    else search needle inside entries

/-- `git grep` stands outside of the source: its standard output, or nothing where it cannot be
run. -/
abbrev GitGrep := Folder → Text → Option Text

/-- `find_test`, in a git checkout or in another directory. -/
def findTest (gitGrep : GitGrep) (checkout : Bool) (repo : Folder) (name : Text) :
    Option Bool × Option Text :=
  if checkout then
    match gitGrep repo name with
    | none => (none, none)
    | some stdout =>
      let out := strip stdout
      if out = [] then (some false, none) else (some true, some (firstLine out))
  else search (stem name) none (walked [] repo)

/-! What either search finds. -/

/-- What is said of the program: the files that are not Markdown and have the name as a whole word
are printed, a line for each, with their paths as they are shown. -/
def Reports (gitGrep : GitGrep) (shown : List Text → Text) : Prop :=
  ∀ repo name, ∃ lines : List Text, gitGrep repo name = some (lines.flatMap (· ++ ['\n'])) ∧
    ∀ line, line ∈ lines ↔ ∃ path file, (path, file) ∈ tracked [] repo ∧
      isMarkdown file = false ∧ WholeWord name file.text ∧ line = shown path

/-- A file `git grep` reports, under a name that is not white space only. -/
def Reported (shown : List Text → Text) (name : Text) (entry : List Text × SourceFile) : Prop :=
  isMarkdown entry.2 = false ∧ WholeWord name entry.2.text ∧
    ∃ c ∈ shown entry.1, isSpace c = false

/-- A file the walk takes for the test: one named after the last segment or mentioning it. -/
def TakenFor (name : Text) (file : SourceFile) : Prop :=
  isMarkdown file = false ∧ (splitextRoot file.name = stem name ∨ contains file (stem name) = true)

instance (name : Text) (file : SourceFile) : Decidable (TakenFor name file) :=
  inferInstanceAs (Decidable (_ ∧ _))

/-- The walk comes by a file it takes for the test, while no file has the name as a whole word. -/
def NearMiss (shown : List Text → Text) (repo : Folder) (name : Text) : Prop :=
  (∃ entry ∈ walked [] repo, TakenFor name entry.2) ∧
    ∀ entry ∈ tracked [] repo, ¬ Reported shown name entry

/-- The name is a whole word of files in ignored directories or of files above the limit only, and
the walk comes by no file it takes for the test. -/
def OutOfReach (shown : List Text → Text) (repo : Folder) (name : Text) : Prop :=
  (∃ entry ∈ tracked [] repo, Reported shown name entry) ∧
    (∀ entry ∈ tracked [] repo, Reported shown name entry →
      entry ∉ walked [] repo ∨ maxGrepBytes < size entry.2) ∧
    ∀ entry ∈ walked [] repo, ¬ TakenFor name entry.2

lemma joined_ne_nil {path : List Text} {name : Text} (h : name ≠ []) :
    joined (path ++ [name]) ≠ [] := by
  cases path with
  | nil => simpa [joined] using h
  | cons step path =>
    obtain ⟨next, rest, hrest⟩ : ∃ next rest, path ++ [name] = next :: rest :=
      List.exists_cons_of_ne_nil (by simp)
    simp [joined, List.intercalate, hrest]

mutual

lemma walked_joined (path : List Text) (folder : Folder) :
    ∀ entry ∈ walked path folder, joined entry.1 ≠ [] := by
  cases folder with
  | mk files folders =>
    intro entry hentry
    rw [walked, List.mem_append, List.mem_map] at hentry
    rcases hentry with ⟨file, -, rfl⟩ | hentry
    · exact joined_ne_nil file.name_ne
    · exact walkedFolders_joined path folders entry hentry

lemma walkedFolders_joined (path : List Text) (folders : List (Text × Folder)) :
    ∀ entry ∈ walkedFolders path folders, joined entry.1 ≠ [] := by
  cases folders with
  | nil => simp [walkedFolders]
  | cons first folders =>
    obtain ⟨name, folder⟩ := first
    intro entry hentry
    rw [walkedFolders, List.mem_append] at hentry
    rcases hentry with hhere | hlater
    · by_cases hpruned : isPruned name = true
      · simp [hpruned] at hhere
      · rw [if_neg hpruned] at hhere
        exact walked_joined (path ++ [name]) folder entry hhere
    · exact walkedFolders_joined path folders entry hlater

end

/-- The loops find the test where some file is taken for it. -/
lemma search_found (name : Text) (inside : Option Text) (entries : List (List Text × SourceFile))
    (hinside : ∀ place ∈ inside, place ≠ []) (hentries : ∀ entry ∈ entries, joined entry.1 ≠ []) :
    (search (stem name) inside entries).1 =
      some (decide (inside.isSome = true ∨ ∃ entry ∈ entries, TakenFor name entry.2)) := by
  induction entries generalizing inside with
  | nil =>
    cases inside with
    | none => simp [search]
    | some place => simp [search, hinside place rfl]
  | cons entry entries ih =>
    obtain ⟨path, file⟩ := entry
    have hhere : joined path ≠ [] := hentries _ List.mem_cons_self
    have hlater : ∀ entry ∈ entries, joined entry.1 ≠ [] :=
      fun entry hentry => hentries entry (List.mem_cons_of_mem _ hentry)
    rw [search]
    by_cases hmarkdown : isMarkdown file = true
    · have hother : ¬ TakenFor name file := fun h => by simp [h.1] at hmarkdown
      rw [if_pos hmarkdown, ih inside hinside hlater]
      exact congrArg some (decide_eq_decide.mpr (by simp [hother]))
    rw [if_neg hmarkdown]
    by_cases hnamed : splitextRoot file.name = stem name
    · simp [TakenFor, hmarkdown, hnamed]
    rw [if_neg hnamed]
    by_cases hmentions : contains file (stem name) = true
    · have htaken : TakenFor name file := ⟨by simpa using hmarkdown, .inr hmentions⟩
      cases inside with
      | none =>
        rw [if_pos (by simp [hmentions]), ih _ (by simpa using hhere) hlater]
        simp [htaken]
      | some place =>
        rw [if_neg (by simp), ih _ hinside hlater]
        simp
    · have hother : ¬ TakenFor name file := fun h => h.2.elim hnamed hmentions
      rw [if_neg (by simp [hmentions]), ih inside hinside hlater]
      exact congrArg some (decide_eq_decide.mpr (by simp [hother]))

/-- The walk finds the test where it comes by a file it takes for it. -/
lemma findTest_walked (gitGrep : GitGrep) (repo : Folder) (name : Text) :
    (findTest gitGrep false repo name).1 =
      some (decide (∃ entry ∈ walked [] repo, TakenFor name entry.2)) := by
  rw [findTest, if_neg Bool.false_ne_true, search_found name none _ (by simp)
    (walked_joined [] repo)]
  simp

section Checkout

variable {gitGrep : GitGrep} {shown : List Text → Text}

/-- In a checkout the test is found where a file is reported for it. -/
lemma findTest_reported (hreports : Reports gitGrep shown) (repo : Folder) (name : Text) :
    (findTest gitGrep true repo name).1 = some true ∧
        (∃ entry ∈ tracked [] repo, Reported shown name entry) ∨
      (findTest gitGrep true repo name).1 = some false ∧
        ∀ entry ∈ tracked [] repo, ¬ Reported shown name entry := by
  obtain ⟨lines, hrun, hlines⟩ := hreports repo name
  have hblank : strip (lines.flatMap (· ++ ['\n'])) = [] ↔
      ∀ line ∈ lines, ∀ c ∈ line, isSpace c = true := by
    have hnewline : isSpace '\n' = true := by decide
    rw [strip_eq_nil_iff]
    constructor
    · intro h line hline c hc
      exact h c (List.mem_flatMap.mpr ⟨line, hline, List.mem_append_left _ hc⟩)
    · intro h c hc
      obtain ⟨line, hline, hc⟩ := List.mem_flatMap.mp hc
      rcases List.mem_append.mp hc with hc | hc
      · exact h line hline c hc
      · rwa [List.mem_singleton.mp hc]
  rw [findTest, if_pos rfl, hrun]
  dsimp only
  split
  · rename_i hout
    right
    refine ⟨rfl, fun entry hentry hreported => ?_⟩
    obtain ⟨hmarkdown, hword, c, hc, hspace⟩ := hreported
    have hline := (hlines (shown entry.1)).mpr ⟨entry.1, entry.2, hentry, hmarkdown, hword, rfl⟩
    rw [hblank.mp hout _ hline c hc] at hspace
    cases hspace
  · rename_i hout
    left
    refine ⟨rfl, ?_⟩
    rw [hblank] at hout
    push Not at hout
    obtain ⟨line, hline, c, hc, hspace⟩ := hout
    obtain ⟨path, file, hentry, hmarkdown, hword, rfl⟩ := (hlines line).mp hline
    exact ⟨(path, file), hentry, hmarkdown, hword, c, hc, by simpa using hspace⟩

end Checkout

/-- A file of at most the limit that has the name as a word mentions its last segment. -/
lemma contains_of_wholeWord {name : Text} {file : SourceFile}
    (hname : name.all needleChar = true) (hword : WholeWord name file.text)
    (hsize : ¬ maxGrepBytes < size file) : contains file (stem name) = true := by
  obtain ⟨-, start, -, hhere, -, -⟩ := hword
  have hstem : stem name <:+ name := List.rtakeWhile_suffix _ _
  have hinfix : stem name <:+: file.text :=
    hstem.isInfix.trans (hhere.isInfix.trans (List.drop_suffix _ _).isInfix)
  have hreturn : '\r' ∉ stem name := by
    intro hmem
    have hneedle := List.all_eq_true.mp hname _ (hstem.subset hmem)
    revert hneedle
    decide
  exact decide_eq_true ⟨hsize, infix_translated hreturn hinfix⟩

/-! A `git grep` that prints every path as it is, and two repositories of one file. -/

def plainGrep : GitGrep := fun repo name =>
  some ((((tracked [] repo).filter fun entry =>
    !isMarkdown entry.2 && decide (WholeWord name entry.2.text)).map fun entry =>
      joined entry.1).flatMap (· ++ ['\n']))

lemma plainGrep_reports : Reports plainGrep joined := by
  intro repo name
  refine ⟨_, rfl, fun line => ?_⟩
  simp only [List.mem_map, List.mem_filter, Bool.and_eq_true, Bool.not_eq_true',
    decide_eq_true_eq, Prod.exists]
  constructor
  · rintro ⟨path, file, ⟨hentry, hmarkdown, hword⟩, rfl⟩
    exact ⟨path, file, hentry, hmarkdown, hword, rfl⟩
  · rintro ⟨path, file, hentry, hmarkdown, hword, rfl⟩
    exact ⟨path, file, ⟨hentry, hmarkdown, hword⟩, rfl⟩

/-- A file `a.py` with the given text. -/
def pythonFile (text : Text) : SourceFile := ⟨['a', '.', 'p', 'y'], text, by decide⟩

lemma walked_pythonFile (text : Text) :
    walked [] (.mk [pythonFile text] []) = [([['a', '.', 'p', 'y']], pythonFile text)] := by
  simp [walked, walkedFolders, sortedFiles, pythonFile]

/-- A file with a test `add`, and the same after the test was renamed to `add_all`. -/
def addFile : SourceFile := pythonFile ['d', 'e', 'f', ' ', 'a', 'd', 'd', '(', ')', ':']

def addAllFile : SourceFile :=
  pythonFile ['d', 'e', 'f', ' ', 'a', 'd', 'd', '_', 'a', 'l', 'l', '(', ')', ':']

/-- The walk goes on to find a test that was renamed to a longer name; `git grep` does not. -/
theorem renamed_test_found_by_walk : Reports plainGrep joined ∧
    ['a', 'd', 'd'].all needleChar = true ∧
    (findTest plainGrep true (.mk [addAllFile] []) ['a', 'd', 'd']).1 ≠
      (findTest plainGrep false (.mk [addAllFile] []) ['a', 'd', 'd']).1 := by
  refine ⟨plainGrep_reports, by decide, ?_⟩
  rw [findTest_walked, addAllFile, walked_pythonFile]
  decide

/-- A checkout and a plain directory of the same files give the same answer for a name exactly where
there is neither a near miss nor a test out of reach. -/
theorem checkout_and_walk_agree_iff (gitGrep : GitGrep) (shown : List Text → Text)
    (hreports : Reports gitGrep shown) (repo : Folder) (name : Text)
    (hname : name.all needleChar = true) :
    (findTest gitGrep true repo name).1 = (findTest gitGrep false repo name).1 ↔
      ¬ NearMiss shown repo name ∧ ¬ OutOfReach shown repo name := by
  rw [findTest_walked]
  rcases findTest_reported hreports repo name with ⟨hfound, hreported⟩ | ⟨hfound, hnone⟩
  · have hnear : ¬ NearMiss shown repo name := by
      intro h
      obtain ⟨entry, hentry, hhit⟩ := hreported
      exact h.2 entry hentry hhit
    rw [hfound]
    constructor
    · intro h
      have htaken := of_decide_eq_true (Option.some.inj h).symm
      refine ⟨hnear, fun hout => ?_⟩
      obtain ⟨entry, hentry, htaken⟩ := htaken
      exact hout.2.2 entry hentry htaken
    · intro h
      by_contra hdiffer
      have hnone : ∀ entry ∈ walked [] repo, ¬ TakenFor name entry.2 := by
        intro entry hentry htaken
        exact hdiffer (congrArg some (decide_eq_true ⟨entry, hentry, htaken⟩).symm)
      refine h.2 ⟨hreported, fun entry _ hhit => ?_, hnone⟩
      by_contra hreach
      push Not at hreach
      exact hnone entry hreach.1
        ⟨hhit.1, .inr (contains_of_wholeWord hname hhit.2.1 (not_lt.mpr hreach.2))⟩
  · rw [hfound]
    constructor
    · intro h
      have htaken := of_decide_eq_false (Option.some.inj h).symm
      refine ⟨fun hnear => htaken hnear.1, fun hout => ?_⟩
      obtain ⟨entry, hentry, hhit⟩ := hout.1
      exact hnone entry hentry hhit
    · intro h
      refine congrArg some (decide_eq_false fun htaken => ?_).symm
      exact h.1 ⟨htaken, hnone⟩

theorem named_test_found_alike :
    (findTest plainGrep true (.mk [addFile] []) ['a', 'd', 'd']).1 =
      (findTest plainGrep false (.mk [addFile] []) ['a', 'd', 'd']).1 := by
  refine (checkout_and_walk_agree_iff plainGrep joined plainGrep_reports _ ['a', 'd', 'd']
    (by decide)).mpr ⟨fun hnear => ?_, fun hout => ?_⟩
  · exact hnear.2 ([['a', '.', 'p', 'y']], addFile) List.mem_cons_self
      ⟨by decide, by decide, 'a', by decide, by decide⟩
  · refine hout.2.2 ([['a', '.', 'p', 'y']], addFile) ?_ (by decide)
    rw [addFile, walked_pythonFile]
    exact List.mem_cons_self

end TestSearch
end Ventilator
