import Mathlib

/-! Lists divided into lines by a separator, the search for the first line that something is found
in, and what the search finds in two lists one after the other. -/
namespace LineText

variable {α β : Type} [DecidableEq α] {sep : α}

/-- Lines with the offsets they begin at, each line being followed by a separator. -/
def offsets : ℕ → List (List α) → List (ℕ × List α)
  | _, [] => []
  | start, line :: lines => (start, line) :: offsets (start + line.length + 1) lines

/-- The first line in which something is found, with its offset. -/
def search (sep : α) (here : List α → Option β) (text : List α) : Option (ℕ × List α × β) :=
  (offsets 0 (text.splitOn sep)).findSome? fun (start, line) =>
    (here line).map fun found => (start, line, found)

/-- What is found in the lines, one after the other. -/
def collect (sep : α) (here : List α → Option β) (text : List α) : List β :=
  (text.splitOn sep).filterMap here

/-- The list is empty or ends with a separator. -/
def EndsLine (sep : α) (text : List α) : Prop := text = [] ∨ ∃ before, text = before ++ [sep]

/-- The list is empty or begins with a separator. -/
def BeginsLine (sep : α) (text : List α) : Prop := text = [] ∨ ∃ after, text = sep :: after

/-- The length of lines with their separators. -/
def extent (lines : List (List α)) : ℕ := (lines.map fun line => line.length + 1).sum

omit [DecidableEq α] in
lemma offsets_append (start : ℕ) (before after : List (List α)) :
    offsets start (before ++ after) =
      offsets start before ++ offsets (start + extent before) after := by
  induction before generalizing start with
  | nil => simp [offsets, extent]
  | cons line before ih =>
    have hstart : start + line.length + 1 + extent before =
        start + extent (line :: before) := by
      simp only [extent, List.map_cons, List.sum_cons]
      omega
    simp only [List.cons_append, offsets, ih, hstart]

omit [DecidableEq α] in
lemma offsets_shift (start shift : ℕ) (lines : List (List α)) :
    offsets (start + shift) lines =
      (offsets start lines).map fun (offset, line) => (offset + shift, line) := by
  induction lines generalizing start with
  | nil => rfl
  | cons line lines ih =>
    have hstart : start + shift + line.length + 1 = start + line.length + 1 + shift := by omega
    simp only [offsets, List.map_cons, hstart, ih]

lemma extent_splitOn (text : List α) : extent (text.splitOn sep) = text.length + 1 := by
  induction text with
  | nil => simp [extent]
  | cons c text ih =>
    rw [List.splitOn_cons_eq_if_modifyHead]
    obtain ⟨line, lines, hlines⟩ :=
      List.exists_cons_of_ne_nil (List.splitOn_ne_nil sep text)
    rw [hlines] at ih ⊢
    simp only [extent, List.map_cons, List.sum_cons] at ih
    by_cases hc : (c == sep) = true
    · simp only [hc, if_true, extent, List.map_cons, List.sum_cons, List.length_nil,
        List.length_cons]
      omega
    · rw [if_neg hc, List.modifyHead_cons]
      simp only [extent, List.map_cons, List.sum_cons, List.length_cons]
      omega

/-! The lines of two lists, one after the other. -/

lemma splitOn_ended (sep : α) (before after : List α) :
    (before ++ [sep] ++ after).splitOn sep = before.splitOn sep ++ after.splitOn sep := by
  simpa using List.splitOn_append_cons_self before after

lemma splitOn_begins {line : List α} (hline : sep ∉ line) {rest : List α}
    (hrest : BeginsLine sep rest) :
    ∃ lines, rest.splitOn sep = [] :: lines ∧ (line ++ rest).splitOn sep = line :: lines := by
  rcases hrest with rfl | ⟨after, rfl⟩
  · exact ⟨[], by simp, by rw [List.append_nil, List.splitOn_eq_singleton hline]⟩
  · refine ⟨after.splitOn sep, ?_, List.splitOn_append_cons_self_of_not_mem hline after⟩
    simpa using List.splitOn_append_cons_self_of_not_mem (List.not_mem_nil : sep ∉ []) after

/-- The last line of the first list goes on in the first one of the second. -/
lemma splitOn_append (sep : α) (before after : List α) :
    ∃ lines last next rest, before.splitOn sep = lines ++ [last] ∧
      after.splitOn sep = next :: rest ∧
      (before ++ after).splitOn sep = lines ++ (last ++ next) :: rest := by
  induction before with
  | nil =>
    obtain ⟨next, rest, hafter⟩ := List.exists_cons_of_ne_nil (List.splitOn_ne_nil sep after)
    exact ⟨[], [], next, rest, by simp, hafter, by simpa using hafter⟩
  | cons c before ih =>
    obtain ⟨lines, last, next, rest, hbefore, hafter, hboth⟩ := ih
    rw [List.cons_append, List.splitOn_cons_eq_if_modifyHead,
      List.splitOn_cons_eq_if_modifyHead, hbefore, hboth]
    by_cases hc : (c == sep) = true
    · exact ⟨[] :: lines, last, next, rest, by simp [hc], hafter, by simp [hc]⟩
    · cases lines with
      | nil => exact ⟨[], c :: last, next, rest, by simp [hc], hafter, by simp [hc]⟩
      | cons line lines =>
        exact ⟨(c :: line) :: lines, last, next, rest, by simp [hc], hafter, by simp [hc]⟩

lemma mem_of_mem_splitOn {text line : List α} (hline : line ∈ text.splitOn sep) {c : α}
    (hc : c ∈ line) : c ∈ text ∧ c ≠ sep := by
  induction text generalizing line with
  | nil => simp_all
  | cons d text ih =>
    rw [List.splitOn_cons_eq_if_modifyHead] at hline
    by_cases hd : (d == sep) = true
    · rw [if_pos hd, List.mem_cons] at hline
      rcases hline with rfl | hline
      · simp at hc
      · have htext := ih hline hc
        exact ⟨List.mem_cons_of_mem d htext.1, htext.2⟩
    · obtain ⟨first, lines, hlines⟩ := List.exists_cons_of_ne_nil (List.splitOn_ne_nil sep text)
      rw [if_neg hd, hlines, List.modifyHead_cons, List.mem_cons] at hline
      rw [hlines] at ih
      rcases hline with rfl | hline
      · rw [List.mem_cons] at hc
        rcases hc with rfl | hc
        · exact ⟨List.mem_cons_self, by simpa using hd⟩
        · have htext := ih List.mem_cons_self hc
          exact ⟨List.mem_cons_of_mem d htext.1, htext.2⟩
      · have htext := ih (List.mem_cons_of_mem first hline) hc
        exact ⟨List.mem_cons_of_mem d htext.1, htext.2⟩

/-- What is found in two lists, the first of which ends with a line. -/
lemma collect_append {here : List α → Option β} (hempty : here [] = none)
    {before after : List α} (h : after = [] ∨ EndsLine sep before) :
    collect sep here (before ++ after) = collect sep here before ++ collect sep here after := by
  rcases h with rfl | rfl | ⟨before, rfl⟩
  · simp [collect, hempty]
  · simp [collect, hempty]
  · have hlast := splitOn_ended sep before []
    rw [List.append_nil] at hlast
    rw [collect, splitOn_ended, List.filterMap_append, collect, hlast, List.filterMap_append]
    simp [collect, hempty]

lemma collect_line {here : List α → Option β} (hempty : here [] = none) {line : List α}
    (hline : sep ∉ line) {rest : List α} (hrest : BeginsLine sep rest) :
    collect sep here (line ++ rest) = (here line).toList ++ collect sep here rest := by
  obtain ⟨lines, hlines, hboth⟩ := splitOn_begins hline hrest
  rw [collect, hboth, collect, hlines, List.filterMap_cons, List.filterMap_cons, hempty]
  cases here line <;> rfl

lemma collect_single {here : List α → Option β} {line : List α} (hline : sep ∉ line) :
    collect sep here line = (here line).toList := by
  rw [collect, List.splitOn_eq_singleton hline]
  cases hfound : here line <;> simp [hfound]

/-- A search goes on after the first list at the first line of the second. -/
lemma search_append {here : List α → Option β} (hempty : here [] = none)
    {before after : List α} (h : after = [] ∨ EndsLine sep before) :
    search sep here (before ++ after) = (search sep here before).or
      ((search sep here after).map fun (start, line, found) =>
        (start + before.length, line, found)) := by
  rcases h with rfl | rfl | ⟨before, rfl⟩
  · simp [search, offsets, hempty]
  · simp [search, offsets, hempty]
  · have hlast := splitOn_ended sep before []
    rw [List.append_nil, List.splitOn_nil] at hlast
    have hextent : extent (before.splitOn sep) = (before ++ [sep]).length := by
      rw [extent_splitOn, List.length_append, List.length_singleton]
    rw [search, search, search, hlast, splitOn_ended, offsets_append, offsets_append,
      List.findSome?_append, List.findSome?_append, hextent, offsets_shift 0]
    simp only [offsets, List.findSome?_cons, hempty, Option.map_none, List.findSome?_nil,
      Option.or_none, List.findSome?_map]
    congr 1
    generalize offsets 0 (after.splitOn sep) = lines
    induction lines with
    | nil => rfl
    | cons line lines ih =>
      obtain ⟨start, line⟩ := line
      simp only [List.findSome?_cons, Function.comp_apply] at ih ⊢
      cases here line with
      | none => simpa using ih
      | some found => rfl

lemma search_eq_none {here : List α → Option β} {text : List α} :
    search sep here text = none ↔ ∀ line ∈ text.splitOn sep, here line = none := by
  rw [search, List.findSome?_eq_none_iff]
  have hlines : ∀ (start : ℕ) (lines : List (List α)),
      (∀ entry ∈ offsets start lines, here entry.2 = none) ↔
        ∀ line ∈ lines, here line = none := by
    intro start lines
    induction lines generalizing start with
    | nil => simp [offsets]
    | cons line lines ih => simp only [offsets, List.mem_cons, forall_eq_or_imp, ih]
  simpa using hlines 0 (text.splitOn sep)

/-- In a list that begins with a line, the search begins with that line. -/
lemma search_line {here : List α → Option β} {line : List α} (hline : sep ∉ line)
    {rest : List α} (hrest : BeginsLine sep rest) {found : β} (h : here line = some found) :
    search sep here (line ++ rest) = some (0, line, found) := by
  obtain ⟨lines, -, hlines⟩ := splitOn_begins hline hrest
  rw [search, hlines, offsets, List.findSome?_cons]
  simp [h]

/-- A line is found nowhere if it is found in no line. -/
lemma collect_eq_nil {here : List α → Option β} {text : List α} :
    collect sep here text = [] ↔ search sep here text = none := by
  rw [search_eq_none, collect, List.filterMap_eq_nil_iff]

end LineText
