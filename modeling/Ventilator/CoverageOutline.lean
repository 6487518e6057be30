import Ventilator.CoverageMap

/-! A README as its preamble and its blocks, each a heading with the text up to the next one, and
the sections as the blocks whose headings are those of the layers. -/
namespace Ventilator
open JsonText PythonText LineText

namespace CoverageMap

/-- A heading and the text up to the next heading. -/
structure Block where
  header : Text
  body : Text
  header_line : '\n' ∉ header
  heading : isHeading header = true
  body_begins : BeginsLine '\n' body
  body_plain : search '\n' matchHeading body = none

def Block.text (block : Block) : Text := block.header ++ block.body

lemma Block.length_pos (block : Block) : 0 < block.text.length := by
  cases hheader : block.header with
  | nil =>
    have hheading := block.heading
    rw [hheader] at hheading
    cases hheading
  | cons c rest => simp [Block.text, hheader]

/-- Every block before another ends with a newline. -/
def Ended : List Block → Prop
  | [] => True
  | block :: blocks => (blocks = [] ∨ EndsLine '\n' block.text) ∧ Ended blocks

structure Outline where
  preamble : Text
  blocks : List Block
  preamble_plain : search '\n' matchHeading preamble = none
  preamble_ends : blocks = [] ∨ EndsLine '\n' preamble
  blocks_end : Ended blocks

def Outline.text (outline : Outline) : Text :=
  outline.preamble ++ outline.blocks.flatMap Block.text

lemma matchHeading_eq_none {line : Text} : matchHeading line = none ↔ isHeading line = false := by
  simp [matchHeading]

lemma matchHeading_nil : matchHeading [] = none := rfl

lemma search_newline_cons {β : Type} {here : Text → Option β} (hempty : here [] = none)
    {text : Text} (h : search '\n' here text = none) : search '\n' here ('\n' :: text) = none := by
  rw [search_eq_none] at h ⊢
  rw [List.splitOn_cons_eq_if_modifyHead]
  simpa [hempty] using h

lemma EndsLine.append {before after : Text} (hbefore : EndsLine '\n' before)
    (hafter : EndsLine '\n' after) : EndsLine '\n' (before ++ after) := by
  obtain rfl | ⟨inner, rfl⟩ := hafter
  · simpa using hbefore
  · exact .inr ⟨before ++ inner, by simp⟩

/-- A line before a text of an outline. -/
lemma exists_outline_cons (line : Text) (hline : '\n' ∉ line) (outline : Outline) :
    ∃ other : Outline, other.text = line ++ '\n' :: outline.text := by
  have hends : outline.blocks = [] ∨ EndsLine '\n' (line ++ '\n' :: outline.preamble) := by
    rcases outline.preamble_ends with hnone | hends
    · exact .inl hnone
    · have hnewline : EndsLine '\n' (line ++ ['\n']) := .inr ⟨line, rfl⟩
      exact .inr (by simpa using EndsLine.append hnewline hends)
  by_cases hheading : isHeading line = true
  · refine ⟨⟨[], ⟨line, '\n' :: outline.preamble, hline, hheading, .inr ⟨_, rfl⟩,
      search_newline_cons matchHeading_nil outline.preamble_plain⟩ :: outline.blocks, ?_,
      .inr (.inl rfl), hends, outline.blocks_end⟩, ?_⟩
    · simp [search_eq_none, matchHeading_nil]
    · simp [Outline.text, Block.text]
  · refine ⟨⟨line ++ '\n' :: outline.preamble, outline.blocks, ?_, hends, outline.blocks_end⟩, ?_⟩
    · have hplain := outline.preamble_plain
      rw [search_eq_none] at hplain ⊢
      rw [List.splitOn_append_cons_self_of_not_mem hline, List.forall_mem_cons]
      exact ⟨matchHeading_eq_none.mpr (by simpa using hheading), hplain⟩
    · simp [Outline.text]

/-- One line is a heading or before all headings. -/
lemma exists_outline_line (line : Text) (hline : '\n' ∉ line) :
    ∃ outline : Outline, outline.text = line := by
  by_cases hheading : isHeading line = true
  · refine ⟨⟨[], [⟨line, [], hline, hheading, .inl rfl, ?_⟩], ?_, .inr (.inl rfl), .inl rfl,
      trivial⟩, ?_⟩
    · simp [search_eq_none, matchHeading_nil]
    · simp [search_eq_none, matchHeading_nil]
    · simp [Outline.text, Block.text]
  · refine ⟨⟨line, [], ?_, .inl rfl, trivial⟩, ?_⟩
    · rw [search_eq_none, List.splitOn_eq_singleton hline]
      simpa [matchHeading_eq_none] using hheading
    · simp [Outline.text]

lemma exists_outline_lines (lines : List Text) (hne : lines ≠ [])
    (hlines : ∀ line ∈ lines, '\n' ∉ line) :
    ∃ outline : Outline, outline.text = ['\n'].intercalate lines := by
  induction lines with
  | nil => exact absurd rfl hne
  | cons line lines ih =>
    rw [List.forall_mem_cons] at hlines
    cases lines with
    | nil =>
      obtain ⟨outline, houtline⟩ := exists_outline_line line hlines.1
      exact ⟨outline, by rw [houtline]; simp [List.intercalate]⟩
    | cons next lines =>
      obtain ⟨outline, houtline⟩ := ih (by simp) hlines.2
      obtain ⟨other, hother⟩ := exists_outline_cons line hlines.1 outline
      exact ⟨other, by rw [hother, houtline]; simp [List.intercalate]⟩

/-- Every text is that of an outline. -/
lemma exists_outline (text : Text) : ∃ outline : Outline, outline.text = text := by
  obtain ⟨outline, houtline⟩ := exists_outline_lines (text.splitOn '\n')
    (List.splitOn_ne_nil _ _) fun line hline hnewline => (mem_of_mem_splitOn hline hnewline).2 rfl
  exact ⟨outline, by rw [houtline, List.intercalate_splitOn]⟩

/-! What is found in an outline. -/

/-- What is found in no line but a heading. -/
def OnlyHeadings {β : Type} (here : Text → Option β) : Prop :=
  ∀ line found, here line = some found → isHeading line = true

section Found

variable {β : Type} {here : Text → Option β}

lemma OnlyHeadings.eq_none (h : OnlyHeadings here) {line : Text} (hline : isHeading line = false) :
    here line = none := by
  cases hfound : here line with
  | none => rfl
  | some found =>
    have hheading := h line found hfound
    simp [hline] at hheading

lemma OnlyHeadings.empty (h : OnlyHeadings here) : here [] = none := h.eq_none rfl

lemma OnlyHeadings.collect_plain (h : OnlyHeadings here) {text : Text}
    (hplain : search '\n' matchHeading text = none) : collect '\n' here text = [] := by
  rw [collect_eq_nil, search_eq_none]
  rw [search_eq_none] at hplain
  intro line hline
  exact h.eq_none (matchHeading_eq_none.mp (hplain line hline))

lemma OnlyHeadings.search_plain (h : OnlyHeadings here) {text : Text}
    (hplain : search '\n' matchHeading text = none) : search '\n' here text = none :=
  collect_eq_nil.mp (h.collect_plain hplain)

lemma onlyHeadings_matchHeading : OnlyHeadings matchHeading := by
  intro line found h
  by_contra hheading
  simp [matchHeading, hheading] at h

lemma Ended.tail {block : Block} {blocks : List Block} (h : Ended (block :: blocks)) :
    blocks.flatMap Block.text = [] ∨ EndsLine '\n' block.text := by
  apply h.1.imp_left
  intro hnone
  rw [hnone, List.flatMap_nil]

lemma Ended.append {before after : List Block} (h : Ended (before ++ after)) : Ended after := by
  induction before with
  | nil => exact h
  | cons block before ih => exact ih h.2

lemma Outline.preamble_tail (outline : Outline) :
    outline.blocks.flatMap Block.text = [] ∨ EndsLine '\n' outline.preamble := by
  apply outline.preamble_ends.imp_left
  intro hnone
  rw [hnone, List.flatMap_nil]

lemma Block.collect_text (h : OnlyHeadings here) (block : Block) :
    collect '\n' here block.text = (here block.header).toList := by
  rw [Block.text, collect_line h.empty block.header_line block.body_begins,
    h.collect_plain block.body_plain, List.append_nil]

lemma Block.search_text (h : OnlyHeadings here) (block : Block) :
    search '\n' here block.text =
      (here block.header).map fun found => (0, block.header, found) := by
  cases hfound : here block.header with
  | none =>
    rw [Option.map_none, ← collect_eq_nil, block.collect_text h, hfound, Option.toList_none]
  | some found =>
    rw [Block.text, search_line block.header_line block.body_begins hfound, Option.map_some]

/-- The lines of an outline are those of its preamble and its blocks. -/
lemma Outline.collect_parts (hempty : here [] = none) (outline : Outline) :
    collect '\n' here outline.text = collect '\n' here outline.preamble ++
      outline.blocks.flatMap fun block => collect '\n' here block.text := by
  rw [Outline.text, collect_append hempty outline.preamble_tail]
  congr 1
  have hended := outline.blocks_end
  generalize outline.blocks = blocks at hended ⊢
  induction blocks with
  | nil => simp [collect, hempty]
  | cons block blocks ih =>
    rw [List.flatMap_cons, List.flatMap_cons, collect_append hempty hended.tail, ih hended.2]

/-- In an outline the headings are found one after the other. -/
lemma Outline.collect_text (h : OnlyHeadings here) (outline : Outline) :
    collect '\n' here outline.text = outline.blocks.filterMap fun block => here block.header := by
  rw [outline.collect_parts h.empty, h.collect_plain outline.preamble_plain, List.nil_append]
  induction outline.blocks with
  | nil => rfl
  | cons block blocks ih =>
    rw [List.flatMap_cons, ih, block.collect_text h, List.filterMap_cons]
    cases here block.header <;> rfl

lemma search_blocks (h : OnlyHeadings here) {before after : List Block} {block : Block}
    {found : β} (hended : Ended (before ++ block :: after))
    (hbefore : ∀ other ∈ before, here other.header = none)
    (hfound : here block.header = some found) :
    search '\n' here ((before ++ block :: after).flatMap Block.text) =
      some ((before.flatMap Block.text).length, block.header, found) := by
  induction before with
  | nil =>
    rw [List.nil_append] at hended ⊢
    rw [List.flatMap_cons, search_append h.empty hended.tail, block.search_text h, hfound]
    rfl
  | cons other before ih =>
    rw [List.forall_mem_cons] at hbefore
    rw [List.cons_append] at hended ⊢
    rw [List.flatMap_cons, search_append h.empty hended.tail, other.search_text h, hbefore.1,
      ih hended.2 hbefore.2]
    simp [Nat.add_comm]

/-- The first heading in which something is found is that of the first such block. -/
lemma Outline.search_text (h : OnlyHeadings here) (outline : Outline) {before after : List Block}
    {block : Block} {found : β} (hblocks : outline.blocks = before ++ block :: after)
    (hbefore : ∀ other ∈ before, here other.header = none)
    (hfound : here block.header = some found) :
    search '\n' here outline.text =
      some ((outline.preamble ++ before.flatMap Block.text).length, block.header, found) := by
  have hended := outline.blocks_end
  rw [hblocks] at hended
  rw [Outline.text, search_append h.empty outline.preamble_tail,
    h.search_plain outline.preamble_plain, hblocks, search_blocks h hended hbefore hfound]
  simp [Nat.add_comm]

lemma Outline.search_text_eq_none (h : OnlyHeadings here) (outline : Outline)
    (hnone : ∀ block ∈ outline.blocks, here block.header = none) :
    search '\n' here outline.text = none := by
  rw [← collect_eq_nil, outline.collect_text h, List.filterMap_eq_nil_iff]
  exact hnone

end Found

/-- The newline at the end of a block is in its body. -/
lemma Block.body_ends (block : Block) (h : EndsLine '\n' block.text) :
    ∃ text, block.body = text ++ ['\n'] := by
  rcases List.eq_nil_or_concat block.body with hnone | ⟨body, c, hbody⟩
  · rw [Block.text, hnone, List.append_nil] at h
    rcases h with hheader | ⟨text, hheader⟩
    · have hheading := block.heading
      rw [hheader] at hheading
      cases hheading
    · exact absurd (by simp [hheader]) block.header_line
  · rw [List.concat_eq_append] at hbody
    rcases h with hnone | ⟨text, htext⟩
    · rw [Block.text, hbody] at hnone
      simp at hnone
    · rw [Block.text, hbody, ← List.append_assoc] at htext
      exact ⟨body, by rw [hbody, (List.append_inj' htext rfl).2]⟩

/-- The next heading after the heading of a block is that of the block after it. -/
lemma search_after {block : Block} {after : List Block} (hended : Ended (block :: after)) :
    search '\n' matchHeading (block.body ++ after.flatMap Block.text) =
      after.head?.map fun next => (block.body.length, next.header, ()) := by
  have hbody : after.flatMap Block.text = [] ∨ EndsLine '\n' block.body :=
    hended.tail.imp_right fun hends => .inr (block.body_ends hends)
  rw [search_append matchHeading_nil hbody, block.body_plain, Option.none_or]
  cases after with
  | nil => simp [search_eq_none, matchHeading_nil]
  | cons next after =>
    have hnext : search '\n' matchHeading (([] ++ next :: after).flatMap Block.text) =
        some (0, next.header, ()) := by
      apply search_blocks onlyHeadings_matchHeading hended.2 (by simp)
      simp [matchHeading, next.heading]
    rw [List.nil_append] at hnext
    rw [hnext]
    simp

/-! What `analyse` finds of an outline. -/

/-- What is found of a layer whose heading is that of a block. -/
def Outline.sectionAt (outline : Outline) (digits : DecimalDigits) (disk : Disk) (layer : Layer)
    (before : List Block) (block : Block) (claimed : Text) : Section :=
  let headerStart := (outline.preamble ++ before.flatMap Block.text).length
  { layer := layer
    listed := links layer.folder block.body
    actual := documents disk layer.folder
    claimed := number digits claimed
    header := block.header
    headerStart := headerStart
    start := headerStart + block.header.length
    stop := headerStart + block.header.length + block.body.length }

lemma Outline.text_at (outline : Outline) {before after : List Block} {block : Block}
    (hblocks : outline.blocks = before ++ block :: after) :
    outline.text = (outline.preamble ++ before.flatMap Block.text) ++
      (block.header ++ (block.body ++ after.flatMap Block.text)) := by
  simp [Outline.text, hblocks, Block.text]

section Analyse

variable {digits : DecimalDigits} {disk : Disk} {layer : Layer} {outline : Outline}

lemma analyseLayer_present (honly : OnlyHeadings (matchHeader digits layer))
    {before after : List Block} {block : Block} {claimed : Text}
    (hblocks : outline.blocks = before ++ block :: after)
    (hbefore : ∀ other ∈ before, matchHeader digits layer other.header = none)
    (hclaimed : matchHeader digits layer block.header = some claimed) :
    analyseLayer digits disk outline.text layer =
      some (.present (outline.sectionAt digits disk layer before block claimed)) := by
  have hended : Ended (block :: after) := by
    have hblocksEnd := outline.blocks_end
    rw [hblocks] at hblocksEnd
    exact hblocksEnd.append
  have hdrop : outline.text.drop ((outline.preamble ++ before.flatMap Block.text).length +
      block.header.length) = block.body ++ after.flatMap Block.text := by
    rw [outline.text_at hblocks, ← List.append_assoc, ← List.length_append, List.drop_left]
  have hslice : (outline.text.take ((outline.preamble ++ before.flatMap Block.text).length +
      block.header.length + block.body.length)).drop
        ((outline.preamble ++ before.flatMap Block.text).length + block.header.length) =
      block.body := by
    rw [List.drop_take, hdrop, Nat.add_sub_cancel_left, List.take_left]
  cases after with
  | nil =>
    have hlength : outline.text.length = (outline.preamble ++ before.flatMap Block.text).length +
        block.header.length + block.body.length := by
      simp [outline.text_at hblocks, Nat.add_assoc]
    simp only [analyseLayer, outline.search_text honly hblocks hbefore hclaimed, hdrop,
      search_after hended, List.head?_nil, Option.map_none, hlength, hslice]
    rfl
  | cons next after =>
    simp only [analyseLayer, outline.search_text honly hblocks hbefore hclaimed, hdrop,
      search_after hended, List.head?_cons, Option.map_some, hslice]
    rfl

lemma analyseLayer_absent (disk : Disk) (honly : OnlyHeadings (matchHeader digits layer))
    (hnone : ∀ block ∈ outline.blocks, matchHeader digits layer block.header = none) :
    analyseLayer digits disk outline.text layer =
      if documents disk layer.folder = [] then none
      else some (.missingSection layer (documents disk layer.folder)) := by
  rw [analyseLayer, outline.search_text_eq_none honly hnone]

end Analyse

end CoverageMap
end Ventilator
