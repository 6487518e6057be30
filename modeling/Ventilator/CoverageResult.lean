import Ventilator.CoverageRepair

/-! When `fix` brings the map up to date: that the result is reported without a missing document or
a wrong counter, keeps the lines there were, and is left as it is by another `fix`. -/
namespace Ventilator
open JsonText PythonText LineText

namespace CoverageMap

/-! Lines. -/

/-- A line as it was, or the heading of a section with the number of its documents. -/
def KeptLine (digits : DecimalDigits) (disk : Disk) (line line' : Text) : Prop :=
  line' = line ∨ ∃ layer ∈ layers, ∃ claimed, matchHeader digits layer line = some claimed ∧
    line' = recount digits (documents disk layer.folder).length line

def IsPlaceholder (disk : Disk) (line : Text) : Prop :=
  ∃ layer ∈ layers, ∃ stem ∈ documents disk layer.folder,
    line = placeholder disk layer.folder stem

/-- Every line is kept once and in its order, and only placeholders are added. -/
def KeepsLines (digits : DecimalDigits) (disk : Disk) (lines lines' : List Text) : Prop :=
  ∃ kept added, List.Forall₂ (KeptLine digits disk) lines kept ∧ kept.Sublist lines' ∧
    lines'.Perm (kept ++ added) ∧ ∀ line ∈ added, IsPlaceholder disk line

section Lines

variable {digits : DecimalDigits} {disk : Disk}

lemma KeepsLines.refl (lines : List Text) : KeepsLines digits disk lines lines := by
  refine ⟨lines, [], ?_, List.Sublist.refl lines, by rw [List.append_nil], by simp⟩
  exact List.forall₂_same.mpr fun line _ => .inl rfl

lemma KeepsLines.append {first first' second second' : List Text}
    (h : KeepsLines digits disk first first') (h' : KeepsLines digits disk second second') :
    KeepsLines digits disk (first ++ second) (first' ++ second') := by
  obtain ⟨kept, added, hkept, hsublist, hperm, hadded⟩ := h
  obtain ⟨kept', added', hkept', hsublist', hperm', hadded'⟩ := h'
  refine ⟨kept ++ kept', added ++ added', List.rel_append hkept hkept',
    hsublist.append hsublist', ?_, List.forall_mem_append.mpr ⟨hadded, hadded'⟩⟩
  have hswap : (kept ++ ((added ++ kept') ++ added')).Perm
      (kept ++ ((kept' ++ added) ++ added')) :=
    (List.perm_append_comm.append_right added').append_left kept
  have hboth := hperm.append hperm'
  simp only [List.append_assoc] at hswap hboth ⊢
  exact hboth.trans hswap

lemma KeepsLines.flatMap {α : Type} (items : List α) {lines lines' : α → List Text}
    (h : ∀ item, KeepsLines digits disk (lines item) (lines' item)) :
    KeepsLines digits disk (items.flatMap lines) (items.flatMap lines') := by
  induction items with
  | nil => exact .refl []
  | cons item items ih =>
    rw [List.flatMap_cons, List.flatMap_cons]
    exact (h item).append ih

/-- A block keeps its lines. -/
lemma Edited.keepsLines {eol : Text} {block after : Block}
    (h : Edited digits disk eol block after) (heol : IsEol eol) (hstems : StemsRead disk) :
    KeepsLines digits disk (contentLines block.text) (contentLines after.text) := by
  cases h with
  | kept => exact .refl _
  | @fixed _ layer heading hheading hheader hbody =>
    have hlayer := heading.layer_mem
    have hnewline : '\n' ∉ heading.text := by
      rw [hheading]
      exact block.header_line
    have hbefore : contentLines block.text = heading.bare.text :: contentLines block.body := by
      rw [contentLines, Block.text, ← hheading,
        collect_line ignoresReturns_content.empty hnewline block.body_begins, heading.content_text]
      rfl
    have hplaceholders : ((missing disk layer block.body).map
        (placeholder disk layer.folder)).filterMap content =
          (missing disk layer block.body).map (placeholder disk layer.folder) := by
      rw [List.filterMap_map]
      have hsome : content ∘ placeholder disk layer.folder =
          some ∘ placeholder disk layer.folder := by
        funext stem
        exact content_placeholder disk layer.folder stem
      rw [hsome, List.filterMap_eq_map]
    have hafter : contentLines after.text =
        ((heading.bare.fixed disk).text :: contentLines block.body) ++
          (missing disk layer block.body).map (placeholder disk layer.folder) := by
      rw [contentLines, Block.text, hheader, List.append_assoc, hbody,
        collect_bodyAfter ignoresReturns_content hlayer heol hstems,
        collect_line ignoresReturns_content.empty (Heading.newline_notMem_fixed hnewline disk)
          block.body_begins, Heading.content_text, heading.bare_fixed, hplaceholders]
      rfl
    rw [hbefore, hafter]
    refine ⟨_, _, List.Forall₂.cons ?_ (List.forall₂_same.mpr fun line _ => .inl rfl),
      List.sublist_append_left _ _, List.Perm.refl _, ?_⟩
    · rw [heading.bare.text_fixed]
      split_ifs
      · exact .inr ⟨layer, hlayer, _, heading.bare.matchHeader_text, rfl⟩
      · exact .inl rfl
    · rw [List.forall_mem_map]
      exact fun stem hstem => ⟨layer, hlayer, stem, (mem_difference.mp hstem).1, rfl⟩

end Lines

/-! The report. -/

def Finding.layer : Finding → Layer
  | .missingSection layer _ => layer
  | .present found => found.layer

section Report

variable {digits : DecimalDigits} {disk : Disk} {text : Text} {layer : Layer}

lemma reportFinding_layer {finding : Finding} :
    ∀ entry ∈ reportFinding finding, entry.1 = finding.layer := by
  cases finding with
  | missingSection layer actual => simp [reportFinding, Finding.layer]
  | present found =>
    simp only [reportFinding, List.forall_mem_append, List.forall_mem_map, Finding.layer]
    refine ⟨⟨by simp, by simp⟩, ?_⟩
    split_ifs <;> simp

lemma analyseLayer_layer {finding : Finding}
    (h : analyseLayer digits disk text layer = some finding) : finding.layer = layer := by
  unfold analyseLayer at h
  split at h
  · dsimp only at h
    split_ifs at h
    cases h
    rfl
  · cases h
    rfl

lemma mem_report {problem : Problem} :
    (layer, problem) ∈ report (analyse digits disk text) ↔ layer ∈ layers ∧
      ∃ finding, analyseLayer digits disk text layer = some finding ∧
        (layer, problem) ∈ reportFinding finding := by
  simp only [report, analyse, List.mem_flatMap, List.mem_filterMap]
  constructor
  · rintro ⟨finding, ⟨row, hrow, hfinding⟩, hproblem⟩
    have hsame : layer = row :=
      (reportFinding_layer _ hproblem).trans (analyseLayer_layer hfinding)
    rw [hsame] at hproblem ⊢
    exact ⟨hrow, finding, hfinding, hproblem⟩
  · rintro ⟨hlayer, finding, hfinding, hproblem⟩
    exact ⟨finding, ⟨layer, hlayer, hfinding⟩, hproblem⟩

lemma mem_sectionsOf {rows : List Layer} {found : Section} :
    found ∈ sectionsOf digits disk text rows ↔
      ∃ row ∈ rows, analyseLayer digits disk text row = some (.present found) := by
  simp only [sectionsOf, List.mem_filterMap, Option.bind_eq_some_iff]
  constructor
  · rintro ⟨row, hrow, finding, hfinding, hsection⟩
    cases finding with
    | missingSection => cases hsection
    | present other =>
      cases hsection
      exact ⟨row, hrow, hfinding⟩
  · rintro ⟨row, hrow, hfinding⟩
    exact ⟨row, hrow, _, hfinding, rfl⟩

/-- Of a section that needs no edit only links without a file are reported. -/
lemma reportFinding_settled {found : Section} (h : ¬ found.NeedsEdit) :
    ∀ entry ∈ reportFinding (.present found), ∃ stem, entry.2 = .noFile stem := by
  simp only [Section.NeedsEdit, not_or, not_not] at h
  have hadd : difference found.actual found.listed = [] := h.1
  simp only [reportFinding, hadd, h.2, List.map_nil, List.nil_append, ne_eq, not_true_eq_false,
    if_false, List.append_nil, List.forall_mem_map]
  exact fun stem _ => ⟨stem, rfl⟩

/-- A document without a stem is in no map. -/
lemma report_nil (hlayer : layer ∈ layers) (h : [] ∈ documents disk layer.folder) :
    ∃ problem, (layer, problem) ∈ report (analyse digits disk text) ∧
      ∀ stem, problem ≠ .noFile stem := by
  cases hsearch : search '\n' (matchHeader digits layer) text with
  | none =>
    have hfinding : analyseLayer digits disk text layer =
        some (.missingSection layer (documents disk layer.folder)) := by
      simp only [analyseLayer, hsearch]
      rw [if_neg (List.ne_nil_of_mem h)]
    refine ⟨_, mem_report.mpr ⟨hlayer, _, hfinding, List.mem_singleton_self _⟩, ?_⟩
    intro stem hstem
    cases hstem
  | some found =>
    obtain ⟨headerStart, header, claimed⟩ := found
    have hfinding : ∃ found : Section, analyseLayer digits disk text layer =
        some (.present found) ∧ found.layer = layer ∧ [] ∈ found.actual ∧ [] ∉ found.listed := by
      simp only [analyseLayer, hsearch]
      exact ⟨_, rfl, rfl, h, fun hlinks => (mem_links.mp hlinks).1 rfl⟩
    obtain ⟨found, hfound, rfl, hactual, hlisted⟩ := hfinding
    refine ⟨.notInMap [], mem_report.mpr ⟨hlayer, _, hfound, ?_⟩, ?_⟩
    · simp [reportFinding, mem_difference, hactual, hlisted]
    · intro stem hstem
      cases hstem

end Report

/-! The result. -/

/-- The heading of a section without text is in a line with CRLF, and lines are added to it: its
carriage return is there twice then. -/
def Section.LosesHeading (text : Text) (found : Section) : Prop :=
  found.add ≠ [] ∧ found.header.getLast? = some '\r' ∧ rstrip (found.body text) = [] ∧
    eolOf text = ['\r', '\n']

instance (text : Text) (found : Section) : Decidable (found.LosesHeading text) :=
  inferInstanceAs (Decidable (_ ∧ _ ∧ _ ∧ _))

/-- What `fix` is for. -/
structure Repaired (digits : DecimalDigits) (disk : Disk) (text result : Text) : Prop where
  /-- Of a layer with a section only links without a file are reported. -/
  reported : ∀ layer ∈ layers, search '\n' (matchHeader digits layer) text ≠ none →
    ∀ problem, (layer, problem) ∈ report (analyse digits disk result) →
      ∃ stem, problem = .noFile stem
  keeps : KeepsLines digits disk (contentLines text) (contentLines result)
  settled : fix digits disk result (analyse digits disk result) = result

lemma Ended.map {edit : Block → Block} {blocks : List Block} (h : Ended blocks)
    (hends : ∀ block, EndsLine '\n' block.text → EndsLine '\n' (edit block).text) :
    Ended (blocks.map edit) := by
  induction blocks with
  | nil => trivial
  | cons block blocks ih =>
    refine ⟨h.1.imp ?_ (hends block), ih h.2⟩
    rintro rfl
    rfl

/-- The outline of the result. -/
def Outline.edited (outline : Outline) (edit : Block → Block)
    (hends : ∀ block, EndsLine '\n' block.text → EndsLine '\n' (edit block).text) : Outline where
  preamble := outline.preamble
  blocks := outline.blocks.map edit
  preamble_plain := outline.preamble_plain
  preamble_ends := by
    apply outline.preamble_ends.imp_left
    intro hnone
    rw [hnone, List.map_nil]
  blocks_end := outline.blocks_end.map hends

lemma Outline.blocks_edited (outline : Outline) (edit : Block → Block)
    (hends : ∀ block, EndsLine '\n' block.text → EndsLine '\n' (edit block).text) :
    (outline.edited edit hends).blocks = outline.blocks.map edit := rfl

section Result

variable {digits : DecimalDigits} {disk : Disk} {outline : Outline} {edit : Block → Block}
  (hedit : ∀ block, Edited digits disk (eolOf outline.text) block (edit block))
  (hunique : ∀ layer ∈ layers, (collect '\n' (matchHeader digits layer) outline.text).length ≤ 1)
  (hends : ∀ block, EndsLine '\n' block.text → EndsLine '\n' (edit block).text)

/-- A section that loses its heading is that of a block whose heading is doubled. -/
lemma losesHeading_at {layer : Layer} {before after : List Block} {block : Block} {claimed : Text}
    (hblocks : outline.blocks = before ++ block :: after) :
    (outline.sectionAt digits disk layer before block claimed).LosesHeading outline.text ↔
      Doubled disk (eolOf outline.text) layer block.header block.body := by
  rw [Section.LosesHeading, body_sectionAt digits disk layer claimed hblocks]
  constructor
  · rintro ⟨hadd, hlast, hstrip, heol⟩
    exact ⟨hlast, hadd, hstrip, heol⟩
  · rintro ⟨hlast, hadd, hstrip, heol⟩
    exact ⟨hadd, hlast, hstrip, heol⟩

include hedit in
lemma edited_matchHeader_eq_none {layer : Layer} (hlayer : layer ∈ layers) {blocks : List Block}
    (hnone : ∀ block ∈ blocks, matchHeader digits layer block.header = none) :
    ∀ block ∈ blocks.map edit, matchHeader digits layer block.header = none := by
  rw [List.forall_mem_map]
  exact fun block hblock => (hedit block).matchHeader_eq_none hlayer (hnone block hblock)

include hedit in
/-- A layer without a section has none after the edits. -/
lemma edited_absent {layer : Layer} (hlayer : layer ∈ layers)
    (hnone : ∀ block ∈ outline.blocks, matchHeader digits layer block.header = none) :
    (analyseLayer digits disk (outline.edited edit hends).text layer).bind Finding.section? =
      none :=
  analyseLayer_section? disk hlayer (edited_matchHeader_eq_none hedit hlayer hnone)

include hedit hunique in
/-- A section whose heading is not lost needs no edit after the edits. -/
lemma edited_settled {layer : Layer} (hlayer : layer ∈ layers) (hstems : StemsRead disk)
    (hnames : [] ∉ documents disk layer.folder) {before after : List Block} {block : Block}
    {claimed : Text} (hblocks : outline.blocks = before ++ block :: after)
    (hclaimed : matchHeader digits layer block.header = some claimed)
    (hheading : ¬ Doubled disk (eolOf outline.text) layer block.header block.body) :
    ∃ found, analyseLayer digits disk (outline.edited edit hends).text layer =
      some (.present found) ∧ ¬ found.NeedsEdit := by
  obtain ⟨counted, hcounted, hnumber⟩ := (hedit block).matchHeader hlayer hclaimed hheading
  have hbefore := (unmatched_around hunique hlayer hblocks (by simp [hclaimed])).1
  have hsplit : (outline.edited edit hends).blocks =
      before.map edit ++ edit block :: after.map edit := by
    rw [Outline.blocks_edited, hblocks, List.map_append, List.map_cons]
  refine ⟨_, analyseLayer_present (onlyHeadings_matchHeader hlayer) hsplit
    (edited_matchHeader_eq_none hedit hlayer hbefore) hcounted, ?_⟩
  rw [Section.NeedsEdit, not_or, not_not, not_not]
  refine ⟨difference_eq_nil.mpr fun stem hstem => ?_, hnumber⟩
  apply (hedit block).listed hlayer hstems hclaimed hstem
  rintro rfl
  exact hnames hstem

include hedit hunique in
/-- A section that loses its heading is reported as missing after the edits. -/
lemma edited_lost {layer : Layer} (hlayer : layer ∈ layers) {before after : List Block}
    {block : Block} {claimed : Text} (hblocks : outline.blocks = before ++ block :: after)
    (hclaimed : matchHeader digits layer block.header = some claimed)
    (hheading : Doubled disk (eolOf outline.text) layer block.header block.body) :
    ∃ problem, (layer, problem) ∈ report (analyse digits disk (outline.edited edit hends).text) ∧
      ∀ stem, problem ≠ .noFile stem := by
  obtain ⟨hbefore, hafter⟩ := unmatched_around hunique hlayer hblocks (by simp [hclaimed])
  have hnone : ∀ block ∈ (outline.edited edit hends).blocks,
      matchHeader digits layer block.header = none := by
    rw [Outline.blocks_edited, hblocks, List.map_append, List.map_cons, List.forall_mem_append,
      List.forall_mem_cons]
    exact ⟨edited_matchHeader_eq_none hedit hlayer hbefore,
      (hedit block).lost hlayer hclaimed hheading,
      edited_matchHeader_eq_none hedit hlayer hafter⟩
  obtain ⟨stem, hstem⟩ := List.exists_mem_of_ne_nil _ hheading.2.1
  have hdocuments := List.ne_nil_of_mem (mem_difference.mp hstem).1
  have hfinding := analyseLayer_absent disk (onlyHeadings_matchHeader hlayer) hnone
  rw [if_neg hdocuments] at hfinding
  refine ⟨_, mem_report.mpr ⟨hlayer, _, hfinding, List.mem_singleton_self _⟩, ?_⟩
  intro stem hstem
  cases hstem

include hedit in
lemma edited_keepsLines (hstems : StemsRead disk) :
    KeepsLines digits disk (contentLines outline.text)
      (contentLines (outline.edited edit hends).text) := by
  rw [contentLines, contentLines, outline.collect_parts ignoresReturns_content.empty,
    (outline.edited edit hends).collect_parts ignoresReturns_content.empty]
  apply KeepsLines.append (.refl _)
  rw [Outline.blocks_edited, List.flatMap_map]
  exact KeepsLines.flatMap outline.blocks fun block =>
    (hedit block).keepsLines (isEol_eolOf outline.text) hstems

include hunique in
/-- The sections are those of the blocks with the heading of a layer. -/
lemma mem_sectionsOf_layers {found : Section} :
    found ∈ sectionsOf digits disk outline.text layers ↔ ∃ layer ∈ layers,
      ∃ before block after claimed, outline.blocks = before ++ block :: after ∧
        matchHeader digits layer block.header = some claimed ∧
        outline.sectionAt digits disk layer before block claimed = found := by
  rw [mem_sectionsOf]
  constructor
  · rintro ⟨layer, hlayer, hanalysed⟩
    rcases section_cases digits outline layer with
      hnone | ⟨before, block, after, claimed, hblocks, hclaimed⟩
    · have hsection := analyseLayer_section? disk hlayer hnone
      rw [hanalysed] at hsection
      cases hsection
    · have hat := analyseLayer_at hunique disk hlayer hblocks hclaimed
      rw [hanalysed] at hat
      cases hat
      exact ⟨layer, hlayer, before, block, after, claimed, hblocks, hclaimed, rfl⟩
  · rintro ⟨layer, hlayer, before, block, after, claimed, hblocks, hclaimed, rfl⟩
    exact ⟨layer, hlayer, analyseLayer_at hunique disk hlayer hblocks hclaimed⟩

include hedit hunique in
/-- A section that loses its heading or has a document without a stem is reported again. -/
lemma sections_of_repaired
    (h : Repaired digits disk outline.text (outline.edited edit hends).text) :
    ∀ found ∈ sectionsOf digits disk outline.text layers,
      ¬ found.LosesHeading outline.text ∧ [] ∉ found.actual := by
  intro found hfound
  obtain ⟨layer, hlayer, before, block, after, claimed, hblocks, hclaimed, rfl⟩ :=
    (mem_sectionsOf_layers hunique).mp hfound
  have hpresent : search '\n' (matchHeader digits layer) outline.text ≠ none := by
    rw [outline.search_text (onlyHeadings_matchHeader hlayer) hblocks
      (unmatched_around hunique hlayer hblocks (by simp [hclaimed])).1 hclaimed]
    simp
  constructor
  · intro hloses
    obtain ⟨problem, hproblem, hother⟩ := edited_lost hedit hunique hends hlayer hblocks hclaimed
      ((losesHeading_at hblocks).mp hloses)
    obtain ⟨stem, hstem⟩ := h.reported layer hlayer hpresent problem hproblem
    exact hother stem hstem
  · intro hnil
    obtain ⟨problem, hproblem, hother⟩ := report_nil hlayer hnil
    obtain ⟨stem, hstem⟩ := h.reported layer hlayer hpresent problem hproblem
    exact hother stem hstem

include hedit hunique in
/-- Where there is no such section, no section needs an edit after the edits. -/
lemma repaired_of_sections (hstems : StemsRead disk)
    (h : ∀ found ∈ sectionsOf digits disk outline.text layers,
      ¬ found.LosesHeading outline.text ∧ [] ∉ found.actual) :
    Repaired digits disk outline.text (outline.edited edit hends).text := by
  have hsettled : ∀ layer ∈ layers, ∀ before block after claimed,
      outline.blocks = before ++ block :: after →
      matchHeader digits layer block.header = some claimed →
      ∃ found, analyseLayer digits disk (outline.edited edit hends).text layer =
        some (.present found) ∧ ¬ found.NeedsEdit := by
    intro layer hlayer before block after claimed hblocks hclaimed
    obtain ⟨hloses, hnames⟩ := h _ ((mem_sectionsOf_layers hunique).mpr
      ⟨layer, hlayer, before, block, after, claimed, hblocks, hclaimed, rfl⟩)
    exact edited_settled hedit hunique hends hlayer hstems hnames hblocks hclaimed
      fun hdoubled => hloses ((losesHeading_at hblocks).mpr hdoubled)
  refine ⟨?reported, edited_keepsLines hedit hends hstems, ?settled⟩
  case reported =>
    intro layer hlayer hpresent problem hproblem
    obtain ⟨-, finding, hfinding, hmem⟩ := mem_report.mp hproblem
    rcases section_cases digits outline layer with
      hnone | ⟨before, block, after, claimed, hblocks, hclaimed⟩
    · exact absurd (outline.search_text_eq_none (onlyHeadings_matchHeader hlayer) hnone) hpresent
    · obtain ⟨found, hfound, hneeds⟩ := hsettled layer hlayer before block after claimed hblocks
        hclaimed
      rw [hfinding] at hfound
      cases hfound
      exact reportFinding_settled hneeds _ hmem
  case settled =>
    rw [fix_analyse]
    apply foldr_settled
    intro found hfound
    obtain ⟨layer, hlayer, hanalysed⟩ := mem_sectionsOf.mp hfound
    rcases section_cases digits outline layer with
      hnone | ⟨before, block, after, claimed, hblocks, hclaimed⟩
    · have habsent := edited_absent hedit hends hlayer hnone
      rw [hanalysed] at habsent
      cases habsent
    · obtain ⟨other, hother, hneeds⟩ := hsettled layer hlayer before block after claimed hblocks
        hclaimed
      rw [hanalysed] at hother
      cases hother
      exact hneeds

end Result

/-- The digits of ASCII. -/
def asciiDigits : DecimalDigits where
  value c := if c.toNat < 128 then digit? c else none
  ascii _ hc := if_pos hc

lemma stemsRead_of_all {disk : Disk}
    (h : ∀ layer ∈ layers, ∀ stem ∈ documents disk layer.folder, stem.all stemChar = true) :
    StemsRead disk :=
  fun layer hlayer stem hstem c hc => List.all_eq_true.mp (h layer hlayer stem hstem) c hc

/-- Two documents that are in no map. -/
def twoDocuments : Disk := fun folder =>
  if folder = "research".toList then some [⟨"smc.md".toList, some "title: \"SMC\"\n".toList⟩]
  else if folder = "features".toList then
    some [⟨"fans.md".toList, none⟩, ⟨"README.md".toList, none⟩]
  else none

/-- Their sections, in the order of the list. -/
def orderedReadme : Text := "# Map\n\n### Research (0)\n\n### Features (9)\n\n- none\n".toList

/-- A document that its section lists. -/
def oneDocument : Disk := fun folder =>
  if folder = "services".toList then some [⟨"smc.md".toList, none⟩] else none

/-- Its section is below another one, which is after it in the list. -/
def swappedReadme : Text :=
  "### Features (10)\n### Services (0)\n- [smc](services/smc.md)\n".toList

end CoverageMap
end Ventilator
