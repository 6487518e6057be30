import Ventilator.CoverageSections
import Ventilator.SegmentEdits

/-! `fix` over all sections: its edits are replacements of blocks where each stands at the offset
found before any edit. -/
namespace Ventilator
open JsonText PythonText LineText SegmentEdits

namespace CoverageMap

def Finding.section? : Finding → Option Section
  | .missingSection _ _ => none
  | .present found => some found

/-- The sections found of the given layers. -/
def sectionsOf (digits : DecimalDigits) (disk : Disk) (text : Text) (rows : List Layer) :
    List Section :=
  rows.filterMap fun layer => (analyseLayer digits disk text layer).bind Finding.section?

lemma sectionsOf_cons (digits : DecimalDigits) (disk : Disk) (text : Text) (row : Layer)
    (rows : List Layer) : sectionsOf digits disk text (row :: rows) =
      ((analyseLayer digits disk text row).bind Finding.section?).toList ++
        sectionsOf digits disk text rows := by
  rw [sectionsOf, List.filterMap_cons, ← sectionsOf]
  cases (analyseLayer digits disk text row).bind Finding.section? <;> rfl

/-- Whether `fix` edits the section. -/
def Section.NeedsEdit (found : Section) : Prop :=
  found.add ≠ [] ∨ found.claimed ≠ found.actual.length

instance (found : Section) : Decidable found.NeedsEdit := inferInstanceAs (Decidable (_ ∨ _))

/-- The text of a section. -/
def Section.body (text : Text) (found : Section) : Text := (text.take found.stop).drop found.start

/-- How much longer a section gets: by the lines of its missing documents and by its counter. -/
def Section.growth (digits : DecimalDigits) (disk : Disk) (text : Text) (found : Section) : ℤ :=
  (if found.add = [] then (0 : ℤ)
    else (extended disk (eolOf text) found.layer found.add (found.body text)).length -
      (found.body text).length) +
    if found.claimed = found.actual.length then (0 : ℤ)
    else (recount digits found.actual.length found.header).length - found.header.length

/-- Every edited section is, when it is edited, where it was found: of the sections after it in
the list, which are edited before it, those above it in the text change its length by nothing in
total. -/
def Unshifted (digits : DecimalDigits) (disk : Disk) (text : Text) : List Section → Prop
  | [] => True
  | found :: later =>
    (found.NeedsEdit → ((later.filter fun other => other.headerStart < found.headerStart).map
      (Section.growth digits disk text)).sum = 0) ∧ Unshifted digits disk text later

/-- Sections in the order of the list are edited from the last in the text to the first. -/
lemma unshifted_of_ordered {digits : DecimalDigits} {disk : Disk} {text : Text}
    {sections : List Section}
    (h : sections.Pairwise fun found later => found.headerStart < later.headerStart) :
    Unshifted digits disk text sections := by
  induction sections with
  | nil => trivial
  | cons found later ih =>
    rw [List.pairwise_cons] at h
    refine ⟨fun _ => ?_, ih h.2⟩
    have hnone : (later.filter fun other => other.headerStart < found.headerStart) = [] := by
      rw [List.filter_eq_nil_iff]
      intro other hother
      have hbelow := h.1 other hother
      simp only [decide_eq_true_eq]
      omega
    rw [hnone]
    rfl

/-- `fix` edits the sections from the last of the list to the first. -/
lemma fix_analyse (digits : DecimalDigits) (disk : Disk) (text : Text) :
    fix digits disk text (analyse digits disk text) =
      (sectionsOf digits disk text layers).foldr
        (fun found text' => fixSection digits disk (eolOf text) text' found) text := by
  rw [fix, List.foldl_reverse, analyse, sectionsOf]
  induction layers with
  | nil => rfl
  | cons layer rows ih =>
    rw [List.filterMap_cons, List.filterMap_cons]
    cases analyseLayer digits disk text layer with
    | none => exact ih
    | some finding =>
      cases finding with
      | missingSection layer actual => exact ih
      | present found =>
        simp only [List.foldr_cons, Option.bind_some, Finding.section?, fixFinding]
        rw [← ih]
        rfl

/-- The layer whose heading a block has. -/
def Block.layer? (digits : DecimalDigits) (block : Block) : Option Layer :=
  layers.find? fun layer => (matchHeader digits layer block.header).isSome

lemma Block.layer?_iff {digits : DecimalDigits} {block : Block} {layer : Layer}
    (hlayer : layer ∈ layers) :
    block.layer? digits = some layer ↔ matchHeader digits layer block.header ≠ none := by
  rw [Block.layer?]
  constructor
  · intro h
    have hfound := List.find?_some h
    exact Option.isSome_iff_ne_none.mp hfound
  · intro h
    cases hfound : layers.find? fun layer => (matchHeader digits layer block.header).isSome with
    | none =>
      have hnone := List.find?_eq_none.mp hfound layer hlayer
      simp [h] at hnone
    | some other =>
      have hother := List.find?_some hfound
      rw [matchHeader_unique hlayer (List.mem_of_find?_eq_some hfound) h
        (Option.isSome_iff_ne_none.mp hother)]

lemma Block.layer?_eq_none {digits : DecimalDigits} {block : Block} :
    block.layer? digits = none ↔
      ∀ layer ∈ layers, matchHeader digits layer block.header = none := by
  simp [Block.layer?]

/-! One section. -/

/-- At its offsets a section is replaced by what `fix` makes of it. -/
lemma fixSection_at {digits : DecimalDigits} {disk : Disk} {eol : Text} (outline : Outline)
    {layer : Layer} (hlayer : layer ∈ layers) (before : List Block) {block after : Block}
    {claimed : Text} (hclaimed : matchHeader digits layer block.header = some claimed)
    (hedited : Edited digits disk eol block after) (front : Text)
    (hfront : front.length = (outline.preamble ++ before.flatMap Block.text).length)
    (rest : Text) :
    fixSection digits disk eol (front ++ block.text ++ rest)
      (outline.sectionAt digits disk layer before block claimed) = front ++ after.text ++ rest := by
  obtain ⟨heading, hheading, hcounted, hafter⟩ := hedited.text_of_section hlayer hclaimed
  set found := outline.sectionAt digits disk layer before block claimed with hfound
  have hstart : found.start = (front ++ block.header).length := by
    rw [List.length_append, hfront]
    rfl
  have hstop : found.stop = (front ++ block.header ++ block.body).length := by
    rw [List.length_append, List.length_append, hfront]
    rfl
  have htext : front ++ block.text ++ rest = front ++ block.header ++ (block.body ++ rest) := by
    simp [Block.text]
  have htext' : front ++ block.text ++ rest = front ++ block.header ++ block.body ++ rest := by
    simp [Block.text]
  have htake : (front ++ block.text ++ rest).take found.start = front ++ block.header := by
    rw [htext, hstart, List.take_left]
  have hslice : ((front ++ block.text ++ rest).take found.stop).drop found.start = block.body := by
    rw [htext', hstop, List.take_left, hstart, List.drop_left]
  have hdrop : (front ++ block.text ++ rest).drop found.stop = rest := by
    rw [htext', hstop, List.drop_left]
  have hedits : (if found.add = [] then front ++ block.text ++ rest
      else (front ++ block.text ++ rest).take found.start ++
        extended disk eol found.layer found.add
          (((front ++ block.text ++ rest).take found.stop).drop found.start) ++
        (front ++ block.text ++ rest).drop found.stop) =
      front ++ block.header ++ (bodyAfter disk eol layer block.body ++ rest) := by
    have hadd : found.add = missing disk layer block.body := rfl
    rw [htake, hslice, hdrop, hadd, bodyAfter]
    by_cases hmissing : missing disk layer block.body = []
    · rw [if_pos hmissing, if_pos hmissing, htext]
    · rw [if_neg hmissing, if_neg hmissing, List.append_assoc]
      rfl
  have hhead : found.headerStart = front.length := hfront.symm
  have hend : found.headerStart + found.header.length = (front ++ block.header).length := hstart
  have hcount : found.claimed ≠ found.actual.length ↔
      number digits heading.claimed ≠ (documents disk layer.folder).length := by
    rw [hcounted]
    rfl
  have hactual : found.actual.length = (documents disk layer.folder).length := rfl
  have hfoundHeader : found.header = heading.text := hheading.symm
  simp only [fixSection]
  rw [hedits, hafter, heading.text_fixed]
  by_cases hsame : number digits heading.claimed ≠ (documents disk layer.folder).length
  · rw [if_pos (hcount.mpr hsame), if_pos hsame, hend, List.drop_left, hhead,
      List.append_assoc front, List.take_left, hactual, hfoundHeader]
    simp only [List.append_assoc]
  · rw [if_neg fun h => hsame (hcount.mp h), if_neg hsame, hheading]
    simp only [List.append_assoc]

/-- A section that needs no edit is left as it is. -/
lemma fixSection_settled {digits : DecimalDigits} {disk : Disk} {eol : Text} {found : Section}
    (h : ¬ found.NeedsEdit) (text : Text) : fixSection digits disk eol text found = text := by
  simp only [Section.NeedsEdit, not_or, not_not] at h
  simp only [fixSection]
  rw [if_pos h.1, if_neg (not_not.mpr h.2)]

/-- So is a text none of whose sections needs one. -/
lemma foldr_settled {digits : DecimalDigits} {disk : Disk} {eol : Text} {sections : List Section}
    (h : ∀ found ∈ sections, ¬ found.NeedsEdit) (text : Text) :
    sections.foldr (fun found text' => fixSection digits disk eol text' found) text = text := by
  induction sections with
  | nil => rfl
  | cons found sections ih =>
    rw [List.forall_mem_cons] at h
    rw [List.foldr_cons, ih h.2, fixSection_settled h.1]

/-! All sections. -/

section Fix

variable {digits : DecimalDigits} {disk : Disk} {outline : Outline} {edit : Block → Block}
  (hedit : ∀ block, Edited digits disk (eolOf outline.text) block (edit block))
  (hunique : ∀ layer ∈ layers, (collect '\n' (matchHeader digits layer) outline.text).length ≤ 1)

lemma onlyHeadings_matchHeader {layer : Layer} (hlayer : layer ∈ layers) :
    OnlyHeadings (matchHeader digits layer) :=
  fun _ _ h => isHeading_of_matchHeader hlayer h

include hunique in
/-- The heading of a layer is that of one block. -/
lemma unmatched_around {layer : Layer} (hlayer : layer ∈ layers) {before after : List Block}
    {block : Block} (hblocks : outline.blocks = before ++ block :: after)
    (hblock : matchHeader digits layer block.header ≠ none) :
    (∀ other ∈ before, matchHeader digits layer other.header = none) ∧
      ∀ other ∈ after, matchHeader digits layer other.header = none := by
  obtain ⟨claimed, hclaimed⟩ := Option.ne_none_iff_exists'.mp hblock
  have hcount := hunique layer hlayer
  rw [outline.collect_text (onlyHeadings_matchHeader hlayer), hblocks, List.filterMap_append,
    List.filterMap_cons, hclaimed, List.length_append, List.length_cons] at hcount
  constructor
  · rw [← List.filterMap_eq_nil_iff, ← List.length_eq_zero_iff]
    omega
  · rw [← List.filterMap_eq_nil_iff, ← List.length_eq_zero_iff]
    omega

include hunique in
lemma analyseLayer_at (disk : Disk) {layer : Layer} (hlayer : layer ∈ layers)
    {before after : List Block} {block : Block} (hblocks : outline.blocks = before ++ block :: after) {claimed : Text}
    (hclaimed : matchHeader digits layer block.header = some claimed) :
    analyseLayer digits disk outline.text layer =
      some (.present (outline.sectionAt digits disk layer before block claimed)) := by
  have hbefore := (unmatched_around hunique hlayer hblocks (by simp [hclaimed])).1
  exact analyseLayer_present (onlyHeadings_matchHeader hlayer) hblocks hbefore hclaimed

/-- A layer has a section exactly where a block has its heading. -/
lemma section_cases (digits : DecimalDigits) (outline : Outline) (layer : Layer) :
    (∀ block ∈ outline.blocks, matchHeader digits layer block.header = none) ∨
      ∃ before block after claimed, outline.blocks = before ++ block :: after ∧
        matchHeader digits layer block.header = some claimed := by
  by_cases hnone : ∀ block ∈ outline.blocks, matchHeader digits layer block.header = none
  · exact .inl hnone
  · push Not at hnone
    obtain ⟨block, hblock, hmatches⟩ := hnone
    obtain ⟨claimed, hclaimed⟩ := Option.ne_none_iff_exists'.mp hmatches
    obtain ⟨before, after, hblocks⟩ := List.append_of_mem hblock
    exact .inr ⟨before, block, after, claimed, hblocks, hclaimed⟩

lemma analyseLayer_section? (disk : Disk) {layer : Layer} (hlayer : layer ∈ layers)
    (hnone : ∀ block ∈ outline.blocks, matchHeader digits layer block.header = none) :
    (analyseLayer digits disk outline.text layer).bind Finding.section? = none := by
  rw [analyseLayer_absent disk (onlyHeadings_matchHeader hlayer) hnone]
  split_ifs <;> rfl

/-- The text of a section is the body of its block. -/
lemma body_sectionAt (digits : DecimalDigits) (disk : Disk) (layer : Layer) (claimed : Text)
    {before after : List Block} {block : Block}
    (hblocks : outline.blocks = before ++ block :: after) :
    (outline.sectionAt digits disk layer before block claimed).body outline.text = block.body := by
  have htext : outline.text = (outline.preamble ++ before.flatMap Block.text ++ block.header) ++
      (block.body ++ after.flatMap Block.text) := by
    rw [outline.text_at hblocks]
    simp only [List.append_assoc]
  have hstart : (outline.sectionAt digits disk layer before block claimed).start =
      (outline.preamble ++ before.flatMap Block.text ++ block.header).length :=
    List.length_append.symm
  have hstop : (outline.sectionAt digits disk layer before block claimed).stop =
      (outline.sectionAt digits disk layer before block claimed).start + block.body.length := rfl
  rw [Section.body, List.drop_take, hstop, Nat.add_sub_cancel_left, hstart, htext, List.drop_left,
    List.take_left]

include hedit in
/-- The growth of a section is that of its block. -/
lemma growth_at {layer : Layer} (hlayer : layer ∈ layers) {before after : List Block}
    {block : Block} (hblocks : outline.blocks = before ++ block :: after) {claimed : Text}
    (hclaimed : matchHeader digits layer block.header = some claimed) :
    (outline.sectionAt digits disk layer before block claimed).growth digits disk outline.text =
      (edit block).text.length - block.text.length := by
  obtain ⟨heading, hheading, rfl, hafter⟩ := (hedit block).text_of_section hlayer hclaimed
  set found := outline.sectionAt digits disk layer before block heading.claimed with hfound
  have hlines : (if found.add = [] then (0 : ℤ)
      else (extended disk (eolOf outline.text) found.layer found.add block.body).length -
        block.body.length) =
      (bodyAfter disk (eolOf outline.text) layer block.body).length - block.body.length := by
    have hadd : found.add = missing disk layer block.body := rfl
    have hsame : found.layer = layer := rfl
    rw [hadd, hsame, bodyAfter]
    split_ifs <;> simp
  have hcounter : (if found.claimed = found.actual.length then (0 : ℤ)
      else (recount digits found.actual.length found.header).length - found.header.length) =
      (heading.fixed disk).text.length - block.header.length := by
    have hclaims : found.claimed = number digits heading.claimed := rfl
    have hactual : found.actual = documents disk layer.folder := rfl
    have hheader : found.header = heading.text := hheading.symm
    rw [hclaims, hactual, hheader, heading.text_fixed, hheading]
    by_cases hsame : number digits heading.claimed = (documents disk layer.folder).length
    · simp [hsame]
    · simp [hsame]
  rw [Section.growth, body_sectionAt digits disk layer heading.claimed hblocks, hlines, hcounter,
    hafter, Block.text]
  simp only [List.length_append, Nat.cast_add]
  omega

/-- The preamble and blocks with what replaces them. -/
def segmentsOf (digits : DecimalDigits) (edit : Block → Block) (preamble : Text)
    (blocks : List Block) : List (Segment Layer Char) :=
  ⟨none, preamble, preamble⟩ ::
    blocks.map fun block => ⟨block.layer? digits, block.text, (edit block).text⟩

lemma text_segmentsOf (digits : DecimalDigits) (edit : Block → Block) (preamble : Text)
    (blocks : List Block) :
    SegmentEdits.text (segmentsOf digits edit preamble blocks) [] =
      preamble ++ blocks.flatMap Block.text := by
  simp only [segmentsOf, SegmentEdits.text, List.flatMap_cons, Segment.current_nil,
    List.flatMap_map]

lemma segmentsOf_append (preamble : Text) (before after : List Block) (block : Block) :
    segmentsOf digits edit preamble (before ++ block :: after) =
      segmentsOf digits edit preamble before ++
        ⟨block.layer? digits, block.text, (edit block).text⟩ ::
          after.map fun block => ⟨block.layer? digits, block.text, (edit block).text⟩ := by
  simp [segmentsOf]

lemma key_ne_of_mem {layer : Layer} (hlayer : layer ∈ layers) {blocks : List Block}
    (hnone : ∀ block ∈ blocks, matchHeader digits layer block.header = none) :
    ∀ segment ∈ (blocks.map fun block =>
      ⟨block.layer? digits, block.text, (edit block).text⟩ : List (Segment Layer Char)),
      segment.key ≠ some layer := by
  rw [List.forall_mem_map]
  intro block hblock hkey
  exact (Block.layer?_iff hlayer).mp hkey (hnone block hblock)

lemma key_ne_of_mem_segmentsOf {layer : Layer} (hlayer : layer ∈ layers) (preamble : Text)
    {blocks : List Block} (hnone : ∀ block ∈ blocks, matchHeader digits layer block.header = none) :
    ∀ segment ∈ segmentsOf digits edit preamble blocks, segment.key ≠ some layer := by
  rw [segmentsOf, List.forall_mem_cons]
  exact ⟨nofun, key_ne_of_mem hlayer hnone⟩

/-- Two blocks of an outline stand one above the other. -/
lemma above_or_below {blocks before after before' after' : List Block} {block other : Block}
    (h : blocks = before ++ block :: after) (h' : blocks = before' ++ other :: after')
    (hne : other ≠ block) :
    (∃ between, before = before' ++ other :: between) ∨
      ∃ between, before' = before ++ block :: between := by
  rw [h] at h'
  rcases List.append_eq_append_iff.mp h' with
    ⟨between, hbefore, hblock⟩ | ⟨between, hbefore, hother⟩
  · cases between with
    | nil => exact absurd (List.cons.inj hblock).1.symm hne
    | cons first between =>
      rw [List.cons_append, List.cons.injEq] at hblock
      exact .inr ⟨between, by rw [hbefore, hblock.1]⟩
  · cases between with
    | nil => exact absurd (List.cons.inj hother).1 hne
    | cons first between =>
      rw [List.cons_append, List.cons.injEq] at hother
      exact .inl ⟨between, by rw [hbefore, hother.1]⟩

include hedit hunique in
/-- What the sections of other layers above a block have grown by. -/
lemma shift_before (rows : List Layer) (hrows : ∀ row ∈ rows, row ∈ layers)
    {before after : List Block} {block : Block}
    (hblocks : outline.blocks = before ++ block :: after)
    (hother : ∀ row ∈ rows, matchHeader digits row block.header = none) :
    (rows.map (growthOf (segmentsOf digits edit outline.preamble before))).sum =
      (((sectionsOf digits disk outline.text rows).filter fun found =>
        found.headerStart < (outline.preamble ++ before.flatMap Block.text).length).map
          (Section.growth digits disk outline.text)).sum := by
  induction rows with
  | nil => rfl
  | cons row rows ih =>
    rw [List.forall_mem_cons] at hrows hother
    have hrest := ih hrows.2 hother.2
    rw [List.map_cons, List.sum_cons, hrest, sectionsOf_cons, List.filter_append, List.map_append,
      List.sum_append]
    congr 1
    rcases section_cases digits outline row with
      hnone | ⟨before', other, after', claimed, hsplit, hclaimed⟩
    · have hbefore : ∀ other ∈ before, matchHeader digits row other.header = none :=
        fun other hmem => hnone other (by rw [hblocks]; exact List.mem_append_left _ hmem)
      rw [analyseLayer_section? disk hrows.1 hnone,
        growthOf_of_ne (key_ne_of_mem_segmentsOf hrows.1 outline.preamble hbefore)]
      rfl
    · have haround := unmatched_around hunique hrows.1 hsplit (by simp [hclaimed])
      have hne : other ≠ block := by
        rintro rfl
        rw [hother.1] at hclaimed
        cases hclaimed
      have hgrowth := growth_at hedit hrows.1 hsplit hclaimed
      have hkey : other.layer? digits = some row :=
        (Block.layer?_iff hrows.1).mpr (by simp [hclaimed])
      have hheader : (outline.sectionAt digits disk row before' other claimed).headerStart =
          (outline.preamble ++ before'.flatMap Block.text).length := rfl
      rw [analyseLayer_at hunique disk hrows.1 hsplit hclaimed, Option.bind_some, Finding.section?,
        Option.toList_some, List.filter_cons, List.filter_nil, hheader]
      rcases above_or_below hblocks hsplit hne with ⟨between, rfl⟩ | ⟨between, rfl⟩
      · have habove : (outline.preamble ++ before'.flatMap Block.text).length <
            (outline.preamble ++ (before' ++ other :: between).flatMap Block.text).length := by
          have hpositive := other.length_pos
          simp only [List.length_append, List.flatMap_append, List.flatMap_cons]
          omega
        have hafter : ∀ block ∈ between, matchHeader digits row block.header = none := by
          have hsame := hsplit.symm.trans hblocks
          rw [List.append_assoc, List.cons_append, List.append_right_inj, List.cons.injEq] at hsame
          rw [hsame.2] at haround
          exact fun block hblock => haround.2 block (List.mem_append_left _ hblock)
        rw [if_pos (decide_eq_true habove), List.map_singleton, List.sum_singleton, hgrowth,
          segmentsOf_append, growthOf_of_unique hkey
            (key_ne_of_mem_segmentsOf hrows.1 outline.preamble haround.1)
            (key_ne_of_mem hrows.1 hafter)]
        rfl
      · have hbelow : ¬ (outline.preamble ++
            (before ++ block :: between).flatMap Block.text).length <
              (outline.preamble ++ before.flatMap Block.text).length := by
          simp only [List.length_append, List.flatMap_append, List.flatMap_cons]
          omega
        have hbefore : ∀ other ∈ before, matchHeader digits row other.header = none :=
          fun other hmem => haround.1 other (List.mem_append_left _ hmem)
        rw [if_neg fun h => hbelow (of_decide_eq_true h),
          growthOf_of_ne (key_ne_of_mem_segmentsOf hrows.1 outline.preamble hbefore)]
        rfl

include hedit hunique in
/-- The edits replace the blocks of the sections, from the last of the list to the first. -/
lemma foldr_fixSection (rows : List Layer) (hrows : ∀ row ∈ rows, row ∈ layers)
    (hnodup : rows.Nodup)
    (hunshifted : Unshifted digits disk outline.text (sectionsOf digits disk outline.text rows)) :
    (sectionsOf digits disk outline.text rows).foldr
      (fun found text => fixSection digits disk (eolOf outline.text) text found) outline.text =
      SegmentEdits.text (segmentsOf digits edit outline.preamble outline.blocks) rows := by
  induction rows with
  | nil => exact (text_segmentsOf digits edit outline.preamble outline.blocks).symm
  | cons row rows ih =>
    rw [List.forall_mem_cons] at hrows
    rw [List.nodup_cons] at hnodup
    rw [sectionsOf_cons] at hunshifted ⊢
    rcases section_cases digits outline row with
      hnone | ⟨before, block, after, claimed, hsplit, hclaimed⟩
    · rw [analyseLayer_section? disk hrows.1 hnone] at hunshifted ⊢
      rw [text_cons_of_ne (key_ne_of_mem_segmentsOf hrows.1 outline.preamble hnone)]
      exact ih hrows.2 hnodup.2 hunshifted
    · obtain ⟨hbefore, hafter⟩ := unmatched_around hunique hrows.1 hsplit (by simp [hclaimed])
      rw [analyseLayer_at hunique disk hrows.1 hsplit hclaimed] at hunshifted ⊢
      obtain ⟨hshift, hlater⟩ := hunshifted
      have hkey : block.layer? digits = some row :=
        (Block.layer?_iff hrows.1).mpr (by simp [hclaimed])
      change fixSection digits disk (eolOf outline.text) (List.foldr _ outline.text
        (sectionsOf digits disk outline.text rows))
        (outline.sectionAt digits disk row before block claimed) = _
      rw [ih hrows.2 hnodup.2 hlater, hsplit, segmentsOf_append, text_old hkey hnodup.1,
        text_new hkey (key_ne_of_mem_segmentsOf hrows.1 outline.preamble hbefore)
          (key_ne_of_mem hrows.1 hafter)]
      have hat := fixSection_at outline hrows.1 before hclaimed (hedit block)
      by_cases hneeds : (outline.sectionAt digits disk row before block claimed).NeedsEdit
      · apply hat
        have hother : ∀ row ∈ rows, matchHeader digits row block.header = none := by
          intro other hmem
          by_contra hmatches
          obtain rfl :=
            matchHeader_unique hrows.1 (hrows.2 other hmem) (by simp [hclaimed]) hmatches
          exact hnodup.1 hmem
        have hsum := shift_before hedit hunique rows hrows.2 hsplit hother
        rw [← text_segmentsOf digits edit]
        exact length_before hnodup.2 (hsum.trans (hshift hneeds))
      · have hsettled := hat _ rfl (after.flatMap Block.text)
        rw [fixSection_settled hneeds, List.append_left_inj, List.append_right_inj] at hsettled
        rw [fixSection_settled hneeds, hsettled]

lemma current_edited (hedit : ∀ block, Edited digits disk (eolOf outline.text) block (edit block))
    (block : Block) :
    (⟨block.layer? digits, block.text, (edit block).text⟩ : Segment Layer Char).current layers =
      (edit block).text := by
  cases hkey : block.layer? digits with
  | none =>
    have hnone := Block.layer?_eq_none.mp hkey
    rw [(hedit block).eq_of_none hnone]
    simp [Segment.current]
  | some layer =>
    have hlayer : layer ∈ layers := List.mem_of_find?_eq_some hkey
    simp [Segment.current, hlayer]

include hedit hunique in
/-- Where no edit is shifted, `fix` replaces every block by what is made of it. -/
lemma fix_eq (hunshifted : Unshifted digits disk outline.text
      (sectionsOf digits disk outline.text layers)) :
    fix digits disk outline.text (analyse digits disk outline.text) =
      outline.preamble ++ (outline.blocks.map edit).flatMap Block.text := by
  have hlayers : ∀ row ∈ layers, row ∈ layers := fun _ h => h
  rw [fix_analyse, foldr_fixSection hedit hunique layers hlayers (by decide) hunshifted]
  simp only [SegmentEdits.text, segmentsOf, List.flatMap_cons, List.flatMap_map,
    current_edited hedit]
  rfl

end Fix

end CoverageMap
end Ventilator
