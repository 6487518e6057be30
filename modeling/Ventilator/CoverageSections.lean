import Ventilator.CoverageEdits

/-! The section that `fix` makes of one: its links, its heading and its block. -/
namespace Ventilator
open JsonText PythonText LineText

namespace CoverageMap

/-! Links. -/

def linkText (folder stem : Text) : Text := linkOpening folder ++ stem ++ markdown ++ [')']

lemma linkHere_iff {folder stem text : Text} : linkHere folder text = some stem ↔
    stem ≠ [] ∧ IsStem stem ∧ linkText folder stem <+: text := by
  constructor
  · intro h
    simp only [linkHere, Option.ite_none_right_eq_some] at h
    obtain ⟨⟨hlink, hne⟩, hstem⟩ := h
    cases hstem
    exact ⟨hne, fun c hc => List.mem_takeWhile_imp (List.mem_of_mem_take hc), hlink⟩
  · rintro ⟨hne, hstem, more, rfl⟩
    have hdrop : (linkText folder stem ++ more).drop (linkOpening folder).length =
        stem ++ (markdown ++ ')' :: more) := by
      have htext : linkText folder stem ++ more =
          linkOpening folder ++ (stem ++ (markdown ++ ')' :: more)) := by
        simp [linkText]
      rw [htext, List.drop_left]
    have hmarkdown : (markdown ++ ')' :: more).takeWhile stemChar = markdown := by
      rw [List.takeWhile_append_of_pos (by simp [markdown, stemChar]),
        List.takeWhile_cons_of_neg (by simp [stemChar]), List.append_nil]
    have htarget : (stem ++ (markdown ++ ')' :: more)).takeWhile stemChar = stem ++ markdown := by
      rw [List.takeWhile_append_of_pos hstem, hmarkdown]
    have htake : (stem ++ markdown).take ((stem ++ markdown).length - 3) = stem := by
      have hlength : (stem ++ markdown).length - 3 = stem.length := by simp [markdown]
      rw [hlength, List.take_left]
    simp only [linkHere, hdrop, htarget, htake]
    rw [if_pos ⟨List.prefix_append _ more, hne⟩]

/-- The links of a text are those whose text is in it. -/
lemma mem_links {folder stem text : Text} : stem ∈ links folder text ↔
    stem ≠ [] ∧ IsStem stem ∧ linkText folder stem <:+: text := by
  induction text with
  | nil => simp [links, linkText]
  | cons c text ih =>
    rw [links, List.mem_append, Option.mem_toList, linkHere_iff, ih,
      List.infix_cons_iff]
    tauto

/-- A carriage return before a text is in no link. -/
lemma links_returned (folder text : Text) : links folder ('\r' :: text) = links folder text := by
  have hnone : linkHere folder ('\r' :: text) = none := by
    cases hfound : linkHere folder ('\r' :: text) with
    | none => rfl
    | some stem =>
      obtain ⟨-, -, more, hmore⟩ := linkHere_iff.mp hfound
      simp [linkText, linkOpening] at hmore
  rw [links, hnone]
  rfl

lemma prefix_rstrip {front text : Text} {c : Char} (h : front ++ [c] <+: text) (hc : ¬ IsBreak c) :
    front ++ [c] <+: rstrip text := by
  obtain ⟨after, rfl⟩ := h
  induction after using List.reverseRecOn with
  | nil =>
    rw [List.append_nil, rstrip, List.rdropWhile_concat_neg _ _ _ (by simpa [IsBreak] using hc)]
  | append_singleton after d ih =>
    rw [← List.append_assoc, rstrip]
    by_cases hd : d = '\r' ∨ d = '\n'
    · rw [List.rdropWhile_concat_pos _ _ _ (by simpa using hd)]
      exact ih
    · rw [List.rdropWhile_concat_neg _ _ _ (by simpa using hd), List.append_assoc]
      exact List.prefix_append _ _

/-- No link is lost where the breaks at the end of a text are. -/
lemma mem_links_rstrip {folder stem text : Text} (h : stem ∈ links folder text) :
    stem ∈ links folder (rstrip text) := by
  obtain ⟨hne, hstem, before, after, hinfix⟩ := mem_links.mp h
  refine mem_links.mpr ⟨hne, hstem, ?_⟩
  have hlink : before ++ (linkOpening folder ++ stem ++ markdown) ++ [')'] <+: text :=
    ⟨after, by rw [← hinfix, linkText]; simp⟩
  obtain ⟨rest, hrest⟩ := prefix_rstrip hlink (by simp [IsBreak])
  exact ⟨before, rest, by rw [← hrest, linkText]; simp⟩

lemma mem_links_append {folder stem before after : Text}
    (h : stem ∈ links folder before ∨ stem ∈ links folder after) :
    stem ∈ links folder (before ++ after) := by
  rcases h with h | h
  · obtain ⟨hne, hstem, hinfix⟩ := mem_links.mp h
    exact mem_links.mpr ⟨hne, hstem, hinfix.trans (List.prefix_append before after).isInfix⟩
  · obtain ⟨hne, hstem, hinfix⟩ := mem_links.mp h
    exact mem_links.mpr ⟨hne, hstem, hinfix.trans (List.suffix_append before after).isInfix⟩

lemma mem_links_placeholder (disk : Disk) (folder : Text) {stem : Text} (hne : stem ≠ [])
    (hstem : IsStem stem) : stem ∈ links folder (placeholder disk folder stem) := by
  refine mem_links.mpr ⟨hne, hstem, "- [x] [".toList ++ stem,
    " - ".toList ++ readTitle disk folder stem ++ placeholderMark, ?_⟩
  unfold placeholder
  simp [linkText]

/-- An extended section has the links it had and those of the placeholders. -/
lemma mem_links_extended {disk : Disk} {eol body stem : Text} {layer : Layer} {add : List Text}
    (h : stem ∈ links layer.folder body ∨ stem ∈ add ∧ stem ≠ [] ∧ IsStem stem) :
    stem ∈ links layer.folder (extended disk eol layer add body) := by
  unfold extended
  simp only [List.append_assoc]
  rcases h with h | ⟨hadd, hne, hstem⟩
  · exact mem_links_append (.inl (mem_links_rstrip h))
  · have hlines : add.map (placeholder disk layer.folder) ≠ [] := by
      simpa using List.ne_nil_of_mem hadd
    obtain ⟨before, after, hsplit⟩ := List.append_of_mem hadd
    have hwritten := mem_links_placeholder disk layer.folder hne hstem
    rw [← List.append_assoc (eol.intercalate _), intercalate_ended eol hlines, hsplit,
      List.map_append, List.map_cons, List.flatMap_append, List.flatMap_cons]
    apply mem_links_append
    right
    apply mem_links_append
    right
    apply mem_links_append
    left
    apply mem_links_append
    right
    apply mem_links_append
    left
    exact mem_links_append (.inl hwritten)

/-! The heading. -/

lemma mem_difference {xs ys : List Text} {x : Text} :
    x ∈ difference xs ys ↔ x ∈ xs ∧ x ∉ ys := by
  rw [difference, sorted, (List.perm_insertionSort _ _).mem_iff, List.mem_dedup, List.mem_filter]
  simp

lemma difference_eq_nil {xs ys : List Text} : difference xs ys = [] ↔ ∀ x ∈ xs, x ∈ ys := by
  rw [List.eq_nil_iff_forall_not_mem]
  simp only [mem_difference, not_and, not_not]

namespace Heading

variable {digits : DecimalDigits} {layer : Layer}

/-- The heading with the number of the documents, where it has another one. -/
def fixed (heading : Heading digits layer) (disk : Disk) : Heading digits layer :=
  if number digits heading.claimed ≠ (documents disk layer.folder).length then
    heading.recounted (documents disk layer.folder).length
  else heading

lemma number_fixed (heading : Heading digits layer) (disk : Disk) :
    number digits (heading.fixed disk).claimed = (documents disk layer.folder).length := by
  rw [fixed]
  split_ifs with hnumber
  · exact number_numeral digits _
  · exact not_not.mp hnumber

lemma fixed_ending (heading : Heading digits layer) (disk : Disk) :
    (heading.fixed disk).ending = heading.ending := by
  rw [fixed]
  split_ifs <;> rfl

lemma newline_notMem_fixed {heading : Heading digits layer} (h : '\n' ∉ heading.text)
    (disk : Disk) : '\n' ∉ (heading.fixed disk).text := by
  rw [fixed]
  split_ifs
  · have hnumeral : '\n' ∉ numeral (documents disk layer.folder).length := by
      intro hnewline
      have hdecimal := numeral_decimal digits _ '\n' hnewline
      rw [isDecimal_ascii digits (by decide) rfl] at hdecimal
      cases hdecimal
    simp only [text, closing, recounted, List.mem_append, List.mem_cons, not_or] at h ⊢
    exact ⟨h.1, hnumeral, h.2.2⟩
  · exact h

lemma bare_fixed (heading : Heading digits layer) (disk : Disk) :
    (heading.fixed disk).bare = heading.bare.fixed disk := by
  have hclaimed : heading.bare.claimed = heading.claimed := rfl
  rw [fixed, fixed, hclaimed]
  split_ifs <;> rfl

lemma content_text (heading : Heading digits layer) :
    content heading.text = some heading.bare.text := by
  have hbare : content heading.bare.text = some heading.bare.text := by
    have hne : heading.bare.text ≠ [] := by simp [text, closing]
    have hstrip : heading.bare.text.rdropWhile (fun c => c = '\r') = heading.bare.text := by
      rw [List.rdropWhile_eq_self_iff]
      intro hne hreturn
      apply heading.getLast?_bare
      rw [List.getLast?_eq_some_getLast hne]
      simpa using hreturn
    simp only [content, hstrip]
    rw [if_neg hne]
  rw [heading.text_bare]
  rcases heading.ending_form with hnone | hreturn
  · rw [hnone, List.append_nil, hbare]
  · rw [hreturn, content_returned, hbare]

/-- What is written over a heading is what `fix` writes. -/
lemma text_fixed (heading : Heading digits layer) (disk : Disk) :
    (heading.fixed disk).text =
      if number digits heading.claimed ≠ (documents disk layer.folder).length then
        recount digits (documents disk layer.folder).length heading.text
      else heading.text := by
  rw [fixed, recount_text]
  split_ifs <;> rfl

end Heading

/-! The block. -/

/-- The documents that the text of a section does not list. -/
def missing (disk : Disk) (layer : Layer) (body : Text) : List Text :=
  difference (documents disk layer.folder) (links layer.folder body)

/-- The text of a section after its edits. -/
def bodyAfter (disk : Disk) (eol : Text) (layer : Layer) (body : Text) : Text :=
  if missing disk layer body = [] then body
  else extended disk eol layer (missing disk layer body) body

/-- Whether the first line that is written ends the line of the heading once more. -/
def EndsAgain (disk : Disk) (eol : Text) (layer : Layer) (body : Text) : Prop :=
  missing disk layer body ≠ [] ∧ rstrip body = [] ∧ eol = ['\r', '\n']

instance (disk : Disk) (eol : Text) (layer : Layer) (body : Text) :
    Decidable (EndsAgain disk eol layer body) :=
  inferInstanceAs (Decidable (_ ∧ _ ∧ _))

lemma takeWhile_begins {text : Text} (h : BeginsLine '\n' text) :
    text.takeWhile (fun c => c ≠ '\n') = [] := by
  rcases h with rfl | ⟨after, rfl⟩ <;> simp

lemma begins_dropWhile (text : Text) : BeginsLine '\n' (text.dropWhile fun c => c ≠ '\n') := by
  have hhead := List.head?_dropWhile_not (fun c => decide (c ≠ '\n')) text
  cases hrest : text.dropWhile fun c => decide (c ≠ '\n') with
  | nil => exact .inl rfl
  | cons c after =>
    rw [hrest] at hhead
    have hc : c = '\n' := by simpa using hhead
    exact .inr ⟨after, by rw [hc]⟩

/-- Before the first newline of the edited text there is at most a carriage return. -/
lemma takeWhile_bodyAfter (disk : Disk) {eol body : Text} (layer : Layer) (heol : IsEol eol)
    (hbody : BeginsLine '\n' body) :
    (bodyAfter disk eol layer body).takeWhile (fun c => c ≠ '\n') =
      if EndsAgain disk eol layer body then ['\r'] else [] := by
  rw [bodyAfter]
  by_cases hmissing : missing disk layer body = []
  · rw [if_pos hmissing, takeWhile_begins hbody, if_neg fun h => h.1 hmissing]
  · rw [if_neg hmissing, extended]
    cases hstrip : rstrip body with
    | nil =>
      rcases heol with rfl | rfl
      · rw [if_pos ⟨hmissing, hstrip, rfl⟩]
        simp
      · rw [if_neg (by simp [EndsAgain])]
        simp
    | cons c rest =>
      have hstrips : c :: rest <+: body := by
        rw [← hstrip]
        exact List.rdropWhile_prefix _ _
      rw [if_neg (by simp [EndsAgain, hstrip])]
      rcases hbody with rfl | ⟨after, rfl⟩
      · simp at hstrips
      · rw [List.cons_prefix_cons] at hstrips
        simp [hstrips.1]

/-- A block and what `fix` makes of it. -/
inductive Edited (digits : DecimalDigits) (disk : Disk) (eol : Text) : Block → Block → Prop
  | kept {block : Block} (hnone : ∀ layer ∈ layers, matchHeader digits layer block.header = none) :
    Edited digits disk eol block block
  | fixed {block after : Block} {layer : Layer} (heading : Heading digits layer)
    (hheading : heading.text = block.header)
    (hheader : after.header = (heading.fixed disk).text ++
      if EndsAgain disk eol layer block.body then ['\r'] else [])
    (hbody : (if EndsAgain disk eol layer block.body then ['\r'] else []) ++ after.body =
      bodyAfter disk eol layer block.body) :
    Edited digits disk eol block after

/-- The stems of all documents are of the class. -/
def StemsRead (disk : Disk) : Prop :=
  ∀ layer ∈ layers, ∀ stem ∈ documents disk layer.folder, IsStem stem

section Edited

variable {digits : DecimalDigits} {disk : Disk} {eol : Text} {layer : Layer}

lemma collect_bodyAfter {β : Type} {here : Text → Option β} (hhere : IgnoresReturns here)
    (hlayer : layer ∈ layers) (heol : IsEol eol) (hstems : StemsRead disk) (front body : Text) :
    collect '\n' here (front ++ bodyAfter disk eol layer body) =
      collect '\n' here (front ++ body) ++
        ((missing disk layer body).map (placeholder disk layer.folder)).filterMap here := by
  rw [bodyAfter]
  by_cases hmissing : missing disk layer body = []
  · rw [if_pos hmissing, hmissing]
    simp
  · rw [if_neg hmissing]
    apply collect_extended hhere hlayer heol hmissing
    exact fun stem hstem => hstems layer hlayer stem (mem_difference.mp hstem).1

/-- No line that is written is a heading. -/
lemma bodyAfter_plain (hlayer : layer ∈ layers) (heol : IsEol eol) (hstems : StemsRead disk)
    {body : Text} (hbody : search '\n' matchHeading body = none) :
    search '\n' matchHeading (bodyAfter disk eol layer body) = none := by
  have hlines := collect_bodyAfter ignoresReturns_matchHeading hlayer heol hstems [] body
  rw [List.nil_append, List.nil_append, collect_eq_nil.mpr hbody, List.nil_append,
    List.filterMap_map] at hlines
  rw [← collect_eq_nil, hlines, List.filterMap_eq_nil_iff]
  intro stem hstem
  simp [matchHeading, isHeading_placeholder]

/-- Every block is edited to a block. -/
lemma exists_edited (digits : DecimalDigits) (heol : IsEol eol) (hstems : StemsRead disk)
    (block : Block) : ∃ after, Edited digits disk eol block after := by
  by_cases hnone : ∀ layer ∈ layers, matchHeader digits layer block.header = none
  · exact ⟨block, .kept hnone⟩
  push Not at hnone
  obtain ⟨layer, hlayer, hmatches⟩ := hnone
  obtain ⟨claimed, hclaimed⟩ := Option.ne_none_iff_exists'.mp hmatches
  obtain ⟨heading, hheading, -⟩ := exists_heading hlayer hclaimed
  have hreturned := takeWhile_bodyAfter disk layer heol block.body_begins
  set returned := if EndsAgain disk eol layer block.body then ['\r'] else [] with hdef
  set rest := (bodyAfter disk eol layer block.body).dropWhile fun c => c ≠ '\n' with hrest
  have hbody : returned ++ rest = bodyAfter disk eol layer block.body := by
    rw [← hreturned, hrest, List.takeWhile_append_dropWhile]
  have hnewline : '\n' ∉ returned := by
    rw [hdef]
    split_ifs <;> simp
  have hbegins : BeginsLine '\n' rest := begins_dropWhile _
  have hplain : search '\n' matchHeading rest = none := by
    have hall := bodyAfter_plain hlayer heol hstems block.body_plain
    obtain ⟨lines, hlines, hboth⟩ := splitOn_begins hnewline hbegins
    rw [← hbody, search_eq_none, hboth, List.forall_mem_cons] at hall
    rw [search_eq_none, hlines, List.forall_mem_cons]
    exact ⟨matchHeading_nil, hall.2⟩
  have hline : '\n' ∉ (heading.fixed disk).text ++ returned := by
    rw [List.mem_append, not_or]
    exact ⟨Heading.newline_notMem_fixed (by rw [hheading]; exact block.header_line) disk, hnewline⟩
  exact ⟨⟨(heading.fixed disk).text ++ returned, rest, hline,
    isHeading_append (heading.fixed disk).isHeading_text returned, hbegins, hplain⟩,
    .fixed heading hheading rfl hbody⟩

variable {block after : Block}

/-- What is edited of a section. -/
lemma Edited.of_section (h : Edited digits disk eol block after) (hlayer : layer ∈ layers)
    {claimed : Text} (hclaimed : matchHeader digits layer block.header = some claimed) :
    ∃ heading : Heading digits layer, heading.text = block.header ∧ heading.claimed = claimed ∧
      after.header = (heading.fixed disk).text ++
        (if EndsAgain disk eol layer block.body then ['\r'] else []) ∧
      (if EndsAgain disk eol layer block.body then ['\r'] else []) ++ after.body =
        bodyAfter disk eol layer block.body := by
  cases h with
  | kept hnone =>
    rw [hnone layer hlayer] at hclaimed
    cases hclaimed
  | @fixed _ other heading hheading hheader hbody =>
    have hmatch := heading.matchHeader_text
    rw [hheading] at hmatch
    obtain rfl := matchHeader_unique heading.layer_mem hlayer
      (Option.ne_none_iff_exists'.mpr ⟨_, hmatch⟩) (Option.ne_none_iff_exists'.mpr ⟨_, hclaimed⟩)
    rw [hclaimed] at hmatch
    exact ⟨heading, hheading, (Option.some.inj hmatch).symm, hheader, hbody⟩

/-- The text of a section is its heading and its edited body. -/
lemma Edited.text_of_section (h : Edited digits disk eol block after) (hlayer : layer ∈ layers)
    {claimed : Text} (hclaimed : matchHeader digits layer block.header = some claimed) :
    ∃ heading : Heading digits layer, heading.text = block.header ∧ heading.claimed = claimed ∧
      after.text = (heading.fixed disk).text ++ bodyAfter disk eol layer block.body := by
  obtain ⟨heading, hheading, hcounted, hheader, hbody⟩ := h.of_section hlayer hclaimed
  exact ⟨heading, hheading, hcounted, by rw [Block.text, hheader, List.append_assoc, hbody]⟩

lemma Edited.eq_of_none (h : Edited digits disk eol block after)
    (hnone : ∀ layer ∈ layers, matchHeader digits layer block.header = none) : after = block := by
  cases h with
  | kept => rfl
  | fixed heading hheading =>
    have hmatch := heading.matchHeader_text
    rw [hheading, hnone _ heading.layer_mem] at hmatch
    cases hmatch

/-- The edits make no heading of another layer. -/
lemma Edited.matchHeader_eq_none (h : Edited digits disk eol block after) (hlayer : layer ∈ layers)
    (hnone : matchHeader digits layer block.header = none) :
    matchHeader digits layer after.header = none := by
  cases h with
  | kept => exact hnone
  | @fixed _ other heading hheading hheader hbody =>
    by_contra hsome
    obtain ⟨claimed, hclaimed⟩ := Option.ne_none_iff_exists'.mp hsome
    obtain ⟨same, hsame, -⟩ := exists_heading hlayer hclaimed
    have hopens := (heading.fixed disk).opens
      (if EndsAgain disk eol other block.body then ['\r'] else [])
    have hother := same.opens []
    rw [← hheader] at hopens
    rw [List.append_nil, hsame] at hother
    obtain rfl := layer_unique heading.layer_mem hlayer hopens hother
    rw [← hheading, heading.matchHeader_text] at hnone
    cases hnone

/-- The text of a section whose heading ends with a carriage return that is written once more. -/
def Doubled (disk : Disk) (eol : Text) (layer : Layer) (header body : Text) : Prop :=
  header.getLast? = some '\r' ∧ EndsAgain disk eol layer body

/-- The heading says the number of the documents then, if it is one. -/
lemma Edited.matchHeader (h : Edited digits disk eol block after) (hlayer : layer ∈ layers)
    {claimed : Text} (hclaimed : matchHeader digits layer block.header = some claimed)
    (hdoubled : ¬ Doubled disk eol layer block.header block.body) :
    ∃ counted, CoverageMap.matchHeader digits layer after.header = some counted ∧
      number digits counted = (documents disk layer.folder).length := by
  obtain ⟨heading, hheading, -, hheader, -⟩ := h.of_section hlayer hclaimed
  by_cases hagain : EndsAgain disk eol layer block.body
  · have hending : (heading.fixed disk).ending = [] := by
      rw [heading.fixed_ending]
      rcases heading.ending_form with hnone | hreturn
      · exact hnone
      · refine absurd ⟨?_, hagain⟩ hdoubled
        rw [← hheading]
        exact heading.ending_iff.mp hreturn
    rw [if_pos hagain, ← Heading.text_returned hending] at hheader
    exact ⟨_, by rw [hheader]; exact Heading.matchHeader_text _, heading.number_fixed disk⟩
  · rw [if_neg hagain, List.append_nil] at hheader
    exact ⟨_, by rw [hheader]; exact Heading.matchHeader_text _, heading.number_fixed disk⟩

lemma Edited.lost (h : Edited digits disk eol block after) (hlayer : layer ∈ layers)
    {claimed : Text} (hclaimed : CoverageMap.matchHeader digits layer block.header = some claimed)
    (hdoubled : Doubled disk eol layer block.header block.body) :
    CoverageMap.matchHeader digits layer after.header = none := by
  obtain ⟨heading, hheading, -, hheader, -⟩ := h.of_section hlayer hclaimed
  rw [hheader, if_pos hdoubled.2]
  apply Heading.matchHeader_doubled
  rw [heading.fixed_ending, heading.ending_iff, hheading]
  exact hdoubled.1

/-- Every document is listed then, except one without a stem. -/
lemma Edited.listed (h : Edited digits disk eol block after) (hlayer : layer ∈ layers)
    (hstems : StemsRead disk) {claimed : Text}
    (hclaimed : CoverageMap.matchHeader digits layer block.header = some claimed) {stem : Text}
    (hstem : stem ∈ documents disk layer.folder) (hne : stem ≠ []) :
    stem ∈ links layer.folder after.body := by
  obtain ⟨-, -, -, -, hbody⟩ := h.of_section hlayer hclaimed
  have hlinks : links layer.folder after.body =
      links layer.folder (bodyAfter disk eol layer block.body) := by
    rw [← hbody]
    split_ifs
    · exact (links_returned layer.folder after.body).symm
    · rfl
  rw [hlinks, bodyAfter]
  by_cases hlisted : stem ∈ links layer.folder block.body
  · split_ifs
    · exact hlisted
    · exact mem_links_extended (.inl hlisted)
  · have hmissing : stem ∈ missing disk layer block.body := mem_difference.mpr ⟨hstem, hlisted⟩
    rw [if_neg (List.ne_nil_of_mem hmissing)]
    exact mem_links_extended (.inr ⟨hmissing, hne, hstems layer hlayer stem hstem⟩)

lemma Edited.ends (h : Edited digits disk eol block after) (heol : IsEol eol)
    (hends : EndsLine '\n' block.text) : EndsLine '\n' after.text := by
  cases h with
  | kept => exact hends
  | @fixed _ layer heading hheading hheader hbody =>
    rw [Block.text, hheader, List.append_assoc, hbody, bodyAfter]
    split_ifs
    · obtain ⟨text, htext⟩ := block.body_ends hends
      exact .inr ⟨(heading.fixed disk).text ++ text, by rw [htext, List.append_assoc]⟩
    · rw [extended, ← List.append_assoc]
      exact heol.ends _

end Edited

end CoverageMap
end Ventilator
