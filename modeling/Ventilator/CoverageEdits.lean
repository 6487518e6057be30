import Ventilator.CoverageHeadings
import Ventilator.CoverageOutline

/-! What `fix` writes into a section: its lines, its links and the block it makes of it. -/
namespace Ventilator
open JsonText PythonText LineText

namespace CoverageMap

/-! Lines. -/

/-- A line without the carriage return at its end, where anything else is in it. -/
def content (line : Text) : Option Text :=
  let text := line.rdropWhile fun c => c = '\r'
  if text = [] then none else some text

/-- The lines of a text that are not blank. -/
def contentLines (text : Text) : List Text := collect '\n' content text

/-- What is found in a line whatever ends it. -/
structure IgnoresReturns {β : Type} (here : Text → Option β) : Prop where
  empty : here [] = none
  returned : ∀ line, here (line ++ ['\r']) = here line

def IsBreak (c : Char) : Prop := c = '\r' ∨ c = '\n'

/-- The ends of lines that `fix` writes. -/
def IsEol (eol : Text) : Prop := eol = ['\r', '\n'] ∨ eol = ['\n']

lemma isEol_eolOf (text : Text) : IsEol (eolOf text) := by
  rw [eolOf]
  split_ifs
  · exact .inl rfl
  · exact .inr rfl

lemma IsEol.breaks {eol : Text} (h : IsEol eol) : ∀ c ∈ eol, IsBreak c := by
  rcases h with rfl | rfl <;> simp [IsBreak]

lemma IsEol.ends {eol : Text} (h : IsEol eol) (text : Text) : EndsLine '\n' (text ++ eol) := by
  rcases h with rfl | rfl
  · exact .inr ⟨text ++ ['\r'], by simp⟩
  · exact .inr ⟨text, rfl⟩

lemma content_returned (line : Text) : content (line ++ ['\r']) = content line := by
  simp only [content]
  rw [List.rdropWhile_concat_pos _ _ _ (by simp)]

lemma ignoresReturns_content : IgnoresReturns content := ⟨rfl, content_returned⟩

lemma isHeading_append {line : Text} (h : isHeading line = true) (more : Text) :
    isHeading (line ++ more) = true := by
  simp only [isHeading, Bool.and_eq_true, List.isPrefixOf_iff_prefix, beq_iff_eq] at h ⊢
  obtain ⟨hmarks, hspace⟩ := h
  refine ⟨hmarks.trans (List.prefix_append line more), ?_⟩
  rw [List.dropWhile_append]
  cases hrest : line.dropWhile fun c => decide (c = '#') with
  | nil => simp [hrest] at hspace
  | cons c rest =>
    rw [hrest] at hspace
    simpa using hspace

lemma isHeading_of_returned {line : Text} (h : isHeading (line ++ ['\r']) = true) :
    isHeading line = true := by
  simp only [isHeading, Bool.and_eq_true, List.isPrefixOf_iff_prefix, beq_iff_eq] at h ⊢
  obtain ⟨hmarks, hspace⟩ := h
  have hopens : "##".toList <+: line := by
    rcases List.prefix_concat_iff.mp hmarks with heq | hopens
    · have hlast := congrArg List.getLast? heq
      simp at hlast
    · exact hopens
  refine ⟨hopens, ?_⟩
  rw [List.dropWhile_append] at hspace
  cases hrest : line.dropWhile fun c => decide (c = '#') with
  | nil => simp [hrest] at hspace
  | cons c rest =>
    rw [hrest] at hspace
    simpa using hspace

lemma ignoresReturns_matchHeading : IgnoresReturns matchHeading := by
  refine ⟨rfl, fun line => ?_⟩
  have hreturned : isHeading (line ++ ['\r']) = isHeading line :=
    Bool.eq_iff_iff.mpr ⟨isHeading_of_returned, fun h => isHeading_append h ['\r']⟩
  simp only [matchHeading, hreturned]

section Lines

variable {β : Type} {here : Text → Option β} (hhere : IgnoresReturns here)
include hhere

/-- Breaks at the end of a text add nothing to its lines. -/
lemma collect_breaks (text : Text) {breaks : Text} (hbreaks : ∀ c ∈ breaks, IsBreak c) :
    collect '\n' here (text ++ breaks) = collect '\n' here text := by
  induction breaks generalizing text with
  | nil => rw [List.append_nil]
  | cons c breaks ih =>
    rw [List.forall_mem_cons] at hbreaks
    rw [List.append_cons, ih (text ++ [c]) hbreaks.2]
    rcases hbreaks.1 with rfl | rfl
    · obtain ⟨lines, last, next, rest, hlines, hnext, hboth⟩ :=
        splitOn_append '\n' text ['\r']
      have hsingle : ['\r'].splitOn '\n' = [['\r']] := rfl
      rw [hsingle] at hnext
      cases hnext
      rw [collect, hboth, collect, hlines, List.filterMap_append, List.filterMap_append]
      simp only [List.filterMap_cons, List.filterMap_nil, hhere.returned]
    · have hended := splitOn_ended '\n' text []
      rw [List.append_nil] at hended
      rw [collect, hended, List.filterMap_append]
      simp [collect, hhere.empty]

lemma collect_written {lines : List Text} (hlines : ∀ line ∈ lines, '\n' ∉ line) {eol : Text}
    (heol : IsEol eol) :
    collect '\n' here (lines.flatMap fun line => line ++ eol) = lines.filterMap here := by
  induction lines with
  | nil => simp [collect, hhere.empty]
  | cons line lines ih =>
    rw [List.forall_mem_cons] at hlines
    rw [List.flatMap_cons, collect_append hhere.empty (.inr (heol.ends line)),
      collect_breaks hhere line heol.breaks, collect_single hlines.1, ih hlines.2,
      List.filterMap_cons]
    cases here line <;> rfl

end Lines

/-! The text of a section. -/

lemma rstrip_append (text : Text) : ∃ breaks, text = rstrip text ++ breaks ∧
    ∀ c ∈ breaks, IsBreak c := by
  refine ⟨text.rtakeWhile fun c => c = '\r' ∨ c = '\n', ?_, fun c hc => ?_⟩
  · exact List.rdropWhile_append_rtakeWhile.symm
  · simpa [IsBreak] using List.mem_rtakeWhile_imp hc

lemma mem_shortestTitle {text : Text} {c : Char} (hc : c ∈ shortestTitle text) : c ∈ text := by
  induction text with
  | nil => exact hc
  | cons d text ih =>
    rw [shortestTitle] at hc
    have hhead : c = d ∨ c ∈ shortestTitle text := by
      split_ifs at hc
      · exact .inl (List.mem_singleton.mp hc)
      · exact List.mem_cons.mp hc
      · exact .inl (List.mem_singleton.mp hc)
      · exact List.mem_cons.mp hc
    exact List.mem_cons.mpr (hhead.imp_right ih)

/-- A title is a part of its line. -/
lemma mem_of_titleOf {line title : Text} (h : titleOf line = some title) {c : Char}
    (hc : c ∈ title) : c ∈ line := by
  unfold titleOf at h
  split at h
  swap
  · cases h
  have hrest : ∀ c ∈ (line.drop 6).dropWhile isSpace, c ∈ line := fun c hc =>
    List.mem_of_mem_drop ((List.dropWhile_suffix isSpace).subset hc)
  split at h
  · obtain ⟨d, hlast, rfl⟩ := Option.map_eq_some_iff.mp h
    rw [List.mem_singleton] at hc
    rw [hc]
    exact List.mem_of_mem_drop (List.mem_of_getLast? hlast)
  · rename_i hquote
    cases h
    rw [hquote] at hrest
    exact hrest c hc
  · rename_i text hne hquote
    cases h
    rw [hquote] at hrest
    exact hrest c (List.mem_cons_of_mem _ (mem_shortestTitle hc))
  · cases h
    exact hrest c (mem_shortestTitle hc)

lemma newline_notMem_readTitle (disk : Disk) (folder : Text) {stem : Text} (hstem : '\n' ∉ stem) :
    '\n' ∉ readTitle disk folder stem := by
  simp only [readTitle]
  split
  · exact hstem
  · rename_i text htext
    cases htitle : ((translated text).splitOn '\n').findSome? titleOf with
    | none => exact hstem
    | some title =>
      obtain ⟨line, hline, hfound⟩ := List.exists_of_findSome?_eq_some htitle
      intro hnewline
      exact (mem_of_mem_splitOn hline (mem_of_titleOf hfound hnewline)).2 rfl

/-- The stems whose links are found: those of the class, which has no newline. -/
def IsStem (stem : Text) : Prop := ∀ c ∈ stem, stemChar c = true

lemma IsStem.newline {stem : Text} (h : IsStem stem) : '\n' ∉ stem := by
  intro hnewline
  have hchar := h '\n' hnewline
  simp [stemChar] at hchar

lemma newline_notMem_folder {layer : Layer} (h : layer ∈ layers) : '\n' ∉ layer.folder := by
  revert layer
  decide

lemma newline_notMem_placeholderMark : '\n' ∉ placeholderMark := by decide

lemma getLast?_placeholderMark : placeholderMark.getLast? = some '>' := by decide

lemma newline_notMem_placeholder (disk : Disk) {layer : Layer} (hlayer : layer ∈ layers)
    {stem : Text} (hstem : IsStem stem) : '\n' ∉ placeholder disk layer.folder stem := by
  have hfolder := newline_notMem_folder hlayer
  have htitle := newline_notMem_readTitle disk layer.folder hstem.newline
  have hnewline := hstem.newline
  have hmark := newline_notMem_placeholderMark
  unfold placeholder
  simp [linkOpening, markdown, hfolder, htitle, hnewline, hmark]

lemma isHeading_placeholder (disk : Disk) (folder stem : Text) :
    isHeading (placeholder disk folder stem) = false := by
  unfold placeholder
  simp [isHeading]

lemma content_placeholder (disk : Disk) (folder stem : Text) :
    content (placeholder disk folder stem) = some (placeholder disk folder stem) := by
  have hlast : (placeholder disk folder stem).getLast? = some '>' := by
    unfold placeholder
    rw [List.getLast?_append, getLast?_placeholderMark, Option.some_or]
  obtain ⟨text, htext⟩ := List.getLast?_eq_some_iff.mp hlast
  simp only [content, htext]
  rw [List.rdropWhile_concat_neg _ _ _ (by simp)]
  simp

lemma intercalate_ended (eol : Text) {lines : List Text} (hne : lines ≠ []) :
    eol.intercalate lines ++ eol = lines.flatMap fun line => line ++ eol := by
  induction lines with
  | nil => exact absurd rfl hne
  | cons line lines ih =>
    cases lines with
    | nil => simp [List.intercalate]
    | cons next lines =>
      rw [List.flatMap_cons, ← ih (by simp)]
      simp [List.intercalate]

section Extended

variable {β : Type} {here : Text → Option β} {disk : Disk} {eol body : Text} {layer : Layer}
  {add : List Text}

/-- The lines of an extended section are those it had and the placeholders. -/
lemma collect_extended (hhere : IgnoresReturns here) (hlayer : layer ∈ layers) (heol : IsEol eol)
    (hadd : add ≠ []) (hstems : ∀ stem ∈ add, IsStem stem) (front : Text) :
    collect '\n' here (front ++ extended disk eol layer add body) =
      collect '\n' here (front ++ body) ++
        (add.map (placeholder disk layer.folder)).filterMap here := by
  have hne : add.map (placeholder disk layer.folder) ≠ [] := by simpa using hadd
  have hlines : ∀ line ∈ add.map (placeholder disk layer.folder), '\n' ∉ line := by
    rw [List.forall_mem_map]
    exact fun stem hstem => newline_notMem_placeholder disk hlayer (hstems stem hstem)
  have htext : front ++ extended disk eol layer add body = (front ++ rstrip body ++ eol) ++
      (((add.map (placeholder disk layer.folder)).flatMap fun line => line ++ eol) ++ eol) := by
    rw [extended, ← intercalate_ended eol hne]
    simp only [List.append_assoc]
  obtain ⟨breaks, hbody, hbreaks⟩ := rstrip_append body
  have hfront : collect '\n' here (front ++ body) = collect '\n' here (front ++ rstrip body) := by
    rw [← collect_breaks hhere (front ++ rstrip body) hbreaks, List.append_assoc, ← hbody]
  rw [htext, collect_append hhere.empty (.inr (heol.ends _)),
    collect_breaks hhere _ heol.breaks, collect_breaks hhere _ heol.breaks,
    collect_written hhere hlines heol, hfront]

end Extended

end CoverageMap
end Ventilator
