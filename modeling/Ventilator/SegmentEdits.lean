import Mathlib

/-! A list divided into segments some of which are replaced one after the other: where a segment
begins in between, by what the replacements before it have grown. -/
namespace SegmentEdits

variable {κ α : Type} [DecidableEq κ]

/-- A segment, with what replaces it; one without a key is not replaced. -/
structure Segment (κ α : Type) where
  key : Option κ
  old : List α
  new : List α

namespace Segment

/-- The segment after the replacements of the given keys. -/
def current (done : List κ) (segment : Segment κ α) : List α :=
  if segment.key.any fun key => done.contains key then segment.new else segment.old

def growth (segment : Segment κ α) : ℤ := segment.new.length - segment.old.length

lemma current_nil (segment : Segment κ α) : segment.current [] = segment.old := by
  cases hkey : segment.key <;> simp [current, hkey]

lemma current_cons_self {segment : Segment κ α} {key : κ} (h : segment.key = some key)
    (done : List κ) : segment.current (key :: done) = segment.new := by
  simp [current, h]

lemma current_cons_of_ne {segment : Segment κ α} {key : κ} (h : segment.key ≠ some key)
    (done : List κ) : segment.current (key :: done) = segment.current done := by
  cases hkey : segment.key with
  | none => simp [current, hkey]
  | some other =>
    have hne : other ≠ key := fun heq => h (by rw [hkey, heq])
    simp [current, hkey, hne]

lemma current_of_notMem {segment : Segment κ α} {key : κ} (h : segment.key = some key)
    {done : List κ} (hdone : key ∉ done) : segment.current done = segment.old := by
  simp [current, h, hdone]

end Segment

/-- The list after the replacements of the given keys. -/
def text (segments : List (Segment κ α)) (done : List κ) : List α :=
  segments.flatMap (Segment.current done)

/-- How much longer the replacement of one key makes the list. -/
def growthOf (segments : List (Segment κ α)) (key : κ) : ℤ :=
  ((segments.filter fun segment => segment.key = some key).map Segment.growth).sum

lemma text_append (before after : List (Segment κ α)) (done : List κ) :
    text (before ++ after) done = text before done ++ text after done :=
  List.flatMap_append

lemma text_cons_of_ne {segments : List (Segment κ α)} {key : κ}
    (h : ∀ segment ∈ segments, segment.key ≠ some key) (done : List κ) :
    text segments (key :: done) = text segments done := by
  induction segments with
  | nil => rfl
  | cons segment segments ih =>
    rw [List.forall_mem_cons] at h
    simp only [text, List.flatMap_cons] at ih ⊢
    rw [Segment.current_cons_of_ne h.1, ih h.2]

lemma length_text_cons (segments : List (Segment κ α)) {key : κ} {done : List κ}
    (h : key ∉ done) : ((text segments (key :: done)).length : ℤ) =
      (text segments done).length + growthOf segments key := by
  induction segments with
  | nil => simp [text, growthOf]
  | cons segment segments ih =>
    simp only [text, List.flatMap_cons, List.length_append, Nat.cast_add, growthOf] at ih ⊢
    rw [ih, List.filter_cons]
    by_cases hkey : segment.key = some key
    · rw [Segment.current_cons_self hkey, Segment.current_of_notMem hkey h,
        if_pos (decide_eq_true hkey), List.map_cons, List.sum_cons, Segment.growth]
      omega
    · rw [Segment.current_cons_of_ne hkey, if_neg (by simpa using hkey)]
      omega

/-- The replacements of several keys add up. -/
lemma length_text (segments : List (Segment κ α)) {done : List κ} (h : done.Nodup) :
    ((text segments done).length : ℤ) =
      (text segments []).length + (done.map (growthOf segments)).sum := by
  induction done with
  | nil => simp
  | cons key done ih =>
    rw [List.nodup_cons] at h
    rw [length_text_cons segments h.1, ih h.2, List.map_cons, List.sum_cons]
    omega

section Replace

variable {before after : List (Segment κ α)} {segment : Segment κ α} {key : κ} {done : List κ}

lemma text_old (hkey : segment.key = some key) (hdone : key ∉ done) :
    text (before ++ segment :: after) done =
      text before done ++ segment.old ++ text after done := by
  rw [text_append, List.append_assoc]
  simp only [text, List.flatMap_cons, Segment.current_of_notMem hkey hdone]

lemma text_new (hkey : segment.key = some key)
    (hbefore : ∀ other ∈ before, other.key ≠ some key)
    (hafter : ∀ other ∈ after, other.key ≠ some key) :
    text (before ++ segment :: after) (key :: done) =
      text before done ++ segment.new ++ text after done := by
  rw [text_append, List.append_assoc, text_cons_of_ne hbefore]
  congr 1
  have hcons : text (segment :: after) (key :: done) =
      segment.current (key :: done) ++ text after (key :: done) := List.flatMap_cons
  rw [hcons, Segment.current_cons_self hkey, text_cons_of_ne hafter]

/-- A segment stands where it stood at first if the replacements before it cancel out. -/
lemma length_before (hdone : done.Nodup) (hshift : (done.map (growthOf before)).sum = 0) :
    (text before done).length = (text before []).length := by
  have hlength := length_text before hdone
  omega

end Replace

lemma growthOf_of_ne {segments : List (Segment κ α)} {key : κ}
    (h : ∀ segment ∈ segments, segment.key ≠ some key) : growthOf segments key = 0 := by
  have hnone : (segments.filter fun segment => segment.key = some key) = [] := by
    rw [List.filter_eq_nil_iff]
    intro segment hsegment
    simpa using h segment hsegment
  rw [growthOf, hnone]
  rfl

lemma growthOf_of_unique {before after : List (Segment κ α)} {segment : Segment κ α} {key : κ}
    (hkey : segment.key = some key) (hbefore : ∀ other ∈ before, other.key ≠ some key)
    (hafter : ∀ other ∈ after, other.key ≠ some key) :
    growthOf (before ++ segment :: after) key = segment.growth := by
  have hsplit : growthOf (before ++ segment :: after) key =
      growthOf before key + (segment.growth + growthOf after key) := by
    simp [growthOf, hkey]
  rw [hsplit, growthOf_of_ne hbefore, growthOf_of_ne hafter]
  omega

end SegmentEdits
