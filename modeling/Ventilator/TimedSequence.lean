import Mathlib

/-! Sequences of times whose consecutive gaps are bounded. -/
namespace TimedSequence

variable {α : Type*} [AddCommMonoid α] [PartialOrder α]

/-- Consecutive times are at least `lo` and at most `hi` apart. -/
def Spaced (lo hi : α) (times : List α) : Prop :=
  times.IsChain fun earlier later => earlier + lo ≤ later ∧ later ≤ earlier + hi

lemma Spaced.singleton (lo hi time : α) : Spaced lo hi [time] := List.isChain_singleton time

lemma Spaced.concat {lo hi last time : α} {times : List α} (h : Spaced lo hi times)
    (hlast : times.getLast? = some last) (hlo : last + lo ≤ time) (hhi : time ≤ last + hi) :
    Spaced lo hi (times ++ [time]) := by
  refine List.isChain_append.mpr ⟨h, List.isChain_singleton time, fun x hx y hy => ?_⟩
  rw [hlast, Option.mem_some_iff] at hx
  rw [List.head?_cons, Option.mem_some_iff] at hy
  subst hx hy
  exact ⟨hlo, hhi⟩

/-- Every gap adds at least `lo` to the distance between the first time and the last. -/
lemma Spaced.length_nsmul_le [IsOrderedAddMonoid α] {lo hi first last : α} {times : List α}
    (h : Spaced lo hi (first :: times)) (hlast : (first :: times).getLast? = some last) :
    first + times.length • lo ≤ last := by
  induction times generalizing first with
  | nil => simp at hlast; simp [hlast]
  | cons time times ih =>
    rw [Spaced, List.isChain_cons_cons] at h
    rw [List.getLast?_cons_cons] at hlast
    calc first + (times.length + 1) • lo = first + lo + times.length • lo := by
          rw [succ_nsmul, add_assoc, add_comm lo]
      _ ≤ time + times.length • lo := by gcongr; exact h.1.1
      _ ≤ last := ih h.2 hlast

end TimedSequence
