import Ventilator.DoubleValue

/-! Elapsed times: differences of two clock readings, when the readings are numbers and when they
may be anything. -/
namespace Ventilator
namespace Double

/-- Rounding an exact value gives a number, and a number that is not negative from one that is
not negative. -/
structure Rounds (round : ℚ → Double) : Prop where
  notNan : ∀ q, round q ≠ nan
  nonneg : ∀ q, 0 ≤ q → le (finite 0) (round q) = true

lemma rounds_finite : Rounds finite := by
  refine ⟨fun q => nofun, fun q hq => ?_⟩
  rw [le_of_isfinite rfl rfl]
  exact decide_eq_true hq

lemma ne_nan_of_isfinite {x : Double} (h : x.isfinite = true) : x ≠ nan := by
  rintro rfl
  cases h

lemma le_inf {x : Double} (h : x ≠ nan) : le x (inf false) = true := by
  cases x with
  | inf negative => cases negative <;> rfl
  | nan => exact absurd rfl h
  | _ => rfl

lemma inf_le {x : Double} (h : x ≠ nan) : le (inf true) x = true := by
  cases x with
  | nan => exact absurd rfl h
  | _ => rfl

lemma lt_inf {x : Double} (h : x.isfinite = true) : lt x (inf false) = true := by
  cases x with
  | finite q => rfl
  | negZero => rfl
  | _ => cases h

lemma not_inf_lt (x : Double) : lt (inf false) x = false := by
  cases x with
  | inf negative => cases negative <;> rfl
  | _ => rfl

lemma le_trans {x y z : Double} (hxy : le x y = true) (hyz : le y z = true) : le x z = true := by
  rcases x with p | _ | (_ | _) | _ <;> rcases y with q | _ | (_ | _) | _ <;>
    rcases z with r | _ | (_ | _) | _ <;> simp_all [le] <;>
      exact decide_eq_true ((of_decide_eq_true hxy).trans (of_decide_eq_true hyz))

/-- Any two numbers can be compared. -/
lemma le_total {x y : Double} (hx : x ≠ nan) (hy : y ≠ nan) : le x y = true ∨ le y x = true := by
  have hfinite : ∀ {z : Double}, z.isfinite = false → z ≠ nan → z = inf true ∨ z = inf false := by
    intro z hz hne
    cases z with
    | inf negative => cases negative <;> simp
    | nan => exact absurd rfl hne
    | _ => cases hz
  cases hfx : x.isfinite with
  | false =>
    rcases hfinite hfx hx with rfl | rfl
    · exact .inl (inf_le hy)
    · exact .inr (le_inf hy)
  | true =>
    cases hfy : y.isfinite with
    | false =>
      rcases hfinite hfy hy with rfl | rfl
      · exact .inr (inf_le hx)
      · exact .inl (le_inf hx)
    | true =>
      rw [le_of_isfinite hfx hfy, le_of_isfinite hfy hfx]
      simpa using total_of (· ≤ ·) x.value y.value

lemma le_of_not_lt {x y : Double} (hx : x ≠ nan) (hy : y ≠ nan) (h : lt x y = false) :
    le y x = true := by
  rcases le_total hx hy with hle | hle
  · rw [lt, hle, Bool.true_and, Bool.not_eq_false'] at h
    exact h
  · exact hle

lemma lt_of_not_le {x y : Double} (hx : x ≠ nan) (hy : y ≠ nan) (h : le x y = false) :
    lt y x = true := by
  have hle : le y x = true := (le_total hx hy).resolve_left (by simp [h])
  rw [lt, hle, h]
  rfl

lemma sub_of_isfinite {round : ℚ → Double} {x y : Double} (hx : x.isfinite = true)
    (hy : y.isfinite = true) : sub round x y = round (x.value - y.value) := by
  cases x <;> cases y <;> simp_all [sub]

lemma value_nonneg {x : Double} (hx : x.isfinite = true) (h : le (finite 0) x = true) :
    0 ≤ x.value := by
  rw [le_of_isfinite rfl hx] at h
  exact of_decide_eq_true h

/-- Both readings are finite and not negative, and the second is not before the first. -/
structure Span (started now : Double) : Prop where
  startedFinite : started.isfinite = true
  startedNonneg : le (finite 0) started = true
  nowFinite : now.isfinite = true
  nowNonneg : le (finite 0) now = true
  ordered : le started now = true

section Span

variable {round : ℚ → Double} {started now limit : Double}

/-- A reading that is not before a finite one is finite unless it is infinite. -/
lemma Span.of_le (hfinite : started.isfinite = true) (hnonneg : le (finite 0) started = true)
    (hle : le started now = true) (hinf : now ≠ inf false) : Span started now := by
  have hnow : now.isfinite = true := by
    cases now with
    | inf negative =>
      cases negative with
      | false => exact absurd rfl hinf
      | true => cases started <;> first | cases hle | cases hfinite
    | nan => rw [le_nan] at hle; cases hle
    | _ => rfl
  refine ⟨hfinite, hnonneg, hnow, ?_, hle⟩
  rw [le_of_isfinite rfl hnow]
  rw [le_of_isfinite hfinite hnow] at hle
  exact decide_eq_true ((value_nonneg hfinite hnonneg).trans (of_decide_eq_true hle))

lemma sub_inf (hfinite : started.isfinite = true) : sub round (inf false) started = inf false := by
  cases started <;> first | rfl | cases hfinite

/-- The elapsed time of a span is not negative. -/
lemma Span.elapsed (h : Span started now) (hround : Rounds round) :
    le (finite 0) (sub round now started) = true := by
  rw [sub_of_isfinite h.nowFinite h.startedFinite]
  have hordered := h.ordered
  rw [le_of_isfinite h.startedFinite h.nowFinite] at hordered
  exact hround.nonneg _ (sub_nonneg.mpr (of_decide_eq_true hordered))

lemma Span.elapsed_ne_nan (h : Span started now) (hround : Rounds round) :
    sub round now started ≠ nan := by
  rw [sub_of_isfinite h.nowFinite h.startedFinite]
  exact hround.notNan _

/-- The span has not lasted longer than the limit. -/
structure Within (round : ℚ → Double) (limit started now : Double) : Prop where
  span : Span started now
  elapsed : le (finite 0) (sub round now started) = true
  limited : le (sub round now started) limit = true

/-- The span has not reached the limit. -/
structure Before (round : ℚ → Double) (limit started now : Double) : Prop where
  span : Span started now
  elapsed : le (finite 0) (sub round now started) = true
  limited : lt (sub round now started) limit = true

/-- A check that the limit is not exceeded, of readings that may be anything. -/
lemma within_iff (hround : Rounds round) (hlimit : limit.isfinite = true)
    (hfinite : started.isfinite = true) (hnonneg : le (finite 0) started = true)
    (hcheck : lt limit (sub round now started) = false) :
    Within round limit started now ↔ le started now = true := by
  refine ⟨fun h => h.span.ordered, fun hle => ?_⟩
  have hinf : now ≠ inf false := by
    rintro rfl
    rw [sub_inf hfinite, lt_inf hlimit] at hcheck
    cases hcheck
  have hspan := Span.of_le hfinite hnonneg hle hinf
  exact ⟨hspan, hspan.elapsed hround,
    le_of_not_lt (ne_nan_of_isfinite hlimit) (hspan.elapsed_ne_nan hround) hcheck⟩

/-- A check that the limit is not reached, of readings that may be anything. -/
lemma before_iff (hround : Rounds round) (hlimit : limit.isfinite = true)
    (hfinite : started.isfinite = true) (hnonneg : le (finite 0) started = true)
    (hcheck : le limit (sub round now started) = false) :
    Before round limit started now ↔ le started now = true := by
  refine ⟨fun h => h.span.ordered, fun hle => ?_⟩
  have hinf : now ≠ inf false := by
    rintro rfl
    rw [sub_inf hfinite, le_inf (ne_nan_of_isfinite hlimit)] at hcheck
    cases hcheck
  have hspan := Span.of_le hfinite hnonneg hle hinf
  exact ⟨hspan, hspan.elapsed hround,
    lt_of_not_le (ne_nan_of_isfinite hlimit) (hspan.elapsed_ne_nan hround) hcheck⟩

/-- A check that the limit has not been reached yet passes for no infinite reading. -/
lemma span_iff (hfinite : started.isfinite = true) (hnonneg : le (finite 0) started = true)
    (hcheck : lt (sub round now started) limit = true) :
    Span started now ↔ le started now = true := by
  refine ⟨fun h => h.ordered, fun hle => Span.of_le hfinite hnonneg hle ?_⟩
  rintro rfl
  rw [sub_inf hfinite, not_inf_lt] at hcheck
  cases hcheck

end Span
end Double
end Ventilator
