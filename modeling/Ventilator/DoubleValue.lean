import Mathlib

/-! Values of a C `double`. Finite values are exact rationals, so comparisons are
exact; a difference is rounded by a function the platform supplies. -/
namespace Ventilator

inductive Double
  | finite (q : ℚ)
  | negZero
  | inf (negative : Bool)
  | nan
  deriving DecidableEq

namespace Double

def value? : Double → Option ℚ
  | finite q => some q
  | negZero => some 0
  | inf _ => none
  | nan => none

/-- The exact value of a finite double; the other doubles have none. -/
def value (x : Double) : ℚ := x.value?.getD 0

def isfinite (x : Double) : Bool := x.value?.isSome

/-- `x <= y` as C compares doubles: every comparison with a NaN is false. -/
def le (x y : Double) : Bool :=
  match x, y with
  | nan, _ => false
  | _, nan => false
  | inf true, _ => true
  | _, inf false => true
  | inf false, _ => false
  | _, inf true => false
  | x, y => decide (x.value ≤ y.value)

/-- `x < y` as C compares doubles. -/
def lt (x y : Double) : Bool := le x y && !le y x

def fabs : Double → Double
  | finite q => finite |q|
  | negZero => finite 0
  | inf _ => inf false
  | nan => nan

/-- `x - y`, the exact difference of two finite doubles being rounded by `round`. -/
def sub (round : ℚ → Double) (x y : Double) : Double :=
  match x, y with
  | nan, _ => nan
  | _, nan => nan
  | inf a, inf b => if a = b then nan else inf a
  | inf a, _ => inf a
  | _, inf b => inf (!b)
  | x, y => round (x.value - y.value)

def isNegative : Double → Bool
  | finite q => decide (q < 0)
  | negZero => true
  | inf negative => negative
  | nan => false

def neg : Double → Double
  | finite q => if q = 0 then negZero else finite (-q)
  | negZero => finite 0
  | inf negative => inf (!negative)
  | nan => nan

/-- `x + y`, which is `x - (-y)` rounded the same way. -/
def add (round : ℚ → Double) (x y : Double) : Double := sub round x (neg y)

/-- `x * y`, the exact product of two finite doubles being rounded by `round`. -/
def mul (round : ℚ → Double) (x y : Double) : Double :=
  match x, y with
  | nan, _ => nan
  | _, nan => nan
  | inf a, y => if y.value? = some 0 then nan else inf (a != y.isNegative)
  | x, inf b => if x.value? = some 0 then nan else inf (x.isNegative != b)
  | x, y => round (x.value * y.value)

/-- `fmax`, which ignores one NaN. -/
def fmax (x y : Double) : Double :=
  if x = nan then y else if y = nan then x else if lt x y then y else x

@[simp] lemma isfinite_finite (q : ℚ) : (finite q).isfinite = true := rfl
@[simp] lemma isfinite_negZero : negZero.isfinite = true := rfl
@[simp] lemma isfinite_inf (b : Bool) : (inf b).isfinite = false := rfl
@[simp] lemma isfinite_nan : nan.isfinite = false := rfl
@[simp] lemma value_finite (q : ℚ) : (finite q).value = q := rfl
@[simp] lemma value_negZero : negZero.value = 0 := rfl
@[simp] lemma le_nan (x : Double) : le x nan = false := by cases x <;> rfl
@[simp] lemma nan_le (x : Double) : le nan x = false := by cases x <;> rfl

lemma le_of_isfinite {x y : Double} (hx : x.isfinite = true) (hy : y.isfinite = true) :
    le x y = decide (x.value ≤ y.value) := by
  cases x <;> cases y <;> simp_all [le]

lemma lt_of_isfinite {x y : Double} (hx : x.isfinite = true) (hy : y.isfinite = true) :
    lt x y = decide (x.value < y.value) := by
  rw [lt, le_of_isfinite hx hy, le_of_isfinite hy hx, Bool.eq_iff_iff]
  simp only [Bool.and_eq_true, Bool.not_eq_true', decide_eq_true_eq, decide_eq_false_iff_not,
    not_le]
  exact ⟨fun h => h.2, fun h => ⟨h.le, h⟩⟩

end Double
end Ventilator
