import Ventilator.DoubleValue

/-! The 32-bit IEEE format: the pattern nearest to a value, ties to even, and the value of a
pattern. -/
namespace Ventilator
namespace Binary32

/-- The natural number nearest to a nonnegative rational, the even one of two. -/
def roundHalfEven (q : ℚ) : ℕ :=
  let n := ⌊q⌋₊
  let rest := q - n
  if rest < 1 / 2 then n
  else if 1 / 2 < rest then n + 1
  else if n % 2 = 0 then n
  else n + 1

/-- The exponent of a positive rational, that of the least normal number below it. -/
def exponent (q : ℚ) : ℤ := max (Int.log 2 q) (-126)

/-- The pattern of a nonnegative rational. A significand that rounds up to the next power of
two carries into the exponent, and what is too large becomes infinite. -/
def magnitude (q : ℚ) : ℕ :=
  if q = 0 then 0
  else
    let e := exponent q
    min ((e + 126).toNat * 2 ^ 23 + roundHalfEven (q / 2 ^ (e - 23))) 0x7f800000

/-- `(float)x`, as its bits. -/
def ofDouble : Double → UInt32
  | .finite q =>
    if q < 0 then 0x80000000 ||| (magnitude (-q)).toUInt32 else (magnitude q).toUInt32
  | .negZero => 0x80000000
  | .inf negative => if negative then 0xff800000 else 0x7f800000
  | .nan => 0x7fc00000

/-- `(double)f` of the float with these bits. -/
def toDouble (bits : UInt32) : Double :=
  let negative := decide (0x80000000 ≤ bits)
  let e := ((bits >>> 23) &&& 0xff).toNat
  let f := (bits &&& 0x7fffff).toNat
  if e = 255 then if f = 0 then .inf negative else .nan
  else
    let q : ℚ := if e = 0 then f / 2 ^ 149 else (2 ^ 23 + f) * 2 ^ ((e : ℤ) - 150)
    if q = 0 ∧ negative then .negZero else .finite (if negative then -q else q)

lemma ofDouble_zero : ofDouble (.finite 0) = 0 := by decide +kernel

end Binary32
end Ventilator
