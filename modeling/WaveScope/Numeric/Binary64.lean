/-!
# Rules of binary64 arithmetic that the scope relies on

`Float` already computes the basic operations exactly and rounds once, so this file only holds the
few rules that are not an operator: which of two values `minNum` keeps when one is NaN, how a
value is pinned between two bounds, and how a value becomes a sample position.

All of them are built from `Float`'s comparisons, arithmetic and saturating conversions, which the
logic models through `Float.toModel`; none goes through the opaque rounding functions.

**Main facts.**  `minNum_of_isNaN_left` and `minNum_of_isNaN_right` say that a NaN operand never wins;
`clamp_of_lt` and `clamp_of_gt` say that a value outside the bounds is replaced by the bound it
crossed.
-/

namespace WaveScope.Numeric

/-- The smaller of two values, where a NaN operand is ignored in favour of the other one
(IEEE 754 `minNum`). -/
def minNum (a b : Float) : Float :=
  if a.isNaN then b else if b.isNaN then a else if b < a then b else a

/-- The larger of two values, where a NaN operand is ignored in favour of the other one
(IEEE 754 `maxNum`). -/
def maxNum (a b : Float) : Float :=
  if a.isNaN then b else if b.isNaN then a else if a < b then b else a

/-- Pins `x` between `lo` and `hi`: a value below `lo` becomes `lo`, one above `hi` becomes
`hi`, and anything else, NaN included, is kept. -/
def clamp (x lo hi : Float) : Float :=
  let y := if x < lo then lo else x
  if y > hi then hi else y

/-- A value as a count: the integer part of a non-negative value, saturating at `2^64 - 1`;
negative values and NaN give `0`. -/
def truncCount (x : Float) : Nat :=
  x.toUInt64.toNat

/-- The nearest count to `x`, halves rounding up (half away from zero on the non-negative side);
negative values and NaN give `0`, and the result saturates at `2^64 - 1`. The fraction
`x - ⌊x⌋` is exact for every non-negative binary64 value, so one comparison decides. -/
def roundCount (x : Float) : Nat :=
  let t := x.toUInt64
  let frac := x - t.toFloat
  if frac ≥ 0.5 then min (t.toNat + 1) (Nat.pow 2 64 - 1) else t.toNat

/-- A natural number as the nearest binary64 value. -/
def ofNat (n : Nat) : Float :=
  Float.ofNat n

theorem minNum_of_isNaN_left {a : Float} (b : Float) (h : a.isNaN = true) : minNum a b = b := by
  unfold minNum
  rw [if_pos h]

theorem minNum_of_isNaN_right (a : Float) {b : Float} (ha : a.isNaN = false) (h : b.isNaN = true) :
    minNum a b = a := by
  unfold minNum
  rw [if_neg (by rw [ha]; exact Bool.false_ne_true), if_pos h]

theorem clamp_of_lt {x lo hi : Float} (h : x < lo) (hle : ¬ lo > hi) : clamp x lo hi = lo := by
  simp [clamp, h, hle]

theorem clamp_of_gt {x lo hi : Float} (hx : ¬ x < lo) (h : x > hi) : clamp x lo hi = hi := by
  simp [clamp, hx, h]

end WaveScope.Numeric
