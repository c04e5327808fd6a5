import WaveScope.Numeric.Binary64

/-!
# Axis ranges

An `AxisRange` is a closed interval `[min, max]` of binary64 values.  It is built either from two
ends in any order (`AxisRange.ofEnds`, which keeps the order only when the first end is not
greater, so a NaN end comes first) or from a centre and a span (`AxisRange.centered`, which takes
the span's magnitude).

**Main statements.**  `ofEnds_of_le` and `ofEnds_of_not_le` give the two orders;
`contains_iff` unfolds membership.
-/

namespace WaveScope

/-- A closed interval of an axis. -/
structure AxisRange where
  min : Float
  max : Float

namespace AxisRange

/-- The interval between two ends: `[a, b]` when `a ≤ b`, otherwise `[b, a]`. -/
def ofEnds (a b : Float) : AxisRange :=
  if a ≤ b then ⟨a, b⟩ else ⟨b, a⟩

/-- The interval of the given span's magnitude around a centre. -/
def centered (center span : Float) : AxisRange :=
  let half := span.abs / 2
  ⟨center - half, center + half⟩

/-- The length of the interval. -/
def span (r : AxisRange) : Float := r.max - r.min

/-- The midpoint of the interval. -/
def center (r : AxisRange) : Float := (r.min + r.max) / 2

/-- The value lies in the closed interval; NaN lies in none. -/
def contains (r : AxisRange) (v : Float) : Bool := v ≥ r.min && v ≤ r.max

theorem ofEnds_of_le {a b : Float} (h : a ≤ b) : ofEnds a b = ⟨a, b⟩ := by
  simp [ofEnds, h]

theorem ofEnds_of_not_le {a b : Float} (h : ¬ a ≤ b) : ofEnds a b = ⟨b, a⟩ := by
  simp [ofEnds, h]

theorem contains_iff (r : AxisRange) (v : Float) :
    r.contains v = true ↔ v ≥ r.min ∧ v ≤ r.max := by
  simp [contains]

end AxisRange

end WaveScope
