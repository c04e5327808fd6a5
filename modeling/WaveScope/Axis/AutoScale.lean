import WaveScope.Axis.Range
import WaveScope.Sample.Window

/-!
# Auto-scale

The vertical range that fits the signal: centred on the midpoint of the smallest and largest
sample, half as wide again as their distance, and never narrower than `100`.  A flat signal (the
two differ by less than one) gets `150`.  The target is applied only when the current range is
more than 10 % too tight or more than twice too wide, or is not finite, so a steady signal does not
re-range on every batch.

**Main statements.**  `autoScale_eq_none_iff` says when the current range is kept.
-/

namespace WaveScope

namespace AutoScale

/-- The narrowest target span. -/
def minSpan : Float := 100.0

/-- The target span per unit of signal span. -/
def headroom : Float := 1.5

/-- The current span is too tight beyond this factor of the target. -/
def tooTight : Float := 1.1

/-- The current span is too wide below this factor of the target. -/
def tooLoose : Float := 0.5

/-- The vertical range that fits the samples of a window. -/
def target (w : SampleWindow) : AxisRange :=
  let (lo, hi) := w.minMax
  let yMin := lo.toFloat
  let yMax := hi.toFloat
  let raw := yMax - yMin
  let signal := if raw < 1.0 then minSpan else raw
  let span := Numeric.maxNum (signal * headroom) minSpan
  AxisRange.centered ((yMin + yMax) / 2) span

/-- A view of span `view` should switch to a target of span `target`. -/
def needsRescale (target view : Float) : Bool :=
  !view.isFinite || target > view * tooTight || target < view * tooLoose

/-- The target range when the current range should give way to it. -/
def autoScale (w : SampleWindow) (current : AxisRange) : Option AxisRange :=
  let t := target w
  if needsRescale t.span current.span then some t else none

theorem autoScale_eq_none_iff (w : SampleWindow) (current : AxisRange) :
    autoScale w current = none ↔ needsRescale (target w).span current.span = false := by
  simp [autoScale]

end AutoScale

end WaveScope
