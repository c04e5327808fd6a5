import WaveScope.Axis.Range

/-!
# The viewport

A `Viewport` is the part of the data on screen: a horizontal range of sample positions inside
`[0, sampleCount]` and a vertical range of values.  Zooming keeps the centre; horizontal zoom
keeps at least eight positions (or all of them, when fewer) and never more than all; panning moves
the range by a fraction of its span; both are then pushed back inside `[0, sampleCount]`.

**Main statements.**  `zoomX_of_nonpos` and `zoomY_of_nonpos` say that a factor that is not
positive changes nothing; `resetX_x` says a reset shows every position.
-/

namespace WaveScope

/-- Each zoom step scales the span by this factor. -/
def zoomStep : Float := 1.25

/-- Each pan step moves the range by this fraction of its span. -/
def panStep : Float := 0.1

/-- The fewest positions a horizontal zoom shows. -/
def minXSpan : Float := 8.0

/-- The visible part of the data. -/
structure Viewport where
  x : AxisRange
  y : AxisRange
  sampleCount : Nat

namespace Viewport

/-- The range of every position of `n` samples. -/
def fullX (n : Nat) : AxisRange := AxisRange.ofEnds 0 (Float.ofNat n)

/-- The top of the vertical range at start unless told otherwise. -/
def defaultYMax : Float := 16384.0

/-- A viewport over `max n 1` samples showing all of them, values from `0` to `yMax`. -/
def new (n : Nat) (yMax : Float) : Viewport :=
  let n := max n 1
  ⟨fullX n, AxisRange.ofEnds 0 yMax, n⟩

/-- Pushes a horizontal range inside `[0, sampleCount]`, shortening it to at most all positions. -/
def clampX (v : Viewport) (r : AxisRange) : AxisRange :=
  let full := Float.ofNat v.sampleCount
  let span := Numeric.minNum r.span full
  let lo := Numeric.clamp r.min 0 (full - span)
  ⟨lo, lo + span⟩

/-- Replaces the vertical range. -/
def setY (v : Viewport) (r : AxisRange) : Viewport := { v with y := r }

/-- Divides the vertical span by `factor` around its centre; a factor that is not positive does
nothing. -/
def zoomY (v : Viewport) (factor : Float) : Viewport :=
  if factor ≤ 0 then v
  else { v with y := AxisRange.centered v.y.center (v.y.span / factor) }

/-- Divides the horizontal span by `factor` around its centre, keeping between `min 8 n` and `n`
positions; a factor that is not positive does nothing. -/
def zoomX (v : Viewport) (factor : Float) : Viewport :=
  if factor ≤ 0 then v
  else
    let full := Float.ofNat v.sampleCount
    let span := Numeric.clamp (v.x.span / factor) (Numeric.minNum minXSpan full) full
    { v with x := v.clampX (AxisRange.centered v.x.center span) }

/-- Moves the horizontal range by `fraction` of its span. -/
def panX (v : Viewport) (fraction : Float) : Viewport :=
  let offset := v.x.span * fraction
  { v with x := v.clampX ⟨v.x.min + offset, v.x.max + offset⟩ }

/-- Shows every position again. -/
def resetX (v : Viewport) : Viewport := { v with x := fullX v.sampleCount }

theorem zoomY_of_nonpos (v : Viewport) {f : Float} (h : f ≤ 0) : v.zoomY f = v := by
  simp [zoomY, h]

theorem zoomX_of_nonpos (v : Viewport) {f : Float} (h : f ≤ 0) : v.zoomX f = v := by
  simp [zoomX, h]

theorem resetX_x (v : Viewport) : (v.resetX).x = fullX v.sampleCount := rfl

end Viewport

end WaveScope
