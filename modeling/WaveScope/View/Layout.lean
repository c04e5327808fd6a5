import WaveScope.Screen.Rect
import WaveScope.Axis.Viewport

/-!
# Screen layout

The screen is split into a plot frame with a column of eleven cells for the y labels on its left,
and a status row at the bottom; in fullscreen the plot takes the whole area.  When the area is too
small, the flexible part (the frame row, the frame column) keeps its least size of one cell first
and the fixed part gets what is left.  A split shares the cells the area really covers, up to the
largest coordinate; across the split each part keeps the area's own extent.

A pointer cell inside the plot maps to the data point at the cell's centre.

**Main statements.**  `shareFixed_sum` says the two parts of a split fill the whole length;
`pointerToData_outside` says a cell outside the plot maps to nothing.
-/

namespace WaveScope.View

open Screen

/-- Width of the y label column. -/
def labelWidth : Nat := 11

/-- Height of the status row. -/
def statusHeight : Nat := 1

/-- Splits a length between a part of least size `least` that takes the rest and a part of fixed
size `fixed`: the least size is served first, the fixed part gets at most what remains.  Returns
(flexible part, fixed part). -/
def shareFixed (total least fixed : Nat) : Nat × Nat :=
  let fixedPart := min fixed (total - min least total)
  (total - fixedPart, fixedPart)

theorem shareFixed_sum (total least fixed : Nat) :
    (shareFixed total least fixed).1 + (shareFixed total least fixed).2 = total := by
  simp only [shareFixed]
  omega

/-- Where each part of the screen goes. -/
structure ScreenLayout where
  frame : Option Rect
  plot : Rect
  labels : Option Rect
  status : Option Rect
deriving DecidableEq, Repr

/-- The layout of an area, with or without the frame, labels and status row. -/
def layout (area : Rect) (fullscreen : Bool) : ScreenLayout :=
  if fullscreen then ⟨none, area, none, none⟩
  else
    let (top, statusRows) := shareFixed (area.bottom - area.y) 1 statusHeight
    let (frameCols, labelCols) := shareFixed (area.right - area.x) 1 labelWidth
    let frame : Rect := ⟨area.x + labelCols, area.y, frameCols, top⟩
    let plot := frame.inner
    ⟨some frame, plot, some ⟨area.x, plot.y, labelCols, plot.height⟩,
      some ⟨area.x, area.y + top, area.width, statusRows⟩⟩

/-- The data point at the centre of a cell of the plot, or nothing outside the plot. -/
def pointerToData (plot : Rect) (v : Viewport) (col row : Nat) : Option (Float × Float) :=
  if plot.isEmpty || !plot.containsCell col row then none
  else
    let fx := (Float.ofNat (col - plot.x) + 0.5) / Float.ofNat plot.width
    let fy := (Float.ofNat (row - plot.y) + 0.5) / Float.ofNat plot.height
    some (v.x.min + fx * v.x.span, v.y.max - fy * v.y.span)

theorem pointerToData_outside (plot : Rect) (v : Viewport) (col row : Nat)
    (h : plot.containsCell col row = false) : pointerToData plot v col row = none := by
  simp [pointerToData, h]

end WaveScope.View
