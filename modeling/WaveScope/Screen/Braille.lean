import WaveScope.Screen.Grid
import WaveScope.Numeric.Binary64

/-!
# Plotting with Braille dots

A plot over a rectangle of cells, with two columns and four rows of dots per cell, drawn with
the Braille patterns `U+2800` to `U+28FF`.  Data coordinates map to dots linearly: the left and
right bounds to the first and last dot column, the top bound to the first dot row, the bottom
bound to the last; a point outside the bounds, or bounds of zero extent, has no dot.  Positions
are truncated toward zero.

Straight lines between dots are drawn with Bresenham's algorithm, stepping along the longer axis.
Drawings are collected in layers; a later layer replaces, cell by cell, every cell it marks.

**Main statements.**  `dotBit_lt` says every dot is one bit of a pattern byte.
-/

namespace WaveScope.Screen

/-- The bit of the dot in row `r` (of four) and column `c` (of two) of a Braille cell. -/
def dotBit (r c : Nat) : Nat :=
  match r % 4, c % 2 with
  | 0, 0 => 0x01
  | 1, 0 => 0x02
  | 2, 0 => 0x04
  | 3, 0 => 0x40
  | 0, _ => 0x08
  | 1, _ => 0x10
  | 2, _ => 0x20
  | _, _ => 0x80

theorem dotBit_lt (r c : Nat) : dotBit r c < 256 := by
  unfold dotBit; split <;> decide

/-- The dots of a plot: one pattern byte per cell, row by row. -/
structure Dots where
  width : Nat
  height : Nat
  marks : Array Nat

namespace Dots

/-- A plot with no dot. -/
def blank (w h : Nat) : Dots := ⟨w, h, Array.replicate (w * h) 0⟩

/-- The number of dot columns and dot rows. -/
def resolution (d : Dots) : Nat × Nat := (d.width * 2, d.height * 4)

/-- Sets the dot in dot column `x` and dot row `y`. -/
def paint (d : Dots) (x y : Nat) : Dots :=
  { d with marks := d.marks.modify (y / 4 * d.width + x / 2) (· ||| dotBit (y % 4) (x % 2)) }

end Dots

/-- The data bounds of a plot: left and right, bottom and top. -/
structure Bounds where
  left : Float
  right : Float
  bottom : Float
  top : Float

/-- The dot a data point falls on, if any. -/
def Bounds.dot (b : Bounds) (res : Nat × Nat) (x y : Float) : Option (Nat × Nat) :=
  if x < b.left || x > b.right || y < b.bottom || y > b.top then none
  else
    let w := (b.right - b.left).abs
    let h := (b.top - b.bottom).abs
    if w == 0.0 || h == 0.0 then none
    else
      some (Numeric.truncCount ((x - b.left) * (Numeric.ofNat res.1 - 1.0) / w),
        Numeric.truncCount ((b.top - y) * (Numeric.ofNat res.2 - 1.0) / h))

/-- The numbers from `a` to `b`, both included. -/
def through (a b : Nat) : List Nat := (List.range (b + 1 - a)).map (a + ·)

/-- A line mostly along the horizontal, from left to right. -/
def lineLow (d : Dots) (x1 y1 x2 y2 : Nat) : Dots :=
  let dx : Int := x2 - x1
  let dy : Int := ((y2 : Int) - y1).natAbs
  let step (acc : Dots × Nat × Int) (x : Nat) : Dots × Nat × Int :=
    let (d, y, e) := acc
    let d := d.paint x y
    let (y, e) := if e > 0 then ((if y1 > y2 then y - 1 else y + 1), e - 2 * dx) else (y, e)
    (d, y, e + 2 * dy)
  ((through x1 x2).foldl step (d, y1, 2 * dy - dx)).1

/-- A line mostly along the vertical, from top to bottom. -/
def lineHigh (d : Dots) (x1 y1 x2 y2 : Nat) : Dots :=
  let dx : Int := ((x2 : Int) - x1).natAbs
  let dy : Int := y2 - y1
  let step (acc : Dots × Nat × Int) (y : Nat) : Dots × Nat × Int :=
    let (d, x, e) := acc
    let d := d.paint x y
    let (x, e) := if e > 0 then ((if x1 > x2 then x - 1 else x + 1), e - 2 * dy) else (x, e)
    (d, x, e + 2 * dx)
  ((through y1 y2).foldl step (d, x1, 2 * dx - dy)).1

/-- The dots of the straight line between two dots. -/
def lineDots (d : Dots) (x1 y1 x2 y2 : Nat) : Dots :=
  let dx := if x2 ≥ x1 then x2 - x1 else x1 - x2
  let dy := if y2 ≥ y1 then y2 - y1 else y1 - y2
  if dx == 0 then (through (min y1 y2) (max y1 y2)).foldl (fun d y => d.paint x1 y) d
  else if dy == 0 then (through (min x1 x2) (max x1 x2)).foldl (fun d x => d.paint x y1) d
  else if dy < dx then
    if x1 > x2 then lineLow d x2 y2 x1 y1 else lineLow d x1 y1 x2 y2
  else if y1 > y2 then lineHigh d x2 y2 x1 y1
  else lineHigh d x1 y1 x2 y2

/-- A plot being drawn: its bounds, the layers finished, the current dots, and whether anything
was drawn on them since the last layer. -/
structure Plot where
  bounds : Bounds
  layers : List Dots
  current : Dots
  dirty : Bool

namespace Plot

/-- An empty plot of a size in cells. -/
def new (w h : Nat) (b : Bounds) : Plot := ⟨b, [], Dots.blank w h, false⟩

/-- Draws the line between two data points, when both have a dot. -/
def line (p : Plot) (x1 y1 x2 y2 : Float) : Plot :=
  let res := p.current.resolution
  let p := { p with dirty := true }
  match p.bounds.dot res x1 y1, p.bounds.dot res x2 y2 with
  | some (a, b), some (c, e) => { p with current := lineDots p.current a b c e }
  | _, _ => p

/-- Draws data points that have a dot. -/
def points (p : Plot) (pts : List (Float × Float)) : Plot :=
  let res := p.current.resolution
  pts.foldl (fun p (x, y) => match p.bounds.dot res x y with
    | some (a, b) => { p with current := p.current.paint a b }
    | none => p) { p with dirty := true }

/-- Finishes the current layer and starts a blank one. -/
def layer (p : Plot) : Plot :=
  { p with layers := p.layers ++ [p.current], current := Dots.blank p.current.width p.current.height,
           dirty := false }

/-- The layers to show: a last layer is kept if anything was drawn on it. -/
def finish (p : Plot) : List Dots := if p.dirty then (p.layer).layers else p.layers

end Plot

/-- Puts the layers of a plot on the screen over a rectangle, each marked cell replacing what
was there. -/
def Grid.putPlot (g : Grid) (area : Rect) (layers : List Dots) : Grid :=
  layers.foldl (fun g d =>
    (d.marks.toList.zipIdx).foldl (fun g (m, i) =>
      if m == 0 || d.width == 0 then g
      else g.set (area.x + i % d.width) (area.y + i / d.width) (Char.ofNat (0x2800 + m)).toString) g) g

end WaveScope.Screen
