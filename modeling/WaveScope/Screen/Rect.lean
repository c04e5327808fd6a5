/-!
# Screen rectangles

A `Rect` is a rectangle of terminal cells: the column and row of its top-left cell and its width
and height, all 16-bit.  Its right and bottom edges saturate at the largest 16-bit coordinate.

**Main statements.**  `inner_width` and `inner_height` say that a border takes two columns and
two rows, never more than there are.
-/

namespace WaveScope.Screen

/-- The largest 16-bit coordinate. -/
def coordMax : Nat := 65535

/-- A rectangle of cells. -/
structure Rect where
  x : Nat
  y : Nat
  width : Nat
  height : Nat
deriving DecidableEq, Repr, Inhabited

namespace Rect

/-- The column just right of the rectangle. -/
def right (r : Rect) : Nat := min (r.x + r.width) coordMax

/-- The row just below the rectangle. -/
def bottom (r : Rect) : Nat := min (r.y + r.height) coordMax

/-- The rectangle covers no cell. -/
def isEmpty (r : Rect) : Bool := r.width == 0 || r.height == 0

/-- The cell lies inside the rectangle. -/
def containsCell (r : Rect) (col row : Nat) : Bool :=
  r.x ≤ col && col < r.right && r.y ≤ row && row < r.bottom

/-- The part inside a one-cell border on all four sides. -/
def inner (r : Rect) : Rect :=
  let x := min (r.x + 1) r.right
  let y := min (r.y + 1) r.bottom
  ⟨x, y, r.width - 1 - 1, r.height - 1 - 1⟩

theorem inner_width (r : Rect) : r.inner.width = r.width - 2 := by
  dsimp only [inner]
  omega

theorem inner_height (r : Rect) : r.inner.height = r.height - 2 := by
  dsimp only [inner]
  omega

end Rect

end WaveScope.Screen
