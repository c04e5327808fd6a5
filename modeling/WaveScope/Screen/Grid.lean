import WaveScope.Screen.Rect

/-!
# A screen of cells

The terminal screen as a value: `width × height` cells, row by row, each holding the text shown
in it (one grapheme, or a blank).  Writing outside the screen changes nothing, so every drawing
operation is confined to the screen.

**Main statements.**  `get?_set_self` and `get?_set_other` say a write changes its own cell and
no other.
-/

namespace WaveScope.Screen

/-- A screen of cells, row by row. -/
structure Grid where
  width : Nat
  height : Nat
  cells : Array String
deriving Repr

namespace Grid

/-- A screen of blank cells. -/
def blank (w h : Nat) : Grid := ⟨w, h, Array.replicate (w * h) " "⟩

/-- The whole screen as a rectangle. -/
def area (g : Grid) : Rect := ⟨0, 0, g.width, g.height⟩

/-- The text of a cell on the screen. -/
def get? (g : Grid) (x y : Nat) : Option String :=
  if x < g.width ∧ y < g.height then g.cells[y * g.width + x]? else none

/-- Writes a cell; a cell off the screen is left alone. -/
def set (g : Grid) (x y : Nat) (s : String) : Grid :=
  if x < g.width ∧ y < g.height then { g with cells := g.cells.modify (y * g.width + x) fun _ => s }
  else g

/-- Adds text to what a cell holds. -/
def append (g : Grid) (x y : Nat) (s : String) : Grid := g.set x y (((g.get? x y).getD "") ++ s)

/-- Blanks a cell. -/
def reset (g : Grid) (x y : Nat) : Grid := g.set x y " "

/-- The cells of a row, side by side. -/
def row (g : Grid) (y : Nat) : String :=
  String.join ((List.range g.width).map fun x => (g.get? x y).getD " ")

/-- The rows of the screen, top to bottom. -/
def rows (g : Grid) : List String := (List.range g.height).map g.row

theorem size_cells_set (g : Grid) (x y : Nat) (s : String) :
    (g.set x y s).cells.size = g.cells.size := by
  unfold set; split <;> simp

theorem get?_set_self (g : Grid) (x y : Nat) (s : String) (hx : x < g.width) (hy : y < g.height)
    (hs : g.cells.size = g.width * g.height) : (g.set x y s).get? x y = some s := by
  have hi : y * g.width + x < g.cells.size := by
    rw [hs]
    have : y * g.width + x < (y + 1) * g.width := by rw [Nat.succ_mul]; omega
    have : (y + 1) * g.width ≤ g.height * g.width := Nat.mul_le_mul_right _ hy
    rw [Nat.mul_comm g.width]; omega
  simp [set, get?, hx, hy, hi, Array.getElem_modify]

theorem get?_set_other (g : Grid) (x y x' y' : Nat) (s : String) (hx : x < g.width)
    (hx' : x' < g.width) (h : (x, y) ≠ (x', y')) : (g.set x y s).get? x' y' = g.get? x' y' := by
  unfold set get?
  split
  · have hne : y * g.width + x ≠ y' * g.width + x' := by
      intro he
      apply h
      have h1 : (y * g.width + x) % g.width = (y' * g.width + x') % g.width := by rw [he]
      have h2 : (y * g.width + x) / g.width = (y' * g.width + x') / g.width := by rw [he]
      simp [Nat.mod_eq_of_lt hx, Nat.mod_eq_of_lt hx'] at h1
      have hw : 0 < g.width := by omega
      rw [Nat.mul_comm y, Nat.mul_comm y', Nat.mul_add_div hw, Nat.mul_add_div hw,
        Nat.div_eq_of_lt hx, Nat.div_eq_of_lt hx'] at h2
      simp_all
    simp [Array.getElem?_modify, hne]
  · rfl

end Grid

end WaveScope.Screen
