import Mathlib
import WaveScope.View.Frame

/-!
# Where the help box goes

The help is drawn in a box of a percentage of the screen's width and height, centred on it, with
its closing hint on the box's bottom row.  Sides are 16-bit numbers, and a side is multiplied by
its percentage before the division, in 16 bits: past `65535` the product wraps around.

* `share_le`: a side's share is never more than the side, wrapped or not, when the percentage is
  at most a hundred.  The wrap only makes a box smaller, so the box always fits.
* `share_eq_iff`: the share is the side times the percentage over a hundred exactly when the
  product stays below `2^16`; past it the wrapped share is always smaller.
* `Rect.Covers` says that one rectangle lies inside another; `centeredRect_covered` and
  `bottomRow_covered` place the box and its hint row inside the area.

**Main statements.**  `help_box_placement` gives the box's size and offsets, says when its size is
the exact share, and places the box and its hint inside the area; `help_box_wraps_on_wide_screen`
shows the wrap on a screen 1100 cells wide, where the box is four cells wide instead of 660.
-/

namespace WaveScope.Screen

namespace Rect

/-- The rectangle `r` lies inside `area`. -/
def Covers (area r : Rect) : Prop :=
  area.x ≤ r.x ∧ r.x + r.width ≤ area.x + area.width ∧
    area.y ≤ r.y ∧ r.y + r.height ≤ area.y + area.height

instance (area r : Rect) : Decidable (area.Covers r) :=
  inferInstanceAs (Decidable (_ ∧ _ ∧ _ ∧ _))

end Rect

end WaveScope.Screen

namespace WaveScope.View

open Screen

/-! ## A side's share -/

/-- A share of at most a hundred percent, wrapped at `2^16` or not, is at most the side. -/
lemma share_le (n : Nat) {p : Nat} (hp : p ≤ 100) : n * p % 65536 / 100 ≤ n := by
  have hmul : n * p ≤ n * 100 := Nat.mul_le_mul_left n hp
  have hmod : n * p % 65536 ≤ n * p := Nat.mod_le _ _
  omega

/-- The wrapped share is the exact share exactly when the product does not wrap. -/
lemma share_eq_iff (n p : Nat) : n * p % 65536 / 100 = n * p / 100 ↔ n * p < 65536 := by
  omega

/-! ## The box and its hint -/

lemma width_centeredRect (px py : Nat) (area : Rect) :
    (centeredRect px py area).width = area.width * px % 65536 / 100 := rfl

lemma height_centeredRect (px py : Nat) (area : Rect) :
    (centeredRect px py area).height = area.height * py % 65536 / 100 := rfl

/-- Inside an area whose far edges are 16-bit coordinates, the offsets do not wrap. -/
lemma centeredRect_x {px : Nat} (py : Nat) {area : Rect} (hp : px ≤ 100)
    (hx : area.x + area.width < 65536) :
    (centeredRect px py area).x = area.x + (area.width - area.width * px % 65536 / 100) / 2 := by
  have hw := share_le area.width hp
  simp only [centeredRect]
  exact Nat.mod_eq_of_lt (by omega)

lemma centeredRect_y (px : Nat) {py : Nat} {area : Rect} (hp : py ≤ 100)
    (hy : area.y + area.height < 65536) :
    (centeredRect px py area).y = area.y + (area.height - area.height * py % 65536 / 100) / 2 := by
  have hh := share_le area.height hp
  simp only [centeredRect]
  exact Nat.mod_eq_of_lt (by omega)

theorem centeredRect_covered {px py : Nat} {area : Rect} (hpx : px ≤ 100) (hpy : py ≤ 100)
    (hx : area.x + area.width < 65536) (hy : area.y + area.height < 65536) :
    area.Covers (centeredRect px py area) := by
  have hw := share_le area.width hpx
  have hh := share_le area.height hpy
  simp only [Rect.Covers, centeredRect_x py hpx hx, centeredRect_y px hpy hy, width_centeredRect,
    height_centeredRect]
  omega

/-- The bottom row of a box inside an area of at least one row lies inside the area too; a box of
no height puts it on the box's own row, which is still one of the area's. -/
theorem bottomRow_covered {area r : Rect} (hr : area.Covers r) (hrow : r.y < area.y + area.height) :
    area.Covers (bottomRow r) := by
  obtain ⟨h₁, h₂, h₃, h₄⟩ := hr
  simp only [Rect.Covers, bottomRow]
  omega

/-- **Placing the help box.**  For every area whose far edges are 16-bit coordinates (as the
screen's own area is) and percentages of at most a hundred, the centred box takes the percentage
of each side as the 16-bit product leaves it, which is the exact share exactly when the product
stays below `2^16`; it sits at half the leftover space on each axis, lies inside the area, and so
does its hint row when the area has a row. -/
theorem help_box_placement (area : Rect) {px py : Nat} (hpx : px ≤ 100) (hpy : py ≤ 100)
    (hx : area.x + area.width < 65536) (hy : area.y + area.height < 65536) :
    let r := centeredRect px py area
    r.width = area.width * px % 65536 / 100 ∧ r.height = area.height * py % 65536 / 100 ∧
      (r.width = area.width * px / 100 ↔ area.width * px < 65536) ∧
      (r.height = area.height * py / 100 ↔ area.height * py < 65536) ∧
      r.x = area.x + (area.width - r.width) / 2 ∧ r.y = area.y + (area.height - r.height) / 2 ∧
      area.Covers r ∧ (0 < area.height → area.Covers (bottomRow r)) := by
  intro r
  have hcov : area.Covers r := centeredRect_covered hpx hpy hx hy
  refine ⟨rfl, rfl, share_eq_iff _ _, share_eq_iff _ _, centeredRect_x py hpx hx,
    centeredRect_y px hpy hy, hcov, fun hpos => bottomRow_covered hcov ?_⟩
  -- the box starts at most half the area's height below its top
  have hh := share_le area.height hpy
  rw [centeredRect_y px hpy hy]
  omega

theorem help_box_placement_terminal :
    (60 ≤ 100 ∧ 70 ≤ 100 ∧ 0 + 80 < 65536 ∧ 0 + 24 < 65536) ∧
      let r := centeredRect 60 70 ⟨0, 0, 80, 24⟩
      r.width = 80 * 60 % 65536 / 100 ∧ r.height = 24 * 70 % 65536 / 100 ∧
        (r.width = 80 * 60 / 100 ↔ 80 * 60 < 65536) ∧
        (r.height = 24 * 70 / 100 ↔ 24 * 70 < 65536) ∧
        r.x = 0 + (80 - r.width) / 2 ∧ r.y = 0 + (24 - r.height) / 2 ∧
        Rect.Covers ⟨0, 0, 80, 24⟩ r ∧ (0 < 24 → Rect.Covers ⟨0, 0, 80, 24⟩ (bottomRow r)) :=
  ⟨by decide, help_box_placement ⟨0, 0, 80, 24⟩ (by decide) (by decide) (by decide) (by decide)⟩

/-- On a screen 1100 cells wide the product `1100 * 60` wraps to `464`, and the help box is four
cells wide, not the 660 that sixty percent of the width would be. -/
theorem help_box_wraps_on_wide_screen :
    (centeredRect 60 70 ⟨0, 0, 1100, 20⟩).width = 4 ∧
      (centeredRect 60 70 ⟨0, 0, 1100, 20⟩).width ≠ 1100 * 60 / 100 := by
  decide

end WaveScope.View
