import WaveScope.Sample.Window
import WaveScope.Axis.Range
import WaveScope.Text.Decimal

/-!
# The trace and its labels

The samples of the horizontal range become the points of the trace.  When there are at most two
per column of Braille dots, every sample is a point; otherwise the visible samples are cut into
groups of equal size (the last one shorter) and each group gives its first least and first
greatest sample, in position order, so peaks survive at any zoom.  Twice the number of columns
is a machine word, so it wraps past `2^64`.

The y axis carries three labels: the top, the middle and the bottom of the vertical range, as
whole numbers.

**Main statement.**  `groups_join` says the groups put back together are the samples.
-/

namespace WaveScope.View

/-- Consecutive groups of `per` elements (at least one), the last one possibly shorter. -/
def groups {α : Type} (per : Nat) (xs : List α) : List (List α) :=
  match xs with
  | [] => []
  | x :: rest => ((x :: rest).take (max per 1)) :: groups per ((x :: rest).drop (max per 1))
termination_by xs.length
decreasing_by simp only [List.length_drop, List.length_cons]; omega

theorem groups_join {α : Type} (per : Nat) (xs : List α) : (groups per xs).flatten = xs := by
  fun_induction groups per xs with
  | case1 => rfl
  | case2 x rest ih => simp only [List.flatten_cons, ih, List.take_append_drop]

/-- The first least and the first greatest sample of a non-empty group, in position order, once
each. -/
def extremes (g : List (Nat × UInt32)) : List (Nat × UInt32) :=
  match g with
  | [] => []
  | p :: rest =>
    let (lo, hi) := rest.foldl (fun (lo, hi) q =>
      (if q.2 < lo.2 then q else lo, if q.2 > hi.2 then q else hi)) (p, p)
    let (a, b) := if lo.1 ≤ hi.1 then (lo, hi) else (hi, lo)
    if a == b then [a] else [a, b]

/-- The points of the trace for a horizontal range and a number of dot columns. -/
def waveform (w : SampleWindow) (x : AxisRange) (columns : Nat) : List (Nat × UInt32) :=
  let visible := (w.within x.min x.max).toList
  let columns := max columns 1
  if visible.length ≤ columns * 2 % Nat.pow 2 64 then visible
  else
    let per := (visible.length + columns - 1) / columns
    (groups per visible).flatMap extremes

/-- The three labels of the y axis, top to bottom: `max - span * i / 2` as whole numbers. -/
def yLabels (y : AxisRange) : List String :=
  [0, 1, 2].map fun (i : Nat) => Decimal.fixed 0 (y.max - y.span * Float.ofNat i / 2.0)

end WaveScope.View
