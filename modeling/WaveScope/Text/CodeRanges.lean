/-!
# Sets and tables of code points

Character properties of the Unicode Character Database are kept as sorted lists of closed
ranges of code points and looked up by binary search: a `CodeRanges` is a set of code points,
a `CodeTable α` gives some code points a value of `α`.  Both are written out in the modules
that hold the data of one property each.

**Main statements.**  `CodeRanges.contains_empty` and `CodeTable.find?_empty` say that the empty
list holds nothing.
-/

namespace WaveScope.Text

/-- The last of the items at positions `[lo, hi)` of `xs` whose start is at most `n`, or `best`
when there is none.  When the starts are sorted, it is the one item whose range may hold `n`. -/
def lastStartingAtMost {β : Type} (xs : Array β) (start : β → Nat) (n : Nat) (lo hi : Nat)
    (best : Option β) : Option β :=
  if _h : lo < hi then
    let mid := (lo + hi) / 2
    match xs[mid]? with
    | some x =>
      if start x ≤ n then lastStartingAtMost xs start n (mid + 1) hi (some x)
      else lastStartingAtMost xs start n lo mid best
    | none => best
  else best
termination_by hi - lo
decreasing_by all_goals omega

/-- Sorted, disjoint closed ranges `[lo, hi]` of code points. -/
structure CodeRanges where
  ranges : Array (Nat × Nat)

/-- The code point lies in one of the ranges. -/
def CodeRanges.containsCode (s : CodeRanges) (n : Nat) : Bool :=
  match lastStartingAtMost s.ranges (·.1) n 0 s.ranges.size none with
  | some (_, hi) => n ≤ hi
  | none => false

/-- The character lies in one of the ranges. -/
def CodeRanges.contains (s : CodeRanges) (c : Char) : Bool := s.containsCode c.toNat

/-- Sorted, disjoint closed ranges `[lo, hi]` of code points, each with a value. -/
structure CodeTable (α : Type) where
  entries : Array (Nat × Nat × α)

/-- The value of the range that holds the character, if one does. -/
def CodeTable.find? {α : Type} (t : CodeTable α) (c : Char) : Option α :=
  let n := c.toNat
  match lastStartingAtMost t.entries (·.1) n 0 t.entries.size none with
  | some (_, hi, v) => if n ≤ hi then some v else none
  | none => none

theorem lastStartingAtMost_empty {β : Type} (xs : Array β) (start : β → Nat) (n lo : Nat)
    (best : Option β) : lastStartingAtMost xs start n lo lo best = best := by
  unfold lastStartingAtMost
  simp

theorem CodeRanges.contains_empty (c : Char) : (CodeRanges.mk #[]).contains c = false := by
  simp [CodeRanges.contains, CodeRanges.containsCode, lastStartingAtMost_empty]

theorem CodeTable.find?_empty {α : Type} (c : Char) : (CodeTable.mk (α := α) #[]).find? c = none := by
  simp [CodeTable.find?, lastStartingAtMost_empty]

end WaveScope.Text
