/-!
# How alike two words are

The Jaro similarity of two character sequences: characters match when they are equal and no
further apart than half the longer length less one, each character matching at most once; the
score averages the share of matched characters in each word and the share of matches that are
in the same order.  It is `1` for equal words, `0` when nothing matches, and is used to suggest
a known name for a mistyped one.
-/

namespace WaveScope.Text

/-- Finds the first unused position of `b`, from `lo` and below `hi`, holding `c`. -/
def matchSlot (b : Array Char) (used : Array Bool) (c : Char) (lo hi : Nat) : Option Nat :=
  ((List.range hi).drop lo).find? fun j => b[j]? == some c && used[j]? == some false

/-- Marks the matched characters of both words: for each character of `a` in turn, the first
free equal character of `b` within the window. -/
def matchMarks (a b : Array Char) : Array Bool × Array Bool :=
  let window := (max a.size b.size / 2) - 1
  (List.range a.size).foldl (fun (ua, ub) i =>
    let lo := i - window
    let hi := min b.size (i + window + 1)
    match a[i]? with
    | some c =>
      match matchSlot b ub c lo hi with
      | some j => (ua.set! i true, ub.set! j true)
      | none => (ua, ub)
    | none => (ua, ub)) (Array.replicate a.size false, Array.replicate b.size false)

/-- The matched characters of a word, in order. -/
def matched (w : Array Char) (marks : Array Bool) : List Char :=
  ((w.toList.zip marks.toList).filter (·.2)).map (·.1)

/-- The Jaro similarity of two strings. -/
def jaro (s t : String) : Float :=
  let a := s.toList.toArray
  let b := t.toList.toArray
  if a.size == 0 && b.size == 0 then 1.0
  else if a.size == 0 || b.size == 0 then 0.0
  else
    let (ua, ub) := matchMarks a b
    let ma := matched a ua
    let mb := matched b ub
    let m := ma.length
    if m == 0 then 0.0
    else
      let transpositions := ((ma.zip mb).filter fun (x, y) => x != y).length / 2
      let mf := m.toFloat
      (mf / a.size.toFloat + mf / b.size.toFloat + (m - transpositions).toFloat / mf) / 3.0

example : jaro "" "" = 1.0 := by simp [jaro]

end WaveScope.Text
