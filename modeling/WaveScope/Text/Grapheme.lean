import WaveScope.Text.GraphemeBreak

/-!
# User-perceived characters

Text is cut into *grapheme clusters*, the units a terminal cell holds, by the extended rules of
Unicode text segmentation:

* a carriage return keeps the line feed after it, and other controls stand alone;
* Hangul jamo and syllables join into syllable blocks;
* extending marks, zero-width joiners and spacing marks join the character before them, and
  prepended marks the character after them;
* an Indic consonant, a virama and the next consonant stay together;
* a pictograph, its extending marks, a zero-width joiner and the next pictograph stay together;
* regional indicators pair up into flags.

The context of a position is what these rules read of the characters before it.  It moves on
with every character, whether a break falls before that character or not.

**Main statements.**  `clusters_flatten` says cutting text into clusters loses nothing.
-/

namespace WaveScope.Text

/-- How far an Indic conjunct has come: not begun, after its consonant, or after a linker. -/
inductive ConjunctState where
  | none
  | consonant
  | linked
deriving DecidableEq, Repr

/-- How far an emoji sequence has come: not begun, after a pictograph and its extending marks,
or after those and a zero-width joiner. -/
inductive PictographState where
  | none
  | pictograph
  | joined
deriving DecidableEq, Repr

/-- What the rules know of the characters before a position. -/
structure BreakContext where
  /-- The class of the character right before, if there is one. -/
  last : Option BreakClass := none
  conjunct : ConjunctState := .none
  pictograph : PictographState := .none
  /-- The regional indicators right before the position are odd in number. -/
  oddRegional : Bool := false
deriving DecidableEq, Repr

namespace BreakContext

/-- The context after one more character. -/
def push (x : BreakContext) (c : Char) : BreakContext :=
  let k := breakClass c
  { last := some k
    conjunct :=
      if conjunctConsonant.contains c then .consonant
      else if conjunctLinker.contains c then (if x.conjunct == .none then .none else .linked)
      else if conjunctExtend.contains c then x.conjunct
      else .none
    pictograph :=
      if extendedPictographic.contains c then .pictograph
      else if k == .extend && x.pictograph == .pictograph then .pictograph
      else if k == .zwj && x.pictograph == .pictograph then .joined
      else .none
    oddRegional := k == .regionalIndicator && !x.oddRegional }

/-- No break falls between the characters before and the character `c`: the rules in their order,
the first that speaks deciding. -/
def joins (x : BreakContext) (c : Char) : Bool :=
  let k := breakClass c
  match x.last with
  | none => false
  | some p =>
    if p == .cr && k == .lf then true
    else if p == .cr || p == .lf || p == .control then false
    else if k == .cr || k == .lf || k == .control then false
    else if p == .l && (k == .l || k == .v || k == .lv || k == .lvt) then true
    else if (p == .lv || p == .v) && (k == .v || k == .t) then true
    else if (p == .lvt || p == .t) && k == .t then true
    else if k == .extend || k == .zwj || k == .spacingMark then true
    else if p == .prepend then true
    else if x.conjunct == .linked && conjunctConsonant.contains c then true
    else if x.pictograph == .joined && extendedPictographic.contains c then true
    else p == .regionalIndicator && k == .regionalIndicator && x.oddRegional

end BreakContext

/-- Cuts characters into clusters: `cur` is the cluster being built, `x` the context after it. -/
def cutClusters (x : BreakContext) (cur : List Char) : List Char → List (List Char)
  | [] => if cur.isEmpty then [] else [cur]
  | c :: rest =>
    if cur.isEmpty || x.joins c then cutClusters (x.push c) (cur ++ [c]) rest
    else cur :: cutClusters (x.push c) [c] rest

/-- The grapheme clusters of a list of characters, in order. -/
def clusters (cs : List Char) : List (List Char) := cutClusters {} [] cs

/-- The grapheme clusters of text, in order. -/
def graphemes (s : String) : List String := (clusters s.toList).map String.ofList

theorem cutClusters_flatten (x : BreakContext) (cur cs : List Char) :
    (cutClusters x cur cs).flatten = cur ++ cs := by
  induction cs generalizing x cur with
  | nil =>
    unfold cutClusters
    split
    · rename_i h
      simp_all
    · simp
  | cons c rest ih =>
    unfold cutClusters
    split
    · rw [ih]
      simp
    · simp [ih]

theorem clusters_flatten (cs : List Char) : (clusters cs).flatten = cs := by
  simp [clusters, cutClusters_flatten]

end WaveScope.Text
