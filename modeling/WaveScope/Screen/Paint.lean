import WaveScope.Screen.Grid
import WaveScope.Text.Width
import WaveScope.Text.Blank

/-!
# Painting text and boxes on a screen

The drawing operations the scope needs, each confined to a rectangle of the screen:

* `clear` blanks a rectangle;
* `border` draws a box along the edges of a rectangle, sides first and corners last;
* `putSpan` writes text from the left of a rectangle, as far as whole graphemes fit;
* `paragraph` writes lines of text aligned left, centred or right, either cut at the width of
  the rectangle or wrapped at word boundaries.

Text goes into cells grapheme by grapheme; a wide grapheme takes two cells and blanks the one
it covers.  Only the cells a glyph lands on change: a paragraph does not blank the rest of its
rectangle.

**Main statements.**  `truncate_width_le` says a cut line fits its width.
-/

namespace WaveScope.Screen

open Text

/-- The overlap of two rectangles. -/
def Rect.intersection (a b : Rect) : Rect :=
  let x1 := max a.x b.x
  let y1 := max a.y b.y
  let x2 := min a.right b.right
  let y2 := min a.bottom b.bottom
  ⟨x1, y1, x2 - x1, y2 - y1⟩

/-- The rectangle without its first `n` columns. -/
def Rect.indentX (r : Rect) (n : Nat) : Rect :=
  let x := min (r.x + n) coordMax
  ⟨x, r.y, r.width - (x - r.x), r.height⟩

namespace Grid

/-- The numbers `a, a + 1, …` below `b`. -/
def span (a b : Nat) : List Nat := (List.range (b - a)).map (a + ·)

/-- Blanks every cell of a rectangle. -/
def clear (g : Grid) (r : Rect) : Grid :=
  let r := r.intersection g.area
  (span r.y r.bottom).foldl (fun g y => (span r.x r.right).foldl (fun g x => g.reset x y) g) g

/-- A box along the edges of a rectangle: the left, top, right and bottom sides, then the
corners, bottom right first and top left last. -/
def border (g : Grid) (r : Rect) : Grid :=
  let r := r.intersection g.area
  if r.isEmpty then g
  else
    let g := (span r.y r.bottom).foldl (fun g y => g.set r.x y "│") g
    let g := (span r.x r.right).foldl (fun g x => g.set x r.y "─") g
    let g := (span r.y r.bottom).foldl (fun g y => g.set (r.right - 1) y "│") g
    let g := (span r.x r.right).foldl (fun g x => g.set x (r.bottom - 1) "─") g
    let g := g.set (r.right - 1) (r.bottom - 1) "┘"
    let g := g.set (r.right - 1) r.y "┐"
    let g := g.set r.x (r.bottom - 1) "└"
    g.set r.x r.y "┌"

/-- Writes text from the left of a one-row rectangle, grapheme by grapheme, while the next one
fits; a zero-width grapheme joins the cell before it. -/
def putSpan (g : Grid) (area : Rect) (text : String) : Grid :=
  let area := area.intersection g.area
  if area.isEmpty then g
  else
    let step (acc : Grid × Nat × Nat × Bool) (gr : String) : Grid × Nat × Nat × Bool :=
      let (g, x, i, stopped) := acc
      if stopped then acc
      else
        let w := Text.width gr
        let next := x + w
        if next > area.right then (g, x, i, true)
        else
          let g :=
            if i == 0 then g.set x area.y gr
            else if x == area.x then g.append x area.y gr
            else if w == 0 then g.append (x - 1) area.y gr
            else g.set x area.y gr
          let g := (span (x + 1) next).foldl (fun g xh => g.reset xh area.y) g
          (g, next, i + 1, false)
    ((graphemes text).foldl step (g, area.x, 0, false)).1

/-- A box with a title on its top edge, from its second column on, cut to fit. -/
def titledBorder (g : Grid) (r : Rect) (title : String) : Grid :=
  let r := r.intersection g.area
  if r.isEmpty then g
  else
    let g := g.border r
    let titles : Rect := ⟨r.x + 1, r.y, r.width - 1 - 1, 1⟩
    if titles.isEmpty then g
    else g.putSpan ⟨titles.x, titles.y, min (Text.width title) titles.width, 1⟩ title

end Grid

/-- How a line sits in its row. -/
inductive Align where
  | left
  | center
  | right
deriving DecidableEq, Repr

/-- A grapheme with its width and whether it is blank. -/
structure Glyph where
  text : String
  width : Nat
  blank : Bool
deriving DecidableEq, Repr

/-- The glyphs of a line: its graphemes, line feeds left out.  A zero-width space is blank, a
no-break space is not. -/
def glyphs (s : String) : List Glyph :=
  ((graphemes s).filter (· != "\n")).map fun gr =>
    ⟨gr, width gr, gr == "\u200B" || (gr.toList.all isBlank && gr != "\u00A0")⟩

/-- A line cut to a width: glyphs wider than the width are left out, and the line stops before
the first glyph that would overflow. -/
def truncate (maxWidth : Nat) (gs : List Glyph) : List Glyph × Nat :=
  let step (acc : List Glyph × Nat × Bool) (g : Glyph) : List Glyph × Nat × Bool :=
    let (line, w, stopped) := acc
    if stopped || g.width > maxWidth then acc
    else if w + g.width > maxWidth then (line, w, true)
    else (line ++ [g], w + g.width, false)
  let (line, w, _) := gs.foldl step ([], 0, false)
  (line, w)

theorem truncate_width_le (maxWidth : Nat) (gs : List Glyph) :
    (truncate maxWidth gs).2 ≤ maxWidth := by
  unfold truncate
  suffices h : ∀ (l : List Glyph) (acc : List Glyph × Nat × Bool), acc.2.1 ≤ maxWidth →
      (l.foldl (fun (acc : List Glyph × Nat × Bool) (g : Glyph) =>
        let (line, w, stopped) := acc
        if stopped || g.width > maxWidth then acc
        else if w + g.width > maxWidth then (line, w, true)
        else (line ++ [g], w + g.width, false)) acc).2.1 ≤ maxWidth by
    exact h gs ([], 0, false) (Nat.zero_le _)
  intro l
  induction l with
  | nil => intro acc h; exact h
  | cons g l ih =>
    intro ⟨line, w, stopped⟩ h
    simp only [List.foldl_cons]
    apply ih
    simp only at h ⊢
    split
    · exact h
    · split
      · exact h
      · simp only; omega

/-- The state of wrapping one line: lines finished, the line being filled, the word being read
and the blanks before it, with their widths. -/
structure Wrapping where
  done : Array (List Glyph) := #[]
  line : Array Glyph := #[]
  lineWidth : Nat := 0
  word : Array Glyph := #[]
  wordWidth : Nat := 0
  blanks : List Glyph := []
  blanksWidth : Nat := 0
  afterWord : Bool := false

/-- Drops blanks from the front while they fit in the room left on a finished line. -/
def dropBlanks : List Glyph → Nat → Nat → List Glyph × Nat
  | [], _, w => ([], w)
  | b :: bs, room, w =>
    if b.width > room then (b :: bs, w) else dropBlanks bs (room - b.width) (w - b.width)

/-- Takes one glyph into the wrapping.  A word moves onto the line when a blank follows it or
when it could not fit on a line of its own; the line is finished when it is full or the word
would overflow it, and the blanks that fit at its end go with it. -/
def Wrapping.push (maxWidth : Nat) (trim : Bool) (st : Wrapping) (g : Glyph) : Wrapping :=
  if g.width > maxWidth then st
  else
    let empty := st.line.isEmpty
    let wordFound := st.afterWord && g.blank
    let trimmedOverflow := empty && trim && st.wordWidth + g.width > maxWidth
    let blankOverflow := empty && trim && st.blanksWidth + g.width > maxWidth
    let untrimmedOverflow := empty && !trim && st.wordWidth + st.blanksWidth + g.width > maxWidth
    let st :=
      if wordFound || trimmedOverflow || blankOverflow || untrimmedOverflow then
        let (line, lw) :=
          if !empty || !trim then (st.line ++ st.blanks.toArray, st.lineWidth + st.blanksWidth)
          else (st.line, st.lineWidth)
        { st with line := line ++ st.word, lineWidth := lw + st.wordWidth, blanks := [],
                  blanksWidth := 0, word := #[], wordWidth := 0 }
      else st
    let lineFull := st.lineWidth ≥ maxWidth
    let wordOverflow := g.width > 0 && st.lineWidth + st.blanksWidth + st.wordWidth ≥ maxWidth
    let add (st : Wrapping) : Wrapping :=
      if g.blank then { st with blanks := st.blanks ++ [g], blanksWidth := st.blanksWidth + g.width,
                                afterWord := false }
      else { st with word := st.word.push g, wordWidth := st.wordWidth + g.width, afterWord := true }
    if lineFull || wordOverflow then
      let room := maxWidth - st.lineWidth
      let (blanks, bw) := dropBlanks st.blanks room st.blanksWidth
      let st := { st with done := st.done.push st.line.toList, line := #[], lineWidth := 0,
                          blanks := blanks, blanksWidth := bw }
      if g.blank && blanks.isEmpty then st else add st
    else add st

/-- The rows one line wraps into at a width. -/
def wrapLine (maxWidth : Nat) (trim : Bool) (gs : List Glyph) : List (List Glyph) :=
  let st := gs.foldl (Wrapping.push maxWidth trim) {}
  let done := if st.line.isEmpty && st.word.isEmpty && !st.blanks.isEmpty then st.done.push []
    else st.done
  let line := if !st.line.isEmpty || !trim then st.line ++ st.blanks.toArray else st.line
  let line := line ++ st.word
  let done := if !line.isEmpty then done.push line.toList else done
  if done.isEmpty then [[]] else done.toList

/-- Where a line of a width starts in a row of a width. -/
def lineOffset (lineWidth areaWidth : Nat) : Align → Nat
  | .left => 0
  | .center => areaWidth / 2 - lineWidth / 2
  | .right => areaWidth - lineWidth

namespace Grid

/-- Writes rows of glyphs into a rectangle, one per row from the top, each placed by the
alignment, while rows remain. -/
def putRows (g : Grid) (area : Rect) (align : Align) (rows : List (List Glyph)) : Grid :=
  let rows := rows.take area.height
  (rows.zipIdx).foldl (fun g (row, y) =>
    let w := (row.map (·.width)).foldr (· + ·) 0
    let x0 := lineOffset w area.width align
    ((row.foldl (fun (acc : Grid × Nat) gl =>
      let (g, x) := acc
      if gl.width == 0 then acc
      else (g.set (area.x + x) (area.y + y) (if gl.text.isEmpty then " " else gl.text), x + gl.width))
      (g, x0)).1)) g

/-- A paragraph: lines placed in a rectangle, each cut at its width, or wrapped at word
boundaries when `wrap` is given (keeping blanks at line starts unless told to trim them). -/
def paragraph (g : Grid) (area : Rect) (align : Align) (wrap : Option Bool) (lines : List String) :
    Grid :=
  let area := area.intersection g.area
  if area.isEmpty then g
  else
    let rows := match wrap with
      | some trim => lines.flatMap fun l => wrapLine area.width trim (glyphs l)
      | none => lines.map fun l => (truncate area.width (glyphs l)).1
    g.putRows area align rows

end Grid

end WaveScope.Screen
