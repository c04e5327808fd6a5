import WaveScope.View.Frame

/-!
# The application

A session on a terminal of a fixed size.  Terminal events become scope events: a key press
(not a repeat or a release) is handed on; pointer movement maps through the plot of the last
frame drawn (before any frame, it is ignored); wheel steps and button presses are handed on;
a resize forgets the last layout.

Drawing renders a whole frame and sends the terminal only the cells that changed since the
previous frame.  The cell after a wide grapheme is not sent, so the terminal keeps what it had
there; a cell next to one that changed width is sent again.

**Main statements.**  `handleTerminal_release` says a key release does nothing.
-/

namespace WaveScope.View

open Screen

/-- A session shown on a terminal. -/
structure App (σ δ : Type) where
  session : Session σ δ
  width : Nat
  height : Nat
  lastLayout : Option ScreenLayout
  previous : Grid
  shown : Grid

namespace App

variable {σ δ : Type} [SampleSource σ] [Files.Disk δ]

/-- An application on a blank terminal of a size. -/
def new (s : Session σ δ) (width height : Nat) : App σ δ :=
  ⟨s, width, height, none, Grid.blank width height, Grid.blank width height⟩

/-- The scope event of a mouse event, if any. -/
def mapMouse (a : App σ δ) (m : MouseEvent) : Option ScopeEvent :=
  match m.kind with
  | .moved | .drag _ =>
    a.lastLayout.map fun l =>
      match pointerToData l.plot a.session.viewport m.column m.row with
      | some (x, y) => .pointerMoved x y
      | none => .pointerLeft
  | .scrollUp => some (.wheel .up)
  | .scrollDown => some (.wheel .down)
  | .down b => some (.button b.pointer)
  | _ => none

/-- Hands a scope event to the session. -/
def dispatch (a : App σ δ) (e : ScopeEvent) (now : Nat) (at_ : LocalTime) :
    Bool × App σ δ :=
  let (quit, s) := a.session.handleEvent e now at_
  (quit, { a with session := s })

/-- Handles a terminal event; tells whether the scope should stop. -/
def handleTerminal (a : App σ δ) (e : TerminalEvent) (now : Nat) (at_ : LocalTime) :
    Bool × App σ δ :=
  match e with
  | .key k => if k.kind == .press then a.dispatch (.key k) now at_ else (false, a)
  | .mouse m =>
    match a.mapMouse m with
    | some ev => a.dispatch ev now at_
    | none => (false, a)
  | .resize w h => { a with lastLayout := none }.dispatch (.resized w h) now at_
  | _ => (false, a)

/-- The terminal after sending it the cells of `next` that differ from `prev`. -/
def flush (prev next shown : Grid) : Grid :=
  let step (acc : Grid × Nat × Nat) (i : Nat) : Grid × Nat × Nat :=
    let (shown, invalidated, skip) := acc
    let cur := next.cells[i]?.getD " "
    let old := prev.cells[i]?.getD " "
    let shown := if (cur != old || invalidated > 0) && skip == 0 then
        { shown with cells := shown.cells.modify i fun _ => cur }
      else shown
    let cw := Text.width cur
    (shown, max (max cw (Text.width old)) invalidated - 1, cw - 1)
  ((List.range next.cells.size).foldl step (shown, 0, 0)).1

/-- Draws a frame at `now`. -/
def draw (a : App σ δ) (now : Nat) : App σ δ :=
  let l := layout ⟨0, 0, a.width, a.height⟩ a.session.view.fullscreen
  let frame := renderScope (Grid.blank a.width a.height) l a.session now
  { a with lastLayout := some l, previous := frame, shown := flush a.previous frame a.shown }

omit [SampleSource σ] in
theorem handleTerminal_release (a : App σ δ) (k : KeyEvent) (now : Nat) (at_ : LocalTime)
    (h : k.kind = .release) : a.handleTerminal (.key k) now at_ = (false, a) := by
  simp [handleTerminal, h]

end App

end WaveScope.View
