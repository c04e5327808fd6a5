import WaveScope.Input.Action
import WaveScope.Input.Key

/-!
# Events

What reaches the scope from the user, in two vocabularies.  Terminal events are what the
terminal reports: keys, mouse activity with the cell under the pointer, resizes, focus changes
and pasted text.  Scope events are what the scope acts on: the pointer over a data position,
the pointer leaving the plot, wheel steps, button presses, keys and resizes.  The application
turns the first into the second, mapping cells to data through the plot it drew last.
-/

namespace WaveScope

/-- An event the scope acts on. -/
inductive ScopeEvent where
  /-- The pointer is over data position `(x, y)`. -/
  | pointerMoved (x y : Float)
  /-- The pointer left the plot. -/
  | pointerLeft
  | wheel (d : WheelDirection)
  | button (b : PointerButton)
  | key (k : KeyEvent)
  | resized (width height : Nat)
deriving Repr

/-- A mouse button as the terminal names it. -/
inductive MouseButton where
  | left
  | right
  | middle
deriving DecidableEq, Repr

/-- What the mouse did. -/
inductive MouseKind where
  | moved
  | drag (b : MouseButton)
  | down (b : MouseButton)
  | up (b : MouseButton)
  | scrollUp
  | scrollDown
  | scrollLeft
  | scrollRight
deriving DecidableEq, Repr

/-- A mouse event at a cell. -/
structure MouseEvent where
  kind : MouseKind
  column : Nat
  row : Nat
  modifiers : Modifiers
deriving DecidableEq, Repr

/-- An event as the terminal reports it. -/
inductive TerminalEvent where
  | key (k : KeyEvent)
  | mouse (m : MouseEvent)
  | resize (width height : Nat)
  | focusGained
  | focusLost
  | paste (text : String)
deriving DecidableEq, Repr

/-- The pointer button of a mouse button: left is primary, right secondary, middle tertiary. -/
def MouseButton.pointer : MouseButton → PointerButton
  | .left => .primary
  | .right => .secondary
  | .middle => .tertiary

end WaveScope
