/-!
# Actions

What the user can ask the scope to do, independent of the keys bound to it, and the pointer
buttons.
-/

namespace WaveScope

/-- A user action. -/
inductive Action where
  | togglePause
  | enableAutoScale
  | snapshot
  | zoomInX
  | zoomOutX
  | panLeft
  | panRight
  | resetX
  | toggleFullscreen
  | toggleHelp
  | quit
deriving DecidableEq, Repr

/-- Every action with its name, in declaration order. -/
def Action.named : List (String × Action) :=
  [("TogglePause", .togglePause), ("EnableAutoScale", .enableAutoScale), ("Snapshot", .snapshot),
   ("ZoomInX", .zoomInX), ("ZoomOutX", .zoomOutX), ("PanLeft", .panLeft), ("PanRight", .panRight),
   ("ResetX", .resetX), ("ToggleFullscreen", .toggleFullscreen), ("ToggleHelp", .toggleHelp),
   ("Quit", .quit)]

/-- The name of an action. -/
def Action.name (a : Action) : String :=
  ((Action.named.find? fun p => p.2 == a).map (·.1)).getD ""

/-- The action of a name. -/
def Action.ofName? (s : String) : Option Action := Action.named.lookup s

/-- The action moves or resizes the horizontal window. -/
def Action.isXNavigation : Action → Bool
  | .zoomInX | .zoomOutX | .panLeft | .panRight | .resetX => true
  | _ => false

/-- A pointer button. -/
inductive PointerButton where
  | primary
  | secondary
  | tertiary
deriving DecidableEq, Repr

/-- Pressing the button takes over the vertical scale from auto-scale. -/
def PointerButton.adjustsScale : PointerButton → Bool
  | .primary => false
  | _ => true

/-- The direction of a wheel step. -/
inductive WheelDirection where
  | up
  | down
deriving DecidableEq, Repr

end WaveScope
