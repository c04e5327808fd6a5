import WaveScope.Status.Line

/-!
# Colours

The colours of the display.  Only the status bar's colour depends on state: red when
disconnected, yellow while connecting, orange while frozen, green when live and cyan for a notice,
always bold.
-/

namespace WaveScope.View

/-- A terminal colour. -/
inductive Color where
  | red
  | yellow
  | green
  | cyan
  | gray
  | darkGray
  | white
  | rgb (r g b : Nat)
deriving DecidableEq, Repr

/-- A text style: a foreground colour and whether the text is bold. -/
structure Style where
  fg : Option Color
  bold : Bool
deriving DecidableEq, Repr

/-- The style of the status bar for a tone. -/
def statusStyle (tone : StatusTone) : Style :=
  let color := match tone with
    | .disconnected => Color.red
    | .connecting => .yellow
    | .paused => .rgb 0xFF 0xA5 0x00
    | .connected => .green
    | .notice => .cyan
  ⟨some color, true⟩

end WaveScope.View
