import WaveScope.View.Layout
import WaveScope.View.Trace
import WaveScope.Screen.Paint
import WaveScope.Screen.Braille
import WaveScope.Session.Basic

/-!
# Drawing a frame

One frame of the scope, drawn on a blank screen in this order:

1. the plot frame, titled ` RTT Scope `, and the three y labels, right-aligned in the label
   column on the top, middle and bottom rows of the plot, one cell short of the frame;
2. the trace: the waveform's points joined by straight lines of Braille dots (a single point is
   drawn alone), then, over it, the inspected sample's vertical guide and its dot;
3. the status line;
4. when asked for, the help: a box of 60% by 70% of the screen, centred, blanked first,
   titled ` Controls `, the controls wrapped inside it, and ` Press ? to close ` centred on
   its bottom edge.
-/

namespace WaveScope.View

open Screen

/-- The title of the plot frame. -/
def plotTitle : String := " RTT Scope "

/-- Draws the y labels into the label column. -/
def renderYLabels (g : Grid) (area : Rect) (y : AxisRange) : Grid :=
  if area.height == 0 then g
  else
    let labels := yLabels y
    let last := area.height - 1
    (labels.zipIdx).foldl (fun g (label, i) =>
      let row := if i == 0 then 0 else if i + 1 == labels.length then last else last / 2
      g.paragraph ⟨area.x, area.y + row, area.width - 1, 1⟩ .right none [label]) g

/-- Draws the plot frame, the labels, the trace and the inspected sample. -/
def renderChart (g : Grid) (l : ScreenLayout) (w : SampleWindow) (v : Viewport)
    (hover : Option Hover) : Grid :=
  let g := match l.frame with
    | some f => g.titledBorder f plotTitle
    | none => g
  let g := match l.labels with
    | some a => renderYLabels g a v.y
    | none => g
  let plot := l.plot
  if plot.width == 0 || plot.height == 0 then g
  else
    let pts := (waveform w v.x (plot.width * 2)).map fun (i, val) =>
      (Float.ofNat i, Float.ofNat val.toNat)
    let p := Plot.new plot.width plot.height ⟨v.x.min, v.x.max, v.y.min, v.y.max⟩
    let p := (pts.zip pts.tail).foldl (fun p (a, b) => p.line a.1 a.2 b.1 b.2) p
    let p := if pts.length == 1 then p.points pts else p
    let p := match hover with
      | some h =>
        let hx := Float.ofNat h.index
        let p := p.layer.line hx v.y.min hx v.y.max
        p.points [(hx, Float.ofNat h.value.toNat)]
      | none => p
    g.putPlot plot p.finish

/-- A rectangle of a percentage of an area's width and height, centred in it.  Sizes and
coordinates are 16-bit numbers and the arithmetic on them wraps around at `2^16`: the product of a
side and its percentage is taken before the division, so past `65535` it wraps. -/
def centeredRect (percentX percentY : Nat) (area : Rect) : Rect :=
  let w := area.width * percentX % 65536 / 100
  let h := area.height * percentY % 65536 / 100
  ⟨(area.x + (area.width - w) / 2) % 65536, (area.y + (area.height - h) / 2) % 65536, w, h⟩

/-- A line of the help: the keys in a column of twelve, then what they do. -/
def helpEntry (keys description : String) : String :=
  "  " ++ keys ++ String.ofList (List.replicate (12 - keys.length) ' ') ++ description

/-- The text of the help. -/
def helpLines : List String :=
  ["Stream",
   helpEntry "Space" "Pause / resume (backlog replays on resume)",
   helpEntry "a" "Re-enable auto-scale",
   helpEntry "d" "Save visible samples (paused only)",
   "",
   "View",
   helpEntry "Wheel" "Zoom vertical scale (manual)",
   helpEntry "+ / -" "Zoom sample window",
   helpEntry "← / →" "Pan sample window",
   helpEntry "0" "Show whole buffer",
   helpEntry "Hover" "Inspect value (paused only)",
   "",
   "Application",
   helpEntry "f / F11" "Toggle fullscreen",
   helpEntry "?" "Toggle this help",
   helpEntry "q / Esc" "Quit"]

/-- The bottom row of a box, or its top row when it has none. -/
def bottomRow (box : Rect) : Rect := ⟨box.x, box.y + (box.height - 1), box.width, 1⟩

/-- Draws the help over the screen. -/
def renderHelp (g : Grid) : Grid :=
  let popup := centeredRect 60 70 g.area
  let g := g.clear popup
  let box := popup.intersection g.area
  let g := if box.isEmpty then g else (g.titledBorder box " Controls ").paragraph box.inner .left (some false) helpLines
  g.paragraph (bottomRow popup) .center none [" Press ? to close "]

/-- Draws a whole frame of a session at `now` on a blank screen. -/
def renderScope {σ δ : Type} [SampleSource σ] (g : Grid) (l : ScreenLayout)
    (s : Session σ δ) (now : Nat) : Grid :=
  let g := renderChart g l s.window s.viewport s.view.hover
  let g := match l.status with
    | some a => g.paragraph a .left none [(s.statusLine now).text]
    | none => g
  if s.view.helpVisible then renderHelp g else g

end WaveScope.View
