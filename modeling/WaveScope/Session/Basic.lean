import WaveScope.Sample.Source
import WaveScope.Sample.Words
import WaveScope.Sample.Capture
import WaveScope.Sample.Probe
import WaveScope.Axis.Viewport
import WaveScope.Axis.AutoScale
import WaveScope.Status.Line
import WaveScope.Status.Throughput
import WaveScope.Input.Bindings
import WaveScope.Input.Event
import WaveScope.Snapshot

/-!
# A scope session

Everything the scope knows while it runs, and how it changes: the source it reads, the word
assembler, the sample window, the live or frozen capture, the viewport, what the view shows,
the throughput meter, a notice, the key bindings, and the directory snapshots go to, on the
disk the session writes.

* Each **tick** polls the source, decodes the bytes into samples and takes them in; a partial
  word is dropped when the link is down; the throughput is updated; an expired notice goes.
* Samples taken in while live go to the window, and rescale the vertical range when auto-scale
  is on; while frozen they wait.
* **Events**: a pointer over the plot inspects the nearest sample while frozen; the wheel zooms
  the vertical range and, while live, turns auto-scale off, as the secondary and tertiary
  buttons do; keys run the actions bound to them.
* **Actions**: horizontal navigation drops the inspected sample; resuming replays the backlog
  and rescales; a snapshot needs a frozen display.

Times are milliseconds.

**Main statements.**  `handleAction_quit` says the quit action asks to stop and changes nothing;
`snapshot_live` says a snapshot while live only posts a notice.
-/

namespace WaveScope

/-- What a session starts with. -/
structure SessionSettings where
  sampleCount : Nat
  initialYMax : Float
  autoScale : Bool
  snapshotDir : String
deriving Repr

/-- The settings unless told otherwise. -/
def SessionSettings.default : SessionSettings :=
  ⟨SampleWindow.defaultCapacity, Viewport.defaultYMax, true, "."⟩

/-- What the view shows besides the samples. -/
structure ViewState where
  autoScale : Bool := false
  hover : Option Hover := none
  helpVisible : Bool := false
  fullscreen : Bool := false
deriving DecidableEq, Repr

/-- The notice posted when a snapshot is asked for while live. -/
def snapshotNeedsFreeze : String := "Snapshot is only available in PAUSE mode."

/-- The notice posted when a snapshot finds no sample in range. -/
def nothingVisible : String := "No data points visible in the current view."

/-- A running scope over a source of type `σ`, saving snapshots on a disk of type `δ`. -/
structure Session (σ δ : Type) where
  source : σ
  assembler : WordAssembler
  window : SampleWindow
  capture : Capture
  viewport : Viewport
  view : ViewState
  meter : ThroughputMeter
  notice : Option Notice
  bindings : KeyBindings
  snapshotDir : String
  disk : δ

namespace Session

variable {σ δ : Type} [SampleSource σ] [Files.Disk δ]

/-- A session starting at `now`. -/
def new (source : σ) (settings : SessionSettings) (now : Nat) (disk : δ) : Session σ δ :=
  let window := SampleWindow.zeros settings.sampleCount
  { source
    assembler := .empty
    window
    capture := Capture.forCapacity window.capacity
    viewport := Viewport.new window.capacity settings.initialYMax
    view := { autoScale := settings.autoScale }
    meter := ThroughputMeter.new now (SampleSource.bytesReceived source)
    notice := none
    bindings := KeyBindings.defaults
    snapshotDir := settings.snapshotDir
    disk }

/-- Replaces the key bindings. -/
def withKeyBindings (s : Session σ δ) (bindings : KeyBindings) : Session σ δ :=
  { s with bindings }

/-- Fits the vertical range to the window, when auto-scale is on and the range needs it. -/
def applyAutoScale (s : Session σ δ) : Session σ δ :=
  if !s.view.autoScale then s
  else match AutoScale.autoScale s.window s.viewport.y with
    | some r => { s with viewport := s.viewport.setY r }
    | none => s

/-- Takes samples in: into the window while live, into the backlog while frozen. -/
def ingest (s : Session σ δ) (samples : Array UInt32) : Session σ δ :=
  let (routed, capture, window) := s.capture.route s.window samples
  let s := { s with capture, window }
  if routed == .appended then s.applyAutoScale else s

/-- One step of the clock at `now`. -/
def tick (s : Session σ δ) (now : Nat) : Session σ δ :=
  let (got, source) := SampleSource.receiveAt s.source now
  let s := { s with source }
  let s := match got with
    | some bytes =>
      let (words, assembler) := s.assembler.feed bytes
      { s with assembler }.ingest words
    | none => s
  let s := if SampleSource.link s.source != .connected && s.assembler.pending.size > 0 then
      { s with assembler := s.assembler.reset }
    else s
  let s := { s with meter := (s.meter.update now (SampleSource.bytesReceived s.source)).2 }
  match s.notice with
  | some n => if n.isActive now then s else { s with notice := none }
  | none => s

/-- Posts a notice. -/
def notify (s : Session σ δ) (text : String) (now : Nat) : Session σ δ :=
  { s with notice := some ⟨text, now⟩ }

/-- Saves the samples in view to the snapshot directory, named by the local time `at_`; only
while frozen.  The outcome is posted as a notice. -/
def snapshot (s : Session σ δ) (now : Nat) (at_ : LocalTime) : Session σ δ :=
  if !s.capture.isFrozen then s.notify snapshotNeedsFreeze now
  else
    let (r, disk) := Snapshot.save s.disk s.window s.viewport.x s.snapshotDir at_
    let s := { s with disk }
    match r with
    | .ok (.written path _) => s.notify ("Snapshot saved to " ++ (Files.fileName? path).getD path) now
    | .ok .nothingVisible => s.notify nothingVisible now
    | .error f => s.notify ("Failed to save snapshot: " ++ f.message) now

/-- Turns auto-scale off, when live. -/
def disableAutoScaleIfLive (s : Session σ δ) : Session σ δ :=
  if !s.capture.isFrozen && s.view.autoScale then { s with view := { s.view with autoScale := false } }
  else s

/-- Freezes or resumes the display; resuming drops the inspected sample and rescales after a
replay. -/
def togglePause (s : Session σ δ) : Session σ δ :=
  let (t, capture, window) := s.capture.toggle s.window
  let s := { s with capture, window }
  match t with
  | .froze => s
  | .resumed n =>
    let s := { s with view := { s.view with hover := none } }
    if n > 0 then s.applyAutoScale else s

/-- Runs an action; tells whether the scope should stop. -/
def handleAction (s : Session σ δ) (a : Action) (now : Nat) (at_ : LocalTime) :
    Bool × Session σ δ :=
  let s := if a.isXNavigation then { s with view := { s.view with hover := none } } else s
  match a with
  | .togglePause => (false, s.togglePause)
  | .enableAutoScale => (false, { s with view := { s.view with autoScale := true } })
  | .snapshot => (false, s.snapshot now at_)
  | .zoomInX => (false, { s with viewport := s.viewport.zoomX zoomStep })
  | .zoomOutX => (false, { s with viewport := s.viewport.zoomX (1.0 / zoomStep) })
  | .panLeft => (false, { s with viewport := s.viewport.panX (-panStep) })
  | .panRight => (false, { s with viewport := s.viewport.panX panStep })
  | .resetX => (false, { s with viewport := s.viewport.resetX })
  | .toggleFullscreen => (false, { s with view := { s.view with fullscreen := !s.view.fullscreen } })
  | .toggleHelp => (false, { s with view := { s.view with helpVisible := !s.view.helpVisible } })
  | .quit => (true, s)

/-- Handles an event; tells whether the scope should stop. -/
def handleEvent (s : Session σ δ) (e : ScopeEvent) (now : Nat) (at_ : LocalTime) :
    Bool × Session σ δ :=
  match e with
  | .pointerMoved x _ =>
    (false, { s with view := { s.view with
      hover := if s.capture.isFrozen then s.window.probe x else none } })
  | .pointerLeft => (false, { s with view := { s.view with hover := none } })
  | .wheel d =>
    let s := s.disableAutoScaleIfLive
    (false, { s with viewport := s.viewport.zoomY (if d == .up then zoomStep else 1.0 / zoomStep) })
  | .button b => (false, if b.adjustsScale then s.disableAutoScaleIfLive else s)
  | .key k =>
    match s.bindings.get k with
    | some a => s.handleAction a now at_
    | none => (false, s)
  | .resized _ _ => (false, s)

/-- The notice still shown at `now`. -/
def activeNotice (s : Session σ δ) (now : Nat) : Option Notice :=
  s.notice.filter (·.isActive now)

/-- The status line at `now`. -/
def statusLine (s : Session σ δ) (now : Nat) : StatusLine :=
  StatusLine.format ⟨SampleSource.link s.source, s.capture.isFrozen, s.view.autoScale, s.meter.kbps,
    s.view.hover, s.notice, now⟩

/-- Closes the source. -/
def close (s : Session σ δ) : Session σ δ := { s with source := SampleSource.close s.source }

omit [SampleSource σ] in
theorem handleAction_quit (s : Session σ δ) (now : Nat) (at_ : LocalTime) :
    s.handleAction .quit now at_ = (true, s) := by
  simp [handleAction, Action.isXNavigation]

omit [SampleSource σ] in
theorem snapshot_live (s : Session σ δ) (now : Nat) (at_ : LocalTime)
    (h : s.capture.isFrozen = false) :
    s.snapshot now at_ = s.notify snapshotNeedsFreeze now := by
  simp [snapshot, h]

end Session

end WaveScope
