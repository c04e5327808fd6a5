import WaveScope.Sample.Backlog

/-!
# Live and frozen capture

The display either follows the stream (`live`) or holds still (`frozen`).  While live, every
non-empty batch goes straight into the sample window; while frozen, batches wait in the backlog.
Unfreezing replays the backlog into the window in arrival order.

**Main statements.**  `route_live` and `route_frozen` say where a non-empty batch goes in each
mode; `toggle_frozen` says that unfreezing empties the backlog into the window.
-/

namespace WaveScope

/-- Whether the display follows the stream. -/
inductive CaptureMode where
  | live
  | frozen
deriving DecidableEq, Repr

/-- Where a batch went. -/
inductive Routed where
  | empty
  | appended
  | buffered (dropped : Nat)
deriving DecidableEq, Repr

/-- What a toggle did. -/
inductive Transition where
  | froze
  | resumed (replayed : Nat)
deriving DecidableEq, Repr

/-- The capture mode together with the samples that wait while frozen. -/
structure Capture where
  mode : CaptureMode
  backlog : Backlog

namespace Capture

/-- A live capture whose backlog suits a window of `capacity` samples. -/
def forCapacity (capacity : Nat) : Capture :=
  ⟨.live, Backlog.forCapacity capacity⟩

/-- The capture is frozen. -/
def isFrozen (c : Capture) : Bool := c.mode == .frozen

/-- Sends a batch to the window (live) or to the backlog (frozen); an empty batch goes nowhere. -/
def route (c : Capture) (w : SampleWindow) (batch : Array UInt32) :
    Routed × Capture × SampleWindow :=
  if batch.isEmpty then (.empty, c, w)
  else match c.mode with
    | .live => (.appended, c, w.append batch)
    | .frozen =>
      let (dropped, backlog) := c.backlog.push batch
      (.buffered dropped, { c with backlog }, w)

/-- Freezes a live capture, or unfreezes a frozen one and replays its backlog into the window. -/
def toggle (c : Capture) (w : SampleWindow) : Transition × Capture × SampleWindow :=
  match c.mode with
  | .live => (.froze, { c with mode := .frozen }, w)
  | .frozen =>
    let (replay, backlog) := c.backlog.drain
    (.resumed replay.size, ⟨.live, backlog⟩, w.append replay)

theorem route_live (c : Capture) (w : SampleWindow) (batch : Array UInt32)
    (hb : batch.isEmpty = false) (hm : c.mode = .live) :
    c.route w batch = (.appended, c, w.append batch) := by
  simp [route, hb, hm]

theorem route_frozen (c : Capture) (w : SampleWindow) (batch : Array UInt32)
    (hb : batch.isEmpty = false) (hm : c.mode = .frozen) :
    (c.route w batch).2.2 = w := by
  simp [route, hb, hm]

theorem toggle_frozen (c : Capture) (w : SampleWindow) (hm : c.mode = .frozen) :
    c.toggle w = (.resumed c.backlog.samples.size, ⟨.live, c.backlog.drain.2⟩,
      w.append c.backlog.samples) := by
  simp [toggle, hm, Backlog.drain]

end Capture

end WaveScope
