/-!
# Throughput

The received-bytes rate in kB/s (1 kB = 1024 bytes), recomputed once at least a second has passed
since the window started.  Time going backwards counts as no time, and a byte total that shrank
counts as no bytes.

**Main statements.**  `update_of_lt` says nothing changes within a second; `update_of_ge` says
a recomputation restarts the window at the new instant and total.
-/

namespace WaveScope

/-- A window of time that ends in a recomputation, and the last rate. -/
structure ThroughputMeter where
  windowStart : Nat
  bytesAtStart : Nat
  kbps : Float

namespace ThroughputMeter

/-- A meter starting at `now` with `total` bytes already received. -/
def new (now total : Nat) : ThroughputMeter := ⟨now, total, 0.0⟩

/-- A duration in milliseconds as seconds: whole seconds plus the nanoseconds over a billion. -/
def seconds (ms : Nat) : Float :=
  Float.ofNat (ms / 1000) + Float.ofNat (ms % 1000 * 1000000) / 1000000000.0

/-- Recomputes the rate when a second or more has passed; tells whether it did. -/
def update (m : ThroughputMeter) (now total : Nat) : Bool × ThroughputMeter :=
  let elapsed := now - m.windowStart
  if elapsed < 1000 then (false, m)
  else
    let delta := total - m.bytesAtStart
    (true, ⟨now, total, Float.ofNat delta / 1024.0 / seconds elapsed⟩)

theorem update_of_lt (m : ThroughputMeter) (now total : Nat) (h : now - m.windowStart < 1000) :
    m.update now total = (false, m) := by
  simp [update, h]

theorem update_of_ge (m : ThroughputMeter) (now total : Nat) (h : ¬ now - m.windowStart < 1000) :
    (m.update now total).1 = true ∧ (m.update now total).2.windowStart = now ∧
      (m.update now total).2.bytesAtStart = total := by
  simp [update, h]

end ThroughputMeter

end WaveScope
