import WaveScope.Sample.Window

/-!
# The backlog

While the display is frozen, arriving samples wait in a `Backlog`: a queue with a limit that
keeps the newest samples and drops the oldest ones, counting every dropped sample.  Draining it
hands back all waiting samples, oldest first.

A push takes one of two paths: a batch at least as long as the limit replaces everything held
with its own last `limit` samples, and a shorter one is queued behind the samples held, after
which the oldest are dropped down to the limit.
-/

namespace WaveScope

/-- Samples waiting while the display is frozen, at most `limit` of them. -/
structure Backlog where
  samples : Array UInt32
  limit : Nat
  droppedTotal : UInt64
  limit_pos : 0 < limit

namespace Backlog

/-- The largest count a machine word holds. -/
def wordMax : Nat := Nat.pow 2 64 - 1

/-- An empty backlog that keeps at most `max limit 1` samples. -/
def withLimit (limit : Nat) : Backlog :=
  ⟨#[], max limit 1, 0, by omega⟩

/-- The backlog that goes with a window of `capacity` samples: ten windows' worth, the product
saturating at the largest machine word. -/
def forCapacity (capacity : Nat) : Backlog :=
  withLimit (min (max capacity 1 * 10) wordMax)

/-- How many samples wait. -/
def size (b : Backlog) : Nat := b.samples.size

/-- Queues a batch, dropping the oldest samples beyond the limit; returns how many were dropped
together with the new backlog. -/
def push (b : Backlog) (batch : Array UInt32) : Nat × Backlog :=
  if b.limit ≤ batch.size then
    -- the batch alone fills the backlog: everything held goes, and so do the batch's oldest
    -- samples beyond the limit
    let dropped := b.samples.size + (batch.size - b.limit)
    (dropped, { b with samples := batch.extract (batch.size - b.limit) batch.size,
                       droppedTotal := b.droppedTotal + dropped.toUInt64 })
  else
    let samples := b.samples ++ batch
    let excess := samples.size - b.limit
    if excess > 0 then
      (excess, { b with samples := samples.extract excess samples.size,
                        droppedTotal := b.droppedTotal + excess.toUInt64 })
    else (excess, { b with samples })

/-- Hands back every waiting sample, oldest first, and empties the backlog. -/
def drain (b : Backlog) : Array UInt32 × Backlog :=
  (b.samples, { b with samples := #[] })

theorem size_drain (b : Backlog) : (b.drain).2.size = 0 := rfl

end Backlog

end WaveScope
