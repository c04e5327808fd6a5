import WaveScope.Net.LinkState

/-!
# Sample sources

Where a session's bytes come from.  A source is polled with the current time and may hand over
the bytes read since the last poll; it reports its link state and how many bytes it has
received in all, and can be closed.

`Replay` is a source that hands over reads queued in advance, one per poll, whatever its link
state; its byte count saturates at `2 ^ 64 - 1`.

**Main statements.**  `Replay.receive_count` says a replayed read is counted.
-/

namespace WaveScope

/-- A source of sample bytes. -/
class SampleSource (σ : Type) where
  /-- Polls the source at a time (ms): the bytes read, if any, and the source after. -/
  receiveAt : σ → Nat → Option (Array UInt8) × σ
  /-- The state of the link to the server. -/
  link : σ → LinkState
  /-- The bytes received since the source was made. -/
  bytesReceived : σ → Nat
  /-- Closes the source. -/
  close : σ → σ
  /-- The source has been closed. -/
  closed : σ → Bool

/-- The largest byte count. -/
def byteCountLimit : Nat := Nat.pow 2 64 - 1

/-- A source replaying queued reads. -/
structure Replay where
  queue : List (Array UInt8) := []
  link : LinkState := .connected
  received : Nat := 0
  isClosed : Bool := false
deriving Repr

namespace Replay

/-- Queues a read. -/
def push (r : Replay) (bytes : Array UInt8) : Replay := { r with queue := r.queue ++ [bytes] }

/-- Counts bytes received without data. -/
def count (r : Replay) (n : Nat) : Replay := { r with received := min (r.received + n) byteCountLimit }

/-- Hands over the next queued read. -/
def receive (r : Replay) : Option (Array UInt8) × Replay :=
  match r.queue with
  | [] => (none, r)
  | b :: rest => (some b, { r with queue := rest }.count b.size)

theorem receive_count (r : Replay) (b : Array UInt8) (rest : List (Array UInt8))
    (h : r.queue = b :: rest) : r.receive.2.received = min (r.received + b.size) byteCountLimit := by
  simp [receive, h, count]

end Replay

instance : SampleSource Replay where
  receiveAt r _ := r.receive
  link r := r.link
  bytesReceived r := r.received
  close r := { r with link := .disconnected, isClosed := true }
  closed r := r.isClosed

end WaveScope
