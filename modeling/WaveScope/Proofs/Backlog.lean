import Mathlib
import WaveScope.Proofs.Window

/-!
# The backlog keeps the newest samples and accounts for every one

A backlog is driven by two calls: `push` a batch, which reports how many old samples it had to
drop, and `drain`, which hands back everything waiting.  Measured against an unbounded queue
that only forgets at a drain, the backlog holds the last `limit` samples of that queue, a push
reports the overflow of what was held plus the batch, and a drain hands back exactly what was
held.  Nothing is lost without being counted: every sample pushed was dropped, drained, or still
waits.

* `BacklogCall.sinceDrain` is the unbounded queue; `BacklogCall.replies` is what a queue that
  keeps its last `limit` samples answers.
* `exec_push` and `exec_drain` say once what a call does, relative to the queue.
* `runCalls_keeps_last` carries them over any run, from any backlog that holds the last `limit`
  samples of some queue.

**Main statement.**  `backlog_keeps_last_and_counts`: from an empty backlog with any limit
(a backlog made for a window's capacity is one of these), every run holds at most `limit`
samples, holds the last ones pushed since the last drain, answers as the queue does, counts its
drops in `droppedTotal` and conserves the samples.
-/

namespace WaveScope

/-- A call on a backlog. -/
inductive BacklogCall where
  | push (batch : Array UInt32)
  | drain
deriving DecidableEq

/-- What a call hands back: how many samples a push dropped, or what a drain took out. -/
inductive BacklogReply where
  | dropped (n : Nat)
  | drained (samples : Array UInt32)
deriving DecidableEq

namespace BacklogCall

/-- How many samples a call pushes. -/
def pushedCount : BacklogCall → Nat
  | .push batch => batch.size
  | .drain => 0

/-- The unbounded queue after a call: a push appends its batch, a drain empties it. -/
def after (q : Array UInt32) : BacklogCall → Array UInt32
  | .push batch => q ++ batch
  | .drain => #[]

/-- The answer of a queue that holds the last `limit` samples of the unbounded queue `q`: a push
reports how far what it held and the batch overflow the limit, a drain hands back what it held. -/
def answer (limit : Nat) (q : Array UInt32) : BacklogCall → BacklogReply
  | .push batch => .dropped ((keepLast limit q).size + batch.size - limit)
  | .drain => .drained (keepLast limit q)

/-- How many samples the calls push. -/
def pushed (ks : List BacklogCall) : Nat := (ks.map pushedCount).sum

/-- The unbounded queue after the calls, starting from `q`: everything pushed since the last
drain. -/
def sinceDrain (q : Array UInt32) (ks : List BacklogCall) : Array UInt32 := ks.foldl after q

/-- The answers of a queue that keeps the last `limit` samples of the unbounded queue. -/
def replies (limit : Nat) (q : Array UInt32) : List BacklogCall → List BacklogReply
  | [] => []
  | k :: ks => answer limit q k :: replies limit (after q k) ks

end BacklogCall

namespace BacklogReply

/-- How many samples a reply says were dropped. -/
def droppedCount : BacklogReply → Nat
  | .dropped n => n
  | .drained _ => 0

/-- How many samples a reply hands back. -/
def drainedCount : BacklogReply → Nat
  | .dropped _ => 0
  | .drained xs => xs.size

/-- The samples the pushes report dropped. -/
def totalDropped (rs : List BacklogReply) : Nat := (rs.map droppedCount).sum

/-- The samples the drains hand back. -/
def totalDrained (rs : List BacklogReply) : Nat := (rs.map drainedCount).sum

end BacklogReply

namespace Backlog

open BacklogCall BacklogReply

/-- Makes one call. -/
def exec (b : Backlog) : BacklogCall → BacklogReply × Backlog
  | .push batch => (.dropped (b.push batch).1, (b.push batch).2)
  | .drain => (.drained b.drain.1, b.drain.2)

/-- Makes the calls in order, collecting the replies. -/
def runCalls (b : Backlog) : List BacklogCall → List BacklogReply × Backlog
  | [] => ([], b)
  | k :: ks => ((b.exec k).1 :: ((b.exec k).2.runCalls ks).1, ((b.exec k).2.runCalls ks).2)

@[simp] lemma runCalls_nil (b : Backlog) : b.runCalls [] = ([], b) := rfl

@[simp] lemma runCalls_cons (b : Backlog) (k : BacklogCall) (ks : List BacklogCall) :
    b.runCalls (k :: ks) =
      ((b.exec k).1 :: ((b.exec k).2.runCalls ks).1, ((b.exec k).2.runCalls ks).2) := rfl

/-! ## One call -/

variable {b : Backlog} {q : Array UInt32}

/-- **One call, against the queue.**  If the backlog holds the last `limit` samples of `q`, a call
answers as the queue does, keeps the limit, and leaves the backlog holding the last `limit`
samples of the queue after the call; the drop count grows by what the call reports; and the
samples held before plus those pushed are those dropped, handed back, or held after. -/
lemma exec_holds (k : BacklogCall) (hq : b.samples = keepLast b.limit q) :
    (b.exec k).1 = answer b.limit q k ∧ (b.exec k).2.limit = b.limit ∧
      (b.exec k).2.samples = keepLast b.limit (after q k) ∧
      (b.exec k).2.droppedTotal = b.droppedTotal + (b.exec k).1.droppedCount.toUInt64 ∧
      b.size + k.pushedCount =
        (b.exec k).1.droppedCount + (b.exec k).1.drainedCount + (b.exec k).2.size := by
  have hheld : (keepLast b.limit q).size = b.size := by rw [size, hq]
  cases k with
  | push batch =>
    have hsize : (b.push batch).2.size = min b.limit (b.size + batch.size) := by
      simp [size, samples_push, size_keepLast]
    refine ⟨?_, limit_push b batch, ?_, ?_, ?_⟩
    · simp only [exec, answer, dropped_push, hheld]
    · -- cutting to `limit` before the batch arrives is invisible to the cut after it
      simp only [exec, after, samples_push, hq]
      exact keepLast_keepLast_append q batch (by omega)
    · simp only [exec, droppedCount, droppedTotal_push]
    · simp only [exec, pushedCount, droppedCount, drainedCount, dropped_push, hsize]
      omega
  | drain =>
    refine ⟨?_, rfl, ?_, ?_, ?_⟩
    · simp [exec, answer, drain, hq]
    · simp [exec, after, drain]
    · simp [exec, droppedCount, drain]
    · -- the drain hands back every sample held
      simp [exec, pushedCount, droppedCount, drainedCount, drain, size]

/-! ## Any run -/

/-- **The backlog over a run.**  From a backlog that holds the last `limit` samples of a queue
`q`, any run answers as the queue does, holds the last `limit` samples of the queue at the end,
adds exactly the reported drops to `droppedTotal`, and accounts for every sample: those held at
the start and those pushed were dropped, drained, or are held at the end. -/
theorem runCalls_keeps_last (ks : List BacklogCall) (hq : b.samples = keepLast b.limit q) :
    (b.runCalls ks).1 = replies b.limit q ks ∧
      (b.runCalls ks).2.limit = b.limit ∧
      (b.runCalls ks).2.samples = keepLast b.limit (sinceDrain q ks) ∧
      (b.runCalls ks).2.droppedTotal = b.droppedTotal + (totalDropped (b.runCalls ks).1).toUInt64 ∧
      b.size + pushed ks =
        totalDropped (b.runCalls ks).1 + totalDrained (b.runCalls ks).1 + (b.runCalls ks).2.size := by
  induction ks generalizing b q with
  | nil => simp [replies, sinceDrain, hq, totalDropped, totalDrained, pushed]
  | cons k ks ih =>
    obtain ⟨hr, hl, hs, hd, hn⟩ := exec_holds k hq
    -- the rest of the run starts from a backlog that holds the last samples of `after q k`
    obtain ⟨ihr, ihl, ihs, ihd, ihn⟩ := ih (b := (b.exec k).2) (hl ▸ hs)
    rw [hl] at ihr ihl ihs
    refine ⟨?_, ?_, ?_, ?_, ?_⟩
    · simp only [runCalls_cons, hr, ihr, replies]
    · simp only [runCalls_cons, ihl]
    · simp only [runCalls_cons, ihs, sinceDrain, List.foldl_cons]
    · -- the call's own drops come first, then those of the rest of the run
      simp only [runCalls_cons, ihd, hd, totalDropped, List.map_cons, List.sum_cons,
        UInt64.add_assoc, UInt64.ofNat_add]
    · simp only [runCalls_cons, totalDropped, totalDrained, pushed, List.map_cons,
        List.sum_cons] at ihn ⊢
      omega

/-- **The backlog keeps the newest samples and counts the rest.**  For every limit `l` and every
run of pushes and drains from `withLimit l`: the limit is `max l 1`; the backlog never holds more
than that; it holds the last `max l 1` samples pushed since the last drain; each push reports
what it dropped (what was held plus the batch, less the limit) and each drain hands back what
was held, as the unbounded queue `replies` says; `droppedTotal` is the sum of the reported
drops, as a machine word; and the samples pushed are the samples dropped, drained, or still
held. -/
theorem backlog_keeps_last_and_counts (l : Nat) (ks : List BacklogCall) :
    ((withLimit l).runCalls ks).2.limit = max l 1 ∧
      ((withLimit l).runCalls ks).2.size ≤ ((withLimit l).runCalls ks).2.limit ∧
      ((withLimit l).runCalls ks).2.samples = keepLast (max l 1) (sinceDrain #[] ks) ∧
      ((withLimit l).runCalls ks).1 = replies (max l 1) #[] ks ∧
      ((withLimit l).runCalls ks).2.droppedTotal =
        (totalDropped ((withLimit l).runCalls ks).1).toUInt64 ∧
      pushed ks = totalDropped ((withLimit l).runCalls ks).1 +
        totalDrained ((withLimit l).runCalls ks).1 + ((withLimit l).runCalls ks).2.size := by
  have hq : (withLimit l).samples = keepLast (withLimit l).limit #[] := by simp [withLimit]
  obtain ⟨hr, hl, hs, hd, hn⟩ := runCalls_keeps_last (b := withLimit l) ks hq
  have hlim : (withLimit l).limit = max l 1 := rfl
  rw [hlim] at hr hl hs
  refine ⟨hl, ?_, hs, hr, ?_, ?_⟩
  · simp only [size, hs, hl, size_keepLast]
    omega
  · rw [hd]
    simp [withLimit]
  · simpa [withLimit, size] using hn

/-- An overflowing push keeps the newest samples and reports the two it dropped. -/
example :
    ((withLimit 4).runCalls [.push #[1, 2, 3], .push #[4, 5, 6]]).1 = [.dropped 0, .dropped 2] ∧
      ((withLimit 4).runCalls [.push #[1, 2, 3], .push #[4, 5, 6]]).2.samples = #[3, 4, 5, 6] := by
  decide

end Backlog

end WaveScope
