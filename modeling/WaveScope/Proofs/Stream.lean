import Mathlib
import WaveScope.Proofs.Words

/-!
# The sample stream

What a scope has been given, read as one stream of samples, without any decoder state.  Bytes
arrive in reads.  The reads since the last cut make a piece, and the words of each piece, in
order, make the stream; a cut drops the unfinished word at the end of its piece.  Samples
handed over directly enter the stream where they are handed over: after every word completed
before, before every word completed after.

`SampleStream` is that description made incremental: `piece` holds the bytes since the last
cut and `samples` the stream so far.  A read appends the words of the piece it completes, as
`decodeWords` of the whole piece gives them.

**Main statements.**  `feedAll_bytes` says reads with no cut between them add the words of
their concatenation; `feedAll_cut` says a cut splits the stream into the streams of its two
sides, the second one started afresh.
-/

namespace WaveScope

/-- One event of the stream. -/
inductive Feed where
  /-- A read of bytes. -/
  | bytes (chunk : Array UInt8)
  /-- The end of a piece: its unfinished word is dropped. -/
  | cut
  /-- Samples handed over directly. -/
  | samples (xs : Array UInt32)

/-- The stream so far, with the bytes read since the last cut. -/
structure SampleStream where
  piece : Array UInt8 := #[]
  samples : Array UInt32 := #[]

/-- The words `decodeWords` finds in `piece ++ c` beyond those it finds in `piece`. -/
lemma decodeWords_append_drop (piece c : Array UInt8) :
    decodeWords (piece ++ c) =
      decodeWords piece ++ (decodeWords (piece ++ c)).drop (piece.size / 4) := by
  rw [← decodeWords_append_keepLast piece c, drop_append_of_size_eq _ (size_decodeWords piece)]

/-- The words past `p` in `p ++ c ++ r` are those past `p` in `p ++ c`, then those past
`p ++ c`. -/
lemma drop_decodeWords_append (p c r : Array UInt8) :
    (decodeWords (p ++ c ++ r)).drop (p.size / 4) =
      (decodeWords (p ++ c)).drop (p.size / 4) ++
        (decodeWords (p ++ c ++ r)).drop ((p ++ c).size / 4) := by
  calc (decodeWords (p ++ c ++ r)).drop (p.size / 4)
      = (decodeWords p ++ ((decodeWords (p ++ c)).drop (p.size / 4) ++
          (decodeWords (p ++ c ++ r)).drop ((p ++ c).size / 4))).drop (p.size / 4) := by
        rw [← Array.append_assoc, ← decodeWords_append_drop p c, ← decodeWords_append_drop]
    _ = _ := drop_append_of_size_eq _ (size_decodeWords p)

namespace SampleStream

/-- Adds one event to the stream. -/
def feed (t : SampleStream) : Feed → SampleStream
  | .bytes c =>
    ⟨t.piece ++ c, t.samples ++ (decodeWords (t.piece ++ c)).drop (t.piece.size / 4)⟩
  | .cut => ⟨#[], t.samples⟩
  | .samples xs => ⟨t.piece, t.samples ++ xs⟩

/-- Adds the events in order. -/
def feedAll (t : SampleStream) (fs : List Feed) : SampleStream := fs.foldl feed t

@[simp] lemma feedAll_nil (t : SampleStream) : t.feedAll [] = t := rfl

@[simp] lemma feedAll_cons (t : SampleStream) (f : Feed) (fs : List Feed) :
    t.feedAll (f :: fs) = (t.feed f).feedAll fs := rfl

lemma feedAll_append (t : SampleStream) (fs gs : List Feed) :
    t.feedAll (fs ++ gs) = (t.feedAll fs).feedAll gs := by
  simp [feedAll, List.foldl_append]

/-! ## A piece decodes as a whole -/

/-- **Reads add the words of their concatenation.**  Reads with no cut between them add to the
stream the words of the piece and all the reads that the piece alone did not complete. -/
theorem feedAll_bytes (t : SampleStream) (cs : List (Array UInt8)) :
    t.feedAll (cs.map .bytes) =
      ⟨t.piece ++ cs.toArray.flatten,
        t.samples ++ (decodeWords (t.piece ++ cs.toArray.flatten)).drop (t.piece.size / 4)⟩ := by
  induction cs generalizing t with
  | nil =>
    have hwhole : (decodeWords t.piece).drop (t.piece.size / 4) = #[] := by
      apply Array.ext'
      simp
    simp [hwhole]
  | cons c cs ih =>
    obtain ⟨p, xs⟩ := t
    have hjoin : (c :: cs).toArray.flatten = c ++ cs.toArray.flatten := by
      apply Array.ext'
      simp
    rw [List.map_cons, feedAll_cons, ih, hjoin]
    simp only [feed, ← Array.append_assoc]
    rw [drop_decodeWords_append p c]
    simp only [Array.append_assoc]

/-! ## Cuts split the stream -/

/-- The stream after an event does not depend on what came before the piece. -/
lemma feed_prepend (xs : Array UInt32) (t : SampleStream) (f : Feed) :
    ({ t with samples := xs ++ t.samples } : SampleStream).feed f =
      { t.feed f with samples := xs ++ (t.feed f).samples } := by
  cases f <;> simp [feed, Array.append_assoc]

lemma feedAll_prepend (xs : Array UInt32) (t : SampleStream) (fs : List Feed) :
    ({ t with samples := xs ++ t.samples } : SampleStream).feedAll fs =
      { t.feedAll fs with samples := xs ++ (t.feedAll fs).samples } := by
  induction fs generalizing t with
  | nil => rfl
  | cons f fs ih => rw [feedAll_cons, feed_prepend, ih, feedAll_cons]

/-- **A cut splits the stream.**  The stream of events around a cut is the stream of the events
before it followed by the stream of those after it, started with no piece. -/
theorem feedAll_cut (t : SampleStream) (fs gs : List Feed) :
    t.feedAll (fs ++ .cut :: gs) =
      { ({} : SampleStream).feedAll gs with
        samples := (t.feedAll fs).samples ++ (({} : SampleStream).feedAll gs).samples } := by
  have hcut : (t.feedAll fs).feed .cut =
      ({ ({} : SampleStream) with samples := (t.feedAll fs).samples ++ #[] } : SampleStream) := by
    simp [feed]
  rw [feedAll_append, feedAll_cons, hcut, feedAll_prepend]

end SampleStream

end WaveScope
