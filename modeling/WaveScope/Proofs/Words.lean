import Mathlib
import WaveScope.Sample.Words
import WaveScope.Proofs.Window

/-!
# Reassembling words across reads

A `WordAssembler` is fed the stream one read at a time, and reads cut words anywhere: inside a
word, at a word boundary, or not at all (an empty read).  This file shows that the cuts are
invisible.

* `decodeWordList_append` and `decodeWordList_append_trailing` are the two facts about the
  stateless decoder that carry everything: words decode independently once the first part is
  whole words, and otherwise only its trailing partial word is carried over.
* `feed_fst` and `feed_pending` describe one read: it yields the words of the held bytes and the
  read together, and keeps their trailing partial word.
* `feed_feed` says two reads in a row act as one read of their concatenation, and
  `feedAll_eq_feed` extends that to any number of reads.

**Main statement.**  `feedAll_refines_decodeWords`: fed any list of chunks from a fresh or reset
assembler, the words come out as `decodeWords` of the joined chunks, and what is held is the
trailing `size % 4` bytes of the stream so far.
-/

namespace WaveScope

/-! ## Words of a byte list -/

lemma decodeWordList_of_length_lt {bs : List UInt8} (h : bs.length < 4) :
    decodeWordList bs = [] := by
  match bs, h with
  | [], _ | [_], _ | [_, _], _ | [_, _, _], _ => rfl

/-- Once the first part is whole words, the two parts decode independently. -/
theorem decodeWordList_append :
    ∀ {xs : List UInt8}, xs.length % 4 = 0 → ∀ ys : List UInt8,
      decodeWordList (xs ++ ys) = decodeWordList xs ++ decodeWordList ys
  | b0 :: b1 :: b2 :: b3 :: rest, h, ys => by
      have hrest : rest.length % 4 = 0 := by simp only [List.length_cons] at h; omega
      simp only [List.cons_append, decodeWordList, decodeWordList_append hrest ys]
  | [], _, _ => rfl
  | [_], h, _ | [_, _], h, _ | [_, _, _], h, _ => by simp at h

/-- The trailing partial word contributes nothing. -/
lemma decodeWordList_take_whole (xs : List UInt8) :
    decodeWordList (xs.take (xs.length - xs.length % 4)) = decodeWordList xs := by
  have hw : (xs.take (xs.length - xs.length % 4)).length % 4 = 0 := by simp; omega
  have hshort : decodeWordList (xs.drop (xs.length - xs.length % 4)) = [] :=
    decodeWordList_of_length_lt (by simp; omega)
  conv => rhs; rw [← List.take_append_drop (xs.length - xs.length % 4) xs,
    decodeWordList_append hw, hshort, List.append_nil]

/-- **Carrying the partial word.**  Decoding a stream in two parts is decoding the first part
and then its trailing partial word followed by the second. -/
theorem decodeWordList_append_trailing (xs ys : List UInt8) :
    decodeWordList (xs ++ ys) =
      decodeWordList xs ++ decodeWordList (xs.drop (xs.length - xs.length % 4) ++ ys) := by
  have hw : (xs.take (xs.length - xs.length % 4)).length % 4 = 0 := by simp; omega
  calc decodeWordList (xs ++ ys)
      = decodeWordList (xs.take (xs.length - xs.length % 4) ++
          (xs.drop (xs.length - xs.length % 4) ++ ys)) := by
        rw [← List.append_assoc, List.take_append_drop]
    _ = decodeWordList (xs.take (xs.length - xs.length % 4)) ++
          decodeWordList (xs.drop (xs.length - xs.length % 4) ++ ys) :=
        decodeWordList_append hw _
    _ = _ := by rw [decodeWordList_take_whole]

@[simp] theorem length_decodeWordList :
    ∀ bs : List UInt8, (decodeWordList bs).length = bs.length / 4
  | b0 :: b1 :: b2 :: b3 :: rest => by
      simp only [decodeWordList, List.length_cons, length_decodeWordList rest]
      omega
  | [] | [_] | [_, _] | [_, _, _] => by simp [decodeWordList]

@[simp] lemma toList_decodeWords (bytes : Array UInt8) :
    (decodeWords bytes).toList = decodeWordList bytes.toList := by
  simp [decodeWords]

@[simp] lemma size_decodeWords (bytes : Array UInt8) :
    (decodeWords bytes).size = bytes.size / 4 := by
  rw [← Array.length_toList, toList_decodeWords, length_decodeWordList, Array.length_toList]

/-! ## The byte format, both ways -/

@[simp] lemma length_encodeWords (ws : List UInt32) : (encodeWords ws).length = 4 * ws.length := by
  induction ws with
  | nil => rfl
  | cons w ws ih =>
    simp only [encodeWords, List.flatMap_cons, List.length_append, bytesOfWord] at ih ⊢
    simp only [List.length_cons, List.length_nil, ih]
    omega

/-- The bytes of the word made of four bytes are those four bytes. -/
lemma bytesOfWord_wordOfBytes (b0 b1 b2 b3 : UInt8) :
    bytesOfWord (wordOfBytes b0 b1 b2 b3) = [b0, b1, b2, b3] := by
  have h0 := b0.toNat_lt
  have h1 := b1.toNat_lt
  have h2 := b2.toNat_lt
  have h3 := b3.toNat_lt
  -- the four bytes fit in 32 bits, so the word's number is their weighted sum
  have hsum : (wordOfBytes b0 b1 b2 b3).toNat =
      b0.toNat + 2 ^ 8 * b1.toNat + 2 ^ 16 * b2.toNat + 2 ^ 24 * b3.toNat := by
    simp only [wordOfBytes, UInt32.toNat_ofNat', Nat.pow_eq]
    omega
  simp only [bytesOfWord, hsum, List.cons.injEq, and_true, Nat.pow_eq]
  refine ⟨?_, ?_, ?_, ?_⟩ <;> apply UInt8.toNat_inj.mp <;> simp only [UInt8.toNat_ofNat'] <;>
    omega

/-- Whole words followed by a partial word decode to the words. -/
lemma decodeWordList_encodeWords_append (ws : List UInt32) {t : List UInt8} (ht : t.length < 4) :
    decodeWordList (encodeWords ws ++ t) = ws := by
  have hwhole : (encodeWords ws).length % 4 = 0 := by simp
  rw [decodeWordList_append hwhole, decodeWords_encodeWords, decodeWordList_of_length_lt ht,
    List.append_nil]

/-- Encoding the words of a byte list gives the list up to its last whole word. -/
theorem encodeWords_decodeWordList :
    ∀ bs : List UInt8, encodeWords (decodeWordList bs) = bs.take (4 * (bs.length / 4))
  | b0 :: b1 :: b2 :: b3 :: rest => by
      have hlen : 4 * ((rest.length + 1 + 1 + 1 + 1) / 4) = 4 * (rest.length / 4) + 1 + 1 + 1 + 1 := by
        omega
      have ih := encodeWords_decodeWordList rest
      simp only [encodeWords] at ih
      simp only [decodeWordList, encodeWords, List.flatMap_cons, bytesOfWord_wordOfBytes,
        List.length_cons, hlen, List.take_succ_cons, ih, List.cons_append, List.nil_append]
  | [] | [_] | [_, _] | [_, _, _] => by simp [decodeWordList, encodeWords]

/-- **The wire format.**  Decoding inverts little-endian encoding: the bytes of any words,
followed by fewer than four more bytes, decode to exactly those words; and the words decoded
from any bytes encode back to those bytes, cut at their last whole word.  Every word value takes
part, the high bit and `0xFFFFFFFF` included, and every length of the input. -/
theorem decodeWords_encodeWords_inverse :
    (∀ (ws : List UInt32) (t : List UInt8), t.length < 4 →
      decodeWords (encodeWords ws ++ t).toArray = ws.toArray) ∧
    ∀ bytes : Array UInt8,
      encodeWords (decodeWords bytes).toList = bytes.toList.take (4 * (bytes.size / 4)) := by
  refine ⟨fun ws t ht => ?_, fun bytes => ?_⟩
  · apply Array.ext'
    rw [toList_decodeWords, List.toList_toArray, decodeWordList_encodeWords_append ws ht]
  · rw [toList_decodeWords, encodeWords_decodeWordList, Array.length_toList]

/-- The largest word and the high bit alone survive a trailing partial word. -/
theorem decodeWords_encodeWords_inverse_extremes :
    [0xAA, 0xBB, 0xCC].length < 4 ∧
      decodeWords (encodeWords [0xFFFFFFFF, 0x80000000] ++ [0xAA, 0xBB, 0xCC]).toArray =
        [0xFFFFFFFF, 0x80000000].toArray :=
  ⟨by decide, decodeWords_encodeWords_inverse.1 _ _ (by decide)⟩

/-- The array form of `decodeWordList_append_trailing`, with the partial word as `keepLast`. -/
lemma decodeWords_append_keepLast (xs ys : Array UInt8) :
    decodeWords xs ++ decodeWords (keepLast (xs.size % 4) xs ++ ys) = decodeWords (xs ++ ys) := by
  apply Array.ext'
  simp only [Array.toList_append, toList_decodeWords, toList_keepLast,
    decodeWordList_append_trailing xs.toList ys.toList, Array.length_toList]

/-- The array form of `decodeWordList_append`. -/
lemma decodeWords_append {xs : Array UInt8} (h : xs.size % 4 = 0) (ys : Array UInt8) :
    decodeWords (xs ++ ys) = decodeWords xs ++ decodeWords ys := by
  apply Array.ext'
  simp only [Array.toList_append, toList_decodeWords]
  exact decodeWordList_append (by simpa using h) _

/-! ## One read, then many -/

/-- The remainder of splitting into groups of four is what follows the last whole group. -/
lemma wordRemainder_eq_drop :
    ∀ bs : List UInt8, wordRemainder bs = bs.drop (bs.length - bs.length % 4)
  | b0 :: b1 :: b2 :: b3 :: rest => by
      have hlen : (rest.length + 4) - (rest.length + 4) % 4 = rest.length - rest.length % 4 + 4 := by
        omega
      simp only [wordRemainder, List.length_cons, wordRemainder_eq_drop rest,
        show rest.length + 1 + 1 + 1 + 1 = rest.length + 4 by omega, hlen, List.drop_succ_cons]
  | [] | [_] | [_, _] | [_, _, _] => by simp [wordRemainder]

/-- As an array, the held remainder is the cut to `size % 4`. -/
lemma toArray_wordRemainder (bytes : Array UInt8) :
    (wordRemainder bytes.toList).toArray = keepLast (bytes.size % 4) bytes := by
  apply Array.ext'
  rw [List.toList_toArray, wordRemainder_eq_drop, toList_keepLast, Array.length_toList]

/-- Four bytes decode to their one word. -/
lemma decodeWords_of_size_four {bytes : Array UInt8} (h : bytes.size = 4) :
    decodeWords bytes = #[firstWord bytes (by omega)] := by
  rcases bytes with ⟨l⟩
  match l, h with
  | [b0, b1, b2, b3], _ => rfl

namespace WordAssembler

lemma ext_pending {a b : WordAssembler} (h : a.pending = b.pending) : a = b := by
  cases a
  cases b
  subst h
  rfl

/-- When the chunk cannot complete the held word, the held bytes and the chunk are fewer than
four, and the chunk was taken whole. -/
lemma short_read {p c : Array UInt8} (hp : p.size < 4)
    (h : (p ++ c.extract 0 (min (4 - p.size) c.size)).size < 4) :
    (p ++ c).size < 4 ∧ c.extract 0 (min (4 - p.size) c.size) = c := by
  have hc : c.size < 4 - p.size := by simp at h; omega
  refine ⟨by simp; omega, ?_⟩
  rw [Nat.min_eq_right (by omega)]
  exact Array.extract_size

/-- When it can, the held bytes and the chunk split into the completed word and the rest. -/
lemma completed_read {p c : Array UInt8} (hp : p.size < 4)
    (h : ¬ (p ++ c.extract 0 (min (4 - p.size) c.size)).size < 4) :
    (p ++ c.extract 0 (4 - p.size)).size = 4 ∧
      p ++ c = (p ++ c.extract 0 (4 - p.size)) ++ c.extract (4 - p.size) c.size ∧
      min (4 - p.size) c.size = 4 - p.size := by
  have hc : 4 - p.size ≤ c.size := by simp at h; omega
  refine ⟨by simp; omega, ?_, Nat.min_eq_left hc⟩
  rw [Array.append_assoc, Array.extract_append_extract, Nat.min_eq_left (Nat.zero_le _),
    Nat.max_eq_right hc, Array.extract_size]

/-- **A read yields the words of the held bytes followed by the read**, on each path: with no
held bytes, the words of the chunk; when the chunk cannot complete the held word, none, as the
two together are shorter than a word; otherwise the completed word, then the words of the rest
of the chunk. -/
theorem feed_fst (a : WordAssembler) (chunk : Array UInt8) :
    (a.feed chunk).1 = decodeWords (a.pending ++ chunk) := by
  have hp := a.pending_lt
  unfold feed
  split
  · rename_i hempty
    rw [Array.isEmpty_iff.mp hempty, Array.empty_append]
  dsimp only
  split
  · rename_i hshort
    obtain ⟨hlt, -⟩ := short_read hp hshort
    apply Array.ext'
    rw [toList_decodeWords, decodeWordList_of_length_lt (by simpa using hlt)]
  · rename_i hlong
    obtain ⟨hfour, hsplit, htake⟩ := completed_read hp hlong
    have hwhole := decodeWords_append
      (show (a.pending ++ chunk.extract 0 (4 - a.pending.size)).size % 4 = 0 by rw [hfour])
      (chunk.extract (4 - a.pending.size) chunk.size)
    simp only [htake]
    rw [hsplit, hwhole, decodeWords_of_size_four hfour]

/-- A read keeps the trailing partial word of the held bytes followed by the read, on each path:
the remainder of the chunk, the held bytes with the whole short chunk, or the remainder of what
follows the completed word. -/
theorem feed_pending (a : WordAssembler) (chunk : Array UInt8) :
    (a.feed chunk).2.pending =
      keepLast ((a.pending ++ chunk).size % 4) (a.pending ++ chunk) := by
  have hp := a.pending_lt
  unfold feed
  split
  · rename_i hempty
    rw [Array.isEmpty_iff.mp hempty, Array.empty_append]
    exact toArray_wordRemainder chunk
  dsimp only
  split
  · rename_i hshort
    obtain ⟨hlt, hwhole⟩ := short_read hp hshort
    show a.pending ++ chunk.extract 0 (min (4 - a.pending.size) chunk.size) = _
    rw [hwhole, Nat.mod_eq_of_lt hlt, keepLast_of_size_le (Nat.le_refl _)]
  · rename_i hlong
    obtain ⟨hfour, hsplit, htake⟩ := completed_read hp hlong
    -- the completed word is whole, so the cut falls inside the rest of the chunk
    show (wordRemainder
      (chunk.extract (min (4 - a.pending.size) chunk.size) chunk.size).toList).toArray = _
    rw [htake, toArray_wordRemainder, hsplit]
    have hsize : ((a.pending ++ chunk.extract 0 (4 - a.pending.size)) ++
        chunk.extract (4 - a.pending.size) chunk.size).size % 4 =
        (chunk.extract (4 - a.pending.size) chunk.size).size % 4 := by
      rw [Array.size_append, hfour]
      omega
    rw [hsize, ← keepLast_append_keepLast _ _ (Nat.le_refl _),
      keepLast_append_of_size_eq _ _ (by rw [size_keepLast]; omega)]

/-- **Two reads act as one.**  Reading `c` and then `d` yields, in all, the words of reading
`c ++ d` at once, and leaves the same bytes held. -/
theorem feed_feed (a : WordAssembler) (c d : Array UInt8) :
    (a.feed c).1 ++ ((a.feed c).2.feed d).1 = (a.feed (c ++ d)).1 ∧
      ((a.feed c).2.feed d).2 = (a.feed (c ++ d)).2 := by
  refine ⟨?_, ext_pending ?_⟩
  · rw [feed_fst, feed_fst, feed_fst, feed_pending, decodeWords_append_keepLast,
      Array.append_assoc]
  · rw [feed_pending, feed_pending, feed_pending]
    have hsize : (keepLast ((a.pending ++ c).size % 4) (a.pending ++ c) ++ d).size % 4 =
        (a.pending ++ (c ++ d)).size % 4 := by
      simp only [Array.size_append, size_keepLast]
      omega
    rw [hsize, ← Array.append_assoc, keepLast_keepLast_append _ _ (by simp; omega)]

/-- An empty read changes nothing and yields nothing. -/
lemma feed_empty (a : WordAssembler) : a.feed #[] = (#[], a) := by
  have hp := a.pending_lt
  refine Prod.ext ?_ (ext_pending ?_)
  · rw [feed_fst, Array.append_empty]
    apply Array.ext'
    simpa using decodeWordList_of_length_lt (by simpa using hp)
  · rw [feed_pending, Array.append_empty, Nat.mod_eq_of_lt hp]
    exact keepLast_of_size_le (Nat.le_refl _)

/-- Feeds the chunks one after another; returns every word completed, in order, and the
assembler after the last chunk. -/
def feedAll (a : WordAssembler) : List (Array UInt8) → Array UInt32 × WordAssembler
  | [] => (#[], a)
  | c :: cs =>
    let r := (a.feed c).2.feedAll cs
    ((a.feed c).1 ++ r.1, r.2)

/-- **Chunking is invisible.**  Feeding chunks one by one is feeding their concatenation at
once. -/
theorem feedAll_eq_feed (a : WordAssembler) (cs : List (Array UInt8)) :
    a.feedAll cs = a.feed cs.toArray.flatten := by
  induction cs generalizing a with
  | nil => simpa [feedAll] using (feed_empty a).symm
  | cons c cs ih =>
    have hjoin : (c :: cs).toArray.flatten = c ++ cs.toArray.flatten := by
      apply Array.ext'
      simp
    obtain ⟨hwords, hheld⟩ := feed_feed a c cs.toArray.flatten
    rw [feedAll, ih, hjoin]
    exact Prod.ext hwords hheld

/-- **The assembler refines the stateless decoder.**  Fed chunks `c₁, …, cₙ` from a fresh
assembler, it yields exactly the words of `c₁ ++ … ++ cₙ`, and holds the last
`(|c₁| + … + |cₙ|) % 4` bytes of that stream, so never a whole word.  A reset assembler is a
fresh one, so the same holds of the chunks fed since a reset.  As the chunks are arbitrary,
this holds after every call. -/
theorem feedAll_refines_decodeWords (b : WordAssembler) (cs : List (Array UInt8)) :
    (({} : WordAssembler).feedAll cs).1 = decodeWords cs.toArray.flatten ∧
      (({} : WordAssembler).feedAll cs).2.pending.size = cs.toArray.flatten.size % 4 ∧
      (({} : WordAssembler).feedAll cs).2.pending =
        keepLast (cs.toArray.flatten.size % 4) cs.toArray.flatten ∧
      b.reset.feedAll cs = ({} : WordAssembler).feedAll cs := by
  refine ⟨?_, ?_, ?_, rfl⟩ <;>
    simp only [feedAll_eq_feed, feed_fst, feed_pending, Array.empty_append]
  rw [size_keepLast]
  omega

/-! ## Following a piece of the stream -/

/-- The assembler holds the trailing partial word of `piece`, the bytes read since it was last
aligned. -/
def Follows (a : WordAssembler) (piece : Array UInt8) : Prop :=
  a.pending = keepLast (piece.size % 4) piece

lemma follows_reset (a : WordAssembler) : a.reset.Follows #[] := rfl

lemma follows_empty_iff {a : WordAssembler} : a.Follows #[] ↔ a.pending = #[] := by
  simp [Follows]

/-- **A read, seen from the piece.**  An assembler that follows `piece` yields, for a read `c`,
the words of `piece ++ c` that `piece` alone did not complete, and then follows `piece ++ c`. -/
theorem follows_feed {a : WordAssembler} {piece : Array UInt8} (h : a.Follows piece)
    (c : Array UInt8) :
    (a.feed c).1 = (decodeWords (piece ++ c)).drop (piece.size / 4) ∧
      (a.feed c).2.Follows (piece ++ c) := by
  refine ⟨?_, ?_⟩
  · have hsplit := decodeWords_append_keepLast piece c
    rw [feed_fst, h, ← hsplit, drop_append_of_size_eq _ (size_decodeWords piece)]
  · unfold Follows
    rw [feed_pending, h]
    have hsize : (keepLast (piece.size % 4) piece ++ c).size % 4 = (piece ++ c).size % 4 := by
      simp only [Array.size_append, size_keepLast]
      omega
    rw [hsize, keepLast_keepLast_append _ _ (by simp; omega)]

/-- A word split over three reads, the middle one empty. -/
example : (({} : WordAssembler).feedAll [#[1, 0], #[], #[0, 0, 7]]).1 = #[1] ∧
    (({} : WordAssembler).feedAll [#[1, 0], #[], #[0, 0, 7]]).2.pending = #[7] := by decide

end WordAssembler

end WaveScope
