/-!
# Samples from bytes

The stream carries 32-bit samples as four bytes each, least significant byte first.  Reads do not
respect word boundaries, so a `WordAssembler` keeps the bytes of an unfinished word between
reads.  A read first completes the held word from its head, and stops there if it is too short
to; then its remaining bytes give their whole words, and what is left after the last whole word
is held.

**Main statements.**  `decodeWords_encodeWords` says that decoding the bytes of a list of words
gives the words back; `pending_lt` says an assembler never keeps a whole word.
-/

namespace WaveScope

/-- The word made of four bytes, least significant first. -/
def wordOfBytes (b0 b1 b2 b3 : UInt8) : UInt32 :=
  UInt32.ofNat
    (b0.toNat + Nat.pow 2 8 * b1.toNat + Nat.pow 2 16 * b2.toNat + Nat.pow 2 24 * b3.toNat)

/-- The four bytes of a word, least significant first. -/
def bytesOfWord (w : UInt32) : List UInt8 :=
  [UInt8.ofNat w.toNat, UInt8.ofNat (w.toNat / Nat.pow 2 8), UInt8.ofNat (w.toNat / Nat.pow 2 16),
    UInt8.ofNat (w.toNat / Nat.pow 2 24)]

/-- The words of a byte list, four bytes each; a trailing partial word is left out. -/
def decodeWordList : List UInt8 → List UInt32
  | b0 :: b1 :: b2 :: b3 :: rest => wordOfBytes b0 b1 b2 b3 :: decodeWordList rest
  | _ => []

/-- The bytes of a list of words. -/
def encodeWords (ws : List UInt32) : List UInt8 :=
  ws.flatMap bytesOfWord

/-- The words of a byte array; a trailing partial word is left out. -/
def decodeWords (bytes : Array UInt8) : Array UInt32 :=
  (decodeWordList bytes.toList).toArray

/-- The bytes after the last whole word of a byte list: the remainder of splitting it into
groups of four. -/
def wordRemainder : List UInt8 → List UInt8
  | _ :: _ :: _ :: _ :: rest => wordRemainder rest
  | rest => rest

theorem length_wordRemainder_lt : ∀ bs : List UInt8, (wordRemainder bs).length < 4
  | _ :: _ :: _ :: _ :: rest => length_wordRemainder_lt rest
  | [] | [_] | [_, _] | [_, _, _] => by simp [wordRemainder]

/-- The word of the first four bytes of an array, least significant first. -/
def firstWord (bytes : Array UInt8) (h : 4 ≤ bytes.size) : UInt32 :=
  wordOfBytes bytes[0] bytes[1] bytes[2] bytes[3]

/-- Reassembles words from chunks of bytes, keeping the bytes of an unfinished word. -/
structure WordAssembler where
  pending : Array UInt8 := #[]
  pending_lt : pending.size < 4 := by decide

namespace WordAssembler

/-- The assembler holding no bytes. -/
def empty : WordAssembler := {}

/-- The words completed by a new chunk, and the assembler holding the bytes left over.  Held
bytes are completed from the head of the chunk; when the chunk runs out first, they are all that
is held and no word comes out.  Otherwise the completed word comes first, then the whole words of
the rest of the chunk, whose remainder is held. -/
def feed (a : WordAssembler) (chunk : Array UInt8) : Array UInt32 × WordAssembler :=
  if a.pending.isEmpty then
    (decodeWords chunk,
      ⟨(wordRemainder chunk.toList).toArray, by simpa using length_wordRemainder_lt _⟩)
  else
    let take := min (4 - a.pending.size) chunk.size
    let pending := a.pending ++ chunk.extract 0 take
    let rest := chunk.extract take chunk.size
    if h : pending.size < 4 then (#[], ⟨pending, h⟩)
    else
      (#[firstWord pending (by omega)] ++ decodeWords rest,
        ⟨(wordRemainder rest.toList).toArray, by simpa using length_wordRemainder_lt _⟩)

/-- Forgets an unfinished word. -/
def reset (_ : WordAssembler) : WordAssembler := {}

end WordAssembler

theorem wordOfBytes_bytesOfWord (w : UInt32) :
    decodeWordList (bytesOfWord w) = [w] := by
  simp only [bytesOfWord, decodeWordList, List.cons.injEq, and_true]
  apply UInt32.toNat_inj.mp
  have hw := w.toNat_lt
  simp [wordOfBytes]
  omega

theorem decodeWords_encodeWords (ws : List UInt32) :
    decodeWordList (encodeWords ws) = ws := by
  induction ws with
  | nil => rfl
  | cons w rest ih =>
    have h := wordOfBytes_bytesOfWord w
    simp only [bytesOfWord, decodeWordList, List.cons.injEq, and_true] at h
    simp only [encodeWords, List.flatMap_cons, bytesOfWord, List.cons_append, List.nil_append,
      decodeWordList] at ih ⊢
    rw [ih, h]

end WaveScope
