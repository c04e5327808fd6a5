import Mathlib
import WaveScope.Files.Disk

/-!
# What a buffered write leaves in the file

`Files.writeValues` creates a file and writes values into it through a buffer, on a disk that
may fail at the create, at any write and at the flush.  Two views of the disk say what that
leaves behind.

* `KeepsFile p read`: read through `read`, the disk holds a file at `p`: a create empties it,
  a write adds at its end the bytes it took, and a failed write adds nothing.  Under it, the
  file and the writer's buffer together hold what was handed over, cut short at the first
  failure (`drain_sent`, `writeAll_sent`, `writePieces_sent`): the writer's conservation law.
* `TakesAll p`: every create at `p` succeeds and every write takes all it is given.  Under it,
  every step of the writer succeeds (`drain_ok`, `writeAll_ok`, `writePieces_ok`).

`OneFile` is a disk that meets both laws: one file that every create and write goes through.

**Main statements.**  `writeValues_file`: once the file is created, it ends up holding the first
bytes of the lines, whatever fails later, and all of them when the write reports success.
`writeValues_ok`: on a disk that takes everything the write succeeds.
`writeValues_ok_file` and `writeValues_error_file`: what each reported outcome says about the
file.
-/

namespace WaveScope

/-- The loop that lists a byte array gives the bytes from the index on after the reversed
accumulator. -/
lemma byteArray_toList_loop (bs : ByteArray) (i : Nat) (r : List UInt8) :
    ByteArray.toList.loop bs i r = r.reverse ++ bs.data.toList.drop i := by
  fun_induction ByteArray.toList.loop bs i r with
  | case1 i r hi ih =>
    rw [ih, List.reverse_cons, List.append_assoc, List.singleton_append]
    congr 1
    have hi' : i < bs.data.toList.length := by simpa using hi
    rw [List.drop_eq_getElem_cons hi']
    simp [ByteArray.get!, hi]
  | case2 i r hi =>
    have : bs.data.toList.length ≤ i := by simpa using hi
    simp [List.drop_of_length_le this]

/-- The bytes of two texts one after the other are the bytes of the first, then the second. -/
lemma toUTF8_toList_append (a b : String) :
    (a ++ b).toUTF8.toList = a.toUTF8.toList ++ b.toUTF8.toList := by
  simp [ByteArray.toList, byteArray_toList_loop, String.toByteArray_append]

namespace Files

open Os

variable {δ : Type} [Disk δ]

/-- Read through `read`, the disk holds a file at `p`: a create leaves it empty, a write that
took `n` bytes adds those bytes at its end, and a failed write leaves it as it was. -/
structure KeepsFile (p : String) (read : δ → List UInt8) : Prop where
  create : ∀ d d', Disk.create d p = (d', .ok ()) → read d' = []
  write : ∀ d bytes d' n, Disk.write d p bytes = (d', .ok n) → read d' = read d ++ bytes.take n
  write_error : ∀ d bytes d' e, Disk.write d p bytes = (d', .error e) → read d' = read d

/-- The disk takes everything at `p`: a create succeeds, and a write takes all it is given. -/
structure TakesAll (δ : Type) [Disk δ] (p : String) : Prop where
  create : ∀ d : δ, (Disk.create d p).2 = .ok ()
  write : ∀ (d : δ) bytes, (Disk.write d p bytes).2 = .ok bytes.length

variable {p : String}

/-! ## The conservation law -/

section Keeps

variable {read : δ → List UInt8} (hk : KeepsFile p read)
include hk

/-- Writing until done moves a prefix of the bytes to the end of the file and keeps the rest;
on success nothing is left. -/
theorem drain_sent (zero : IoError) (d : δ) (bytes : List UInt8) :
    ∃ sent, read (drain zero d p bytes).1 = read d ++ sent ∧
      sent ++ (drain zero d p bytes).2.1 = bytes ∧
      ((drain zero d p bytes).2.2 = .ok () → (drain zero d p bytes).2.1 = []) := by
  fun_induction drain zero d p bytes with
  | case1 d => exact ⟨[], by simp, rfl, fun _ => rfl⟩
  | case2 d b bs d' hw =>
    -- a write that takes nothing leaves the file as it was
    exact ⟨[], by simpa using hk.write d (b :: bs) d' 0 hw, rfl, by simp⟩
  | case3 d b bs d' n hw ih =>
    obtain ⟨sent, hread, hrest, hok⟩ := ih
    refine ⟨(b :: bs).take (n + 1) ++ sent, ?_, ?_, hok⟩
    · rw [hread, hk.write d (b :: bs) d' (n + 1) hw, List.append_assoc]
    · rw [List.append_assoc, hrest, List.take_append_drop]
  | case4 d b bs d' e hw =>
    exact ⟨[], by simpa using hk.write_error d (b :: bs) d' e hw, rfl, by simp⟩

/-- Passing the buffer on keeps what the file and the buffer hold together; on success the
buffer is empty. -/
theorem flushBuffer_kept (d : δ) (buffer : List UInt8) :
    read (flushBuffer d p buffer).1 ++ (flushBuffer d p buffer).2.1 = read d ++ buffer ∧
      ((flushBuffer d p buffer).2.2 = .ok () → (flushBuffer d p buffer).2.1 = []) := by
  obtain ⟨sent, hread, hrest, hok⟩ := drain_sent hk IoError.writeZeroBuffered d buffer
  exact ⟨by rw [flushBuffer, hread, List.append_assoc, hrest], hok⟩

/-- After the buffer is passed on, the file holds a prefix of what the file and the buffer
held. -/
lemma read_flushBuffer_isPrefixOf (d : δ) (buffer : List UInt8) :
    read (flushBuffer d p buffer).1 <+: read d ++ buffer :=
  ⟨_, (flushBuffer_kept hk d buffer).1⟩

/-- Making room keeps what the file and the buffer hold, and a piece that does not fit and is
as large as the buffer then finds the buffer empty. -/
lemma makeRoom_kept (d : δ) (buffer piece : List UInt8)
    (hfit : ¬piece.length < bufferCapacity - buffer.length) :
    read (makeRoom d p buffer piece).1 ++ (makeRoom d p buffer piece).2.1 = read d ++ buffer ∧
      ((makeRoom d p buffer piece).2.2 = .ok () → bufferCapacity ≤ piece.length →
        (makeRoom d p buffer piece).2.1 = []) := by
  unfold makeRoom
  split
  · exact ⟨(flushBuffer_kept hk d buffer).1, fun h _ => (flushBuffer_kept hk d buffer).2 h⟩
  · -- the piece fills the room exactly, so a piece as large as the buffer finds none taken
    refine ⟨rfl, fun _ hcap => List.eq_nil_of_length_eq_zero ?_⟩
    dsimp only
    unfold bufferCapacity at *
    omega

/-- **Conservation in the writer.**  After a piece is handed over, the file and the buffer hold
what they held before, then a prefix of the piece: all of it on success. -/
theorem writeAll_sent (d : δ) (buffer piece : List UInt8) :
    ∃ sent, sent <+: piece ∧
      read (writeAll d p buffer piece).1 ++ (writeAll d p buffer piece).2.1 =
        read d ++ buffer ++ sent ∧
      ((writeAll d p buffer piece).2.2 = .ok () → sent = piece) := by
  unfold writeAll
  split
  · exact ⟨piece, List.prefix_refl _, by simp, fun _ => rfl⟩
  · rename_i hfit
    obtain ⟨hkept, hempty⟩ := makeRoom_kept hk d buffer piece hfit
    rcases hx : makeRoom d p buffer piece with ⟨d₁, b₁, r₁⟩
    rw [hx] at hkept hempty
    dsimp only at hkept hempty
    cases r₁ with
    | error e => exact ⟨[], List.nil_prefix, by simpa using hkept, by simp⟩
    | ok u =>
      cases u
      dsimp only
      split
      · -- a piece as large as the buffer goes to the disk directly
        rename_i hcap
        have hb : b₁ = [] := hempty rfl hcap
        subst hb
        obtain ⟨sent, hread, hrest, hok⟩ := drain_sent hk IoError.writeZeroWhole d₁ piece
        refine ⟨sent, ⟨_, hrest⟩, ?_, fun h => ?_⟩
        · rw [hread, ← hkept, List.append_nil, List.append_nil]
        · rw [← hrest, hok h, List.append_nil]
      · exact ⟨piece, List.prefix_refl _, by rw [← List.append_assoc, hkept], fun _ => rfl⟩

/-- The conservation law over pieces handed over one after the other, up to the first that
fails. -/
theorem writePieces_sent (d : δ) (buffer : List UInt8) (pieces : List (List UInt8)) :
    ∃ sent, sent <+: pieces.flatten ∧
      read (writePieces d p buffer pieces).1 ++ (writePieces d p buffer pieces).2.1 =
        read d ++ buffer ++ sent ∧
      ((writePieces d p buffer pieces).2.2 = .ok () → sent = pieces.flatten) := by
  induction pieces generalizing d buffer with
  | nil => exact ⟨[], List.nil_prefix, by simp [writePieces], fun _ => rfl⟩
  | cons piece rest ih =>
    obtain ⟨sent, hpre, hkept, hok⟩ := writeAll_sent hk d buffer piece
    rcases hw : writeAll d p buffer piece with ⟨d₁, b₁, r₁⟩
    rw [hw] at hkept hok
    cases r₁ with
    | error e =>
      -- the piece failed: what went down of it is all that is new
      refine ⟨sent, hpre.trans (List.prefix_append _ _), ?_, by simp [writePieces, hw]⟩
      simpa [writePieces, hw] using hkept
    | ok u =>
      cases u
      have hall : sent = piece := hok rfl
      subst hall
      obtain ⟨sent', hpre', hkept', hok'⟩ := ih d₁ b₁
      refine ⟨sent ++ sent', (List.prefix_append_right_inj sent).2 hpre', ?_, fun h => ?_⟩
      · simp only [writePieces, hw]
        rw [hkept', hkept, List.append_assoc]
      · simp only [writePieces, hw] at h
        rw [hok' h, List.flatten_cons]

/-- **What a write of values leaves in the file.**  Once the file is created, it holds the
first bytes of the lines, one decimal number and a newline per value, whatever fails later, and
all of them when the write reports success. -/
theorem writeValues_file (d : δ) (values : List UInt32) (hc : (Disk.create d p).2 = .ok ()) :
    read (writeValues d p values).1 <+: (values.flatMap linePieces).flatten ∧
      ((writeValues d p values).2 = .ok () →
        read (writeValues d p values).1 = (values.flatMap linePieces).flatten) := by
  unfold writeValues
  rcases hcr : Disk.create d p with ⟨d₀, r₀⟩
  rw [hcr] at hc
  cases hc
  have hempty : read d₀ = [] := hk.create d d₀ hcr
  dsimp only
  obtain ⟨sent, hpre, hkept, hok⟩ := writePieces_sent hk d₀ [] (values.flatMap linePieces)
  rcases hw : writePieces d₀ p [] (values.flatMap linePieces) with ⟨d₁, b₁, r₁⟩
  rw [hw, hempty, List.nil_append, List.nil_append] at hkept
  rw [hw] at hok
  cases r₁ with
  | error e =>
    -- a piece failed; dropping the writer passes on what it still holds
    refine ⟨?_, by simp⟩
    exact (read_flushBuffer_isPrefixOf hk d₁ b₁).trans (hkept ▸ hpre)
  | ok u =>
    cases u
    obtain ⟨hflush, hflushok⟩ := flushBuffer_kept hk d₁ b₁
    rcases hf : flushBuffer d₁ p b₁ with ⟨d₂, b₂, r₂⟩
    rw [hf] at hflush hflushok
    cases r₂ with
    | error e =>
      refine ⟨?_, by simp⟩
      exact (read_flushBuffer_isPrefixOf hk d₂ b₂).trans (by rw [hflush, hkept]; exact hpre)
    | ok u =>
      -- all went down: nothing is left for the drop to pass on
      have hb : b₂ = [] := hflushok rfl
      subst hb
      have hall : read d₂ = (values.flatMap linePieces).flatten := by
        rw [← List.append_nil (read d₂), hflush, hkept, hok rfl]
      rw [flushBuffer_nil]
      exact ⟨hall ▸ List.prefix_refl _, fun _ => hall⟩

end Keeps

/-- A failed create is the whole outcome: nothing is written and the error is the create's. -/
theorem writeValues_create_error (d : δ) (values : List UInt32) (e : IoError)
    (h : (Disk.create d p).2 = .error e) :
    writeValues d p values = ((Disk.create d p).1, .error e) := by
  unfold writeValues
  rcases hcr : Disk.create d p with ⟨d₀, r₀⟩
  rw [hcr] at h
  cases h
  rfl

/-- A write that reports success created its file. -/
lemma create_ok_of_writeValues_ok (d : δ) (values : List UInt32)
    (h : (writeValues d p values).2 = .ok ()) : (Disk.create d p).2 = .ok () := by
  cases hc : (Disk.create d p).2 with
  | ok u => rfl
  | error e =>
    rw [writeValues_create_error d values e hc] at h
    cases h

/-! ## A disk that takes everything -/

section TakesAll

variable (ht : TakesAll δ p)
include ht

theorem drain_ok (zero : IoError) (d : δ) (bytes : List UInt8) :
    (drain zero d p bytes).2 = ([], .ok ()) := by
  fun_induction drain zero d p bytes with
  | case1 d => rfl
  | case2 d b bs d' hw =>
    -- a write that takes everything takes something
    have h := ht.write d (b :: bs)
    rw [hw, Except.ok.injEq, List.length_cons] at h
    omega
  | case3 d b bs d' n hw ih => exact ih
  | case4 d b bs d' e hw =>
    have h := ht.write d (b :: bs)
    rw [hw] at h
    cases h

lemma makeRoom_ok (d : δ) (buffer piece : List UInt8) :
    (makeRoom d p buffer piece).2.2 = .ok () := by
  unfold makeRoom
  split
  · exact congrArg Prod.snd (drain_ok ht _ d buffer)
  · rfl

theorem writeAll_ok (d : δ) (buffer piece : List UInt8) :
    (writeAll d p buffer piece).2.2 = .ok () := by
  unfold writeAll
  split
  · rfl
  · have hroom := makeRoom_ok ht d buffer piece
    rcases hx : makeRoom d p buffer piece with ⟨d₁, b₁, r₁⟩
    rw [hx] at hroom
    cases hroom
    dsimp only
    split
    · exact congrArg Prod.snd (drain_ok ht _ d₁ piece)
    · rfl

theorem writePieces_ok (d : δ) (buffer : List UInt8) (pieces : List (List UInt8)) :
    (writePieces d p buffer pieces).2.2 = .ok () := by
  induction pieces generalizing d buffer with
  | nil => rfl
  | cons piece rest ih =>
    have hw := writeAll_ok ht d buffer piece
    rcases hx : writeAll d p buffer piece with ⟨d₁, b₁, r₁⟩
    rw [hx] at hw
    cases hw
    simp only [writePieces, hx]
    exact ih d₁ b₁

/-- **On a disk that takes everything, a write of values succeeds.** -/
theorem writeValues_ok (d : δ) (values : List UInt32) : (writeValues d p values).2 = .ok () := by
  unfold writeValues
  have hc := ht.create d
  rcases hcr : Disk.create d p with ⟨d₀, r₀⟩
  rw [hcr] at hc
  cases hc
  dsimp only
  have hw := writePieces_ok ht d₀ [] (values.flatMap linePieces)
  rcases hx : writePieces d₀ p [] (values.flatMap linePieces) with ⟨d₁, b₁, r₁⟩
  rw [hx] at hw
  cases hw
  exact congrArg Prod.snd (drain_ok ht _ d₁ b₁)

end TakesAll

/-! ## What an outcome says about the file -/

/-- A write that reports success leaves all the lines in the file. -/
theorem writeValues_ok_file {d : δ} {values : List UInt32}
    (h : (writeValues d p values).2 = .ok ()) (read : δ → List UInt8) (hk : KeepsFile p read) :
    read (writeValues d p values).1 = (values.flatMap linePieces).flatten :=
  (writeValues_file hk d values (create_ok_of_writeValues_ok d values h)).2 h

/-- A write that reports an error happens only on a disk that does not take everything, and
either the create failed with that error and nothing else was done, or the file was created and
holds a prefix of the lines. -/
theorem writeValues_error_file {d : δ} {values : List UInt32} {e : IoError}
    (h : (writeValues d p values).2 = .error e) :
    ¬TakesAll δ p ∧
      ((Disk.create d p).2 = .error e ∧ (writeValues d p values).1 = (Disk.create d p).1 ∨
        (Disk.create d p).2 = .ok () ∧ ∀ read, KeepsFile p read →
          read (writeValues d p values).1 <+: (values.flatMap linePieces).flatten) := by
  refine ⟨fun ht => ?_, ?_⟩
  · -- a disk that takes everything lets the write succeed
    rw [writeValues_ok ht d values] at h
    cases h
  · cases hc : (Disk.create d p).2 with
    | error e' =>
      -- the create failed: that is the error, and nothing was written
      rw [writeValues_create_error d values e' hc] at h ⊢
      cases h
      exact .inl ⟨rfl, rfl⟩
    | ok u =>
      cases u
      exact .inr ⟨rfl, fun read hk => (writeValues_file hk d values hc).1⟩

/-! ## A disk that keeps one file and takes everything -/

/-- A disk holding one file, as its bytes, on which every create and every write goes through:
the reference disk both laws describe. -/
structure OneFile where
  bytes : List UInt8

instance : Disk OneFile where
  create _ _ := (⟨[]⟩, .ok ())
  write d _ bytes := (⟨d.bytes ++ bytes⟩, .ok bytes.length)

theorem OneFile.keepsFile (p : String) : KeepsFile p OneFile.bytes where
  create _ _ h := by cases h; rfl
  write d bytes _ _ h := by cases h; simp
  write_error _ _ _ _ h := by cases h

theorem OneFile.takesAll (p : String) : TakesAll OneFile p :=
  ⟨fun _ => rfl, fun _ _ => rfl⟩

/-- On the reference disk a write of values succeeds and leaves exactly the lines. -/
theorem OneFile.writeValues_lines (d : OneFile) (p : String) (values : List UInt32) :
    (Files.writeValues d p values).2 = .ok () ∧
      (Files.writeValues d p values).1.bytes = (values.flatMap linePieces).flatten := by
  have hok := writeValues_ok (OneFile.takesAll p) d values
  exact ⟨hok, (writeValues_file (OneFile.keepsFile p) d values rfl).2 hok⟩

end Files

end WaveScope
