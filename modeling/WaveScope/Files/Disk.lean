import WaveScope.Files.Tree

/-!
# Writing a file through a buffer

How values get into a file: the file is created, each line is handed to a buffered writer, and
the writer is flushed.  The writer keeps what it is given in a buffer of `bufferCapacity` bytes
and passes the buffer to the disk when the next piece does not fit, when it is flushed, and once
more when it is dropped, whatever happened before.  A piece as large as the buffer goes to the
disk directly, once the buffer is empty.

The disk is a parameter (`Disk`).  Creating the file may fail, and so may each write to it; a
write may also take only the first part of what it is given, and the writer then writes the rest
again.  A write that takes nothing fails with `WriteZero`.  Whatever went down before a failure
stays in the file, so a failure after the file was created leaves the file cut short.  A write the
system interrupts is made again by the writer, so `Disk.write` stands for the write together with
those retries, and a disk takes at most the bytes it is given.

The directory tree is a disk: a create makes the file at the path empty, and a write adds all its
bytes at the end.

`drain_nil` and `flushBuffer_nil` say an empty buffer goes to the disk without a write.
-/

namespace WaveScope.Files

open Os

/-- A disk that files are written on. -/
class Disk (δ : Type) where
  /-- Creates the file at a path, or empties the file there. -/
  create : δ → String → δ × Except IoError Unit
  /-- Writes bytes at the end of the file at a path: how many of them, from the first, went
  down, or why none did. -/
  write : δ → String → List UInt8 → δ × Except IoError Nat

/-- The size of a writer's buffer. -/
def bufferCapacity : Nat := 8192

variable {δ : Type} [Disk δ]

/-- Writes bytes to the file at `p` until all went down, a write takes none (the error is then
`zero`), or a write fails; with the bytes not written. -/
def drain (zero : IoError) (d : δ) (p : String) :
    List UInt8 → δ × List UInt8 × Except IoError Unit
  | [] => (d, [], .ok ())
  | b :: bs =>
    match Disk.write d p (b :: bs) with
    | (d', .ok 0) => (d', b :: bs, .error zero)
    | (d', .ok (n + 1)) => drain zero d' p ((b :: bs).drop (n + 1))
    | (d', .error e) => (d', b :: bs, .error e)
termination_by bytes => bytes.length
decreasing_by
  simp only [List.length_drop, List.length_cons]
  omega

/-- Passes the buffer to the disk: what was written leaves the buffer, also when a write
fails. -/
def flushBuffer (d : δ) (p : String) (buffer : List UInt8) :
    δ × List UInt8 × Except IoError Unit :=
  drain IoError.writeZeroBuffered d p buffer

/-- Makes room for a piece that does not fit after the buffered bytes: the buffer goes to the
disk first when the piece is larger than the room left. -/
def makeRoom (d : δ) (p : String) (buffer piece : List UInt8) :
    δ × List UInt8 × Except IoError Unit :=
  if bufferCapacity - buffer.length < piece.length then flushBuffer d p buffer
  else (d, buffer, .ok ())

/-- Takes a piece: it joins the buffer when it fits after what is there; otherwise room is made
first, and then the piece joins the buffer, or goes to the disk directly when it is as large as
the buffer. -/
def writeAll (d : δ) (p : String) (buffer piece : List UInt8) :
    δ × List UInt8 × Except IoError Unit :=
  if piece.length < bufferCapacity - buffer.length then (d, buffer ++ piece, .ok ())
  else
    match makeRoom d p buffer piece with
    | (d, buffer, .error e) => (d, buffer, .error e)
    | (d, buffer, .ok ()) =>
      if bufferCapacity ≤ piece.length then
        let (d, _, r) := drain IoError.writeZeroWhole d p piece
        (d, buffer, r)
      else (d, buffer ++ piece, .ok ())

/-- Hands pieces to the writer one after the other, stopping at the first that fails. -/
def writePieces (d : δ) (p : String) (buffer : List UInt8) :
    List (List UInt8) → δ × List UInt8 × Except IoError Unit
  | [] => (d, buffer, .ok ())
  | piece :: rest =>
    match writeAll d p buffer piece with
    | (d, buffer, .ok ()) => writePieces d p buffer rest
    | (d, buffer, .error e) => (d, buffer, .error e)

/-- The pieces a line with a value is written in: its decimal digits, then the newline. -/
def linePieces (v : UInt32) : List (List UInt8) :=
  [(toString v.toNat).toUTF8.toList, "\n".toUTF8.toList]

/-- Writes values into a new file at `p`, one decimal number per line: the file is created, the
lines go through the writer, and the writer is flushed (the file itself keeps nothing back).
Once the file is created, dropping the writer passes what is still buffered to the disk once
more, and a failure there is not reported. -/
def writeValues (d : δ) (p : String) (values : List UInt32) : δ × Except IoError Unit :=
  match Disk.create d p with
  | (d, .error e) => (d, .error e)
  | (d, .ok ()) =>
    let (d, buffer, r) := writePieces d p [] (values.flatMap linePieces)
    let (d, buffer, r) := match r with
      | .ok () => flushBuffer d p buffer
      | .error e => (d, buffer, .error e)
    ((flushBuffer d p buffer).1, r)

@[simp] theorem drain_nil (zero : IoError) (d : δ) (p : String) :
    drain zero d p [] = (d, [], .ok ()) := by
  rw [drain]

@[simp] theorem flushBuffer_nil (d : δ) (p : String) : flushBuffer d p [] = (d, [], .ok ()) :=
  drain_nil _ _ _

namespace Tree

/-- The directory tree as a disk: a create makes the file at the path empty, a write adds all
its bytes at the end, and the null device swallows them. -/
instance : Disk Tree where
  create t p :=
    match t.write p [] with
    | .ok t' => (t', .ok ())
    | .error e => (t, .error e)
  write t p bytes :=
    match t.contents p with
    | .ok old =>
      match t.write p (old ++ bytes) with
      | .ok t' => (t', .ok bytes.length)
      | .error e => (t, .error e)
    | .error e => (t, .error e)

end Tree

end WaveScope.Files
