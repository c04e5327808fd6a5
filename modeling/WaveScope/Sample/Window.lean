/-!
# The sample window

A `SampleWindow` holds the latest `capacity` samples of the stream, oldest first.  Position `i` is
always drawn at x = `i`, so appending a batch moves the older samples to lower positions and puts
the batch at the end; a batch at least as long as the window replaces it with its own last
samples.  Both are done in place, with the two slice copies of the standard library:
`copyWithin` moves a range of the window inside it, and `copyFromSlice` writes an array over a
range.

**Main statement.**  `size_append` says that the capacity never changes.
-/

namespace WaveScope

/-- The last `n` elements of an array, or all of them when it is shorter. -/
def keepLast {α : Type} (n : Nat) (xs : Array α) : Array α :=
  xs.extract (xs.size - n) xs.size

theorem size_keepLast {α : Type} (n : Nat) (xs : Array α) :
    (keepLast n xs).size = min n xs.size := by
  simp [keepLast]
  omega

/-- `copy_within`: the `len` elements from position `src` on are copied to the positions from
`dest` on, all read before any is written, so the two ranges may overlap; the other positions keep
their elements. -/
def copyWithin {α : Type} (xs : Array α) (src dest len : Nat) : Array α :=
  xs.mapIdx fun j x => if dest ≤ j ∧ j < dest + len then xs.getD (j - dest + src) x else x

/-- `copy_from_slice` onto the positions from `start` on: position `start + i` takes `ys[i]`, and
the other positions keep their elements.  (The source requires `ys` to fill the rest of the
array exactly; every use below does.) -/
def copyFromSlice {α : Type} (xs : Array α) (start : Nat) (ys : Array α) : Array α :=
  xs.mapIdx fun j x => if start ≤ j ∧ j < start + ys.size then ys.getD (j - start) x else x

@[simp] theorem size_copyWithin {α : Type} (xs : Array α) (src dest len : Nat) :
    (copyWithin xs src dest len).size = xs.size := Array.size_mapIdx ..

@[simp] theorem size_copyFromSlice {α : Type} (xs : Array α) (start : Nat) (ys : Array α) :
    (copyFromSlice xs start ys).size = xs.size := Array.size_mapIdx ..

/-- The latest samples of the stream, a fixed non-zero number of them. -/
structure SampleWindow where
  values : Array UInt32
  size_pos : 0 < values.size

namespace SampleWindow

/-- The number of samples a window holds unless told otherwise. -/
def defaultCapacity : Nat := 10000

theorem size_replicate_pos (capacity : Nat) (v : UInt32) :
    0 < (Array.replicate (max capacity 1) v).size := by
  rw [Array.size_replicate]
  omega

/-- A window of `max capacity 1` zeros. -/
def zeros (capacity : Nat) : SampleWindow :=
  ⟨Array.replicate (max capacity 1) 0, size_replicate_pos capacity 0⟩

/-- A window holding exactly the given samples; no samples give the window `[0]`. -/
def ofArray (xs : Array UInt32) : SampleWindow :=
  if h : 0 < xs.size then ⟨xs, h⟩ else zeros 1

/-- How many samples the window holds. -/
def capacity (w : SampleWindow) : Nat := w.values.size

/-- The sample at a position, if the position is inside the window. -/
def get? (w : SampleWindow) (i : Nat) : Option UInt32 := w.values[i]?

/-- The newest sample. -/
def latest (w : SampleWindow) : UInt32 :=
  have h : w.values.size - 1 < w.values.size := by have := w.size_pos; omega
  w.values[w.values.size - 1]

/-- Appends a batch: an empty batch changes nothing; a batch at least as long as the window
replaces it with its own last samples; a shorter one shifts the samples left by its length and
fills the tail. -/
def append (w : SampleWindow) (batch : Array UInt32) : SampleWindow :=
  let capacity := w.values.size
  let shift := batch.size
  if shift = 0 then w
  else if capacity ≤ shift then
    ⟨copyFromSlice w.values 0 (batch.extract (shift - capacity) shift), by
      rw [size_copyFromSlice]; exact w.size_pos⟩
  else
    ⟨copyFromSlice (copyWithin w.values shift 0 (capacity - shift)) (capacity - shift) batch, by
      rw [size_copyFromSlice, size_copyWithin]; exact w.size_pos⟩

/-- The least and the greatest sample. -/
def minMax (w : SampleWindow) : UInt32 × UInt32 :=
  w.values.foldl (fun acc v => (min acc.1 v, max acc.2 v)) (0xFFFFFFFF, 0)

/-- The positions `i` with `lo ≤ i ≤ hi`, compared as binary64 values, with their samples, in
increasing order. -/
def within (w : SampleWindow) (lo hi : Float) : Array (Nat × UInt32) :=
  (w.values.zipIdx.filter fun p =>
      let x := Float.ofNat p.2
      x ≥ lo && x ≤ hi).map fun p => (p.2, p.1)

theorem size_append (w : SampleWindow) (batch : Array UInt32) :
    (w.append batch).capacity = w.capacity := by
  unfold append capacity
  dsimp only
  split
  · rfl
  · split
    · exact size_copyFromSlice ..
    · rw [size_copyFromSlice, size_copyWithin]

theorem capacity_zeros (n : Nat) : (zeros n).capacity = max n 1 := by
  simp [zeros, capacity]

end SampleWindow

end WaveScope
