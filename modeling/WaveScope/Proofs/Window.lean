import Mathlib
import WaveScope.Sample.Backlog

/-!
# Keeping the last samples

The window keeps the last `capacity` samples it was given and the backlog the last `limit`;
both are `keepLast`, a suffix.  The lemmas here are its algebra, read through the list of the
array.  The one fact everything later rests on: cutting a stream early and cutting it again
later is the same as cutting it once at the end, provided the second cut keeps no more than
the first cut left standing.

The last part follows a window through any appends: it keeps its capacity and the last samples
of everything it was given, its newest sample is the last of them, and its one pass for the
least and greatest sample finds both.

**Main statements.**  `keepLast_keepLast_append` says a cut, more samples, and a cut no longer
than what is there is one cut; `keepLast_append_keepLast` says the same of a cut made on the
later part, which is how a replayed backlog reaches the window; `appends_keep_last_samples` is
the window after any appends.
-/

namespace WaveScope

variable {α : Type}

/-- `keepLast` drops everything before the last `n` elements. -/
lemma toList_keepLast (n : Nat) (xs : Array α) :
    (keepLast n xs).toList = xs.toList.drop (xs.size - n) := by
  simp only [keepLast, Array.toList_extract, List.extract]
  exact List.take_of_length_le (by simp)

@[simp] lemma keepLast_of_size_le {n : Nat} {xs : Array α} (h : xs.size ≤ n) :
    keepLast n xs = xs := by
  apply Array.ext'
  rw [toList_keepLast, Nat.sub_eq_zero_of_le h, List.drop_zero]

@[simp] lemma keepLast_empty (n : Nat) : keepLast n (#[] : Array α) = #[] :=
  keepLast_of_size_le (by simp)

/-- A cut to the size of the later part keeps exactly the later part. -/
lemma keepLast_append_of_size_eq {n : Nat} (xs ys : Array α) (h : ys.size = n) :
    keepLast n (xs ++ ys) = ys := by
  apply Array.ext'
  rw [toList_keepLast, Array.toList_append, Array.size_append, h, Nat.add_sub_cancel,
    List.drop_left' (by simp)]

/-- Dropping exactly the earlier part keeps the later part. -/
lemma drop_append_of_size_eq {n : Nat} {xs : Array α} (ys : Array α) (h : xs.size = n) :
    (xs ++ ys).drop n = ys := by
  subst h
  apply Array.ext'
  simp

/-- **Two cuts are one.**  A cut to `m`, then more samples, then a cut to at most `m` plus what
came after, keeps exactly what a single cut at the end keeps. -/
theorem keepLast_keepLast_append {n m : Nat} (xs ys : Array α) (h : n ≤ m + ys.size) :
    keepLast n (keepLast m xs ++ ys) = keepLast n (xs ++ ys) := by
  apply Array.ext'
  simp only [toList_keepLast, Array.toList_append, List.drop_append, List.drop_drop,
    Array.size_append, size_keepLast, List.length_drop, Array.length_toList]
  congr 2 <;> omega

/-- **A cut on the right is invisible to a shorter cut.**  Cutting the later part to `m`
samples first changes nothing once the whole is cut to `n ≤ m`. -/
theorem keepLast_append_keepLast {n m : Nat} (xs ys : Array α) (h : n ≤ m) :
    keepLast n (xs ++ keepLast m ys) = keepLast n (xs ++ ys) := by
  apply Array.ext'
  simp only [toList_keepLast, Array.toList_append, List.drop_append, List.drop_drop,
    Array.size_append, size_keepLast, Array.length_toList]
  by_cases hn : n ≤ ys.size
  · -- the cut falls inside `ys`: nothing of `xs` survives on either side
    rw [List.drop_of_length_le (l := xs.toList) (by simp; omega),
      List.drop_of_length_le (l := xs.toList) (by simp; omega)]
    simp only [List.nil_append]
    congr 1
    omega
  · congr 2 <;> omega

/-! ## The backlog's queue -/

namespace Backlog

variable (b : Backlog) (batch : Array UInt32)

@[simp] lemma limit_push : (b.push batch).2.limit = b.limit := by
  unfold push
  dsimp only
  split
  · rfl
  · split <;> rfl

/-- **Both paths of a push keep the last `limit` samples.**  A batch at least as long as the
limit leaves its own last `limit` samples, and a shorter one, queued behind the samples held,
leaves the queue with its oldest samples beyond the limit dropped; either way that is the last
`limit` samples of what was held followed by the batch. -/
theorem samples_push : (b.push batch).2.samples = keepLast b.limit (b.samples ++ batch) := by
  apply Array.ext'
  rw [toList_keepLast]
  unfold push
  dsimp only
  split
  · -- the batch replaces everything: what is dropped of the whole lies before its last `limit`
    rename_i hge
    rw [Array.toList_extract, List.extract, List.take_of_length_le (by simp),
      Array.toList_append, Array.size_append, List.drop_append,
      List.drop_of_length_le (l := b.samples.toList) (by simp; omega), List.nil_append]
    congr 1
    simp only [Array.length_toList]
    omega
  · split
    · simp only [Array.toList_extract, List.extract, Array.size_append, Array.toList_append]
      exact List.take_of_length_le (by simp)
    · rename_i hlt hex
      rw [show (b.samples ++ batch).size - b.limit = 0 by omega, List.drop_zero]

/-- Both paths report as dropped what overflows the limit: the samples held plus the batch, less
the limit. -/
theorem dropped_push : (b.push batch).1 = b.size + batch.size - b.limit := by
  unfold push size
  dsimp only
  split
  · omega
  · split <;> simp only [Array.size_append]

/-- The running count grows by exactly what a push reports. -/
theorem droppedTotal_push :
    (b.push batch).2.droppedTotal = b.droppedTotal + (b.push batch).1.toUInt64 := by
  unfold push
  dsimp only
  split
  · rfl
  · split
    · rfl
    · rename_i hex
      rw [show (b.samples ++ batch).size - b.limit = 0 by omega]
      simp

theorem size_push_le : (b.push batch).2.size ≤ b.limit := by
  simp only [size, samples_push, size_keepLast]
  omega

@[simp] lemma samples_drain (b : Backlog) : (b.drain).2.samples = #[] := rfl

@[simp] lemma limit_drain (b : Backlog) : (b.drain).2.limit = b.limit := rfl

end Backlog

/-- A cut that keeps something keeps the last element. -/
lemma back?_keepLast {n : Nat} (hn : 0 < n) (xs : Array α) : (keepLast n xs).back? = xs.back? := by
  rw [← Array.getLast?_toList, ← Array.getLast?_toList, toList_keepLast, List.getLast?_drop]
  split
  · -- nothing is kept only from nothing
    rename_i h
    have : xs.size = 0 := by simp at h; omega
    simp [Array.eq_empty_of_size_eq_zero this]
  · rfl

/-! ## The slice copies -/

section SliceCopies

variable {xs : Array α} {j : Nat}

/-- Inside the copied range a position takes the element `src - dest` further on, as it was
before the copy. -/
lemma getElem_copyWithin_of_mem {src dest len : Nat} (hj : j < (copyWithin xs src dest len).size)
    (h₁ : dest ≤ j) (h₂ : j < dest + len) (hs : j - dest + src < xs.size) :
    (copyWithin xs src dest len)[j] = xs[j - dest + src] := by
  simp [copyWithin, Array.getElem_mapIdx, h₁, h₂, Array.getD, hs]

/-- Outside the copied range a position keeps its element. -/
lemma getElem_copyWithin_of_not_mem {src dest len : Nat}
    (hj : j < (copyWithin xs src dest len).size) (hx : j < xs.size)
    (h : ¬ (dest ≤ j ∧ j < dest + len)) :
    (copyWithin xs src dest len)[j] = xs[j] := by
  simp [copyWithin, Array.getElem_mapIdx, h]

/-- Inside the written range a position takes the element of the written array. -/
lemma getElem_copyFromSlice_of_mem {start : Nat} {ys : Array α}
    (hj : j < (copyFromSlice xs start ys).size) (h₁ : start ≤ j) (h₂ : j < start + ys.size) :
    (copyFromSlice xs start ys)[j] = ys[j - start] := by
  have hs : j - start < ys.size := by omega
  simp [copyFromSlice, Array.getElem_mapIdx, h₁, h₂, Array.getD, hs]

/-- Outside the written range a position keeps its element. -/
lemma getElem_copyFromSlice_of_not_mem {start : Nat} {ys : Array α}
    (hj : j < (copyFromSlice xs start ys).size) (hx : j < xs.size)
    (h : ¬ (start ≤ j ∧ j < start + ys.size)) :
    (copyFromSlice xs start ys)[j] = xs[j] := by
  simp [copyFromSlice, Array.getElem_mapIdx, h]

end SliceCopies

/-- Position `j` of a cut to the last `n` is position `xs.size - n + j` of the whole. -/
lemma getElem_keepLast {n : Nat} {xs : Array α} (hj : j < (keepLast n xs).size)
    (hx : xs.size - n + j < xs.size) : (keepLast n xs)[j] = xs[xs.size - n + j] := by
  simp [keepLast, Array.getElem_extract]

namespace SampleWindow

/-- **One append is a cut.**  Whichever branch an append takes, the window after it holds the
last `capacity` samples of the old window followed by the batch: an empty batch leaves the
window, a batch of at least `capacity` samples gives its own last ones, and a shorter batch of
`k` samples leaves position `j` the old sample `j + k` below `capacity - k` and the batch's
sample `j - (capacity - k)` from there on. -/
theorem values_append (w : SampleWindow) (batch : Array UInt32) :
    (w.append batch).values = keepLast w.capacity (w.values ++ batch) := by
  unfold append
  dsimp only
  split
  · -- an empty batch: nothing is cut
    rename_i h0
    rw [Array.eq_empty_of_size_eq_zero h0, Array.append_empty]
    exact (keepLast_of_size_le (Nat.le_refl _)).symm
  split
  · -- a long batch: position `j` takes the batch's sample `batch.size - capacity + j`
    rename_i h0 hge
    apply Array.ext (by simp [size_keepLast, capacity])
    intro j h₁ h₂
    have hj : j < w.values.size := by simpa using h₁
    rw [getElem_keepLast h₂ (by simp [capacity]; omega),
      getElem_copyFromSlice_of_mem h₁ (Nat.zero_le j) (by simp; omega),
      Array.getElem_append_right (by simp [capacity]; omega)]
    simp only [Array.getElem_extract]
    congr 1
    simp [capacity]
    omega
  · -- a short batch: the old samples moved left by `batch.size`, then the batch in the tail
    rename_i h0 hlt
    apply Array.ext (by simp [size_keepLast, capacity])
    intro j h₁ h₂
    have hj : j < w.values.size := by simpa using h₁
    rw [getElem_keepLast h₂ (by simp [capacity]; omega)]
    by_cases htail : w.values.size - batch.size ≤ j
    · rw [getElem_copyFromSlice_of_mem h₁ htail (by omega),
        Array.getElem_append_right (by simp [capacity]; omega)]
      congr 1
      simp [capacity]
      omega
    · rw [getElem_copyFromSlice_of_not_mem h₁ (by simpa using hj) (by omega),
        getElem_copyWithin_of_mem (by simpa using hj) (Nat.zero_le j) (by omega) (by omega),
        Array.getElem_append_left (by simp [capacity]; omega)]
      congr 1
      simp [capacity]
      omega

/-! ## A window after any appends -/

lemma ext_values {w w' : SampleWindow} (h : w.values = w'.values) : w = w' := by
  cases w
  cases w'
  cases h
  rfl

/-- Appends keep the capacity. -/
lemma capacity_foldl_append (w : SampleWindow) (bs : List (Array UInt32)) :
    (bs.foldl append w).capacity = w.capacity := by
  induction bs generalizing w with
  | nil => rfl
  | cons b bs ih => rw [List.foldl_cons, ih, size_append]

/-- **Appends keep the last samples.**  After any appends the window holds the last `capacity`
samples of its first contents followed by every batch. -/
theorem values_foldl_append (w : SampleWindow) (bs : List (Array UInt32)) :
    (bs.foldl append w).values = keepLast w.capacity (w.values ++ bs.toArray.flatten) := by
  induction bs generalizing w with
  | nil => simp [capacity]
  | cons b bs ih =>
    rw [List.foldl_cons, ih, size_append, values_append,
      keepLast_keepLast_append _ _ (by simp), Array.append_assoc]
    congr 2
    apply Array.ext'
    simp

/-- Four zeros, then two samples, then five. -/
example : ([#[5, 6], #[7, 8, 9, 10, 11]].foldl append (zeros 4)).values = #[8, 9, 10, 11] := by
  decide

/-- Appending in pieces is appending their concatenation at once. -/
theorem foldl_append_eq_append_flatten (w : SampleWindow) (bs : List (Array UInt32)) :
    bs.foldl append w = w.append bs.toArray.flatten :=
  ext_values (by rw [values_foldl_append, values_append])

/-- The newest sample is the last one the window holds. -/
lemma latest_eq_back? (w : SampleWindow) : some w.latest = w.values.back? := by
  have h : w.values.size - 1 < w.values.size := by have := w.size_pos; omega
  simp [latest, Array.back?, Array.getElem?_eq_getElem h]

/-- The newest sample after any appends is the last of the first contents followed by every
batch. -/
theorem latest_foldl_append (w : SampleWindow) (bs : List (Array UInt32)) :
    some (bs.foldl append w).latest = (w.values ++ bs.toArray.flatten).back? := by
  rw [latest_eq_back?, values_foldl_append, back?_keepLast (show 0 < w.capacity from w.size_pos)]

/-- The smaller of two samples is one of them, and below both. -/
lemma min_eq_or_le (a b : UInt32) : (min a b = a ∨ min a b = b) ∧ min a b ≤ a ∧ min a b ≤ b := by
  show ((if a ≤ b then a else b) = a ∨ (if a ≤ b then a else b) = b) ∧
    (if a ≤ b then a else b) ≤ a ∧ (if a ≤ b then a else b) ≤ b
  split
  · simp_all
  · simp_all [UInt32.le_iff_toNat_le]
    omega

/-- The larger of two samples is one of them, and above both. -/
lemma max_eq_or_ge (a b : UInt32) : (max a b = a ∨ max a b = b) ∧ a ≤ max a b ∧ b ≤ max a b := by
  show ((if a ≤ b then b else a) = a ∨ (if a ≤ b then b else a) = b) ∧
    a ≤ (if a ≤ b then b else a) ∧ b ≤ (if a ≤ b then b else a)
  split
  · simp_all
  · simp_all [UInt32.le_iff_toNat_le]
    omega

/-- One pass keeping the least and the greatest sample, started from the pair `(lo, hi)`, ends
on a pair whose first is `lo` or a sample and is below `lo` and every sample, and whose second is
`hi` or a sample and is above `hi` and every sample. -/
lemma foldl_minMax (l : List UInt32) (lo hi : UInt32) :
    let r := l.foldl (fun acc v => (min acc.1 v, max acc.2 v)) (lo, hi)
    (r.1 = lo ∨ r.1 ∈ l) ∧ r.1 ≤ lo ∧ (∀ x ∈ l, r.1 ≤ x) ∧
      (r.2 = hi ∨ r.2 ∈ l) ∧ hi ≤ r.2 ∧ ∀ x ∈ l, x ≤ r.2 := by
  induction l generalizing lo hi with
  | nil => simp
  | cons x xs ih =>
    obtain ⟨hlo, hle, hall, hhi, hge, hall'⟩ := ih (min lo x) (max hi x)
    simp only [List.foldl_cons, List.mem_cons, forall_eq_or_imp] at *
    -- the pass goes on from the pair updated by `x`, which lies between both old bounds
    obtain ⟨h₁, h₃⟩ := min_eq_or_le lo x
    obtain ⟨h₂, h₄⟩ := max_eq_or_ge hi x
    refine ⟨by rcases h₁ with h | h <;> rcases hlo with h' | h' <;> simp_all,
      UInt32.le_trans hle h₃.1, ⟨UInt32.le_trans hle h₃.2, hall⟩,
      by rcases h₂ with h | h <;> rcases hhi with h' | h' <;> simp_all,
      UInt32.le_trans h₄.1 hge, ⟨UInt32.le_trans h₄.2 hge, hall'⟩⟩

/-- **The pass finds the least and the greatest sample.**  Both lie in the window, and every
sample lies between them. -/
theorem minMax_mem_bounds (w : SampleWindow) :
    w.minMax.1 ∈ w.values ∧ w.minMax.2 ∈ w.values ∧
      ∀ x ∈ w.values, w.minMax.1 ≤ x ∧ x ≤ w.minMax.2 := by
  obtain ⟨x, xs, hxs⟩ : ∃ x xs, w.values.toList = x :: xs :=
    List.exists_cons_of_ne_nil (by simpa using Nat.pos_iff_ne_zero.mp w.size_pos)
  -- the first sample replaces both starting bounds, which no sample passes
  have hfirst : (min 0xFFFFFFFF x, max 0 x) = (x, x) := by
    show ((if 0xFFFFFFFF ≤ x then 0xFFFFFFFF else x), (if 0 ≤ x then x else 0)) = (x, x)
    have hx : x ≤ 0xFFFFFFFF := by
      rw [UInt32.le_iff_toNat_le]
      have := x.toNat_lt
      simp
      omega
    by_cases h : 0xFFFFFFFF ≤ x
    · simp [UInt32.le_antisymm hx h, UInt32.zero_le]
    · simp [h, UInt32.zero_le]
  have hmm : w.minMax = xs.foldl (fun acc v => (min acc.1 v, max acc.2 v)) (x, x) := by
    rw [minMax, ← Array.foldl_toList, hxs, List.foldl_cons, hfirst]
  obtain ⟨hlo, hle, hall, hhi, hge, hall'⟩ := foldl_minMax xs x x
  simp only [← Array.mem_toList_iff, hxs, List.mem_cons, forall_eq_or_imp, hmm]
  exact ⟨hlo, hhi, ⟨hle, hge⟩, fun y hy => ⟨hall y hy, hall' y hy⟩⟩

/-- The samples a window made from given samples starts with. -/
lemma values_ofArray (v : Array UInt32) : (ofArray v).values = if v = #[] then #[0] else v := by
  unfold ofArray
  split
  · rename_i h
    have hne : v ≠ #[] := fun he => by simp [he] at h
    simp [hne]
  · rename_i h
    have he : v = #[] := Array.eq_empty_of_size_eq_zero (by omega)
    simp [he, zeros]

/-- **A window after any appends.**  A window made with room for `c` samples holds `max c 1`
zeros; one made from given samples holds them, or one zero when none are given.  After any
appends, with batches of any lengths, any window keeps its capacity and holds the last
`capacity` samples of its first contents followed by every batch, so that the appends amount to
one append of their concatenation; its newest sample is the last of all those samples; and its
pass for the least and greatest sample finds both. -/
theorem appends_keep_last_samples (c : Nat) (v : Array UInt32) :
    (zeros c).values = Array.replicate (max c 1) 0 ∧
    (ofArray v).values = (if v = #[] then #[0] else v) ∧
    ∀ (w : SampleWindow) (bs : List (Array UInt32)),
      (bs.foldl append w).capacity = w.capacity ∧
      (bs.foldl append w).values = keepLast w.capacity (w.values ++ bs.toArray.flatten) ∧
      bs.foldl append w = w.append bs.toArray.flatten ∧
      some (bs.foldl append w).latest = (w.values ++ bs.toArray.flatten).back? ∧
      (bs.foldl append w).minMax.1 ∈ (bs.foldl append w).values ∧
      (bs.foldl append w).minMax.2 ∈ (bs.foldl append w).values ∧
      ∀ x ∈ (bs.foldl append w).values,
        (bs.foldl append w).minMax.1 ≤ x ∧ x ≤ (bs.foldl append w).minMax.2 :=
  ⟨rfl, values_ofArray v, fun w bs =>
    ⟨capacity_foldl_append w bs, values_foldl_append w bs, foldl_append_eq_append_flatten w bs,
      latest_foldl_append w bs, minMax_mem_bounds (bs.foldl append w)⟩⟩

end SampleWindow

end WaveScope
