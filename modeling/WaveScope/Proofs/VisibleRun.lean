import Mathlib
import WaveScope.Snapshot
import WaveScope.Proofs.Trace
import WaveScope.Proofs.Binary64.Extended

/-!
# The positions of a horizontal range form one run

The samples of a horizontal range `[a, b]` are picked by converting each position `i` to binary64
and comparing it with the two bounds.  Below `2^53` the conversion is exact, so the test reads the
bounds as points of the extended line: position `i` is picked exactly when `a ≤ i ≤ b` there, and
never when a bound is NaN.  The picked positions are then the integers from `max 0 ⌈a⌉` to
`min (N - 1) ⌊b⌋`, and a snapshot saves the slice of the window over them.  The exporter and the
trace both rely on this.

* `InBounds a b i` says `a ≤ i ≤ b` on the extended line; `runStart` and `runEnd` are the ends of
  the run, by ceiling and floor, with a NaN bound giving an empty run.
* `ofNat_ge_and_le_iff`: the test the window makes on a position below `2^53` is `InBounds`.
* `inBounds_iff_mem_run`: a position of the window is in bounds exactly when it lies in
  `[runStart, runEnd)`; `le_onLine_iff_firstAtOrAbove_le` and `onLine_le_iff_lt_endAtOrBelow` do
  one bound each.
* `filter_zipIdx_range`: picking the entries of a numbered list by number keeps one slice of it.

**Main statement.**  `within_contiguous_run`.
-/

namespace WaveScope.SampleWindow

open Numeric

/-- The first of `N` positions at or above a point of the extended line: `max 0 ⌈q⌉` at `q`.
Every position is at or above `-∞`, and none at or above `+∞`. -/
def firstAtOrAbove (N : ℕ) : WithBot (WithTop ℚ) → ℕ
  | ⊥ => 0
  | ⊤ => N
  | (q : ℚ) => ⌈q⌉.toNat

/-- One past the last of `N` positions at or below a point of the extended line: one past
`min (N - 1) ⌊q⌋` at `q`, and `0` when that is negative.  Every position is at or below `+∞`, and
none at or below `-∞`. -/
def endAtOrBelow (N : ℕ) : WithBot (WithTop ℚ) → ℕ
  | ⊥ => 0
  | ⊤ => N
  | (q : ℚ) => (min ((N : ℤ) - 1) ⌊q⌋ + 1).toNat

/-- The first position of the run that the bound `a` starts in a window of `N` samples; a NaN
bound starts it past the last position. -/
def runStart (N : ℕ) (a : Float) : ℕ := ((place a).map (firstAtOrAbove N)).getD N

/-- One past the last position of the run that the bound `b` ends in a window of `N` samples; a
NaN bound ends it before the first position. -/
def runEnd (N : ℕ) (b : Float) : ℕ := ((place b).map (endAtOrBelow N)).getD 0

/-- Position `i` lies in `[a, b]`, the bounds read as points of the extended line.  A NaN bound
lies nowhere, so no position lies in bounds it makes. -/
def InBounds (a b : Float) (i : ℕ) : Prop :=
  ∃ p q, place a = some p ∧ place b = some q ∧ p ≤ onLine i ∧ onLine i ≤ q

/-! ## The test on one position -/

/-- Below `2^53` a position converts to binary64 exactly. -/
lemma place_ofNat_of_lt {i : ℕ} (hi : i < 2 ^ 53) : place (Float.ofNat i) = some (onLine i) := by
  rw [place_ofNat, roundLine_of_representable (representable_of_lt hi)]

/-- The window's test on a position below `2^53` is `InBounds`: each comparison reads its bound
as a point of the line, and a comparison with NaN fails. -/
theorem ofNat_ge_and_le_iff {a b : Float} {i : ℕ} (hi : i < 2 ^ 53) :
    (Float.ofNat i ≥ a && Float.ofNat i ≤ b) = true ↔ InBounds a b i := by
  have hx := place_ofNat_of_lt hi
  simp only [Bool.and_eq_true, decide_eq_true_eq, ge_iff_le]
  constructor
  · rintro ⟨ha, hb⟩
    obtain ⟨⟨p, hp⟩, -⟩ := exists_place_of_le ha
    obtain ⟨-, ⟨q, hq⟩⟩ := exists_place_of_le hb
    exact ⟨p, q, hp, hq, (le_iff_place hp hx).mp ha, (le_iff_place hx hq).mp hb⟩
  · rintro ⟨p, q, hp, hq, hpi, hiq⟩
    exact ⟨(le_iff_place hp hx).mpr hpi, (le_iff_place hx hq).mpr hiq⟩

/-! ## The run by ceiling and floor -/

section Run

variable {N i : ℕ}

/-- A position of the window is at or above a point exactly when the run starts at or before it. -/
lemma le_onLine_iff_firstAtOrAbove_le (hi : i < N) (p : WithBot (WithTop ℚ)) :
    p ≤ onLine i ↔ firstAtOrAbove N p ≤ i := by
  induction p using WithBot.recBotCoe with
  | bot => simp [firstAtOrAbove]
  | coe p =>
    induction p using WithTop.recTopCoe with
    | top => simpa [firstAtOrAbove] using hi
    | coe q =>
      show onLine q ≤ onLine i ↔ ⌈q⌉.toNat ≤ i
      rw [onLine_le_onLine, Int.toNat_le, Int.ceil_le, Int.cast_natCast]

/-- A position of the window is at or below a point exactly when the run ends after it. -/
lemma onLine_le_iff_lt_endAtOrBelow (hi : i < N) (q : WithBot (WithTop ℚ)) :
    onLine i ≤ q ↔ i < endAtOrBelow N q := by
  induction q using WithBot.recBotCoe with
  | bot => simp [endAtOrBelow]
  | coe q =>
    induction q using WithTop.recTopCoe with
    | top => simpa [endAtOrBelow] using hi
    | coe q =>
      show onLine i ≤ onLine q ↔ i < (min ((N : ℤ) - 1) ⌊q⌋ + 1).toNat
      have hfloor : (i : ℚ) ≤ q ↔ (i : ℤ) ≤ ⌊q⌋ := by rw [Int.le_floor, Int.cast_natCast]
      rw [onLine_le_onLine, hfloor, Int.lt_toNat]
      omega

/-- **Run membership.**  A position of a window of `N` samples lies in `[a, b]` exactly when it
lies in `[runStart N a, runEnd N b)`. -/
theorem inBounds_iff_mem_run (hi : i < N) (a b : Float) :
    InBounds a b i ↔ runStart N a ≤ i ∧ i < runEnd N b := by
  unfold InBounds runStart runEnd
  cases place a with
  | none => simp; omega
  | some p =>
    cases place b with
    | none => simp
    | some q =>
      simp [le_onLine_iff_firstAtOrAbove_le hi, onLine_le_iff_lt_endAtOrBelow hi]

lemma endAtOrBelow_le (q : WithBot (WithTop ℚ)) : endAtOrBelow N q ≤ N := by
  induction q using WithBot.recBotCoe with
  | bot => simp [endAtOrBelow]
  | coe q =>
    induction q using WithTop.recTopCoe with
    | top => simp [endAtOrBelow]
    | coe q =>
      show (min ((N : ℤ) - 1) ⌊q⌋ + 1).toNat ≤ N
      omega

lemma runEnd_le (b : Float) : runEnd N b ≤ N := by
  unfold runEnd
  cases place b with
  | none => simp
  | some q => exact endAtOrBelow_le q

/-- A NaN bound makes the run empty. -/
lemma runEnd_le_runStart_of_isNaN {a b : Float} (h : a.isNaN = true ∨ b.isNaN = true) :
    runEnd N b ≤ runStart N a := by
  rcases h with ha | hb
  · simpa [runStart, place_eq_none_iff.mpr ha] using runEnd_le b
  · simp [runEnd, place_eq_none_iff.mpr hb]

end Run

/-! ## Picking by number from a numbered list -/

/-- No entry numbered below `lo` is picked. -/
lemma filter_zipIdx_eq_nil_of_le {α : Type} {l : List α} {k lo hi : ℕ} (h : k + l.length ≤ lo) :
    (l.zipIdx k).filter (fun p => decide (lo ≤ p.2 ∧ p.2 < hi)) = [] := by
  refine List.filter_eq_nil_iff.mpr fun ⟨x, i⟩ hp => ?_
  have := (List.mem_zipIdx hp).2.1
  simp only [decide_eq_true_eq, not_and, not_lt]
  omega

/-- Picking the entries numbered `lo ≤ k < hi` from a list numbered from zero keeps the slice
`[lo, hi)`, numbered from `lo`. -/
lemma filter_zipIdx_range {α : Type} (l : List α) (lo hi : ℕ) :
    l.zipIdx.filter (fun p => decide (lo ≤ p.2 ∧ p.2 < hi)) = (l.extract lo hi).zipIdx lo := by
  by_cases hlo : lo ≤ l.length
  · -- cut the list at `lo` and again `hi - lo` later: the entries before the slice are numbered
    -- below `lo`, those after it from `hi` on
    have hA : (l.take lo).length = lo := by simp [hlo]
    conv_lhs => rw [← List.take_append_drop lo l, ← List.take_append_drop (hi - lo) (l.drop lo)]
    rw [List.zipIdx_append, List.zipIdx_append, List.filter_append, List.filter_append, hA,
      zero_add, List.extract_eq_take_drop]
    have h₁ : (l.take lo).zipIdx.filter (fun p => decide (lo ≤ p.2 ∧ p.2 < hi)) = [] :=
      filter_zipIdx_eq_nil_of_le (by rw [hA, zero_add])
    have h₂ : (((l.drop lo).take (hi - lo)).zipIdx lo).filter
        (fun p => decide (lo ≤ p.2 ∧ p.2 < hi)) = ((l.drop lo).take (hi - lo)).zipIdx lo := by
      refine List.filter_eq_self.mpr fun ⟨x, k⟩ hp => ?_
      have := List.mem_zipIdx hp
      simp only [List.length_take, decide_eq_true_eq] at this ⊢
      omega
    have h₃ : (((l.drop lo).drop (hi - lo)).zipIdx (lo + ((l.drop lo).take (hi - lo)).length)).filter
        (fun p => decide (lo ≤ p.2 ∧ p.2 < hi)) = [] := by
      refine List.filter_eq_nil_iff.mpr fun ⟨x, k⟩ hp => ?_
      have := List.mem_zipIdx hp
      simp only [List.length_take, List.length_drop, decide_eq_true_eq, not_and, not_lt] at this ⊢
      omega
    rw [h₁, h₂, h₃, List.nil_append, List.append_nil]
  · -- past the end there is no slice, and every entry is numbered below `lo`
    have hdrop : l.drop lo = [] := List.drop_eq_nil_of_le (by omega)
    rw [List.extract_eq_take_drop, hdrop, List.take_nil, List.zipIdx_nil]
    exact filter_zipIdx_eq_nil_of_le (by omega)

/-! ## The samples of a range -/

/-- The pairs of a range are the window's samples at the positions in bounds. -/
theorem mem_within_iff (w : SampleWindow) {a b : Float} (hN : w.capacity < 2 ^ 53) (i : ℕ)
    (v : UInt32) : (i, v) ∈ w.within a b ↔ w.get? i = some v ∧ InBounds a b i := by
  rw [← Array.mem_toList_iff, View.toList_within, List.mem_map]
  constructor
  · rintro ⟨⟨v, i⟩, hp, heq⟩
    obtain ⟨rfl, rfl⟩ := Prod.mk.inj heq
    obtain ⟨hmem, htest⟩ := List.mem_filter.mp hp
    have hget : w.values.toList[i]? = some v := List.mem_zipIdx_iff_getElem?.mp hmem
    have hi : i < w.capacity := by simpa [capacity] using (List.getElem?_eq_some_iff.mp hget).1
    exact ⟨by simpa [get?] using hget, (ofNat_ge_and_le_iff (hi.trans hN)).mp htest⟩
  · rintro ⟨hget, hin⟩
    have hi : i < w.capacity := (Array.getElem?_eq_some_iff.mp hget).1
    refine ⟨(v, i), List.mem_filter.mpr ⟨?_, (ofNat_ge_and_le_iff (hi.trans hN)).mpr hin⟩, rfl⟩
    exact List.mem_zipIdx_iff_getElem?.mpr (by simpa [get?] using hget)

/-- **The run.**  The pairs of a range are the slice of the window over `[runStart, runEnd)`,
each with its position. -/
theorem within_eq_run (w : SampleWindow) (a b : Float) (hN : w.capacity < 2 ^ 53) :
    w.within a b = ((w.values.extract (runStart w.capacity a) (runEnd w.capacity b)).zipIdx
      (runStart w.capacity a)).map Prod.swap := by
  apply Array.toList_inj.mp
  rw [View.toList_within, Array.toList_map, Array.toList_zipIdx, Array.toList_extract,
    ← filter_zipIdx_range]
  congr 1
  apply List.filter_congr
  rintro ⟨v, i⟩ hp
  have hi : i < w.capacity := by simpa [capacity] using (List.mem_zipIdx hp).2.1
  rw [Bool.eq_iff_iff, ofNat_ge_and_le_iff (hi.trans hN), decide_eq_true_iff,
    inBounds_iff_mem_run hi]

example : (ofArray #[10, 20, 30, 40]).within (-1.5) 2.5 = #[(0, 10), (1, 20), (2, 30)] := by
  decide +kernel

/-- A range has no samples exactly when its run is empty. -/
theorem within_eq_empty_iff (w : SampleWindow) (a b : Float) (hN : w.capacity < 2 ^ 53) :
    w.within a b = #[] ↔ runEnd w.capacity b ≤ runStart w.capacity a := by
  have hend : runEnd w.capacity b ≤ w.values.size := runEnd_le b
  rw [within_eq_run w a b hN, Array.map_eq_empty_iff, Array.zipIdx_eq_empty_iff,
    Array.extract_eq_empty_iff, Nat.min_eq_left hend]

/-- A snapshot saves the slice of the window over the run. -/
theorem select_eq_extract (w : SampleWindow) (r : AxisRange) (hN : w.capacity < 2 ^ 53) :
    Snapshot.select w r =
      w.values.extract (runStart w.capacity r.min) (runEnd w.capacity r.max) := by
  rw [Snapshot.select, within_eq_run w _ _ hN, Array.map_map]
  exact Array.zipIdx_map_fst _ _

/-- **Main statement.**  In a window of fewer than `2^53` samples, the pairs of the range `[a, b]`
are the window's samples at the positions `i` with `a ≤ i ≤ b`, in increasing position; they are
the slice over the run from `max 0 ⌈a⌉` to `min (N - 1) ⌊b⌋`, empty exactly when that run is and
whenever a bound is NaN; and a snapshot of `[a, b]` saves that slice. -/
theorem within_contiguous_run (w : SampleWindow) (a b : Float) (hN : w.capacity < 2 ^ 53) :
    (∀ i v, (i, v) ∈ w.within a b ↔ w.get? i = some v ∧ InBounds a b i) ∧
    (w.within a b).toList.Pairwise (fun p q => p.1 < q.1) ∧
    w.within a b = ((w.values.extract (runStart w.capacity a) (runEnd w.capacity b)).zipIdx
      (runStart w.capacity a)).map Prod.swap ∧
    (w.within a b = #[] ↔ runEnd w.capacity b ≤ runStart w.capacity a) ∧
    (a.isNaN = true ∨ b.isNaN = true → w.within a b = #[]) ∧
    Snapshot.select w ⟨a, b⟩ = w.values.extract (runStart w.capacity a) (runEnd w.capacity b) := by
  refine ⟨mem_within_iff w hN, View.within_sorted w a b, within_eq_run w a b hN,
    within_eq_empty_iff w a b hN, fun hnan => ?_, select_eq_extract w ⟨a, b⟩ hN⟩
  exact (within_eq_empty_iff w a b hN).mpr (runEnd_le_runStart_of_isNaN hnan)

/-- Four samples and the range `[0.5, 2.5]`, whose run is the positions `1` and `2`. -/
theorem within_contiguous_run_four :
    let w := ofArray #[10, 20, 30, 40]
    w.capacity < 2 ^ 53 ∧
    (∀ i v, (i, v) ∈ w.within 0.5 2.5 ↔ w.get? i = some v ∧ InBounds 0.5 2.5 i) ∧
    (w.within 0.5 2.5).toList.Pairwise (fun p q => p.1 < q.1) ∧
    w.within 0.5 2.5 = ((w.values.extract (runStart w.capacity 0.5) (runEnd w.capacity 2.5)).zipIdx
      (runStart w.capacity 0.5)).map Prod.swap ∧
    (w.within 0.5 2.5 = #[] ↔ runEnd w.capacity 2.5 ≤ runStart w.capacity 0.5) ∧
    ((0.5 : Float).isNaN = true ∨ (2.5 : Float).isNaN = true → w.within 0.5 2.5 = #[]) ∧
    Snapshot.select w ⟨0.5, 2.5⟩ =
      w.values.extract (runStart w.capacity 0.5) (runEnd w.capacity 2.5) :=
  ⟨by decide, within_contiguous_run _ _ _ (by decide)⟩

end WaveScope.SampleWindow
