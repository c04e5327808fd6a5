import Mathlib
import WaveScope.Axis.AutoScale
import WaveScope.Proofs.Window
import WaveScope.Proofs.Binary64.Arithmetic

/-!
# The auto-scale target, exactly

The target range of a window is computed in binary64 from its least sample `lo` and its greatest
`hi`: their distance, the flat-signal branch, the headroom product, the floor at `100`, the
midpoint and the range centred on it.  Every value on the way is a whole number of quarters below
`2^35`, so every operation is exact, and the target is exactly `[c - T/2, c + T/2]` with
`c = (lo + hi)/2` and `T = max (3/2 · (hi - lo)) 100`, or `T = 150` for a flat signal.

* `hasValue_minSpan`, `hasValue_headroom`, … give the numbers the constants stand for.
* `representable_int_mul_zpow` says which whole numbers of a power of two are binary64 values.
* `HasValue.maxNum` says that `maxNum` of two finite floats is the larger of their values.
* `hasValue_target` follows the computation of `target` step by step.
* `needsRescale_self` says that a view whose span is the target's span is never asked to give
  way: the product with `1.1` rounds to at least the span, and the product with `0.5` is exact.

**Main statement.**  `target_frames_signal`.
-/

namespace WaveScope

open Numeric

namespace Numeric

open Float.Model

/-- A whole number of `2^j` with fewer than 53 bits is a binary64 value. -/
lemma representable_int_mul_zpow {z : ℤ} {j : ℤ} (hz : z.natAbs < 2 ^ 53) (hj₁ : -1074 ≤ j)
    (hj₂ : j ≤ 971) : Representable (z * 2 ^ j) :=
  ⟨z.natAbs, j, hz, hj₁, hj₂, by
    rw [abs_mul, abs_of_pos (zpow_pos two_pos j : (0 : ℚ) < 2 ^ j), Nat.cast_natAbs, Int.cast_abs]⟩

/-- A whole number of quarters with fewer than 53 bits is a binary64 value. -/
lemma representable_quarters {q : ℚ} (z : ℤ) (hz : -2 ^ 53 < z ∧ z < 2 ^ 53) (hq : q = z / 4) :
    Representable q := by
  have h := representable_int_mul_zpow (z := z) (j := -2) (by omega) (by norm_num) (by norm_num)
  rw [hq]
  convert h using 1
  rw [zpow_neg, zpow_ofNat]
  ring

/-- Half of a binary64 value of at least one is a binary64 value. -/
lemma representable_half {q : ℚ} (h : Representable q) (hq : 1 ≤ q) : Representable (q / 2) := by
  obtain ⟨n, j, hn, hj₁, hj₂, hq'⟩ := h
  rw [abs_of_pos (by linarith)] at hq'
  -- a value of at least one has its units at `2^-52` or above
  have hj : -52 ≤ j := by
    by_contra hcon
    have h₁ : (n : ℚ) * 2 ^ j < 2 ^ (j + 53) := magnitude_lt j hn
    have h₂ : (2 : ℚ) ^ (j + 53) ≤ 1 := zpow_le_one_of_nonpos₀ (by norm_num) (by omega)
    linarith
  refine ⟨n, j - 1, hn, by omega, by omega, ?_⟩
  rw [abs_of_pos (by linarith), hq', zpow_sub_one₀ two_ne_zero]
  ring

lemma HasValue.isNaN {x : Float} {a : ℚ} (h : HasValue x a) : x.isNaN = false := by
  have hf : x.toModel.unpack.isFinite = true := h.isFinite
  show x.toModel.unpack.isNaN = false
  generalize x.toModel.unpack = u at hf
  cases u <;> simp_all [UnpackedFloat.isFinite, UnpackedFloat.isNaN]

/-- `maxNum` of two finite floats stands for the larger of their values. -/
lemma HasValue.maxNum {x y : Float} {a b : ℚ} (hx : HasValue x a) (hy : HasValue y b) :
    HasValue (maxNum x y) (max a b) := by
  unfold Numeric.maxNum
  rw [if_neg (by rw [hx.isNaN]; decide), if_neg (by rw [hy.isNaN]; decide)]
  by_cases hab : a < b
  · rw [if_pos ((hx.lt_iff hy).mpr hab), max_eq_right hab.le]
    exact hy
  · rw [if_neg (mt (hx.lt_iff hy).mp hab), max_eq_left (not_lt.mp hab)]
    exact hx

end Numeric

namespace AutoScale

lemma hasValue_one : HasValue 1.0 1 :=
  hasValue_of_value_eq (by decide +kernel) (by decide +kernel)

lemma hasValue_two : HasValue 2 2 :=
  hasValue_of_value_eq (by decide +kernel) (by decide +kernel)

lemma hasValue_hundred : HasValue 100.0 100 :=
  hasValue_of_value_eq (by decide +kernel) (by decide +kernel)

lemma hasValue_minSpan : HasValue minSpan 100 :=
  hasValue_of_value_eq (by decide +kernel) (by decide +kernel)

lemma hasValue_headroom : HasValue headroom (3 / 2) :=
  hasValue_of_value_eq (by decide +kernel) (by decide +kernel)

lemma hasValue_tooLoose : HasValue tooLoose (1 / 2) :=
  hasValue_of_value_eq (by decide +kernel) (by decide +kernel)

/-- `1.1` is not exactly a binary64 value; the nearest one lies just above it. -/
lemma hasValue_tooTight : HasValue tooTight (0x1199999999999A / 2 ^ 52) :=
  hasValue_of_value_eq (by decide +kernel) (by decide +kernel)

/-- A view whose span is a positive float below `2^999` is never asked to give way to a target
of the same span: the span times `1.1` rounds to at least the span, and the span times `0.5` is
half of it, exactly. -/
theorem needsRescale_self {t : Float} {a : ℚ} (ht : HasValue t a) (ha : 1 ≤ a)
    (hbound : a < 2 ^ 999) : needsRescale t t = false := by
  have htight : (1 : ℚ) ≤ 0x1199999999999A / 2 ^ 52 := by norm_num
  obtain ⟨c, hc, hac⟩ := ht.le_mul hasValue_tooTight (by linarith) htight (by
    calc a * (0x1199999999999A / 2 ^ 52) < 2 ^ 999 * 2 := by
          apply mul_lt_mul hbound (by norm_num) (by norm_num) (by norm_num)
      _ = 2 ^ 1000 := by rw [← pow_succ])
  have hhalf : HasValue (t * tooLoose) (a * (1 / 2)) := ht.mul hasValue_tooLoose (by
    rw [mul_one_div]
    exact representable_half ht.representable ha)
  have h₁ : ¬ t > t * tooTight := fun h => absurd ((hc.lt_iff ht).mp h) (not_lt.mpr hac)
  have h₂ : ¬ t < t * tooLoose := fun h => by
    have := (ht.lt_iff hhalf).mp h
    linarith
  simp [needsRescale, ht.isFinite, h₁, h₂]

/-! ## The computation of the target -/

section Target

variable {lo hi : UInt32}

/-- The target depends on the window only through its least and its greatest sample. -/
lemma target_eq_of_minMax {w : SampleWindow} (hmm : w.minMax = (lo, hi)) :
    target w = AxisRange.centered ((lo.toFloat + hi.toFloat) / 2)
      (maxNum ((if hi.toFloat - lo.toFloat < 1.0 then minSpan else hi.toFloat - lo.toFloat) *
        headroom) minSpan) := by
  simp only [target, hmm]

/-- The signal's span: the distance of the extremes, or `100` when they are equal. -/
lemma hasValue_signal (hle : lo ≤ hi) :
    HasValue (if hi.toFloat - lo.toFloat < 1.0 then minSpan else hi.toFloat - lo.toFloat)
      (if lo = hi then 100 else (hi.toNat - lo.toNat : ℚ)) := by
  have hLH := UInt32.le_iff_toNat_le.mp hle
  have hH := hi.toNat_lt
  have hraw : HasValue (hi.toFloat - lo.toFloat) ((hi.toNat : ℚ) - lo.toNat) :=
    (hasValue_toFloat hi).sub (hasValue_toFloat lo)
      (representable_quarters (4 * ((hi.toNat : ℤ) - lo.toNat)) (by omega) (by push_cast; ring))
  by_cases heq : lo = hi
  · subst heq
    rw [if_pos ((hraw.lt_iff hasValue_one).mpr (by simp)), if_pos rfl]
    exact hasValue_minSpan
  · -- distinct extremes are at least one apart
    have hne : lo.toNat ≠ hi.toNat := fun h => heq (UInt32.toNat_inj.mp h)
    have hge : ¬ ((hi.toNat : ℚ) - lo.toNat < 1) := by
      rw [not_lt, le_sub_iff_add_le]
      exact_mod_cast (show 1 + lo.toNat ≤ hi.toNat by omega)
    rw [if_neg (mt (hraw.lt_iff hasValue_one).mp hge), if_neg heq]
    exact hraw

/-- The target's span: the signal's span with half again as headroom, and never below `100`. -/
lemma hasValue_span (hle : lo ≤ hi) :
    HasValue (maxNum ((if hi.toFloat - lo.toFloat < 1.0 then minSpan else hi.toFloat - lo.toFloat) *
        headroom) minSpan)
      (if lo = hi then 150 else max (3 / 2 * (hi.toNat - lo.toNat : ℚ)) 100) := by
  have hLH := UInt32.le_iff_toNat_le.mp hle
  have hH := hi.toNat_lt
  have hsignal := hasValue_signal hle
  -- the signal's span is a natural number below `2^32`
  obtain ⟨s, hs, hsb⟩ : ∃ s : ℕ, (if lo = hi then 100 else (hi.toNat - lo.toNat : ℚ)) = s ∧
      s < 2 ^ 32 := by
    by_cases heq : lo = hi
    · exact ⟨100, by simp [heq], by norm_num⟩
    · exact ⟨hi.toNat - lo.toNat, by simp [heq, Nat.cast_sub hLH], by omega⟩
  rw [hs] at hsignal
  have hprod := hsignal.mul hasValue_headroom
    (representable_quarters (6 * s) (by omega) (by push_cast; ring))
  have hmax := hprod.maxNum hasValue_minSpan
  convert hmax using 1
  by_cases heq : lo = hi
  · simp only [heq, if_true] at hs ⊢
    rw [← hs]
    norm_num
  · simp only [heq, if_false] at hs ⊢
    rw [← hs, mul_comm]

/-- A range centred on a float that stands for `c`, with a span that stands for `t ≥ 0`, has
ends that stand for `c - t/2` and `c + t/2` and a span that stands for `t`, when these and `t/2`
are binary64 values. -/
lemma hasValue_centered {cf sf : Float} {c t : ℚ} (hc : HasValue cf c) (hs : HasValue sf t)
    (ht : 0 ≤ t) (h₁ : Representable (t / 2)) (h₂ : Representable (c - t / 2))
    (h₃ : Representable (c + t / 2)) :
    HasValue (AxisRange.centered cf sf).min (c - t / 2) ∧
      HasValue (AxisRange.centered cf sf).max (c + t / 2) ∧
      HasValue (AxisRange.centered cf sf).span t := by
  have hhalf : HasValue (sf.abs / 2) (t / 2) := by
    have h := hs.abs.div hasValue_two two_ne_zero (by rwa [abs_of_nonneg ht])
    rwa [abs_of_nonneg ht] at h
  have hmin : HasValue (cf - sf.abs / 2) (c - t / 2) := hc.sub hhalf h₂
  have hmax : HasValue (cf + sf.abs / 2) (c + t / 2) := hc.add hhalf h₃
  refine ⟨hmin, hmax, ?_⟩
  have hspan := hmax.sub hmin (by rw [add_sub_sub_cancel, add_halves]; exact hs.representable)
  rwa [add_sub_sub_cancel, add_halves] at hspan

/-- **The target, exactly.**  For extremes `lo ≤ hi`, the target is centred on `(lo + hi)/2` and
spans `T`: `150` for a flat signal, else `max (3/2 · (hi - lo)) 100`; both ends and the span are
computed exactly. -/
lemma hasValue_target (hle : lo ≤ hi) :
    let T : ℚ := if lo = hi then 150 else max (3 / 2 * (hi.toNat - lo.toNat : ℚ)) 100
    let c : ℚ := (lo.toNat + hi.toNat : ℚ) / 2
    let r := AxisRange.centered ((lo.toFloat + hi.toFloat) / 2)
      (maxNum ((if hi.toFloat - lo.toFloat < 1.0 then minSpan else hi.toFloat - lo.toFloat) *
        headroom) minSpan)
    HasValue r.min (c - T / 2) ∧ HasValue r.max (c + T / 2) ∧ HasValue r.span T := by
  intro T c r
  have hLH := UInt32.le_iff_toNat_le.mp hle
  have hH := hi.toNat_lt
  -- the span is a whole number of halves, `T = u / 2`
  obtain ⟨u, hu, hub⟩ : ∃ u : ℕ, T = u / 2 ∧ u < 2 ^ 35 := by
    by_cases heq : lo = hi
    · exact ⟨300, by simp only [T, heq, if_true]; norm_num, by norm_num⟩
    · refine ⟨max (3 * (hi.toNat - lo.toNat)) 200, ?_, by omega⟩
      simp only [T, heq, if_false]
      push_cast [Nat.cast_sub hLH]
      rw [← max_div_div_right (by norm_num : (0 : ℚ) ≤ 2)]
      congr 1 <;> ring
  have hsum := (hasValue_toFloat lo).add (hasValue_toFloat hi)
    (representable_quarters (4 * ((lo.toNat : ℤ) + hi.toNat)) (by omega) (by push_cast; ring))
  have hc : HasValue ((lo.toFloat + hi.toFloat) / 2) c := hsum.div hasValue_two (by norm_num)
    (representable_quarters (2 * ((lo.toNat : ℤ) + hi.toNat)) (by omega) (by push_cast; ring))
  exact hasValue_centered hc (hasValue_span hle) (by rw [hu]; positivity)
    (representable_quarters u (by omega) (by rw [hu]; push_cast; ring))
    (representable_quarters (2 * ((lo.toNat : ℤ) + hi.toNat) - u) (by omega)
      (by rw [hu]; push_cast; ring))
    (representable_quarters (2 * ((lo.toNat : ℤ) + hi.toNat) + u) (by omega)
      (by rw [hu]; push_cast; ring))

end Target

/-- **The target frames the signal.**  For every window whose least sample is `lo` and greatest
is `hi`, the target range is exactly `[c - T/2, c + T/2]` with `c = (lo + hi)/2`, and `T = 150`
when `lo = hi`, else `T = max (3/2 · (hi - lo)) 100`: every binary64 operation on the way is
exact.  Hence the target reaches down to `lo` and up to `hi`, spans at least `100`, and, once
applied, is never asked to give way to itself. -/
theorem target_frames_signal (w : SampleWindow) {lo hi : UInt32}
    (hlo : lo ∈ w.values ∧ ∀ v ∈ w.values, lo ≤ v) (hhi : hi ∈ w.values ∧ ∀ v ∈ w.values, v ≤ hi) :
    let T : ℚ := if lo = hi then 150 else max (3 / 2 * (hi.toNat - lo.toNat : ℚ)) 100
    let c : ℚ := (lo.toNat + hi.toNat : ℚ) / 2
    (target w).min.isFinite = true ∧ value (target w).min = c - T / 2 ∧
      (target w).max.isFinite = true ∧ value (target w).max = c + T / 2 ∧
      (target w).min ≤ lo.toFloat ∧ (target w).max ≥ hi.toFloat ∧ (target w).span ≥ 100.0 ∧
      autoScale w (target w) = none := by
  intro T c
  -- the window's pass finds exactly these extremes
  obtain ⟨hmin, hmax, hall⟩ := SampleWindow.minMax_mem_bounds w
  have hmm : w.minMax = (lo, hi) :=
    Prod.ext (UInt32.le_antisymm (hall lo hlo.1).1 (hlo.2 _ hmin))
      (UInt32.le_antisymm (hhi.2 _ hmax) (hall hi hhi.1).2)
  have hle : lo ≤ hi := hhi.2 lo hlo.1
  obtain ⟨hr₁, hr₂, hspan⟩ := hasValue_target hle
  -- the span covers the distance of the extremes and is at least `100`
  have hLH : (lo.toNat : ℚ) ≤ hi.toNat := by exact_mod_cast UInt32.le_iff_toNat_le.mp hle
  have hcover : (hi.toNat : ℚ) - lo.toNat ≤ T ∧ 100 ≤ T := by
    by_cases heq : lo = hi
    · simp only [T, heq, if_true, sub_self]
      norm_num
    · simp only [T, heq, if_false]
      exact ⟨by linarith [le_max_left (3 / 2 * ((hi.toNat : ℚ) - lo.toNat)) 100], le_max_right _ _⟩
  have hbound : T < 2 ^ 999 := by
    have hH : (hi.toNat : ℚ) < 2 ^ 32 := by exact_mod_cast hi.toNat_lt
    have hL : (0 : ℚ) ≤ lo.toNat := by positivity
    have h32 : (2 : ℚ) ^ 32 = 4294967296 := by norm_num
    have h34 : (2 : ℚ) ^ 34 = 17179869184 := by norm_num
    have hT : T < 2 ^ 34 := by
      by_cases heq : lo = hi
      · simp only [T, heq, if_true]
        linarith
      · simp only [T, heq, if_false]
        exact max_lt (by linarith) (by linarith)
    exact hT.trans_le (pow_le_pow_right₀ (by norm_num) (by norm_num))
  have hnone : autoScale w (target w) = none := by
    rw [autoScale_eq_none_iff, target_eq_of_minMax hmm]
    exact needsRescale_self hspan (by linarith) hbound
  refine ⟨?_, ?_, ?_, ?_, ?_, ?_, ?_, hnone⟩
  all_goals rw [target_eq_of_minMax hmm]
  · exact hr₁.isFinite
  · exact hr₁.value_eq
  · exact hr₂.isFinite
  · exact hr₂.value_eq
  · rw [hr₁.le_iff (hasValue_toFloat lo)]
    linarith
  · rw [ge_iff_le, (hasValue_toFloat hi).le_iff hr₂]
    linarith
  · rw [ge_iff_le, hasValue_hundred.le_iff hspan]
    exact hcover.2

/-- Three samples from `1000` to `3000`: the target is centred on `2000` and spans `3000`. -/
theorem target_frames_signal_three :
    ((1000 : UInt32) ∈ (SampleWindow.ofArray #[1000, 3000, 2000]).values ∧
        ∀ v ∈ (SampleWindow.ofArray #[1000, 3000, 2000]).values, (1000 : UInt32) ≤ v) ∧
      ((3000 : UInt32) ∈ (SampleWindow.ofArray #[1000, 3000, 2000]).values ∧
        ∀ v ∈ (SampleWindow.ofArray #[1000, 3000, 2000]).values, v ≤ (3000 : UInt32)) ∧
      let T : ℚ := if (1000 : UInt32) = 3000 then 150
        else max (3 / 2 * ((3000 : UInt32).toNat - (1000 : UInt32).toNat : ℚ)) 100
      let c : ℚ := ((1000 : UInt32).toNat + (3000 : UInt32).toNat : ℚ) / 2
      (target (SampleWindow.ofArray #[1000, 3000, 2000])).min.isFinite = true ∧
        value (target (SampleWindow.ofArray #[1000, 3000, 2000])).min = c - T / 2 ∧
        (target (SampleWindow.ofArray #[1000, 3000, 2000])).max.isFinite = true ∧
        value (target (SampleWindow.ofArray #[1000, 3000, 2000])).max = c + T / 2 ∧
        (target (SampleWindow.ofArray #[1000, 3000, 2000])).min ≤ (1000 : UInt32).toFloat ∧
        (target (SampleWindow.ofArray #[1000, 3000, 2000])).max ≥ (3000 : UInt32).toFloat ∧
        (target (SampleWindow.ofArray #[1000, 3000, 2000])).span ≥ 100.0 ∧
        autoScale (SampleWindow.ofArray #[1000, 3000, 2000])
          (target (SampleWindow.ofArray #[1000, 3000, 2000])) = none :=
  ⟨by simp [SampleWindow.ofArray], by simp [SampleWindow.ofArray],
    target_frames_signal _ (by simp [SampleWindow.ofArray]) (by simp [SampleWindow.ofArray])⟩

example : value (target (SampleWindow.ofArray #[1000, 3000, 2000])).min = 500 := by
  decide +kernel

example : value (target (SampleWindow.ofArray #[7, 7])).max = 82 := by
  decide +kernel

end AutoScale

end WaveScope
