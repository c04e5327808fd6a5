import Mathlib
import WaveScope.Sample.Probe
import WaveScope.Proofs.Binary64.Arithmetic

/-!
# The sample under the pointer

`SampleWindow.probe` reads the sample nearest to a data position `x`, provided `0 ≤ x < N` in a
window of `N` samples.  The nearest position is computed in binary64: the integer part by a
saturating conversion to `UInt64`, the fraction by subtracting the integer part back, and one
comparison of the fraction with `0.5`.

* `floor_add_half` reads rounding half up as the integer part, plus one when the fraction is at
  least a half.
* `roundCount_eq` says that for every finite `x ≥ 0` this is the nearest natural number, halves
  rounding up, saturating at `2^64 - 1`.  The subtraction is exact because the integer and the
  fractional part of a binary64 value are binary64 values (`Represents.floor_fract`).
* `isFinite_of_le_of_lt` says that a float that passes the guard is finite, so it stands for a
  rational number.
* `abs_sub_min_round_le` says that the nearest integer, clamped into `[0, N - 1]`, is a point of
  `[0, N - 1]` nearest to the position.

**Main statement.**  `probe_nearest_sample`.
-/

namespace WaveScope

namespace Numeric

open Float.Model Float.Model.UnpackedFloat

lemma hasValue_half : HasValue 0.5 (1 / 2) :=
  hasValue_of_value_eq (by decide +kernel) (by decide +kernel)

/-- A float at or above a finite float and below some float is finite: NaN compares with
nothing, nothing is below `-∞` but `-∞`, and `+∞` is below nothing. -/
lemma isFinite_of_le_of_lt {x y z : Float} (hy : y.isFinite = true) (h₁ : y ≤ x) (h₂ : x < z) :
    x.isFinite = true := by
  rw [le_iff_compare] at h₁
  rw [lt_iff_compare] at h₂
  have hy' : y.toModel.unpack.isFinite = true := hy
  show x.toModel.unpack.isFinite = true
  generalize x.toModel.unpack = u at h₁ h₂ ⊢
  generalize y.toModel.unpack = v at h₁ hy'
  generalize z.toModel.unpack = w at h₂
  cases u with
  | notANumber => simp [UnpackedFloat.compare] at h₂
  | infinity s =>
    cases s with
    | positive =>
      cases w with
      | infinity t => cases t <;> simp [UnpackedFloat.compare, compare] at h₂
      | _ => simp [UnpackedFloat.compare] at h₂
    | negative =>
      cases v <;> simp [UnpackedFloat.compare, UnpackedFloat.isFinite] at h₁ hy'
  | zero => rfl
  | finite => rfl

/-- Rounding half up from the integer part: one more exactly when the fraction is at least a
half. -/
lemma floor_add_half {a : ℚ} (ha : 0 ≤ a) :
    ⌊a + 1 / 2⌋₊ = if 1 / 2 ≤ a - ⌊a⌋₊ then ⌊a⌋₊ + 1 else ⌊a⌋₊ := by
  have hfloor : (⌊a⌋₊ : ℚ) ≤ a := Nat.floor_le ha
  have hfloor' : a < ⌊a⌋₊ + 1 := Nat.lt_floor_add_one a
  rw [Nat.floor_eq_iff (by positivity)]
  split_ifs with hh
  · push_cast
    constructor <;> linarith
  · constructor <;> linarith

/-- **Nearest count.**  For a finite `x ≥ 0`, `roundCount x` is the nearest natural number to
the value of `x`, halves rounding up, saturating at `2^64 - 1`. -/
theorem roundCount_eq {x : Float} {a : ℚ} (hx : HasValue x a) (ha : 0 ≤ a) :
    roundCount x = min (round a).toNat (2 ^ 64 - 1) := by
  have hround : (round a).toNat = ⌊a + 1 / 2⌋₊ := by
    rw [round_eq, Int.floor_toNat]
  have ht := hx.toNat_toUInt64 ha
  obtain ⟨hfl, hfr⟩ := Represents.floor_fract hx ha
  rw [hround]
  unfold roundCount
  rcases lt_or_ge ⌊a⌋₊ (2 ^ 64) with hsmall | hlarge
  · -- the integer part converts back exactly, so the fraction is exact
    have htn : x.toUInt64.toNat = ⌊a⌋₊ := by
      rw [ht]
      omega
    have hback : HasValue x.toUInt64.toFloat ⌊a⌋₊ := by
      have h := hasValue_uint64_toFloat (n := x.toUInt64) (by rw [htn]; exact hfl)
      rwa [htn] at h
    have hcmp : x - x.toUInt64.toFloat ≥ 0.5 ↔ 1 / 2 ≤ a - ⌊a⌋₊ :=
      hasValue_half.le_iff (hx.sub hback hfr)
    rw [floor_add_half ha]
    by_cases hh : 1 / 2 ≤ a - ⌊a⌋₊
    · rw [if_pos (hcmp.mpr hh), if_pos hh, htn]
      rfl
    · rw [if_neg (mt hcmp.mp hh), if_neg hh, htn]
      omega
  · -- saturated: both branches give `2^64 - 1`
    have htn : x.toUInt64.toNat = 2 ^ 64 - 1 := by
      rw [ht]
      omega
    have hge : 2 ^ 64 ≤ ⌊a + 1 / 2⌋₊ :=
      hlarge.trans (Nat.floor_le_floor (by linarith))
    dsimp only
    rw [show Nat.pow 2 64 = 2 ^ 64 from rfl]
    split_ifs <;> rw [htn] <;> omega

end Numeric

open Numeric

/-- The nearest integer to `v ≥ 0`, clamped into `[0, N - 1]`, is a point of `[0, N - 1]`
nearest to `v`: below the clamp it is nearest among all integers, and above it `v` lies past
`N - 1`. -/
lemma abs_sub_min_round_le {v : ℚ} (hv : 0 ≤ v) {N j : ℕ} (hj : j < N) :
    |((min (round v).toNat (N - 1) : ℕ) : ℚ) - v| ≤ |(j : ℚ) - v| := by
  have hr : 0 ≤ round v := by
    rw [round_eq]
    exact Int.floor_nonneg.mpr (by linarith)
  have hcast : (((round v).toNat : ℕ) : ℚ) = round v := by
    exact_mod_cast Int.toNat_of_nonneg hr
  rcases le_or_gt (round v).toNat (N - 1) with hle | hgt
  · rw [min_eq_left hle, hcast, abs_sub_comm, abs_sub_comm (j : ℚ)]
    exact round_le v j
  · -- `v` is at least `N - 1/2`, past every point of `[0, N - 1]`
    have hhalf := abs_sub_round v
    have hN : ((N - 1 : ℕ) : ℚ) + 1 ≤ round v := by
      rw [← hcast]
      exact_mod_cast hgt
    have hjN : (j : ℚ) ≤ ((N - 1 : ℕ) : ℚ) := by exact_mod_cast Nat.le_sub_one_of_lt hj
    rw [min_eq_right hgt.le, abs_of_nonpos (by linarith [(abs_le.mp hhalf).1]),
      abs_of_nonpos (by linarith [(abs_le.mp hhalf).1])]
    linarith

namespace SampleWindow

/-- What a probe returns: a position and the sample there exactly when the guard holds, the
position being the nearest count clamped into the window. -/
lemma probe_eq_some_iff (w : SampleWindow) (x : Float) (h : Hover) :
    w.probe x = some h ↔ (x ≥ 0 ∧ x < Float.ofNat w.capacity) ∧
      h.index = min (roundCount x) (w.capacity - 1) ∧ w.values[h.index]? = some h.value := by
  unfold probe get?
  split
  · rename_i hg
    simp only [Bool.and_eq_true, decide_eq_true_eq] at hg
    simp only [Option.map_eq_some_iff, hg, true_and]
    constructor
    · rintro ⟨v, hv, rfl⟩
      exact ⟨rfl, hv⟩
    · rintro ⟨hi, hv⟩
      exact ⟨h.value, hi ▸ hv, by rw [← hi]⟩
  · rename_i hg
    simp only [Bool.and_eq_true, decide_eq_true_eq] at hg
    simp only [reduceCtorEq, false_iff, not_and]
    exact fun h₁ => absurd h₁ hg

lemma isSome_probe_iff (w : SampleWindow) (x : Float) :
    (w.probe x).isSome ↔ x ≥ 0 ∧ x < Float.ofNat w.capacity := by
  rw [Option.isSome_iff_exists]
  constructor
  · rintro ⟨h, hp⟩
    exact ((probe_eq_some_iff w x h).mp hp).1
  · intro hg
    -- the clamped position lies inside the window, which holds a sample there
    have hlt : min (roundCount x) (w.capacity - 1) < w.values.size := by
      have := w.size_pos
      simp only [capacity]
      omega
    exact ⟨⟨_, w.values[min (roundCount x) (w.capacity - 1)]⟩,
      (probe_eq_some_iff w x _).mpr ⟨hg, rfl, Array.getElem?_eq_getElem hlt⟩⟩

/-- **Probing the nearest sample.**  For every window of `N < 2^64` samples and every float `x`
(NaN and the infinities included), a probe finds a sample exactly when `0 ≤ x < N`, compared in
binary64.  Then `x` is finite, the position found is the nearest natural number to `x`, halves
rounding up, clamped to `N - 1`; it is a position of the window nearest to `x`; and the sample
found is the one the window holds there. -/
theorem probe_nearest_sample (w : SampleWindow) (x : Float) (hN : w.capacity < 2 ^ 64) :
    ((w.probe x).isSome ↔ x ≥ 0 ∧ x < Float.ofNat w.capacity) ∧
      ∀ h, w.probe x = some h →
        x.isFinite = true ∧ h.index = min (round (value x)).toNat (w.capacity - 1) ∧
        (∀ j < w.capacity, |(h.index : ℚ) - value x| ≤ |(j : ℚ) - value x|) ∧
        w.values[h.index]? = some h.value := by
  refine ⟨isSome_probe_iff w x, fun h hp => ?_⟩
  obtain ⟨⟨h₀, hlt⟩, hi, hv⟩ := (probe_eq_some_iff w x h).mp hp
  have hfin : x.isFinite = true := isFinite_of_le_of_lt hasValue_zero.isFinite h₀ hlt
  have hx := hasValue_of_isFinite hfin
  have hnonneg : 0 ≤ value x := (hasValue_zero.le_iff hx).mp h₀
  -- the saturation at `2^64 - 1` is past the last position
  have hidx : h.index = min (round (value x)).toNat (w.capacity - 1) := by
    rw [hi, roundCount_eq hx hnonneg]
    omega
  refine ⟨hfin, hidx, fun j hj => ?_, hv⟩
  rw [hidx]
  exact abs_sub_min_round_le hnonneg hj

/-- Four samples probed at `2.5`: the half rounds up, to the last position. -/
theorem probe_nearest_sample_four :
    (ofArray #[10, 20, 30, 40]).capacity < 2 ^ 64 ∧
      (((ofArray #[10, 20, 30, 40]).probe 2.5).isSome ↔
        (2.5 : Float) ≥ 0 ∧ (2.5 : Float) < Float.ofNat (ofArray #[10, 20, 30, 40]).capacity) ∧
      ∀ h, (ofArray #[10, 20, 30, 40]).probe 2.5 = some h →
        (2.5 : Float).isFinite = true ∧
        h.index = min (round (value 2.5)).toNat ((ofArray #[10, 20, 30, 40]).capacity - 1) ∧
        (∀ j < (ofArray #[10, 20, 30, 40]).capacity,
          |(h.index : ℚ) - value 2.5| ≤ |(j : ℚ) - value 2.5|) ∧
        (ofArray #[10, 20, 30, 40]).values[h.index]? = some h.value :=
  ⟨by decide, probe_nearest_sample _ _ (by decide)⟩

example : (ofArray #[10, 20, 30, 40]).probe 2.5 = some ⟨3, 40⟩ := by decide +kernel

example : (ofArray #[10, 20, 30, 40]).probe 4.0 = none := by decide +kernel

end SampleWindow

end WaveScope
