import Mathlib
import WaveScope.Proofs.Binary64.Encoding

/-!
# Rounding to binary64

Every operation on floats computes its exact result as a mantissa and an exponent, and rounds it
once to 53 significant bits with `roundWithAccuracy`: the mantissa is shifted down to the target
exponent, rounded to nearest, and carried into the next exponent when rounding overflowed it.
This file reads that pipeline as arithmetic on rationals.

* `mantissa_shiftRight`, `shiftRight_of_dvd`: the bit shifts divide by a power of two, and lose
  nothing when it divides.
* `roundWithAccuracy_eq` is the normal form of rounding, with its three outcomes; from it
  `unpackedValue_roundWithAccuracy` and `canonical_roundWithAccuracy` read the value and the shape
  of the result.
* `Representable` says that a rational is a binary64 value.  `dvd_of_representable` and
  `roundWithAccuracy_of_dvd` say that a representable value loses no bit on the way, so rounding
  returns it.
* `le_unpackedValue_roundWithAccuracy` says that rounding never goes below a binary64 value that
  the exact result is at least: the truncation to the grid of the target exponent already is at
  least that value.
-/

namespace WaveScope.Numeric

open Float.Model Float.Model.UnpackedFloat

/-! ## Shifting a mantissa -/

lemma shiftRight_succ (em : ExtendedMantissa) (k : ℕ) :
    em >>> (k + 1) = (em >>> k).shiftRightOne := rfl

@[simp] lemma shiftRight_zero (em : ExtendedMantissa) : em >>> 0 = em := rfl

/-- Shifting right by `k` divides the mantissa by `2^k`. -/
lemma mantissa_shiftRight (em : ExtendedMantissa) (k : ℕ) :
    (em >>> k).mantissa = em.mantissa / 2 ^ k := by
  induction k with
  | zero => simp
  | succ k ih =>
    rw [shiftRight_succ, ExtendedMantissa.shiftRightOne, ih, Nat.div_div_eq_div_mul, Nat.pow_succ]

/-- Shifting out bits that are all zero loses nothing. -/
lemma shiftRight_of_dvd {m : ℕ} {k : ℕ} (h : 2 ^ k ∣ m) :
    (⟨m, false, false⟩ : ExtendedMantissa) >>> k = ⟨m / 2 ^ k, false, false⟩ := by
  induction k with
  | zero => simp
  | succ k ih =>
    have hk : 2 ^ k ∣ m := Nat.dvd_trans (Nat.pow_dvd_pow 2 (Nat.le_succ k)) h
    -- the bit shifted out last is bit `k` of `m`, which is zero
    have hbit : m / 2 ^ k % 2 = 0 := by
      obtain ⟨c, rfl⟩ := h
      rw [Nat.pow_succ, Nat.mul_assoc, Nat.mul_div_cancel_left _ (Nat.two_pow_pos k)]
      simp
    rw [shiftRight_succ, ih hk, ExtendedMantissa.shiftRightOne]
    simp [hbit, Nat.div_div_eq_div_mul, Nat.pow_succ]

/-- Rounding to nearest keeps the truncated mantissa or adds one to it. -/
lemma roundedMantissa_bounds (em : ExtendedMantissa) :
    em.mantissa ≤ em.roundedMantissa ∧ em.roundedMantissa ≤ em.mantissa + 1 := by
  rcases em with ⟨m, r, s⟩
  cases r <;> cases s <;>
    simp [ExtendedMantissa.roundedMantissa, ExtendedMantissa.accuracy,
      Accuracy.roundToNearestEven]
  all_goals omega

@[simp] lemma roundedMantissa_exact (m : ℕ) :
    (⟨m, false, false⟩ : ExtendedMantissa).roundedMantissa = m := rfl

/-! ## The target exponent -/

/-- The exponent that rounding aims at, from the exponent of the leading bit plus one: 53
significant bits, but never below the least exponent. -/
lemma targetExponent_binary64 (x : ℤ) :
    Format.binary64.targetExponent x = max (x - 53) (-1074) := by
  simp only [Format.targetExponent, Format.mantissaBits, Format.minExponent]
  norm_num

lemma targetExponent_eq (m : ℕ) (e : ℤ) :
    Format.binary64.targetExponent (totalExponent m e) = max (m.log2 + e - 52) (-1074) := by
  rw [targetExponent_binary64, totalExponent]
  omega

lemma shiftToTargetExponent_fst (m : ℕ) (e : ℤ) (a : Accuracy) :
    (shiftToTargetExponent Format.binary64 m e a).1.mantissa =
      m / 2 ^ (Format.binary64.targetExponent (totalExponent m e) - e).toNat := by
  simp only [shiftToTargetExponent, shiftToExponent, mantissa_shiftRight]
  cases a with
  | exact => rfl
  | inexact o => cases o <;> rfl

lemma shiftToTargetExponent_snd (m : ℕ) (e : ℤ) (a : Accuracy) :
    (shiftToTargetExponent Format.binary64 m e a).2 =
      e + (Format.binary64.targetExponent (totalExponent m e) - e).toNat := rfl

/-- A mantissa below `2^53` at or above the least exponent is already in place. -/
lemma shiftToTargetExponent_of_lt {m : ℕ} {e : ℤ} (hm : m < 2 ^ 53) (he : -1074 ≤ e) :
    shiftToTargetExponent Format.binary64 m e .exact = (⟨m, false, false⟩, e) := by
  have hlog : m.log2 ≤ 52 := by
    rcases Nat.eq_zero_or_pos m with rfl | hpos
    · simp
    · have := (Nat.log2_lt (by omega)).mpr hm
      omega
  have hk : (Format.binary64.targetExponent (totalExponent m e) - e).toNat = 0 := by
    rw [targetExponent_eq]
    omega
  simp only [shiftToTargetExponent, shiftToExponent, hk]
  simp [ExtendedMantissa.ofMantissaAndAccuracy]

/-- A mantissa that rounding carried to `2^53` moves to the next exponent. -/
lemma shiftToTargetExponent_two_pow {e : ℤ} (he : -1074 ≤ e) :
    shiftToTargetExponent Format.binary64 (2 ^ 53) e .exact = (⟨2 ^ 52, false, false⟩, e + 1) := by
  have hk : (Format.binary64.targetExponent (totalExponent (2 ^ 53) e) - e).toNat = 1 := by
    rw [targetExponent_eq, Nat.log2_two_pow]
    omega
  simp only [shiftToTargetExponent, shiftToExponent, hk, ExtendedMantissa.ofMantissaAndAccuracy]
  refine Prod.ext ?_ (by simp)
  rw [show (1 : ℕ) = 0 + 1 from rfl, shiftRight_succ, shiftRight_zero]
  rfl

/-! ## The normal form of rounding -/

section Rounding

variable (s : Sign) (m : ℕ) (e : ℤ) (a : Accuracy)

/-- The truncated mantissa at the target exponent has at most 53 bits. -/
lemma shiftToTargetExponent_fst_lt :
    (shiftToTargetExponent Format.binary64 m e a).1.mantissa < 2 ^ 53 := by
  rw [shiftToTargetExponent_fst]
  rcases Nat.eq_zero_or_pos m with rfl | hpos
  · simp
  apply (Nat.div_lt_iff_lt_mul (Nat.two_pow_pos _)).mpr
  rw [← Nat.pow_add]
  have hlt := Nat.lt_log2_self (n := m)
  have hle : m.log2 + 1 ≤ 53 + (Format.binary64.targetExponent (totalExponent m e) - e).toNat := by
    rw [targetExponent_eq]
    omega
  exact lt_of_lt_of_le hlt (Nat.pow_le_pow_right (by norm_num) hle)

lemma shiftToTargetExponent_snd_ge : -1074 ≤ (shiftToTargetExponent Format.binary64 m e a).2 := by
  rw [shiftToTargetExponent_snd, targetExponent_eq]
  omega

/-- Rounding in three outcomes: zero, the rounded mantissa at the target exponent, or, when
rounding carried it to `2^53`, the mantissa `2^52` at the next exponent. -/
lemma roundWithAccuracy_eq :
    roundWithAccuracy Format.binary64 s m e a =
      if h : (shiftToTargetExponent Format.binary64 m e a).1.roundedMantissa = 0 then .zero s
      else if (shiftToTargetExponent Format.binary64 m e a).1.roundedMantissa < 2 ^ 53 then
        .finite s (shiftToTargetExponent Format.binary64 m e a).1.roundedMantissa
          (shiftToTargetExponent Format.binary64 m e a).2 (Nat.pos_of_ne_zero h)
      else .finite s (2 ^ 52) ((shiftToTargetExponent Format.binary64 m e a).2 + 1)
        (Nat.two_pow_pos 52) := by
  have hlt := shiftToTargetExponent_fst_lt m e a
  have hge := shiftToTargetExponent_snd_ge m e a
  have hr := roundedMantissa_bounds (shiftToTargetExponent Format.binary64 m e a).1
  rw [roundWithAccuracy]
  generalize shiftToTargetExponent Format.binary64 m e a = first at *
  rcases first with ⟨em, e₁⟩
  dsimp only at *
  by_cases hz : em.roundedMantissa = 0
  · rw [dif_pos hz, hz, shiftToTargetExponent_of_lt (by norm_num) hge]
    rfl
  rw [dif_neg hz]
  by_cases hsmall : em.roundedMantissa < 2 ^ 53
  · rw [if_pos hsmall, shiftToTargetExponent_of_lt hsmall hge]
    simp [hz]
  · -- rounding carried the mantissa to exactly `2^53`
    have hcarry : em.roundedMantissa = 2 ^ 53 := by omega
    rw [if_neg hsmall, hcarry, shiftToTargetExponent_two_pow hge]
    rfl

/-- With nothing to round, rounding is exact: a mantissa whose low bits below the target
exponent are zero keeps the bits above it. -/
lemma roundWithAccuracy_of_dvd (hm : 0 < m)
    (hc : e ≤ Format.binary64.targetExponent (totalExponent m e))
    (hdvd : 2 ^ (Format.binary64.targetExponent (totalExponent m e) - e).toNat ∣ m) :
    roundWithAccuracy Format.binary64 s m e .exact =
      .finite s (m / 2 ^ (Format.binary64.targetExponent (totalExponent m e) - e).toNat)
        (Format.binary64.targetExponent (totalExponent m e))
        (Nat.div_pos (Nat.le_of_dvd hm hdvd) (Nat.two_pow_pos _)) := by
  have hlt := shiftToTargetExponent_fst_lt m e .exact
  have hfirst : shiftToTargetExponent Format.binary64 m e .exact =
      (⟨m / 2 ^ (Format.binary64.targetExponent (totalExponent m e) - e).toNat, false, false⟩,
        Format.binary64.targetExponent (totalExponent m e)) := by
    simp only [shiftToTargetExponent, shiftToExponent, ExtendedMantissa.ofMantissaAndAccuracy,
      shiftRight_of_dvd hdvd]
    congr 1
    omega
  have hpos : 0 < m / 2 ^ (Format.binary64.targetExponent (totalExponent m e) - e).toNat :=
    Nat.div_pos (Nat.le_of_dvd hm hdvd) (Nat.two_pow_pos _)
  rw [hfirst] at hlt
  dsimp only at hlt
  rw [roundWithAccuracy_eq, hfirst]
  dsimp only
  rw [roundedMantissa_exact, dif_neg hpos.ne', if_pos hlt]

/-- Shifted down to its target exponent, a mantissa keeps 53 bits with the top one set, unless
the target is the least exponent. -/
lemma normal_or_least (hc : e ≤ Format.binary64.targetExponent (totalExponent m e)) :
    2 ^ 52 ≤ m / 2 ^ (Format.binary64.targetExponent (totalExponent m e) - e).toNat ∨
      Format.binary64.targetExponent (totalExponent m e) = -1074 := by
  have ht := targetExponent_eq m e
  by_cases hmin : Format.binary64.targetExponent (totalExponent m e) = -1074
  · exact .inr hmin
  · left
    have hk : m.log2 = 52 + (Format.binary64.targetExponent (totalExponent m e) - e).toNat := by
      omega
    have hm : m ≠ 0 := by
      rintro rfl
      rw [Nat.log2_zero] at hk
      omega
    apply (Nat.le_div_iff_mul_le (Nat.two_pow_pos _)).mpr
    rw [← Nat.pow_add, ← hk]
    exact Nat.log2_self_le hm

/-- The mantissa kept at the target exponent is normal unless that exponent is the least. -/
lemma canonical_of_dvd (hm : 0 < m)
    (hc : e ≤ Format.binary64.targetExponent (totalExponent m e))
    (hdvd : 2 ^ (Format.binary64.targetExponent (totalExponent m e) - e).toNat ∣ m)
    (hmax : Format.binary64.targetExponent (totalExponent m e) ≤ 971) :
    Canonical (roundWithAccuracy Format.binary64 s m e .exact) := by
  rw [roundWithAccuracy_of_dvd s m e hm hc hdvd]
  have hlt := shiftToTargetExponent_fst_lt m e .exact
  rw [shiftToTargetExponent_fst] at hlt
  have ht := targetExponent_eq m e
  exact .finite _ _ _ hlt (by omega) hmax (normal_or_least m e hc)

/-- A rounded result stands for the rounded mantissa at the exponent of the first shift; a carry
to `2^53` stands for the same value one exponent up. -/
lemma unpackedValue_roundWithAccuracy :
    unpackedValue (roundWithAccuracy Format.binary64 s m e a) =
      (s.apply (shiftToTargetExponent Format.binary64 m e a).1.roundedMantissa : ℚ) *
        2 ^ (shiftToTargetExponent Format.binary64 m e a).2 := by
  have hlt := shiftToTargetExponent_fst_lt m e a
  have hr := roundedMantissa_bounds (shiftToTargetExponent Format.binary64 m e a).1
  rw [roundWithAccuracy_eq]
  split_ifs with hz hsmall
  · cases s <;> simp [unpackedValue, hz, Sign.apply]
  · rfl
  · have hcarry : (shiftToTargetExponent Format.binary64 m e a).1.roundedMantissa = 2 ^ 53 := by
      omega
    rw [hcarry]
    cases s <;> simp only [unpackedValue, Sign.apply, zpow_add_one₀ (two_ne_zero (α := ℚ))] <;>
      push_cast <;> ring

/-- Rounding from at most the target exponent gives the canonical shape, as long as the result
stays below the greatest exponent. -/
lemma canonical_roundWithAccuracy
    (hc : e ≤ Format.binary64.targetExponent (totalExponent m e))
    (hmax : Format.binary64.targetExponent (totalExponent m e) ≤ 970) :
    Canonical (roundWithAccuracy Format.binary64 s m e a) := by
  have hlt := shiftToTargetExponent_fst_lt m e a
  have hr := roundedMantissa_bounds (shiftToTargetExponent Format.binary64 m e a).1
  have hn := normal_or_least m e hc
  have ht := targetExponent_eq m e
  have hsnd := shiftToTargetExponent_snd m e a
  rw [shiftToTargetExponent_fst] at hlt hr
  rw [roundWithAccuracy_eq]
  split_ifs with hz hsmall
  · exact .zero s
  · -- rounding up keeps a normal mantissa normal
    exact .finite _ _ _ hsmall (by omega) (by omega) (by omega)
  · exact .finite _ _ _ (by norm_num) (by omega) (by omega) (.inl le_rfl)

end Rounding

/-! ## Representable values -/

/-- `q` is a binary64 value: a whole number below `2^53` of units `2^j`, for an exponent `j` from
the least to the greatest. -/
def Representable (q : ℚ) : Prop :=
  ∃ n : ℕ, ∃ j : ℤ, n < 2 ^ 53 ∧ -1074 ≤ j ∧ j ≤ 971 ∧ |q| = n * 2 ^ j

/-- `m · 2^e` lies between `2^(log₂ m + e)` and the next power of two. -/
lemma binade {m : ℕ} (hm : 0 < m) (e : ℤ) :
    (2 : ℚ) ^ ((m.log2 : ℤ) + e) ≤ m * 2 ^ e ∧ (m : ℚ) * 2 ^ e < 2 ^ ((m.log2 : ℤ) + e + 1) := by
  have hp : (0 : ℚ) < 2 ^ e := zpow_pos (by norm_num) e
  have hlo : ((2 ^ m.log2 : ℕ) : ℚ) ≤ m := by exact_mod_cast Nat.log2_self_le (by omega)
  have hhi : (m : ℚ) < ((2 ^ (m.log2 + 1) : ℕ) : ℚ) := by exact_mod_cast Nat.lt_log2_self
  push_cast at hlo hhi
  rw [zpow_add₀ (by norm_num), zpow_add₀ (by norm_num), zpow_add₀ (by norm_num), zpow_natCast]
  constructor
  · exact mul_le_mul_of_nonneg_right hlo hp.le
  · calc (m : ℚ) * 2 ^ e < 2 ^ (m.log2 + 1) * 2 ^ e := mul_lt_mul_of_pos_right hhi hp
      _ = 2 ^ m.log2 * 2 ^ e * 2 ^ (1 : ℤ) := by rw [pow_succ]; ring

/-- Equal values have equal binades. -/
lemma log2_add_eq {m n : ℕ} {e j : ℤ} (hm : 0 < m) (hn : 0 < n)
    (h : (m : ℚ) * 2 ^ e = n * 2 ^ j) : (m.log2 : ℤ) + e = n.log2 + j := by
  obtain ⟨hm₁, hm₂⟩ := binade hm e
  obtain ⟨hn₁, hn₂⟩ := binade hn j
  by_contra hne
  rcases lt_or_gt_of_ne hne with hlt | hlt
  · have := zpow_le_zpow_right₀ (by norm_num : (1 : ℚ) ≤ 2) (show (m.log2 : ℤ) + e + 1 ≤ n.log2 + j by
      omega)
    linarith
  · have := zpow_le_zpow_right₀ (by norm_num : (1 : ℚ) ≤ 2) (show (n.log2 : ℤ) + j + 1 ≤ m.log2 + e by
      omega)
    linarith

/-- Two dyadic forms of one value: the one with the lower exponent is the other scaled up. -/
lemma eq_mul_two_pow_of_value_eq {m n : ℕ} {e j : ℤ} (hej : e ≤ j)
    (h : (m : ℚ) * 2 ^ e = n * 2 ^ j) : m = n * 2 ^ (j - e).toNat := by
  have hpow : (2 : ℚ) ^ j = 2 ^ (j - e).toNat * 2 ^ e := by
    rw [← zpow_natCast, ← zpow_add₀ (by norm_num)]
    congr 1
    omega
  rw [hpow, ← mul_assoc] at h
  have h' := mul_right_cancel₀ (zpow_pos (by norm_num : (0 : ℚ) < 2) e).ne' h
  exact_mod_cast h'

/-- A representable positive value sits on the grid of its target exponent: its mantissa is a
multiple of the units rounding drops. -/
lemma dvd_of_representable {m : ℕ} {e : ℤ} (hm : 0 < m)
    (hc : e ≤ Format.binary64.targetExponent (totalExponent m e))
    (h : Representable ((m : ℚ) * 2 ^ e)) :
    2 ^ (Format.binary64.targetExponent (totalExponent m e) - e).toNat ∣ m ∧
      Format.binary64.targetExponent (totalExponent m e) ≤ 971 := by
  obtain ⟨n, j, hn, hj₁, hj₂, hq⟩ := h
  have hpos : (0 : ℚ) < m * 2 ^ e := mul_pos (by exact_mod_cast hm) (zpow_pos (by norm_num) e)
  rw [abs_of_pos hpos] at hq
  have hn0 : 0 < n := by
    rcases Nat.eq_zero_or_pos n with rfl | h
    · rw [Nat.cast_zero, zero_mul] at hq
      linarith
    · exact h
  have hlog := log2_add_eq hm hn0 hq
  have hnlog : n.log2 < 53 := (Nat.log2_lt (by omega)).mpr hn
  -- the target exponent is at most the exponent of the given form
  have ht := targetExponent_eq m e
  have htj : Format.binary64.targetExponent (totalExponent m e) ≤ j := by
    omega
  refine ⟨?_, by omega⟩
  have hdvd : 2 ^ (Format.binary64.targetExponent (totalExponent m e) - e).toNat ∣
      n * 2 ^ (j - e).toNat := Dvd.dvd.mul_left (Nat.pow_dvd_pow 2 (by omega)) n
  rwa [← eq_mul_two_pow_of_value_eq (hc.trans htj) hq] at hdvd

/-! ## Rounding never passes a binary64 value -/

lemma isFinite_roundWithAccuracy (s : Sign) (m : ℕ) (e : ℤ) (a : Accuracy) :
    (roundWithAccuracy Format.binary64 s m e a).isFinite = true := by
  rw [roundWithAccuracy_eq]
  split_ifs <;> rfl

/-- A binary64 value at most `m · 2^e` is at most the truncation of `m · 2^e` to the grid of the
target exponent. -/
lemma le_truncation {m : ℕ} {e : ℤ}
    (hc : e ≤ Format.binary64.targetExponent (totalExponent m e)) {y : ℚ} (hy : Representable y)
    (hle : y ≤ m * 2 ^ e) :
    y ≤ ((m / 2 ^ (Format.binary64.targetExponent (totalExponent m e) - e).toNat : ℕ) : ℚ) *
      2 ^ Format.binary64.targetExponent (totalExponent m e) := by
  have hnorm := normal_or_least m e hc
  generalize Format.binary64.targetExponent (totalExponent m e) = T at hc hnorm ⊢
  obtain ⟨n, j, hn, hj₁, hj₂, hq⟩ := hy
  rcases le_or_gt y 0 with hy0 | hy0
  · exact hy0.trans (by positivity)
  rw [abs_of_pos hy0] at hq
  rcases le_or_gt T j with hTj | hjT
  · -- on the grid: `y` is a whole number of units `2^T`, and so is at most the truncation
    have hunits : ∀ k : ℕ, ∀ t : ℤ, (T - t).toNat = k → t ≤ T →
        ((n * 2 ^ (j - T).toNat * 2 ^ k : ℕ) : ℚ) * 2 ^ t = y := by
      rintro k t rfl htT
      rw [hq]
      push_cast
      rw [← zpow_natCast, ← zpow_natCast, mul_assoc, mul_assoc, ← zpow_add₀ two_ne_zero,
        ← zpow_add₀ two_ne_zero]
      congr 2
      omega
    have hmul : n * 2 ^ (j - T).toNat * 2 ^ (T - e).toNat ≤ m := by
      have h := (hunits _ e rfl hc).trans_le hle
      exact_mod_cast le_of_mul_le_mul_right h (zpow_pos two_pos e)
    rw [← hunits 0 T (by simp) le_rfl, pow_zero, mul_one]
    gcongr
    exact (Nat.le_div_iff_mul_le (Nat.two_pow_pos _)).mpr hmul
  · -- below the grid: `y` lies in a lower binade than the truncation, which is normal
    have hnormal := hnorm.resolve_right (by omega)
    refine le_of_lt ?_
    calc y = n * 2 ^ j := hq
      _ < 2 ^ (j + 53) := magnitude_lt j hn
      _ ≤ 2 ^ (T + 52) := zpow_le_zpow_right₀ (by norm_num) (by omega)
      _ ≤ _ := magnitude_ge T hnormal

/-- Rounding a non-negative exact value never goes below a binary64 value that lies below it. -/
lemma le_unpackedValue_roundWithAccuracy {m : ℕ} {e : ℤ}
    (hc : e ≤ Format.binary64.targetExponent (totalExponent m e)) {y : ℚ} (hy : Representable y)
    (hle : y ≤ m * 2 ^ e) :
    y ≤ unpackedValue (roundWithAccuracy Format.binary64 .positive m e .exact) := by
  have hr := (roundedMantissa_bounds (shiftToTargetExponent Format.binary64 m e .exact).1).1
  rw [shiftToTargetExponent_fst] at hr
  have ht : (shiftToTargetExponent Format.binary64 m e .exact).2 =
      Format.binary64.targetExponent (totalExponent m e) := by
    rw [shiftToTargetExponent_snd]
    omega
  rw [unpackedValue_roundWithAccuracy, ht]
  refine (le_truncation hc hy hle).trans ?_
  simp only [Sign.apply, Int.cast_natCast]
  exact mul_le_mul_of_nonneg_right (by exact_mod_cast hr) (zpow_pos two_pos _).le

/-- A result below `2^1000` is rounded at an exponent below the greatest. -/
lemma targetExponent_le_of_lt {m : ℕ} {e : ℤ} (hm : 0 < m) (h : (m : ℚ) * 2 ^ e < 2 ^ (1000 : ℤ)) :
    Format.binary64.targetExponent (totalExponent m e) ≤ 970 := by
  have hlog : (m.log2 : ℤ) + e < 1000 := by
    by_contra hcon
    have hpow := zpow_le_zpow_right₀ (by norm_num : (1 : ℚ) ≤ 2) (not_lt.mp hcon)
    linarith [(binade hm e).1]
  rw [targetExponent_eq]
  omega

end WaveScope.Numeric
