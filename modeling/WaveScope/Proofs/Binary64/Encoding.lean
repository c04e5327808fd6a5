import Mathlib

/-!
# Binary64 values

In the logic a `Float` is a bit pattern that `unpack` decodes into an `UnpackedFloat`: NaN, a
signed infinity, a signed zero, or a sign with a positive mantissa and a binary exponent.  Every
operation decodes its operands, computes on the decoded forms, and encodes the result.  This file
gives each decoded float the rational number it stands for, and proves what a computation needs to
be followed through that cycle.

* `Canonical` is the shape decoding gives: a finite value has a mantissa below `2^53` and an
  exponent in `[-1074, 971]`, and is normal (mantissa at least `2^52`) unless its exponent is the
  least.  `canonical_unpack` says every decoded float has that shape, and `unpack_pack` that
  encoding a float of that shape and decoding it again gives it back.
* `compare_eq_compare_value` says that two finite floats of that shape compare as their values;
  `lt_iff_value_lt` and `le_iff_value_le` read the comparisons of `Float` from it.
-/

namespace WaveScope.Numeric

open Float.Model Float.Model.UnpackedFloat

/-! ## The bit fields -/

/-- The number the three fields of an encoding make. -/
lemma toNat_packComponents (s : Sign) (e : BitVec 11) (m : BitVec 52) :
    (packComponents Format.binary64 s e m).toNat =
      2 ^ 63 * s.toBitVec.toNat + 2 ^ 52 * e.toNat + m.toNat := by
  unfold packComponents
  rw [BitVec.toNat_append, ← Nat.shiftLeft_add_eq_or_of_lt m.isLt, BitVec.toNat_append,
    ← Nat.shiftLeft_add_eq_or_of_lt e.isLt, Nat.shiftLeft_eq, Nat.shiftLeft_eq]
  ring

@[simp] lemma unpackSign_packComponents_binary64 (s : Sign) (e : BitVec 11) (m : BitVec 52) :
    unpackSign (packComponents Format.binary64 s e m) = s.toBitVec := by
  apply BitVec.eq_of_toNat_eq
  have he := e.isLt
  have hm := m.isLt
  have hs := s.toBitVec.isLt
  simp only [unpackSign, BitVec.toNat_cast, BitVec.extractLsb_toNat, toNat_packComponents,
    Nat.shiftRight_eq_div_pow]
  simp at *
  omega

@[simp] lemma sign_ofBitVec_toBitVec (s : Sign) : Sign.ofBitVec s.toBitVec = s := by
  cases s <;> rfl

lemma toNat_one_append_ofNat {m : ℕ} (hlo : 2 ^ 52 ≤ m) (hhi : m < 2 ^ 53) :
    (1#1 ++ BitVec.ofNat 52 m).toNat = m := by
  rw [BitVec.toNat_append, ← Nat.shiftLeft_add_eq_or_of_lt (BitVec.isLt _)]
  simp [Nat.shiftLeft_eq]
  omega

/-! ## The shape of a decoded float -/

/-- The shape of a decoded float: NaN, an infinity, a zero, or a finite value whose mantissa is
below `2^53` and whose exponent lies in `[-1074, 971]`, normal unless its exponent is the least. -/
inductive Canonical : UnpackedFloat → Prop
  | notANumber : Canonical .notANumber
  | infinity (s : Sign) : Canonical (.infinity s)
  | zero (s : Sign) : Canonical (.zero s)
  | finite (s : Sign) {m : ℕ} (e : ℤ) (hm : 0 < m) (hlt : m < 2 ^ 53) (hlo : -1074 ≤ e)
      (hhi : e ≤ 971) (hnormal : 2 ^ 52 ≤ m ∨ e = -1074) : Canonical (.finite s m e hm)

/-- Decoding gives the canonical shape. -/
theorem canonical_unpack (f : Float.Model) : Canonical f.unpack := by
  unfold Float.Model.unpack UnpackedFloat.unpack
  dsimp only
  have hmant := (@unpackMantissa Format.binary64 f.toBits.toBitVec).isLt
  have hexp := (@unpackExponent Format.binary64 f.toBits.toBitVec).isLt
  split
  · split
    · exact .infinity _
    · exact .notANumber
  · rename_i hinf
    split
    · -- a zero exponent field: a zero, or a subnormal value at the least exponent
      rename_i hzero
      split
      · exact .zero _
      · have h0 : (@unpackExponent Format.binary64 f.toBits.toBitVec).toNat = 0 := by
          simpa [BitVec.toNat_eq] using hzero
        refine .finite _ _ _ ?_ ?_ ?_ (.inr ?_)
        all_goals simp only [h0, Format.exponentBias, Format.binary64] at *
        all_goals norm_num at *
        all_goals omega
    · -- any other exponent field: a normal value
      rename_i hnz
      have hne0 : (@unpackExponent Format.binary64 f.toBits.toBitVec).toNat ≠ 0 := by
        simpa [BitVec.toNat_eq] using hnz
      have hne1 : (@unpackExponent Format.binary64 f.toBits.toBitVec).toNat ≠ 2047 := by
        simpa [BitVec.toNat_eq] using hinf
      have happ : (1#1 ++ @unpackMantissa Format.binary64 f.toBits.toBitVec).toNat =
          2 ^ 52 + (@unpackMantissa Format.binary64 f.toBits.toBitVec).toNat := by
        rw [BitVec.toNat_append, ← Nat.shiftLeft_add_eq_or_of_lt (BitVec.isLt _)]
        simp [Nat.shiftLeft_eq]
      refine .finite _ _ _ ?_ ?_ ?_ (.inl ?_)
      all_goals simp only [happ, Format.exponentBias, Format.binary64] at *
      all_goals norm_num at *
      all_goals omega

lemma unpack_pack_normal (s : Sign) {m : ℕ} {e : ℤ} (hm : 0 < m) (hlo : 2 ^ 52 ≤ m)
    (hhi : m < 2 ^ 53) (he : -1074 ≤ e) (he' : e ≤ 971) :
    (Float.Model.pack (.finite s m e hm)).unpack = .finite s m e hm := by
  have hlog : m.log2 = 52 := (Nat.log2_eq_iff (by omega)).mpr ⟨hlo, hhi⟩
  simp only [Float.Model.unpack, Float.Model.pack, UInt64.toBitVec_ofBitVec, UnpackedFloat.pack,
    hlog]
  simp only [Format.exponentBias, Format.mantissaBits, Format.binary64]
  norm_num
  rw [if_neg (by omega)]
  have hnz : BitVec.ofNat 11 (e + 1023 + 52).toNat ≠ 0#11 := by
    intro h
    have := congrArg BitVec.toNat h
    simp at this
    omega
  simp only [UnpackedFloat.unpack, unpackMantissa_packComponents, unpackExponent_packComponents,
    unpackSign_packComponents_binary64, sign_ofBitVec_toBitVec, hnz, if_false]
  split
  · rename_i h
    have := congrArg BitVec.toNat h
    simp at this
    omega
  · simp only [finite.injEq, true_and]
    refine ⟨toNat_one_append_ofNat hlo hhi, ?_⟩
    simp [Format.exponentBias]
    omega

lemma unpack_pack_subnormal (s : Sign) {m : ℕ} (hm : 0 < m) (hlt : m < 2 ^ 52) :
    (Float.Model.pack (.finite s m (-1074) hm)).unpack = .finite s m (-1074) hm := by
  have hlog : m.log2 < 52 := (Nat.log2_lt (by omega)).mpr hlt
  have hnz : BitVec.ofNat 52 m ≠ 0#52 := by
    intro h
    have := congrArg BitVec.toNat h
    simp at this
    omega
  simp only [Float.Model.unpack, Float.Model.pack, UInt64.toBitVec_ofBitVec, UnpackedFloat.pack,
    Format.exponentBias, Format.mantissaBits, Format.binary64]
  norm_num
  simp only [show m.log2 + 1 ≠ 53 by omega, if_false, UnpackedFloat.unpack,
    unpackMantissa_packComponents, unpackExponent_packComponents,
    unpackSign_packComponents_binary64, sign_ofBitVec_toBitVec]
  simp only [hnz, if_true, if_false, dite_false, BitVec.toNat_ofNat, Nat.mod_eq_of_lt hlt]
  simp [Format.exponentBias]

/-- Encoding a float of the canonical shape and decoding it again gives it back. -/
theorem unpack_pack {u : UnpackedFloat} (h : Canonical u) : (Float.Model.pack u).unpack = u := by
  cases h with
  | notANumber => rfl
  | infinity s => cases s <;> rfl
  | zero s => cases s <;> rfl
  | @finite s m e hm hlt hlo hhi hnormal =>
    rcases hnormal with hnormal | rfl
    · exact unpack_pack_normal s hm hnormal hlt hlo hhi
    · by_cases hsub : m < 2 ^ 52
      · exact unpack_pack_subnormal s hm hsub
      · exact unpack_pack_normal s hm (by omega) hlt hlo hhi

/-! ## The value of a float -/

/-- The number a decoded float stands for: `±m · 2^e` for a finite one, and `0` for the zeros,
the infinities and NaN. -/
def unpackedValue : UnpackedFloat → ℚ
  | .finite s m e _ => (s.apply m : ℚ) * 2 ^ e
  | _ => 0

/-- The number a float stands for; the infinities and NaN stand for none and get `0`. -/
def value (x : Float) : ℚ := unpackedValue x.toModel.unpack

@[simp] lemma unpackedValue_zero (s : Sign) : unpackedValue (.zero s) = 0 := rfl

lemma unpackedValue_finite (s : Sign) (m : ℕ) (e : ℤ) (hm : 0 < m) :
    unpackedValue (.finite s m e hm) = s.apply m * 2 ^ e := rfl

lemma abs_unpackedValue_finite (s : Sign) (m : ℕ) (e : ℤ) (hm : 0 < m) :
    |unpackedValue (.finite s m e hm)| = m * 2 ^ e := by
  have hp : (0 : ℚ) ≤ m * 2 ^ e := by positivity
  cases s <;> simp [unpackedValue_finite, Sign.apply, abs_of_nonneg hp]

lemma magnitude_lt {m : ℕ} (e : ℤ) (hlt : m < 2 ^ 53) : (m : ℚ) * 2 ^ e < 2 ^ (e + 53) := by
  have hm : (m : ℚ) < 2 ^ (53 : ℤ) := by exact_mod_cast hlt
  rw [zpow_add₀ (by norm_num), mul_comm]
  exact mul_lt_mul_of_pos_left hm (zpow_pos (by norm_num) e)

lemma magnitude_ge {m : ℕ} (e : ℤ) (hge : 2 ^ 52 ≤ m) : (2 : ℚ) ^ (e + 52) ≤ m * 2 ^ e := by
  have hm : (2 : ℚ) ^ (52 : ℤ) ≤ m := by exact_mod_cast hge
  rw [zpow_add₀ (by norm_num), mul_comm ((2 : ℚ) ^ e)]
  exact mul_le_mul_of_nonneg_right hm (zpow_pos (by norm_num : (0 : ℚ) < 2) e).le

/-- A normal value lies above every value of a lower exponent. -/
lemma magnitude_lt_of_exponent_lt {m₁ m₂ : ℕ} {e₁ e₂ : ℤ} (h₁ : m₁ < 2 ^ 53) (h₂ : 2 ^ 52 ≤ m₂)
    (he : e₁ < e₂) : (m₁ : ℚ) * 2 ^ e₁ < m₂ * 2 ^ e₂ :=
  calc (m₁ : ℚ) * 2 ^ e₁ < 2 ^ (e₁ + 53) := magnitude_lt e₁ h₁
    _ ≤ 2 ^ (e₂ + 52) := zpow_le_zpow_right₀ (by norm_num) (by omega)
    _ ≤ m₂ * 2 ^ e₂ := magnitude_ge e₂ h₂

lemma compare_mul_zpow (m₁ m₂ : ℕ) (e : ℤ) :
    compare ((m₁ : ℚ) * 2 ^ e) (m₂ * 2 ^ e) = compare m₁ m₂ := by
  have hp : (0 : ℚ) < 2 ^ e := zpow_pos (by norm_num) e
  rcases lt_trichotomy m₁ m₂ with h | rfl | h
  · rw [compare_lt_iff_lt.mpr h, compare_lt_iff_lt]
    exact mul_lt_mul_of_pos_right (by exact_mod_cast h) hp
  · simp
  · rw [compare_gt_iff_gt.mpr h, compare_gt_iff_gt]
    exact mul_lt_mul_of_pos_right (by exact_mod_cast h) hp

/-- Canonical magnitudes compare as their exponents, then their mantissas. -/
lemma compare_magnitude {m₁ m₂ : ℕ} {e₁ e₂ : ℤ} (hlt₁ : m₁ < 2 ^ 53) (hlt₂ : m₂ < 2 ^ 53)
    (hlo₁ : -1074 ≤ e₁) (hlo₂ : -1074 ≤ e₂) (hn₁ : 2 ^ 52 ≤ m₁ ∨ e₁ = -1074)
    (hn₂ : 2 ^ 52 ≤ m₂ ∨ e₂ = -1074) :
    compare ((m₁ : ℚ) * 2 ^ e₁) (m₂ * 2 ^ e₂) = (compare e₁ e₂).then (compare m₁ m₂) := by
  rcases lt_trichotomy e₁ e₂ with he | rfl | he
  · -- the greater exponent is above the least, so its value is normal
    have hn : 2 ^ 52 ≤ m₂ := hn₂.resolve_right (by omega)
    rw [compare_lt_iff_lt.mpr he, compare_lt_iff_lt.mpr (magnitude_lt_of_exponent_lt hlt₁ hn he)]
    rfl
  · rw [compare_eq_iff_eq.mpr rfl, compare_mul_zpow]
    rfl
  · have hn : 2 ^ 52 ≤ m₁ := hn₁.resolve_right (by omega)
    rw [compare_gt_iff_gt.mpr he, compare_gt_iff_gt.mpr (magnitude_lt_of_exponent_lt hlt₂ hn he)]
    rfl

lemma compare_neg_neg (a b : ℚ) : compare (-a) (-b) = (compare a b).swap := by
  rcases lt_trichotomy a b with h | rfl | h
  · rw [compare_lt_iff_lt.mpr h, compare_gt_iff_gt.mpr (neg_lt_neg h)]
    rfl
  · simp
  · rw [compare_gt_iff_gt.mpr h, compare_lt_iff_lt.mpr (neg_lt_neg h)]
    rfl

/-- Two finite floats of the canonical shape compare as their values. -/
theorem compare_eq_compare_value {a b : UnpackedFloat} (ha : Canonical a) (hb : Canonical b)
    (hfa : a.isFinite = true) (hfb : b.isFinite = true) :
    a.compare b = some (compare (unpackedValue a) (unpackedValue b)) := by
  have hpos : ∀ (m : ℕ) (e : ℤ), 0 < m → (0 : ℚ) < m * 2 ^ e := fun m e hm =>
    mul_pos (by exact_mod_cast hm) (zpow_pos (by norm_num) e)
  cases ha with
  | notANumber | infinity => simp [UnpackedFloat.isFinite] at hfa
  | zero s₁ =>
    cases hb with
    | notANumber | infinity => simp [UnpackedFloat.isFinite] at hfb
    | zero s₂ => simp [UnpackedFloat.compare, unpackedValue]
    | finite s₂ e₂ hm₂ =>
      have h := hpos _ e₂ hm₂
      cases s₂
      · simp only [UnpackedFloat.compare, unpackedValue, Sign.apply, Int.cast_neg,
          Int.cast_natCast, neg_mul, Option.some.injEq]
        exact (compare_gt_iff_gt.mpr (by linarith)).symm
      · simp only [UnpackedFloat.compare, unpackedValue, Sign.apply, Int.cast_natCast,
          Option.some.injEq]
        exact (compare_lt_iff_lt.mpr h).symm
  | finite s₁ e₁ hm₁ hlt₁ hlo₁ hhi₁ hn₁ =>
    have h₁ := hpos _ e₁ hm₁
    cases hb with
    | notANumber | infinity => simp [UnpackedFloat.isFinite] at hfb
    | zero s₂ =>
      cases s₁
      · simp only [UnpackedFloat.compare, unpackedValue, Sign.apply, Int.cast_neg,
          Int.cast_natCast, neg_mul, Option.some.injEq]
        exact (compare_lt_iff_lt.mpr (by linarith)).symm
      · simp only [UnpackedFloat.compare, unpackedValue, Sign.apply, Int.cast_natCast,
          Option.some.injEq]
        exact (compare_gt_iff_gt.mpr h₁).symm
    | finite s₂ e₂ hm₂ hlt₂ hlo₂ hhi₂ hn₂ =>
      have h₂ := hpos _ e₂ hm₂
      have hmag := compare_magnitude hlt₁ hlt₂ hlo₁ hlo₂ hn₁ hn₂
      cases s₁ <;> cases s₂ <;>
        simp only [UnpackedFloat.compare, unpackedValue, Sign.apply, Int.cast_neg,
          Int.cast_natCast, neg_mul, Option.some.injEq]
      · -- both negative: the order of the magnitudes, reversed
        rw [compare_neg_neg, hmag]
      · exact (compare_lt_iff_lt.mpr (by linarith)).symm
      · exact (compare_gt_iff_gt.mpr (by linarith)).symm
      · exact hmag.symm

/-! ## Comparisons of floats -/

lemma lt_iff_compare (x y : Float) :
    x < y ↔ x.toModel.unpack.compare y.toModel.unpack = some .lt := by
  show Float.lt x y = true ↔ _
  simp only [Float.lt, decide_eq_true_eq]
  show x.toModel.lt y.toModel = true ↔ _
  simp [Float.Model.lt, UnpackedFloat.lt]

lemma le_iff_compare (x y : Float) :
    x ≤ y ↔ (x.toModel.unpack.compare y.toModel.unpack).any (·.isLE) = true := by
  show Float.le x y = true ↔ _
  simp only [Float.le, decide_eq_true_eq]
  show x.toModel.le y.toModel = true ↔ _
  simp [Float.Model.le, UnpackedFloat.le]

theorem lt_iff_value_lt {x y : Float} (hx : x.isFinite = true) (hy : y.isFinite = true) :
    x < y ↔ value x < value y := by
  rw [lt_iff_compare,
    compare_eq_compare_value (canonical_unpack _) (canonical_unpack _) hx hy, Option.some.injEq,
    compare_lt_iff_lt]
  rfl

theorem le_iff_value_le {x y : Float} (hx : x.isFinite = true) (hy : y.isFinite = true) :
    x ≤ y ↔ value x ≤ value y := by
  rw [le_iff_compare,
    compare_eq_compare_value (canonical_unpack _) (canonical_unpack _) hx hy, Option.any_some,
    Ordering.isLE_iff_ne_gt, compare_gt_iff_gt, not_lt]
  rfl

end WaveScope.Numeric
