import Mathlib
import WaveScope.Proofs.Binary64.Exact

/-!
# Floats that stand for a rational

`HasValue x q` says that the float `x` is finite and stands for the rational `q`.  Every
operation of `Float` decodes its operands, computes on the decoded forms and encodes the result,
so the exactness theorems about decoded floats carry over to `Float` in one step each.

* `HasValue.add`, `HasValue.sub`, `HasValue.mul`, `HasValue.div` and `HasValue.abs`: an operation
  whose exact result is a binary64 value returns it.
* `HasValue.lt_iff` and `HasValue.le_iff`: finite floats compare as the numbers they stand for.
* `hasValue_toFloat`: a `UInt32` converts exactly, and so does a `UInt64` whose value is a binary64
  value.
* `HasValue.le_mul`: multiplying a non-negative float by one of value at least one never gives
  less.
* `toNat_toUInt64`: converting a non-negative float to `UInt64` truncates it, saturating at
  `2^64 - 1`.
-/

namespace WaveScope.Numeric

open Float.Model Float.Model.UnpackedFloat

/-- The float `x` is finite and stands for `q`. -/
def HasValue (x : Float) (q : ℚ) : Prop :=
  Represents x.toModel.unpack q

lemma hasValue_of_isFinite {x : Float} (hx : x.isFinite = true) : HasValue x (value x) :=
  ⟨canonical_unpack _, hx, rfl⟩

lemma hasValue_of_value_eq {x : Float} {q : ℚ} (hx : x.isFinite = true) (hv : value x = q) :
    HasValue x q :=
  hv ▸ hasValue_of_isFinite hx

/-- Encoding a decoded float that stands for `q` gives a float that stands for `q`. -/
lemma hasValue_ofModel_pack {u : UnpackedFloat} {q : ℚ} (h : Represents u q) :
    HasValue (Float.ofModel (Float.Model.pack u)) q := by
  show Represents (Float.Model.pack u).unpack q
  rw [unpack_pack h.canonical]
  exact h

lemma hasValue_zero : HasValue 0 0 :=
  hasValue_of_value_eq (by decide +kernel) (by decide +kernel)

namespace HasValue

variable {x y : Float} {a b : ℚ}

lemma isFinite (h : HasValue x a) : x.isFinite = true := Represents.isFinite h

lemma value_eq (h : HasValue x a) : value x = a := Represents.value_eq h

/-- The number a float stands for is a binary64 value. -/
lemma representable (h : HasValue x a) : Representable a := Represents.representable h

theorem add (hx : HasValue x a) (hy : HasValue y b) (h : Representable (a + b)) :
    HasValue (x + y) (a + b) :=
  hasValue_ofModel_pack (represents_add hx hy h)

theorem sub (hx : HasValue x a) (hy : HasValue y b) (h : Representable (a - b)) :
    HasValue (x - y) (a - b) :=
  hasValue_ofModel_pack (represents_sub hx hy h)

theorem mul (hx : HasValue x a) (hy : HasValue y b) (h : Representable (a * b)) :
    HasValue (x * y) (a * b) :=
  hasValue_ofModel_pack (represents_mul hx hy h)

theorem div (hx : HasValue x a) (hy : HasValue y b) (hb : b ≠ 0) (h : Representable (a / b)) :
    HasValue (x / y) (a / b) :=
  hasValue_ofModel_pack (represents_div hx hy hb h)

theorem abs (hx : HasValue x a) : HasValue x.abs |a| :=
  hasValue_ofModel_pack (represents_abs hx)

theorem lt_iff (hx : HasValue x a) (hy : HasValue y b) : x < y ↔ a < b := by
  rw [lt_iff_value_lt hx.isFinite hy.isFinite, hx.value_eq, hy.value_eq]

theorem le_iff (hx : HasValue x a) (hy : HasValue y b) : x ≤ y ↔ a ≤ b := by
  rw [le_iff_value_le hx.isFinite hy.isFinite, hx.value_eq, hy.value_eq]

theorem le_mul (hx : HasValue x a) (hy : HasValue y b) (ha : 0 ≤ a) (hb : 1 ≤ b)
    (hbound : a * b < 2 ^ 1000) : ∃ c, HasValue (x * y) c ∧ a ≤ c := by
  have hbound' : a * b < 2 ^ (1000 : ℤ) := by
    rw [show (1000 : ℤ) = ((1000 : ℕ) : ℤ) from rfl, zpow_natCast]
    exact hbound
  obtain ⟨c, hc, hac⟩ := represents_mul_ge hx hy ha hb hbound'
  exact ⟨c, hasValue_ofModel_pack hc, hac⟩

/-- Converting a non-negative float to `UInt64` truncates it, saturating at `2^64 - 1`. -/
theorem toNat_toUInt64 (hx : HasValue x a) (ha : 0 ≤ a) :
    x.toUInt64.toNat = min ⌊a⌋₊ (2 ^ 64 - 1) := by
  show (UInt64.ofNatClamp (x.toModel.unpack.toInt 0 (UInt64.size - 1)).toNat).toNat = _
  rw [toInt_of_represents hx ha, Int.toNat_natCast]
  unfold UInt64.ofNatClamp
  split_ifs with h
  · simp only [UInt64.toNat_ofNatLT]
    simp only [UInt64.size] at h
    omega
  · simp only [UInt64.toNat_ofNatLT]
    simp only [UInt64.size] at h ⊢
    omega

end HasValue

/-! ## Conversions from naturals -/

lemma representable_of_lt {n : ℕ} (h : n < 2 ^ 53) : Representable n :=
  ⟨n, 0, h, by norm_num, by norm_num, by simp⟩

lemma represents_ofNat {n : ℕ} (h : Representable n) :
    Represents (UnpackedFloat.ofNat Format.binary64 n) n := by
  have hr := represents_normalize (n : ℤ) 0 .positive
    (by rw [zpow_zero, mul_one, Int.cast_natCast]; exact h)
  rw [zpow_zero, mul_one, Int.cast_natCast] at hr
  exact hr

/-- A `UInt32` converts exactly. -/
theorem hasValue_toFloat (n : UInt32) : HasValue n.toFloat n.toNat :=
  hasValue_ofModel_pack (represents_ofNat (representable_of_lt (by have := n.toNat_lt; omega)))

/-- A `UInt64` whose value is a binary64 value converts exactly. -/
theorem hasValue_uint64_toFloat {n : UInt64} (h : Representable n.toNat) :
    HasValue n.toFloat n.toNat :=
  hasValue_ofModel_pack (represents_ofNat h)

/-! ## Integer and fractional parts -/

/-- The integer part and the fractional part of a non-negative binary64 value are binary64
values: a whole number stays whole, and below one unit the two parts split the mantissa's
bits. -/
lemma Represents.floor_fract {u : UnpackedFloat} {a : ℚ} (hu : Represents u a) (ha : 0 ≤ a) :
    Representable (⌊a⌋₊ : ℚ) ∧ Representable (a - ⌊a⌋₊) := by
  have hzero : Representable 0 := ⟨0, 0, by norm_num, by norm_num, by norm_num, by simp⟩
  have hya := hu.representable
  obtain ⟨cu, fu, rfl⟩ := hu
  cases cu with
  | notANumber | infinity => simp [UnpackedFloat.isFinite] at fu
  | zero s =>
    rw [unpackedValue_zero, Nat.floor_zero, Nat.cast_zero, sub_zero]
    exact ⟨hzero, hzero⟩
  | @finite s m e hm hlt hlo hhi hn =>
    obtain rfl := sign_positive_of_nonneg ha
    have hval : unpackedValue (.finite .positive m e hm) = m * 2 ^ e := by
      simp [unpackedValue_finite, Sign.apply]
    rw [hval] at hya ⊢
    rcases le_or_gt 0 e with he | he
    · -- a whole number is its own integer part
      have hint : ((⌊(m : ℚ) * 2 ^ e⌋₊ : ℕ) : ℚ) = m * 2 ^ e := by
        rw [floor_mul_zpow, show (-e).toNat = 0 by omega, pow_zero, Nat.div_one]
        push_cast
        rw [← zpow_natCast, Int.toNat_of_nonneg he]
      rw [hint, sub_self]
      exact ⟨hya, hzero⟩
    · -- below one unit: the high bits make the integer part, the low bits the fraction
      have hfl : ⌊(m : ℚ) * 2 ^ e⌋₊ = m / 2 ^ (-e).toNat := by
        rw [floor_mul_zpow, show e.toNat = 0 by omega, pow_zero, mul_one]
      have hle : ((⌊(m : ℚ) * 2 ^ e⌋₊ : ℕ) : ℚ) ≤ m * 2 ^ e := Nat.floor_le (by positivity)
      refine ⟨representable_of_lt (hfl ▸ lt_of_le_of_lt (Nat.div_le_self _ _) hlt),
        m % 2 ^ (-e).toNat, e, lt_of_le_of_lt (Nat.mod_le _ _) hlt, hlo, hhi, ?_⟩
      have hdecomp : (m : ℚ) = (m % 2 ^ (-e).toNat : ℕ) + (m / 2 ^ (-e).toNat : ℕ) * 2 ^ (-e).toNat := by
        exact_mod_cast (Nat.mod_add_div' m _).symm
      have hk : (2 : ℚ) ^ (-e).toNat * 2 ^ e = 1 := by
        rw [← zpow_natCast, ← zpow_add₀ two_ne_zero, Int.toNat_of_nonneg (by omega)]
        simp
      rw [abs_of_nonneg (sub_nonneg.mpr hle), hfl, hdecomp]
      linear_combination ((m / 2 ^ (-e).toNat : ℕ) : ℚ) * hk

end WaveScope.Numeric
