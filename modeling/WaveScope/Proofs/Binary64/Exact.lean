import Mathlib
import WaveScope.Proofs.Binary64.Rounding

/-!
# Exact binary64 arithmetic

An operation whose exact result is a binary64 value returns it.  `Represents u q` says that the
decoded float `u` is finite, of the canonical shape, and stands for `q`; each theorem here takes
operands that represent `a` and `b` and a result that is a binary64 value, and gives a float that
represents it.

* `represents_round` and `represents_normalize`: the rounding entry points used by the sum, the
  difference and the conversions lower the exponent first, so they return a representable value.
* `represents_add`, `represents_sub`, `represents_mul`, `represents_div`, `represents_abs`: the
  operations, one constructor case at a time; the division core finds the quotient exactly when it
  is representable (`divCore_exact`).
* `represents_mul_ge`: multiplying by a float of value at least one never gives less.
* `toInt_of_represents`: the conversion to an integer truncates.
-/

namespace WaveScope.Numeric

open Float.Model Float.Model.UnpackedFloat

/-! ## Floats that stand for a rational -/

/-- `u` is a finite float of the canonical shape that stands for `q`. -/
structure Represents (u : UnpackedFloat) (q : ℚ) : Prop where
  canonical : Canonical u
  isFinite : u.isFinite = true
  value_eq : unpackedValue u = q

lemma represents_zero (s : Sign) : Represents (.zero s) 0 := ⟨.zero s, rfl, rfl⟩

/-- The number a finite float stands for is a binary64 value. -/
lemma Represents.representable {u : UnpackedFloat} {q : ℚ} (h : Represents u q) :
    Representable q := by
  obtain ⟨hc, hf, rfl⟩ := h
  cases hc with
  | notANumber | infinity => simp [UnpackedFloat.isFinite] at hf
  | zero s => exact ⟨0, 0, by norm_num, by norm_num, by norm_num, by simp⟩
  | @finite s m e hm hlt hlo hhi hn =>
    exact ⟨m, e, hlt, hlo, hhi, abs_unpackedValue_finite s m e hm⟩

lemma representable_neg {q : ℚ} (h : Representable q) : Representable (-q) := by
  obtain ⟨n, j, hn, hj₁, hj₂, hq⟩ := h
  exact ⟨n, j, hn, hj₁, hj₂, by rwa [abs_neg]⟩

lemma sign_positive_of_nonneg {s : Sign} {m : ℕ} {e : ℤ} {hm : 0 < m}
    (h : 0 ≤ unpackedValue (.finite s m e hm)) : s = .positive := by
  cases s with
  | negative =>
    have hp : (0 : ℚ) < m * 2 ^ e := by positivity
    rw [unpackedValue_finite] at h
    simp only [Sign.apply, Int.cast_neg, Int.cast_natCast, neg_mul] at h
    linarith
  | positive => rfl

/-! ## Signs -/

lemma sign_apply_mul_eq (s : Sign) {a b : ℤ} {x y : ℚ} (h : (a : ℚ) * x = b * y) :
    (s.apply a : ℚ) * x = s.apply b * y := by
  cases s <;> simp [Sign.apply, h]

lemma apply_neg (s : Sign) (n : ℤ) : (-s).apply n = -s.apply n := by
  cases s <;> simp [Sign.apply]

lemma apply_mul (s₁ s₂ : Sign) (a b : ℤ) : (s₁ * s₂).apply (a * b) = s₁.apply a * s₂.apply b := by
  cases s₁ <;> cases s₂
  · show a * b = -a * -b
    ring
  · show -(a * b) = -a * b
    ring
  · show -(a * b) = a * -b
    ring
  · rfl

/-- The sign of a quotient is the quotient of the signs. -/
lemma apply_div_eq (s₁ s₂ : Sign) {c m₁ m₂ : ℤ} {t x₁ x₂ : ℚ}
    (h : (c : ℚ) * t = m₁ * x₁ / (m₂ * x₂)) :
    ((s₁ / s₂).apply c : ℚ) * t = (s₁.apply m₁ : ℚ) * x₁ / ((s₂.apply m₂ : ℚ) * x₂) := by
  cases s₁ <;> cases s₂
  · show ((c : ℤ) : ℚ) * t = ((-m₁ : ℤ) : ℚ) * x₁ / (((-m₂ : ℤ) : ℚ) * x₂)
    rw [h]
    push_cast
    rw [neg_mul, neg_mul, neg_div_neg_eq]
  · show ((-c : ℤ) : ℚ) * t = ((-m₁ : ℤ) : ℚ) * x₁ / ((m₂ : ℚ) * x₂)
    push_cast
    rw [neg_mul, h, neg_mul, neg_div]
  · show ((-c : ℤ) : ℚ) * t = (m₁ : ℚ) * x₁ / (((-m₂ : ℤ) : ℚ) * x₂)
    push_cast
    rw [neg_mul, h, neg_mul, div_neg]
  · exact h

/-! ## Rounding a binary64 value -/

/-- Dropping `k` zero bits and raising the exponent by `k` leaves the value. -/
lemma div_two_pow_mul_zpow {M k : ℕ} {e t : ℤ} (hdvd : 2 ^ k ∣ M) (ht : t = e + k) :
    ((M / 2 ^ k : ℕ) : ℚ) * 2 ^ t = M * 2 ^ e := by
  rw [Nat.cast_div hdvd (by positivity), ht, zpow_add₀ two_ne_zero, zpow_natCast]
  push_cast
  field_simp

/-- Rounding, from at most the target exponent, a value that is a binary64 value gives it back
exactly. -/
lemma represents_roundWithAccuracy (s : Sign) {m : ℕ} {e : ℤ} (hm : 0 < m)
    (hc : e ≤ Format.binary64.targetExponent (totalExponent m e))
    (h : Representable ((m : ℚ) * 2 ^ e)) :
    Represents (roundWithAccuracy Format.binary64 s m e .exact) (s.apply m * 2 ^ e) := by
  obtain ⟨hdvd, hmax⟩ := dvd_of_representable hm hc h
  refine ⟨canonical_of_dvd s m e hm hc hdvd hmax, ?_, ?_⟩
  · rw [roundWithAccuracy_of_dvd s m e hm hc hdvd]
    rfl
  · rw [roundWithAccuracy_of_dvd s m e hm hc hdvd]
    apply sign_apply_mul_eq s
    rw [Int.cast_natCast, Int.cast_natCast]
    exact div_two_pow_mul_zpow hdvd (by omega)

lemma log2_mul_two_pow {m : ℕ} (hm : m ≠ 0) (j : ℕ) : (m * 2 ^ j).log2 = m.log2 + j := by
  induction j with
  | zero => simp
  | succ j ih =>
    rw [Nat.pow_succ, ← Nat.mul_assoc, Nat.mul_comm _ 2,
      Nat.log2_two_mul (Nat.mul_ne_zero hm (by positivity)), ih, Nat.add_assoc]

/-- Moving a mantissa to a lower exponent keeps its binade. -/
lemma totalExponent_mul_two_pow {m : ℕ} (hm : m ≠ 0) (e : ℤ) (j : ℕ) :
    totalExponent (m * 2 ^ j) (e - j) = totalExponent m e := by
  simp only [totalExponent, log2_mul_two_pow hm]
  push_cast
  ring

/-- `round` lowers the exponent to the target first and then rounds exactly from there. -/
lemma round_eq_roundWithAccuracy (s : Sign) (m : ℕ) (e : ℤ) :
    UnpackedFloat.round Format.binary64 s m e =
      roundWithAccuracy Format.binary64 s
        (m * 2 ^ (e - Format.binary64.targetExponent (totalExponent m e)).toNat)
        (e - (e - Format.binary64.targetExponent (totalExponent m e)).toNat) .exact := by
  simp only [UnpackedFloat.round, decreaseExponent, Nat.shiftLeft_eq]

lemma natCast_mul_two_pow_mul_zpow (m j : ℕ) (e : ℤ) :
    ((m * 2 ^ j : ℕ) : ℚ) * 2 ^ (e - j) = m * 2 ^ e := by
  push_cast
  rw [zpow_sub₀ two_ne_zero, zpow_natCast]
  field_simp

/-- `round` lowers the exponent to the target first and then rounds, so a value that is a
binary64 value comes back exactly. -/
lemma represents_round (s : Sign) {m : ℕ} (hm : 0 < m) (e : ℤ)
    (h : Representable ((m : ℚ) * 2 ^ e)) :
    Represents (UnpackedFloat.round Format.binary64 s m e) (s.apply m * 2 ^ e) := by
  have hround := round_eq_roundWithAccuracy s m e
  generalize hj : (e - Format.binary64.targetExponent (totalExponent m e)).toNat = j at hround
  have hte := totalExponent_mul_two_pow hm.ne' e j
  have hval := natCast_mul_two_pow_mul_zpow m j e
  have hr := represents_roundWithAccuracy s (Nat.mul_pos hm (Nat.two_pow_pos j))
    (by rw [hte]; omega) (by rwa [hval])
  have hsign : (s.apply ((m * 2 ^ j : ℕ) : ℤ) : ℚ) * 2 ^ (e - j) = s.apply m * 2 ^ e :=
    sign_apply_mul_eq s (by rw [Int.cast_natCast, Int.cast_natCast]; exact hval)
  rwa [hround, ← hsign]

/-- Normalizing a signed mantissa whose value is a binary64 value gives it back exactly. -/
lemma represents_normalize (z e : ℤ) (zs : Sign) (h : Representable (z * 2 ^ e)) :
    Represents (UnpackedFloat.normalize Format.binary64 z e zs) (z * 2 ^ e) := by
  rcases lt_trichotomy z 0 with hz | rfl | hz
  · -- a negative mantissa is rounded as its magnitude with the sign set
    have hcast : (((-z).toNat : ℕ) : ℚ) = -z := by
      have : (((-z).toNat : ℕ) : ℤ) = -z := Int.toNat_of_nonneg (by omega)
      exact_mod_cast this
    have hr := represents_round .negative (m := (-z).toNat) (by omega) e
      (by rw [hcast, neg_mul]; exact representable_neg h)
    simp only [UnpackedFloat.normalize, compare_lt_iff_lt.mpr hz]
    convert hr using 1
    simp only [Sign.apply, Int.cast_neg, Int.cast_natCast, hcast, neg_neg]
  · simp only [UnpackedFloat.normalize, Int.cast_zero, zero_mul]
    exact represents_zero zs
  · have hcast : ((z.toNat : ℕ) : ℚ) = z := by
      have : ((z.toNat : ℕ) : ℤ) = z := Int.toNat_of_nonneg (by omega)
      exact_mod_cast this
    have hr := represents_round .positive (m := z.toNat) (by omega) e (by rwa [hcast])
    simp only [UnpackedFloat.normalize, compare_gt_iff_gt.mpr hz]
    convert hr using 1
    simp only [Sign.apply, Int.cast_natCast, hcast]

/-! ## Sum and difference -/

/-- A mantissa lowered to a smaller exponent keeps its value. -/
lemma value_decreaseExponent (s : Sign) (m : ℕ) {e t : ℤ} (ht : t ≤ e) :
    ((s.apply (decreaseExponent m e t).1 : ℤ) : ℚ) * 2 ^ t = s.apply m * 2 ^ e := by
  apply sign_apply_mul_eq s
  simp only [decreaseExponent, Nat.shiftLeft_eq, Int.cast_natCast]
  push_cast
  rw [mul_assoc, ← zpow_natCast, ← zpow_add₀ two_ne_zero]
  congr 2
  omega

/-- Both mantissas lowered to the smaller exponent and added there give the sum of the values. -/
lemma value_add_decreaseExponent (s₁ s₂ : Sign) (m₁ m₂ : ℕ) (e₁ e₂ : ℤ) :
    ((s₁.apply (decreaseExponent m₁ e₁ (min e₁ e₂)).1 +
        s₂.apply (decreaseExponent m₂ e₂ (min e₁ e₂)).1 : ℤ) : ℚ) * 2 ^ min e₁ e₂ =
      s₁.apply m₁ * 2 ^ e₁ + s₂.apply m₂ * 2 ^ e₂ := by
  rw [Int.cast_add, add_mul, value_decreaseExponent s₁ m₁ (min_le_left e₁ e₂),
    value_decreaseExponent s₂ m₂ (min_le_right e₁ e₂)]

lemma value_sub_decreaseExponent (s₁ s₂ : Sign) (m₁ m₂ : ℕ) (e₁ e₂ : ℤ) :
    ((s₁.apply (decreaseExponent m₁ e₁ (min e₁ e₂)).1 -
        s₂.apply (decreaseExponent m₂ e₂ (min e₁ e₂)).1 : ℤ) : ℚ) * 2 ^ min e₁ e₂ =
      s₁.apply m₁ * 2 ^ e₁ - s₂.apply m₂ * 2 ^ e₂ := by
  rw [Int.cast_sub, sub_mul, value_decreaseExponent s₁ m₁ (min_le_left e₁ e₂),
    value_decreaseExponent s₂ m₂ (min_le_right e₁ e₂)]

/-- A sum whose exact value is a binary64 value is computed exactly. -/
theorem represents_add {u v : UnpackedFloat} {a b : ℚ} (hu : Represents u a)
    (hv : Represents v b) (h : Representable (a + b)) :
    Represents (UnpackedFloat.add Format.binary64 u v) (a + b) := by
  obtain ⟨cu, fu, rfl⟩ := hu
  obtain ⟨cv, fv, rfl⟩ := hv
  cases cu with
  | notANumber | infinity => simp [UnpackedFloat.isFinite] at fu
  | zero s₁ =>
    cases cv with
    | notANumber | infinity => simp [UnpackedFloat.isFinite] at fv
    | zero s₂ =>
      simp only [UnpackedFloat.add, unpackedValue_zero, add_zero]
      split <;> exact represents_zero _
    | finite s₂ e₂ hm₂ hlt₂ hlo₂ hhi₂ hn₂ =>
      rw [unpackedValue_zero, zero_add]
      exact ⟨.finite s₂ e₂ hm₂ hlt₂ hlo₂ hhi₂ hn₂, rfl, rfl⟩
  | @finite s₁ m₁ e₁ hm₁ hlt₁ hlo₁ hhi₁ hn₁ =>
    cases cv with
    | notANumber | infinity => simp [UnpackedFloat.isFinite] at fv
    | zero s₂ =>
      rw [unpackedValue_zero, add_zero]
      exact ⟨.finite s₁ e₁ hm₁ hlt₁ hlo₁ hhi₁ hn₁, rfl, rfl⟩
    | @finite s₂ m₂ e₂ hm₂ hlt₂ hlo₂ hhi₂ hn₂ =>
      -- both are lowered to the smaller exponent and added there
      have hsum := value_add_decreaseExponent s₁ s₂ m₁ m₂ e₁ e₂
      rw [← unpackedValue_finite s₁ m₁ e₁ hm₁, ← unpackedValue_finite s₂ m₂ e₂ hm₂] at hsum
      rw [← hsum] at h ⊢
      exact represents_normalize _ _ _ h

/-- A difference whose exact value is a binary64 value is computed exactly. -/
theorem represents_sub {u v : UnpackedFloat} {a b : ℚ} (hu : Represents u a)
    (hv : Represents v b) (h : Representable (a - b)) :
    Represents (UnpackedFloat.sub Format.binary64 u v) (a - b) := by
  obtain ⟨cu, fu, rfl⟩ := hu
  obtain ⟨cv, fv, rfl⟩ := hv
  cases cu with
  | notANumber | infinity => simp [UnpackedFloat.isFinite] at fu
  | zero s₁ =>
    cases cv with
    | notANumber | infinity => simp [UnpackedFloat.isFinite] at fv
    | zero s₂ =>
      simp only [UnpackedFloat.sub, unpackedValue_zero, sub_zero]
      split <;> exact represents_zero _
    | finite s₂ e₂ hm₂ hlt₂ hlo₂ hhi₂ hn₂ =>
      -- subtracting from zero flips the sign
      refine ⟨.finite (-s₂) e₂ hm₂ hlt₂ hlo₂ hhi₂ hn₂, rfl, ?_⟩
      show unpackedValue (.finite (-s₂) _ e₂ hm₂) = _
      rw [unpackedValue_zero, zero_sub, unpackedValue_finite, unpackedValue_finite, apply_neg,
        Int.cast_neg, neg_mul]
  | @finite s₁ m₁ e₁ hm₁ hlt₁ hlo₁ hhi₁ hn₁ =>
    cases cv with
    | notANumber | infinity => simp [UnpackedFloat.isFinite] at fv
    | zero s₂ =>
      rw [unpackedValue_zero, sub_zero]
      exact ⟨.finite s₁ e₁ hm₁ hlt₁ hlo₁ hhi₁ hn₁, rfl, rfl⟩
    | @finite s₂ m₂ e₂ hm₂ hlt₂ hlo₂ hhi₂ hn₂ =>
      have hdiff := value_sub_decreaseExponent s₁ s₂ m₁ m₂ e₁ e₂
      rw [← unpackedValue_finite s₁ m₁ e₁ hm₁, ← unpackedValue_finite s₂ m₂ e₂ hm₂] at hdiff
      rw [← hdiff] at h ⊢
      exact represents_normalize _ _ _ h

/-! ## Product -/

/-- The product of two canonical mantissas starts at or below its target exponent: it has at
least 53 bits when one of them is normal, and lies far below the least exponent otherwise. -/
lemma le_targetExponent_mul {m₁ m₂ : ℕ} {e₁ e₂ : ℤ} (hm₁ : 0 < m₁) (hm₂ : 0 < m₂)
    (hn₁ : 2 ^ 52 ≤ m₁ ∨ e₁ = -1074)
    (hn₂ : 2 ^ 52 ≤ m₂ ∨ e₂ = -1074) :
    e₁ + e₂ ≤ Format.binary64.targetExponent (totalExponent (m₁ * m₂) (e₁ + e₂)) := by
  rw [targetExponent_eq]
  have hlog : 2 ^ 52 ≤ m₁ * m₂ → 52 ≤ (m₁ * m₂).log2 :=
    (Nat.le_log2 (Nat.mul_ne_zero hm₁.ne' hm₂.ne')).mpr
  rcases hn₁ with h₁ | h₁
  · have := hlog (le_trans h₁ (Nat.le_mul_of_pos_right m₁ hm₂))
    omega
  · rcases hn₂ with h₂ | h₂
    · have := hlog (le_trans h₂ (Nat.le_mul_of_pos_left m₂ hm₁))
      omega
    · omega

/-- The mantissas and the exponents multiply, the signs multiply. -/
lemma value_mul_finite (s₁ s₂ : Sign) {m₁ m₂ : ℕ} (e₁ e₂ : ℤ) (hm₁ : 0 < m₁) (hm₂ : 0 < m₂) :
    ((s₁ * s₂).apply ((m₁ * m₂ : ℕ) : ℤ) : ℚ) * 2 ^ (e₁ + e₂) =
      unpackedValue (.finite s₁ m₁ e₁ hm₁) * unpackedValue (.finite s₂ m₂ e₂ hm₂) := by
  rw [Nat.cast_mul, apply_mul, unpackedValue_finite, unpackedValue_finite, Int.cast_mul,
    zpow_add₀ two_ne_zero]
  ring

/-- A product whose exact value is a binary64 value is computed exactly. -/
theorem represents_mul {u v : UnpackedFloat} {a b : ℚ} (hu : Represents u a)
    (hv : Represents v b) (h : Representable (a * b)) :
    Represents (UnpackedFloat.mul Format.binary64 u v) (a * b) := by
  obtain ⟨cu, fu, rfl⟩ := hu
  obtain ⟨cv, fv, rfl⟩ := hv
  cases cu with
  | notANumber | infinity => simp [UnpackedFloat.isFinite] at fu
  | zero s₁ =>
    cases cv with
    | notANumber | infinity => simp [UnpackedFloat.isFinite] at fv
    | zero s₂ =>
      rw [unpackedValue_zero, zero_mul]
      exact represents_zero _
    | finite s₂ e₂ hm₂ =>
      rw [unpackedValue_zero, zero_mul]
      exact represents_zero _
  | @finite s₁ m₁ e₁ hm₁ hlt₁ hlo₁ hhi₁ hn₁ =>
    cases cv with
    | notANumber | infinity => simp [UnpackedFloat.isFinite] at fv
    | zero s₂ =>
      rw [unpackedValue_zero, mul_zero]
      exact represents_zero _
    | @finite s₂ m₂ e₂ hm₂ hlt₂ hlo₂ hhi₂ hn₂ =>
      -- the mantissas and the exponents multiply, and the product is rounded once
      have hprod := value_mul_finite s₁ s₂ e₁ e₂ hm₁ hm₂
      have hmag : |(((m₁ * m₂ : ℕ) : ℚ) * 2 ^ (e₁ + e₂))| =
          |unpackedValue (.finite s₁ m₁ e₁ hm₁) * unpackedValue (.finite s₂ m₂ e₂ hm₂)| := by
        rw [← hprod]
        cases s₁ * s₂ <;> simp [Sign.apply]
      rw [← hprod]
      refine represents_roundWithAccuracy _ (Nat.mul_pos hm₁ hm₂)
        (le_targetExponent_mul hm₁ hm₂ hn₁ hn₂) ?_
      obtain ⟨n, j, hn, hj₁, hj₂, hq⟩ := h
      exact ⟨n, j, hn, hj₁, hj₂, by rw [hmag, hq]⟩

/-- Multiplying a non-negative float by one of value at least one gives at least the first, as
long as the product stays below `2^1000`. -/
theorem represents_mul_ge {u v : UnpackedFloat} {a b : ℚ} (hu : Represents u a)
    (hv : Represents v b) (ha : 0 ≤ a) (hb : 1 ≤ b) (hbound : a * b < 2 ^ (1000 : ℤ)) :
    ∃ c, Represents (UnpackedFloat.mul Format.binary64 u v) c ∧ a ≤ c := by
  have hya := hu.representable
  obtain ⟨cu, fu, rfl⟩ := hu
  obtain ⟨cv, fv, rfl⟩ := hv
  cases cv with
  | notANumber | infinity => simp [UnpackedFloat.isFinite] at fv
  | zero s₂ =>
    rw [unpackedValue_zero] at hb
    norm_num at hb
  | @finite s₂ m₂ e₂ hm₂ hlt₂ hlo₂ hhi₂ hn₂ =>
    cases cu with
    | notANumber | infinity => simp [UnpackedFloat.isFinite] at fu
    | zero s₁ => exact ⟨0, represents_zero _, le_of_eq rfl⟩
    | @finite s₁ m₁ e₁ hm₁ hlt₁ hlo₁ hhi₁ hn₁ =>
      obtain rfl := sign_positive_of_nonneg ha
      obtain rfl := sign_positive_of_nonneg (zero_le_one.trans hb)
      have hprod : ((m₁ * m₂ : ℕ) : ℚ) * 2 ^ (e₁ + e₂) =
          unpackedValue (.finite .positive m₁ e₁ hm₁) * unpackedValue (.finite .positive m₂ e₂ hm₂) := by
        simp only [unpackedValue_finite, Sign.apply, Int.cast_natCast, Nat.cast_mul,
          zpow_add₀ (two_ne_zero (α := ℚ))]
        ring
      have hc := le_targetExponent_mul hm₁ hm₂ hn₁ hn₂
      have hmax := targetExponent_le_of_lt (Nat.mul_pos hm₁ hm₂) (hprod ▸ hbound)
      refine ⟨_, ⟨canonical_roundWithAccuracy .positive _ _ .exact hc hmax,
        isFinite_roundWithAccuracy .., rfl⟩, ?_⟩
      exact le_unpackedValue_roundWithAccuracy hc hya
        (hprod ▸ le_mul_of_one_le_right ha hb)

/-! ## Quotient -/

lemma log2_mul_le {a b : ℕ} (ha : a ≠ 0) (hb : b ≠ 0) : (a * b).log2 ≤ a.log2 + b.log2 + 1 := by
  have hlt : a * b < 2 ^ (a.log2 + b.log2 + 2) := by
    calc a * b < 2 ^ (a.log2 + 1) * 2 ^ (b.log2 + 1) :=
          Nat.mul_lt_mul'' Nat.lt_log2_self Nat.lt_log2_self
      _ = 2 ^ (a.log2 + b.log2 + 2) := by rw [← Nat.pow_add]; congr 1; omega
  have := (Nat.log2_lt (Nat.mul_ne_zero ha hb)).mpr hlt
  omega

section Division

variable {m₁ m₂ n : ℕ} {e₁ e₂ j : ℤ}

/-- The exponent the division core works at is at most the quotient's own target exponent. -/
lemma divCore_exponent_le (hm₁ : 0 < m₁) (hm₂ : 0 < m₂) (hn : 0 < n) (hn' : n < 2 ^ 53)
    (hq : (m₁ : ℚ) * 2 ^ e₁ = (n * m₂ : ℕ) * 2 ^ (j + e₂)) :
    (divCore Format.binary64 m₁ e₁ m₂ e₂).2.1 ≤ max ((n.log2 : ℤ) + j - 52) (-1074) := by
  have hlog := log2_add_eq hm₁ (Nat.mul_pos hn hm₂) hq
  have hmul := log2_mul_le hn.ne' hm₂.ne'
  have hnlog : n.log2 < 53 := (Nat.log2_lt hn.ne').mpr hn'
  simp only [divCore, targetExponent_binary64, totalExponent]
  omega

/-- Shifted to the exponent `T`, the dividend is the divisor times the quotient's mantissa at
`T`. -/
lemma shifted_dividend_eq {T : ℤ} (hTe : T ≤ e₁ - e₂) (hTj : T ≤ j)
    (hq : (m₁ : ℚ) * 2 ^ e₁ = (n * m₂ : ℕ) * 2 ^ (j + e₂)) :
    m₁ * 2 ^ (e₁ - e₂ - T).toNat = m₂ * (n * 2 ^ (j - T).toNat) := by
  have h : ((m₁ * 2 ^ (e₁ - e₂ - T).toNat : ℕ) : ℚ) = ((m₂ * (n * 2 ^ (j - T).toNat) : ℕ) : ℚ) := by
    push_cast
    rw [← zpow_natCast, ← zpow_natCast, Int.toNat_of_nonneg (by omega),
      Int.toNat_of_nonneg (by omega), zpow_sub₀ two_ne_zero, zpow_sub₀ two_ne_zero,
      zpow_sub₀ two_ne_zero]
    rw [Nat.cast_mul, zpow_add₀ two_ne_zero] at hq
    field_simp
    linear_combination hq
  exact_mod_cast h

/-- When the quotient is a binary64 value, the divisor divides the shifted dividend, so the
division core finds the quotient exactly, at an exponent no higher than its target. -/
lemma divCore_exact (hm₁ : 0 < m₁) (hm₂ : 0 < m₂) (hn : 0 < n) (hn' : n < 2 ^ 53)
    (hj : -1074 ≤ j) (hq : (m₁ : ℚ) * 2 ^ e₁ = (n * m₂ : ℕ) * 2 ^ (j + e₂)) :
    (divCore Format.binary64 m₁ e₁ m₂ e₂).2.2 = .exact ∧
      (divCore Format.binary64 m₁ e₁ m₂ e₂).1 =
        n * 2 ^ (j - (divCore Format.binary64 m₁ e₁ m₂ e₂).2.1).toNat ∧
      (divCore Format.binary64 m₁ e₁ m₂ e₂).2.1 ≤ max ((n.log2 : ℤ) + j - 52) (-1074) := by
  have hle := divCore_exponent_le hm₁ hm₂ hn hn' hq
  have hnlog : n.log2 < 53 := (Nat.log2_lt hn.ne').mpr hn'
  simp only [divCore] at hle ⊢
  generalize hT : min (e₁ - e₂) (Format.binary64.targetExponent
    (totalExponent m₁ e₁ - totalExponent m₂ e₂)) = T at hle ⊢
  have hTe : T ≤ e₁ - e₂ := by rw [← hT]; exact min_le_left _ _
  have hM := shifted_dividend_eq hTe (by omega) hq
  rw [Nat.shiftLeft_eq, hM, Nat.mul_mod_right, Nat.mul_div_cancel_left _ hm₂]
  exact ⟨rfl, rfl, hle⟩

end Division

/-- A quotient whose exact value is a binary64 value is computed exactly. -/
theorem represents_div {u v : UnpackedFloat} {a b : ℚ} (hu : Represents u a)
    (hv : Represents v b) (hb : b ≠ 0) (h : Representable (a / b)) :
    Represents (UnpackedFloat.div Format.binary64 u v) (a / b) := by
  obtain ⟨cu, fu, rfl⟩ := hu
  obtain ⟨cv, fv, rfl⟩ := hv
  cases cv with
  | notANumber | infinity => simp [UnpackedFloat.isFinite] at fv
  | zero s₂ => exact absurd (unpackedValue_zero s₂) hb
  | @finite s₂ m₂ e₂ hm₂ hlt₂ hlo₂ hhi₂ hn₂ =>
    cases cu with
    | notANumber | infinity => simp [UnpackedFloat.isFinite] at fu
    | zero s₁ =>
      rw [unpackedValue_zero, zero_div]
      exact represents_zero _
    | @finite s₁ m₁ e₁ hm₁ hlt₁ hlo₁ hhi₁ hn₁ =>
      obtain ⟨n, j, hn, hj₁, hj₂, hq⟩ := h
      have hA : (0 : ℚ) < m₁ * 2 ^ e₁ := by positivity
      have hB : (0 : ℚ) < m₂ * 2 ^ e₂ := by positivity
      -- the magnitude of the quotient is `n · 2^j`
      have hmag : (m₁ : ℚ) * 2 ^ e₁ / (m₂ * 2 ^ e₂) = n * 2 ^ j := by
        rw [← hq, abs_div, abs_unpackedValue_finite, abs_unpackedValue_finite]
      have hn0 : 0 < n := by
        rcases Nat.eq_zero_or_pos n with rfl | h
        · rw [Nat.cast_zero, zero_mul] at hmag
          exact absurd hmag (div_pos hA hB).ne'
        · exact h
      have hq' : (m₁ : ℚ) * 2 ^ e₁ = (n * m₂ : ℕ) * 2 ^ (j + e₂) := by
        rw [div_eq_iff hB.ne'] at hmag
        rw [hmag, Nat.cast_mul, zpow_add₀ two_ne_zero]
        ring
      obtain ⟨hacc, hmant, hle⟩ := divCore_exact hm₁ hm₂ hn0 hn hj₁ hq'
      show Represents (roundWithAccuracy Format.binary64 (s₁ / s₂)
        (divCore Format.binary64 m₁ e₁ m₂ e₂).1 (divCore Format.binary64 m₁ e₁ m₂ e₂).2.1
        (divCore Format.binary64 m₁ e₁ m₂ e₂).2.2) _
      rw [hacc, hmant]
      generalize (divCore Format.binary64 m₁ e₁ m₂ e₂).2.1 = T at hle ⊢
      have hnlog : n.log2 < 53 := (Nat.log2_lt hn0.ne').mpr hn
      -- the quotient's mantissa at `T` and its value
      have hval : ((n * 2 ^ (j - T).toNat : ℕ) : ℚ) * 2 ^ T = n * 2 ^ j := by
        rw [Nat.cast_mul, Nat.cast_pow, Nat.cast_ofNat, ← zpow_natCast, mul_assoc,
          ← zpow_add₀ two_ne_zero]
        congr 2
        omega
      have hc : T ≤ Format.binary64.targetExponent (totalExponent (n * 2 ^ (j - T).toNat) T) := by
        rw [targetExponent_eq, log2_mul_two_pow hn0.ne']
        omega
      have hr := represents_roundWithAccuracy (s₁ / s₂) (Nat.mul_pos hn0 (Nat.two_pow_pos _)) hc
        ⟨n, j, hn, hj₁, hj₂, by rw [hval, abs_of_nonneg (by positivity)]⟩
      have hdiv : ((s₁ / s₂).apply ((n * 2 ^ (j - T).toNat : ℕ) : ℤ) : ℚ) * 2 ^ T =
          unpackedValue (.finite s₁ m₁ e₁ hm₁) / unpackedValue (.finite s₂ m₂ e₂ hm₂) := by
        rw [unpackedValue_finite, unpackedValue_finite]
        apply apply_div_eq s₁ s₂
        rw [Int.cast_natCast, hval, Int.cast_natCast, Int.cast_natCast, hmag]
      rwa [hdiv] at hr

/-! ## Magnitude and integer part -/

/-- Clearing the sign of a float that stands for `a` gives one that stands for `|a|`. -/
theorem represents_abs {u : UnpackedFloat} {a : ℚ} (hu : Represents u a) :
    Represents u.abs |a| := by
  obtain ⟨cu, fu, rfl⟩ := hu
  cases cu with
  | notANumber | infinity => simp [UnpackedFloat.isFinite] at fu
  | zero s =>
    rw [unpackedValue_zero, abs_zero]
    exact represents_zero .positive
  | @finite s m e hm hlt hlo hhi hn =>
    refine ⟨.finite .positive e hm hlt hlo hhi hn, rfl, ?_⟩
    show unpackedValue (.finite .positive m e hm) = _
    rw [abs_unpackedValue_finite, unpackedValue_finite, Sign.apply, Int.cast_natCast]

/-- The integer part of `m · 2^e`. -/
lemma floor_mul_zpow (m : ℕ) (e : ℤ) : ⌊(m : ℚ) * 2 ^ e⌋₊ = m * 2 ^ e.toNat / 2 ^ (-e).toNat := by
  have hpow : (2 : ℚ) ^ e = 2 ^ e.toNat / 2 ^ (-e).toNat := by
    rw [← zpow_natCast, ← zpow_natCast, ← zpow_sub₀ two_ne_zero]
    congr 1
    omega
  rw [hpow, ← mul_div_assoc, ← Nat.floor_div_eq_div (K := ℚ)]
  push_cast
  rfl

/-- Converting a non-negative float to an integer truncates it. -/
lemma toInt_of_represents {u : UnpackedFloat} {a : ℚ} (hu : Represents u a) (ha : 0 ≤ a)
    (lo hi : ℤ) : u.toInt lo hi = ⌊a⌋₊ := by
  obtain ⟨cu, fu, rfl⟩ := hu
  cases cu with
  | notANumber | infinity => simp [UnpackedFloat.isFinite] at fu
  | zero s => simp [UnpackedFloat.toInt]
  | @finite s m e hm hlt hlo hhi hn =>
    obtain rfl := sign_positive_of_nonneg ha
    simp only [UnpackedFloat.toInt, roundToInt, decreaseExponent, shiftToExponent,
      ExtendedMantissa.ofMantissaAndAccuracy, mantissa_shiftRight, Sign.apply, Nat.shiftLeft_eq,
      unpackedValue_finite, Int.cast_natCast, floor_mul_zpow, sub_zero, zero_sub]
    congr 3
    omega

end WaveScope.Numeric
