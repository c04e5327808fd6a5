import Mathlib
import WaveScope.Proofs.Binary64.Nearest
import WaveScope.Proofs.Binary64.Arithmetic
import WaveScope.Numeric.Binary64

/-!
# Binary64 arithmetic on the extended line

A float that is not NaN is a point of the rationals closed by `⊥` and `⊤`: a finite float at the
number it stands for, `-∞` and `+∞` at the two ends.  On that line the comparisons of `Float` are
the order of the line, and each operation on finite operands lands where rounding to nearest puts
the exact result, or at the end of its sign once the rounded magnitude reaches `2^1024`.

* `place x` is that point, `none` for NaN; `lt_iff_place` and `le_iff_place` read comparisons
  from it, and `hasValue_iff_place` relates it to `HasValue`.
* `roundLine q` is the point binary64 arithmetic returns for an exact result `q`;
  `roundLine_mono` says it is monotone, and `roundLine_of_representable` that it keeps a binary64
  value.
* `place_add`, `place_sub`, `place_mul`, `place_div` and `place_ofNat`: the operations on finite
  operands and the conversion from naturals round to nearest and overflow to an infinity;
  `place_add_infinity` and `hasValue_div_infinity` cover a finite operand against an infinity.
* `place_minNum` and `place_clamp`: `minNum` of two floats that are not NaN is the lower point,
  and `clamp` pins a point between its bounds.
* `sub_place_of_le`: the difference of two ordered floats lies at a point not below zero, or is
  NaN when both are one infinity.
-/

namespace WaveScope.Numeric

open Float.Model Float.Model.UnpackedFloat

/-! ## The extended line -/

/-- A rational as a point of the line closed by `⊥` and `⊤`. -/
def onLine (q : ℚ) : WithBot (WithTop ℚ) := ((q : WithTop ℚ) : WithBot (WithTop ℚ))

@[simp] lemma onLine_le_onLine {a b : ℚ} : onLine a ≤ onLine b ↔ a ≤ b := by
  simp [onLine]

@[simp] lemma onLine_lt_onLine {a b : ℚ} : onLine a < onLine b ↔ a < b := by
  simp [onLine]

@[simp] lemma onLine_inj {a b : ℚ} : onLine a = onLine b ↔ a = b := by
  simp [onLine]

@[simp] lemma bot_lt_onLine (a : ℚ) : ⊥ < onLine a := WithBot.bot_lt_coe _

@[simp] lemma onLine_lt_top (a : ℚ) : onLine a < ⊤ :=
  WithBot.coe_lt_coe.mpr (WithTop.coe_lt_top a)

@[simp] lemma onLine_ne_top (a : ℚ) : onLine a ≠ ⊤ := (onLine_lt_top a).ne

@[simp] lemma onLine_ne_bot (a : ℚ) : onLine a ≠ ⊥ := (bot_lt_onLine a).ne'

lemma compare_onLine (a b : ℚ) : compare (onLine a) (onLine b) = compare a b := by
  rcases lt_trichotomy a b with h | rfl | h
  · rw [compare_lt_iff_lt.mpr h, compare_lt_iff_lt.mpr (onLine_lt_onLine.mpr h)]
  · simp
  · rw [compare_gt_iff_gt.mpr h, compare_gt_iff_gt.mpr (onLine_lt_onLine.mpr h)]

/-- The end of the line on the side of a sign. -/
def lineEnd : Sign → WithBot (WithTop ℚ)
  | .negative => ⊥
  | .positive => ⊤

@[simp] lemma bot_ne_onLine (a : ℚ) : ⊥ ≠ onLine a := (bot_lt_onLine a).ne

@[simp] lemma top_ne_onLine (a : ℚ) : ⊤ ≠ onLine a := (onLine_lt_top a).ne'

@[simp] lemma compare_bot_onLine (a : ℚ) : compare ⊥ (onLine a) = .lt :=
  compare_lt_iff_lt.mpr (bot_lt_onLine a)

@[simp] lemma compare_onLine_bot (a : ℚ) : compare (onLine a) ⊥ = .gt :=
  compare_gt_iff_gt.mpr (bot_lt_onLine a)

@[simp] lemma compare_top_onLine (a : ℚ) : compare ⊤ (onLine a) = .gt :=
  compare_gt_iff_gt.mpr (onLine_lt_top a)

@[simp] lemma compare_onLine_top (a : ℚ) : compare (onLine a) ⊤ = .lt :=
  compare_lt_iff_lt.mpr (onLine_lt_top a)

@[simp] lemma compare_bot_top : compare (⊥ : WithBot (WithTop ℚ)) ⊤ = .lt :=
  compare_lt_iff_lt.mpr bot_lt_top

@[simp] lemma compare_top_bot : compare (⊤ : WithBot (WithTop ℚ)) ⊥ = .gt :=
  compare_gt_iff_gt.mpr bot_lt_top

/-! ## Where a float lies -/

/-- Where a decoded float lies on the extended line: a finite one at the number it stands for, an
infinity at the end of its sign; NaN lies nowhere. -/
def unpackedPlace : UnpackedFloat → Option (WithBot (WithTop ℚ))
  | .notANumber => none
  | .infinity s => some (lineEnd s)
  | .zero _ => some (onLine 0)
  | .finite s m e _ => some (onLine (s.apply m * 2 ^ e))

/-- Where a float lies on the extended line; NaN lies nowhere. -/
def place (x : Float) : Option (WithBot (WithTop ℚ)) := unpackedPlace x.toModel.unpack

lemma unpackedPlace_of_isFinite {u : UnpackedFloat} (h : u.isFinite = true) :
    unpackedPlace u = some (onLine (unpackedValue u)) := by
  cases u with
  | notANumber | infinity => simp [UnpackedFloat.isFinite] at h
  | zero => rfl
  | finite => rfl

/-- A finite float lies at the number it stands for, and only a finite float lies there. -/
theorem hasValue_iff_place {x : Float} {a : ℚ} : HasValue x a ↔ place x = some (onLine a) := by
  constructor
  · intro h
    rw [place, unpackedPlace_of_isFinite h.isFinite]
    exact congrArg (fun v => some (onLine v)) h.value_eq
  · intro h
    have hfin : x.toModel.unpack.isFinite = true := by
      unfold place at h
      cases hu : x.toModel.unpack with
      | notANumber => simp [hu, unpackedPlace] at h
      | infinity s => cases s <;> simp [hu, unpackedPlace, lineEnd] at h
      | zero => rfl
      | finite => rfl
    refine ⟨canonical_unpack _, hfin, ?_⟩
    rw [place, unpackedPlace_of_isFinite hfin] at h
    simpa using h

lemma place_eq_none_iff {x : Float} : place x = none ↔ x.isNaN = true := by
  show unpackedPlace x.toModel.unpack = none ↔ x.toModel.unpack.isNaN = true
  cases x.toModel.unpack <;> simp [unpackedPlace, UnpackedFloat.isNaN]

lemma isNaN_eq_false {x : Float} {p : WithBot (WithTop ℚ)} (h : place x = some p) :
    x.isNaN = false := by
  rw [Bool.eq_false_iff]
  intro hnan
  rw [place_eq_none_iff.mpr hnan] at h
  simp at h

/-- Two decoded floats of the canonical shape compare as their places; NaN compares with
nothing. -/
theorem compare_eq_of_unpackedPlace {a b : UnpackedFloat} (ha : Canonical a) (hb : Canonical b)
    {p q : WithBot (WithTop ℚ)} (hpa : unpackedPlace a = some p) (hpb : unpackedPlace b = some q) :
    a.compare b = some (compare p q) := by
  by_cases hfa : a.isFinite = true <;> by_cases hfb : b.isFinite = true
  · -- two finite floats compare as their values
    rw [unpackedPlace_of_isFinite hfa, Option.some.injEq] at hpa
    rw [unpackedPlace_of_isFinite hfb, Option.some.injEq] at hpb
    rw [compare_eq_compare_value ha hb hfa hfb, ← hpa, ← hpb, compare_onLine]
  -- otherwise an infinity is involved: it lies above or below every other point
  all_goals
    rcases a with (_ | _) | _ | _ | _ <;> rcases b with (_ | _) | _ | _ | _ <;>
      simp [UnpackedFloat.isFinite, unpackedPlace, lineEnd] at hfa hfb hpa hpb <;> subst hpa hpb <;>
      simp [UnpackedFloat.compare]
  -- two infinities compare as their signs
  all_goals rfl

theorem lt_iff_place {x y : Float} {p q : WithBot (WithTop ℚ)} (hx : place x = some p)
    (hy : place y = some q) : x < y ↔ p < q := by
  rw [lt_iff_compare, compare_eq_of_unpackedPlace (canonical_unpack _) (canonical_unpack _) hx hy,
    Option.some.injEq, compare_lt_iff_lt]

theorem le_iff_place {x y : Float} {p q : WithBot (WithTop ℚ)} (hx : place x = some p)
    (hy : place y = some q) : x ≤ y ↔ p ≤ q := by
  rw [le_iff_compare, compare_eq_of_unpackedPlace (canonical_unpack _) (canonical_unpack _) hx hy,
    Option.any_some, Ordering.isLE_iff_ne_gt, compare_gt_iff_gt, not_lt]

/-! ## Rounding onto the line -/

/-- The point binary64 arithmetic returns for an exact result `q`: the nearest binary64 value to
`q`, ties to even, or the end of `q`'s sign when that value has a magnitude of `2^1024` or more. -/
def roundLine (q : ℚ) : WithBot (WithTop ℚ) :=
  if 2 ^ 1024 ≤ |roundNearest q| then (if q < 0 then ⊥ else ⊤) else onLine (roundNearest q)

lemma roundLine_of_lt {q : ℚ} (h : |roundNearest q| < 2 ^ 1024) :
    roundLine q = onLine (roundNearest q) :=
  if_neg (not_le.mpr h)

/-- A binary64 value is its own result. -/
theorem roundLine_of_representable {q : ℚ} (h : Representable q) : roundLine q = onLine q := by
  rw [roundLine_of_lt (by rw [roundNearest_of_representable h]; exact abs_lt_of_representable h),
    roundNearest_of_representable h]

lemma representable_zero : Representable 0 := ⟨0, 0, by norm_num, by norm_num, by norm_num, by simp⟩

lemma representable_two_pow {k : ℕ} (hk : k ≤ 1023) : Representable (2 ^ k) := by
  have h := two_pow_mul_zpow 52 ((k : ℤ) - 52)
  rw [show (k : ℤ) - 52 + ((52 : ℕ) : ℤ) = k by omega, zpow_natCast] at h
  refine ⟨2 ^ 52, k - 52, by norm_num, by omega, by omega, ?_⟩
  rw [abs_of_pos (by positivity), Nat.cast_pow, Nat.cast_ofNat, h]

lemma roundNearest_of_roundLine {q σ : ℚ} (h : roundLine q = onLine σ) : roundNearest q = σ := by
  unfold roundLine at h
  split_ifs at h with hbig hneg
  · exact absurd h (bot_ne_onLine σ)
  · exact absurd h (top_ne_onLine σ)
  · exact onLine_inj.mp h

@[simp] lemma roundLine_zero : roundLine 0 = onLine 0 := roundLine_of_representable representable_zero

/-- Rounding onto the line is monotone: a larger exact result never lands lower, overflow
included. -/
theorem roundLine_mono {q r : ℚ} (h : q ≤ r) : roundLine q ≤ roundLine r := by
  have hmono := roundNearest_mono h
  unfold roundLine
  by_cases hq : 2 ^ 1024 ≤ |roundNearest q|
  · by_cases hqneg : q < 0
    · simp only [hq, hqneg, if_true, bot_le]
    -- `q` overflows upwards, so `r` does too
    have hq0 : 0 ≤ roundNearest q := roundNearest_nonneg (not_lt.mp hqneg)
    rw [abs_of_nonneg hq0] at hq
    have hr : 2 ^ 1024 ≤ |roundNearest r| := (hq.trans hmono).trans (le_abs_self _)
    have hrneg : ¬ r < 0 := fun hr => hqneg (h.trans_lt hr)
    simp only [hq.trans (le_abs_self _), hqneg, hr, hrneg, if_true, if_false, le_refl]
  · rw [if_neg hq]
    by_cases hr : 2 ^ 1024 ≤ |roundNearest r|
    · by_cases hrneg : r < 0
      · -- `r` overflows downwards, so `q` does too
        have hr0 : roundNearest r ≤ 0 := roundNearest_nonpos hrneg.le
        rw [abs_of_nonpos hr0] at hr
        have hq0 : roundNearest q ≤ 0 := hmono.trans hr0
        exact absurd (by rw [abs_of_nonpos hq0]; exact hr.trans (neg_le_neg hmono)) hq
      · simp only [hr, hrneg, if_true, if_false, le_top]
    · rw [if_neg hr]
      exact onLine_le_onLine.mpr hmono

/-- The result lands on the line itself when the exact value is within a binary64 bound. -/
lemma roundLine_of_abs_le {q r : ℚ} (hr : Representable r) (h : |q| ≤ r) :
    roundLine q = onLine (roundNearest q) := by
  apply roundLine_of_lt
  have hbound : |roundNearest q| ≤ r := by
    rw [abs_le]
    constructor
    · calc -r = roundNearest (-r) := by
            rw [roundNearest_of_representable (representable_neg hr)]
        _ ≤ roundNearest q := roundNearest_mono (neg_le_of_abs_le h)
    · calc roundNearest q ≤ roundNearest r := roundNearest_mono (le_of_abs_le h)
        _ = r := roundNearest_of_representable hr
  exact hbound.trans_lt ((le_abs_self r).trans_lt (abs_lt_of_representable hr))

/-! ## Encoding a rounded result -/

/-- A finite float whose exponent is past the greatest encodes as the infinity of its sign. -/
lemma unpack_pack_of_exponent_ge (s : Sign) {m : ℕ} {e : ℤ} (hm : 0 < m) (he : 972 ≤ e) :
    (Float.Model.pack (.finite s m e hm)).unpack = .infinity s := by
  have hpack : Float.Model.pack (.finite s m e hm) = Float.Model.pack (.infinity s) := by
    unfold Float.Model.pack
    congr 2
    simp only [UnpackedFloat.pack]
    rw [if_pos (by simp [Format.exponentBias]; omega)]
  rw [hpack, unpack_pack (.infinity s)]

/-- A rounded result is a zero, or a mantissa below `2^53` at an exponent not below the least,
normal unless at the least exponent: the canonical shape, with no greatest exponent. -/
lemma roundWithAccuracy_shape (s : Sign) (m : ℕ) (e : ℤ) (a : Accuracy)
    (hc : e ≤ Format.binary64.targetExponent (totalExponent m e)) :
    roundWithAccuracy Format.binary64 s m e a = .zero s ∨
      ∃ M E, ∃ hM : 0 < M, roundWithAccuracy Format.binary64 s m e a = .finite s M E hM ∧
        M < 2 ^ 53 ∧ -1074 ≤ E ∧ (2 ^ 52 ≤ M ∨ E = -1074) := by
  have hlt := shiftToTargetExponent_fst_lt m e a
  have hr := roundedMantissa_bounds (shiftToTargetExponent Format.binary64 m e a).1
  have hn := normal_or_least m e hc
  have ht := targetExponent_eq m e
  have hsnd := shiftToTargetExponent_snd m e a
  rw [shiftToTargetExponent_fst] at hlt hr
  rw [roundWithAccuracy_eq]
  split_ifs with hz hsmall
  · exact .inl rfl
  · -- rounding up keeps a normal mantissa normal
    exact .inr ⟨_, _, Nat.pos_of_ne_zero hz, rfl, hsmall, by omega, by omega⟩
  · exact .inr ⟨_, _, by norm_num, rfl, by norm_num, by omega, .inl le_rfl⟩

/-- Rounding a signed magnitude rounds the magnitude under the sign. -/
lemma roundNearest_apply (s : Sign) {x : ℚ} (hx : 0 ≤ x) :
    roundNearest ((s.apply 1 : ℚ) * x) = s.apply 1 * roundMag x := by
  cases s
  · simp only [Sign.apply, Int.reduceNeg, Int.cast_neg, Int.cast_one, neg_one_mul]
    rcases hx.eq_or_lt with rfl | hx
    · simp [roundNearest]
    · rw [roundNearest_of_neg (by linarith), neg_neg]
  · simp only [Sign.apply, Int.cast_one, one_mul]
    exact roundNearest_of_nonneg hx

/-- **Encoding a rounded result.**  The float a rounding encodes lies where `roundLine` puts the
exact value: rounded to nearest, or at the end of its sign once the rounded magnitude reaches
`2^1024`. -/
theorem unpackedPlace_pack_roundWithAccuracy (s : Sign) {m : ℕ} {e : ℤ} {a : Accuracy} {φ : ℚ}
    (hc : e ≤ Format.binary64.targetExponent (totalExponent m e)) (ha : Describes a φ) :
    unpackedPlace (Float.Model.pack (roundWithAccuracy Format.binary64 s m e a)).unpack =
      some (roundLine ((s.apply 1 : ℚ) * ((m + φ) * 2 ^ e))) := by
  have hX : 0 ≤ ((m : ℚ) + φ) * 2 ^ e :=
    mul_nonneg (add_nonneg (Nat.cast_nonneg m) ha.nonneg) (zpow_pos two_pos e).le
  have hv := unpackedValue_roundWithAccuracy_of_describes s hc ha
  have hsign : |(s.apply 1 : ℚ)| = 1 := by cases s <;> simp [Sign.apply]
  rcases roundWithAccuracy_shape s m e a hc with h0 | ⟨M, E, hM, hu, hlt, hlo, hn⟩
  · rw [h0] at hv ⊢
    rw [unpack_pack (.zero s), roundLine_of_lt (by rw [roundNearest_apply s hX, ← hv]; simp),
      roundNearest_apply s hX, ← hv]
    rfl
  rw [hu] at hv ⊢
  have habs : |unpackedValue (.finite s M E hM)| = roundMag (((m : ℚ) + φ) * 2 ^ e) := by
    rw [hv, abs_mul, hsign, one_mul, abs_of_nonneg (roundMag_nonneg hX)]
  by_cases hE : E ≤ 971
  · -- an exponent in range: the value is encoded as it is
    have hsmall : |unpackedValue (.finite s M E hM)| < 2 ^ 1024 := by
      rw [abs_unpackedValue_finite]
      calc (M : ℚ) * 2 ^ E < 2 ^ (E + 53) := magnitude_lt E hlt
        _ ≤ 2 ^ (1024 : ℤ) := zpow_le_zpow_right₀ (by norm_num) (by omega)
        _ = 2 ^ 1024 := by norm_num
    rw [unpack_pack (.finite s E hM hlt hlo hE hn),
      roundLine_of_lt (by rw [roundNearest_apply s hX, abs_mul, hsign, one_mul,
        abs_of_nonneg (roundMag_nonneg hX), ← habs]; exact hsmall),
      roundNearest_apply s hX, ← hv]
    rfl
  · -- past the greatest exponent: a normal value of at least `2^1024`, encoded as an infinity
    have hnormal : 2 ^ 52 ≤ M := hn.resolve_right (by omega)
    have hbig : 2 ^ 1024 ≤ roundMag (((m : ℚ) + φ) * 2 ^ e) := by
      rw [← habs, abs_unpackedValue_finite]
      calc (2 : ℚ) ^ 1024 = 2 ^ (1024 : ℤ) := by norm_num
        _ ≤ 2 ^ (E + 52) := zpow_le_zpow_right₀ (by norm_num) (by omega)
        _ ≤ M * 2 ^ E := magnitude_ge E hnormal
    have hXpos : 0 < ((m : ℚ) + φ) * 2 ^ e := by
      refine lt_of_le_of_ne hX fun h => ?_
      rw [← h, roundMag_zero] at hbig
      exact absurd hbig (not_le.mpr (by positivity))
    rw [unpack_pack_of_exponent_ge s hM (by omega)]
    unfold roundLine
    rw [if_pos (by rw [roundNearest_apply s hX, abs_mul, hsign, one_mul,
      abs_of_nonneg (roundMag_nonneg hX)]; exact hbig)]
    cases s
    · simp [unpackedPlace, lineEnd, Sign.apply, hXpos]
    · simp [unpackedPlace, lineEnd, Sign.apply, not_lt.mpr hX]

/-! ## Each operation lands where `roundLine` puts its exact result -/

/-- A result that is exact lands on its value. -/
lemma unpackedPlace_pack_of_represents {u : UnpackedFloat} {q : ℚ} (h : Represents u q) :
    unpackedPlace (Float.Model.pack u).unpack = some (roundLine q) := by
  rw [unpack_pack h.canonical, unpackedPlace_of_isFinite h.isFinite, h.value_eq,
    roundLine_of_representable h.representable]

lemma apply_one_mul (s : Sign) (n : ℕ) (x : ℚ) : (s.apply 1 : ℚ) * (n * x) = s.apply n * x :=
  sign_apply_mul_eq s (by rw [Int.cast_one, one_mul, Int.cast_natCast])

lemma unpackedPlace_pack_round (s : Sign) {m : ℕ} (hm : 0 < m) (e : ℤ) :
    unpackedPlace (Float.Model.pack (UnpackedFloat.round Format.binary64 s m e)).unpack =
      some (roundLine (s.apply m * 2 ^ e)) := by
  have hround := round_eq_roundWithAccuracy s m e
  generalize hj : (e - Format.binary64.targetExponent (totalExponent m e)).toNat = j at hround
  have hte := totalExponent_mul_two_pow hm.ne' e j
  rw [hround, unpackedPlace_pack_roundWithAccuracy s (by rw [hte]; omega)
    (show Describes .exact 0 from rfl), add_zero, natCast_mul_two_pow_mul_zpow, apply_one_mul]

lemma unpackedPlace_pack_normalize (z e : ℤ) (zs : Sign) :
    unpackedPlace (Float.Model.pack (UnpackedFloat.normalize Format.binary64 z e zs)).unpack =
      some (roundLine (z * 2 ^ e)) := by
  rcases lt_trichotomy z 0 with hz | rfl | hz
  · -- a negative mantissa is rounded as its magnitude with the sign set
    have hcast : (((-z).toNat : ℕ) : ℤ) = -z := Int.toNat_of_nonneg (by omega)
    simp only [UnpackedFloat.normalize, compare_lt_iff_lt.mpr hz]
    rw [unpackedPlace_pack_round .negative (by omega) e, hcast]
    simp only [Sign.apply, neg_neg]
  · simp only [UnpackedFloat.normalize, compare_eq_iff_eq.mpr rfl, Int.cast_zero, zero_mul,
      roundLine_zero]
    rw [unpack_pack (.zero zs)]
    rfl
  · have hcast : ((z.toNat : ℕ) : ℤ) = z := Int.toNat_of_nonneg (by omega)
    simp only [UnpackedFloat.normalize, compare_gt_iff_gt.mpr hz]
    rw [unpackedPlace_pack_round .positive (by omega) e, hcast]
    rfl

/-- A sum lands where `roundLine` puts the exact sum. -/
theorem unpackedPlace_pack_add {u v : UnpackedFloat} {a b : ℚ} (hu : Represents u a)
    (hv : Represents v b) :
    unpackedPlace (Float.Model.pack (UnpackedFloat.add Format.binary64 u v)).unpack =
      some (roundLine (a + b)) := by
  have hra := hu.representable
  have hrb := hv.representable
  obtain ⟨cu, fu, rfl⟩ := hu
  obtain ⟨cv, fv, rfl⟩ := hv
  cases cu with
  | notANumber | infinity => simp [UnpackedFloat.isFinite] at fu
  | zero s₁ =>
    -- with a zero operand the sum is the other operand, which is computed exactly
    refine unpackedPlace_pack_of_represents (represents_add ⟨.zero s₁, fu, rfl⟩ ⟨cv, fv, rfl⟩ ?_)
    rwa [unpackedValue_zero, zero_add]
  | @finite s₁ m₁ e₁ hm₁ hlt₁ hlo₁ hhi₁ hn₁ =>
    cases cv with
    | notANumber | infinity => simp [UnpackedFloat.isFinite] at fv
    | zero s₂ =>
      refine unpackedPlace_pack_of_represents
        (represents_add ⟨.finite s₁ e₁ hm₁ hlt₁ hlo₁ hhi₁ hn₁, fu, rfl⟩ ⟨.zero s₂, fv, rfl⟩ ?_)
      rwa [unpackedValue_zero, add_zero]
    | @finite s₂ m₂ e₂ hm₂ hlt₂ hlo₂ hhi₂ hn₂ =>
      rw [unpackedValue_finite, unpackedValue_finite, ← value_add_decreaseExponent]
      exact unpackedPlace_pack_normalize _ _ _

/-- A difference lands where `roundLine` puts the exact difference. -/
theorem unpackedPlace_pack_sub {u v : UnpackedFloat} {a b : ℚ} (hu : Represents u a)
    (hv : Represents v b) :
    unpackedPlace (Float.Model.pack (UnpackedFloat.sub Format.binary64 u v)).unpack =
      some (roundLine (a - b)) := by
  have hra := hu.representable
  have hrb := hv.representable
  obtain ⟨cu, fu, rfl⟩ := hu
  obtain ⟨cv, fv, rfl⟩ := hv
  cases cu with
  | notANumber | infinity => simp [UnpackedFloat.isFinite] at fu
  | zero s₁ =>
    refine unpackedPlace_pack_of_represents (represents_sub ⟨.zero s₁, fu, rfl⟩ ⟨cv, fv, rfl⟩ ?_)
    rw [unpackedValue_zero, zero_sub]
    exact representable_neg hrb
  | @finite s₁ m₁ e₁ hm₁ hlt₁ hlo₁ hhi₁ hn₁ =>
    cases cv with
    | notANumber | infinity => simp [UnpackedFloat.isFinite] at fv
    | zero s₂ =>
      refine unpackedPlace_pack_of_represents
        (represents_sub ⟨.finite s₁ e₁ hm₁ hlt₁ hlo₁ hhi₁ hn₁, fu, rfl⟩ ⟨.zero s₂, fv, rfl⟩ ?_)
      rwa [unpackedValue_zero, sub_zero]
    | @finite s₂ m₂ e₂ hm₂ hlt₂ hlo₂ hhi₂ hn₂ =>
      rw [unpackedValue_finite, unpackedValue_finite, ← value_sub_decreaseExponent]
      exact unpackedPlace_pack_normalize _ _ _

/-- A product lands where `roundLine` puts the exact product. -/
theorem unpackedPlace_pack_mul {u v : UnpackedFloat} {a b : ℚ} (hu : Represents u a)
    (hv : Represents v b) :
    unpackedPlace (Float.Model.pack (UnpackedFloat.mul Format.binary64 u v)).unpack =
      some (roundLine (a * b)) := by
  obtain ⟨cu, fu, rfl⟩ := hu
  obtain ⟨cv, fv, rfl⟩ := hv
  cases cu with
  | notANumber | infinity => simp [UnpackedFloat.isFinite] at fu
  | zero s₁ =>
    refine unpackedPlace_pack_of_represents (represents_mul ⟨.zero s₁, fu, rfl⟩ ⟨cv, fv, rfl⟩ ?_)
    rw [unpackedValue_zero, zero_mul]
    exact representable_zero
  | @finite s₁ m₁ e₁ hm₁ hlt₁ hlo₁ hhi₁ hn₁ =>
    cases cv with
    | notANumber | infinity => simp [UnpackedFloat.isFinite] at fv
    | zero s₂ =>
      refine unpackedPlace_pack_of_represents
        (represents_mul ⟨.finite s₁ e₁ hm₁ hlt₁ hlo₁ hhi₁ hn₁, fu, rfl⟩ ⟨.zero s₂, fv, rfl⟩ ?_)
      rw [unpackedValue_zero, mul_zero]
      exact representable_zero
    | @finite s₂ m₂ e₂ hm₂ hlt₂ hlo₂ hhi₂ hn₂ =>
      -- the mantissas and the exponents multiply, and the product is rounded once
      show unpackedPlace (Float.Model.pack
        (roundWithAccuracy Format.binary64 (s₁ * s₂) (m₁ * m₂) (e₁ + e₂) .exact)).unpack = _
      rw [unpackedPlace_pack_roundWithAccuracy (s₁ * s₂) (le_targetExponent_mul hm₁ hm₂ hn₁ hn₂)
        (show Describes .exact 0 from rfl), add_zero, apply_one_mul, ← value_mul_finite s₁ s₂ e₁ e₂ hm₁ hm₂]

section Division

variable {m₁ m₂ : ℕ} {e₁ e₂ : ℤ}

/-- The accuracy the division core gives a remainder `r` of a divisor `d` stands for `r / d`. -/
lemma describes_accuracyOfFraction {r d : ℕ} (h : r < d) :
    Describes (accuracyOfFraction r d) ((r : ℚ) / d) := by
  have hd : (0 : ℚ) < d := by exact_mod_cast (Nat.zero_le r).trans_lt h
  have hlt : (r : ℚ) / d < 1 := (div_lt_one hd).mpr (by exact_mod_cast h)
  unfold accuracyOfFraction
  split_ifs with hr
  · simp [Describes, hr]
  have hpos : 0 < (r : ℚ) / d := div_pos (by exact_mod_cast Nat.pos_of_ne_zero hr) hd
  rcases lt_trichotomy (2 * r) d with h2 | h2 | h2
  · rw [compare_lt_iff_lt.mpr h2]
    have : (2 : ℚ) * r < d := by exact_mod_cast h2
    exact ⟨hpos, by rw [div_lt_iff₀ hd]; linarith⟩
  · rw [compare_eq_iff_eq.mpr h2]
    have : (2 : ℚ) * r = d := by exact_mod_cast h2
    show (r : ℚ) / d = 1 / 2
    rw [div_eq_div_iff hd.ne' two_ne_zero]
    linarith
  · rw [compare_gt_iff_gt.mpr h2]
    have : (d : ℚ) < 2 * r := by exact_mod_cast h2
    exact ⟨by rw [lt_div_iff₀ hd]; linarith, hlt⟩

/-- The division core's mantissa, plus the fraction its accuracy stands for, at its exponent, is
the exact quotient of the magnitudes. -/
lemma divCore_describes (hm₂ : 0 < m₂) :
    ∃ φ, Describes (divCore Format.binary64 m₁ e₁ m₂ e₂).2.2 φ ∧
      (((divCore Format.binary64 m₁ e₁ m₂ e₂).1 : ℚ) + φ) *
        2 ^ (divCore Format.binary64 m₁ e₁ m₂ e₂).2.1 = m₁ * 2 ^ e₁ / (m₂ * 2 ^ e₂) := by
  simp only [divCore, Nat.shiftLeft_eq]
  generalize hT : min (e₁ - e₂) (Format.binary64.targetExponent
    (totalExponent m₁ e₁ - totalExponent m₂ e₂)) = T
  have hTe : T ≤ e₁ - e₂ := by rw [← hT]; exact min_le_left _ _
  generalize hk : (e₁ - e₂ - T).toNat = k
  have hk' : ((k : ℤ) : ℤ) = e₁ - e₂ - T := by omega
  refine ⟨_, describes_accuracyOfFraction (Nat.mod_lt _ hm₂), ?_⟩
  -- quotient plus remainder over the divisor is the shifted dividend over the divisor
  have hdm : ((m₁ * 2 ^ k / m₂ : ℕ) : ℚ) + ((m₁ * 2 ^ k % m₂ : ℕ) : ℚ) / m₂ =
      (m₁ * 2 ^ k : ℕ) / m₂ := by
    have hsplit : ((m₂ * (m₁ * 2 ^ k / m₂) + m₁ * 2 ^ k % m₂ : ℕ) : ℚ) = (m₁ * 2 ^ k : ℕ) := by
      rw [Nat.div_add_mod]
    have hm₂' : (m₂ : ℚ) ≠ 0 := by exact_mod_cast hm₂.ne'
    rw [← hsplit]
    push_cast
    field_simp
  have hshift : (2 : ℚ) ^ k * 2 ^ T = 2 ^ e₁ / 2 ^ e₂ := by
    rw [← zpow_natCast, ← zpow_add₀ two_ne_zero, ← zpow_sub₀ two_ne_zero, hk']
    ring_nf
  rw [hdm, Nat.cast_mul, Nat.cast_pow, Nat.cast_ofNat, div_mul_eq_mul_div, mul_assoc, hshift]
  field_simp

/-- The exponent the division core works at is at most the target exponent of the quotient it
finds: above the least exponent, the shift leaves the quotient at least `2^52`. -/
lemma divCore_le_targetExponent (hm₁ : 0 < m₁) (hm₂ : 0 < m₂) :
    (divCore Format.binary64 m₁ e₁ m₂ e₂).2.1 ≤ Format.binary64.targetExponent
      (totalExponent (divCore Format.binary64 m₁ e₁ m₂ e₂).1 (divCore Format.binary64 m₁ e₁ m₂ e₂).2.1) := by
  simp only [divCore, Nat.shiftLeft_eq, targetExponent_binary64, totalExponent]
  generalize hT : min (e₁ - e₂) (max (↑m₁.log2 + 1 + e₁ - (↑m₂.log2 + 1 + e₂) - 53) (-1074)) = T
  by_cases hlo : T ≤ -1074
  · omega
  generalize hk : (e₁ - e₂ - T).toNat = k
  have hkle : m₂.log2 + 53 ≤ m₁.log2 + k := by omega
  have hq : 2 ^ 52 ≤ m₁ * 2 ^ k / m₂ := by
    rw [Nat.le_div_iff_mul_le hm₂]
    calc 2 ^ 52 * m₂ ≤ 2 ^ 52 * 2 ^ (m₂.log2 + 1) := Nat.mul_le_mul_left _ Nat.lt_log2_self.le
      _ = 2 ^ (m₂.log2 + 53) := by rw [← Nat.pow_add]; congr 1; omega
      _ ≤ 2 ^ (m₁.log2 + k) := Nat.pow_le_pow_right two_pos hkle
      _ = 2 ^ m₁.log2 * 2 ^ k := Nat.pow_add _ _ _
      _ ≤ m₁ * 2 ^ k := Nat.mul_le_mul_right _ (Nat.log2_self_le hm₁.ne')
  have hlog := (Nat.le_log2 (by omega : m₁ * 2 ^ k / m₂ ≠ 0)).mpr hq
  omega

end Division

/-- A quotient by a nonzero value lands where `roundLine` puts the exact quotient. -/
theorem unpackedPlace_pack_div {u v : UnpackedFloat} {a b : ℚ} (hu : Represents u a)
    (hv : Represents v b) (hb : b ≠ 0) :
    unpackedPlace (Float.Model.pack (UnpackedFloat.div Format.binary64 u v)).unpack =
      some (roundLine (a / b)) := by
  obtain ⟨cu, fu, rfl⟩ := hu
  obtain ⟨cv, fv, rfl⟩ := hv
  cases cv with
  | notANumber | infinity => simp [UnpackedFloat.isFinite] at fv
  | zero s₂ => exact absurd (unpackedValue_zero s₂) hb
  | @finite s₂ m₂ e₂ hm₂ hlt₂ hlo₂ hhi₂ hn₂ =>
    cases cu with
    | notANumber | infinity => simp [UnpackedFloat.isFinite] at fu
    | zero s₁ =>
      refine unpackedPlace_pack_of_represents
        (represents_div ⟨.zero s₁, fu, rfl⟩ ⟨.finite s₂ e₂ hm₂ hlt₂ hlo₂ hhi₂ hn₂, fv, rfl⟩ hb ?_)
      rw [unpackedValue_zero, zero_div]
      exact representable_zero
    | @finite s₁ m₁ e₁ hm₁ hlt₁ hlo₁ hhi₁ hn₁ =>
      obtain ⟨φ, hφ, hval⟩ := @divCore_describes m₁ m₂ e₁ e₂ hm₂
      show unpackedPlace (Float.Model.pack (roundWithAccuracy Format.binary64 (s₁ / s₂)
        (divCore Format.binary64 m₁ e₁ m₂ e₂).1 (divCore Format.binary64 m₁ e₁ m₂ e₂).2.1
        (divCore Format.binary64 m₁ e₁ m₂ e₂).2.2)).unpack = _
      have hdiv : ((s₁ / s₂).apply 1 : ℚ) * ((m₁ : ℚ) * 2 ^ e₁ / (m₂ * 2 ^ e₂)) =
          s₁.apply m₁ * 2 ^ e₁ / (s₂.apply m₂ * 2 ^ e₂) :=
        apply_div_eq s₁ s₂ (by push_cast; ring)
      rw [unpackedPlace_pack_roundWithAccuracy (s₁ / s₂) (divCore_le_targetExponent hm₁ hm₂) hφ,
        hval, hdiv, unpackedValue_finite, unpackedValue_finite]

lemma unpackedPlace_pack_infinity (s : Sign) :
    unpackedPlace (Float.Model.pack (.infinity s)).unpack = some (lineEnd s) := by
  rw [unpack_pack (.infinity s)]
  rfl

lemma isNaN_pack_notANumber : (Float.Model.pack .notANumber).unpack.isNaN = true := by
  rw [unpack_pack .notANumber]
  rfl

/-! ## Floats on the line -/

section Floats

variable {x y : Float} {a b : ℚ}

theorem place_add (hx : HasValue x a) (hy : HasValue y b) :
    place (x + y) = some (roundLine (a + b)) :=
  unpackedPlace_pack_add hx hy

theorem place_sub (hx : HasValue x a) (hy : HasValue y b) :
    place (x - y) = some (roundLine (a - b)) :=
  unpackedPlace_pack_sub hx hy

theorem place_mul (hx : HasValue x a) (hy : HasValue y b) :
    place (x * y) = some (roundLine (a * b)) :=
  unpackedPlace_pack_mul hx hy

theorem place_div (hx : HasValue x a) (hy : HasValue y b) (hb : b ≠ 0) :
    place (x / y) = some (roundLine (a / b)) :=
  unpackedPlace_pack_div hx hy hb

/-- A float that lies on the line is finite and stands for a number there, or an infinity at the
end of its sign. -/
lemma place_cases {p : WithBot (WithTop ℚ)} (h : place x = some p) :
    (∃ q, p = onLine q ∧ HasValue x q) ∨ ∃ s, p = lineEnd s ∧ x.toModel.unpack = .infinity s := by
  by_cases hfin : x.toModel.unpack.isFinite = true
  · have hx : HasValue x (value x) := ⟨canonical_unpack _, hfin, rfl⟩
    rw [hasValue_iff_place.mp hx, Option.some.injEq] at h
    exact .inl ⟨_, h.symm, hx⟩
  · unfold place at h
    cases hu : x.toModel.unpack with
    | infinity s =>
      rw [hu, unpackedPlace, Option.some.injEq] at h
      exact .inr ⟨s, h.symm, rfl⟩
    | _ => simp [hu, unpackedPlace, UnpackedFloat.isFinite] at h hfin

/-- A finite float decodes to a zero or to a finite mantissa and exponent. -/
lemma unpack_cases (hx : HasValue x a) :
    (∃ s, x.toModel.unpack = .zero s) ∨ ∃ s m e hm, x.toModel.unpack = .finite s m e hm := by
  have hfin : x.toModel.unpack.isFinite = true := hx.isFinite
  cases hu : x.toModel.unpack with
  | zero s => exact .inl ⟨s, rfl⟩
  | finite s m e hm => exact .inr ⟨s, m, e, hm, rfl⟩
  | _ => simp [hu, UnpackedFloat.isFinite] at hfin

/-- Neither side of a `≤` is NaN. -/
lemma exists_place_of_le (h : x ≤ y) : (∃ p, place x = some p) ∧ ∃ q, place y = some q := by
  rw [le_iff_compare] at h
  unfold place
  generalize x.toModel.unpack = u at h ⊢
  generalize y.toModel.unpack = v at h ⊢
  cases u <;> cases v <;> simp_all [UnpackedFloat.compare, unpackedPlace]

/-- Neither side of a `<` is NaN. -/
lemma exists_place_of_lt (h : x < y) : (∃ p, place x = some p) ∧ ∃ q, place y = some q := by
  rw [lt_iff_compare] at h
  unfold place
  generalize x.toModel.unpack = u at h ⊢
  generalize y.toModel.unpack = v at h ⊢
  cases u <;> cases v <;> simp_all [UnpackedFloat.compare, unpackedPlace]

lemma not_le_of_lt (h : x < y) : ¬ y ≤ x := by
  obtain ⟨⟨p, hp⟩, ⟨q, hq⟩⟩ := exists_place_of_lt h
  rw [le_iff_place hq hp, not_le]
  exact (lt_iff_place hp hq).mp h

lemma isFinite_of_isFinite_pack {u : UnpackedFloat}
    (h : (Float.Model.pack u).unpack.isFinite = true) : u.isFinite = true := by
  cases u with
  | notANumber => rwa [unpack_pack .notANumber] at h
  | infinity s => rwa [unpack_pack (.infinity s)] at h
  | zero => rfl
  | finite => rfl

/-- A finite difference has finite operands: NaN and the infinities carry through a
subtraction. -/
lemma isFinite_of_sub (h : (y - x).isFinite = true) : x.isFinite = true ∧ y.isFinite = true := by
  have hsub := isFinite_of_isFinite_pack (u := UnpackedFloat.sub Format.binary64
    y.toModel.unpack x.toModel.unpack) h
  show x.toModel.unpack.isFinite = true ∧ y.toModel.unpack.isFinite = true
  generalize x.toModel.unpack = u at hsub ⊢
  generalize y.toModel.unpack = v at hsub ⊢
  cases u <;> cases v <;> simp only [UnpackedFloat.sub] at hsub <;> (try split_ifs at hsub) <;>
    simp_all [UnpackedFloat.isFinite]

/-- An infinity absorbs a finite float added to it, on either side. -/
lemma place_add_infinity {s : Sign} (hx : HasValue x a) (hy : y.toModel.unpack = .infinity s) :
    place (x + y) = some (lineEnd s) ∧ place (y + x) = some (lineEnd s) := by
  show unpackedPlace (Float.Model.pack
      (UnpackedFloat.add Format.binary64 x.toModel.unpack y.toModel.unpack)).unpack = _ ∧
    unpackedPlace (Float.Model.pack
      (UnpackedFloat.add Format.binary64 y.toModel.unpack x.toModel.unpack)).unpack = _
  rw [hy]
  rcases unpack_cases hx with ⟨s', hu⟩ | ⟨s', m, e, hm, hu⟩ <;> rw [hu] <;>
    exact ⟨unpackedPlace_pack_infinity s, unpackedPlace_pack_infinity s⟩

/-- A finite float over an infinity is a zero. -/
lemma hasValue_div_infinity {s : Sign} (hx : HasValue x a) (hy : y.toModel.unpack = .infinity s) :
    HasValue (x / y) 0 := by
  show Represents (Float.Model.pack
    (UnpackedFloat.div Format.binary64 x.toModel.unpack y.toModel.unpack)).unpack 0
  rw [hy]
  rcases unpack_cases hx with ⟨s', hu⟩ | ⟨s', m, e, hm, hu⟩ <;> rw [hu] <;>
    exact (unpack_pack (.zero (s' / s))).symm ▸ represents_zero (s' / s)

/-- The difference of two ordered floats lies at a point not below zero, or is NaN when both are
one infinity: two finite floats give their rounded difference, and an infinity on one side gives
`+∞`. -/
theorem sub_place_of_le (h : x ≤ y) :
    (∃ s, x.toModel.unpack = .infinity s ∧ y.toModel.unpack = .infinity s ∧ (y - x).isNaN = true) ∨
      ∃ p, place (y - x) = some p ∧ onLine 0 ≤ p := by
  obtain ⟨⟨p, hp⟩, ⟨q, hq⟩⟩ := exists_place_of_le h
  have hpq : p ≤ q := (le_iff_place hp hq).mp h
  have hsub : place (y - x) = unpackedPlace (Float.Model.pack
      (UnpackedFloat.sub Format.binary64 y.toModel.unpack x.toModel.unpack)).unpack := rfl
  have hnan : (y - x).isNaN = (Float.Model.pack
      (UnpackedFloat.sub Format.binary64 y.toModel.unpack x.toModel.unpack)).unpack.isNaN := rfl
  rcases place_cases hp with ⟨a, rfl, hx⟩ | ⟨s, rfl, hx⟩ <;>
    rcases place_cases hq with ⟨b, rfl, hy⟩ | ⟨t, rfl, hy⟩
  · -- two finite floats: the rounded difference of ordered values
    refine .inr ⟨_, place_sub hy hx, ?_⟩
    rw [← roundLine_zero]
    exact roundLine_mono (sub_nonneg.mpr (onLine_le_onLine.mp hpq))
  · -- `x` finite below `y = +∞`
    cases t
    · exact absurd hpq (not_le.mpr (bot_lt_onLine a))
    refine .inr ⟨⊤, ?_, le_top⟩
    rw [hsub, hy]
    rcases unpack_cases hx with ⟨s', hu⟩ | ⟨s', m, e, hm, hu⟩ <;> rw [hu] <;>
      exact unpackedPlace_pack_infinity .positive
  · -- `x = -∞` below a finite `y`
    cases s
    · refine .inr ⟨⊤, ?_, le_top⟩
      rw [hsub, hx]
      rcases unpack_cases hy with ⟨s', hu⟩ | ⟨s', m, e, hm, hu⟩ <;> rw [hu] <;>
        exact unpackedPlace_pack_infinity .positive
    · exact absurd hpq (not_le.mpr (onLine_lt_top b))
  · -- two infinities: `+∞ - -∞` is `+∞`, one infinity minus itself is NaN
    cases s <;> cases t
    · exact .inl ⟨.negative, hx, hy, by rw [hnan, hx, hy]; exact isNaN_pack_notANumber⟩
    · refine .inr ⟨⊤, ?_, le_top⟩
      rw [hsub, hx, hy]
      exact unpackedPlace_pack_infinity .positive
    · exact absurd hpq (not_le.mpr bot_lt_top)
    · exact .inl ⟨.positive, hx, hy, by rw [hnan, hx, hy]; exact isNaN_pack_notANumber⟩

/-- A finite float minus a float at or below it lies at a point not below zero. -/
lemma sub_place_of_le_of_hasValue (h : x ≤ y) (hy : HasValue y b) :
    ∃ p, place (y - x) = some p ∧ onLine 0 ≤ p := by
  rcases sub_place_of_le h with ⟨s, -, hy', -⟩ | hp
  · have hfin : y.toModel.unpack.isFinite = true := hy.isFinite
    rw [hy'] at hfin
    exact absurd hfin (by simp [UnpackedFloat.isFinite])
  · exact hp

/-- An operation whose exact result is within a binary64 bound gives a finite float at the
rounded result. -/
lemma hasValue_of_abs_le {z : Float} {q r : ℚ} (h : place z = some (roundLine q))
    (hr : Representable r) (hq : |q| ≤ r) : HasValue z (roundNearest q) := by
  rw [roundLine_of_abs_le hr hq] at h
  exact hasValue_iff_place.mpr h

/-- Two values not below zero whose sum is at most a binary64 value add to a finite float. -/
lemma hasValue_add_of_nonneg {x y : Float} {a b r : ℚ} (hx : HasValue x a) (hy : HasValue y b)
    (hr : Representable r) (ha : 0 ≤ a) (hb : 0 ≤ b) (h : a + b ≤ r) :
    HasValue (x + y) (roundNearest (a + b)) :=
  hasValue_of_abs_le (place_add hx hy) hr (by rw [abs_of_nonneg (add_nonneg ha hb)]; exact h)

/-- Two values `b ≤ a` whose difference is at most a binary64 value subtract to a finite float. -/
lemma hasValue_sub_of_le {x y : Float} {a b r : ℚ} (hx : HasValue x a) (hy : HasValue y b)
    (hr : Representable r) (hba : b ≤ a) (h : a - b ≤ r) :
    HasValue (x - y) (roundNearest (a - b)) :=
  hasValue_of_abs_le (place_sub hx hy) hr (by rw [abs_of_nonneg (sub_nonneg.mpr hba)]; exact h)

/-- A point between two points of the rationals is one. -/
lemma exists_onLine_of_le {p : WithBot (WithTop ℚ)} {a b : ℚ} (h₁ : onLine a ≤ p)
    (h₂ : p ≤ onLine b) : ∃ q, p = onLine q ∧ a ≤ q ∧ q ≤ b := by
  induction p using WithBot.recBotCoe with
  | bot => exact absurd h₁ (not_le.mpr (bot_lt_onLine a))
  | coe p =>
    induction p using WithTop.recTopCoe with
    | top => exact absurd h₂ (not_le.mpr (onLine_lt_top b))
    | coe q => exact ⟨q, rfl, onLine_le_onLine.mp h₁, onLine_le_onLine.mp h₂⟩

/-- `minNum` of two floats that are not NaN lies at the lower of their points. -/
theorem place_minNum {p q : WithBot (WithTop ℚ)} (hx : place x = some p) (hy : place y = some q) :
    place (minNum x y) = some (min p q) := by
  unfold minNum
  rw [if_neg (by rw [isNaN_eq_false hx]; decide), if_neg (by rw [isNaN_eq_false hy]; decide)]
  split_ifs with hlt
  · rw [hy, min_eq_right ((lt_iff_place hy hx).mp hlt).le]
  · rw [hx, min_eq_left (not_lt.mp (mt (lt_iff_place hy hx).mpr hlt))]

/-- `clamp` of a float that is not NaN between two bounds that are not NaN lies at the point
pinned between the bounds' points, whether or not they are in order. -/
theorem place_clamp {z : Float} {p l u : WithBot (WithTop ℚ)} (hx : place x = some p)
    (hlo : place y = some l) (hhi : place z = some u) :
    place (clamp x y z) = some (min (max l p) u) := by
  have hy : place (if x < y then y else x) = some (max l p) := by
    split_ifs with hlt
    · rw [hlo, max_eq_left ((lt_iff_place hx hlo).mp hlt).le]
    · rw [hx, max_eq_right (not_lt.mp (mt (lt_iff_place hx hlo).mpr hlt))]
  show place (if (if x < y then y else x) > z then z else if x < y then y else x) = _
  generalize (if x < y then y else x) = w at hy ⊢
  split_ifs with hgt
  · rw [hhi, min_eq_right ((lt_iff_place hhi hy).mp hgt).le]
  · rw [hy, min_eq_left (not_lt.mp (mt (lt_iff_place hhi hy).mpr hgt))]

/-- `minNum` never lies above a second operand that is not NaN. -/
lemma minNum_le_right {q : WithBot (WithTop ℚ)} (hy : place y = some q) : minNum x y ≤ y := by
  by_cases hx : x.isNaN = true
  · rw [minNum_of_isNaN_left y hx, le_iff_place hy hy]
  · obtain ⟨p, hp⟩ := Option.ne_none_iff_exists'.mp (mt place_eq_none_iff.mp hx)
    rw [le_iff_place (place_minNum hp hy) hy]
    exact min_le_right p q

lemma hasValue_one_bits : HasValue (Float.ofBits 0x3FF0000000000000) 1 :=
  hasValue_of_value_eq (by decide +kernel) (by decide +kernel)

/-- Below `2^53`, `Float.ofNat` converts through `UInt64` and multiplies by one. -/
lemma ofNat_of_lt {n : ℕ} (hn : n < 2 ^ 53) :
    Float.ofNat n = n.toUInt64.toFloat * Float.ofBits 0x3FF0000000000000 := by
  show Float.ofScientific n false 0 = _
  rw [Float.ofScientific, dif_pos ⟨hn, by norm_num⟩]
  rfl

/-- From `2^53` on, `Float.ofNat` rounds `n · 10^0` in the model. -/
lemma ofNat_of_not_lt {n : ℕ} (hn : ¬ n < 2 ^ 53) :
    Float.ofNat n = Float.ofModel (Float.Model.ofScientific n 0) := by
  show Float.ofScientific n false 0 = _
  rw [Float.ofScientific, dif_neg (fun h => hn h.1)]
  rfl

/-- Converting a natural number rounds it to nearest, and past the greatest binary64 value gives
`+∞`: below `2^53` the conversion is exact and multiplied by one, and from there the number is
rounded once. -/
theorem place_ofNat (n : ℕ) : place (Float.ofNat n) = some (roundLine n) := by
  by_cases hn : n < 2 ^ 53
  · have hrep := representable_of_lt hn
    have ht : n.toUInt64.toNat = n := by simp; omega
    have hx : HasValue n.toUInt64.toFloat n := by
      have h := hasValue_uint64_toFloat (n := n.toUInt64) (by rw [ht]; exact hrep)
      rwa [ht] at h
    have hprod := HasValue.mul hx hasValue_one_bits (by rwa [mul_one])
    rw [mul_one] at hprod
    rw [ofNat_of_lt hn, hasValue_iff_place.mp hprod, roundLine_of_representable hrep]
  · -- the slow path: `n · 2^53` at exponent `-53`, times `10^0`, rounded once
    have hn0 : n ≠ 0 := by omega
    rw [ofNat_of_not_lt hn]
    show unpackedPlace (Float.Model.pack (UnpackedFloat.ofScientific Format.binary64 n 0)).unpack = _
    rw [UnpackedFloat.ofScientific, dif_neg hn0, if_neg (by decide), if_neg (by simp),
      if_pos le_rfl]
    have hm : n <<< 53 * 10 ^ (0 : ℤ).toNat = n * 2 ^ 53 := by simp [Nat.shiftLeft_eq]
    show unpackedPlace (Float.Model.pack (roundWithAccuracy Format.binary64
      (.positive * .positive) (n <<< 53 * 10 ^ (0 : ℤ).toNat) (-53 + 0) .exact)).unpack = _
    rw [hm]
    have hc : -53 + 0 ≤ Format.binary64.targetExponent (totalExponent (n * 2 ^ 53) (-53 + 0)) := by
      rw [targetExponent_eq, log2_mul_two_pow hn0]
      omega
    have hv : ((Sign.positive * Sign.positive).apply 1 : ℚ) *
        (((n * 2 ^ 53 : ℕ) : ℚ) * 2 ^ (-53 + 0 : ℤ)) = n := by
      rw [show (-53 + 0 : ℤ) = 0 - (53 : ℕ) by norm_num, natCast_mul_two_pow_mul_zpow, zpow_zero,
        mul_one]
      show ((Sign.positive.apply 1 : ℤ) : ℚ) * n = n
      simp [Sign.apply]
    rw [unpackedPlace_pack_roundWithAccuracy _ hc (show Describes .exact 0 from rfl), add_zero, hv]

/-- A natural below `2^64` converts to a finite float, at its rounding. -/
lemma hasValue_ofNat_of_lt {N : ℕ} (hN : N < 2 ^ 64) : HasValue (Float.ofNat N) (roundNearest N) :=
  hasValue_of_abs_le (place_ofNat N) (representable_two_pow (k := 64) (by norm_num))
    (by rw [abs_of_nonneg (Nat.cast_nonneg N)]; exact_mod_cast hN.le)

lemma roundNearest_natCast_le {N : ℕ} (hN : N < 2 ^ 64) : roundNearest (N : ℚ) ≤ 2 ^ 64 :=
  roundNearest_le_of_le (representable_two_pow (by norm_num)) (by exact_mod_cast hN.le)

/-- A natural below `2^64` converts to a finite float at a value in `[0, 2^64]`. -/
lemma exists_hasValue_ofNat {N : ℕ} (hN : N < 2 ^ 64) :
    ∃ F, HasValue (Float.ofNat N) F ∧ 0 ≤ F ∧ F ≤ 2 ^ 64 :=
  ⟨_, hasValue_ofNat_of_lt hN, roundNearest_nonneg (Nat.cast_nonneg N), roundNearest_natCast_le hN⟩

end Floats

end WaveScope.Numeric
