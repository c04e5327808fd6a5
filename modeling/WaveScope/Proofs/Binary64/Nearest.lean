import Mathlib
import WaveScope.Proofs.Binary64.Exact

/-!
# Rounding to nearest

Binary64 arithmetic rounds the exact result of an operation to the nearest number with 53
significant bits, a tie going to the one whose last bit is zero.  This file states that rule on
the rationals and proves that the decoded rounding pipeline, `roundWithAccuracy`, follows it.

* `roundHalfEven m f` is the whole number nearest to `m + f`; `roundAt t x` rounds `x ≥ 0` to a
  multiple of `2^t`; `roundMag x` rounds it at `ulpExponent x`, the exponent of its 53rd bit
  (never below `-1074`, where the subnormal numbers end); `roundNearest` keeps the sign and rounds
  the magnitude.  None of them has a greatest exponent: overflow is the encoder's business.
* `roundNearest_mono` and `roundNearest_of_representable`: rounding is monotone and gives a
  binary64 value back unchanged.
* `OnGrid g x`: `x` is a multiple of `2^g`.  The binary64 values at or above the rounding of `D`
  are multiples of the unit in the last place of `D` (`onGrid_of_roundNearest_le`), which makes
  some differences exact (`roundNearest_sub_eq_of_le`) and bounds a rounded start plus a span by
  the end it was taken from (`roundNearest_add_le`).
* `Describes` reads an `Accuracy` as the fraction of a unit that a truncation dropped, and
  `describes_shiftRight` follows it through the bit shifts of rounding.
* `unpackedValue_roundWithAccuracy_of_describes`: rounding a mantissa that starts at or below its
  target exponent, with an accuracy that describes what was already dropped, gives the rounded
  magnitude of the exact value.
-/

namespace WaveScope.Numeric

open Float.Model Float.Model.UnpackedFloat

/-! ## Ties to even -/

/-- The whole number nearest to `m + f`, for a whole number `m` and a fraction `0 ≤ f < 1`; a tie
goes to the even one. -/
def roundHalfEven (m : ℕ) (f : ℚ) : ℕ :=
  if f < 1 / 2 then m else if 1 / 2 < f then m + 1 else m + m % 2

lemma roundHalfEven_of_lt (m : ℕ) {f : ℚ} (h : f < 1 / 2) : roundHalfEven m f = m := if_pos h

lemma le_roundHalfEven (m : ℕ) (f : ℚ) : m ≤ roundHalfEven m f := by
  unfold roundHalfEven
  split_ifs <;> omega

lemma roundHalfEven_le (m : ℕ) (f : ℚ) : roundHalfEven m f ≤ m + 1 := by
  unfold roundHalfEven
  split_ifs <;> omega

/-- A larger `m + f` never rounds to a smaller whole number. -/
lemma roundHalfEven_mono {m n : ℕ} {f g : ℚ} (hf₀ : 0 ≤ f) (hg₁ : g < 1)
    (h : (m : ℚ) + f ≤ n + g) : roundHalfEven m f ≤ roundHalfEven n g := by
  have hmn : m ≤ n := by
    have : (m : ℚ) < n + 1 := by linarith
    exact Nat.lt_succ_iff.mp (by exact_mod_cast this)
  rcases hmn.lt_or_eq with hlt | rfl
  · calc roundHalfEven m f ≤ m + 1 := roundHalfEven_le m f
      _ ≤ n := hlt
      _ ≤ roundHalfEven n g := le_roundHalfEven n g
  · have hfg : f ≤ g := by linarith
    unfold roundHalfEven
    by_cases hf : f < 1 / 2
    · rw [if_pos hf]
      split_ifs <;> omega
    · have hg : ¬ g < 1 / 2 := fun hg => hf (lt_of_le_of_lt hfg hg)
      rw [if_neg hf, if_neg hg]
      by_cases hf' : 1 / 2 < f
      · rw [if_pos hf', if_pos (lt_of_lt_of_le hf' hfg)]
      · rw [if_neg hf']
        split_ifs <;> omega

/-! ## Rounding to a multiple of a power of two -/

/-- `x ≥ 0` rounded to the nearest multiple of `2^t`, a tie going to the even multiple. -/
def roundAt (t : ℤ) (x : ℚ) : ℚ :=
  roundHalfEven ⌊x / 2 ^ t⌋₊ (x / 2 ^ t - ⌊x / 2 ^ t⌋₊) * 2 ^ t

/-- Rounding `(q + f) · 2^t`, for a whole `q` and a fraction `f`, rounds `q + f`. -/
lemma roundAt_eq (t : ℤ) (q : ℕ) {f : ℚ} (hf₀ : 0 ≤ f) (hf₁ : f < 1) :
    roundAt t ((q + f) * 2 ^ t) = roundHalfEven q f * 2 ^ t := by
  have hfloor : ⌊(q : ℚ) + f⌋₊ = q := by
    rw [Nat.floor_eq_iff (by positivity)]
    constructor <;> linarith
  rw [roundAt, mul_div_cancel_right₀ _ (zpow_ne_zero t two_ne_zero), hfloor, add_sub_cancel_left]

/-- Every `x ≥ 0` is a whole number of units `2^t` and a fraction of one. -/
lemma exists_eq_add_mul (t : ℤ) {x : ℚ} (hx : 0 ≤ x) :
    ∃ q : ℕ, ∃ f : ℚ, 0 ≤ f ∧ f < 1 ∧ x = (q + f) * 2 ^ t := by
  have hp : (0 : ℚ) < 2 ^ t := zpow_pos two_pos t
  have hy : 0 ≤ x / 2 ^ t := div_nonneg hx hp.le
  refine ⟨⌊x / 2 ^ t⌋₊, x / 2 ^ t - ⌊x / 2 ^ t⌋₊, sub_nonneg.mpr (Nat.floor_le hy),
    by linarith [Nat.lt_floor_add_one (x / 2 ^ t)], ?_⟩
  rw [add_sub_cancel, div_mul_cancel₀ _ hp.ne']

lemma roundAt_natCast_mul (t : ℤ) (q : ℕ) : roundAt t (q * 2 ^ t) = q * 2 ^ t := by
  have h := roundAt_eq t q (f := 0) le_rfl one_pos
  rwa [add_zero, roundHalfEven_of_lt q (by norm_num)] at h

@[simp] lemma roundAt_zero (t : ℤ) : roundAt t 0 = 0 := by
  simpa using roundAt_natCast_mul t 0

lemma roundAt_mono (t : ℤ) {x y : ℚ} (hx : 0 ≤ x) (h : x ≤ y) : roundAt t x ≤ roundAt t y := by
  have hp : (0 : ℚ) < 2 ^ t := zpow_pos two_pos t
  obtain ⟨q, f, hf₀, hf₁, rfl⟩ := exists_eq_add_mul t hx
  obtain ⟨r, g, hg₀, hg₁, rfl⟩ := exists_eq_add_mul t (hx.trans h)
  rw [roundAt_eq t q hf₀ hf₁, roundAt_eq t r hg₀ hg₁]
  have hle : (q : ℚ) + f ≤ r + g := le_of_mul_le_mul_right h hp
  exact mul_le_mul_of_nonneg_right (by exact_mod_cast roundHalfEven_mono hf₀ hg₁ hle) hp.le

lemma roundAt_nonneg (t : ℤ) {x : ℚ} (hx : 0 ≤ x) : 0 ≤ roundAt t x := by
  simpa using roundAt_mono t le_rfl hx

/-! ## The exponent of the last bit -/

/-- The exponent of the last of the 53 bits that binary64 keeps of `x > 0`, never below `-1074`,
where the subnormal numbers end. -/
def ulpExponent (x : ℚ) : ℤ := max (Int.log 2 x - 52) (-1074)

/-- The logarithm of a number in the binade `[2^k, 2^(k+1))` is `k`. -/
lemma log_two_eq {x : ℚ} {k : ℤ} (h₁ : (2 : ℚ) ^ k ≤ x) (h₂ : x < 2 ^ (k + 1)) :
    Int.log 2 x = k := by
  have hx : 0 < x := (zpow_pos two_pos k).trans_le h₁
  have hle : k ≤ Int.log 2 x := (Int.zpow_le_iff_le_log (by norm_num) hx).mp (by exact_mod_cast h₁)
  have hlt : Int.log 2 x < k + 1 :=
    (Int.lt_zpow_iff_log_lt (by norm_num) hx).mp (by exact_mod_cast h₂)
  omega

lemma ulpExponent_le {x : ℚ} {t : ℤ} (hx : 0 < x) (ht : -1074 ≤ t) (h : x < 2 ^ (t + 53)) :
    ulpExponent x ≤ t := by
  have := (Int.lt_zpow_iff_log_lt (b := 2) (by norm_num) hx).mp (by exact_mod_cast h)
  unfold ulpExponent
  omega

lemma ulpExponent_mono {x y : ℚ} (hx : 0 < x) (h : x ≤ y) : ulpExponent x ≤ ulpExponent y := by
  have := Int.log_mono_right (b := 2) hx h
  unfold ulpExponent
  omega

/-- Everything lies below `2^53` units of its last bit. -/
lemma lt_two_pow_ulpExponent (x : ℚ) : x < 2 ^ (ulpExponent x + 53) := by
  calc x < 2 ^ (Int.log 2 x + 1) := by exact_mod_cast Int.lt_zpow_succ_log_self (b := 2) (by norm_num) x
    _ ≤ 2 ^ (ulpExponent x + 53) := zpow_le_zpow_right₀ (by norm_num) (by unfold ulpExponent; omega)

/-- Above the subnormal numbers, `x` has 53 bits: it is at least `2^52` units of its last bit. -/
lemma two_pow_ulpExponent_le {x : ℚ} (hx : 0 < x) (h : -1074 < ulpExponent x) :
    2 ^ (ulpExponent x + 52) ≤ x := by
  have hlog : ulpExponent x + 52 = Int.log 2 x := by
    unfold ulpExponent at h ⊢
    omega
  rw [hlog]
  exact_mod_cast Int.zpow_log_le_self (b := 2) (by norm_num) hx

/-- `2^k` units of `2^t` are `2^(t + k)`. -/
lemma two_pow_mul_zpow (k : ℕ) (t : ℤ) : (2 : ℚ) ^ k * 2 ^ t = 2 ^ (t + k) := by
  rw [zpow_add₀ two_ne_zero, zpow_natCast, mul_comm]

/-- A whole number of units `2^j` is a whole number of any smaller unit `2^t`. -/
lemma natCast_mul_zpow_of_le (n : ℕ) {j t : ℤ} (h : t ≤ j) :
    (n : ℚ) * 2 ^ j = ((n * 2 ^ (j - t).toNat : ℕ) : ℚ) * 2 ^ t := by
  rw [Nat.cast_mul, Nat.cast_pow, Nat.cast_ofNat, mul_assoc, two_pow_mul_zpow,
    Int.toNat_of_nonneg (by omega)]
  congr 2
  ring

/-! ## Rounding to 53 significant bits -/

/-- `x ≥ 0` rounded to 53 significant bits, to nearest with ties to even, with no greatest
exponent. -/
def roundMag (x : ℚ) : ℚ := roundAt (ulpExponent x) x

/-- Rounding to nearest, ties to even, with no greatest exponent: the magnitude is rounded and the
sign kept. -/
def roundNearest (x : ℚ) : ℚ := if x < 0 then -roundMag (-x) else roundMag x

@[simp] lemma roundMag_zero : roundMag 0 = 0 := roundAt_zero _

lemma roundMag_nonneg {x : ℚ} (hx : 0 ≤ x) : 0 ≤ roundMag x := roundAt_nonneg _ hx

lemma roundNearest_of_nonneg {x : ℚ} (hx : 0 ≤ x) : roundNearest x = roundMag x :=
  if_neg (not_lt.mpr hx)

lemma roundNearest_of_neg {x : ℚ} (hx : x < 0) : roundNearest x = -roundMag (-x) := if_pos hx

lemma roundNearest_nonneg {x : ℚ} (hx : 0 ≤ x) : 0 ≤ roundNearest x := by
  rw [roundNearest_of_nonneg hx]
  exact roundMag_nonneg hx

lemma roundNearest_nonpos {x : ℚ} (hx : x ≤ 0) : roundNearest x ≤ 0 := by
  rcases hx.lt_or_eq with hx | rfl
  · rw [roundNearest_of_neg hx, neg_nonpos]
    exact roundMag_nonneg (by linarith)
  · simp [roundNearest]

/-- A whole number of units below `2^53`, at an exponent not below the least, is its own
rounding. -/
lemma roundMag_of_grid {n : ℕ} {j : ℤ} (hn : n < 2 ^ 53) (hj : -1074 ≤ j) :
    roundMag (n * 2 ^ j) = n * 2 ^ j := by
  rcases Nat.eq_zero_or_pos n with rfl | hpos
  · simp
  have hT := ulpExponent_le (by positivity) hj (magnitude_lt j hn)
  unfold roundMag
  generalize ulpExponent ((n : ℚ) * 2 ^ j) = T at hT ⊢
  rw [natCast_mul_zpow_of_le n hT, roundAt_natCast_mul]

/-- Rounding gives a binary64 value back unchanged. -/
theorem roundNearest_of_representable {q : ℚ} (h : Representable q) : roundNearest q = q := by
  obtain ⟨n, j, hn, hj, -, hq⟩ := h
  rcases lt_or_ge q 0 with hneg | hnonneg
  · rw [roundNearest_of_neg hneg, ← abs_of_neg hneg, hq, roundMag_of_grid hn hj, ← hq,
      abs_of_neg hneg, neg_neg]
  · rw [roundNearest_of_nonneg hnonneg, ← abs_of_nonneg hnonneg, hq, roundMag_of_grid hn hj]

/-- Rounding the magnitude is monotone.  Within one binade it rounds to one grid; across binades,
everything below `2^(t + 53)` rounds to at most that, and everything in a higher binade to at
least it. -/
theorem roundMag_mono {x y : ℚ} (hx : 0 ≤ x) (h : x ≤ y) : roundMag x ≤ roundMag y := by
  rcases hx.eq_or_lt with rfl | hx
  · rw [roundMag_zero]
    exact roundMag_nonneg h
  have hy : 0 < y := hx.trans_le h
  rcases (ulpExponent_mono hx h).eq_or_lt with hT | hT
  · unfold roundMag
    rw [hT]
    exact roundAt_mono _ hx.le h
  · have hxle : x ≤ ((2 ^ 53 : ℕ) : ℚ) * 2 ^ ulpExponent x := by
      rw [Nat.cast_pow, Nat.cast_ofNat, two_pow_mul_zpow]
      exact (lt_two_pow_ulpExponent x).le
    have hyge : ((2 ^ 52 : ℕ) : ℚ) * 2 ^ ulpExponent y ≤ y := by
      rw [Nat.cast_pow, Nat.cast_ofNat, two_pow_mul_zpow]
      exact two_pow_ulpExponent_le hy (by unfold ulpExponent at hT ⊢; omega)
    calc roundMag x ≤ roundAt (ulpExponent x) (((2 ^ 53 : ℕ) : ℚ) * 2 ^ ulpExponent x) :=
          roundAt_mono _ hx.le hxle
      _ = 2 ^ (ulpExponent x + 53) := by
          rw [roundAt_natCast_mul, Nat.cast_pow, Nat.cast_ofNat, two_pow_mul_zpow]
          rfl
      _ ≤ 2 ^ (ulpExponent y + 52) := zpow_le_zpow_right₀ (by norm_num) (by omega)
      _ = roundAt (ulpExponent y) (((2 ^ 52 : ℕ) : ℚ) * 2 ^ ulpExponent y) := by
          rw [roundAt_natCast_mul, Nat.cast_pow, Nat.cast_ofNat, two_pow_mul_zpow]
          rfl
      _ ≤ roundMag y := roundAt_mono _ (by positivity) hyge

/-- Rounding to nearest is monotone. -/
theorem roundNearest_mono {x y : ℚ} (h : x ≤ y) : roundNearest x ≤ roundNearest y := by
  rcases lt_or_ge y 0 with hy | hy
  · -- both negative: the magnitudes compare the other way
    rw [roundNearest_of_neg (lt_of_le_of_lt h hy), roundNearest_of_neg hy, neg_le_neg_iff]
    exact roundMag_mono (by linarith) (by linarith)
  · rcases lt_or_ge x 0 with hx | hx
    · exact (roundNearest_nonpos hx.le).trans (roundNearest_nonneg hy)
    · rw [roundNearest_of_nonneg hx, roundNearest_of_nonneg hy]
      exact roundMag_mono hx h

/-- A number at most a binary64 value rounds to at most that value. -/
theorem roundNearest_le_of_le {q r : ℚ} (hr : Representable r) (h : q ≤ r) : roundNearest q ≤ r :=
  (roundNearest_mono h).trans (roundNearest_of_representable hr).le

/-- A number at least a binary64 value rounds to at least that value. -/
theorem le_roundNearest_of_le {q r : ℚ} (hr : Representable r) (h : r ≤ q) : r ≤ roundNearest q :=
  (roundNearest_of_representable hr).symm.le.trans (roundNearest_mono h)

/-! ## Whole numbers of units -/

/-- A binary64 value of at least `2^(t + 52)` is a whole number of units `2^t`. -/
lemma exists_natCast_mul_of_le {y : ℚ} (hy : Representable y) {t : ℤ} (h : 2 ^ (t + 52) ≤ y) :
    ∃ k : ℕ, y = k * 2 ^ t := by
  obtain ⟨n, j, hn, -, -, hq⟩ := hy
  have hpos : 0 < y := (zpow_pos two_pos _).trans_le h
  rw [abs_of_pos hpos] at hq
  -- the value lies below `2^(j + 53)`, so its unit `2^j` is at least `2^t`
  have htj : t ≤ j := by
    have hlt : (2 : ℚ) ^ (t + 52) < 2 ^ (j + 53) := h.trans_lt (hq ▸ magnitude_lt j hn)
    have := (zpow_lt_zpow_iff_right₀ (by norm_num : (1 : ℚ) < 2)).mp hlt
    omega
  exact ⟨_, hq.trans (natCast_mul_zpow_of_le n htj)⟩

/-- A binary64 value lies below `2^1024`. -/
lemma abs_lt_of_representable {q : ℚ} (h : Representable q) : |q| < 2 ^ 1024 := by
  obtain ⟨n, j, hn, -, hj, hq⟩ := h
  rw [hq]
  calc (n : ℚ) * 2 ^ j < 2 ^ (j + 53) := magnitude_lt j hn
    _ ≤ 2 ^ (1024 : ℤ) := zpow_le_zpow_right₀ (by norm_num) (by omega)
    _ = 2 ^ 1024 := by norm_num

/-! ## Grids -/

/-- The multiples of `2^g`. -/
def OnGrid (g : ℤ) (x : ℚ) : Prop := ∃ k : ℤ, x = k * 2 ^ g

lemma OnGrid.sub {g : ℤ} {x y : ℚ} (hx : OnGrid g x) (hy : OnGrid g y) : OnGrid g (x - y) := by
  obtain ⟨k, rfl⟩ := hx
  obtain ⟨l, rfl⟩ := hy
  exact ⟨k - l, by push_cast; ring⟩

/-- A whole number of units `2^j` is a whole number of the finer units `2^g`. -/
lemma onGrid_of_le {g j : ℤ} (h : g ≤ j) (n : ℕ) : OnGrid g (n * 2 ^ j) :=
  ⟨(n * 2 ^ (j - g).toNat : ℕ), by rw [Int.cast_natCast, natCast_mul_zpow_of_le n h]⟩

/-- A non-negative binary64 value lies on the grid of `2^g` when it is at least `2^(g + 52)`, and
always when `g` is the least exponent. -/
lemma onGrid_of_representable {y : ℚ} (hy : Representable y) (h0 : 0 ≤ y) {g : ℤ}
    (h : 2 ^ (g + 52) ≤ y ∨ g ≤ -1074) : OnGrid g y := by
  rcases h with h | h
  · obtain ⟨k, hk⟩ := exists_natCast_mul_of_le hy h
    exact ⟨k, by rw [hk, Int.cast_natCast]⟩
  · obtain ⟨n, j, -, hj, -, hq⟩ := hy
    rw [abs_of_nonneg h0] at hq
    rw [hq]
    exact onGrid_of_le (by omega) n

lemma OnGrid.natCast {g : ℤ} {x : ℚ} (hx : OnGrid g x) (h0 : 0 ≤ x) :
    ∃ k : ℕ, x = k * 2 ^ g := by
  obtain ⟨k, rfl⟩ := hx
  have hk : 0 ≤ k := by
    have : (0 : ℚ) ≤ k := nonneg_of_mul_nonneg_left h0 (zpow_pos two_pos g)
    exact_mod_cast this
  lift k to ℕ using hk
  exact ⟨k, by rw [Int.cast_natCast]⟩

/-- Rounding keeps a non-negative multiple of `2^g` on that grid when `g` is not below the least
exponent: with a unit in the last place of at most `2^g` it is exact, and with a larger one the
result is a multiple of that unit. -/
lemma roundMag_onGrid {g : ℤ} {x : ℚ} (hx : OnGrid g x) (h0 : 0 ≤ x) :
    OnGrid g (roundMag x) := by
  by_cases ht : ulpExponent x ≤ g
  · obtain ⟨k, rfl⟩ := hx.natCast h0
    unfold roundMag
    generalize ulpExponent ((k : ℚ) * 2 ^ g) = T at ht ⊢
    rw [natCast_mul_zpow_of_le k ht, roundAt_natCast_mul, ← natCast_mul_zpow_of_le k ht]
    exact onGrid_of_le le_rfl k
  · unfold roundMag roundAt
    exact onGrid_of_le (by omega) _

/-- A non-negative multiple of `2^g` below `2^(g + 53)` is a binary64 value, for `g` in the range
of exponents. -/
lemma OnGrid.representable {g : ℤ} {x : ℚ} (hx : OnGrid g x) (h0 : 0 ≤ x)
    (hlt : x < 2 ^ (g + 53)) (hlo : -1074 ≤ g) (hhi : g ≤ 971) : Representable x := by
  obtain ⟨k, rfl⟩ := hx.natCast h0
  have hp : (0 : ℚ) < 2 ^ g := zpow_pos two_pos g
  have h53 : (2 : ℚ) ^ 53 * 2 ^ g = 2 ^ (g + 53) := two_pow_mul_zpow 53 g
  have hk : (k : ℚ) < 2 ^ 53 := lt_of_mul_lt_mul_right (h53 ▸ hlt) hp.le
  exact ⟨k, g, by exact_mod_cast hk, hlo, hhi, by rw [abs_of_nonneg h0]⟩

/-- The binary64 values at or above the rounding of a positive `D` are multiples of the unit in
the last place of `D`: on the subnormal grid that is every value, and above it every such value
is at least `2^(g + 52)` and so a multiple of its own unit, which `2^g` divides. -/
lemma onGrid_of_roundNearest_le {D y : ℚ} (hD : 0 < D) (hg : ulpExponent D ≤ 971)
    (hy : Representable y) (hDy : roundNearest D ≤ y) : OnGrid (ulpExponent D) y := by
  set g := ulpExponent D
  have hglo : -1074 ≤ g := le_max_right _ _
  refine onGrid_of_representable hy ((roundNearest_nonneg hD.le).trans hDy) ?_
  rcases hglo.eq_or_lt with h | h
  · exact .inr h.ge
  · have hrep : Representable (2 ^ (g + 52)) := by
      have h52 := onGrid_of_le (le_refl g) (2 ^ 52)
      refine OnGrid.representable ?_ (by positivity) ?_ hglo hg
      · rwa [Nat.cast_pow, Nat.cast_ofNat, two_pow_mul_zpow] at h52
      · exact zpow_lt_zpow_right₀ (by norm_num) (by omega)
    left
    calc (2 : ℚ) ^ (g + 52) ≤ roundNearest D :=
          le_roundNearest_of_le hrep (two_pow_ulpExponent_le hD h)
      _ ≤ y := hDy

/-- A difference `F - σ` is exact when its rounding is positive and at most a binary64 value `A`
with `A ≤ B` and `σ` the rounded difference `B - A`: `A`, `B` and `F` lie at or above the
rounding, hence on the grid of its unit in the last place, and so do `σ` and `F - σ`. -/
theorem roundNearest_sub_eq_of_le {F A B σ : ℚ} (hF : Representable F) (hA : Representable A)
    (hB : Representable B) (hAB : A ≤ B) (hσ : σ = roundNearest (B - A)) (hσF : σ ≤ F)
    (hpos : 0 < roundNearest (F - σ)) (hle : roundNearest (F - σ) ≤ A) :
    roundNearest (F - σ) = F - σ := by
  have hBA : 0 ≤ B - A := sub_nonneg.mpr hAB
  have hσ0 : 0 ≤ σ := hσ ▸ roundNearest_nonneg hBA
  have hD0 : 0 < F - σ := by
    refine lt_of_le_of_ne (sub_nonneg.mpr hσF) fun h => ?_
    rw [← h, roundNearest_of_nonneg le_rfl, roundMag_zero] at hpos
    exact lt_irrefl 0 hpos
  set g := ulpExponent (F - σ)
  have hglo : -1074 ≤ g := le_max_right _ _
  have hFlt : F < (2 : ℚ) ^ ((971 : ℤ) + 53) :=
    (le_abs_self F).trans_lt ((abs_lt_of_representable hF).trans_le (by norm_num))
  have hghi : g ≤ 971 := ulpExponent_le hD0 (by norm_num) (by linarith)
  have hAg := onGrid_of_roundNearest_le hD0 hghi hA hle
  have hBg := onGrid_of_roundNearest_le hD0 hghi hB (hle.trans hAB)
  have hFg := onGrid_of_roundNearest_le hD0 hghi hF (roundNearest_le_of_le hF (sub_le_self F hσ0))
  have hσg : OnGrid g σ := by
    rw [hσ, roundNearest_of_nonneg hBA]
    exact roundMag_onGrid (hBg.sub hAg) hBA
  exact roundNearest_of_representable
    ((hFg.sub hσg).representable hD0.le (lt_two_pow_ulpExponent _) hglo hghi)

/-- A binary64 start `l` at most `rn (F - σ)` ends, after the span `σ`, at most at `F`, when a
start equal to `rn (F - σ)` only occurs with `F - σ` exact: a start strictly below the rounding
lies strictly below `F - σ`. -/
theorem roundNearest_add_le {F σ l : ℚ} (hF : Representable F) (hl : Representable l)
    (hle : l ≤ roundNearest (F - σ))
    (hexact : l = roundNearest (F - σ) → roundNearest (F - σ) = F - σ) :
    roundNearest (l + σ) ≤ F := by
  rw [← roundNearest_of_representable hF]
  apply roundNearest_mono
  rcases hle.lt_or_eq with hlt | heq
  · have hbelow : l < F - σ := by
      by_contra hge
      have hround := roundNearest_mono (not_lt.mp hge)
      rw [roundNearest_of_representable hl] at hround
      exact absurd hlt (not_lt.mpr hround)
    linarith
  · rw [heq, hexact heq]
    linarith

/-! ## Reading an accuracy -/

/-- `Describes a f`: the accuracy `a` is that of a truncation which dropped the fraction `f` of a
unit, `0 ≤ f < 1`: nothing, less than half, exactly half, or more than half. -/
def Describes : Accuracy → ℚ → Prop
  | .exact, f => f = 0
  | .inexact .lt, f => 0 < f ∧ f < 1 / 2
  | .inexact .eq, f => f = 1 / 2
  | .inexact .gt, f => 1 / 2 < f ∧ f < 1

lemma Describes.nonneg {a : Accuracy} {f : ℚ} (h : Describes a f) : 0 ≤ f := by
  match a, h with
  | .exact, h => exact h.symm ▸ le_rfl
  | .inexact .lt, h => exact h.1.le
  | .inexact .eq, h => rw [h]; norm_num
  | .inexact .gt, h => linarith [h.1]

lemma Describes.lt_one {a : Accuracy} {f : ℚ} (h : Describes a f) : f < 1 := by
  match a, h with
  | .exact, h => rw [h]; norm_num
  | .inexact .lt, h => linarith [h.2]
  | .inexact .eq, h => rw [h]; norm_num
  | .inexact .gt, h => exact h.2

/-- Rounding to nearest even on a described accuracy is `roundHalfEven`. -/
lemma roundToNearestEven_eq {a : Accuracy} {f : ℚ} (h : Describes a f) (m : ℕ) :
    a.roundToNearestEven m = roundHalfEven m f := by
  match a, h with
  | .exact, h =>
    rw [h, roundHalfEven_of_lt m (by norm_num)]
    rfl
  | .inexact .lt, h =>
    rw [roundHalfEven_of_lt m h.2]
    rfl
  | .inexact .eq, h =>
    rw [h]
    simp [Accuracy.roundToNearestEven, roundHalfEven]
  | .inexact .gt, h =>
    rw [roundHalfEven, if_neg (not_lt.mpr h.1.le), if_pos h.1]
    rfl

/-- One bit shifted out joins the dropped fraction as its top bit. -/
lemma describes_shiftRightOne {em : ExtendedMantissa} {f : ℚ} (h : Describes em.accuracy f) :
    Describes em.shiftRightOne.accuracy (((em.mantissa % 2 : ℕ) + f) / 2) := by
  rcases em with ⟨m, r, s⟩
  rcases Nat.mod_two_eq_zero_or_one m with hm | hm <;> cases r <;> cases s <;>
    simp only [ExtendedMantissa.accuracy, Describes] at h <;>
    simp [ExtendedMantissa.shiftRightOne, ExtendedMantissa.accuracy, Describes, hm]
  -- an even mantissa: the fraction halves
  · exact h
  · exact ⟨h.1, by linarith [h.2]⟩
  · exact ⟨by linarith, by linarith⟩
  · exact ⟨by linarith [h.1], by linarith [h.2]⟩
  -- an odd one: its last bit becomes the top bit of the fraction
  · rw [h]
    norm_num
  · exact ⟨by linarith [h.1], by linarith [h.2]⟩
  · exact ⟨by linarith, by linarith⟩
  · exact ⟨by linarith [h.1], by linarith [h.2]⟩

/-- Shifting out `k` bits drops them, over `2^k`, on top of the fraction already dropped. -/
lemma describes_shiftRight {em : ExtendedMantissa} {f : ℚ} (h : Describes em.accuracy f)
    (k : ℕ) : Describes (em >>> k).accuracy (((em.mantissa % 2 ^ k : ℕ) + f) / 2 ^ k) := by
  induction k with
  | zero => simpa [Nat.mod_one] using h
  | succ k ih =>
    rw [shiftRight_succ]
    have h' := describes_shiftRightOne ih
    rw [mantissa_shiftRight] at h'
    convert h' using 1
    rw [Nat.mod_pow_succ]
    push_cast
    field_simp
    ring

@[simp] lemma accuracy_ofMantissaAndAccuracy (m : ℕ) (a : Accuracy) :
    (ExtendedMantissa.ofMantissaAndAccuracy m a).accuracy = a := by
  rcases a with _ | (_ | _ | _) <;> rfl

@[simp] lemma mantissa_ofMantissaAndAccuracy (m : ℕ) (a : Accuracy) :
    (ExtendedMantissa.ofMantissaAndAccuracy m a).mantissa = m := by
  rcases a with _ | (_ | _ | _) <;> rfl

/-! ## Rounding follows the rule -/

section Rounding

variable {m : ℕ} {e : ℤ} {φ : ℚ}

/-- The exact value `(m + φ) · 2^e` has its last bit at the target exponent of `m · 2^e`, when it
starts at or below that exponent. -/
lemma ulpExponent_eq_targetExponent (hc : e ≤ Format.binary64.targetExponent (totalExponent m e))
    (hφ₀ : 0 ≤ φ) (hφ₁ : φ < 1) (hpos : 0 < (m : ℚ) + φ) :
    ulpExponent ((m + φ) * 2 ^ e) = Format.binary64.targetExponent (totalExponent m e) := by
  rw [targetExponent_eq] at hc ⊢
  rcases Nat.eq_zero_or_pos m with rfl | hm
  · -- nothing but a fraction below the least exponent: the last bit is the least
    simp only [Nat.log2_zero, Nat.cast_zero, zero_add] at hc ⊢
    have hφ : 0 < φ := by simpa using hpos
    have hlt : φ * (2 : ℚ) ^ e < 2 ^ ((-1074 : ℤ) + 53) := by
      calc φ * (2 : ℚ) ^ e < 1 * 2 ^ e := mul_lt_mul_of_pos_right hφ₁ (zpow_pos two_pos e)
        _ ≤ 2 ^ ((-1074 : ℤ) + 53) := by
            rw [one_mul]
            exact zpow_le_zpow_right₀ (by norm_num) (by omega)
    have := ulpExponent_le (by positivity) le_rfl hlt
    unfold ulpExponent at this ⊢
    omega
  · -- the fraction stays inside the binade of `m`
    have hlog : Int.log 2 (((m : ℚ) + φ) * 2 ^ e) = m.log2 + e := by
      obtain ⟨hlo, hhi⟩ := binade hm e
      have hm1 : ((m + 1 : ℕ) : ℚ) ≤ ((2 ^ (m.log2 + 1) : ℕ) : ℚ) := by
        exact_mod_cast Nat.lt_log2_self
      apply log_two_eq
      · exact hlo.trans (mul_le_mul_of_nonneg_right (by linarith) (zpow_pos two_pos e).le)
      · calc ((m : ℚ) + φ) * 2 ^ e < (m + 1) * 2 ^ e :=
              mul_lt_mul_of_pos_right (by linarith) (zpow_pos two_pos e)
          _ ≤ ((2 ^ (m.log2 + 1) : ℕ) : ℚ) * 2 ^ e :=
              mul_le_mul_of_nonneg_right (by exact_mod_cast hm1) (zpow_pos two_pos e).le
          _ = 2 ^ ((m.log2 : ℤ) + e + 1) := by
              rw [Nat.cast_pow, Nat.cast_ofNat, two_pow_mul_zpow]
              congr 1
              push_cast
              ring
    unfold ulpExponent
    rw [hlog]

/-- **Rounding follows the nearest-value rule.**  A mantissa `m` at an exponent `e` at or below
its target, with an accuracy that describes a fraction `φ` of the unit `2^e` already dropped,
rounds to the magnitude of `(m + φ) · 2^e` rounded to nearest, under its sign. -/
theorem unpackedValue_roundWithAccuracy_of_describes (s : Sign) {a : Accuracy}
    (hc : e ≤ Format.binary64.targetExponent (totalExponent m e)) (ha : Describes a φ) :
    unpackedValue (roundWithAccuracy Format.binary64 s m e a) =
      (s.apply 1 : ℚ) * roundMag ((m + φ) * 2 ^ e) := by
  have hφ₀ := ha.nonneg
  have hφ₁ := ha.lt_one
  generalize hT : Format.binary64.targetExponent (totalExponent m e) = T at hc
  have hk : ((T - e).toNat : ℤ) = T - e := Int.toNat_of_nonneg (by omega)
  -- the first shift truncates to `m / 2^k` and describes the fraction it dropped
  have hR : (shiftToTargetExponent Format.binary64 m e a).1.roundedMantissa =
      roundHalfEven (m / 2 ^ (T - e).toNat)
        (((m % 2 ^ (T - e).toNat : ℕ) + φ) / 2 ^ (T - e).toNat) := by
    have hacc := describes_shiftRight
      (by rwa [accuracy_ofMantissaAndAccuracy] : Describes
        (ExtendedMantissa.ofMantissaAndAccuracy m a).accuracy φ) (T - e).toNat
    simp only [mantissa_ofMantissaAndAccuracy] at hacc
    simp only [ExtendedMantissa.roundedMantissa, shiftToTargetExponent, shiftToExponent, hT,
      roundToNearestEven_eq hacc, mantissa_shiftRight, mantissa_ofMantissaAndAccuracy]
  have hE : (shiftToTargetExponent Format.binary64 m e a).2 = T := by
    rw [shiftToTargetExponent_snd, hT]
    omega
  rw [unpackedValue_roundWithAccuracy, hR, hE]
  -- the exact value, counted in units `2^T`
  have hp : (0 : ℚ) < 2 ^ ((T - e).toNat : ℤ) := zpow_pos two_pos _
  have hfrac₀ : (0 : ℚ) ≤ ((m % 2 ^ (T - e).toNat : ℕ) + φ) / 2 ^ (T - e).toNat := by positivity
  have hfrac₁ : ((m % 2 ^ (T - e).toNat : ℕ) + φ) / 2 ^ (T - e).toNat < 1 := by
    have hmod : ((m % 2 ^ (T - e).toNat : ℕ) : ℚ) + 1 ≤ 2 ^ (T - e).toNat := by
      exact_mod_cast Nat.mod_lt m (Nat.two_pow_pos _)
    rw [div_lt_one (by positivity)]
    linarith
  have hsplit : ((m : ℚ) + φ) * 2 ^ e =
      ((m / 2 ^ (T - e).toNat : ℕ) + ((m % 2 ^ (T - e).toNat : ℕ) + φ) / 2 ^ (T - e).toNat) *
        2 ^ T := by
    have hdecomp : (m : ℚ) = (m % 2 ^ (T - e).toNat : ℕ) + (m / 2 ^ (T - e).toNat : ℕ) *
        2 ^ (T - e).toNat := by
      exact_mod_cast (Nat.mod_add_div' m _).symm
    have hpow : (2 : ℚ) ^ T = 2 ^ (T - e).toNat * 2 ^ e := by
      rw [← zpow_natCast, ← zpow_add₀ two_ne_zero, hk]
      ring_nf
    rw [hpow, hdecomp]
    field_simp
    ring
  rcases eq_or_lt_of_le (add_nonneg (Nat.cast_nonneg m) hφ₀) with hzero | hpos
  · -- nothing at all: both sides are zero
    have hm0 : m = 0 := by exact_mod_cast (show (m : ℚ) = 0 by linarith)
    have hφ0 : φ = 0 := by linarith
    subst hm0 hφ0
    cases s <;> simp [roundHalfEven_of_lt, Sign.apply]
  · rw [show roundMag (((m : ℚ) + φ) * 2 ^ e) = roundAt T (((m : ℚ) + φ) * 2 ^ e) by
      rw [roundMag, ← hT, ulpExponent_eq_targetExponent (hT ▸ hc) hφ₀ hφ₁ hpos]]
    rw [hsplit, roundAt_eq T _ hfrac₀ hfrac₁]
    cases s <;> simp [Sign.apply]

end Rounding

end WaveScope.Numeric
