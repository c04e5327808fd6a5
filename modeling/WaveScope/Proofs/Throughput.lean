import Mathlib
import WaveScope.Status.Throughput
import WaveScope.Proofs.Binary64.Extended

/-!
# The throughput meter over a run of readings

`ThroughputMeter.update` is fed the instant and the byte total.  Instants may go back and totals
may shrink: both differences saturate at zero.  The rate is recomputed once at least a second has
passed, as `delta / 1024 / seconds elapsed` in binary64.

* `one_le_seconds`: at least a thousand milliseconds are at least one second in binary64.  The
  whole seconds are at least one, or overflow to `+∞`, and the fraction of a second is exact over
  a billion and not negative.
* `rate_finite_nonneg`: fewer than `2^64` bytes over at least a second give a finite rate that is
  not negative.  The bytes over `1024` are finite, and dividing them by at least one, or by `+∞`,
  keeps them between zero and themselves.
* `update_step`: one reading never moves the window start back, and keeps the rate finite and not
  negative; `feed_invariant` carries both through any list of readings.

**Main statement.**  `throughput_meter_run`: after any readings with totals below `2^64`, the
window start has not moved back and the rate is finite and not negative; the next reading
recomputes exactly when a second has passed since the window start, with a divisor of at least
one second, and otherwise changes nothing.
-/

namespace WaveScope

open Numeric

namespace ThroughputMeter

lemma hasValue_one : HasValue 1.0 1 :=
  hasValue_of_value_eq (by decide +kernel) (by decide +kernel)

lemma hasValue_kibi : HasValue 1024.0 1024 :=
  hasValue_of_value_eq (by decide +kernel) (by decide +kernel)

lemma hasValue_billion : HasValue 1000000000.0 1000000000 :=
  hasValue_of_value_eq (by decide +kernel) (by decide +kernel)

lemma hasValue_zero_rate : HasValue 0.0 0 :=
  hasValue_of_value_eq (by decide +kernel) (by decide +kernel)

/-! ## One second and one rate -/

/-- At least a thousand milliseconds lie at or above one on the line: the whole seconds are at
least one, or `+∞`, and the fraction added to them is finite and not negative. -/
lemma one_le_place_seconds {ms : ℕ} (h : 1000 ≤ ms) :
    ∃ p, place (seconds ms) = some p ∧ onLine 1 ≤ p := by
  -- the fraction: fewer than `10^9` nanoseconds over `10^9`, at most one
  have hnanos : ms % 1000 * 1000000 < 2 ^ 53 := by omega
  have hn := hasValue_iff_place.mpr ((place_ofNat _).trans
    (congrArg some (roundLine_of_representable (representable_of_lt hnanos))))
  have hfrac0 : (0 : ℚ) ≤ (ms % 1000 * 1000000 : ℕ) / 1000000000 := by positivity
  have hfrac1 : ((ms % 1000 * 1000000 : ℕ) : ℚ) / 1000000000 ≤ 1 := by
    rw [div_le_one (by norm_num)]
    exact_mod_cast (by omega : ms % 1000 * 1000000 ≤ 1000000000)
  have hfrac := hasValue_of_abs_le (place_div hn hasValue_billion (by norm_num))
    (representable_two_pow (k := 0) (by norm_num)) (by rw [abs_of_nonneg hfrac0]; simpa using hfrac1)
  have hφ0 : 0 ≤ roundNearest (((ms % 1000 * 1000000 : ℕ) : ℚ) / 1000000000) :=
    roundNearest_nonneg hfrac0
  -- the whole seconds: at least one
  have hone : roundLine 1 = onLine 1 :=
    roundLine_of_representable (by simpa using representable_two_pow (k := 0) (by norm_num))
  have hsecs : onLine 1 ≤ roundLine ((ms / 1000 : ℕ) : ℚ) := by
    rw [← hone]
    exact roundLine_mono (by exact_mod_cast (by omega : 1 ≤ ms / 1000))
  rcases place_cases (place_ofNat (ms / 1000)) with ⟨s, hs, hS⟩ | ⟨sgn, hs, hS⟩
  · -- finite whole seconds `s ≥ 1`, plus a fraction not below zero
    rw [hs, onLine_le_onLine] at hsecs
    refine ⟨_, place_add hS hfrac, ?_⟩
    rw [← hone]
    exact roundLine_mono (by linarith)
  · -- whole seconds past the greatest float: `+∞`, and the sum with it
    refine ⟨_, (place_add_infinity hfrac hS).2, ?_⟩
    rw [← hs]
    exact hsecs

/-- At least a thousand milliseconds are at least one second in binary64. -/
theorem one_le_seconds {ms : ℕ} (h : 1000 ≤ ms) : (1.0 : Float) ≤ seconds ms := by
  obtain ⟨p, hp, hp1⟩ := one_le_place_seconds h
  exact (le_iff_place (hasValue_iff_place.mp hasValue_one) hp).mpr hp1

/-- **The rate.**  Fewer than `2^64` bytes over at least a second give a finite rate that is not
negative: the bytes over `1024` are finite, and dividing them by at least one keeps them between
zero and themselves, while dividing by `+∞` gives zero. -/
theorem rate_finite_nonneg {D ms : ℕ} (hD : D < 2 ^ 64) (hms : 1000 ≤ ms) :
    (Float.ofNat D / 1024.0 / seconds ms).isFinite = true ∧
      (0 : Float) ≤ Float.ofNat D / 1024.0 / seconds ms := by
  obtain ⟨δ, hbytes, hδ0, hδle⟩ := exists_hasValue_ofNat hD
  have hkib0 : 0 ≤ δ / 1024 := div_nonneg hδ0 (by norm_num)
  have hkib := hasValue_of_abs_le (place_div hbytes hasValue_kibi (by norm_num))
    (representable_two_pow (k := 64) (by norm_num)) (by rw [abs_of_nonneg hkib0]; linarith)
  set β := roundNearest (δ / 1024)
  have hβ0 : 0 ≤ β := roundNearest_nonneg hkib0
  have hβle : β ≤ 2 ^ 64 := roundNearest_le_of_le (representable_two_pow (by norm_num)) (by linarith)
  -- the quotient by the seconds has a value in `[0, β]`
  obtain ⟨κ, hκ, hκ0⟩ : ∃ κ, HasValue (Float.ofNat D / 1024.0 / seconds ms) κ ∧ 0 ≤ κ := by
    obtain ⟨p, hp, hp1⟩ := one_le_place_seconds hms
    rcases place_cases hp with ⟨s, rfl, hs⟩ | ⟨sgn, -, hs⟩
    · have hs1 : 1 ≤ s := onLine_le_onLine.mp hp1
      have hq0 : 0 ≤ β / s := div_nonneg hβ0 (by linarith)
      have hqle : β / s ≤ β := div_le_self hβ0 hs1
      exact ⟨_, hasValue_of_abs_le (place_div hkib hs (by positivity))
        (representable_two_pow (k := 64) (by norm_num)) (by rw [abs_of_nonneg hq0]; linarith),
        roundNearest_nonneg hq0⟩
    · exact ⟨0, hasValue_div_infinity hkib hs, le_rfl⟩
  exact ⟨hκ.isFinite, (hasValue_zero.le_iff hκ).mpr hκ0⟩

/-! ## A run of readings -/

/-- The meter after a list of readings `(instant, total)`, first to last. -/
def feed (m : ThroughputMeter) (reads : List (ℕ × ℕ)) : ThroughputMeter :=
  reads.foldl (fun m r => (m.update r.1 r.2).2) m

@[simp] lemma feed_nil (m : ThroughputMeter) : m.feed [] = m := rfl

@[simp] lemma feed_cons (m : ThroughputMeter) (r : ℕ × ℕ) (reads : List (ℕ × ℕ)) :
    m.feed (r :: reads) = (m.update r.1 r.2).2.feed reads := rfl

/-- The rate is finite and not negative. -/
def RateSound (m : ThroughputMeter) : Prop :=
  m.kbps.isFinite = true ∧ (0 : Float) ≤ m.kbps

lemma rateSound_new (now total : ℕ) : (new now total).RateSound :=
  ⟨hasValue_zero_rate.isFinite, (hasValue_zero.le_iff hasValue_zero_rate).mpr le_rfl⟩

/-- **One reading.**  The window start does not move back, and a total below `2^64` keeps the
rate finite and not negative: within a second nothing changes, and a recomputation moves the
window forward and divides fewer than `2^64` bytes by at least a second. -/
theorem update_step (m : ThroughputMeter) (t total : ℕ) (htot : total < 2 ^ 64)
    (hm : m.RateSound) :
    m.windowStart ≤ (m.update t total).2.windowStart ∧ (m.update t total).2.RateSound := by
  by_cases h : t - m.windowStart < 1000
  · rw [update_of_lt m t total h]
    exact ⟨le_rfl, hm⟩
  · have hge : 1000 ≤ t - m.windowStart := not_lt.mp h
    simp only [update, h, if_false]
    exact ⟨by omega, rate_finite_nonneg (by omega) hge⟩

/-- **A run of readings.**  From a meter whose rate is sound, readings with totals below `2^64`
never move the window start back and keep the rate finite and not negative. -/
theorem feed_invariant (m : ThroughputMeter) (reads : List (ℕ × ℕ))
    (hreads : ∀ r ∈ reads, r.2 < 2 ^ 64) (hm : m.RateSound) :
    m.windowStart ≤ (m.feed reads).windowStart ∧ (m.feed reads).RateSound := by
  induction reads generalizing m with
  | nil => exact ⟨le_rfl, hm⟩
  | cons r reads ih =>
    obtain ⟨hstart, hsound⟩ := update_step m r.1 r.2 (hreads r List.mem_cons_self) hm
    obtain ⟨hstart', hsound'⟩ :=
      ih _ (fun r' hr' => hreads r' (List.mem_cons_of_mem r hr')) hsound
    exact ⟨hstart.trans hstart', hsound'⟩

/-- **The throughput meter over a run.**  Start a meter at `t₀` with `b₀` bytes and feed it any
readings, whose instants may go back and whose totals may shrink, with totals below `2^64`.  The
window start has not moved back before `t₀`, and the rate is finite and not negative.  The next
reading `(t, total)` recomputes exactly when `t - windowStart`, saturating at zero, is at least a
second.  A recomputation moves the window to `t` and `total` and sets the rate to
`(total - bytesAtStart) / 1024 / seconds elapsed`, with the saturating difference and a divisor of
at least one second; otherwise nothing changes.  So the window start never decreases. -/
theorem throughput_meter_run (t₀ b₀ : ℕ) (reads : List (ℕ × ℕ))
    (hreads : ∀ r ∈ reads, r.2 < 2 ^ 64) (m : ThroughputMeter)
    (hm : m = (new t₀ b₀).feed reads) (t total : ℕ) :
    (t₀ ≤ m.windowStart ∧ m.kbps.isFinite = true ∧ (0 : Float) ≤ m.kbps) ∧
      ((m.update t total).1 = true ↔ 1000 ≤ t - m.windowStart) ∧
      m.windowStart ≤ (m.update t total).2.windowStart ∧
      (1000 ≤ t - m.windowStart →
        (m.update t total).2 =
          ⟨t, total, Float.ofNat (total - m.bytesAtStart) / 1024.0 / seconds (t - m.windowStart)⟩ ∧
        (1.0 : Float) ≤ seconds (t - m.windowStart)) ∧
      (t - m.windowStart < 1000 → (m.update t total).2 = m) := by
  have hinv := feed_invariant (new t₀ b₀) reads hreads (rateSound_new t₀ b₀)
  rw [← hm] at hinv
  obtain ⟨hstart, hsound⟩ := hinv
  refine ⟨⟨hstart, hsound⟩, ?_, ?_, fun hge => ?_, fun hlt => ?_⟩
  · by_cases h : t - m.windowStart < 1000
    · simp [update_of_lt m t total h, h]
    · simp [update, h, not_lt.mp h]
  · by_cases h : t - m.windowStart < 1000
    · rw [update_of_lt m t total h]
    · simp only [update, h, if_false]
      omega
  · have h : ¬ t - m.windowStart < 1000 := not_lt.mpr hge
    exact ⟨by simp only [update, h, if_false], one_le_seconds hge⟩
  · rw [update_of_lt m t total hlt]

theorem throughput_meter_run_backwards :
    let m := (new 0 0).feed [(1500, 4096), (900, 100)]
    ((∀ r ∈ [(1500, 4096), (900, 100)], r.2 < 2 ^ 64) ∧
        m = (new 0 0).feed [(1500, 4096), (900, 100)]) ∧
      (0 ≤ m.windowStart ∧ m.kbps.isFinite = true ∧ (0 : Float) ≤ m.kbps) ∧
        ((m.update 2600 8192).1 = true ↔ 1000 ≤ 2600 - m.windowStart) ∧
        m.windowStart ≤ (m.update 2600 8192).2.windowStart ∧
        (1000 ≤ 2600 - m.windowStart →
          (m.update 2600 8192).2 =
            ⟨2600, 8192, Float.ofNat (8192 - m.bytesAtStart) / 1024.0 /
              seconds (2600 - m.windowStart)⟩ ∧
          (1.0 : Float) ≤ seconds (2600 - m.windowStart)) ∧
        (2600 - m.windowStart < 1000 → (m.update 2600 8192).2 = m) := by
  intro m
  exact ⟨⟨by simp, rfl⟩,
    throughput_meter_run 0 0 [(1500, 4096), (900, 100)] (by simp) m rfl 2600 8192⟩

end ThroughputMeter

end WaveScope
