import Mathlib
import WaveScope.Axis.Viewport
import WaveScope.Proofs.Binary64.Extended

/-!
# The horizontal range stays inside the buffer

A viewport shows the positions `[x.min, x.max]` of a buffer of `N` samples.  Zooming and panning
compute a new range in binary64 and push it back inside `[0, N]` with `Viewport.clampX`, which
shortens the span to at most `N`, pins the start between `0` and `N - span` and puts the end at
start plus span.  Every one of those steps rounds.

* `AxisRange.Within r full` says `0 ≤ r.min ≤ r.max ≤ full` in binary64 comparisons.
* `within_clampX`: a range whose ends are in order comes out of `clampX` inside `[0, N]`.  The end
  `lo + span` stays at most `N` because a start strictly below `rn (N - span)` lies below
  `N - span`, and a start pinned at `rn (N - span)` comes from a range whose ends lie on the grid
  of that rounding, which makes `N - span` exact (`roundNearest_add_le`,
  `roundNearest_sub_eq_of_le`).
* `within_zoomX`, `within_panX`, `within_fullX`: each horizontal operation hands `clampX` a range
  with ends in order, or resets to `[0, N]`.  A positive factor and a finite fraction are enough:
  an infinite factor gives a span of zero, and an offset that overflows moves both ends to the
  same infinity.
* `clampX_bounds_ordered` and `zoomX_bounds_ordered`: the two clamps the viewport makes have their
  lower bound at most their upper bound for every range and every argument, so neither can fail.

**Main statement.**  `viewport_x_within_buffer`: from `Viewport.new n y₀` with `n < 2^64`, after
any operations the clamps' bounds are in order, and after operations with positive horizontal zoom
factors and finite pan fractions the horizontal range lies inside `[0, max n 1]`.
-/

namespace WaveScope

open Numeric

namespace AxisRange

/-- The range lies inside `[0, full]`, in binary64 comparisons. -/
def Within (r : AxisRange) (full : Float) : Prop :=
  0 ≤ r.min ∧ r.min ≤ r.max ∧ r.max ≤ full

/-- The ends of a range inside `[0, full]`, for a finite `full` at `F`, are finite, at values
`0 ≤ a ≤ b ≤ F`, and so is its span, at the rounded difference. -/
lemma Within.values {r : AxisRange} {full : Float} {F : ℚ} (h : r.Within full)
    (hfull : HasValue full F) :
    ∃ a b, HasValue r.min a ∧ HasValue r.max b ∧ 0 ≤ a ∧ a ≤ b ∧ b ≤ F ∧
      HasValue r.span (roundNearest (b - a)) := by
  obtain ⟨h₀, h₁, h₂⟩ := h
  obtain ⟨⟨p, hp⟩, ⟨q, hq⟩⟩ := exists_place_of_le h₁
  have hp0 := (le_iff_place (hasValue_iff_place.mp hasValue_zero) hp).mp h₀
  have hpq := (le_iff_place hp hq).mp h₁
  have hqF := (le_iff_place hq (hasValue_iff_place.mp hfull)).mp h₂
  obtain ⟨a, rfl, ha0, -⟩ := exists_onLine_of_le hp0 (hpq.trans hqF)
  obtain ⟨b, rfl, -, hbF⟩ := exists_onLine_of_le (hp0.trans hpq) hqF
  have hab := onLine_le_onLine.mp hpq
  have ha := hasValue_iff_place.mpr hp
  have hb := hasValue_iff_place.mpr hq
  exact ⟨a, b, ha, hb, ha0, hab, hbF, hasValue_sub_of_le hb ha hfull.representable hab (by linarith)⟩

lemma within_of_hasValue {lo hi full : Float} {l u F : ℚ} (hlo : HasValue lo l)
    (hhi : HasValue hi u) (hfull : HasValue full F) (h₀ : 0 ≤ l) (h₁ : l ≤ u) (h₂ : u ≤ F) :
    Within ⟨lo, hi⟩ full :=
  ⟨(hasValue_zero.le_iff hlo).mpr h₀, (hlo.le_iff hhi).mpr h₁, (hhi.le_iff hfull).mpr h₂⟩

end AxisRange

namespace Viewport

open AxisRange

lemma hasValue_two : HasValue 2 2 :=
  hasValue_of_value_eq (by decide +kernel) (by decide +kernel)

lemma hasValue_minXSpan : HasValue minXSpan 8 :=
  hasValue_of_value_eq (by decide +kernel) (by decide +kernel)

/-! ## The clamp -/

/-- The span `clampX` keeps, for a range whose ends are in order, lies in `[0, F]`: it is `F`
itself, or the rounded difference of two finite ends. -/
lemma exists_hasValue_minNum_span {r : AxisRange} {full : Float} {F : ℚ} (hfull : HasValue full F)
    (hF : 0 ≤ F) (hr : r.min ≤ r.max) :
    ∃ σ, HasValue (minNum r.span full) σ ∧ 0 ≤ σ ∧ σ ≤ F ∧
      (σ = F ∨ ∃ A B, HasValue r.min A ∧ HasValue r.max B ∧ σ = roundNearest (B - A)) := by
  unfold AxisRange.span
  rcases sub_place_of_le hr with ⟨s, -, -, hnan⟩ | ⟨p, hp, hp0⟩
  · -- a NaN span gives way to the full width
    rw [minNum_of_isNaN_left full hnan]
    exact ⟨F, hfull, hF, le_rfl, .inl rfl⟩
  have hmin := place_minNum hp (hasValue_iff_place.mp hfull)
  obtain ⟨σ, hσ, hσ0, hσF⟩ :=
    exists_onLine_of_le (le_min hp0 (onLine_le_onLine.mpr hF)) (min_le_right p _)
  refine ⟨σ, hasValue_iff_place.mpr (hmin.trans (congrArg some hσ)), hσ0, hσF, ?_⟩
  rcases le_total p (onLine F) with hle | hle
  · -- a span at most `F` is kept; it is finite, so both ends are
    rw [min_eq_left hle] at hσ
    subst hσ
    have hspan : HasValue (r.max - r.min) σ := hasValue_iff_place.mpr hp
    obtain ⟨hminFin, hmaxFin⟩ := isFinite_of_sub hspan.isFinite
    have hA := hasValue_of_isFinite hminFin
    have hB := hasValue_of_isFinite hmaxFin
    rw [place_sub hB hA] at hp
    exact .inr ⟨_, _, hA, hB, (roundNearest_of_roundLine (Option.some.inj hp)).symm⟩
  · rw [min_eq_right hle] at hσ
    exact .inl (onLine_inj.mp hσ).symm

/-- A start that `clamp` pinned at a positive upper bound `η` comes from a point at or above it. -/
lemma le_of_clamp_eq {p : WithBot (WithTop ℚ)} {η : ℚ} (hη : 0 < η)
    (h : min (max (onLine 0) p) (onLine η) = onLine η) : onLine η ≤ p := by
  have hmax := min_eq_right_iff.mp h
  rcases le_max_iff.mp hmax with h0 | hp
  · exact absurd (onLine_le_onLine.mp h0) (not_le.mpr hη)
  · exact hp

/-- **The clamp step.**  `clampX` puts a range whose ends are in order inside `[0, N]`, for a
buffer of fewer than `2^64` samples. -/
theorem within_clampX (v : Viewport) {r : AxisRange} (hN : v.sampleCount < 2 ^ 64)
    (hr : r.min ≤ r.max) : (v.clampX r).Within (Float.ofNat v.sampleCount) := by
  obtain ⟨F, hfull, hF0, hFle⟩ := exists_hasValue_ofNat hN
  have hFrep : Representable F := hfull.representable
  obtain ⟨σ, hs, hσ0, hσF, hσ⟩ := exists_hasValue_minNum_span hfull hF0 hr
  -- the bound on the start, `full - span`, at `η = rn (F - σ)`
  set η := roundNearest (F - σ) with hηdef
  have hhi : HasValue (Float.ofNat v.sampleCount - minNum r.span (Float.ofNat v.sampleCount)) η :=
    hasValue_sub_of_le hfull hs hFrep hσF (by linarith)
  have hη0 : 0 ≤ η := roundNearest_nonneg (by linarith)
  have hηF : η ≤ F := roundNearest_le_of_le hFrep (by linarith)
  -- the start, pinned between `0` and `η`
  obtain ⟨⟨pmin, hpmin⟩, -⟩ := exists_place_of_le hr
  have hlo := place_clamp hpmin (hasValue_iff_place.mp hasValue_zero) (hasValue_iff_place.mp hhi)
  obtain ⟨l, hl, hl0, hlη⟩ := exists_onLine_of_le
    (le_min (le_max_left _ _) (onLine_le_onLine.mpr hη0)) (min_le_right _ _)
  have hstart := hasValue_iff_place.mpr (hlo.trans (congrArg some hl))
  -- the end, `start + span`
  have hend := hasValue_add_of_nonneg hstart hs (representable_two_pow (k := 65) (by norm_num))
    hl0 hσ0 (by linarith)
  refine within_of_hasValue hstart hend hfull hl0 ?_ ?_
  · -- the end is not below the start
    exact le_roundNearest_of_le hstart.representable (by linarith)
  · -- the end is not past `F`
    by_cases hη : η = 0
    · obtain rfl : l = 0 := le_antisymm (hη ▸ hlη) hl0
      rw [zero_add, roundNearest_of_representable hs.representable]
      exact hσF
    refine roundNearest_add_le hFrep hstart.representable hlη fun hpinned => ?_
    -- a start pinned at `η > 0` comes from a range starting at or above `η`
    have hηpos : 0 < η := lt_of_le_of_ne hη0 (Ne.symm hη)
    have hge : onLine η ≤ pmin := le_of_clamp_eq hηpos (hl.trans (congrArg onLine hpinned))
    rcases hσ with hσF' | ⟨A, B, hA, hB, hσAB⟩
    · -- a span of `F` leaves no room: `η = rn 0 = 0`
      rw [hηdef, hσF', sub_self, roundNearest_of_representable representable_zero] at hη
      exact absurd rfl hη
    · have hpA : pmin = onLine A := Option.some.inj (hpmin.symm.trans (hasValue_iff_place.mp hA))
      rw [hpA, onLine_le_onLine] at hge
      exact roundNearest_sub_eq_of_le hFrep hA.representable hB.representable
        ((hA.le_iff hB).mp hr) hσAB hσF hηpos hge

/-! ## The horizontal operations -/

/-- The full range `[0, N]` lies inside itself, for any count. -/
theorem within_fullX (N : ℕ) : (fullX N).Within (Float.ofNat N) := by
  have hzero := hasValue_iff_place.mp hasValue_zero
  have h0 : (0 : Float) ≤ Float.ofNat N := by
    rw [le_iff_place hzero (place_ofNat N), ← roundLine_zero]
    exact roundLine_mono (Nat.cast_nonneg N)
  unfold fullX
  rw [ofEnds_of_le h0]
  exact ⟨(le_iff_place hzero hzero).mpr le_rfl, h0,
    (le_iff_place (place_ofNat N) (place_ofNat N)).mpr le_rfl⟩

/-- **Zooming.**  A positive factor, even an infinite one, hands `clampX` a range whose ends are in
order: the new span lies in `[0, F]`, and the centre minus and plus half of it are finite. -/
theorem within_zoomX {v : Viewport} {f : Float} (hN : v.sampleCount < 2 ^ 64)
    (hv : v.x.Within (Float.ofNat v.sampleCount)) (hf : 0 < f) :
    (v.zoomX f).x.Within (Float.ofNat v.sampleCount) := by
  obtain ⟨F, hfull, hF0, hFle⟩ := exists_hasValue_ofNat hN
  have hFrep : Representable F := hfull.representable
  have hzero := hasValue_iff_place.mp hasValue_zero
  obtain ⟨a, b, ha, hb, ha0, hab, hbF, hspan⟩ := hv.values hfull
  have hspan0 : 0 ≤ roundNearest (b - a) := roundNearest_nonneg (by linarith)
  -- the span over the factor lies at a point not below zero
  obtain ⟨-, ⟨pf, hpf⟩⟩ := exists_place_of_lt hf
  have hpf0 : onLine 0 < pf := (lt_iff_place hzero hpf).mp hf
  obtain ⟨pQ, hQ, hQ0⟩ : ∃ pQ, place (v.x.span / f) = some pQ ∧ onLine 0 ≤ pQ := by
    rcases place_cases hpf with ⟨φ, rfl, hφ⟩ | ⟨s, -, hφ⟩
    · have hφ0 : 0 < φ := onLine_lt_onLine.mp hpf0
      refine ⟨_, place_div hspan hφ hφ0.ne', ?_⟩
      rw [← roundLine_zero]
      exact roundLine_mono (div_nonneg hspan0 hφ0.le)
    · exact ⟨onLine 0, hasValue_iff_place.mp (hasValue_div_infinity hspan hφ), le_rfl⟩
  -- the clamped span `S` lies in `[0, F]`
  have hS := place_clamp hQ (place_minNum (hasValue_iff_place.mp hasValue_minXSpan)
    (hasValue_iff_place.mp hfull)) (hasValue_iff_place.mp hfull)
  obtain ⟨σ, hσ, hσ0, hσF⟩ := exists_onLine_of_le
    (le_min (hQ0.trans (le_max_right _ _)) (onLine_le_onLine.mpr hF0)) (min_le_right _ _)
  have hS' := hasValue_iff_place.mpr (hS.trans (congrArg some hσ))
  -- half of it, and the centre of the old range
  have hhalf := hasValue_of_abs_le (place_div hS'.abs hasValue_two two_ne_zero) hFrep
    (by rw [abs_div, abs_abs, abs_of_nonneg hσ0, abs_two]; linarith)
  have hsum := hasValue_add_of_nonneg ha hb (representable_two_pow (k := 65) (by norm_num)) ha0
    (by linarith) (by linarith)
  have hsum0 : 0 ≤ roundNearest (a + b) := roundNearest_nonneg (by linarith)
  have hsumle : roundNearest (a + b) ≤ 2 ^ 65 :=
    roundNearest_le_of_le (representable_two_pow (by norm_num)) (by linarith)
  have hcenter := hasValue_of_abs_le (place_div hsum hasValue_two two_ne_zero)
    (representable_two_pow (k := 65) (by norm_num))
    (by rw [abs_div, abs_two, abs_of_nonneg hsum0]; linarith)
  have hη0 : 0 ≤ roundNearest (|σ| / 2) := roundNearest_nonneg (by positivity)
  unfold zoomX
  rw [if_neg (not_le_of_lt hf)]
  apply within_clampX v hN
  -- the centre minus and plus half the span, both finite
  exact (le_iff_place (place_sub hcenter hhalf) (place_add hcenter hhalf)).mpr
    (roundLine_mono (by linarith))

/-- **Panning.**  A finite fraction hands `clampX` a range whose ends are in order: a finite
offset moves both ends alike, and one that overflows moves both to the same infinity. -/
theorem within_panX {v : Viewport} {d : Float} (hN : v.sampleCount < 2 ^ 64)
    (hv : v.x.Within (Float.ofNat v.sampleCount)) (hd : d.isFinite = true) :
    (v.panX d).x.Within (Float.ofNat v.sampleCount) := by
  obtain ⟨a, b, ha, hb, -, hab, -, hspan⟩ := hv.values (hasValue_ofNat_of_lt hN)
  unfold panX
  apply within_clampX v hN
  show v.x.min + v.x.span * d ≤ v.x.max + v.x.span * d
  rcases place_cases (place_mul hspan (hasValue_of_isFinite hd)) with ⟨o, -, hO⟩ | ⟨s, -, hO⟩
  · exact (le_iff_place (place_add ha hO) (place_add hb hO)).mpr (roundLine_mono (by linarith))
  · exact (le_iff_place (place_add_infinity ha hO).1 (place_add_infinity hb hO).1).mpr le_rfl

/-! ## The clamps never fail -/

/-- The bounds `clampX` pins a start between, `0` and `full - span`, are in order for every range
of a buffer of fewer than `2^64` samples: the span is at most the full width, or NaN and replaced
by it. -/
theorem clampX_bounds_ordered (v : Viewport) (r : AxisRange) (hN : v.sampleCount < 2 ^ 64) :
    (0 : Float) ≤ Float.ofNat v.sampleCount - minNum r.span (Float.ofNat v.sampleCount) := by
  have hfull := hasValue_ofNat_of_lt hN
  obtain ⟨p, hp, hp0⟩ :=
    sub_place_of_le_of_hasValue (minNum_le_right (x := r.span) (hasValue_iff_place.mp hfull)) hfull
  exact (le_iff_place (hasValue_iff_place.mp hasValue_zero) hp).mpr hp0

/-- The bounds `zoomX` pins a span between, `minNum 8 full` and `full`, are in order for every
number of samples. -/
theorem zoomX_bounds_ordered (v : Viewport) :
    minNum minXSpan (Float.ofNat v.sampleCount) ≤ Float.ofNat v.sampleCount :=
  minNum_le_right (place_ofNat _)

end Viewport

/-- An operation on the viewport, with its argument. -/
inductive ViewOp where
  | zoomX (factor : Float)
  | panX (fraction : Float)
  | resetX
  | zoomY (factor : Float)
  | setY (range : AxisRange)

namespace ViewOp

/-- Performs the operation. -/
def apply : ViewOp → Viewport → Viewport
  | zoomX f, v => v.zoomX f
  | panX d, v => v.panX d
  | resetX, v => v.resetX
  | zoomY f, v => v.zoomY f
  | setY r, v => v.setY r

/-- The arguments the bound holds for: a positive horizontal zoom factor and a finite pan
fraction; the other operations take any argument. -/
def Admissible : ViewOp → Prop
  | zoomX f => 0 < f
  | panX d => d.isFinite = true
  | _ => True

@[simp] lemma sampleCount_apply (op : ViewOp) (v : Viewport) :
    (op.apply v).sampleCount = v.sampleCount := by
  cases op with
  | zoomX f =>
    show (v.zoomX f).sampleCount = _
    unfold Viewport.zoomX
    split_ifs <;> rfl
  | zoomY f =>
    show (v.zoomY f).sampleCount = _
    unfold Viewport.zoomY
    split_ifs <;> rfl
  | _ => rfl

/-- **One operation.**  An admissible operation keeps the horizontal range inside the buffer. -/
theorem within_apply {op : ViewOp} {v : Viewport} (hN : v.sampleCount < 2 ^ 64)
    (hop : op.Admissible) (hv : v.x.Within (Float.ofNat v.sampleCount)) :
    (op.apply v).x.Within (Float.ofNat v.sampleCount) := by
  cases op with
  | zoomX f => exact Viewport.within_zoomX hN hv hop
  | panX d => exact Viewport.within_panX hN hv hop
  | resetX => exact Viewport.within_fullX _
  | zoomY f =>
    show (v.zoomY f).x.Within _
    unfold Viewport.zoomY
    split_ifs <;> exact hv
  | setY r => exact hv

end ViewOp

namespace Viewport

/-- The viewport after a list of operations, first to last. -/
def run (v : Viewport) (ops : List ViewOp) : Viewport :=
  ops.foldl (fun v op => op.apply v) v

@[simp] lemma run_nil (v : Viewport) : v.run [] = v := rfl

@[simp] lemma run_cons (v : Viewport) (op : ViewOp) (ops : List ViewOp) :
    v.run (op :: ops) = (op.apply v).run ops := rfl

@[simp] lemma sampleCount_run (v : Viewport) (ops : List ViewOp) :
    (v.run ops).sampleCount = v.sampleCount := by
  induction ops generalizing v with
  | nil => rfl
  | cons op ops ih => rw [run_cons, ih, ViewOp.sampleCount_apply]

/-- **A run.**  Admissible operations keep the horizontal range inside the buffer: each one does,
and none changes the number of samples. -/
theorem within_run {v : Viewport} (hN : v.sampleCount < 2 ^ 64)
    (hv : v.x.Within (Float.ofNat v.sampleCount)) {ops : List ViewOp}
    (hops : ∀ op ∈ ops, op.Admissible) :
    (v.run ops).x.Within (Float.ofNat v.sampleCount) := by
  induction ops generalizing v with
  | nil => exact hv
  | cons op ops ih =>
    have hstep := ViewOp.within_apply hN (hops op List.mem_cons_self) hv
    rw [← ViewOp.sampleCount_apply op v] at hN hstep ⊢
    exact ih hN hstep fun o ho => hops o (List.mem_cons_of_mem op ho)

/-- **The horizontal range stays inside the buffer.**  From `Viewport.new n y₀` with `n < 2^64`:
after any operations, with any arguments, the bounds of both clamps the viewport makes are in
order; and after operations whose horizontal zoom factors are positive and whose pan fractions
are finite, `0 ≤ x.min ≤ x.max ≤ max n 1` in binary64. -/
theorem viewport_x_within_buffer (n : ℕ) (y₀ : Float) (hn : n < 2 ^ 64) :
    (∀ (ops : List ViewOp) (r : AxisRange),
      let v := (new n y₀).run ops
      (0 : Float) ≤ Float.ofNat v.sampleCount - minNum r.span (Float.ofNat v.sampleCount) ∧
        minNum minXSpan (Float.ofNat v.sampleCount) ≤ Float.ofNat v.sampleCount) ∧
    ∀ ops : List ViewOp, (∀ op ∈ ops, op.Admissible) →
      let v := (new n y₀).run ops
      0 ≤ v.x.min ∧ v.x.min ≤ v.x.max ∧ v.x.max ≤ Float.ofNat (max n 1) := by
  have hN : (new n y₀).sampleCount < 2 ^ 64 := by
    show max n 1 < 2 ^ 64
    omega
  refine ⟨fun ops r => ?_, fun ops hops => ?_⟩
  · have hN' : ((new n y₀).run ops).sampleCount < 2 ^ 64 := by rwa [sampleCount_run]
    exact ⟨clampX_bounds_ordered _ r hN', zoomX_bounds_ordered _⟩
  · exact within_run hN (within_fullX (max n 1)) hops

theorem viewport_x_within_buffer_thousand :
    1000 < 2 ^ 64 ∧
      (∀ (ops : List ViewOp) (r : AxisRange),
        let v := (new 1000 defaultYMax).run ops
        (0 : Float) ≤ Float.ofNat v.sampleCount - minNum r.span (Float.ofNat v.sampleCount) ∧
          minNum minXSpan (Float.ofNat v.sampleCount) ≤ Float.ofNat v.sampleCount) ∧
      ∀ ops : List ViewOp, (∀ op ∈ ops, op.Admissible) →
        let v := (new 1000 defaultYMax).run ops
        0 ≤ v.x.min ∧ v.x.min ≤ v.x.max ∧ v.x.max ≤ Float.ofNat (max 1000 1) :=
  ⟨by norm_num, viewport_x_within_buffer 1000 defaultYMax (by norm_num)⟩

end Viewport

end WaveScope
