import Mathlib
import WaveScope.View.Trace

/-!
# The trace keeps every column's extremes

The trace is drawn through the samples of the horizontal range.  With more than two samples per
dot column they are cut into consecutive groups, one per column at most, and each group is
replaced by a least and a greatest sample of its own, in position order.  This file shows that
the points are samples of the range in strictly increasing position, at most two per column, and
that no sample of the range lies below the lowest point or above the highest: peaks survive at
every zoom.

* `within_sorted` and `get?_of_mem_within`: the samples of a range come in strictly increasing
  position and carry the window's value at that position.
* `IsGrouping` says what cutting into consecutive groups is; `groups_isGrouping` and
  `length_groups_le` show `groups` does it, with no more groups than the length allows.
* `IsEnvelope` says what a group's points are; `extremes_isEnvelope` shows `extremes` gives
  them, from one step of the pass (`extremeStep_fst`, `extremeStep_snd`) carried over the group
  by `foldl_keeps_best`, and `flatten_envelopes` says what the points of all groups keep.

**Main statement.**  `waveform_keeps_extremes`.
-/

namespace WaveScope.View

variable {α : Type}

/-- The samples of the horizontal range, with their positions, in position order. -/
def visible (w : SampleWindow) (x : AxisRange) : List (Nat × UInt32) :=
  (w.within x.min x.max).toList

/-- `gs` cuts `xs` into consecutive groups of `per` elements, the last one possibly shorter. -/
def IsGrouping (per : Nat) (xs : List α) (gs : List (List α)) : Prop :=
  gs.flatten = xs ∧ (∀ g ∈ gs, 0 < g.length ∧ g.length ≤ per) ∧ ∀ g ∈ gs.dropLast, g.length = per

/-- `e` is a least and a greatest sample of the group `g`, in position order, once when they are
the same sample. -/
def IsEnvelope (g e : List (Nat × UInt32)) : Prop :=
  ∃ lo ∈ g, ∃ hi ∈ g, (∀ q ∈ g, lo.2 ≤ q.2) ∧ (∀ q ∈ g, q.2 ≤ hi.2) ∧
    e = if lo = hi then [lo] else if lo.1 < hi.1 then [lo, hi] else [hi, lo]

/-! ## The samples of a range -/

lemma zipIdx_sorted (l : List α) (k : Nat) : (l.zipIdx k).Pairwise (fun a b => a.2 < b.2) := by
  induction l generalizing k with
  | nil => simp
  | cons a l ih =>
    rw [List.zipIdx_cons, List.pairwise_cons]
    refine ⟨fun b hb => ?_, ih (k + 1)⟩
    have := (List.mem_zipIdx hb).1
    simp only
    omega

lemma toList_within (w : SampleWindow) (lo hi : Float) :
    (w.within lo hi).toList = (w.values.toList.zipIdx.filter fun p =>
      Float.ofNat p.2 ≥ lo && Float.ofNat p.2 ≤ hi).map fun p => (p.2, p.1) := by
  simp [SampleWindow.within, Array.toList_zipIdx]

/-- The samples of a range come in strictly increasing position. -/
lemma within_sorted (w : SampleWindow) (lo hi : Float) :
    (w.within lo hi).toList.Pairwise (fun p q => p.1 < q.1) := by
  rw [toList_within, List.pairwise_map]
  exact ((zipIdx_sorted _ 0).filter _)

/-- A sample of a range is the window's value at its position. -/
lemma get?_of_mem_within {w : SampleWindow} {lo hi : Float} {p : Nat × UInt32}
    (h : p ∈ (w.within lo hi).toList) : w.get? p.1 = some p.2 := by
  rw [toList_within] at h
  obtain ⟨⟨v, i⟩, hmem, rfl⟩ := List.mem_map.1 h
  have := List.mem_zipIdx_iff_getElem?.1 (List.mem_filter.1 hmem).1
  rwa [Array.getElem?_toList] at this

/-- Two samples of a sorted list at one position are the same sample. -/
lemma eq_of_fst_eq {g : List (Nat × UInt32)} (hg : g.Pairwise (fun p q => p.1 < q.1))
    {a b : Nat × UInt32} (ha : a ∈ g) (hb : b ∈ g) (h : a.1 = b.1) : a = b := by
  induction g with
  | nil => simp at ha
  | cons c g ih =>
    obtain ⟨hc, hg⟩ := List.pairwise_cons.1 hg
    -- the head lies strictly before every other element, so it shares its position with none
    rcases List.mem_cons.1 ha with ha | ha <;> rcases List.mem_cons.1 hb with hb | hb
    · rw [ha, hb]
    · have := hc b hb
      rw [← ha] at this
      omega
    · have := hc a ha
      rw [← hb] at this
      omega
    · exact ih hg ha hb

/-! ## Consecutive groups -/

lemma groups_cons {per : Nat} (hper : 0 < per) (x : α) (rest : List α) :
    groups per (x :: rest) = (x :: rest).take per :: groups per ((x :: rest).drop per) := by
  rw [groups, Nat.max_eq_left hper]

lemma groups_eq_nil_iff (per : Nat) (xs : List α) : groups per xs = [] ↔ xs = [] := by
  cases xs with
  | nil => simp [groups]
  | cons x rest => simp [groups]

/-- **`groups` cuts into consecutive groups.**  Each group but the last has `per` elements, and
the last has between one and `per`. -/
theorem groups_isGrouping {per : Nat} (hper : 0 < per) (xs : List α) :
    IsGrouping per xs (groups per xs) := by
  refine ⟨groups_join per xs, ?_, ?_⟩
  · fun_induction groups per xs with
    | case1 => simp
    | case2 x rest ih =>
      intro g hg
      rcases List.mem_cons.1 hg with rfl | hg
      · simp only [List.length_take, List.length_cons]
        omega
      · exact ih g hg
  · fun_induction groups per xs with
    | case1 => simp
    | case2 x rest ih =>
      intro g hg
      rw [Nat.max_eq_left hper] at hg ih
      by_cases hnil : (x :: rest).drop per = []
      · -- one group only: it is the last one, and nothing precedes it
        rw [(groups_eq_nil_iff per _).2 hnil] at hg
        simp at hg
      · -- more follows, so the first group is a full one
        have hlong : per < rest.length + 1 := by
          have := List.drop_eq_nil_iff.not.1 hnil
          simp only [List.length_cons] at this
          omega
        rw [List.dropLast_cons_of_ne_nil ((groups_eq_nil_iff per _).not.2 hnil)] at hg
        rcases List.mem_cons.1 hg with rfl | hg
        · simp only [List.length_take, List.length_cons]
          omega
        · exact ih g hg

/-- **No more groups than the length allows.**  If `xs` fits in `k` groups of `per`, it is cut
into at most `k`. -/
theorem length_groups_le {per : Nat} (hper : 0 < per) (xs : List α) {k : Nat}
    (h : xs.length ≤ per * k) : (groups per xs).length ≤ k := by
  fun_induction groups per xs generalizing k with
  | case1 => simp
  | case2 x rest ih =>
    rw [Nat.max_eq_left hper] at ih ⊢
    simp only [List.length_cons] at h ⊢
    -- the rest fits in one group fewer
    have hk : 0 < k := by
      rcases Nat.eq_zero_or_pos k with rfl | hk
      · simp at h
      · exact hk
    have := ih (k := k - 1) (by
      simp only [List.length_drop, List.length_cons, Nat.mul_sub_one]
      omega)
    omega

/-- Groups of the rounded-up share: at most `C` of them. -/
lemma length_groups_ceil_le {C : Nat} (hC : 0 < C) (xs : List α) (hxs : 0 < xs.length) :
    (groups ((xs.length + C - 1) / C) xs).length ≤ C := by
  have hceil := Nat.lt_div_mul_add (a := xs.length + C - 1) hC
  have hper : 0 < (xs.length + C - 1) / C := Nat.div_pos (by omega) hC
  exact length_groups_le hper xs (by omega)

/-! ## A group's extremes -/

section Envelope

variable {g e : List (Nat × UInt32)}

lemma IsEnvelope.subset (he : IsEnvelope g e) : ∀ p ∈ e, p ∈ g := by
  obtain ⟨lo, hlo, hi, hhi, -, -, rfl⟩ := he
  intro p hp
  -- every point is the least or the greatest sample
  have : p = lo ∨ p = hi := by split_ifs at hp <;> simp at hp <;> tauto
  rcases this with rfl | rfl
  · exact hlo
  · exact hhi

lemma IsEnvelope.length_le (he : IsEnvelope g e) : e.length ≤ 2 := by
  obtain ⟨lo, -, hi, -, -, -, rfl⟩ := he
  split_ifs <;> simp

lemma IsEnvelope.exists_le (he : IsEnvelope g e) : ∀ q ∈ g, ∃ p ∈ e, p.2 ≤ q.2 := by
  obtain ⟨lo, -, hi, -, hlo, -, rfl⟩ := he
  exact fun q hq => ⟨lo, by split_ifs <;> simp, hlo q hq⟩

lemma IsEnvelope.exists_ge (he : IsEnvelope g e) : ∀ q ∈ g, ∃ p ∈ e, q.2 ≤ p.2 := by
  obtain ⟨lo, -, hi, -, -, hhi, rfl⟩ := he
  refine fun q hq => ⟨hi, ?_, hhi q hq⟩
  split_ifs with h <;> simp [h]

/-- The points of a group of a sorted list are in strictly increasing position: two distinct
samples never share one. -/
lemma IsEnvelope.sorted (hg : g.Pairwise (fun p q => p.1 < q.1)) (he : IsEnvelope g e) :
    e.Pairwise (fun p q => p.1 < q.1) := by
  obtain ⟨lo, hlo, hi, hhi, -, -, rfl⟩ := he
  split_ifs with heq hlt
  · simp
  · simpa using hlt
  · have hne : lo.1 ≠ hi.1 := fun h => heq (eq_of_fst_eq hg hlo hhi h)
    simp only [List.pairwise_cons, List.mem_singleton, forall_eq, List.not_mem_nil,
      IsEmpty.forall_iff, implies_true, List.Pairwise.nil, and_true]
    omega

/-- A single sample is its own envelope. -/
lemma isEnvelope_singleton (p : Nat × UInt32) : IsEnvelope [p] [p] :=
  ⟨p, by simp, p, by simp, by simp, by simp, by simp⟩

end Envelope

/-- One step of the pass for the least and the greatest sample of a group: a strictly smaller
sample replaces the least, a strictly greater one the greatest. -/
def extremeStep (acc : (Nat × UInt32) × (Nat × UInt32)) (q : Nat × UInt32) :
    (Nat × UInt32) × (Nat × UInt32) :=
  (if q.2 < acc.1.2 then q else acc.1, if q.2 > acc.2.2 then q else acc.2)

lemma extremes_cons (p : Nat × UInt32) (rest : List (Nat × UInt32)) :
    extremes (p :: rest) =
      let lo := (rest.foldl extremeStep (p, p)).1
      let hi := (rest.foldl extremeStep (p, p)).2
      let ab := if lo.1 ≤ hi.1 then (lo, hi) else (hi, lo)
      if ab.1 == ab.2 then [ab.1] else [ab.1, ab.2] := rfl

/-- **A pass that keeps the better element.**  If each step picks the running choice or the new
element, and what it picks is related by `r` to both, then the pass ends with the start or an
element seen, related by `r` to the start and to every element seen. -/
lemma foldl_keeps_best {β : Type} (step : β → α → β) (pick : β → α) (r : α → α → Prop)
    (hrefl : ∀ a, r a a) (htrans : ∀ a b c, r a b → r b c → r a c)
    (hstep : ∀ acc y, (pick (step acc y) = pick acc ∨ pick (step acc y) = y) ∧
      r (pick (step acc y)) (pick acc) ∧ r (pick (step acc y)) y)
    (ys : List α) (acc : β) :
    (pick (ys.foldl step acc) = pick acc ∨ pick (ys.foldl step acc) ∈ ys) ∧
      r (pick (ys.foldl step acc)) (pick acc) ∧ ∀ q ∈ ys, r (pick (ys.foldl step acc)) q := by
  induction ys generalizing acc with
  | nil => simp [hrefl]
  | cons y ys ih =>
    obtain ⟨hmem, hle, hall⟩ := ih (step acc y)
    obtain ⟨hpick, hacc, hy⟩ := hstep acc y
    simp only [List.foldl_cons, List.mem_cons, forall_eq_or_imp]
    refine ⟨?_, htrans _ _ _ hle hacc, htrans _ _ _ hle hy, hall⟩
    -- the end is what this step picked, which was the start or `y`, or an element after `y`
    rcases hmem with h | h
    · rcases hpick with h' | h'
      · exact .inl (h.trans h')
      · exact .inr (.inl (h.trans h'))
    · exact .inr (.inr h)

/-- One step keeps the smaller of the running least sample and the new one. -/
lemma extremeStep_fst (acc : (Nat × UInt32) × (Nat × UInt32)) (y : Nat × UInt32) :
    ((extremeStep acc y).1 = acc.1 ∨ (extremeStep acc y).1 = y) ∧
      (extremeStep acc y).1.2 ≤ acc.1.2 ∧ (extremeStep acc y).1.2 ≤ y.2 := by
  rw [show (extremeStep acc y).1 = if y.2 < acc.1.2 then y else acc.1 from rfl]
  split
  · exact ⟨.inr rfl, UInt32.le_of_lt ‹_›, UInt32.le_refl _⟩
  · exact ⟨.inl rfl, UInt32.le_refl _, UInt32.not_lt.1 ‹_›⟩

/-- One step keeps the greater of the running greatest sample and the new one. -/
lemma extremeStep_snd (acc : (Nat × UInt32) × (Nat × UInt32)) (y : Nat × UInt32) :
    ((extremeStep acc y).2 = acc.2 ∨ (extremeStep acc y).2 = y) ∧
      acc.2.2 ≤ (extremeStep acc y).2.2 ∧ y.2 ≤ (extremeStep acc y).2.2 := by
  rw [show (extremeStep acc y).2 = if y.2 > acc.2.2 then y else acc.2 from rfl]
  split
  · exact ⟨.inr rfl, UInt32.le_of_lt ‹_›, UInt32.le_refl _⟩
  · exact ⟨.inl rfl, UInt32.le_refl _, UInt32.not_lt.1 ‹_›⟩

/-- The running least sample is the start or a sample seen, and bounds the start and every
sample seen from below. -/
lemma foldl_extremeStep_fst (ys : List (Nat × UInt32)) (acc : (Nat × UInt32) × (Nat × UInt32)) :
    ((ys.foldl extremeStep acc).1 = acc.1 ∨ (ys.foldl extremeStep acc).1 ∈ ys) ∧
      (ys.foldl extremeStep acc).1.2 ≤ acc.1.2 ∧ ∀ q ∈ ys, (ys.foldl extremeStep acc).1.2 ≤ q.2 :=
  foldl_keeps_best extremeStep Prod.fst (fun a b => a.2 ≤ b.2) (fun _ => UInt32.le_refl _)
    (fun _ _ _ => UInt32.le_trans) extremeStep_fst ys acc

/-- The running greatest sample is the start or a sample seen, and bounds the start and every
sample seen from above. -/
lemma foldl_extremeStep_snd (ys : List (Nat × UInt32)) (acc : (Nat × UInt32) × (Nat × UInt32)) :
    ((ys.foldl extremeStep acc).2 = acc.2 ∨ (ys.foldl extremeStep acc).2 ∈ ys) ∧
      acc.2.2 ≤ (ys.foldl extremeStep acc).2.2 ∧ ∀ q ∈ ys, q.2 ≤ (ys.foldl extremeStep acc).2.2 :=
  foldl_keeps_best extremeStep Prod.snd (fun a b => b.2 ≤ a.2) (fun _ => UInt32.le_refl _)
    (fun _ _ _ hab hbc => UInt32.le_trans hbc hab) extremeStep_snd ys acc

/-- **`extremes` gives a group's envelope.**  For a non-empty group in strictly increasing
position, its points are a least and a greatest sample in position order, once if they are
the same. -/
theorem extremes_isEnvelope {g : List (Nat × UInt32)} (hne : g ≠ [])
    (hg : g.Pairwise (fun p q => p.1 < q.1)) : IsEnvelope g (extremes g) := by
  obtain ⟨p, rest, rfl⟩ := List.exists_cons_of_ne_nil hne
  obtain ⟨hlo, hlo_le, hlo_all⟩ := foldl_extremeStep_fst rest (p, p)
  obtain ⟨hhi, hhi_ge, hhi_all⟩ := foldl_extremeStep_snd rest (p, p)
  rw [extremes_cons]
  dsimp only
  generalize (rest.foldl extremeStep (p, p)).1 = lo at *
  generalize (rest.foldl extremeStep (p, p)).2 = hi at *
  have hmlo : lo ∈ p :: rest := by rcases hlo with h | h <;> simp [h]
  have hmhi : hi ∈ p :: rest := by rcases hhi with h | h <;> simp [h]
  refine ⟨lo, hmlo, hi, hmhi, ?_, ?_, ?_⟩
  · simp only [List.mem_cons, forall_eq_or_imp]
    exact ⟨hlo_le, hlo_all⟩
  · simp only [List.mem_cons, forall_eq_or_imp]
    exact ⟨hhi_ge, hhi_all⟩
  · -- two extremes at one position are one sample, so the order test is strict
    by_cases heq : lo = hi
    · subst heq
      simp
    · have hne : lo.1 ≠ hi.1 := fun h => heq (eq_of_fst_eq hg hmlo hmhi h)
      by_cases hle : lo.1 ≤ hi.1
      · have hlt : lo.1 < hi.1 := by omega
        simp [hle, hlt, heq]
      · have hlt : ¬ lo.1 < hi.1 := by omega
        simp [hle, hlt, heq, Ne.symm heq]

/-! ## All groups together -/

/-- **What the envelopes of consecutive groups keep.**  If a sorted list is cut into groups and
each group replaced by its envelope, the points are samples of the list, in strictly increasing
position, at most two per group, and no sample lies below the lowest point or above the
highest. -/
theorem flatten_envelopes {gs : List (List (Nat × UInt32))} {es : List (List (Nat × UInt32))}
    (hs : gs.flatten.Pairwise (fun p q => p.1 < q.1)) (he : List.Forall₂ IsEnvelope gs es) :
    (∀ p ∈ es.flatten, p ∈ gs.flatten) ∧ es.flatten.Pairwise (fun p q => p.1 < q.1) ∧
      es.flatten.length ≤ 2 * gs.length ∧
      ∀ q ∈ gs.flatten, (∃ p ∈ es.flatten, p.2 ≤ q.2) ∧ (∃ p ∈ es.flatten, q.2 ≤ p.2) := by
  induction he with
  | nil => simp
  | @cons g e gs es hge _ ih =>
    simp only [List.flatten_cons, List.pairwise_append] at hs
    obtain ⟨hg, hrest, hcross⟩ := hs
    obtain ⟨ihmem, ihsorted, ihlen, ihext⟩ := ih hrest
    simp only [List.flatten_cons, List.mem_append, List.pairwise_append, List.length_append,
      List.length_cons]
    refine ⟨?_, ⟨hge.sorted hg, ihsorted, ?_⟩, ?_, ?_⟩
    · rintro p (hp | hp)
      · exact .inl (hge.subset p hp)
      · exact .inr (ihmem p hp)
    · -- a point of this group lies before every point of the later groups
      exact fun a ha b hb => hcross a (hge.subset a ha) b (ihmem b hb)
    · have := hge.length_le
      omega
    · rintro q (hq | hq)
      · obtain ⟨p, hp, hle⟩ := hge.exists_le q hq
        obtain ⟨p', hp', hge'⟩ := hge.exists_ge q hq
        exact ⟨⟨p, .inl hp, hle⟩, ⟨p', .inl hp', hge'⟩⟩
      · obtain ⟨⟨p, hp, hle⟩, ⟨p', hp', hge'⟩⟩ := ihext q hq
        exact ⟨⟨p, .inr hp, hle⟩, ⟨p', .inr hp', hge'⟩⟩

/-! ## The trace -/

/-- A range has no more samples than the window. -/
lemma length_visible_le (w : SampleWindow) (x : AxisRange) : (visible w x).length ≤ w.capacity := by
  rw [visible, toList_within, List.length_map]
  exact (List.length_filter_le _ _).trans (by simp [SampleWindow.capacity])

lemma groups_one (xs : List α) : groups 1 xs = xs.map fun p => [p] := by
  induction xs with
  | nil => simp [groups]
  | cons x rest ih => rw [groups_cons Nat.one_pos]; simp [ih]

/-- Groups of one sample are their own envelopes, so together they give back every sample. -/
lemma flatten_extremes_groups_one (xs : List (Nat × UInt32)) :
    ((groups 1 xs).map extremes).flatten = xs := by
  rw [groups_one]
  induction xs with
  | nil => rfl
  | cons p rest ih =>
    rw [List.map_cons, List.map_cons, List.flatten_cons, ih]
    simp [extremes_cons]

/-- The trace in two cases: the samples of the range themselves, or the envelopes of their
groups of the rounded-up share.  The code compares with `2 * C` as a machine word, which wraps
once `C` reaches `2^63`; for a window of fewer than `2^63` samples that changes nothing, since a
column count that large is at least the number of samples, so the groups hold one sample each
and give back every sample. -/
lemma waveform_eq (w : SampleWindow) (x : AxisRange) (columns : Nat) (hN : w.capacity < 2 ^ 63) :
    waveform w x columns =
      if (visible w x).length ≤ 2 * max columns 1 then visible w x
      else ((groups (((visible w x).length + max columns 1 - 1) / max columns 1)
        (visible w x)).map extremes).flatten := by
  have hv := length_visible_le w x
  simp only [visible] at hv
  simp only [waveform, visible, List.flatMap_def, Nat.mul_comm 2, Nat.pow_eq]
  by_cases hwrap : max columns 1 * 2 < 2 ^ 64
  · rw [Nat.mod_eq_of_lt hwrap]
  · -- the column count is at least `2^63`, past the number of samples
    have hC : (w.within x.min x.max).toList.length ≤ max columns 1 := by omega
    rw [if_pos (by omega : (w.within x.min x.max).toList.length ≤ max columns 1 * 2)]
    split
    · rfl
    · rename_i hmore
      have hper : ((w.within x.min x.max).toList.length + max columns 1 - 1) / max columns 1 = 1 := by
        have hpos : 0 < (w.within x.min x.max).toList.length := by omega
        rw [Nat.div_eq_iff (by omega)]
        omega
      rw [hper, flatten_extremes_groups_one]

/-- **The trace keeps every column's extremes.**  For every window, horizontal range and
number of dot columns `C = max columns 1`: the points of the trace are samples of the range, each
the window's value at its position, in strictly increasing position, at most `2 * C` of them,
and no sample of the range lies below the lowest point or above the highest.  With at most
`2 * C` samples in range they are all points; otherwise the samples are cut into consecutive
groups of `⌈v / C⌉`, at most `C` groups, and the points are, group by group, a least and a
greatest sample of the group in position order. -/
theorem waveform_keeps_extremes (w : SampleWindow) (x : AxisRange) (columns : Nat)
    (hN : w.capacity < 2 ^ 63) :
    let C := max columns 1
    let vis := visible w x
    let pts := waveform w x columns
    (∀ p ∈ pts, p ∈ vis ∧ w.get? p.1 = some p.2) ∧ pts.Pairwise (fun p q => p.1 < q.1) ∧
      pts.length ≤ 2 * C ∧ (∀ q ∈ vis, (∃ p ∈ pts, p.2 ≤ q.2) ∧ (∃ p ∈ pts, q.2 ≤ p.2)) ∧
      if vis.length ≤ 2 * C then pts = vis
      else ∃ gs es, IsGrouping ((vis.length + C - 1) / C) vis gs ∧ gs.length ≤ C ∧
        List.Forall₂ IsEnvelope gs es ∧ pts = es.flatten := by
  intro C vis pts
  have hC : 0 < C := by omega
  have hsorted : vis.Pairwise (fun p q => p.1 < q.1) := within_sorted w x.min x.max
  have hpts := waveform_eq w x columns hN
  by_cases hfew : vis.length ≤ 2 * C
  · -- few samples: each is a group of its own and its own envelope
    rw [if_pos hfew] at hpts
    have hgs : (vis.map fun p => [p]).flatten = vis := by
      rw [← List.flatMap_def, List.flatMap_singleton']
    have hes : List.Forall₂ IsEnvelope (vis.map fun p => [p]) (vis.map fun p => [p]) :=
      List.forall₂_same.2 fun g hg => by
        obtain ⟨p, -, rfl⟩ := List.mem_map.1 hg
        exact isEnvelope_singleton p
    obtain ⟨hmem, hsort, -, hext⟩ := flatten_envelopes (by rwa [hgs]) hes
    rw [hgs] at hmem hsort hext
    rw [if_pos hfew, show pts = vis from hpts]
    exact ⟨fun p hp => ⟨hmem p hp, get?_of_mem_within hp⟩, hsort, hfew, hext, rfl⟩
  · -- many samples: groups of the rounded-up share, each replaced by its envelope
    rw [if_neg hfew] at hpts
    set per := (vis.length + C - 1) / C
    have hper : 0 < per := Nat.div_pos (by omega) hC
    obtain ⟨hflat, hsizes, hfull⟩ := groups_isGrouping hper vis
    have hes : List.Forall₂ IsEnvelope (groups per vis) ((groups per vis).map extremes) := by
      refine List.forall₂_map_right_iff.2 (List.forall₂_same.2 fun g hg => ?_)
      have hne : g ≠ [] := List.ne_nil_of_length_pos (hsizes g hg).1
      have hgs : (groups per vis).flatten.Pairwise (fun p q => p.1 < q.1) := by rwa [hflat]
      exact extremes_isEnvelope hne ((List.pairwise_flatten.1 hgs).1 g hg)
    have hcount : (groups per vis).length ≤ C := length_groups_ceil_le hC vis (by omega)
    obtain ⟨hmem, hsort, hlen, hext⟩ := flatten_envelopes (by rwa [hflat]) hes
    rw [hflat] at hmem hext
    rw [if_neg hfew, show pts = ((groups per vis).map extremes).flatten from hpts]
    refine ⟨fun p hp => ⟨hmem p hp, get?_of_mem_within (hmem p hp)⟩, hsort, by omega, hext, ?_⟩
    exact ⟨groups per vis, _, ⟨hflat, hsizes, hfull⟩, hcount, hes, rfl⟩

/-- Six samples drawn on two columns: the groups of two give their envelopes. -/
theorem waveform_keeps_extremes_six :
    let w := SampleWindow.ofArray #[5, 1, 9, 4, 7, 2]
    let x : AxisRange := ⟨0, 5⟩
    let C := max 2 1
    let vis := visible w x
    let pts := waveform w x 2
    w.capacity < 2 ^ 63 ∧
    (∀ p ∈ pts, p ∈ vis ∧ w.get? p.1 = some p.2) ∧ pts.Pairwise (fun p q => p.1 < q.1) ∧
      pts.length ≤ 2 * C ∧ (∀ q ∈ vis, (∃ p ∈ pts, p.2 ≤ q.2) ∧ (∃ p ∈ pts, q.2 ≤ p.2)) ∧
      if vis.length ≤ 2 * C then pts = vis
      else ∃ gs es, IsGrouping ((vis.length + C - 1) / C) vis gs ∧ gs.length ≤ C ∧
        List.Forall₂ IsEnvelope gs es ∧ pts = es.flatten :=
  ⟨by decide, waveform_keeps_extremes _ _ 2 (by decide)⟩

end WaveScope.View
