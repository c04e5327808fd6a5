import Mathlib
import WaveScope.Sample.Capture
import WaveScope.Proofs.Window

/-!
# Freezing loses nothing that the window would have kept

A capture and its window are driven by two calls: `route` a batch, and `toggle` between live and
frozen.  Live, a batch goes to the window; frozen, it waits in the backlog, which keeps only its
newest `limit` samples; unfreezing replays the backlog into the window in one batch.  This file
shows that, as long as the backlog keeps at least a window's worth, the window after a replay is
exactly the window that live capture would have shown.

* `Capture.route_cases` and `Capture.toggle_cases` say once what each call can do.
* `Capture.Tracks` is the invariant, relative to the history of all samples so far: live, the
  window shows its last `capacity` samples and nothing waits; frozen, the window shows the last
  `capacity` samples up to some point and the backlog the last `limit` samples after it.
* `CaptureCall.tracks_exec` keeps it over one call and `runCalls_tracks` over a run.
* `exists_last_entry` finds in any run the last step into a state property; with
  `runCalls_frozen_of_routes` it locates the last freeze.

**Main statement.**  `runCalls_follows_history`.
-/

namespace WaveScope

/-! ## The last step into a property -/

/-- **The last entry.**  If a run ends in a state with property `P` and starts in one
without, some step enters `P` and the run never leaves `P` after it. -/
theorem exists_last_entry {S α : Type} (f : S → α → S) (P : S → Prop) (s : S)
    (ops : List α) (h₀ : ¬ P s) (h : P (ops.foldl f s)) :
    ∃ pre op post, ops = pre ++ op :: post ∧ ¬ P (pre.foldl f s) ∧
      ∀ q, q <+: post → P ((pre ++ op :: q).foldl f s) := by
  induction ops using List.reverseRecOn with
  | nil => exact absurd h h₀
  | append_singleton ops x ih =>
    by_cases hp : P (ops.foldl f s)
    · -- already inside `P` before the last step: the entry is the one found for `ops`
      obtain ⟨pre, op, post, rfl, hpre, hpost⟩ := ih hp
      refine ⟨pre, op, post ++ [x], by simp, hpre, fun q hq => ?_⟩
      rcases List.prefix_concat_iff.mp hq with rfl | hq
      · simpa using h
      · exact hpost q hq
    · refine ⟨ops, x, [], rfl, hp, fun q hq => ?_⟩
      rw [List.prefix_nil.mp hq]
      exact h

/-! ## What one call does -/

lemma CaptureMode.eq_live_of_not_frozen {m : CaptureMode} (h : ¬ m = .frozen) : m = .live := by
  cases m
  · rfl
  · exact absurd rfl h

namespace Capture

variable (c : Capture) (w : SampleWindow) (batch : Array UInt32)

/-- A batch goes nowhere when empty, to the window when live, to the backlog when frozen. -/
theorem route_cases :
    (batch = #[] ∧ c.route w batch = (.empty, c, w)) ∨
    (batch ≠ #[] ∧ c.mode = .live ∧ c.route w batch = (.appended, c, w.append batch)) ∨
    (batch ≠ #[] ∧ c.mode = .frozen ∧
      c.route w batch =
        (.buffered (c.backlog.push batch).1, { c with backlog := (c.backlog.push batch).2 }, w)) := by
  by_cases hb : batch = #[]
  · exact .inl ⟨hb, by simp [route, hb]⟩
  · have hne : batch.isEmpty = false := by simpa using hb
    cases hm : c.mode with
    | live => exact .inr (.inl ⟨hb, rfl, by simp [route, hne, hm]⟩)
    | frozen => exact .inr (.inr ⟨hb, rfl, by simp [route, hne, hm]⟩)

/-- Freezing changes only the mode; unfreezing replays and empties the backlog. -/
theorem toggle_cases :
    (c.mode = .live ∧ c.toggle w = (.froze, { c with mode := .frozen }, w)) ∨
    (c.mode = .frozen ∧
      c.toggle w = (.resumed c.backlog.size, ⟨.live, c.backlog.drain.2⟩,
        w.append c.backlog.samples)) := by
  cases hm : c.mode with
  | live => exact .inl ⟨rfl, by simp [toggle, hm]⟩
  | frozen => exact .inr ⟨rfl, by simp [toggle, hm, Backlog.drain, Backlog.size]⟩

lemma limit_route : (c.route w batch).2.1.backlog.limit = c.backlog.limit := by
  rcases route_cases c w batch with ⟨-, h⟩ | ⟨-, -, h⟩ | ⟨-, -, h⟩ <;> simp [h]

lemma capacity_route : (c.route w batch).2.2.capacity = w.capacity := by
  rcases route_cases c w batch with ⟨-, h⟩ | ⟨-, -, h⟩ | ⟨-, -, h⟩ <;>
    simp [h, SampleWindow.size_append]

lemma mode_route : (c.route w batch).2.1.mode = c.mode := by
  rcases route_cases c w batch with ⟨-, h⟩ | ⟨-, -, h⟩ | ⟨-, -, h⟩ <;> simp [h]

lemma limit_toggle : (c.toggle w).2.1.backlog.limit = c.backlog.limit := by
  rcases toggle_cases c w with ⟨-, h⟩ | ⟨-, h⟩ <;> simp [h]

lemma capacity_toggle : (c.toggle w).2.2.capacity = w.capacity := by
  rcases toggle_cases c w with ⟨-, h⟩ | ⟨-, h⟩ <;> simp [h, SampleWindow.size_append]

/-! ## The invariant -/

/-- What a capture and its window hold, given the history `h` of every sample so far: the
window's first contents followed by every routed batch.  Live, the window shows the last
`capacity` samples of `h` and nothing waits.  Frozen, `h` splits into the part before the freeze,
whose last `capacity` samples the window still shows, and the part since, whose last `limit`
samples wait in the backlog. -/
def Tracks (c : Capture) (w : SampleWindow) (h : Array UInt32) : Prop :=
  match c.mode with
  | .live => w.values = keepLast w.capacity h ∧ c.backlog.samples = #[]
  | .frozen => ∃ h₀ r, h = h₀ ++ r ∧ w.values = keepLast w.capacity h₀ ∧
      c.backlog.samples = keepLast c.backlog.limit r

variable {c w batch} {h : Array UInt32}

/-- A tracking backlog never holds more than its limit. -/
lemma size_le_of_tracks (ht : c.Tracks w h) : c.backlog.samples.size ≤ c.backlog.limit := by
  unfold Tracks at ht
  split at ht
  · simp [ht.2]
  · obtain ⟨h₀, r, -, -, hq⟩ := ht
    rw [hq, size_keepLast]
    exact Nat.min_le_left _ _

/-- Routing a batch extends the history by it. -/
theorem tracks_route (ht : c.Tracks w h) :
    (c.route w batch).2.1.Tracks (c.route w batch).2.2 (h ++ batch) := by
  rcases route_cases c w batch with ⟨rfl, hr⟩ | ⟨-, hm, hr⟩ | ⟨hb, hm, hr⟩
  · simpa [hr] using ht
  · simp only [Tracks, hm] at ht
    obtain ⟨hw, hq⟩ := ht
    simp only [hr, Tracks, hm, SampleWindow.values_append, SampleWindow.size_append, hw, hq,
      and_true]
    exact keepLast_keepLast_append _ _ (by omega)
  · simp only [Tracks, hm] at ht
    obtain ⟨h₀, r, rfl, hw, hq⟩ := ht
    rw [hr]
    simp only [Tracks, hm]
    refine ⟨h₀, r ++ batch, by simp, hw, ?_⟩
    simp only [Backlog.samples_push, hq, Backlog.limit_push]
    rw [keepLast_keepLast_append _ _ (by omega)]

/-- Toggling keeps the history; the replay lands where live capture would have put it, because
the backlog kept at least a window's worth. -/
theorem tracks_toggle (hN : w.capacity ≤ c.backlog.limit) (ht : c.Tracks w h) :
    (c.toggle w).2.1.Tracks (c.toggle w).2.2 h := by
  rcases toggle_cases c w with ⟨hm, hr⟩ | ⟨hm, hr⟩
  · simp only [Tracks, hm] at ht
    obtain ⟨hw, hq⟩ := ht
    simp only [hr, Tracks]
    exact ⟨h, #[], by simp, hw, by simp [hq]⟩
  · simp only [Tracks, hm] at ht
    obtain ⟨h₀, r, rfl, hw, hq⟩ := ht
    simp only [hr, Tracks, SampleWindow.values_append, SampleWindow.size_append, Backlog.samples_drain,
      and_true, hw, hq]
    rw [keepLast_keepLast_append _ _ (by omega), keepLast_append_keepLast _ _ hN]

end Capture

/-! ## Runs of calls -/

/-- A call on a capture and its window. -/
inductive CaptureCall where
  | route (batch : Array UInt32)
  | toggle
deriving DecidableEq

namespace CaptureCall

/-- Makes the call, forgetting what it reports. -/
def exec : CaptureCall → Capture × SampleWindow → Capture × SampleWindow
  | .route batch, (c, w) => (c.route w batch).2
  | .toggle, (c, w) => (c.toggle w).2

/-- The batch a call routes. -/
def batch : CaptureCall → Array UInt32
  | .route b => b
  | .toggle => #[]

/-- Makes the calls in order. -/
def runCalls (st : Capture × SampleWindow) (calls : List CaptureCall) : Capture × SampleWindow :=
  calls.foldl (fun st k => k.exec st) st

/-- Every batch the calls route, in order. -/
def routed (calls : List CaptureCall) : Array UInt32 :=
  (calls.map batch).toArray.flatten

@[simp] lemma routed_nil : routed [] = #[] := rfl

@[simp] lemma routed_cons (k : CaptureCall) (ks : List CaptureCall) :
    routed (k :: ks) = k.batch ++ routed ks := by
  apply Array.ext'
  simp [routed]

@[simp] lemma runCalls_nil (st : Capture × SampleWindow) : runCalls st [] = st := rfl

@[simp] lemma runCalls_cons (st : Capture × SampleWindow) (k : CaptureCall)
    (ks : List CaptureCall) : runCalls st (k :: ks) = runCalls (k.exec st) ks := rfl

lemma runCalls_append (st : Capture × SampleWindow) (ks ks' : List CaptureCall) :
    runCalls st (ks ++ ks') = runCalls (runCalls st ks) ks' := by
  simp [runCalls, List.foldl_append]

lemma routed_append (ks ks' : List CaptureCall) : routed (ks ++ ks') = routed ks ++ routed ks' := by
  apply Array.ext'
  simp [routed]

variable {st : Capture × SampleWindow} {h : Array UInt32}

lemma capacity_exec (k : CaptureCall) : (k.exec st).2.capacity = st.2.capacity := by
  cases k <;> simp [exec, Capture.capacity_route, Capture.capacity_toggle]

lemma limit_exec (k : CaptureCall) :
    (k.exec st).1.backlog.limit = st.1.backlog.limit := by
  cases k <;> simp [exec, Capture.limit_route, Capture.limit_toggle]

theorem tracks_exec (k : CaptureCall) (hN : st.2.capacity ≤ st.1.backlog.limit)
    (ht : st.1.Tracks st.2 h) : (k.exec st).1.Tracks (k.exec st).2 (h ++ k.batch) := by
  cases k with
  | route b => exact Capture.tracks_route ht
  | toggle => simpa [exec, batch] using Capture.tracks_toggle hN ht

lemma mode_exec_route (b : Array UInt32) :
    ((CaptureCall.route b).exec st).1.mode = st.1.mode :=
  Capture.mode_route _ _ _

lemma mode_exec_toggle_of_frozen (h : st.1.mode = .frozen) :
    (CaptureCall.toggle.exec st).1.mode = .live := by
  rcases Capture.toggle_cases st.1 st.2 with ⟨hm, -⟩ | ⟨-, hr⟩
  · rw [h] at hm
    cases hm
  · simp [exec, hr]

/-- A call that freezes leaves the backlog as it was. -/
lemma backlog_exec_of_freeze (k : CaptureCall) (hl : st.1.mode = .live)
    (hf : (k.exec st).1.mode = .frozen) : (k.exec st).1.backlog = st.1.backlog := by
  cases k with
  | route b =>
    rw [mode_exec_route, hl] at hf
    cases hf
  | toggle =>
    rcases Capture.toggle_cases st.1 st.2 with ⟨-, hr⟩ | ⟨hm, -⟩
    · simp [exec, hr]
    · rw [hl] at hm
      cases hm

/-- **The invariant over a run.**  Every run keeps the capacity, the limit, and the tracking of
the history extended by what it routed. -/
theorem runCalls_tracks (calls : List CaptureCall) (hN : st.2.capacity ≤ st.1.backlog.limit)
    (ht : st.1.Tracks st.2 h) :
    (runCalls st calls).2.capacity = st.2.capacity ∧
      (runCalls st calls).1.backlog.limit = st.1.backlog.limit ∧
      (runCalls st calls).1.Tracks (runCalls st calls).2 (h ++ routed calls) := by
  induction calls generalizing st h with
  | nil => simpa using ht
  | cons k ks ih =>
    have hcap : (k.exec st).2.capacity = st.2.capacity := capacity_exec k
    have hlim : (k.exec st).1.backlog.limit = st.1.backlog.limit := limit_exec k
    obtain ⟨hc, hl, ht'⟩ := ih (by rw [hcap, hlim]; exact hN) (tracks_exec k hN ht)
    refine ⟨by rw [runCalls_cons, hc, hcap], by rw [runCalls_cons, hl, hlim], ?_⟩
    simpa [Array.append_assoc] using ht'

/-- **Frozen, routes only queue.**  Without a toggle, a frozen capture stays frozen, keeps its
window, and its backlog keeps the last `limit` samples of what it held followed by every routed
batch. -/
theorem runCalls_frozen_of_routes (calls : List CaptureCall) (hfz : st.1.mode = .frozen)
    (hB : st.1.backlog.samples.size ≤ st.1.backlog.limit) (hk : .toggle ∉ calls) :
    (runCalls st calls).2 = st.2 ∧ (runCalls st calls).1.mode = .frozen ∧
      (runCalls st calls).1.backlog.limit = st.1.backlog.limit ∧
      (runCalls st calls).1.backlog.samples =
        keepLast st.1.backlog.limit (st.1.backlog.samples ++ routed calls) := by
  induction calls generalizing st with
  | nil => exact ⟨rfl, hfz, rfl, by simpa using (keepLast_of_size_le hB).symm⟩
  | cons k ks ih =>
    cases k with
    | toggle => simp at hk
    | route b =>
      have hk' : CaptureCall.toggle ∉ ks := by simpa using hk
      rcases Capture.route_cases st.1 st.2 b with ⟨rfl, hr⟩ | ⟨-, hm, -⟩ | ⟨-, -, hr⟩
      · -- an empty batch changes nothing
        have hst : (CaptureCall.route #[]).exec st = st := by simp [exec, hr]
        simpa [hst, batch] using ih hfz hB hk'
      · rw [hfz] at hm
        cases hm
      · -- a batch goes to the backlog, which cuts it to its limit
        set st' : Capture × SampleWindow := ({ st.1 with backlog := (st.1.backlog.push b).2 }, st.2)
        have hst : (CaptureCall.route b).exec st = st' := by simp [exec, hr, st']
        have hfz' : st'.1.mode = .frozen := hfz
        have hlim' : st'.1.backlog.limit = st.1.backlog.limit := Backlog.limit_push _ _
        have hB' : st'.1.backlog.samples.size ≤ st'.1.backlog.limit := by
          rw [hlim']
          exact Backlog.size_push_le _ _
        obtain ⟨hw, hmode, hlim, hq⟩ := ih hfz' hB' hk'
        refine ⟨by rw [runCalls_cons, hst, hw], by rw [runCalls_cons, hst, hmode],
          by rw [runCalls_cons, hst, hlim, hlim'], ?_⟩
        rw [runCalls_cons, hst, hq]
        simp only [st', Backlog.limit_push, Backlog.samples_push, routed_cons, batch]
        rw [keepLast_keepLast_append _ _ (by omega), Array.append_assoc]

/-- **A run that stays frozen makes no toggle**: from a frozen capture a toggle resumes. -/
lemma toggle_not_mem_of_frozen (calls : List CaptureCall) (hfz : st.1.mode = .frozen)
    (hstay : ∀ q, q <+: calls → (runCalls st q).1.mode = .frozen) : .toggle ∉ calls := by
  induction calls generalizing st with
  | nil => simp
  | cons k ks ih =>
    have h₁ : (k.exec st).1.mode = .frozen := hstay [k] (by simp)
    have hk : k ≠ .toggle := by
      rintro rfl
      rw [mode_exec_toggle_of_frozen hfz] at h₁
      cases h₁
    have hrest := ih h₁ fun q hq => hstay (k :: q) (List.cons_prefix_cons.mpr ⟨rfl, hq⟩)
    simp [hk.symm, hrest]

/-! ## A backlog shorter than the window -/

/-- Freezing, routing one non-empty batch and resuming replays that batch cut to the limit. -/
lemma runCalls_freeze_route_resume (c : Capture) (w : SampleWindow) (b : Array UInt32)
    (hm : c.mode = .live) (hq : c.backlog.samples = #[]) (hb : b ≠ #[]) :
    (runCalls (c, w) [.toggle, .route b, .toggle]).1.mode = .live ∧
      (runCalls (c, w) [.toggle, .route b, .toggle]).2 = w.append (keepLast c.backlog.limit b) := by
  set c₁ : Capture := { c with mode := .frozen }
  have h₁ : CaptureCall.toggle.exec (c, w) = (c₁, w) := by
    rcases Capture.toggle_cases c w with ⟨-, hr⟩ | ⟨hm', -⟩
    · simp [exec, hr, c₁]
    · rw [hm] at hm'
      cases hm'
  have h₂ : (CaptureCall.route b).exec (c₁, w) =
      ({ c₁ with backlog := (c.backlog.push b).2 }, w) := by
    rcases Capture.route_cases c₁ w b with ⟨hb', -⟩ | ⟨-, hm', -⟩ | ⟨-, -, hr⟩
    · exact absurd hb' hb
    · cases hm'
    · simp [exec, hr, c₁]
  rcases Capture.toggle_cases { c₁ with backlog := (c.backlog.push b).2 } w with
    ⟨hm', -⟩ | ⟨-, hr⟩
  · cases hm'
  · rw [runCalls_cons, h₁, runCalls_cons, h₂, runCalls_cons, runCalls_nil]
    simp only [exec, hr]
    simp [Backlog.samples_push, hq]

/-- **A short backlog loses samples.**  Whenever the backlog keeps fewer samples than the window
shows, some run ends live with a window that live capture would not show: freeze, receive a
window's worth of a value other than the one the replay brings to the front, and resume. -/
theorem exists_lossy_run (c : Capture) (w : SampleWindow) (hm : c.mode = .live)
    (hq : c.backlog.samples = #[]) (hL : c.backlog.limit < w.capacity) :
    ∃ calls, (runCalls (c, w) calls).1.mode = .live ∧
      (runCalls (c, w) calls).2.values ≠ keepLast w.capacity (w.values ++ routed calls) := by
  have hLN : c.backlog.limit < w.values.size := hL
  set v := w.values[c.backlog.limit]
  set y : UInt32 := if v = 0 then 1 else 0 with hy
  have hyv : v ≠ y := by
    rw [hy]
    split <;> rename_i hv
    · rw [hv]
      decide
    · exact hv
  set b := Array.replicate w.capacity y
  have hb : b ≠ #[] := by
    simp [b]
    omega
  obtain ⟨hlive, hwin⟩ := runCalls_freeze_route_resume c w b hm hq hb
  refine ⟨[.toggle, .route b, .toggle], hlive, ?_⟩
  have hrouted : routed [.toggle, .route b, .toggle] = b := by simp [batch]
  rw [hwin, hrouted, keepLast_append_of_size_eq _ _ (by simp [b]), SampleWindow.values_append]
  intro heq
  -- the replay cut the batch to `limit` samples, so the window now starts at `v`, old
  have hidx : (w.values ++ keepLast c.backlog.limit b).size - w.capacity = c.backlog.limit := by
    simp only [Array.size_append, size_keepLast, b, Array.size_replicate, SampleWindow.capacity]
    omega
  have hmem : v ∈ (keepLast w.capacity (w.values ++ keepLast c.backlog.limit b)).toList := by
    rw [toList_keepLast, hidx, Array.toList_append, List.mem_iff_getElem?]
    refine ⟨0, ?_⟩
    rw [List.getElem?_drop, Nat.add_zero,
      List.getElem?_append_left (by rw [Array.length_toList]; exact hLN)]
    simp [v]
  rw [heq] at hmem
  simp [b] at hmem
  exact hyv hmem.2

end CaptureCall

/-! ## Replay equals live capture -/

open CaptureCall

/-- **Freezing is invisible once resumed.**  Start from a live capture with nothing waiting and
a backlog that keeps at least a window's worth, and make any calls.  Whenever the capture is
live, the window holds the last `capacity` samples of its first contents followed by every
batch routed so far, in either mode.  Whenever it is frozen, the last toggle froze it and the
window has not changed since.  A route reports `empty` exactly for an empty batch, `appended`
exactly when live, and `buffered` otherwise; a resume reports the backlog's length and empties
it.  The bound on the backlog is needed: with a shorter one, some run breaks the first part. -/
theorem runCalls_follows_history (c : Capture) (w : SampleWindow) (calls : List CaptureCall)
    (hN : w.capacity ≤ c.backlog.limit) (hlive : c.mode = .live)
    (hempty : c.backlog.samples = #[]) :
    ((runCalls (c, w) calls).1.mode = .live →
        (runCalls (c, w) calls).2.values = keepLast w.capacity (w.values ++ routed calls)) ∧
    ((runCalls (c, w) calls).1.mode = .frozen →
        ∃ pre post, calls = pre ++ .toggle :: post ∧ (runCalls (c, w) pre).1.mode = .live ∧
          .toggle ∉ post ∧ (runCalls (c, w) calls).2 = (runCalls (c, w) (pre ++ [.toggle])).2) ∧
    (∀ (c' : Capture) (w' : SampleWindow) (b : Array UInt32),
        (c'.route w' b).1 = if b = #[] then .empty else if c'.mode = .live then .appended
          else .buffered (c'.backlog.push b).1) ∧
    (∀ (c' : Capture) (w' : SampleWindow), c'.mode = .frozen →
        (c'.toggle w').1 = .resumed c'.backlog.size ∧ (c'.toggle w').2.1.backlog.size = 0) ∧
    (∀ (c' : Capture) (w' : SampleWindow), c'.mode = .live → c'.backlog.samples = #[] →
        c'.backlog.limit < w'.capacity →
        ∃ calls', (runCalls (c', w') calls').1.mode = .live ∧
          (runCalls (c', w') calls').2.values ≠
            keepLast w'.capacity (w'.values ++ routed calls')) := by
  have ht₀ : (c, w).1.Tracks (c, w).2 (#[] ++ w.values) := by
    simp [Capture.Tracks, hlive, hempty, SampleWindow.capacity]
  have hN' : (c, w).2.capacity ≤ (c, w).1.backlog.limit := hN
  obtain ⟨hcap, -, ht⟩ := runCalls_tracks calls hN' ht₀
  refine ⟨fun hm => ?_, fun hfz => ?_, fun c' w' b => ?_, fun c' w' hm => ?_,
    fun c' w' hm hq hL => exists_lossy_run c' w' hm hq hL⟩
  · simp only [Capture.Tracks, hm, hcap, Array.empty_append] at ht
    exact ht.1
  · obtain ⟨pre, op, post, rfl, hpre, hpost⟩ :=
      exists_last_entry (fun st (k : CaptureCall) => k.exec st) (fun st => st.1.mode = .frozen)
        (c, w) calls (by simp [hlive]) hfz
    have hpre' : (runCalls (c, w) pre).1.mode = .live := CaptureMode.eq_live_of_not_frozen hpre
    have hafter : ∀ q, q <+: post → (runCalls (c, w) (pre ++ op :: q)).1.mode = .frozen := hpost
    -- the call that froze the capture is a toggle: a route keeps the mode
    have hop : op = .toggle := by
      cases op with
      | toggle => rfl
      | route b =>
        have h := hafter [] List.nil_prefix
        rw [runCalls_append, runCalls_cons, runCalls_nil, mode_exec_route, hpre'] at h
        cases h
    subst hop
    -- and no toggle follows it: from a frozen capture a toggle resumes
    have hsplit : pre ++ .toggle :: post = (pre ++ [.toggle]) ++ post := by simp
    have hstay : ∀ q, q <+: post → (runCalls (runCalls (c, w) (pre ++ [.toggle])) q).1.mode =
        .frozen := by
      intro q hq
      rw [← runCalls_append, List.append_assoc, List.singleton_append]
      exact hafter q hq
    have hfz₁ := hstay [] List.nil_prefix
    have hno := toggle_not_mem_of_frozen post hfz₁ hstay
    refine ⟨pre, post, rfl, hpre', hno, ?_⟩
    rw [hsplit, runCalls_append]
    obtain ⟨-, -, ht'⟩ := runCalls_tracks (pre ++ [.toggle]) hN' ht₀
    exact (runCalls_frozen_of_routes post hfz₁ (Capture.size_le_of_tracks ht') hno).1
  · rcases Capture.route_cases c' w' b with ⟨rfl, hr⟩ | ⟨hb, hm, hr⟩ | ⟨hb, hm, hr⟩
    · simp [hr]
    · simp [hr, hb, hm]
    · simp [hr, hb, hm]
  · rcases Capture.toggle_cases c' w' with ⟨hm', -⟩ | ⟨-, hr⟩
    · rw [hm] at hm'
      cases hm'
    · simp [hr, Backlog.size]

/-- The statement at a window of four and the backlog a session gives it: freeze, receive six
samples, resume. -/
theorem runCalls_follows_history_four :
    (SampleWindow.zeros 4).capacity ≤ (Capture.forCapacity 4).backlog.limit ∧
      (Capture.forCapacity 4).mode = .live ∧ (Capture.forCapacity 4).backlog.samples = #[] ∧
      ((runCalls (Capture.forCapacity 4, SampleWindow.zeros 4)
          [.toggle, .route #[1, 2, 3, 4, 5, 6], .toggle]).1.mode = .live →
        (runCalls (Capture.forCapacity 4, SampleWindow.zeros 4)
          [.toggle, .route #[1, 2, 3, 4, 5, 6], .toggle]).2.values =
        keepLast (SampleWindow.zeros 4).capacity
          ((SampleWindow.zeros 4).values ++ routed [.toggle, .route #[1, 2, 3, 4, 5, 6], .toggle])) :=
  ⟨by decide, rfl, rfl, (runCalls_follows_history _ _ _ (by decide) rfl rfl).1⟩

end WaveScope
