import Mathlib
import WaveScope.Proofs.SessionRun

/-!
# Who moves the vertical scale

Few calls touch the vertical range of the view or the auto-scale switch.  The wheel zooms the
range about its centre, in either mode.  A batch that reaches the window while live, and a
resume that replays samples, fit the range to the window, when auto-scale is on and the range's
span has left the band around the target's span.  Nothing else moves the range.  Auto-scale is
switched off only by the wheel or a scale-adjusting button while live, and on only by its
action.

The fit compares spans only, never positions: a signal that moves without changing its spread
keeps the old range, and can leave it.

* `applyAutoScale_y`, `ingest_y` and `togglePause_y` say where each operation that can rescale
  puts the range; `tick_eq_ingest` says a tick moves the range as an ingest of its words does.
* `y_step` is the frame of the range over one call, and `autoScale_step_cases` that of the
  switch, from which `autoScale_step_off` and `autoScale_step_on` read who may turn it off or on.
* `y_run_of_still` carries the frame of the range over a run with no call that may move it.

**Main statements.**  `vertical_scale_frame`, and `rescale_after_append` with the run
`rescale_keeps_moved_signal_out` that leaves the signal outside the range.
-/

namespace WaveScope

namespace Viewport

variable (v : Viewport)

@[simp] lemma y_zoomX (f : Float) : (v.zoomX f).y = v.y := by
  unfold zoomX
  split <;> rfl

@[simp] lemma y_panX (f : Float) : (v.panX f).y = v.y := rfl

@[simp] lemma y_resetX : v.resetX.y = v.y := rfl

@[simp] lemma y_setY (r : AxisRange) : (v.setY r).y = r := rfl

/-- A zoom by a positive factor divides the span about the centre. -/
lemma y_zoomY {f : Float} (hf : ¬ f ≤ 0) :
    (v.zoomY f).y = AxisRange.centered v.y.center (v.y.span / f) := by
  simp [zoomY, hf]

end Viewport

namespace Session

variable {σ δ : Type} [Files.Disk δ] (s : Session σ δ)

/-! ## Where the operations that can rescale put the range -/

omit [Files.Disk δ] in
/-- Auto-scale puts the range on the window's target when it is on and the range's span has
left the band, and leaves it otherwise. -/
lemma applyAutoScale_y :
    s.applyAutoScale.viewport.y =
      if s.view.autoScale = true ∧
          AutoScale.needsRescale (AutoScale.target s.window).span s.viewport.y.span = true
      then AutoScale.target s.window else s.viewport.y := by
  unfold applyAutoScale
  cases ha : s.view.autoScale
  · simp
  · cases hn : AutoScale.needsRescale (AutoScale.target s.window).span s.viewport.y.span <;>
      simp [AutoScale.autoScale, hn]

omit [Files.Disk δ] in
/-- An ingest moves the range only when its batch reaches the window, that is when the batch is
non-empty and the capture live; then it fits the range to the window after the append. -/
lemma ingest_y (xs : Array UInt32) :
    (s.ingest xs).viewport.y =
      if s.capture.mode = .live ∧ xs ≠ #[] then
        if s.view.autoScale = true ∧ AutoScale.needsRescale
            (AutoScale.target (s.window.append xs)).span s.viewport.y.span = true
        then AutoScale.target (s.window.append xs) else s.viewport.y
      else s.viewport.y := by
  rcases Capture.route_cases s.capture s.window xs with ⟨rfl, hr⟩ | ⟨hb, hm, hr⟩ | ⟨hb, hm, hr⟩
  · simp [ingest, hr]
  · rw [if_pos ⟨hm, hb⟩]
    simp only [ingest, hr, beq_self_eq_true, if_true]
    exact applyAutoScale_y { s with capture := s.capture, window := s.window.append xs }
  · simp [ingest, hr, hm]

omit [Files.Disk δ] in
/-- A resume that replays samples fits the range to the window after the replay; every other
toggle leaves the range. -/
lemma togglePause_y :
    s.togglePause.viewport.y =
      if s.capture.mode = .frozen ∧ 0 < s.capture.backlog.size then
        if s.view.autoScale = true ∧ AutoScale.needsRescale
            (AutoScale.target (s.window.append s.capture.backlog.samples)).span
            s.viewport.y.span = true
        then AutoScale.target (s.window.append s.capture.backlog.samples) else s.viewport.y
      else s.viewport.y := by
  rcases Capture.toggle_cases s.capture s.window with ⟨hm, hr⟩ | ⟨hm, hr⟩
  · simp [togglePause, hr, hm]
  · by_cases hn : 0 < s.capture.backlog.size
    · rw [if_pos ⟨hm, hn⟩]
      simp only [togglePause, hr, Backlog.size] at hn ⊢
      simpa [hn] using applyAutoScale_y
        { s with capture := ⟨.live, s.capture.backlog.drain.2⟩,
                 window := s.window.append s.capture.backlog.samples,
                 view := { s.view with hover := none } }
    · rw [if_neg (fun h => hn h.2)]
      simp [togglePause, hr, Backlog.size] at hn ⊢
      simp [hn]

omit [Files.Disk δ] in
/-- An ingest neither reads nor writes the source and the assembler. -/
lemma ingest_with_source (src : σ) (a : WordAssembler) (xs : Array UInt32) :
    ({ s with source := src, assembler := a }).ingest xs =
      { s.ingest xs with source := src, assembler := a } := by
  rcases Capture.route_cases s.capture s.window xs with ⟨rfl, hr⟩ | ⟨-, -, hr⟩ | ⟨-, -, hr⟩
  · simp [ingest, hr]
  · -- the rescale reads the window, the view and the range only
    cases ha : s.view.autoScale <;>
      cases h : AutoScale.autoScale (s.window.append xs) s.viewport.y <;>
      simp [ingest, hr, applyAutoScale, ha, h]
  · simp [ingest, hr]

omit [Files.Disk δ] in
/-- An empty batch changes nothing. -/
@[simp] lemma ingest_empty : s.ingest #[] = s := by
  rcases Capture.route_cases s.capture s.window #[] with ⟨-, hr⟩ | ⟨hb, -⟩ | ⟨hb, -⟩
  · simp [ingest, hr]
  · exact absurd rfl hb
  · exact absurd rfl hb

omit [Files.Disk δ] in
lemma window_ingest_of_live {xs : Array UInt32} (hm : s.capture.mode = .live) (hb : xs ≠ #[]) :
    (s.ingest xs).window = s.window.append xs := by
  obtain ⟨v, hv⟩ := ingest_eq s xs
  rw [hv, Capture.route_live _ _ _ (by simpa using hb) hm]

omit [Files.Disk δ] in
lemma window_togglePause_of_frozen (hm : s.capture.mode = .frozen) :
    s.togglePause.window = s.window.append s.capture.backlog.samples := by
  obtain ⟨v, hv⟩ := togglePause_eq s
  rw [hv, Capture.toggle_frozen _ _ hm]

omit [Files.Disk δ] in
/-- An ingest either leaves the range or, its batch having reached the live window with
auto-scale on, fits the range to the window. -/
lemma ingest_y_cases (xs : Array UInt32) :
    (s.ingest xs).viewport.y = s.viewport.y ∨
      (s.view.autoScale = true ∧ (s.ingest xs).viewport.y = AutoScale.target (s.ingest xs).window ∧
        xs ≠ #[] ∧ s.capture.mode = .live) := by
  rw [ingest_y]
  by_cases hl : s.capture.mode = .live ∧ xs ≠ #[]
  · rw [if_pos hl]
    by_cases hr : s.view.autoScale = true ∧ AutoScale.needsRescale
        (AutoScale.target (s.window.append xs)).span s.viewport.y.span = true
    · -- the batch went to the window, so the target is that of the window after it
      rw [if_pos hr, window_ingest_of_live s hl.1 hl.2]
      exact .inr ⟨hr.1, rfl, hl.2, hl.1⟩
    · exact .inl (if_neg hr)
  · exact .inl (if_neg hl)

omit [Files.Disk δ] in
/-- A pause toggle either leaves the range or, resuming with samples to replay and auto-scale on,
fits the range to the window after the replay. -/
lemma togglePause_y_cases :
    s.togglePause.viewport.y = s.viewport.y ∨
      (s.view.autoScale = true ∧ s.togglePause.viewport.y = AutoScale.target s.togglePause.window ∧
        s.capture.mode = .frozen ∧ 0 < s.capture.backlog.size) := by
  rw [togglePause_y]
  by_cases hl : s.capture.mode = .frozen ∧ 0 < s.capture.backlog.size
  · rw [if_pos hl]
    by_cases hr : s.view.autoScale = true ∧ AutoScale.needsRescale
        (AutoScale.target (s.window.append s.capture.backlog.samples)).span s.viewport.y.span = true
    · -- the resume replayed the backlog, so the target is that of the window after it
      rw [if_pos hr, window_togglePause_of_frozen s hl.1]
      exact .inr ⟨hr.1, rfl, hl⟩
    · exact .inl (if_neg hr)
  · exact .inl (if_neg hl)

omit [Files.Disk δ] in
lemma togglePause_autoScale : s.togglePause.view.autoScale = s.view.autoScale := by
  obtain ⟨v, hv⟩ := togglePause_eq s
  rw [hv]

/-- Actions other than the pause toggle leave the range; of them, only enabling auto-scale
touches the switch, and it turns it on. -/
lemma handleAction_scale {a : Action} (now : Nat) (at_ : LocalTime) (ha : a ≠ .togglePause) :
    (s.handleAction a now at_).2.viewport.y = s.viewport.y ∧
      (s.handleAction a now at_).2.view.autoScale = (a == .enableAutoScale || s.view.autoScale) := by
  cases a with
  | togglePause => exact absurd rfl ha
  | snapshot =>
    obtain ⟨disk, notice, h⟩ := snapshot_eq s now at_
    simp [handleAction, Action.isXNavigation, h]
  | enableAutoScale | zoomInX | zoomOutX | panLeft | panRight | resetX | toggleFullscreen
    | toggleHelp | quit => simp [handleAction, Action.isXNavigation]

/-- An action leaves the switch, or is the one that turns auto-scale on. -/
lemma handleAction_autoScale (a : Action) (now : Nat) (at_ : LocalTime) :
    (s.handleAction a now at_).2.view.autoScale = s.view.autoScale ∨
      (a = .enableAutoScale ∧ (s.handleAction a now at_).2.view.autoScale = true) := by
  by_cases ht : a = .togglePause
  · subst ht
    exact .inl (by rw [handleAction_togglePause, togglePause_autoScale])
  · rw [(handleAction_scale s now at_ ht).2]
    by_cases he : a = .enableAutoScale
    · exact .inr ⟨he, by simp [he]⟩
    · exact .inl (by simp [he])

omit [Files.Disk δ] in
/-- Manual scaling turns auto-scale off only while live. -/
lemma disableAutoScaleIfLive_autoScale :
    s.disableAutoScaleIfLive.view.autoScale = (s.view.autoScale && s.capture.isFrozen) := by
  unfold disableAutoScaleIfLive
  cases ha : s.view.autoScale <;> cases hf : s.capture.isFrozen <;> simp [ha]

omit [Files.Disk δ] in
lemma disableAutoScaleIfLive_viewport : s.disableAutoScaleIfLive.viewport = s.viewport := by
  obtain ⟨b, hb⟩ := disableAutoScaleIfLive_eq s
  rw [hb]

/-- The range after a call to the wheel: a zoom about the centre by `1.25` up, by its inverse
down. -/
lemma wheel_y (d : WheelDirection) (now : Nat) (at_ : LocalTime) :
    (s.handleEvent (.wheel d) now at_).2.viewport.y =
      AxisRange.centered s.viewport.y.center
        (s.viewport.y.span / if d = .up then zoomStep else 1.0 / zoomStep) := by
  simp only [handleEvent, disableAutoScaleIfLive_viewport]
  cases d
  · exact Viewport.y_zoomY _ (by decide)
  · exact Viewport.y_zoomY _ (by decide)

variable [SampleSource σ]

/-- A wheel step zooms the range about its centre and, unless frozen, hands the scale over from
auto-scale. -/
lemma step_wheel (d : WheelDirection) (now : Nat) (at_ : LocalTime) :
    (s.step (.event (.wheel d) now at_)).viewport.y = AxisRange.centered s.viewport.y.center
        (s.viewport.y.span / if d = .up then zoomStep else 1.0 / zoomStep) ∧
      (s.step (.event (.wheel d) now at_)).view.autoScale =
        (s.view.autoScale && s.capture.isFrozen) :=
  ⟨wheel_y s d now at_, by simp [step, handleEvent, disableAutoScaleIfLive_autoScale]⟩

omit [Files.Disk δ] in
/-- **A tick is an ingest of its words.**  Besides ingesting the words its read completes, a
tick only moves the source, the assembler, the meter and the notice. -/
theorem tick_eq_ingest (now : Nat) :
    ∃ (source : σ) (assembler : WordAssembler) (meter : ThroughputMeter) (notice : Option Notice),
      s.tick now = { s.ingest (s.tickWords now) with source, assembler, meter, notice } := by
  rcases hr : SampleSource.receiveAt s.source now with ⟨_ | bytes, src⟩
  · have hw : s.tickWords now = #[] := by simp [tickWords, hr]
    rw [hw, ingest_empty]
    unfold tick
    rw [hr]
    simp only
    by_cases hc : (SampleSource.link src != LinkState.connected &&
        decide (s.assembler.pending.size > 0)) = true <;>
      simp only [hc, if_true, if_false, Bool.false_eq_true] <;> split <;> (try split) <;>
      exact ⟨_, _, _, _, rfl⟩
  · have hw : s.tickWords now = (s.assembler.feed bytes).1 := by simp [tickWords, hr]
    rw [hw]
    unfold tick
    rw [hr]
    simp only [ingest_with_source]
    by_cases hc : (SampleSource.link src != LinkState.connected &&
        decide ((s.assembler.feed bytes).2.pending.size > 0)) = true <;>
      simp only [hc, if_true, if_false, Bool.false_eq_true] <;> split <;> (try split) <;>
      exact ⟨_, _, _, _, rfl⟩

/-- A call whose capture call is a toggle is the pause toggle, made by the action or by a key
bound to it. -/
lemma step_of_toggle {op : SessionOp} (h : s.calls op = [.toggle]) : s.step op = s.togglePause := by
  cases op with
  | event e now at_ =>
    cases e with
    | key k =>
      have hk : s.bindings.get k = some .togglePause := by
        by_contra hne
        simp [calls, hne] at h
      simp [step, handleEvent, hk, handleAction_togglePause]
    | _ => simp [calls] at h
  | action a now at_ =>
    have ha : a = .togglePause := by
      by_contra hne
      simp [calls, hne] at h
    subst ha
    exact handleAction_togglePause s now at_
  | tick | ingest | snapshot | close => simp [calls] at h

/-- A call whose capture call routes a batch moves the range and the window as an ingest of that
batch does. -/
lemma step_of_route {op : SessionOp} {b : Array UInt32} (h : s.calls op = [.route b]) :
    (s.step op).viewport = (s.ingest b).viewport ∧ (s.step op).window = (s.ingest b).window := by
  cases op with
  | tick now =>
    simp only [calls, List.cons.injEq, CaptureCall.route.injEq, and_true] at h
    subst h
    obtain ⟨source, assembler, meter, notice, ht⟩ := tick_eq_ingest s now
    simp [step, ht]
  | ingest xs =>
    simp only [calls, List.cons.injEq, CaptureCall.route.injEq, and_true] at h
    subst h
    exact ⟨rfl, rfl⟩
  | event e now at_ =>
    cases e with
    | key k =>
      simp only [calls] at h
      split at h <;> simp at h
    | _ => simp [calls] at h
  | action a now at_ =>
    simp only [calls] at h
    split at h <;> simp at h
  | snapshot | close => simp [calls] at h

/-- The rescaling calls: a batch reaches the live window, or a resume has samples to replay. -/
def Rescales (s : Session σ δ) (op : SessionOp) : Prop :=
  (∃ b, s.calls op = [.route b] ∧ b ≠ #[] ∧ s.capture.mode = .live) ∨
    (s.calls op = [.toggle] ∧ s.capture.mode = .frozen ∧ 0 < s.capture.backlog.size)

/-- A call that routes a batch leaves the range, or fits it after the batch reached the live
window. -/
lemma y_of_route (op : SessionOp) {b : Array UInt32} (hc : s.calls op = [.route b]) :
    (s.step op).viewport.y = s.viewport.y ∨
      (s.view.autoScale = true ∧ (s.step op).viewport.y = AutoScale.target (s.step op).window ∧
        s.Rescales op) := by
  obtain ⟨hv, hw⟩ := step_of_route s hc
  rw [hv, hw]
  rcases ingest_y_cases s b with h | ⟨ha, h, hb, hm⟩
  · exact .inl h
  · exact .inr ⟨ha, h, .inl ⟨b, hc, hb, hm⟩⟩

/-- A call that toggles leaves the range, or fits it after a resume that replayed samples. -/
lemma y_of_toggle (op : SessionOp) (hc : s.calls op = [.toggle]) :
    (s.step op).viewport.y = s.viewport.y ∨
      (s.view.autoScale = true ∧ (s.step op).viewport.y = AutoScale.target (s.step op).window ∧
        s.Rescales op) := by
  rw [step_of_toggle s hc]
  rcases togglePause_y_cases s with h | ⟨ha, h, hm, hn⟩
  · exact .inl h
  · exact .inr ⟨ha, h, .inr ⟨hc, hm, hn⟩⟩

/-- **The frame of the range over one call.**  A call leaves the vertical range, or is a wheel
step and zooms it about its centre, or has auto-scale on and fits the range to the window after
a batch reached the live window or a resume replayed samples. -/
theorem y_step (op : SessionOp) :
    (s.step op).viewport.y = s.viewport.y ∨
      (∃ d now at_, op = .event (.wheel d) now at_ ∧
        (s.step op).viewport.y = AxisRange.centered s.viewport.y.center
          (s.viewport.y.span / if d = .up then zoomStep else 1.0 / zoomStep)) ∨
      (s.view.autoScale = true ∧ (s.step op).viewport.y = AutoScale.target (s.step op).window ∧
        s.Rescales op) := by
  cases op with
  | tick now => exact (y_of_route s (.tick now) rfl).imp_right .inr
  | ingest xs => exact (y_of_route s (.ingest xs) rfl).imp_right .inr
  | event e now at_ =>
    cases e with
    | wheel d => exact .inr (.inl ⟨d, now, at_, rfl, (step_wheel s d now at_).1⟩)
    | button b =>
      refine .inl ?_
      by_cases hb : b.adjustsScale = true <;>
        simp [step, handleEvent, hb, disableAutoScaleIfLive_viewport]
    | key k =>
      cases hk : s.bindings.get k with
      | none => exact .inl (by simp [step, handleEvent, hk])
      | some a =>
        by_cases ha : a = .togglePause
        · subst ha
          exact (y_of_toggle s (.event (.key k) now at_) (by simp [calls, hk])).imp_right .inr
        · exact .inl (by simpa [step, handleEvent, hk] using (handleAction_scale s now at_ ha).1)
    | pointerMoved x y => exact .inl rfl
    | pointerLeft => exact .inl rfl
    | resized w h => exact .inl rfl
  | action a now at_ =>
    by_cases ha : a = .togglePause
    · subst ha
      exact (y_of_toggle s (.action .togglePause now at_) (by simp [calls])).imp_right .inr
    · exact .inl (handleAction_scale s now at_ ha).1
  | snapshot now at_ =>
    obtain ⟨disk, notice, h⟩ := snapshot_eq s now at_
    exact .inl (by simp [step, h])
  | close => exact .inl rfl

/-- **The frame of the switch over one call.**  A call leaves auto-scale's switch, or is a wheel
step or a scale-adjusting button and turns it off unless frozen, or runs auto-scale's action,
directly or by a key bound to it, and turns it on. -/
theorem autoScale_step_cases (op : SessionOp) :
    (s.step op).view.autoScale = s.view.autoScale ∨
      (((∃ d now at_, op = .event (.wheel d) now at_) ∨
          ∃ b now at_, op = .event (.button b) now at_ ∧ b.adjustsScale = true) ∧
        (s.step op).view.autoScale = (s.view.autoScale && s.capture.isFrozen)) ∨
      (((∃ now at_, op = .action .enableAutoScale now at_) ∨
          ∃ k now at_, op = .event (.key k) now at_ ∧ s.bindings.get k = some .enableAutoScale) ∧
        (s.step op).view.autoScale = true) := by
  cases op with
  | tick now =>
    obtain ⟨source, assembler, meter, notice, h⟩ := tick_eq_ingest s now
    obtain ⟨v, hv⟩ := ingest_eq s (s.tickWords now)
    exact .inl (by simp [step, h, hv])
  | ingest xs =>
    obtain ⟨v, hv⟩ := ingest_eq s xs
    exact .inl (by simp [step, hv])
  | event e now at_ =>
    cases e with
    | wheel d => exact .inr (.inl ⟨.inl ⟨d, now, at_, rfl⟩, (step_wheel s d now at_).2⟩)
    | button b =>
      by_cases hb : b.adjustsScale = true
      · exact .inr (.inl ⟨.inr ⟨b, now, at_, rfl, hb⟩,
          by simp [step, handleEvent, hb, disableAutoScaleIfLive_autoScale]⟩)
      · exact .inl (by simp [step, handleEvent, hb])
    | key k =>
      cases hk : s.bindings.get k with
      | none => exact .inl (by simp [step, handleEvent, hk])
      | some a =>
        -- a bound key runs its action
        have hkey : (s.step (.event (.key k) now at_)).view.autoScale =
            (s.handleAction a now at_).2.view.autoScale := by
          simp [step, handleEvent, hk]
        rw [hkey]
        rcases handleAction_autoScale s a now at_ with h | ⟨rfl, h⟩
        · exact .inl h
        · exact .inr (.inr ⟨.inr ⟨k, now, at_, rfl, hk⟩, h⟩)
    | pointerMoved x y => exact .inl (by simp [step, handleEvent])
    | pointerLeft => exact .inl (by simp [step, handleEvent])
    | resized w h => exact .inl (by simp [step, handleEvent])
  | action a now at_ =>
    rcases handleAction_autoScale s a now at_ with h | ⟨rfl, h⟩
    · exact .inl h
    · exact .inr (.inr ⟨.inl ⟨now, at_, rfl⟩, h⟩)
  | snapshot now at_ =>
    obtain ⟨disk, notice, h⟩ := snapshot_eq s now at_
    exact .inl (by simp [step, h])
  | close => exact .inl (by simp [step, close])

/-- **Auto-scale is switched off only by hand, and only while live.** -/
theorem autoScale_step_off (op : SessionOp) (hon : s.view.autoScale = true)
    (hoff : (s.step op).view.autoScale = false) :
    s.capture.mode = .live ∧
      ((∃ d now at_, op = .event (.wheel d) now at_) ∨
        ∃ b now at_, op = .event (.button b) now at_ ∧ b.adjustsScale = true) := by
  rcases autoScale_step_cases s op with h | ⟨hby, h⟩ | ⟨-, h⟩
  · rw [hoff, hon] at h
    cases h
  · -- by hand the switch goes off exactly when the capture is not frozen
    rw [hoff, hon, Bool.true_and] at h
    refine ⟨?_, hby⟩
    cases hm : s.capture.mode <;> simp_all [Capture.isFrozen]
  · rw [hoff] at h
    cases h

/-- **Auto-scale is switched on only by its action**, run directly or by a key bound to it. -/
theorem autoScale_step_on (op : SessionOp) (hoff : s.view.autoScale = false)
    (hon : (s.step op).view.autoScale = true) :
    (∃ now at_, op = .action .enableAutoScale now at_) ∨
      ∃ k now at_, op = .event (.key k) now at_ ∧ s.bindings.get k = some .enableAutoScale := by
  rcases autoScale_step_cases s op with h | ⟨-, h⟩ | ⟨hby, -⟩
  · rw [hon, hoff] at h
    cases h
  · rw [hon, hoff, Bool.false_and] at h
    cases h
  · exact hby

/-! ## Over a run -/

/-- The calls that may move the range: a wheel step, or a rescaling call with auto-scale on. -/
def MovesY (s : Session σ δ) (op : SessionOp) : Prop :=
  (∃ d now at_, op = .event (.wheel d) now at_) ∨ (s.view.autoScale = true ∧ s.Rescales op)

lemma y_step_of_not_movesY {op : SessionOp} (h : ¬ s.MovesY op) :
    (s.step op).viewport.y = s.viewport.y := by
  rcases y_step s op with hy | ⟨d, now, at_, rfl, -⟩ | ⟨ha, -, hr⟩
  · exact hy
  · exact absurd (.inl ⟨d, now, at_, rfl⟩) h
  · exact absurd (.inr ⟨ha, hr⟩) h

/-- Over a run none of whose calls may move the range, the range stays. -/
theorem y_run_of_still (ops : List SessionOp)
    (hstill : ∀ pre op post, ops = pre ++ op :: post → ¬ (s.run pre).MovesY op) :
    (s.run ops).viewport.y = s.viewport.y := by
  induction ops generalizing s with
  | nil => rfl
  | cons op ops ih =>
    -- the first call keeps the range, and the rest of the run starts where it left off
    have hfirst : (s.step op).viewport.y = s.viewport.y :=
      y_step_of_not_movesY s (hstill [] op ops rfl)
    have hrest : ((s.step op).run ops).viewport.y = (s.step op).viewport.y :=
      ih (s.step op) fun pre op' post h => by
        simpa using hstill (op :: pre) op' post (by rw [h, List.cons_append])
    rw [run_cons, hrest, hfirst]

/-! ## The contract of auto-scale -/

/-- **Auto-scale compares spans only.**  After a batch reaches the live window, or a resume
replays samples, with auto-scale on, the range is the window's target when the target's span has
left the band around the range's span, and otherwise stays where it was, wherever the samples
now lie. -/
theorem rescale_after_append (s : Session σ δ) (op : SessionOp) (hon : s.view.autoScale = true)
    (happ : s.Rescales op) :
    (s.step op).viewport.y =
      if AutoScale.needsRescale (AutoScale.target (s.step op).window).span s.viewport.y.span then
        AutoScale.target (s.step op).window
      else s.viewport.y := by
  rcases happ with ⟨b, hc, hb, hm⟩ | ⟨hc, hm, hn⟩
  · obtain ⟨hv, hw⟩ := step_of_route s hc
    rw [hv, hw, ingest_y, if_pos ⟨hm, hb⟩, window_ingest_of_live s hm hb]
    simp [hon]
  · rw [step_of_toggle s hc, togglePause_y, if_pos ⟨hm, hn⟩, window_togglePause_of_frozen s hm]
    simp [hon]

/-- A first batch on a fresh live session with auto-scale on falls under the contract. -/
theorem rescale_after_append_first :
    (Session.new ({} : Replay) ⟨4, 16384.0, true, "."⟩ 0 Files.Tree.empty).view.autoScale =
        true ∧
      (Session.new ({} : Replay) ⟨4, 16384.0, true, "."⟩ 0 Files.Tree.empty).Rescales
        (.ingest #[1000, 1000, 1000, 1000]) ∧
      ((Session.new ({} : Replay) ⟨4, 16384.0, true, "."⟩ 0 Files.Tree.empty).step
          (.ingest #[1000, 1000, 1000, 1000])).viewport.y =
        if AutoScale.needsRescale (AutoScale.target ((Session.new ({} : Replay)
            ⟨4, 16384.0, true, "."⟩ 0 Files.Tree.empty).step
              (.ingest #[1000, 1000, 1000, 1000])).window).span
            (Session.new ({} : Replay) ⟨4, 16384.0, true, "."⟩ 0 Files.Tree.empty).viewport.y.span
        then AutoScale.target ((Session.new ({} : Replay) ⟨4, 16384.0, true, "."⟩ 0
          Files.Tree.empty).step (.ingest #[1000, 1000, 1000, 1000])).window
        else (Session.new ({} : Replay) ⟨4, 16384.0, true, "."⟩ 0 Files.Tree.empty).viewport.y := by
  have hon : (Session.new ({} : Replay) ⟨4, 16384.0, true, "."⟩ 0 Files.Tree.empty).view.autoScale =
      true := rfl
  have happ : (Session.new ({} : Replay) ⟨4, 16384.0, true, "."⟩ 0 Files.Tree.empty).Rescales
      (.ingest #[1000, 1000, 1000, 1000]) := .inl ⟨_, rfl, by decide, rfl⟩
  exact ⟨hon, happ, rescale_after_append _ _ hon happ⟩

/-- A flat signal that jumps from `1000` to `5000` keeps its spread, so the range fitted to the
first level stays and the samples, all at `5000`, lie outside it. -/
theorem rescale_keeps_moved_signal_out :
    ((Session.new ({} : Replay) ⟨4, 16384.0, true, "."⟩ 0 Files.Tree.empty).run
        [.ingest #[1000, 1000, 1000, 1000]]).view.autoScale = true ∧
      ((Session.new ({} : Replay) ⟨4, 16384.0, true, "."⟩ 0 Files.Tree.empty).run
        [.ingest #[1000, 1000, 1000, 1000]]).Rescales (.ingest #[5000, 5000, 5000, 5000]) ∧
      ((Session.new ({} : Replay) ⟨4, 16384.0, true, "."⟩ 0 Files.Tree.empty).run
        [.ingest #[1000, 1000, 1000, 1000], .ingest #[5000, 5000, 5000, 5000]]).window.values =
        #[5000, 5000, 5000, 5000] ∧
      ((Session.new ({} : Replay) ⟨4, 16384.0, true, "."⟩ 0 Files.Tree.empty).run
        [.ingest #[1000, 1000, 1000, 1000], .ingest #[5000, 5000, 5000, 5000]]).viewport.y.contains
        5000.0 = false :=
  ⟨by decide +kernel, .inl ⟨_, rfl, by decide +kernel, by decide +kernel⟩, by decide +kernel,
    by decide +kernel⟩

/-! ## The frame of the vertical scale -/

/-- **The frame of the vertical scale over a run.**  At every call of a run the range stays, or
the call is a wheel step zooming it about its centre, or auto-scale is on and the call fitted the
range to the window after a batch reached the live window or a resume replayed samples.  A wheel
step always zooms by `1.25` and, unless frozen, switches auto-scale off.  The switch goes off
only by the wheel or a scale-adjusting button while live, and on only by its action.  A run with
no call that may move the range keeps it. -/
theorem vertical_scale_frame (s : Session σ δ) (ops : List SessionOp) :
    (∀ pre op post, ops = pre ++ op :: post →
      ((s.run pre).step op).viewport.y = (s.run pre).viewport.y ∨
        (∃ d now at_, op = .event (.wheel d) now at_ ∧
          ((s.run pre).step op).viewport.y = AxisRange.centered (s.run pre).viewport.y.center
            ((s.run pre).viewport.y.span / if d = .up then zoomStep else 1.0 / zoomStep)) ∨
        ((s.run pre).view.autoScale = true ∧
          ((s.run pre).step op).viewport.y = AutoScale.target ((s.run pre).step op).window ∧
          (s.run pre).Rescales op)) ∧
    (∀ pre d now at_ post, ops = pre ++ .event (.wheel d) now at_ :: post →
      ((s.run pre).step (.event (.wheel d) now at_)).viewport.y =
          AxisRange.centered (s.run pre).viewport.y.center
            ((s.run pre).viewport.y.span / if d = .up then zoomStep else 1.0 / zoomStep) ∧
        ((s.run pre).step (.event (.wheel d) now at_)).view.autoScale =
          ((s.run pre).view.autoScale && (s.run pre).capture.isFrozen)) ∧
    (∀ pre op post, ops = pre ++ op :: post → (s.run pre).view.autoScale = true →
      ((s.run pre).step op).view.autoScale = false →
      (s.run pre).capture.mode = .live ∧
        ((∃ d now at_, op = .event (.wheel d) now at_) ∨
          ∃ b now at_, op = .event (.button b) now at_ ∧ b.adjustsScale = true)) ∧
    (∀ pre op post, ops = pre ++ op :: post → (s.run pre).view.autoScale = false →
      ((s.run pre).step op).view.autoScale = true →
      (∃ now at_, op = .action .enableAutoScale now at_) ∨
        ∃ k now at_, op = .event (.key k) now at_ ∧
          (s.run pre).bindings.get k = some .enableAutoScale) ∧
    ((∀ pre op post, ops = pre ++ op :: post → ¬ (s.run pre).MovesY op) →
      (s.run ops).viewport.y = s.viewport.y) :=
  ⟨fun pre op _ _ => y_step (s.run pre) op,
    fun pre d now at_ _ _ => step_wheel (s.run pre) d now at_,
    fun pre op _ _ => autoScale_step_off (s.run pre) op,
    fun pre op _ _ => autoScale_step_on (s.run pre) op,
    y_run_of_still s ops⟩

/-- On a fresh live session a wheel step switches auto-scale off, a following press of
auto-scale's action switches it back on, and a pointer leaving the plot keeps the range. -/
theorem vertical_scale_frame_wheel :
    (Session.new ({} : Replay) ⟨4, 16384.0, true, "."⟩ 0 Files.Tree.empty).capture.mode =
        .live ∧
      (((Session.new ({} : Replay) ⟨4, 16384.0, true, "."⟩ 0 Files.Tree.empty).run
          [.event (.wheel .up) 1 ⟨2024, 1, 1, 0, 0, 0⟩]).step
          (.action .enableAutoScale 2 ⟨2024, 1, 1, 0, 0, 0⟩)).view.autoScale = true ∧
      ((Session.new ({} : Replay) ⟨4, 16384.0, true, "."⟩ 0 Files.Tree.empty).run
          [.event .pointerLeft 1 ⟨2024, 1, 1, 0, 0, 0⟩]).viewport.y =
        (Session.new ({} : Replay) ⟨4, 16384.0, true, "."⟩ 0 Files.Tree.empty).viewport.y := by
  have frame := vertical_scale_frame (Session.new ({} : Replay) ⟨4, 16384.0, true, "."⟩ 0
    Files.Tree.empty) [.event (.wheel .up) 1 ⟨2024, 1, 1, 0, 0, 0⟩,
      .action .enableAutoScale 2 ⟨2024, 1, 1, 0, 0, 0⟩]
  refine ⟨(frame.2.2.1 [] _ _ rfl rfl (by decide)).1, by decide, ?_⟩
  refine (vertical_scale_frame _ [.event .pointerLeft 1 ⟨2024, 1, 1, 0, 0, 0⟩]).2.2.2.2 ?_
  intro pre op post h
  rcases pre with _ | ⟨p, pre⟩
  · obtain ⟨rfl, -⟩ := List.cons.inj h
    simp [MovesY, Rescales, calls]
  · simp at h

end Session

end WaveScope
