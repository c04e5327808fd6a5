import Mathlib
import WaveScope.Session.Basic
import WaveScope.Proofs.Capture

/-!
# Runs of a session

The program around a session calls it in any order: a tick at every frame, samples handed in
directly, events, actions, snapshots, and a close at the end.  `SessionOp` names these calls and
`Session.run` makes a list of them.  The status line is a function of the session that changes
nothing, so it needs no call of its own.

This file says once what each call does, so that later proofs never unfold an operation:

* `ingest_eq`, `togglePause_eq`, `snapshot_eq`, `disableAutoScaleIfLive_eq` and `tick_eq` give
  each operation as a record update that names the fields it may change; `handleAction_eq`
  does the same for every action but the pause toggle, which is `togglePause`.
* `step_core` says every call acts on the capture and its window as a list of capture calls,
  `Session.calls`: a tick and an ingest route one batch, a pause toggle toggles, nothing else
  touches them.
* `step_assembler` says only a tick touches the word assembler.
-/

namespace WaveScope

/-- A call made on a session by the program around it. -/
inductive SessionOp where
  | tick (now : Nat)
  | ingest (samples : Array UInt32)
  | event (e : ScopeEvent) (now : Nat) (at_ : LocalTime)
  | action (a : Action) (now : Nat) (at_ : LocalTime)
  | snapshot (now : Nat) (at_ : LocalTime)
  | close

namespace Session

variable {σ δ : Type} [Files.Disk δ]

/-! ## Each operation as a record update -/

omit [Files.Disk δ] in
lemma applyAutoScale_eq (s : Session σ δ) : ∃ v, s.applyAutoScale = { s with viewport := v } := by
  unfold applyAutoScale
  split
  · exact ⟨s.viewport, rfl⟩
  · split
    · exact ⟨_, rfl⟩
    · exact ⟨s.viewport, rfl⟩

omit [Files.Disk δ] in
/-- Taking samples in routes them, and may rescale the view. -/
lemma ingest_eq (s : Session σ δ) (xs : Array UInt32) :
    ∃ v, s.ingest xs =
      { s with
        capture := (s.capture.route s.window xs).2.1
        window := (s.capture.route s.window xs).2.2
        viewport := v } := by
  unfold ingest
  rcases s.capture.route s.window xs with ⟨routed, c, w⟩
  simp only
  split
  · exact applyAutoScale_eq _
  · exact ⟨s.viewport, rfl⟩

/-- A snapshot writes to the disk and posts a notice, nothing else. -/
lemma snapshot_eq (s : Session σ δ) (now : Nat) (at_ : LocalTime) :
    ∃ disk notice, s.snapshot now at_ = { s with disk, notice } := by
  unfold snapshot
  split
  · exact ⟨s.disk, _, rfl⟩
  · rcases Snapshot.save s.disk s.window s.viewport.x s.snapshotDir at_ with ⟨r, disk⟩
    simp only
    split <;> exact ⟨disk, _, rfl⟩

omit [Files.Disk δ] in
lemma disableAutoScaleIfLive_eq (s : Session σ δ) :
    ∃ b, s.disableAutoScaleIfLive = { s with view := { s.view with autoScale := b } } := by
  unfold disableAutoScaleIfLive
  split
  · exact ⟨false, rfl⟩
  · exact ⟨s.view.autoScale, rfl⟩

omit [Files.Disk δ] in
/-- The pause toggle toggles the capture; a resume drops the inspected sample. -/
lemma togglePause_eq (s : Session σ δ) :
    ∃ v, s.togglePause =
      { s with
        capture := (s.capture.toggle s.window).2.1
        window := (s.capture.toggle s.window).2.2
        viewport := v
        view := { s.view with
          hover := if s.capture.mode = .frozen then none else s.view.hover } } := by
  unfold togglePause
  rcases Capture.toggle_cases s.capture s.window with ⟨hm, hr⟩ | ⟨hm, hr⟩
  · simp only [hr, hm]
    exact ⟨s.viewport, rfl⟩
  · simp only [hr, hm, if_true]
    split
    · exact applyAutoScale_eq _
    · exact ⟨s.viewport, rfl⟩

/-- Every action but the pause toggle leaves the capture, the window and the assembler alone;
horizontal navigation drops the inspected sample, the others keep it. -/
lemma handleAction_eq (s : Session σ δ) {a : Action} (now : Nat) (at_ : LocalTime)
    (ha : a ≠ .togglePause) :
    ∃ viewport view notice disk, (s.handleAction a now at_).2 =
        { s with viewport, view, notice, disk } ∧
      view.hover = if a.isXNavigation then none else s.view.hover := by
  cases a with
  | togglePause => exact absurd rfl ha
  | snapshot =>
    obtain ⟨disk, notice, h⟩ := snapshot_eq s now at_
    exact ⟨s.viewport, s.view, notice, disk, by simpa [handleAction, Action.isXNavigation] using h,
      by simp [Action.isXNavigation]⟩
  | enableAutoScale | toggleFullscreen | toggleHelp | quit => exact ⟨_, _, _, _, rfl, rfl⟩
  | zoomInX | zoomOutX | panLeft | panRight | resetX => exact ⟨_, _, _, _, rfl, rfl⟩

lemma handleAction_togglePause (s : Session σ δ) (now : Nat) (at_ : LocalTime) :
    (s.handleAction .togglePause now at_).2 = s.togglePause := by
  simp [handleAction, Action.isXNavigation]

/-! ## A tick in three parts -/

variable [SampleSource σ]

/-- The words a tick takes in: those its read completes, none without a read. -/
def tickWords (s : Session σ δ) (now : Nat) : Array UInt32 :=
  match (SampleSource.receiveAt s.source now).1 with
  | some bytes => (s.assembler.feed bytes).1
  | none => #[]

/-- The assembler after a tick: fed the read, then emptied if the link is down. -/
def tickAssembler (s : Session σ δ) (now : Nat) : WordAssembler :=
  let a := match (SampleSource.receiveAt s.source now).1 with
    | some bytes => (s.assembler.feed bytes).2
    | none => s.assembler
  if SampleSource.link (SampleSource.receiveAt s.source now).2 != .connected && a.pending.size > 0
  then a.reset else a

omit [Files.Disk δ] in
/-- **What a tick does.**  It polls the source, routes the words its read completes, realigns
the assembler when the link is down, and updates the view's range, the meter and the notice. -/
theorem tick_eq (s : Session σ δ) (now : Nat) :
    ∃ viewport meter notice, s.tick now =
      { s with
        source := (SampleSource.receiveAt s.source now).2
        assembler := s.tickAssembler now
        capture := (s.capture.route s.window (s.tickWords now)).2.1
        window := (s.capture.route s.window (s.tickWords now)).2.2
        viewport, meter, notice } := by
  unfold tick tickAssembler tickWords
  rcases hr : SampleSource.receiveAt s.source now with ⟨_ | bytes, src⟩
  · -- no read: routing no words changes nothing
    by_cases hc : (SampleSource.link src != LinkState.connected &&
        decide (s.assembler.pending.size > 0)) = true <;>
      simp only [hc, if_true, if_false, Bool.false_eq_true] <;> split <;> (try split) <;>
      exact ⟨_, _, _, rfl⟩
  · simp only
    obtain ⟨v, hv⟩ := ingest_eq { s with source := src, assembler := (s.assembler.feed bytes).2 }
      (s.assembler.feed bytes).1
    simp only [hv]
    by_cases hc : (SampleSource.link src != LinkState.connected &&
        decide ((s.assembler.feed bytes).2.pending.size > 0)) = true <;>
      simp only [hc, if_true, if_false, Bool.false_eq_true] <;> split <;> (try split) <;>
      exact ⟨_, _, _, rfl⟩

/-! ## Runs -/

/-- Makes one call. -/
def step (s : Session σ δ) : SessionOp → Session σ δ
  | .tick now => s.tick now
  | .ingest xs => s.ingest xs
  | .event e now at_ => (s.handleEvent e now at_).2
  | .action a now at_ => (s.handleAction a now at_).2
  | .snapshot now at_ => s.snapshot now at_
  | .close => s.close

/-- Makes the calls in order. -/
def run (s : Session σ δ) (ops : List SessionOp) : Session σ δ := ops.foldl step s

@[simp] lemma run_nil (s : Session σ δ) : s.run [] = s := rfl

@[simp] lemma run_cons (s : Session σ δ) (op : SessionOp) (ops : List SessionOp) :
    s.run (op :: ops) = (s.step op).run ops := rfl

lemma run_append (s : Session σ δ) (ops ops' : List SessionOp) :
    s.run (ops ++ ops') = (s.run ops).run ops' := by
  simp [run, List.foldl_append]

/-- The capture calls a call makes. -/
def calls (s : Session σ δ) : SessionOp → List CaptureCall
  | .tick now => [.route (s.tickWords now)]
  | .ingest xs => [.route xs]
  | .event (.key k) _ _ => if s.bindings.get k = some .togglePause then [.toggle] else []
  | .action a _ _ => if a = .togglePause then [.toggle] else []
  | _ => []

/-! ## What a call does to the capture and the assembler -/

open CaptureCall

omit [SampleSource σ] in
lemma handleAction_core (s : Session σ δ) (a : Action) (now : Nat) (at_ : LocalTime) :
    ((s.handleAction a now at_).2.capture, (s.handleAction a now at_).2.window) =
      runCalls (s.capture, s.window) (if a = .togglePause then [.toggle] else []) := by
  by_cases ha : a = .togglePause
  · subst ha
    obtain ⟨v, hv⟩ := togglePause_eq s
    simp [handleAction_togglePause, hv, exec]
  · obtain ⟨viewport, view, notice, disk, h, -⟩ := handleAction_eq s now at_ ha
    simp [h, ha]

lemma handleEvent_core (s : Session σ δ) (e : ScopeEvent) (now : Nat) (at_ : LocalTime) :
    ((s.handleEvent e now at_).2.capture, (s.handleEvent e now at_).2.window) =
      runCalls (s.capture, s.window) (s.calls (.event e now at_)) := by
  cases e with
  | key k =>
    cases hb : s.bindings.get k with
    | none => simp [handleEvent, calls, hb]
    | some a =>
      simp only [handleEvent, calls, hb, Option.some.injEq]
      exact handleAction_core s a now at_
  | wheel d =>
    obtain ⟨b, hb⟩ := disableAutoScaleIfLive_eq s
    simp [handleEvent, calls, hb]
  | button b =>
    obtain ⟨b', hb⟩ := disableAutoScaleIfLive_eq s
    by_cases hadj : b.adjustsScale = true <;> simp [handleEvent, calls, hb, hadj]
  | pointerMoved x y => simp [handleEvent, calls]
  | pointerLeft => simp [handleEvent, calls]
  | resized w h => simp [handleEvent, calls]

/-- **Every call drives the capture through capture calls.** -/
theorem step_core (s : Session σ δ) (op : SessionOp) :
    ((s.step op).capture, (s.step op).window) = runCalls (s.capture, s.window) (s.calls op) := by
  cases op with
  | tick now =>
    obtain ⟨viewport, meter, notice, h⟩ := tick_eq s now
    simp [step, calls, h, exec]
  | ingest xs =>
    obtain ⟨v, h⟩ := ingest_eq s xs
    simp [step, calls, h, exec]
  | event e now at_ => exact handleEvent_core s e now at_
  | action a now at_ => exact handleAction_core s a now at_
  | snapshot now at_ =>
    obtain ⟨disk, notice, h⟩ := snapshot_eq s now at_
    simp [step, calls, h]
  | close => rfl

omit [SampleSource σ] in
lemma handleEvent_assembler (s : Session σ δ) (e : ScopeEvent) (now : Nat) (at_ : LocalTime) :
    (s.handleEvent e now at_).2.assembler = s.assembler := by
  cases e with
  | key k =>
    cases hb : s.bindings.get k with
    | none => simp [handleEvent, hb]
    | some a =>
      simp only [handleEvent, hb]
      by_cases ha : a = .togglePause
      · subst ha
        obtain ⟨v, hv⟩ := togglePause_eq s
        simp [handleAction_togglePause, hv]
      · obtain ⟨viewport, view, notice, disk, h, -⟩ := handleAction_eq s now at_ ha
        simp [h]
  | wheel d =>
    obtain ⟨b, hb⟩ := disableAutoScaleIfLive_eq s
    simp [handleEvent, hb]
  | button b =>
    obtain ⟨b', hb⟩ := disableAutoScaleIfLive_eq s
    by_cases hadj : b.adjustsScale = true <;> simp [handleEvent, hb, hadj]
  | pointerMoved x y => simp [handleEvent]
  | pointerLeft => simp [handleEvent]
  | resized w h => simp [handleEvent]

/-- Only a tick touches the word assembler. -/
theorem step_assembler (s : Session σ δ) (op : SessionOp) :
    (s.step op).assembler = match op with
      | .tick now => s.tickAssembler now
      | _ => s.assembler := by
  cases op with
  | tick now =>
    obtain ⟨viewport, meter, notice, h⟩ := tick_eq s now
    simp [step, h]
  | ingest xs =>
    obtain ⟨v, h⟩ := ingest_eq s xs
    simp [step, h]
  | event e now at_ => exact handleEvent_assembler s e now at_
  | action a now at_ =>
    by_cases ha : a = .togglePause
    · subst ha
      obtain ⟨v, hv⟩ := togglePause_eq s
      simp [step, handleAction_togglePause, hv]
    · obtain ⟨viewport, view, notice, disk, h, -⟩ := handleAction_eq s now at_ ha
      simp [step, h]
  | snapshot now at_ =>
    obtain ⟨disk, notice, h⟩ := snapshot_eq s now at_
    simp [step, h]
  | close => rfl

end Session

end WaveScope
