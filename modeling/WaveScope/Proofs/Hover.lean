import Mathlib
import WaveScope.Sample.Probe
import WaveScope.Proofs.SessionRun

/-!
# The inspected sample

While the display is frozen, the pointer inspects a sample of the window, and the view keeps its
position and value as the hover.  Every call either leaves the hover and the window alone or
drops the hover: a pointer move probes the frozen window, a resume and horizontal navigation
drop it, and a route while a hover is shown finds the capture frozen, so it leaves the window
alone.  Hence a hover, once shown, is always a true reading of the window.

* `get?_of_probe` says a probe reports what the window holds at the position it reports.
* `HoverSound` is the invariant; `hoverSound_step` shows each call keeps it, from the record
  updates of each operation, and `hoverSound_run` extends that to any run.

**Main statement.**  `hover_shows_frozen_sample`.
-/

namespace WaveScope

namespace SampleWindow

/-- A probe reports what the window holds at the position it reports. -/
lemma get?_of_probe {w : SampleWindow} {x : Float} {h : Hover} (hp : w.probe x = some h) :
    w.get? h.index = some h.value := by
  unfold probe at hp
  split at hp
  · obtain ⟨v, hv, rfl⟩ := Option.map_eq_some_iff.mp hp
    exact hv
  · cases hp

end SampleWindow

/-- A frozen capture keeps its window through a route. -/
lemma Capture.window_route_of_frozen {c : Capture} (w : SampleWindow) (b : Array UInt32)
    (hm : c.mode = .frozen) : (c.route w b).2.2 = w := by
  rcases Capture.route_cases c w b with ⟨-, hr⟩ | ⟨-, hm', -⟩ | ⟨-, -, hr⟩
  · rw [hr]
  · rw [hm] at hm'
    cases hm'
  · rw [hr]

namespace Session

variable {σ δ : Type} [Files.Disk δ] {s s' : Session σ δ}

/-- A shown hover is a sample of the frozen window: its position lies inside the window, and
the window holds its value there. -/
def HoverSound (s : Session σ δ) : Prop :=
  ∀ h, s.view.hover = some h →
    s.capture.mode = .frozen ∧ h.index < s.window.capacity ∧
      s.window.values[h.index]? = some h.value

omit [Files.Disk δ] in
/-- A call that keeps the mode and the window, and keeps or drops the hover, keeps the
invariant. -/
lemma hoverSound_of_frame (hs : s.HoverSound) (hc : s'.capture.mode = s.capture.mode)
    (hw : s'.window = s.window) (hh : s'.view.hover = s.view.hover ∨ s'.view.hover = none) :
    s'.HoverSound := by
  intro h hsh
  rcases hh with hh | hh
  · rw [hc, hw]
    exact hs h (hh ▸ hsh)
  · rw [hh] at hsh
    cases hsh

omit [Files.Disk δ] in
/-- A route that keeps the hover keeps the invariant: while a hover is shown the capture is
frozen, and a frozen capture keeps its mode and its window. -/
lemma hoverSound_of_route (hs : s.HoverSound) (b : Array UInt32)
    (hc : s'.capture = (s.capture.route s.window b).2.1)
    (hw : s'.window = (s.capture.route s.window b).2.2) (hh : s'.view.hover = s.view.hover) :
    s'.HoverSound := by
  intro h hsh
  rw [hh] at hsh
  obtain ⟨hfz, hlt, hget⟩ := hs h hsh
  have hwin : s'.window = s.window := by rw [hw, Capture.window_route_of_frozen _ _ hfz]
  refine ⟨?_, ?_, ?_⟩
  · rw [hc, Capture.mode_route, hfz]
  · rw [hwin]
    exact hlt
  · rw [hwin]
    exact hget

/-- Actions keep the invariant: the pause toggle drops the hover (a resume drops it, and a
freeze finds none shown), horizontal navigation drops it, the rest leave it and the window
alone. -/
lemma hoverSound_handleAction (hs : s.HoverSound) (a : Action) (now : Nat) (at_ : LocalTime) :
    (s.handleAction a now at_).2.HoverSound := by
  by_cases ha : a = .togglePause
  · subst ha
    rw [handleAction_togglePause]
    obtain ⟨v, hv⟩ := togglePause_eq s
    intro h hsh
    rw [hv] at hsh
    simp only at hsh
    split at hsh
    · cases hsh
    · rename_i hlive
      exact absurd (hs h hsh).1 hlive
  · obtain ⟨viewport, view, notice, disk, h, hh⟩ := handleAction_eq s now at_ ha
    rw [h]
    refine hoverSound_of_frame hs rfl rfl ?_
    by_cases hx : a.isXNavigation = true
    · exact .inr (by simp [hh, hx])
    · exact .inl (by simp [hh, hx])

/-- Events keep the invariant: a pointer move probes the window, and only while frozen. -/
lemma hoverSound_handleEvent (hs : s.HoverSound) (e : ScopeEvent) (now : Nat)
    (at_ : LocalTime) : (s.handleEvent e now at_).2.HoverSound := by
  cases e with
  | pointerMoved x y =>
    intro h hsh
    simp only [handleEvent] at hsh ⊢
    split at hsh
    · rename_i hfz
      refine ⟨by simpa [Capture.isFrozen] using hfz, SampleWindow.index_lt_of_probe hsh,
        SampleWindow.get?_of_probe hsh⟩
    · cases hsh
  | pointerLeft =>
    intro h hsh
    simp [handleEvent] at hsh
  | wheel d =>
    obtain ⟨b, hb⟩ := disableAutoScaleIfLive_eq s
    exact hoverSound_of_frame hs (by simp [handleEvent, hb]) (by simp [handleEvent, hb])
      (.inl (by simp [handleEvent, hb]))
  | button b =>
    obtain ⟨b', hb⟩ := disableAutoScaleIfLive_eq s
    by_cases hadj : b.adjustsScale = true <;>
      exact hoverSound_of_frame hs (by simp [handleEvent, hb, hadj])
        (by simp [handleEvent, hb, hadj]) (.inl (by simp [handleEvent, hb, hadj]))
  | key k =>
    cases hk : s.bindings.get k with
    | none => simpa [handleEvent, hk] using hs
    | some a =>
      simp only [handleEvent, hk]
      exact hoverSound_handleAction hs a now at_
  | resized w h => simpa [handleEvent] using hs

variable [SampleSource σ]

/-- **Every call keeps the invariant.** -/
theorem hoverSound_step (hs : s.HoverSound) (op : SessionOp) : (s.step op).HoverSound := by
  cases op with
  | tick now =>
    obtain ⟨viewport, meter, notice, h⟩ := tick_eq s now
    exact hoverSound_of_route hs (s.tickWords now) (by simp [step, h]) (by simp [step, h])
      (by simp [step, h])
  | ingest xs =>
    obtain ⟨v, h⟩ := ingest_eq s xs
    exact hoverSound_of_route hs xs (by simp [step, h]) (by simp [step, h]) (by simp [step, h])
  | event e now at_ => exact hoverSound_handleEvent hs e now at_
  | action a now at_ => exact hoverSound_handleAction hs a now at_
  | snapshot now at_ =>
    obtain ⟨disk, notice, h⟩ := snapshot_eq s now at_
    exact hoverSound_of_frame hs (by simp [step, h]) (by simp [step, h]) (.inl (by simp [step, h]))
  | close => exact hoverSound_of_frame hs rfl rfl (.inl rfl)

/-- **Every run keeps the invariant.** -/
theorem hoverSound_run (hs : s.HoverSound) (ops : List SessionOp) : (s.run ops).HoverSound := by
  induction ops generalizing s with
  | nil => exact hs
  | cons op ops ih => exact ih (hoverSound_step hs op)

omit [Files.Disk δ] in
/-- A new session shows no hover. -/
lemma hoverSound_new (source : σ) (settings : SessionSettings) (now : Nat) (disk : δ)
    (bindings : KeyBindings) :
    ((Session.new source settings now disk).withKeyBindings bindings).HoverSound := by
  intro h hsh
  simp [withKeyBindings, new] at hsh

end Session

/-- **A shown hover is true.**  Take a new session with any source, settings and key bindings,
and make any calls, with pointer positions of any kind, not-a-number and infinities included.
Either no hover is shown, or the session is frozen and the hover's position lies inside the
window, which holds the hover's value there. -/
theorem hover_shows_frozen_sample {σ δ : Type} [SampleSource σ] [Files.Disk δ] (source : σ)
    (settings : SessionSettings) (now : Nat) (disk : δ) (bindings : KeyBindings)
    (ops : List SessionOp) :
    let s := ((Session.new source settings now disk).withKeyBindings bindings).run ops
    s.view.hover = none ∨
      ∃ h, s.view.hover = some h ∧ s.capture.mode = .frozen ∧ h.index < s.window.capacity ∧
        s.window.values[h.index]? = some h.value := by
  intro s
  have hsound : s.HoverSound :=
    Session.hoverSound_run (Session.hoverSound_new source settings now disk bindings) ops
  cases hh : s.view.hover with
  | none => exact .inl rfl
  | some h => exact .inr ⟨h, rfl, hsound h hh⟩

end WaveScope
