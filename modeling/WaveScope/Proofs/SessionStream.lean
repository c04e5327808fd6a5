import Mathlib
import WaveScope.Proofs.SessionRun
import WaveScope.Proofs.Stream

/-!
# A session shows its stream

Whatever the source hands over, and whatever the program around the session calls in between,
the window shows the stream: live, it holds the last samples of its zeros followed by every
sample of the stream; frozen, it holds what it held at the freeze, while the backlog holds the
last samples of the stream since.

The stream of a run is read off the run without looking at the session's decoder: each tick
adds its read and, when the link is down after the read, a cut; each ingest adds its samples
(`Session.feeds`, `Session.feedLog`, `Session.stream`).

* `run_core` says a run drives the capture through the capture calls of its steps
  (`Session.callLog`).
* `feeds_routed` and `feedLog_routed` say what a step, then a run, adds to the stream is what it
  routes to the capture, as long as the assembler holds the unfinished word of the current
  piece; every step keeps that so.
* `run_tracks` carries the capture's invariant along a session run; `run_frozen_stretch` says a
  run that stays frozen keeps the window and queues what it routes, since it makes no toggle
  (`toggle_not_mem_callLog`); `backlog_step_of_freeze` says the step that freezes leaves the
  backlog alone.

**Main statement.**  `run_window_follows_stream`.
-/

namespace WaveScope

namespace WordAssembler

/-- Realigning when the link is down: the held bytes are dropped, so the assembler follows an
empty piece. -/
lemma follows_realign {a : WordAssembler} {piece : Array UInt8} (ha : a.Follows piece)
    (down : Bool) :
    (if (down && decide (a.pending.size > 0)) = true then a.reset else a).Follows
      (if down then #[] else piece) := by
  cases down with
  | false => simpa using ha
  | true =>
    by_cases hp : a.pending.size > 0
    · simpa [hp] using follows_reset a
    · have hempty : a.pending = #[] := by simpa using hp
      simpa [hp, follows_empty_iff] using hempty

end WordAssembler

open CaptureCall

namespace Session

variable {σ δ : Type} [SampleSource σ] [Files.Disk δ]

/-! ## The stream of a run -/

/-- What a call adds to the stream: a tick its read, then a cut when the link is down after the
read; an ingest its samples. -/
def feeds (s : Session σ δ) : SessionOp → List Feed
  | .tick now =>
    ((SampleSource.receiveAt s.source now).1.map Feed.bytes).toList ++
      if SampleSource.link (SampleSource.receiveAt s.source now).2 != .connected then [.cut]
      else []
  | .ingest xs => [.samples xs]
  | _ => []

/-- What a run adds to the stream, call by call. -/
def feedLog (s : Session σ δ) : List SessionOp → List Feed
  | [] => []
  | op :: ops => s.feeds op ++ (s.step op).feedLog ops

/-- The capture calls a run makes, call by call. -/
def callLog (s : Session σ δ) : List SessionOp → List CaptureCall
  | [] => []
  | op :: ops => s.calls op ++ (s.step op).callLog ops

/-- The stream of samples a run from `s` is given. -/
def stream (s : Session σ δ) (ops : List SessionOp) : Array UInt32 :=
  (({} : SampleStream).feedAll (s.feedLog ops)).samples

lemma feedLog_append (s : Session σ δ) (ops ops' : List SessionOp) :
    s.feedLog (ops ++ ops') = s.feedLog ops ++ (s.run ops).feedLog ops' := by
  induction ops generalizing s with
  | nil => rfl
  | cons op ops ih => simp [feedLog, ih]

lemma callLog_append (s : Session σ δ) (ops ops' : List SessionOp) :
    s.callLog (ops ++ ops') = s.callLog ops ++ (s.run ops).callLog ops' := by
  induction ops generalizing s with
  | nil => rfl
  | cons op ops ih => simp [callLog, ih]

omit [Files.Disk δ] in
/-- A call makes at most one capture call. -/
lemma calls_cases (s : Session σ δ) (op : SessionOp) :
    s.calls op = [] ∨ ∃ k, s.calls op = [k] := by
  unfold calls
  split
  · exact .inr ⟨_, rfl⟩
  · exact .inr ⟨_, rfl⟩
  · split
    · exact .inr ⟨_, rfl⟩
    · exact .inl rfl
  · split
    · exact .inr ⟨_, rfl⟩
    · exact .inl rfl
  · exact .inl rfl

/-- **A run drives the capture through its capture calls.** -/
theorem run_core (s : Session σ δ) (ops : List SessionOp) :
    ((s.run ops).capture, (s.run ops).window) = runCalls (s.capture, s.window) (s.callLog ops) := by
  induction ops generalizing s with
  | nil => rfl
  | cons op ops ih => rw [run_cons, ih, callLog, runCalls_append, ← step_core]

/-! ## What a call adds to the stream -/

variable {s : Session σ δ} {t : SampleStream}

omit [Files.Disk δ] in
/-- A tick adds the words its read completes, and leaves the assembler following the piece,
which a down link cuts. -/
lemma tick_feeds (ha : s.assembler.Follows t.piece) (now : Nat) :
    (t.feedAll (s.feeds (.tick now))).samples = t.samples ++ s.tickWords now ∧
      (s.tickAssembler now).Follows (t.feedAll (s.feeds (.tick now))).piece := by
  simp only [feeds, tickWords, tickAssembler]
  rcases SampleSource.receiveAt s.source now with ⟨_ | bytes, src⟩
  · -- no read: at most a cut
    have hr := WordAssembler.follows_realign ha (SampleSource.link src != .connected)
    cases hd : (SampleSource.link src != .connected) <;>
      simp_all [SampleStream.feed]
  · obtain ⟨hw, hf⟩ := WordAssembler.follows_feed ha bytes
    have hr := WordAssembler.follows_realign hf (SampleSource.link src != .connected)
    cases hd : (SampleSource.link src != .connected) <;>
      simp_all [SampleStream.feed]

/-- **A call, seen from the stream.**  While the assembler holds the unfinished word of the
current piece, a call adds to the stream exactly what it routes to the capture, and the
assembler then holds the unfinished word of the new piece. -/
theorem feeds_routed (ha : s.assembler.Follows t.piece) (op : SessionOp) :
    (t.feedAll (s.feeds op)).samples = t.samples ++ routed (s.calls op) ∧
      (s.step op).assembler.Follows (t.feedAll (s.feeds op)).piece := by
  rw [step_assembler]
  cases op with
  | tick now => simpa [calls, batch] using tick_feeds ha now
  | ingest xs => exact ⟨by simp [feeds, calls, batch, SampleStream.feed], ha⟩
  | event e now at_ =>
    refine ⟨?_, ha⟩
    cases e <;> simp only [feeds, calls] <;> (try split) <;> simp [batch]
  | action a now at_ =>
    refine ⟨?_, ha⟩
    simp only [feeds, calls]
    split <;> simp [batch]
  | snapshot now at_ => exact ⟨by simp [feeds, calls], ha⟩
  | close => exact ⟨by simp [feeds, calls], ha⟩

/-- **A run, seen from the stream.**  The stream of a run is what the run routes, and the
assembler keeps following the current piece. -/
theorem feedLog_routed (ha : s.assembler.Follows t.piece) (ops : List SessionOp) :
    (t.feedAll (s.feedLog ops)).samples = t.samples ++ routed (s.callLog ops) ∧
      (s.run ops).assembler.Follows (t.feedAll (s.feedLog ops)).piece := by
  induction ops generalizing s t with
  | nil => exact ⟨by simp [feedLog, callLog], ha⟩
  | cons op ops ih =>
    obtain ⟨hs, hf⟩ := feeds_routed ha op
    obtain ⟨hs', hf'⟩ := ih hf
    refine ⟨?_, ?_⟩
    · rw [feedLog, SampleStream.feedAll_append, hs', hs, callLog, routed_append,
        Array.append_assoc]
    · rw [feedLog, SampleStream.feedAll_append, run_cons]
      exact hf'

/-- From an empty assembler, the stream is what the run routes. -/
lemma stream_eq_routed (ha : s.assembler.pending = #[]) (ops : List SessionOp) :
    s.stream ops = routed (s.callLog ops) := by
  have h := (feedLog_routed (t := {}) (WordAssembler.follows_empty_iff.mpr ha) ops).1
  simpa [stream] using h

/-! ## Freezing -/

lemma capture_step (s : Session σ δ) (op : SessionOp) :
    (s.step op).capture = (runCalls (s.capture, s.window) (s.calls op)).1 :=
  congrArg Prod.fst (step_core s op)

/-- The call that freezes leaves the backlog alone. -/
lemma backlog_step_of_freeze {op : SessionOp} (hl : s.capture.mode = .live)
    (hf : (s.step op).capture.mode = .frozen) :
    (s.step op).capture.backlog = s.capture.backlog := by
  rw [capture_step] at hf ⊢
  rcases calls_cases s op with h | ⟨k, h⟩
  · rw [h, runCalls_nil]
  · rw [h, runCalls_cons, runCalls_nil] at hf ⊢
    exact backlog_exec_of_freeze k hl hf

/-- **A run that stays frozen makes no toggle**: from a frozen capture a toggle resumes. -/
theorem toggle_not_mem_callLog (post : List SessionOp) (hfz : s.capture.mode = .frozen)
    (hstay : ∀ q, q <+: post → (s.run q).capture.mode = .frozen) :
    CaptureCall.toggle ∉ s.callLog post := by
  induction post generalizing s with
  | nil => simp [callLog]
  | cons op post ih =>
    have h₁ : (s.step op).capture.mode = .frozen := hstay [op] (by simp)
    have hk : CaptureCall.toggle ∉ s.calls op := by
      rcases calls_cases s op with h | ⟨k, h⟩
      · simp [h]
      · rintro hmem
        rw [h, List.mem_singleton] at hmem
        rw [capture_step, h, ← hmem, runCalls_cons, runCalls_nil,
          mode_exec_toggle_of_frozen hfz] at h₁
        cases h₁
    have hrest := ih h₁ fun q hq => hstay (op :: q) (List.cons_prefix_cons.mpr ⟨rfl, hq⟩)
    simp [callLog, hk, hrest]

/-- **The capture invariant along a session run.** -/
theorem run_tracks {h : Array UInt32} (hN : s.window.capacity ≤ s.capture.backlog.limit)
    (ht : s.capture.Tracks s.window h) (ops : List SessionOp) :
    (s.run ops).window.capacity = s.window.capacity ∧
      (s.run ops).capture.backlog.limit = s.capture.backlog.limit ∧
      (s.run ops).capture.Tracks (s.run ops).window (h ++ routed (s.callLog ops)) := by
  have hN' : (s.capture, s.window).2.capacity ≤ (s.capture, s.window).1.backlog.limit := hN
  have ht' : (s.capture, s.window).1.Tracks (s.capture, s.window).2 h := ht
  obtain ⟨hc, hl, htr⟩ := runCalls_tracks (s.callLog ops) hN' ht'
  rw [← run_core] at hc hl htr
  exact ⟨hc, hl, htr⟩

/-- **A frozen stretch.**  A run that starts frozen with nothing waiting and stays frozen keeps
the window, and its backlog holds the last `limit` samples the run routed. -/
theorem run_frozen_stretch (post : List SessionOp) (hfz : s.capture.mode = .frozen)
    (hq : s.capture.backlog.samples = #[])
    (hstay : ∀ q, q <+: post → (s.run q).capture.mode = .frozen) :
    (s.run post).window = s.window ∧
      (s.run post).capture.backlog.samples =
        keepLast s.capture.backlog.limit (routed (s.callLog post)) := by
  have hfz' : (s.capture, s.window).1.mode = .frozen := hfz
  have hB : (s.capture, s.window).1.backlog.samples.size ≤
      (s.capture, s.window).1.backlog.limit := by
    simp [hq]
  obtain ⟨hw, -, -, hb⟩ := runCalls_frozen_of_routes (s.callLog post) hfz' hB
    (toggle_not_mem_callLog post hfz hstay)
  rw [← run_core] at hw hb
  exact ⟨hw, by simpa [hq] using hb⟩

/-! ## The start of a session -/

variable (source : σ) (settings : SessionSettings) (now : Nat) (disk : δ)
  (bindings : KeyBindings)

omit [Files.Disk δ] in
lemma new_values :
    ((Session.new source settings now disk).withKeyBindings bindings : Session σ δ).window.values =
      Array.replicate (max settings.sampleCount 1) 0 := rfl

omit [Files.Disk δ] in
lemma new_limit :
    ((Session.new source settings now disk).withKeyBindings bindings :
        Session σ δ).capture.backlog.limit =
      min (10 * max settings.sampleCount 1) Backlog.wordMax := by
  simp only [withKeyBindings, new, Capture.forCapacity, Backlog.forCapacity, Backlog.withLimit,
    SampleWindow.zeros, SampleWindow.capacity, Array.size_replicate, Backlog.wordMax, Nat.pow_eq]
  omega

omit [Files.Disk δ] in
/-- A new session is live with nothing waiting, so it tracks its own window. -/
lemma tracks_new :
    ((Session.new source settings now disk).withKeyBindings bindings : Session σ δ).capture.Tracks
      ((Session.new source settings now disk).withKeyBindings bindings : Session σ δ).window
      (#[] ++ ((Session.new source settings now disk).withKeyBindings bindings :
        Session σ δ).window.values) := by
  simp [Capture.Tracks, withKeyBindings, new, Capture.forCapacity, Backlog.forCapacity,
    Backlog.withLimit, SampleWindow.capacity]

end Session

open Session

/-- **A session shows its stream.**  Take a new session of `N = max sampleCount 1` samples, any
source and any key bindings, and make any calls.  Whenever it is live, the window holds the last
`N` samples of `N` zeros followed by the stream so far.  Whenever it is frozen, the call that
last froze it is found (`op`, after `pre`); the window is as that call left it, and the backlog
holds the last `min (10 N) (2⁶⁴ - 1)` samples of the stream since.  The stream is the words of
each piece of the source's reads, the pieces cut after each tick that finds the link down, with
ingested samples where they were handed in (`Session.stream`). -/
theorem run_window_follows_stream {σ δ : Type} [SampleSource σ] [Files.Disk δ] (source : σ)
    (settings : SessionSettings) (now : Nat) (disk : δ) (bindings : KeyBindings)
    (ops : List SessionOp) (hN : settings.sampleCount < 2 ^ 64) :
    let s₀ : Session σ δ := (Session.new source settings now disk).withKeyBindings bindings
    let N := max settings.sampleCount 1
    ((s₀.run ops).capture.mode = .live →
        (s₀.run ops).window.values = keepLast N (Array.replicate N 0 ++ s₀.stream ops)) ∧
    ((s₀.run ops).capture.mode = .frozen →
        ∃ pre op post, ops = pre ++ op :: post ∧ (s₀.run pre).capture.mode = .live ∧
          (∀ q, q <+: post → (s₀.run (pre ++ op :: q)).capture.mode = .frozen) ∧
          (s₀.run ops).window = (s₀.run (pre ++ [op])).window ∧
          ∃ R, s₀.stream ops = s₀.stream (pre ++ [op]) ++ R ∧
            (s₀.run ops).capture.backlog.samples =
              keepLast (min (10 * N) Backlog.wordMax) R) := by
  intro s₀ N
  have hvals : s₀.window.values = Array.replicate N 0 :=
    new_values source settings now disk bindings
  have hlim : s₀.capture.backlog.limit = min (10 * N) Backlog.wordMax :=
    new_limit source settings now disk bindings
  have hcap : s₀.window.capacity = N := by
    simp [SampleWindow.capacity, hvals]
  have hN' : s₀.window.capacity ≤ s₀.capture.backlog.limit := by
    rw [hcap, hlim]
    simp only [N, Backlog.wordMax, Nat.pow_eq]
    omega
  have hstream : ∀ ops, s₀.stream ops = routed (s₀.callLog ops) := stream_eq_routed rfl
  -- every run from the start keeps the window's size and the limit, and tracks its stream
  have htrack : ∀ ops, (s₀.run ops).window.capacity = N ∧
      (s₀.run ops).capture.backlog.limit = min (10 * N) Backlog.wordMax ∧
      (s₀.run ops).capture.Tracks (s₀.run ops).window
        (Array.replicate N 0 ++ s₀.stream ops) := by
    intro ops
    obtain ⟨hc, hl, ht⟩ := run_tracks hN' (tracks_new source settings now disk bindings) ops
    refine ⟨hc.trans hcap, hl.trans hlim, ?_⟩
    rw [Array.empty_append, hvals] at ht
    rw [hstream]
    exact ht
  refine ⟨fun hlive => ?_, fun hfz => ?_⟩
  · obtain ⟨hc, -, ht⟩ := htrack ops
    simp only [Capture.Tracks, hlive, hc] at ht
    exact ht.1
  · obtain ⟨pre, op, post, rfl, hpre, hpost⟩ :=
      exists_last_entry step (fun s : Session σ δ => s.capture.mode = .frozen) s₀ ops
        (by simp [s₀, withKeyBindings, new, Capture.forCapacity]) hfz
    have hlive : (s₀.run pre).capture.mode = .live := CaptureMode.eq_live_of_not_frozen hpre
    have hops : pre ++ op :: post = (pre ++ [op]) ++ post := by simp
    have hstay : ∀ q, q <+: post → ((s₀.run (pre ++ [op])).run q).capture.mode = .frozen := by
      intro q hq
      rw [← run_append, List.append_assoc, List.singleton_append]
      exact hpost q hq
    have hfz₁ : (s₀.run (pre ++ [op])).capture.mode = .frozen := hstay [] List.nil_prefix
    -- nothing waited when the capture froze: it was live just before
    have hempty : (s₀.run (pre ++ [op])).capture.backlog.samples = #[] := by
      have hstep : s₀.run (pre ++ [op]) = (s₀.run pre).step op := by
        rw [run_append, run_cons, run_nil]
      rw [hstep] at hfz₁ ⊢
      rw [backlog_step_of_freeze hlive hfz₁]
      obtain ⟨-, -, ht⟩ := htrack pre
      simp only [Capture.Tracks, hlive] at ht
      exact ht.2
    -- after it only routes follow, which queue in the backlog
    obtain ⟨hw, hq⟩ := run_frozen_stretch post hfz₁ hempty hstay
    rw [← run_append, ← hops] at hw hq
    refine ⟨pre, op, post, rfl, hlive, hpost, hw, routed ((s₀.run (pre ++ [op])).callLog post),
      ?_, ?_⟩
    · rw [hstream, hstream, hops, callLog_append, routed_append]
    · rw [hq, (htrack (pre ++ [op])).2.1]

/-- The statement for a window of four fed a word and a half, frozen, fed the rest of the second
word, and resumed. -/
theorem run_window_follows_stream_four :
    (⟨4, 100, false, "."⟩ : SessionSettings).sampleCount < 2 ^ 64 ∧
      ((((Session.new ({ queue := [#[1, 0, 0, 0, 2, 0], #[0, 0]] } : Replay)
            ⟨4, 100, false, "."⟩ 0 Files.Tree.empty).withKeyBindings KeyBindings.defaults).run
          [.tick 1, .action .togglePause 2 ⟨2024, 1, 1, 0, 0, 0⟩, .tick 3,
            .action .togglePause 4 ⟨2024, 1, 1, 0, 0, 0⟩]).capture.mode = .live →
        (((Session.new ({ queue := [#[1, 0, 0, 0, 2, 0], #[0, 0]] } : Replay)
            ⟨4, 100, false, "."⟩ 0 Files.Tree.empty).withKeyBindings KeyBindings.defaults).run
          [.tick 1, .action .togglePause 2 ⟨2024, 1, 1, 0, 0, 0⟩, .tick 3,
            .action .togglePause 4 ⟨2024, 1, 1, 0, 0, 0⟩]).window.values =
          keepLast 4 (Array.replicate 4 0 ++
            ((Session.new ({ queue := [#[1, 0, 0, 0, 2, 0], #[0, 0]] } : Replay)
            ⟨4, 100, false, "."⟩ 0 Files.Tree.empty).withKeyBindings
              KeyBindings.defaults).stream
            [.tick 1, .action .togglePause 2 ⟨2024, 1, 1, 0, 0, 0⟩, .tick 3,
            .action .togglePause 4 ⟨2024, 1, 1, 0, 0, 0⟩])) :=
  ⟨by decide, (run_window_follows_stream ({ queue := [#[1, 0, 0, 0, 2, 0], #[0, 0]] } : Replay)
    ⟨4, 100, false, "."⟩ 0 Files.Tree.empty KeyBindings.defaults
    [.tick 1, .action .togglePause 2 ⟨2024, 1, 1, 0, 0, 0⟩, .tick 3,
            .action .togglePause 4 ⟨2024, 1, 1, 0, 0, 0⟩] (by decide)).1⟩

end WaveScope
