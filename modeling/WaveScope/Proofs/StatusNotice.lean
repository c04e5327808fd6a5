import Mathlib
import WaveScope.Proofs.SessionRun

/-!
# Notices on the status line

A notice replaces the status line for three seconds after it is posted, over
`[posted, posted + 3000)` in milliseconds.  Snapshots post them, asked for directly, as an action,
or by a key bound to that action, and a newer notice replaces an older one.  Two readers filter the
notice by expiry, the status line and `activeNotice`, and a tick forgets an expired notice.  As
long as no reader looks at an instant before a tick, forgetting changes nothing a reader sees: a
notice that a tick dropped at `now` is expired at every instant after it too.

* `notice_step`: a tick filters the notice by its own instant, a call that posts a notice
  replaces it, and no other call touches it.
* `Session.lastPosted` is the notice posted last in a run; `shown_run` says that at every instant
  not before the run's calls, the session shows exactly that notice while it lives.
* `StatusLine.format_of_inactive`: without a live notice the line is the link state, the scale,
  the throughput and the inspected sample.  `digitRun_prefix` lets the inspected sample be read
  back from the end of the line, since decimal digits never hold the separators around them
  (`valueText_suffix_inj`).

**Main statement.**  `status_line_follows_last_notice`.
-/

namespace WaveScope

/-- The instant a call is made at, for the calls that carry one. -/
def SessionOp.time : SessionOp → Option Nat
  | .tick now | .event _ now _ | .action _ now _ | .snapshot now _ => some now
  | .ingest _ | .close => none

lemma Notice.isActive_of_le {n : Notice} {now t : Nat} (hle : now ≤ t) (h : n.isActive t = true) :
    n.isActive now = true := by
  rw [Notice.isActive_iff] at h ⊢
  omega

/-- Filtering by a later instant after an earlier one is filtering by the later one. -/
lemma filter_isActive_filter (o : Option Notice) {now t : Nat} (hle : now ≤ t) :
    (o.filter (·.isActive now)).filter (·.isActive t) = o.filter (·.isActive t) := by
  cases o with
  | none => rfl
  | some n =>
    by_cases ht : n.isActive t = true
    · simp [Option.filter, ht, Notice.isActive_of_le hle ht]
    · by_cases hn : n.isActive now = true <;> simp [Option.filter, ht, hn]

namespace Session

variable {σ δ : Type} [Files.Disk δ]

/-- The notice a call posts: a snapshot posts one, asked for directly, as an action, or by a key
bound to that action. -/
def posts (s : Session σ δ) : SessionOp → Option Notice
  | .snapshot now at_ => (s.snapshot now at_).notice
  | .action a now at_ => if a = .snapshot then (s.snapshot now at_).notice else none
  | .event (.key k) now at_ =>
    if s.bindings.get k = some .snapshot then (s.snapshot now at_).notice else none
  | _ => none

/-! ## What each call does to the notice -/

/-- A snapshot always posts a notice, at its own instant. -/
lemma snapshot_notice (s : Session σ δ) (now : Nat) (at_ : LocalTime) :
    ∃ text, (s.snapshot now at_).notice = some ⟨text, now⟩ := by
  unfold snapshot
  split
  · exact ⟨_, rfl⟩
  · rcases Snapshot.save s.disk s.window s.viewport.x s.snapshotDir at_ with ⟨r, disk⟩
    simp only
    split <;> exact ⟨_, rfl⟩

/-- A posted notice carries the instant of the call that posted it. -/
theorem posts_postedAt (s : Session σ δ) {op : SessionOp} {n : Notice} (h : s.posts op = some n) :
    op.time = some n.postedAt := by
  -- every call that posts runs a snapshot at its own instant
  have hsnap : ∀ now at_, (s.snapshot now at_).notice = some n → some now = some n.postedAt := by
    intro now at_ hn
    obtain ⟨text, hs⟩ := s.snapshot_notice now at_
    rw [hs, Option.some.injEq] at hn
    rw [← hn]
  cases op with
  | snapshot now at_ => exact hsnap now at_ h
  | action a now at_ =>
    by_cases ha : a = .snapshot
    · simp only [posts, ha, if_true] at h
      exact hsnap now at_ h
    · simp [posts, ha] at h
  | event e now at_ =>
    cases e with
    | key k =>
      by_cases hb : s.bindings.get k = some .snapshot
      · simp only [posts, hb, if_true] at h
        exact hsnap now at_ h
      · simp [posts, hb] at h
    | pointerMoved x y | pointerLeft | wheel d | button b | resized w h' => simp [posts] at h
  | tick now | ingest xs | close => simp [posts] at h

omit [Files.Disk δ] in
lemma notice_ingest (s : Session σ δ) (xs : Array UInt32) : (s.ingest xs).notice = s.notice := by
  obtain ⟨v, h⟩ := ingest_eq s xs
  rw [h]

lemma notice_handleAction (s : Session σ δ) (a : Action) (now : Nat) (at_ : LocalTime) :
    (s.handleAction a now at_).2.notice =
      if a = .snapshot then (s.snapshot now at_).notice else s.notice := by
  cases a with
  | togglePause =>
    obtain ⟨v, hv⟩ := togglePause_eq s
    simp [handleAction_togglePause, hv]
  | snapshot => simp [handleAction, Action.isXNavigation]
  | enableAutoScale | zoomInX | zoomOutX | panLeft | panRight | resetX | toggleFullscreen
    | toggleHelp | quit => simp [handleAction, Action.isXNavigation]

lemma notice_handleEvent (s : Session σ δ) (e : ScopeEvent) (now : Nat) (at_ : LocalTime) :
    (s.handleEvent e now at_).2.notice = (s.posts (.event e now at_)).or s.notice := by
  cases e with
  | key k =>
    cases hb : s.bindings.get k with
    | none => simp [handleEvent, posts, hb]
    | some a =>
      simp only [handleEvent, posts, hb, notice_handleAction, Option.some.injEq]
      split
      · obtain ⟨text, h⟩ := s.snapshot_notice now at_
        simp [h]
      · rfl
  | wheel d =>
    obtain ⟨b, hb⟩ := disableAutoScaleIfLive_eq s
    simp [handleEvent, posts, hb]
  | button b =>
    obtain ⟨b', hb⟩ := disableAutoScaleIfLive_eq s
    by_cases hadj : b.adjustsScale = true <;> simp [handleEvent, posts, hb, hadj]
  | pointerMoved x y | pointerLeft | resized w h => simp [handleEvent, posts]

variable [SampleSource σ]

omit [Files.Disk δ] in
/-- A tick forgets the notice once it has expired at the tick's instant; nothing before that in
the tick touches it. -/
lemma notice_tick (s : Session σ δ) (now : Nat) :
    (s.tick now).notice = s.notice.filter (·.isActive now) := by
  unfold tick
  rcases SampleSource.receiveAt s.source now with ⟨_ | bytes, src⟩ <;>
    simp only [notice_ingest] <;> split <;> rename_i hn <;> split at hn <;> split <;>
    simp_all [Option.filter, notice_ingest]

/-- **What a call does to the notice.**  A tick filters it by the tick's instant; every other call
replaces it by the notice it posts, if any. -/
theorem notice_step (s : Session σ δ) (op : SessionOp) :
    (s.step op).notice = match op with
      | .tick now => s.notice.filter (·.isActive now)
      | op => (s.posts op).or s.notice := by
  cases op with
  | tick now => exact notice_tick s now
  | ingest xs => simp [step, posts, notice_ingest]
  | event e now at_ => exact notice_handleEvent s e now at_
  | action a now at_ =>
    simp only [step, notice_handleAction, posts]
    split
    · obtain ⟨text, h⟩ := s.snapshot_notice now at_
      simp [h]
    · rfl
  | snapshot now at_ =>
    obtain ⟨text, h⟩ := s.snapshot_notice now at_
    simp [step, posts, h]
  | close => rfl

/-! ## The notice posted last in a run -/

/-- The notice posted last in a run from `s`, or `prior` when the run posts none. -/
def lastPosted (s : Session σ δ) (prior : Option Notice) : List SessionOp → Option Notice
  | [] => prior
  | op :: ops => (s.step op).lastPosted ((s.posts op).or prior) ops

/-- The notice posted last is the one from before the run, or was posted by one of its calls, at
that call's instant. -/
theorem lastPosted_origin (s : Session σ δ) (p : Option Notice) (ops : List SessionOp) {n : Notice}
    (h : s.lastPosted p ops = some n) : p = some n ∨ ∃ op ∈ ops, op.time = some n.postedAt := by
  induction ops generalizing s p with
  | nil => exact .inl h
  | cons op ops ih =>
    rcases ih (s.step op) _ h with hp | ⟨op', hop', ht⟩
    · cases hpost : s.posts op with
      | none =>
        rw [hpost, Option.none_or] at hp
        exact .inl hp
      | some m =>
        rw [hpost, Option.some_or, Option.some.injEq] at hp
        exact .inr ⟨op, List.mem_cons_self .., hp ▸ s.posts_postedAt hpost⟩
    · exact .inr ⟨op', List.mem_cons_of_mem _ hop', ht⟩

/-- Both sides of a step agree at `t` when they agreed before and the step's instant is not
after `t`. -/
lemma shown_step (s : Session σ δ) (p : Option Notice) (op : SessionOp) {t : Nat}
    (hinv : s.notice.filter (·.isActive t) = p.filter (·.isActive t))
    (ht : ∀ i ∈ op.time, i ≤ t) :
    (s.step op).notice.filter (·.isActive t) = ((s.posts op).or p).filter (·.isActive t) := by
  have hor : ∀ q : Option Notice,
      (q.or s.notice).filter (·.isActive t) = (q.or p).filter (·.isActive t) := by
    intro q
    cases q <;> simp [hinv]
  rw [notice_step]
  cases op with
  | tick now =>
    -- a notice forgotten at `now` has expired at `t` as well
    rw [filter_isActive_filter _ (ht now rfl), hinv]
    simp [posts]
  | ingest xs | event e now at_ | action a now at_ | snapshot now at_ | close => exact hor _

/-- **The session shows the notice posted last.**  At every instant `t` that no call of the run
comes after, the notice the session still shows is the one posted last, while it lives. -/
theorem shown_run (s : Session σ δ) (p : Option Notice) (ops : List SessionOp) {t : Nat}
    (hinv : s.notice.filter (·.isActive t) = p.filter (·.isActive t))
    (ht : ∀ op ∈ ops, ∀ i ∈ op.time, i ≤ t) :
    (s.run ops).notice.filter (·.isActive t) = (s.lastPosted p ops).filter (·.isActive t) := by
  induction ops generalizing s p with
  | nil => exact hinv
  | cons op ops ih =>
    exact ih (s.step op) _ (shown_step s p op hinv (ht op (List.mem_cons_self ..)))
      fun op' hop' => ht op' (List.mem_cons_of_mem _ hop')

end Session

/-! ## The line without a notice -/

/-- A run of digits ends where the first other character stands: two texts that each start with a
run of digits followed by another character are prefixes of one another only when the runs agree
and what follows them is again so. -/
lemma digitRun_prefix {x y a b : List Char} (hx : ∀ c ∈ x, c.isDigit = true)
    (hy : ∀ c ∈ y, c.isDigit = true) {c : Char} {a' : List Char} (ha : a = c :: a')
    (hc : c.isDigit = false) (hb : ∀ d ∈ b.head?, d.isDigit = false) (h : x ++ a <+: y ++ b) :
    x = y ∧ a <+: b := by
  induction x generalizing y with
  | nil =>
    cases y with
    | nil => exact ⟨rfl, h⟩
    | cons d y =>
      -- the first character after the run would be a digit of `y`
      subst ha
      obtain ⟨rfl, -⟩ := List.cons_prefix_cons.1 h
      simp [hy c (List.mem_cons_self ..)] at hc
  | cons e x ih =>
    cases y with
    | nil =>
      -- `b` would start with the digit `e`
      obtain ⟨r, hr⟩ := h
      have he : b.head? = some e := by rw [← List.nil_append b, ← hr]; rfl
      simp [hb e he] at hx
    | cons d y =>
      obtain ⟨rfl, h'⟩ := List.cons_prefix_cons.1 h
      obtain ⟨hxy, hab⟩ := ih (fun c hc' => hx c (List.mem_cons_of_mem _ hc'))
        (fun c hc' => hy c (List.mem_cons_of_mem _ hc')) h'
      exact ⟨hxy ▸ rfl, hab⟩

lemma isDigit_of_mem_toString {n : Nat} {c : Char} (h : c ∈ (toString n).toList) :
    c.isDigit = true := by
  rw [Nat.toString_eq_repr, Nat.toList_repr] at h
  exact Nat.isDigit_of_mem_toDigits (by decide) (by decide) h

lemma toString_toList_ne_nil (n : Nat) : (toString n).toList ≠ [] := by
  rw [Nat.toString_eq_repr, Nat.toList_repr]
  exact List.ne_nil_of_length_pos Nat.length_toDigits_pos

lemma isDigit_of_mem_reverse_toString {n : Nat} {c : Char} (h : c ∈ (toString n).toList.reverse) :
    c.isDigit = true :=
  isDigit_of_mem_toString (List.mem_reverse.1 h)

/-- Read backwards, the inspected-sample part of a line is the index's digits, ` @ `, the value's
digits and ` :eulaV | `. -/
lemma valueText_reverse (v i : Nat) :
    (" | Value: " ++ toString v ++ " @ " ++ toString i).toList.reverse =
      (toString i).toList.reverse ++ ' ' :: '@' :: ' ' ::
        ((toString v).toList.reverse ++ [' ', ':', 'e', 'u', 'l', 'a', 'V', ' ', '|', ' ']) := by
  simp [String.toList_append]

/-- The inspected-sample parts of two lines match at their ends only for the same sample. -/
lemma valueText_suffix_inj {v i v' i' : Nat} (pre : List Char)
    (h : (" | Value: " ++ toString v ++ " @ " ++ toString i).toList <:+
      pre ++ (" | Value: " ++ toString v' ++ " @ " ++ toString i').toList) : v = v' ∧ i = i' := by
  rw [← List.reverse_prefix, List.reverse_append, valueText_reverse, valueText_reverse] at h
  simp only [List.append_assoc, List.cons_append] at h
  obtain ⟨hi, h⟩ := digitRun_prefix (fun _ => isDigit_of_mem_reverse_toString)
    (fun _ => isDigit_of_mem_reverse_toString) rfl (by decide) (by simp) h
  simp only [List.cons_prefix_cons, true_and] at h
  obtain ⟨hv, -⟩ := digitRun_prefix (fun _ => isDigit_of_mem_reverse_toString)
    (fun _ => isDigit_of_mem_reverse_toString) rfl (by decide) (by simp) h
  rw [List.reverse_inj, String.toList_inj, Nat.toString_eq_repr, Nat.toString_eq_repr] at hi hv
  exact ⟨Nat.repr_injective hv, Nat.repr_injective hi⟩

/-- A line that ends with its unit `kB/s` does not end with an inspected sample. -/
lemma valueText_not_suffix_kBs (v i : Nat) (pre : List Char) :
    ¬ (" | Value: " ++ toString v ++ " @ " ++ toString i).toList <:+ pre ++ " kB/s".toList := by
  intro h
  have hunit : " kB/s".toList.reverse = ['s', '/', 'B', 'k', ' '] := rfl
  rw [← List.reverse_prefix, List.reverse_append, valueText_reverse, hunit] at h
  -- read backwards the line starts with `s`, so the index's digits would have to be none
  obtain ⟨hi, -⟩ := digitRun_prefix (y := []) (c := ' ') (b := ['s', '/', 'B', 'k', ' '] ++ pre.reverse)
    (fun _ => isDigit_of_mem_reverse_toString) (by simp) rfl (by decide) (by simp)
    (by rwa [List.nil_append])
  exact toString_toList_ne_nil i (List.reverse_eq_nil_iff.1 hi)

namespace StatusLine

/-- The tone of the link state: what the link says, except that a connected frozen display is
paused. -/
lemma stateWords_tone (link : LinkState) (frozen : Bool) :
    (stateWords link frozen).2 = match link, frozen with
      | .disconnected, _ => .disconnected
      | .connecting, _ => .connecting
      | .connected, true => .paused
      | .connected, false => .connected := by
  cases link <;> cases frozen <;> rfl

lemma stateWords_tone_ne_notice (link : LinkState) (frozen : Bool) :
    (stateWords link frozen).2 ≠ .notice := by
  cases link <;> cases frozen <;> decide

/-- Without a live notice, the line is the link state's words and tone, the scale, the throughput
with its unit, and then the inspected sample if there is one. -/
theorem format_of_inactive (s : StatusInput) (h : s.notice.filter (·.isActive s.now) = none) :
    (format s).tone = (stateWords s.link s.frozen).2 ∧
      ∃ body, (format s).text = match s.hover with
        | some hv => body ++ " kB/s" ++ (" | Value: " ++ toString hv.value.toNat ++ " @ " ++
            toString hv.index)
        | none => body ++ " kB/s" := by
  unfold format
  rw [h]
  refine ⟨rfl, "Status: " ++ (stateWords s.link s.frozen).1 ++ " | Scale: " ++
    (if s.autoScale then "[AUTO]" else "[MANUAL]") ++ " | Throughput: " ++ Decimal.fixed 1 s.kbps, ?_⟩
  cases s.hover <;> simp only [String.append_assoc]

/-- The end of a line without a live notice tells the inspected sample exactly. -/
theorem value_suffix_iff (body : String) (hover : Option Hover) (i : Nat) (v : UInt32) :
    (∃ pre, (match hover with
        | some hv => body ++ " kB/s" ++ (" | Value: " ++ toString hv.value.toNat ++ " @ " ++
            toString hv.index)
        | none => body ++ " kB/s") = pre ++ (" | Value: " ++ toString v.toNat ++ " @ " ++
          toString i)) ↔ hover = some ⟨i, v⟩ := by
  constructor
  · rintro ⟨pre, hpre⟩
    have hsuf : ∀ t : String, t = pre ++ (" | Value: " ++ toString v.toNat ++ " @ " ++
        toString i) → (" | Value: " ++ toString v.toNat ++ " @ " ++ toString i).toList <:+
          t.toList := by
      rintro t rfl
      simp
    cases hover with
    | none =>
      exact absurd (by simpa using hsuf _ hpre) (valueText_not_suffix_kBs v.toNat i body.toList)
    | some hv =>
      have hs := hsuf _ hpre
      simp only [String.toList_append, List.append_assoc] at hs
      obtain ⟨hval, hidx⟩ := valueText_suffix_inj (body.toList ++ " kB/s".toList)
        (by simpa using hs)
      rw [UInt32.toNat_inj] at hval
      rw [hval, hidx]
  · rintro rfl
    exact ⟨body ++ " kB/s", rfl⟩

end StatusLine

namespace Session

variable {σ δ : Type} [SampleSource σ] [Files.Disk δ]

/-- **The status line over a run.**  Take any run from any session and an instant `t` that no
call of the run comes after (as when instants never decrease).  The notice the session shows at
`t` is the one posted last, from its posting instant until three seconds later, and the status
line then reads that notice with the tone of a notice.  Otherwise the tone follows the link,
frozen or not, except that a connected frozen display reads as paused; and the line ends with
` | Value: v @ i` exactly when the sample at position `i` of value `v` is inspected. -/
theorem status_line_follows_last_notice (s₀ : Session σ δ) (ops : List SessionOp) (t : Nat)
    (ht : ∀ op ∈ ops, ∀ i ∈ op.time, i ≤ t) :
    let s := s₀.run ops
    let last := s₀.lastPosted s₀.notice ops
    (∀ n, last = some n → last = s₀.notice ∨ ∃ op ∈ ops, op.time = some n.postedAt) ∧
      s.activeNotice t = last.filter (·.isActive t) ∧
      ((s.statusLine t).tone = .notice ↔ ∃ n, last = some n ∧ t < n.postedAt + 3000) ∧
      (∀ n, last = some n → t < n.postedAt + 3000 → s.statusLine t = ⟨n.text, .notice⟩) ∧
      ((∀ n, last = some n → n.postedAt + 3000 ≤ t) →
        (s.statusLine t).tone = (match SampleSource.link s.source, s.capture.isFrozen with
          | .disconnected, _ => .disconnected
          | .connecting, _ => .connecting
          | .connected, true => .paused
          | .connected, false => .connected) ∧
        ∀ (i : Nat) (v : UInt32), (∃ pre, (s.statusLine t).text =
            pre ++ (" | Value: " ++ toString v.toNat ++ " @ " ++ toString i)) ↔
          s.view.hover = some ⟨i, v⟩) := by
  intro s last
  have hshown : s.activeNotice t = last.filter (·.isActive t) := shown_run s₀ _ ops rfl ht
  -- the status line reads the same filtered notice
  have hline : ∀ n, s.activeNotice t = some n → s.statusLine t = ⟨n.text, .notice⟩ := by
    intro n hn
    simp only [activeNotice] at hn
    simp [statusLine, StatusLine.format, hn]
  have hlive : ∀ n, last = some n → t < n.postedAt + 3000 → s.activeNotice t = some n := by
    intro n hn hlt
    rw [hshown, hn]
    simp [Option.filter, Notice.isActive_iff, hlt]
  have hquiet : (∀ n, last = some n → n.postedAt + 3000 ≤ t) → s.activeNotice t = none := by
    intro h
    rw [hshown]
    cases hl : last with
    | none => rfl
    | some n =>
      have := h n hl
      simp [Option.filter, Notice.isActive_iff]
      omega
  -- without a live notice the line is the link, the scale, the throughput and the sample
  have hformat := fun hq : s.activeNotice t = none =>
    StatusLine.format_of_inactive ⟨SampleSource.link s.source, s.capture.isFrozen,
      s.view.autoScale, s.meter.kbps, s.view.hover, s.notice, t⟩ hq
  refine ⟨fun n hn => ?_, hshown, ⟨fun htone => ?_, ?_⟩, fun n hn hlt => hline n (hlive n hn hlt),
    fun hq => ⟨?_, fun i v => ?_⟩⟩
  · rcases lastPosted_origin s₀ _ ops hn with h | h
    · exact .inl (hn.trans h.symm)
    · exact .inr h
  · by_contra hno
    simp only [not_exists, not_and, not_lt] at hno
    simp only [statusLine] at htone
    rw [(hformat (hquiet hno)).1] at htone
    exact StatusLine.stateWords_tone_ne_notice _ _ htone
  · rintro ⟨n, hn, hlt⟩
    rw [hline n (hlive n hn hlt)]
  · rw [statusLine, (hformat (hquiet hq)).1]
    exact StatusLine.stateWords_tone _ _
  · obtain ⟨body, hbody⟩ := (hformat (hquiet hq)).2
    rw [statusLine, hbody]
    exact StatusLine.value_suffix_iff body s.view.hover i v

/-- A snapshot asked for while live posts its notice at one second; a tick at two seconds keeps
it, and at two and a half seconds the status line still reads it. -/
theorem status_line_follows_last_notice_live_snapshot :
    let s₀ := Session.new ({} : Replay) ⟨4, 16384.0, true, "."⟩ 0 Files.Tree.empty
    let ops := [SessionOp.snapshot 1000 ⟨2024, 1, 1, 0, 0, 0⟩, .tick 2000]
    (∀ op ∈ ops, ∀ i ∈ op.time, i ≤ 2500) ∧
      (s₀.run ops).statusLine 2500 = ⟨snapshotNeedsFreeze, .notice⟩ := by
  intro s₀ ops
  have hops : ∀ op ∈ ops, ∀ i ∈ op.time, i ≤ 2500 := by decide
  have hlast : s₀.lastPosted s₀.notice ops = some ⟨snapshotNeedsFreeze, 1000⟩ := by decide
  exact ⟨hops, (status_line_follows_last_notice s₀ ops 2500 hops).2.2.2.1 _ hlast (by decide)⟩

end Session

end WaveScope
