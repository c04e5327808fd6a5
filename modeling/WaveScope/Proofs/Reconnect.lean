import Mathlib
import WaveScope.Net.Link

/-!
# Pacing the reconnection attempts, and counting what arrives

A link is driven by three calls: a receive at an instant, a connect at an instant, and a close
(`LinkCall`).  Each receive and connect meets whatever the network answers at that moment, and
the instants need not increase.  This file shows what the rest of the scope relies on, over any
such run:

* `Link.receiveAt_cases` says once what a receive can do, and `Link.connectAt_eq` what an attempt
  does; every later fact about a call comes from these two.
* A call makes a connection attempt (`LinkCall.attempt?`) exactly where it runs `connectAt`: a
  connect always, a receive only on a disconnected link with an attempt due
  (`LinkCall.exec_of_attempt?`).  Every attempt records its instant and nothing else touches the
  record (`LinkCall.lastAttempt_exec`), so the record is always the last attempt of the run
  (`Link.lastAttempt_run`), and an attempt that a receive makes comes more than the interval
  after the attempt before it, of either kind (`Link.attempts_paced`).
* A receive hands bytes back exactly when the link, after the handshake check, is connected and
  the read brought at least one byte; it is then at most a buffer's worth and the link stays
  connected (`Link.receiveAt_fst_eq_some_iff`, `Link.receiveAt_of_fst_eq_some`).
* The byte count is the saturating sum of the sizes of everything handed back
  (`Link.bytesReceived_run`).

**Main statement.**  `reconnects_paced_bytes_counted`.
-/

namespace WaveScope.Net

/-- A connection attempt: its instant, and whether a receive made it rather than an explicit
connect. -/
structure Attempt where
  time : Nat
  byReceive : Bool
deriving DecidableEq, Repr

/-- An attempt `b` that a receive made comes more than `gap` after the attempt `a`. -/
def Attempt.PacedAfter (gap : Nat) (a b : Attempt) : Prop :=
  b.byReceive = true → gap < b.time - a.time

/-- A call on the link, with the network's answers to it. -/
inductive LinkCall where
  | receive (now : Nat) (net : Network)
  | connect (now : Nat) (net : Network)
  | close

namespace Link

variable (l : Link) (now : Nat) (net : Network)

/-! ## What each operation does -/

@[simp] lemma lastAttempt_close : l.close.lastAttempt = l.lastAttempt := rfl

@[simp] lemma reconnectInterval_close : l.close.reconnectInterval = l.reconnectInterval := rfl

@[simp] lemma bytesReceived_close : l.close.bytesReceived = l.bytesReceived := rfl

/-- An attempt records its instant and, whatever its outcome, moves only the state. -/
lemma connectAt_eq :
    ∃ st, (l.connectAt now net).2 = { l with state := st, lastAttempt := some now } := by
  unfold connectAt
  dsimp only
  split
  · exact ⟨.disconnected, rfl⟩
  · split
    · exact ⟨.disconnected, rfl⟩
    · exact ⟨.connecting, rfl⟩

@[simp] lemma lastAttempt_connectAt : (l.connectAt now net).2.lastAttempt = some now := by
  obtain ⟨st, h⟩ := connectAt_eq l now net
  rw [h]

@[simp] lemma reconnectInterval_connectAt :
    (l.connectAt now net).2.reconnectInterval = l.reconnectInterval := by
  obtain ⟨st, h⟩ := connectAt_eq l now net
  rw [h]

@[simp] lemma bytesReceived_connectAt :
    (l.connectAt now net).2.bytesReceived = l.bytesReceived := by
  obtain ⟨st, h⟩ := connectAt_eq l now net
  rw [h]

/-- The handshake check moves only the state. -/
lemma pollHandshake_eq : l.pollHandshake net = { l with state := (l.pollHandshake net).state } := by
  unfold pollHandshake
  split
  · split <;> rfl
  · rfl

/-- **What a receive can do.**  On a disconnected link it makes an attempt when one is due and
nothing otherwise.  On any other link it checks the handshake and, when the link is then
connected, reads: a read of at least one byte is handed back and counted; any other outcome
hands nothing back and at most moves the state. -/
theorem receiveAt_cases :
    (l.state = .disconnected ∧ l.reconnectDue now = true ∧
      l.receiveAt now net = (none, (l.connectAt now net).2)) ∨
    (l.state = .disconnected ∧ l.reconnectDue now = false ∧ l.receiveAt now net = (none, l)) ∨
    (l.state ≠ .disconnected ∧ ∃ st, l.receiveAt now net = (none, { l with state := st })) ∨
    (∃ bytes, l.state ≠ .disconnected ∧ (l.pollHandshake net).state = .connected ∧
      net.read = .data bytes ∧ bytes ≠ #[] ∧
      l.receiveAt now net = (some bytes,
        { l with state := .connected,
                 bytesReceived := min (l.bytesReceived + bytes.size) byteCountMax })) := by
  cases hs : l.state with
  | disconnected =>
    cases hd : l.reconnectDue now
    · exact .inr (.inl ⟨rfl, rfl, receiveAt_not_due l now net hs hd⟩)
    · exact .inl ⟨rfl, rfl, receiveAt_due l now net hs hd⟩
  | connecting | connected =>
    -- past the handshake check only the state has moved, and only a read with data is kept
    have hp := pollHandshake_eq l net
    generalize hst : (l.pollHandshake net).state = st at hp
    cases st with
    | connected =>
      cases hread : net.read with
      | data bytes =>
        by_cases he : bytes = #[]
        · refine .inr (.inr (.inl ⟨by simp, .disconnected, ?_⟩))
          simp [receiveAt, hs, hp, hread, he, close]
        · refine .inr (.inr (.inr ⟨bytes, by simp, rfl, rfl, he, ?_⟩))
          simp [receiveAt, hs, hp, hread, he]
      | closed | failed =>
        refine .inr (.inr (.inl ⟨by simp, .disconnected, ?_⟩))
        simp [receiveAt, hs, hp, hread, close]
      | wouldBlock =>
        refine .inr (.inr (.inl ⟨by simp, .connected, ?_⟩))
        simp [receiveAt, hs, hp, hread]
    | disconnected =>
      refine .inr (.inr (.inl ⟨by simp, .disconnected, ?_⟩))
      simp [receiveAt, hs, hp]
    | connecting =>
      refine .inr (.inr (.inl ⟨by simp, .connecting, ?_⟩))
      simp [receiveAt, hs, hp]

/-- The record of the last attempt moves only when a receive makes an attempt. -/
lemma lastAttempt_receiveAt :
    (l.receiveAt now net).2.lastAttempt =
      if l.state = .disconnected ∧ l.reconnectDue now = true then some now else l.lastAttempt := by
  rcases receiveAt_cases l now net with ⟨hs, hd, h⟩ | ⟨hs, hd, h⟩ | ⟨hs, st, h⟩ |
      ⟨bytes, hs, -, -, -, h⟩
  · simp [h, hs, hd]
  · simp [h, hs, hd]
  · simp [h, hs]
  · simp [h, hs]

lemma reconnectInterval_receiveAt :
    (l.receiveAt now net).2.reconnectInterval = l.reconnectInterval := by
  rcases receiveAt_cases l now net with ⟨-, -, h⟩ | ⟨-, -, h⟩ | ⟨-, st, h⟩ |
      ⟨bytes, -, -, -, -, h⟩ <;>
    simp [h]

/-- A receive counts exactly the bytes it hands back, saturating. -/
lemma bytesReceived_receiveAt :
    (l.receiveAt now net).2.bytesReceived =
      (l.receiveAt now net).1.elim l.bytesReceived
        fun bytes => min (l.bytesReceived + bytes.size) byteCountMax := by
  rcases receiveAt_cases l now net with ⟨-, -, h⟩ | ⟨-, -, h⟩ | ⟨-, st, h⟩ |
      ⟨bytes, -, -, -, -, h⟩ <;>
    simp [h]

/-- A read of at least one byte, on a link that is connected after the handshake check, is
handed back. -/
lemma receiveAt_fst_of_read {bytes : Array UInt8} (hs : l.state ≠ .disconnected)
    (hc : (l.pollHandshake net).state = .connected) (hr : net.read = .data bytes)
    (hb : bytes ≠ #[]) : (l.receiveAt now net).1 = some bytes := by
  have hb' : bytes.isEmpty = false := by simpa using hb
  cases hs' : l.state with
  | disconnected => exact absurd hs' hs
  | connecting | connected => simp [receiveAt, hs', hc, hr, hb']

/-- Bytes handed back come from a read of at least one byte on a link connected after the
handshake check, and the receive counts them. -/
lemma receiveAt_eq_of_fst_eq_some {bytes : Array UInt8} (h : (l.receiveAt now net).1 = some bytes) :
    l.state ≠ .disconnected ∧ (l.pollHandshake net).state = .connected ∧
      net.read = .data bytes ∧ bytes ≠ #[] ∧
      (l.receiveAt now net).2 =
        { l with state := .connected,
                 bytesReceived := min (l.bytesReceived + bytes.size) byteCountMax } := by
  rcases receiveAt_cases l now net with ⟨-, -, h'⟩ | ⟨-, -, h'⟩ | ⟨-, st, h'⟩ |
      ⟨b, hs, hc, hr, hb, h'⟩
  · simp [h'] at h
  · simp [h'] at h
  · simp [h'] at h
  · rw [h'] at h ⊢
    cases h
    exact ⟨hs, hc, hr, hb, rfl⟩

/-- **What a receive hands back.**  Bytes come back exactly when the link was not disconnected,
is connected after the handshake check, and the read brought at least one byte. -/
theorem receiveAt_fst_eq_some_iff (bytes : Array UInt8) :
    (l.receiveAt now net).1 = some bytes ↔
      l.state ≠ .disconnected ∧ (l.pollHandshake net).state = .connected ∧
        net.read = .data bytes ∧ bytes ≠ #[] := by
  constructor
  · intro h
    obtain ⟨hs, hc, hr, hb, -⟩ := receiveAt_eq_of_fst_eq_some l now net h
    exact ⟨hs, hc, hr, hb⟩
  · rintro ⟨hs, hc, hr, hb⟩
    exact receiveAt_fst_of_read l now net hs hc hr hb

/-- Bytes handed back are at least one and at most a buffer's worth, and the link stays
connected. -/
theorem receiveAt_of_fst_eq_some (hfit : net.ReadFits) {bytes : Array UInt8}
    (h : (l.receiveAt now net).1 = some bytes) :
    (l.receiveAt now net).2.state = .connected ∧ 1 ≤ bytes.size ∧ bytes.size ≤ readChunkSize := by
  obtain ⟨-, -, hr, hb, h'⟩ := receiveAt_eq_of_fst_eq_some l now net h
  refine ⟨by rw [h'], ?_, hfit bytes hr⟩
  have : bytes.size ≠ 0 := fun h0 => hb (Array.eq_empty_of_size_eq_zero h0)
  omega

end Link

/-! ## Calls -/

namespace LinkCall

/-- Makes the call: what a receive hands back, and the link after. -/
def exec : LinkCall → Link → Option (Array UInt8) × Link
  | .receive now net, l => l.receiveAt now net
  | .connect now net, l => (none, (l.connectAt now net).2)
  | .close, l => (none, l.close)

/-- The connection attempt the call makes on a link, if any: a connect always makes one; a
receive makes one when it finds the link disconnected and an attempt due. -/
def attempt? : LinkCall → Link → Option Attempt
  | .receive now _, l =>
    if l.state = .disconnected ∧ l.reconnectDue now = true then some ⟨now, true⟩ else none
  | .connect now _, _ => some ⟨now, false⟩
  | .close, _ => none

/-- The network's answer to the call keeps the contract of a read into the link's buffer. -/
def ReadFits : LinkCall → Prop
  | .receive _ net => net.ReadFits
  | _ => True

variable (c : LinkCall) (l : Link)

lemma reconnectInterval_exec : (c.exec l).2.reconnectInterval = l.reconnectInterval := by
  cases c <;> simp [exec, Link.reconnectInterval_receiveAt]

/-- **Every attempt is recorded, and only attempts are.** -/
theorem lastAttempt_exec :
    (c.exec l).2.lastAttempt = ((c.attempt? l).map Attempt.time).or l.lastAttempt := by
  cases c with
  | receive now net =>
    rw [exec, Link.lastAttempt_receiveAt, attempt?]
    split <;> rfl
  | connect now net => simp [exec, attempt?]
  | close => simp [exec, attempt?]

/-- An attempt is a run of `connectAt` at its instant. -/
theorem exec_of_attempt? {a : Attempt} (h : c.attempt? l = some a) :
    ∃ net, c.exec l = (none, (l.connectAt a.time net).2) := by
  cases c with
  | receive now net =>
    simp only [attempt?] at h
    split at h
    · rename_i hc
      cases h
      exact ⟨net, Link.receiveAt_due l now net hc.1 hc.2⟩
    · cases h
  | connect now net =>
    simp only [attempt?, Option.some.injEq] at h
    subst h
    exact ⟨net, rfl⟩
  | close => cases h

/-- An attempt a receive makes finds the link disconnected, and comes more than the interval
after the recorded attempt, if there is one. -/
theorem paced_of_attempt? {a : Attempt} (h : c.attempt? l = some a) (hr : a.byReceive = true) :
    l.state = .disconnected ∧ ∀ p ∈ l.lastAttempt, l.reconnectInterval < a.time - p := by
  cases c with
  | receive now net =>
    simp only [attempt?] at h
    split at h
    · rename_i hc
      cases h
      refine ⟨hc.1, fun p hp => ?_⟩
      have hd := hc.2
      simp only [Link.reconnectDue, Option.mem_def.mp hp, decide_eq_true_eq] at hd
      exact hd
    · cases h
  | connect now net =>
    simp only [attempt?, Option.some.injEq] at h
    subst h
    cases hr
  | close => cases h

/-- A call counts exactly the bytes it hands back, saturating. -/
lemma bytesReceived_exec (h : l.bytesReceived ≤ byteCountMax) :
    (c.exec l).2.bytesReceived =
      min (l.bytesReceived + ((c.exec l).1.map Array.size).getD 0) byteCountMax := by
  cases c with
  | receive now net =>
    rw [exec, Link.bytesReceived_receiveAt]
    cases (l.receiveAt now net).1 <;> simp [h]
  | connect now net => simp [exec, h]
  | close => simp [exec, h]

end LinkCall

/-! ## Runs -/

namespace Link

/-- Makes the calls in order. -/
def run (l : Link) (calls : List LinkCall) : Link := calls.foldl (fun l c => (c.exec l).2) l

/-- Everything the calls hand back, in order. -/
def chunks : Link → List LinkCall → List (Array UInt8)
  | _, [] => []
  | l, c :: cs => (c.exec l).1.toList ++ chunks (c.exec l).2 cs

/-- The connection attempts the calls make, in order. -/
def attempts : Link → List LinkCall → List Attempt
  | _, [] => []
  | l, c :: cs => (c.attempt? l).toList ++ attempts (c.exec l).2 cs

variable (l : Link)

@[simp] lemma run_nil : l.run [] = l := rfl

@[simp] lemma run_cons (c : LinkCall) (cs : List LinkCall) : l.run (c :: cs) = (c.exec l).2.run cs :=
  rfl

/-- The record always holds the last attempt of the run, or what it held before when the run
made none. -/
theorem lastAttempt_run (calls : List LinkCall) :
    (l.run calls).lastAttempt = ((l.attempts calls).getLast?.map Attempt.time).or l.lastAttempt := by
  induction calls generalizing l with
  | nil => simp [attempts]
  | cons c cs ih =>
    rw [run_cons, ih, LinkCall.lastAttempt_exec]
    simp only [attempts, List.getLast?_append]
    rcases c.attempt? l with _ | a <;> rcases (attempts (c.exec l).2 cs).getLast? with _ | b <;> simp

/-- **Attempts are paced.**  In the attempts of a run, each one a receive makes comes more than
the interval after the one before it; the first, if a receive makes it, comes more than the
interval after the attempt recorded at the start. -/
theorem attempts_paced (calls : List LinkCall) :
    (l.attempts calls).IsChain (Attempt.PacedAfter l.reconnectInterval) ∧
      ∀ b ∈ (l.attempts calls).head?, ∀ p ∈ l.lastAttempt,
        b.byReceive = true → l.reconnectInterval < b.time - p := by
  induction calls generalizing l with
  | nil => simp [attempts]
  | cons c cs ih =>
    obtain ⟨hchain, hhead⟩ := ih (c.exec l).2
    rw [LinkCall.reconnectInterval_exec] at hchain hhead
    cases ha : c.attempt? l with
    | none =>
      -- no attempt: the record, and so the bound on the next attempt, stays as it was
      have hl : (c.exec l).2.lastAttempt = l.lastAttempt := by
        simp [LinkCall.lastAttempt_exec, ha]
      simp only [attempts, ha, Option.toList_none, List.nil_append]
      exact ⟨hchain, by rwa [hl] at hhead⟩
    | some a =>
      -- an attempt: it is recorded, so it bounds the next one
      have hl : (c.exec l).2.lastAttempt = some a.time := by
        simp [LinkCall.lastAttempt_exec, ha]
      simp only [attempts, ha, Option.toList_some, List.singleton_append]
      refine ⟨hchain.cons fun b hb hr => hhead b hb a.time (by simp [hl]) hr, ?_⟩
      intro b hb p hp hr
      obtain rfl : a = b := by simpa using hb
      exact (LinkCall.paced_of_attempt? c l ha hr).2 p hp

/-- **The byte count is the saturating sum of what was handed back.** -/
theorem bytesReceived_run (calls : List LinkCall) (h : l.bytesReceived ≤ byteCountMax) :
    (l.run calls).bytesReceived =
      min (l.bytesReceived + ((l.chunks calls).map Array.size).sum) byteCountMax := by
  induction calls generalizing l with
  | nil => simp [chunks, h]
  | cons c cs ih =>
    have hc := LinkCall.bytesReceived_exec c l h
    have hle : (c.exec l).2.bytesReceived ≤ byteCountMax := by
      rw [hc]
      exact Nat.min_le_right _ _
    rw [run_cons, ih _ hle, hc]
    simp only [chunks, List.map_append, List.sum_append]
    -- saturating twice is saturating once, since nothing is subtracted
    have hchunk :
        ((c.exec l).1.toList.map Array.size).sum = ((c.exec l).1.map Array.size).getD 0 := by
      cases (c.exec l).1 <;> rfl
    rw [hchunk, ← Nat.add_assoc]
    omega

end Link

/-- **The link's contract over any run.**  Take a new link with reconnect interval `gap`, and
make any receives, connects and closes, at any instants, against any network answers whose reads
fit the buffer.

* Attempts: each attempt a receive makes comes more than `gap` after the attempt before it, of
  either kind; the record always holds the last attempt; at every step, an attempt is a run of
  `connectAt` at its instant and, when a receive makes it, finds the link disconnected; a step
  that makes no attempt leaves the record alone.
* Receives: a receive hands bytes back exactly when the link was not disconnected, is connected
  after the handshake check, and the read brought at least one byte; then it hands back between
  one byte and a buffer's worth, and the link stays connected.
* The byte count is the sum of the sizes of everything handed back, saturating at `2 ^ 64 - 1`. -/
theorem reconnects_paced_bytes_counted (e : Endpoint) (gap : Nat) (calls : List LinkCall)
    (hfit : ∀ c ∈ calls, c.ReadFits) :
    let l := Link.new e gap
    (l.attempts calls).IsChain (Attempt.PacedAfter gap) ∧
    (l.run calls).lastAttempt = (l.attempts calls).getLast?.map Attempt.time ∧
    (∀ pre c post, calls = pre ++ c :: post →
      let s := l.run pre
      (∀ a, c.attempt? s = some a →
        (∃ net, c.exec s = (none, (s.connectAt a.time net).2)) ∧
          (a.byReceive = true → s.state = .disconnected)) ∧
      (c.attempt? s = none → (c.exec s).2.lastAttempt = s.lastAttempt) ∧
      (∀ now net bytes, c = .receive now net →
        ((c.exec s).1 = some bytes ↔
          s.state ≠ .disconnected ∧ (s.pollHandshake net).state = .connected ∧
            net.read = .data bytes ∧ bytes ≠ #[]) ∧
        ((c.exec s).1 = some bytes →
          (c.exec s).2.state = .connected ∧ 1 ≤ bytes.size ∧ bytes.size ≤ readChunkSize))) ∧
    (l.run calls).bytesReceived = min ((l.chunks calls).map Array.size).sum byteCountMax := by
  intro l
  have hpaced := Link.attempts_paced l calls
  refine ⟨hpaced.1, by simpa [l, Link.new] using Link.lastAttempt_run l calls,
    fun pre c post hsplit => ?_, by simpa [l, Link.new] using Link.bytesReceived_run l calls (by simp [l, Link.new])⟩
  intro s
  refine ⟨fun a ha => ⟨LinkCall.exec_of_attempt? c s ha,
      fun hr => (LinkCall.paced_of_attempt? c s ha hr).1⟩,
    fun ha => by simp [LinkCall.lastAttempt_exec, ha], fun now net bytes hc => ?_⟩
  subst hc
  have hfit' : net.ReadFits := hfit (.receive now net) (by simp [hsplit])
  exact ⟨Link.receiveAt_fst_eq_some_iff s now net bytes,
    Link.receiveAt_of_fst_eq_some s now net hfit'⟩

/-- A run that fails to reach the server, retries too early, retries in time, connects
explicitly to a server that sends four bytes, and reads them. -/
def retryThenRead : List LinkCall :=
  let serving : Network := ⟨fun _ _ => .ok [], fun _ _ => .ok (), .established, .data #[1, 2, 3, 4]⟩
  [.receive 0 Network.unreachable, .receive 1500 Network.unreachable,
    .receive 2500 Network.unreachable, .connect 2600 serving, .receive 2700 serving]

/-- The contract at an interval of two seconds on `retryThenRead`. -/
theorem reconnects_paced_bytes_counted_retry :
    (∀ c ∈ retryThenRead, c.ReadFits) ∧
      ((Link.new Endpoint.default 2000).attempts retryThenRead).IsChain
        (Attempt.PacedAfter 2000) ∧
      ((Link.new Endpoint.default 2000).run retryThenRead).bytesReceived =
        min (((Link.new Endpoint.default 2000).chunks retryThenRead).map Array.size).sum
          byteCountMax := by
  have hfit : ∀ c ∈ retryThenRead, c.ReadFits := by
    simp [retryThenRead, LinkCall.ReadFits, Network.ReadFits, Network.unreachable, readChunkSize]
  have h := reconnects_paced_bytes_counted Endpoint.default 2000 retryThenRead hfit
  exact ⟨hfit, h.1, h.2.2.2⟩

end WaveScope.Net
