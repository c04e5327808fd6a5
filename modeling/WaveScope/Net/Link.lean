import WaveScope.Net.Endpoint
import WaveScope.Net.LinkState

/-!
# The reconnecting link

The link to the sample server never fails outward: every failure leaves it disconnected, and a
receive while disconnected starts a new attempt once more than the reconnect interval has passed
since the last one (or when none was made yet).  A receive while connecting first checks the
handshake; a receive while connected reads one chunk, counting its bytes.

What the network answers is a parameter of every step (`Network`), so the state machine is pure:
the same steps against the same answers give the same states.

A read hands over at most `readChunkSize` bytes, the size of the link's buffer; a network that
keeps that contract is `ReadFits`.

**Main statements.**  `receiveAt_due` says when a disconnected link tries again;
`receiveAt_not_due` says it keeps still otherwise.
-/

namespace WaveScope.Net

open Os

/-- The answer to a handshake check. -/
inductive Handshake where
  | pending
  | established
  | failed
deriving DecidableEq, Repr

/-- The answer to a read. -/
inductive ReadResult where
  | data (bytes : Array UInt8)
  | closed
  | wouldBlock
  | failed
deriving DecidableEq, Repr

/-- What the network answers at one step. -/
structure Network where
  lookup : String → Nat → Except IoError (List IpAddr)
  connect : IpAddr → Nat → Except IoError Unit
  handshake : Handshake
  read : ReadResult

/-- The size of the link's read buffer: one read takes at most this many bytes. -/
def readChunkSize : Nat := 8192

/-- The network keeps the contract of a read into the link's buffer: it hands over no more bytes
than the buffer holds. -/
def Network.ReadFits (net : Network) : Prop :=
  ∀ bytes, net.read = .data bytes → bytes.size ≤ readChunkSize

/-- A network on which no name resolves and every connection attempt is refused with
"Network is unreachable". -/
def Network.unreachable : Network :=
  ⟨fun _ _ => .error IoError.notFound, fun _ _ => .error IoError.networkUnreachable, .failed,
    .failed⟩

/-- The largest byte count a 64-bit counter holds. -/
def byteCountMax : Nat := Nat.pow 2 64 - 1

/-- The client side of the link. -/
structure Link where
  endpoint : Endpoint
  reconnectInterval : Nat
  state : LinkState
  bytesReceived : Nat
  lastAttempt : Option Nat
deriving Repr

namespace Link

/-- How long a disconnected link waits before trying again, in milliseconds. -/
def defaultInterval : Nat := 2000

/-- A disconnected link to an endpoint that has not tried to connect yet. -/
def new (e : Endpoint) (interval : Nat) : Link :=
  ⟨e, interval, .disconnected, 0, none⟩

/-- Drops the connection, if any. -/
def close (l : Link) : Link := { l with state := .disconnected }

/-- Starts a connection attempt at `now`, recording the attempt whatever its outcome. -/
def connectAt (l : Link) (now : Nat) (net : Network) : Except ConnectError Unit × Link :=
  let l := { l.close with lastAttempt := some now }
  match l.endpoint.resolve net.lookup with
  | .error e => (.error e, l)
  | .ok ip =>
    match net.connect ip l.endpoint.port with
    | .error s => (.error (.io l.endpoint s), l)
    | .ok () => (.ok (), { l with state := .connecting })

/-- A new attempt is due: none was made yet, or more than the interval has passed. -/
def reconnectDue (l : Link) (now : Nat) : Bool :=
  match l.lastAttempt with
  | none => true
  | some last => now - last > l.reconnectInterval

/-- Moves a connecting link on by the handshake's answer. -/
def pollHandshake (l : Link) (net : Network) : Link :=
  match l.state with
  | .connecting =>
    match net.handshake with
    | .pending => l
    | .established => { l with state := .connected }
    | .failed => l.close
  | _ => l

/-- One receive step: a reconnect attempt when disconnected and due, otherwise a handshake check
and, when connected, one read. -/
def receiveAt (l : Link) (now : Nat) (net : Network) : Option (Array UInt8) × Link :=
  match l.state with
  | .disconnected =>
    if l.reconnectDue now then (none, (l.connectAt now net).2) else (none, l)
  | _ =>
    let l := l.pollHandshake net
    match l.state with
    | .connected =>
      match net.read with
      | .data bytes =>
        if bytes.isEmpty then (none, l.close)
        else (some bytes, { l with bytesReceived := min (l.bytesReceived + bytes.size) byteCountMax })
      | .closed => (none, l.close)
      | .wouldBlock => (none, l)
      | .failed => (none, l.close)
    | _ => (none, l)

theorem receiveAt_due (l : Link) (now : Nat) (net : Network) (hs : l.state = .disconnected)
    (hd : l.reconnectDue now = true) : l.receiveAt now net = (none, (l.connectAt now net).2) := by
  simp [receiveAt, hs, hd]

theorem receiveAt_not_due (l : Link) (now : Nat) (net : Network) (hs : l.state = .disconnected)
    (hd : l.reconnectDue now = false) : l.receiveAt now net = (none, l) := by
  simp [receiveAt, hs, hd]

end Link

end WaveScope.Net
