import WaveScope.Net.LinkState
import WaveScope.Sample.Probe
import WaveScope.Text.Decimal

/-!
# The status line

One line at the bottom of the screen.  A notice posted within the last three seconds replaces it;
otherwise it shows the link state (a frozen display shows `PAUSED` only while connected), the
scale mode, the throughput with one decimal and, while a sample is inspected, its value and
position.  Instants are milliseconds from a fixed origin.

**Main statements.**  `format_of_active` says an active notice wins; `Notice.isActive_iff` says
a notice lives exactly three seconds.
-/

namespace WaveScope

/-- How long a notice stays on the status line, in milliseconds. -/
def noticeLifetime : Nat := 3000

/-- A short message for the status line, posted at an instant. -/
structure Notice where
  text : String
  postedAt : Nat
deriving DecidableEq, Repr

/-- The notice is still shown at `now`. -/
def Notice.isActive (n : Notice) (now : Nat) : Bool := now < n.postedAt + noticeLifetime

theorem Notice.isActive_iff (n : Notice) (now : Nat) :
    n.isActive now = true ↔ now < n.postedAt + 3000 := by
  unfold isActive noticeLifetime
  exact decide_eq_true_iff

/-- The colour class of the status line. -/
inductive StatusTone where
  | disconnected
  | connecting
  | paused
  | connected
  | notice
deriving DecidableEq, Repr

/-- Everything the status line shows. -/
structure StatusInput where
  link : LinkState
  frozen : Bool
  autoScale : Bool
  kbps : Float
  hover : Option Hover
  notice : Option Notice
  now : Nat

/-- The text of a status line and its tone. -/
structure StatusLine where
  text : String
  tone : StatusTone

namespace StatusLine

/-- The words for the link state and the tone that goes with them. -/
def stateWords (link : LinkState) (frozen : Bool) : String × StatusTone :=
  match link with
  | .disconnected => ("DISCONNECTED (Retrying...)", .disconnected)
  | .connecting => ("CONNECTING", .connecting)
  | .connected => if frozen then ("PAUSED", .paused) else ("CONNECTED", .connected)

/-- The status line for the current state. -/
def format (s : StatusInput) : StatusLine :=
  match s.notice.filter (·.isActive s.now) with
  | some n => ⟨n.text, .notice⟩
  | none =>
    let (state, tone) := stateWords s.link s.frozen
    let scale := if s.autoScale then "[AUTO]" else "[MANUAL]"
    let text := "Status: " ++ state ++ " | Scale: " ++ scale ++ " | Throughput: " ++
      Decimal.fixed 1 s.kbps ++ " kB/s"
    let text := match s.hover with
      | some h => text ++ " | Value: " ++ toString h.value.toNat ++ " @ " ++ toString h.index
      | none => text
    ⟨text, tone⟩

theorem format_of_active (s : StatusInput) (n : Notice) (hn : s.notice = some n)
    (ha : n.isActive s.now = true) : format s = ⟨n.text, .notice⟩ := by
  simp [format, hn, Option.filter, ha]

end StatusLine

end WaveScope
