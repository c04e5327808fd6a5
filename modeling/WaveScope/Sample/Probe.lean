import WaveScope.Numeric.Binary64
import WaveScope.Sample.Window

/-!
# Probing the window at a data position

A pointer over the plot stands at a data position `x`.  The sample it inspects is the one at the
nearest position, halves rounding up, provided `0 ≤ x < capacity`; the last position catches
values between `capacity - 1/2` and `capacity`.

**Main statements.**  `probe_of_outside` says nothing is inspected outside `[0, capacity)`;
`index_lt_of_probe` says an inspected position lies inside the window.
-/

namespace WaveScope

/-- An inspected sample: its position and value. -/
structure Hover where
  index : Nat
  value : UInt32
deriving DecidableEq, Repr

namespace SampleWindow

/-- The sample nearest to data position `x`, when `0 ≤ x < capacity`. -/
def probe (w : SampleWindow) (x : Float) : Option Hover :=
  if x ≥ 0 && x < Float.ofNat w.capacity then
    let index := min (Numeric.roundCount x) (w.capacity - 1)
    (w.get? index).map fun value => ⟨index, value⟩
  else none

theorem probe_of_outside (w : SampleWindow) {x : Float}
    (h : (x ≥ 0 && x < Float.ofNat w.capacity) = false) : w.probe x = none := by
  simp only [probe, h]
  rfl

theorem index_lt_of_probe {w : SampleWindow} {x : Float} {h : Hover}
    (hp : w.probe x = some h) : h.index < w.capacity := by
  unfold probe at hp
  split at hp
  · simp only [Option.map_eq_some_iff, get?] at hp
    obtain ⟨v, hv, rfl⟩ := hp
    have := w.size_pos
    simp only [capacity]
    omega
  · cases hp

end SampleWindow

end WaveScope
