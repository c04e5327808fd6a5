import WaveScope.Text.Blank
import WaveScope.Text.FloatSyntax

/-!
# Setting values from text

The vertical range's initial top and the port, read from text as the environment and the command
line give them.  The top must be a finite number above zero; the port a decimal number below
`65536`, with an optional `+` in front.  Surrounding blanks are trimmed first.

**Main statement.**  `checkedYMax_some_iff` says which values are kept.
-/

namespace WaveScope.Settings

/-- A finite value above zero, or nothing. -/
def checkedYMax (v : Float) : Option Float :=
  if v.isFinite && v > 0 then some v else none

theorem checkedYMax_some_iff (v : Float) :
    (checkedYMax v).isSome = true ↔ (v.isFinite = true ∧ v > 0) := by
  unfold checkedYMax
  split <;> simp_all

/-- Reads the initial top of the vertical range, with the wording of each refusal. -/
def parseYMax (s : String) : Except String Float :=
  match Text.readFloat (Text.trimBlank s) with
  | .error e => .error ("invalid number: " ++ e.message)
  | .ok v =>
    match checkedYMax v with
    | some v => .ok v
    | none => .error ("must be a finite number above 0, got " ++ s)

/-- Reads an unsigned decimal number below `2 ^ bits`: an optional `+`, then digits only. -/
def parseUnsigned (bits : Nat) (s : String) : Option Nat :=
  let ds := match s.toList with
    | '+' :: rest => rest
    | cs => cs
  if ds.isEmpty || !ds.all Char.isDigit then none
  else
    let v := Text.digitsValue ds
    if v < Nat.pow 2 bits then some v else none

/-- Reads a port from text with blanks around it. -/
def parsePort (s : String) : Option Nat := parseUnsigned 16 (Text.trimBlank s)

end WaveScope.Settings
