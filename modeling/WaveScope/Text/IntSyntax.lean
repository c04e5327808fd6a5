/-!
# Reading a machine integer from text

Decimal text for an integer type with bounds `lo` and `hi`: an optional `+`, or a `-` when the
type is signed, then decimal digits.  The digits are read from the left, and the first fault found
is the one reported, so a digit that is out of place after the value has already left the bounds
is not reached.
-/

namespace WaveScope.Text

/-- Why a text is not an integer of the type. -/
inductive IntSyntaxError where
  | empty
  | invalidDigit
  | tooLarge
  | tooSmall
deriving DecidableEq, Repr

/-- The wording of each refusal. -/
def IntSyntaxError.message : IntSyntaxError → String
  | .empty => "cannot parse integer from empty string"
  | .invalidDigit => "invalid digit found in string"
  | .tooLarge => "number too large to fit in target type"
  | .tooSmall => "number too small to fit in target type"

/-- Accumulates digits from the left into `acc`, away from zero in the direction `negative`,
stopping at the first character that is not a digit or the first step out of `lo ..= hi`. -/
def accumulateDigits (negative : Bool) (lo hi : Int) : Int → List Char → Except IntSyntaxError Int
  | acc, [] => .ok acc
  | acc, c :: cs =>
    if !c.isDigit then .error .invalidDigit
    else
      let d : Int := c.toNat - '0'.toNat
      let next := if negative then acc * 10 - d else acc * 10 + d
      if next > hi then .error .tooLarge
      else if next < lo then .error .tooSmall
      else accumulateDigits negative lo hi next cs

/-- Reads the integer written by `s` for a type with bounds `lo ..= hi`; `signed` tells whether
a leading `-` is a sign. -/
def readInt (signed : Bool) (lo hi : Int) (s : String) : Except IntSyntaxError Int :=
  match s.toList with
  | [] => .error .empty
  | ['+'] | ['-'] => .error .invalidDigit
  | '+' :: ds => accumulateDigits false lo hi 0 ds
  | '-' :: ds => if signed then accumulateDigits true lo hi 0 ds else .error .invalidDigit
  | ds => accumulateDigits false lo hi 0 ds

/-- The bounds of a signed 64-bit integer. -/
def i64Min : Int := -(Int.pow 2 63)

/-- The largest signed 64-bit integer. -/
def i64Max : Int := Int.pow 2 63 - 1

/-- The largest unsigned 64-bit integer. -/
def u64Max : Int := Int.pow 2 64 - 1

example : readInt false 0 u64Max "42" = .ok 42 := by rfl

end WaveScope.Text
