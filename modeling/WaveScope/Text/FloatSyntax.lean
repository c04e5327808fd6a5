/-!
# Reading a binary64 value from text

The accepted grammar: an optional sign, then either one of the words `inf`, `infinity`, `nan` in
any letter case, or a decimal with digits before or after an optional point (at least one digit in
all) and an optional exponent `e`/`E` with an optional sign and at least one digit.  Nothing else
is accepted, blanks included.  The value is the decimal rounded to the nearest binary64 value.

**Main statement.**  `readFloat_empty` says the empty text is refused as empty.
-/

namespace WaveScope.Text

/-- Why a text is not a number. -/
inductive FloatSyntaxError where
  | empty
  | invalid
deriving DecidableEq, Repr

/-- The wording of the two refusals. -/
def FloatSyntaxError.message : FloatSyntaxError → String
  | .empty => "cannot parse float from empty string"
  | .invalid => "invalid float literal"

/-- The value of the natural number written by a list of decimal digits. -/
def digitsValue (ds : List Char) : Nat :=
  ds.foldl (fun acc d => acc * 10 + (d.toNat - '0'.toNat)) 0

/-- The nearest binary64 value to `m * 10 ^ e`; values far outside the finite range become an
infinity or zero without computing the power. -/
def scientificValue (m : Nat) (e : Int) : Float :=
  if m == 0 then 0.0
  else
    let digits := (Nat.toDigits 10 m).length
    if (digits : Int) + e > 310 then 1.0 / 0.0
    else if (digits : Int) + e < -330 then 0.0
    else Float.ofScientific m (e < 0) e.natAbs

/-- Reads an unsigned decimal: digits, an optional point with digits, an optional exponent. -/
def readDecimal (cs : List Char) : Option Float :=
  let intPart := cs.takeWhile Char.isDigit
  let rest := cs.dropWhile Char.isDigit
  let (fracPart, rest) := match rest with
    | '.' :: r => (r.takeWhile Char.isDigit, r.dropWhile Char.isDigit)
    | r => ([], r)
  if intPart.isEmpty && fracPart.isEmpty then none
  else
    let m := digitsValue (intPart ++ fracPart)
    let shift : Int := fracPart.length
    match rest with
    | [] => some (scientificValue m (-shift))
    | e :: r =>
      if e != 'e' && e != 'E' then none
      else
        let (neg, ds) := match r with
          | '+' :: ds => (false, ds)
          | '-' :: ds => (true, ds)
          | ds => (false, ds)
        if ds.isEmpty || !ds.all Char.isDigit then none
        else
          let ev : Int := digitsValue ds
          some (scientificValue m ((if neg then -ev else ev) - shift))

/-- Reads a binary64 value from text by the grammar above. -/
def readFloat (s : String) : Except FloatSyntaxError Float :=
  if s.isEmpty then .error .empty
  else
    let (neg, body) := match s.toList with
      | '+' :: r => (false, r)
      | '-' :: r => (true, r)
      | r => (false, r)
    let word := String.ofList (body.map Char.toLower)
    let magnitude :=
      if word == "inf" || word == "infinity" then some (1.0 / 0.0)
      else if word == "nan" then some (0.0 / 0.0)
      else readDecimal body
    match magnitude with
    | some v => .ok (if neg then -v else v)
    | none => .error .invalid

theorem readFloat_empty : readFloat "" = .error .empty := rfl

end WaveScope.Text
