/-!
# Decimal text of binary64 values

Two ways of writing a `Float` in decimal, both computed exactly on the integers that the value's
bits decode to.

**Shortest digits.**  `Binary.shortest` finds the decimal with the fewest significant digits that
reads back as the same value: a decimal reads back when it lies in the interval of reals that round
to the value (`Binary.readsBack`).  For one digit, two digits, and so on, the two neighbours of
the value on that decimal grid are tested; the first grid with a hit wins, and of two hits the
nearer one, an exact tie going to the even digit string.

**Fixed places.**  `fixed` rounds the exact value to a given number of places after the point,
ties to even, and writes every digit: no exponent, a minus sign for every negative value
including negative zero.

Layouts on top of the shortest digits: `plainText` (positional, `.0` only where the caller adds
it) and `numberText` (the layout used for numbers in answers: positional from `1e-5` to `1e16`,
otherwise one leading digit and an exponent).
-/

namespace WaveScope.Decimal

/-- A finite non-negative binary64 magnitude `mantissa * 2 ^ exponent`. -/
structure Binary where
  mantissa : Nat
  exponent : Int
  /-- The gap to the next value below is half the gap to the next value above. -/
  narrowBelow : Bool

/-- The magnitude that a bit pattern stands for; the sign bit is ignored, and the bits must not
be those of a NaN or an infinity. -/
def Binary.ofBits (b : UInt64) : Binary :=
  let e := ((b >>> 52) &&& 0x7FF).toNat
  let f := (b &&& 0xFFFFFFFFFFFFF).toNat
  if e == 0 then ⟨f, -1074, false⟩ else ⟨Nat.pow 2 52 + f, (e : Int) - 1075, f == 0 && e > 1⟩

/-- A decimal `digits * 10 ^ exp`. -/
structure Dec where
  digits : Nat
  exp : Int
deriving Repr, DecidableEq

/-- Compares `a * 10^i` with `n * 2^j` exactly. -/
def cmpScaled (a : Nat) (i : Int) (n : Nat) (j : Int) : Ordering :=
  compare (a * Nat.pow 10 i.toNat * Nat.pow 2 (-j).toNat) (n * Nat.pow 2 j.toNat * Nat.pow 10 (-i).toNat)

/-- The decimal lies among the reals that round to the value (to nearest, ties to even): strictly
inside the interval between the halfway points to the neighbours, or on an end when the
mantissa is even. -/
def Binary.readsBack (x : Binary) (d : Dec) : Bool :=
  let lo := if x.narrowBelow then 4 * x.mantissa - 1 else 4 * x.mantissa - 2
  let hi := 4 * x.mantissa + 2
  let incl := x.mantissa % 2 == 0
  let cl := cmpScaled d.digits d.exp lo (x.exponent - 2)
  let ch := cmpScaled d.digits d.exp hi (x.exponent - 2)
  (cl == .gt || (incl && cl == .eq)) && (ch == .lt || (incl && ch == .eq))

/-- The value divided by `10 ^ g`, as a numerator and a denominator. -/
def Binary.overPow10 (x : Binary) (g : Int) : Nat × Nat :=
  (x.mantissa * Nat.pow 2 x.exponent.toNat * Nat.pow 10 (-g).toNat,
    Nat.pow 2 (-x.exponent).toNat * Nat.pow 10 g.toNat)

/-- The value is below `10 ^ k`. -/
def Binary.belowPow10 (x : Binary) (k : Int) : Bool :=
  cmpScaled 1 k x.mantissa x.exponent == .gt

/-- The least `k` with value `< 10^k`, for a non-zero value: an estimate from the binary length,
corrected by exact comparisons. -/
def Binary.scale (x : Binary) : Int :=
  let bits : Int := (Nat.log2 x.mantissa + 1 : Nat) + x.exponent
  let guess : Int := (bits * 30103).fdiv 100000
  let up := (List.range 4).find? (fun (i : Nat) => x.belowPow10 (guess + (i : Int)))
  let k := match up with
    | some i => guess + (i : Int)
    | none => guess + 4
  match (List.range 4).find? (fun (i : Nat) => !x.belowPow10 (k - 1 - (i : Int))) with
  | some i => k - (i : Int)
  | none => k - 4

/-- Removes trailing zero digits into the exponent. -/
def Dec.strip (d : Dec) : Dec :=
  go d.digits.log2 d
where
  go : Nat → Dec → Dec
    | 0, d => d
    | fuel + 1, d =>
      if d.digits != 0 && d.digits % 10 == 0 then go fuel ⟨d.digits / 10, d.exp + 1⟩ else d

/-- The candidate on the grid `10 ^ g` that reads back, if any: of the two neighbours of the value
the one that reads back, the nearer if both do, the even one on an exact tie. -/
def Binary.onGrid (x : Binary) (g : Int) : Option Dec :=
  let (num, den) := x.overPow10 g
  let lo := num / den
  let okLo := lo != 0 && x.readsBack ⟨lo, g⟩
  let okHi := x.readsBack ⟨lo + 1, g⟩
  if okLo && okHi then
    let twice := 2 * num
    let mid := (2 * lo + 1) * den
    if twice < mid then some ⟨lo, g⟩
    else if twice > mid then some ⟨lo + 1, g⟩
    else if lo % 2 == 0 then some ⟨lo, g⟩ else some ⟨lo + 1, g⟩
  else if okLo then some ⟨lo, g⟩
  else if okHi then some ⟨lo + 1, g⟩
  else none

/-- The exact decimal value of the magnitude. -/
def Binary.exact (x : Binary) : Dec :=
  if x.exponent ≥ 0 then ⟨x.mantissa * Nat.pow 2 x.exponent.toNat, 0⟩
  else ⟨x.mantissa * Nat.pow 5 (-x.exponent).toNat, x.exponent⟩

/-- The shortest decimal that reads back as the non-zero magnitude `x`, with no trailing zero
digits. -/
def Binary.shortest (x : Binary) : Dec :=
  let k := x.scale
  match (List.range 17).findSome? (fun n => x.onGrid (k - (n + 1 : Nat))) with
  | some d => d.strip
  | none => x.exact.strip

/-- What a `Float` is, for writing it in decimal. -/
inductive Shape where
  | nan
  | infinite (negative : Bool)
  | zero (negative : Bool)
  | finite (negative : Bool) (magnitude : Binary)

/-- Sorts a value into NaN, an infinity, a zero or a finite non-zero magnitude. -/
def shape (x : Float) : Shape :=
  let b := x.toBits
  let negative := b >>> 63 == 1
  let e := (b >>> 52) &&& 0x7FF
  let f := b &&& 0xFFFFFFFFFFFFF
  if e == 0x7FF then (if f == 0 then .infinite negative else .nan)
  else if e == 0 && f == 0 then .zero negative
  else .finite negative (Binary.ofBits b)

/-- The decimal digits of a natural number. -/
def digitText (n : Nat) : String :=
  String.ofList (Nat.toDigits 10 n)

/-- A run of `n` zeros. -/
def zeros (n : Nat) : String :=
  String.ofList (List.replicate n '0')

/-- A decimal written positionally, without a point when it is integral. -/
def Dec.plain (d : Dec) : String :=
  let s := digitText d.digits
  if d.exp ≥ 0 then s ++ zeros d.exp.toNat
  else
    let places := (-d.exp).toNat
    if s.length > places then
      String.ofList (s.toList.take (s.length - places)) ++ "." ++
        String.ofList (s.toList.drop (s.length - places))
    else "0." ++ zeros (places - s.length) ++ s

/-- A value written positionally with its shortest digits: `1` for one, `0.1`, `1e21` as
twenty-two digits, `-0` for negative zero; NaN is `NaN` and the infinities `inf` and `-inf`. -/
def plainText (x : Float) : String :=
  match shape x with
  | .nan => "NaN"
  | .infinite neg => if neg then "-inf" else "inf"
  | .zero neg => if neg then "-0" else "0"
  | .finite neg m => (if neg then "-" else "") ++ m.shortest.plain

/-- A shortest decimal laid out for an answer: positional with a point when the leading digit's
place `p` has `-5 ≤ p < 16` (integral values end in `.0`), otherwise one digit before the point
and an exponent `e` with its sign (`1e+30`, `1.5e-7`). -/
def Dec.number (d : Dec) : String :=
  let s := digitText d.digits
  let len := s.length
  let kk : Int := len + d.exp
  if 0 ≤ d.exp && kk ≤ 16 then s ++ zeros d.exp.toNat ++ ".0"
  else if 0 < kk && kk ≤ 16 then
    String.ofList (s.toList.take kk.toNat) ++ "." ++ String.ofList (s.toList.drop kk.toNat)
  else if -5 < kk && kk ≤ 0 then "0." ++ zeros (-kk).toNat ++ s
  else
    let e := kk - 1
    let mant := if len == 1 then s else
      String.ofList (s.toList.take 1) ++ "." ++ String.ofList (s.toList.drop 1)
    mant ++ "e" ++ (if e < 0 then "-" else "+") ++ digitText e.natAbs

/-- A finite value as answers write numbers (`16384.0`, `-0.0`, `1e+308`, `5e-324`); `none` for
NaN and the infinities, which answers write as text. -/
def numberText? (x : Float) : Option String :=
  match shape x with
  | .nan => none
  | .infinite _ => none
  | .zero neg => some (if neg then "-0.0" else "0.0")
  | .finite neg m => some ((if neg then "-" else "") ++ m.shortest.number)

/-- Rounds `num / den` to the nearest natural, an exact half going to the even neighbour. -/
def roundHalfEven (num den : Nat) : Nat :=
  let q := num / den
  let r := num % den
  if 2 * r < den then q
  else if 2 * r > den then q + 1
  else if q % 2 == 0 then q else q + 1

/-- A value with exactly `places` digits after the point (none and no point for `0`), rounded
from its exact binary value with ties to even; negative values, negative zero included, carry a
minus sign; NaN is `NaN` and the infinities `inf` and `-inf`. -/
def fixed (places : Nat) (x : Float) : String :=
  let body (n : Nat) : String :=
    let s := digitText n
    if places == 0 then s
    else
      let s := if s.length ≤ places then zeros (places + 1 - s.length) ++ s else s
      String.ofList (s.toList.take (s.length - places)) ++ "." ++
        String.ofList (s.toList.drop (s.length - places))
  match shape x with
  | .nan => "NaN"
  | .infinite neg => if neg then "-inf" else "inf"
  | .zero neg => (if neg then "-" else "") ++ body 0
  | .finite neg m =>
    let scaled : Nat × Nat :=
      (m.mantissa * Nat.pow 2 m.exponent.toNat * Nat.pow 10 places, Nat.pow 2 (-m.exponent).toNat)
    (if neg then "-" else "") ++ body (roundHalfEven scaled.1 scaled.2)

end WaveScope.Decimal
