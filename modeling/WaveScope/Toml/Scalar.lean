import WaveScope.Toml.Scan
import WaveScope.Text.FloatSyntax

/-!
# TOML scalars

The lexical grammar of TOML 1.0: blanks, newlines and comments, the four kinds of string, the
integers in four bases, floats and date-times.  Each reader is named for its rule of the
grammar and quotes it.

A malformed scalar is reported inside the construct it started: once a reader has seen the
first characters of a construct, a later mistake is committed, so the report names that
construct (`invalid basic string`) and the place of the mistake.

**Main statements.**  `isKeyChar_iff` lists the characters of a bare key.
-/

namespace WaveScope.Toml

open Scan

/-- Rule `wschar = %x20 / %x09` -/
def isWsChar (c : Char) : Bool := c == ' ' || c == '\t'

/-- Rule `non-ascii`: every character beyond ASCII. -/
def isNonAscii (c : Char) : Bool := c.toNat ≥ 0x80

/-- Rule `non-eol = %x09 / %x20-7E / non-ascii` -/
def isNonEol (c : Char) : Bool :=
  c == '\t' || (0x20 ≤ c.toNat && c.toNat ≤ 0x7E) || isNonAscii c

/-- Rule `DIGIT = %x30-39` -/
def isDigit (c : Char) : Bool := '0' ≤ c && c ≤ '9'

/-- Rule `HEXDIG = DIGIT / "A" / "B" / "C" / "D" / "E" / "F"`, in either case. -/
def isHexDigit (c : Char) : Bool := isDigit c || ('A' ≤ c && c ≤ 'F') || ('a' ≤ c && c ≤ 'f')

/-- Rule `unquoted-key = 1*( ALPHA / DIGIT / %x2D / %x5F )` -/
def isKeyChar (c : Char) : Bool :=
  ('A' ≤ c && c ≤ 'Z') || ('a' ≤ c && c ≤ 'z') || isDigit c || c == '-' || c == '_'

/-- Rule `basic-unescaped = wschar / %x21 / %x23-5B / %x5D-7E / non-ascii` -/
def isBasicUnescaped (c : Char) : Bool :=
  isWsChar c || c.toNat == 0x21 || (0x23 ≤ c.toNat && c.toNat ≤ 0x5B) ||
    (0x5D ≤ c.toNat && c.toNat ≤ 0x7E) || isNonAscii c

/-- Rule `literal-char = %x09 / %x20-26 / %x28-7E / non-ascii` -/
def isLiteralChar (c : Char) : Bool :=
  c == '\t' || (0x20 ≤ c.toNat && c.toNat ≤ 0x26) || (0x28 ≤ c.toNat && c.toNat ≤ 0x7E) ||
    isNonAscii c

theorem isKeyChar_iff (c : Char) :
    isKeyChar c = true ↔ (('A' ≤ c ∧ c ≤ 'Z') ∨ ('a' ≤ c ∧ c ≤ 'z') ∨ ('0' ≤ c ∧ c ≤ '9') ∨
      c = '-' ∨ c = '_') := by
  simp [isKeyChar, isDigit, or_assoc]

/-- A failure of the reader says each of these would have been accepted, in this order. -/
def expectAll {α : Type} (xs : List String) (p : Scan α) : Scan α := xs.foldl (fun q x => expect x q) p

/-- Rule `ws = *wschar` -/
def ws : Scan Unit := do
  let _ ← takeWhile isWsChar 0 none

/-- Rule `newline = %x0A / %x0D.0A`.  The first character is taken before it is looked at, so a
failure is reported after it: after a carriage return that no line feed follows, or after any
other character. -/
def newline : Scan Unit := do
  let c ← anyChar
  match c with
  | '\n' => pure ()
  | '\r' => do let _ ← charIf (· == '\n')
  | _ => Scan.fail

/-- Rule `comment = comment-start-symbol *non-eol` -/
def comment : Scan Unit := do
  let _ ← charIf (· == '#')
  let _ ← takeWhile isNonEol 0 none

/-- A line ends with a newline or with the text. -/
def lineEnding : Scan Unit := firstOf [newline, eof]

/-- What may follow a value or a header on its line: blanks, a comment, the end of the line. -/
def lineTrailing : Scan Unit := expectAll ["newline", "`#`"] do
  ws
  let _ ← attempt comment
  lineEnding

/-- Rule `ws-newline = *( wschar / newline )` -/
def wsNewline : Scan Unit := do
  let _ ← many (firstOf [newline, do let _ ← takeWhile isWsChar 1 none])

/-- Rule `ws-newlines = newline *( wschar / newline )` -/
def wsNewlines : Scan Unit := do
  newline
  wsNewline

/-- One round of `ws-comment-newline`: blanks, then a comment and its newline or a newline, if one
starts there.  Whether it went on past the blanks. -/
def blankLine : Scan Bool := do
  ws
  match ← peek? with
  | some '#' => do comment; newline; pure true
  | some '\n' | some '\r' => do newline; pure true
  | _ => pure false

/-- Rounds of `blankLine` while they read something, at most `fuel` of them. -/
def blankLines : Nat → Scan Unit
  | 0 => pure ()
  | fuel + 1 => fun s i =>
    match blankLine s i with
    | .ok (true, j) => if j ≤ i then .ok ((), j) else blankLines fuel s j
    | .ok (false, j) => .ok ((), j)
    | .error e => .error e

/-- Rule `ws-comment-newline = *( wschar / [ comment ] newline )`.  A comment or a carriage return
that no newline completes is a failure, where the newline was expected. -/
def wsCommentNewline : Scan Unit := fun s i => blankLines (s.size + 1) s i

/-! ## Strings -/

/-- The value of hexadecimal digits. -/
def hexValue (ds : List Char) : Nat :=
  ds.foldl (fun acc d =>
    acc * 16 + (if isDigit d then d.toNat - '0'.toNat
      else if 'a' ≤ d then d.toNat - 'a'.toNat + 10 else d.toNat - 'A'.toNat + 10)) 0

/-- The code is a Unicode scalar value: below the surrogates, or above them up to `0x10FFFF`. -/
def isScalar (v : Nat) : Bool := v < 0xD800 || (0xE000 ≤ v && v ≤ 0x10FFFF)

/-- Rules `%x75 4HEXDIG` and `%x55 8HEXDIG`: exactly `n` hexadecimal digits naming a scalar value. -/
def hexEscape (n : Nat) : Scan Char := do
  let start ← pos
  let digits : Scan String := do
    let ds ← takeWhile isHexDigit 0 (some n)
    if ds.length == n then pure ds else failAt start none false
  check digits fun ds =>
    let v := hexValue ds.toList
    if isScalar v then .ok (Char.ofNat v) else .error "value is out of range"

/-- Rule `escape-seq-char`: the character an escape stands for.  An unknown escape is marked
from the character after the backslash to the first character boundary more than one byte past
its start: that character when it takes several bytes, else it and the next one. -/
def escapeSeqChar : Scan Char := do
  let start ← pos
  let c ← anyChar
  match c with
  | 'b' => pure '\x08'
  | 'f' => pure '\x0c'
  | 'n' => pure '\n'
  | 'r' => pure '\r'
  | 't' => pure '\t'
  | '\\' => pure '\\'
  | '"' => pure '"'
  | 'u' => label "unicode 4-digit hex code" (cut (hexEscape 4))
  | 'U' => label "unicode 8-digit hex code" (cut (hexEscape 8))
  | _ => do
    let next ← peek?
    let bytes := if c.utf8Size > 1 then c.utf8Size else 1 + ((next.map Char.utf8Size).getD 0)
    expectAll ["`b`", "`f`", "`n`", "`r`", "`t`", "`u`", "`U`", "`\\`", "`\"`"]
      (label "escape sequence" (cut (failSpanning start bytes)))

/-- Rule `escaped = escape escape-seq-char` -/
def escaped : Scan Char := do
  let _ ← charIf (· == '\\')
  escapeSeqChar

/-- Rule `basic-char = basic-unescaped / escaped`, a run at a time. -/
def basicChars : Scan String :=
  firstOf [takeWhile isBasicUnescaped 1 none, do return String.singleton (← escaped)]

/-- Rule `basic-string = quotation-mark *basic-char quotation-mark` -/
def basicString : Scan String := do
  let _ ← charIf (· == '"')
  let parts ← many basicChars
  let _ ← label "basic string" (cut (charIf (· == '"')))
  pure (String.join parts)

/-- Rule `literal-string = apostrophe *literal-char apostrophe` -/
def literalString : Scan String := label "literal string" do
  let _ ← charIf (· == '\'')
  let body ← cut (takeWhile isLiteralChar 0 none)
  let _ ← cut (charIf (· == '\''))
  pure body

/-- Rule `mlb-escaped-nl = escape ws newline *( wschar / newline )`: a line-ending backslash, which
drops the blanks and newlines after it. -/
def mlbEscapedNewline : Scan Unit := do
  let _ ← many1 (do let _ ← charIf (· == '\\'); ws; wsNewlines)

/-- Rule `mlb-content = mlb-char / newline / mlb-escaped-nl` -/
def mlbContent : Scan String :=
  firstOf [takeWhile isBasicUnescaped 1 none, do mlbEscapedNewline; pure "",
    do return String.singleton (← escaped), do newline; pure "\n"]

/-- Rule `1*2quote`, when `term` follows: two quotes if they fit, else one. -/
def quotesBefore (q : Char) (term : Scan Unit) : Scan String :=
  orElse (do literal [q, q]; lookAhead term; pure (String.ofList [q, q]))
    (do literal [q]; lookAhead term; pure (String.singleton q))

/-- The quotes and contents of a multi-line basic body after its first contents. -/
def mlbQuotedParts : Nat → String → Scan String
  | 0, acc => pure acc
  | fuel + 1, acc => do
    match ← attempt (quotesBefore '"' (do let _ ← charIf (· != '"'))) with
    | none => pure acc
    | some q =>
      match ← attempt mlbContent with
      | none => pure acc
      | some c =>
        let more ← many mlbContent
        mlbQuotedParts fuel (acc ++ q ++ c ++ String.join more)

/-- Rule `ml-basic-body = *mlb-content *( mlb-quotes 1*mlb-content ) [ mlb-quotes ]` -/
def mlBasicBody : Scan String := do
  let first ← many mlbContent
  let s ← text
  let i ← pos
  let body ← mlbQuotedParts (s.size + 1 - i) (String.join first)
  let last ← attempt (quotesBefore '"' (literal ['"', '"', '"']))
  pure (body ++ last.getD "")

/-- Rule `ml-basic-string = ml-basic-string-delim [ newline ] ml-basic-body ml-basic-string-delim` -/
def mlBasicString : Scan String := label "multiline basic string" do
  literal ['"', '"', '"']
  let _ ← attempt newline
  let body ← cut mlBasicBody
  cut (literal ['"', '"', '"'])
  pure body

/-- Rule `mll-content = mll-char / newline` -/
def mllContent : Scan String :=
  firstOf [do return String.singleton (← charIf isLiteralChar), do newline; pure "\n"]

/-- Rule `ml-literal-body = *mll-content *( mll-quotes 1*mll-content ) [ mll-quotes ]` -/
def mlLiteralBody : Scan String := do
  let first ← many mllContent
  let middle ← many do
    let q ← quotesBefore '\'' (do let _ ← charIf (· != '\''))
    let cs ← many1 mllContent
    pure (q ++ String.join cs)
  let last ← attempt (quotesBefore '\'' (literal ['\'', '\'', '\'']))
  pure (String.join first ++ String.join middle ++ last.getD "")

/-- Rule `ml-literal-string = ml-literal-string-delim [ newline ] ml-literal-body
ml-literal-string-delim` -/
def mlLiteralString : Scan String := label "multiline literal string" do
  literal ['\'', '\'', '\'']
  let _ ← attempt newline
  let body ← cut mlLiteralBody
  cut (literal ['\'', '\'', '\''])
  pure body

/-- Rule `string = ml-basic-string / basic-string / ml-literal-string / literal-string` -/
def string : Scan String := firstOf [mlBasicString, basicString, mlLiteralString, literalString]

/-! ## Numbers -/

/-- One decimal digit. -/
def digit : Scan Char := charIf isDigit

/-- Rule `*( d / underscore d )`: more digits, an underscore only between two. -/
def moreDigits (d : Scan Char) : Scan Unit := do
  let _ ← many (firstOf [do let _ ← d,
    do let _ ← charIf (· == '_'); let _ ← expect "digit" (cut d)])

/-- A sign. -/
def sign : Scan Char := charIf fun c => c == '+' || c == '-'

/-- Rule `dec-int = [ minus / plus ] unsigned-dec-int` -/
def decInt : Scan String := label "integer" (recognize do
  let _ ← attempt sign
  firstOf [do let _ ← charIf (fun c => '1' ≤ c && c ≤ '9'); moreDigits digit, do let _ ← digit])

/-- Rule `zero-prefixable-int = DIGIT *( DIGIT / underscore DIGIT )` -/
def zeroPrefixableInt : Scan String := recognize do
  let _ ← digit
  moreDigits digit

/-- Rule `frac = decimal-point zero-prefixable-int` -/
def frac : Scan String := recognize do
  let _ ← charIf (· == '.')
  let _ ← expect "digit" (cut zeroPrefixableInt)

/-- Rule `exp = "e" float-exp-part` -/
def exponent : Scan String := recognize do
  let _ ← charIf fun c => c == 'e' || c == 'E'
  let _ ← attempt sign
  let _ ← cut zeroPrefixableInt

/-- Rule `float-int-part ( exp / frac [ exp ] )`, as written. -/
def floatText : Scan String := recognize do
  let _ ← decInt
  firstOf [do let _ ← exponent, do let _ ← frac; let _ ← attempt exponent]

/-- The text without its digit separators. -/
def withoutSeparators (s : String) : String := String.ofList (s.toList.filter (· != '_'))

/-- Rule `special-float = [ minus / plus ] ( inf / nan )` -/
def specialFloat : Scan Float := do
  let s ← attempt sign
  let v ← firstOf [do literal ['i', 'n', 'f']; pure (1.0 / 0.0 : Float),
    do literal ['n', 'a', 'n']; pure (0.0 / 0.0 : Float)]
  pure (if s == some '-' then -v else v)

/-- Rule `float`: the nearest double of the decimal; one that rounds to positive infinity is refused
at its first character. -/
def float : Scan Float := label "floating-point number" (firstOf [
  do
    let start ← pos
    let t ← floatText
    let x := match Text.readFloat (withoutSeparators t) with
      | .ok x => x
      | .error _ => 0.0
    if x.isInf && x > 0 then failAt start none true else pure x,
  specialFloat])

/-- The largest integer of TOML, `2 ^ 63 - 1`. -/
def intMax : Nat := Nat.pow 2 63 - 1

/-- The value of digits in a base, if it is at most `intMax`. -/
def radixValue (base : Nat) (s : String) : Except String Int :=
  let v := (withoutSeparators s).toList.foldl (fun acc d =>
    acc * base + (if isDigit d then d.toNat - '0'.toNat
      else if 'a' ≤ d then d.toNat - 'a'.toNat + 10 else d.toNat - 'A'.toNat + 10)) 0
  if v ≤ intMax then .ok v else .error "number too large to fit in target type"

/-- The value of a signed decimal integer, if it fits in 64 bits. -/
def decimalValue (s : String) : Except String Int :=
  match (withoutSeparators s).toList with
  | '-' :: ds =>
    let v := Text.digitsValue ds
    if v ≤ intMax + 1 then .ok (-(v : Int)) else .error "number too small to fit in target type"
  | '+' :: ds | ds =>
    let v := Text.digitsValue ds
    if v ≤ intMax then .ok v else .error "number too large to fit in target type"

/-- Rules `hex-int`, `oct-int` or `bin-int`: a prefix, then digits of the base. -/
def prefixedInt (prefixChar : Char) (isBaseDigit : Char → Bool) (name : String) : Scan String :=
  label name do
    literal ['0', prefixChar]
    cut (recognize do
      let _ ← charIf isBaseDigit
      moreDigits (charIf isBaseDigit))

/-- Rule `integer = dec-int / hex-int / oct-int / bin-int` -/
def integer : Scan Int := do
  match ← peekMany 2 with
  | ['0', 'x'] => cut (check (prefixedInt 'x' isHexDigit "hexadecimal integer") (radixValue 16))
  | ['0', 'o'] => cut (check (prefixedInt 'o' (fun c => '0' ≤ c && c ≤ '7') "octal integer")
      (radixValue 8))
  | ['0', 'b'] => cut (check (prefixedInt 'b' (fun c => c == '0' || c == '1') "binary integer")
      (radixValue 2))
  | _ => do
    let start ← pos
    let t ← decInt
    match decimalValue t with
    | .ok v => pure v
    | .error m => failAt start (some m) true

/-! ## Date-times -/

/-- Between `least` and `most` decimal digits. -/
def digitsOf (least most : Nat) : Scan String := takeWhile isDigit least (some most)

/-- Two digits whose value lies in `[lo, hi]`. -/
def twoDigitsIn (lo hi : Nat) : Scan Nat :=
  check (digitsOf 2 2) fun s =>
    let d := Text.digitsValue s.toList
    if lo ≤ d && d ≤ hi then .ok d else .error "value is out of range"

/-- The year has a 29th of February. -/
def isLeapYear (y : Nat) : Bool := y % 4 == 0 && (y % 100 != 0 || y % 400 == 0)

/-- The number of days of a month of a year. -/
def daysInMonth (y m : Nat) : Nat :=
  match m with
  | 2 => if isLeapYear y then 29 else 28
  | 4 | 6 | 9 | 11 => 30
  | _ => 31

/-- Rule `full-date = date-fullyear "-" date-month "-" date-mday` -/
def fullDate : Scan Unit := do
  let year := Text.digitsValue (← digitsOf 4 4).toList
  let _ ← charIf (· == '-')
  let month ← cut (twoDigitsIn 1 12)
  let _ ← cut (charIf (· == '-'))
  let dayStart ← pos
  let day ← cut (twoDigitsIn 1 31)
  if day > daysInMonth year month then failAt dayStart (some "value is out of range") true
  else pure ()

/-- Rule `partial-time = time-hour ":" time-minute ":" time-second [ time-secfrac ]` -/
def partialTime : Scan Unit := do
  let _ ← twoDigitsIn 0 23
  let _ ← charIf (· == ':')
  cut do
    let _ ← twoDigitsIn 0 59
    let _ ← charIf (· == ':')
    let _ ← twoDigitsIn 0 60
    let _ ← attempt (do let _ ← charIf (· == '.'); let _ ← takeWhile isDigit 1 none)

/-- Rule `time-offset = "Z" / ( "+" / "-" ) time-hour ":" time-minute` -/
def timeOffset : Scan Unit := label "time offset" (firstOf [
  do let _ ← charIf fun c => c == 'Z' || c == 'z',
  do
    let _ ← sign
    cut do
      let _ ← twoDigitsIn 0 23
      let _ ← charIf (· == ':')
      let _ ← twoDigitsIn 0 59])

/-- Rule `date-time = offset-date-time / local-date-time / local-date / local-time`, as written.
A text that starts with a date is reported as a date-time, one that starts with a time as a time. -/
def dateTime : Scan String := recognize (firstOf [
  label "date-time" do
    fullDate
    let _ ← attempt do
      let _ ← charIf fun c => c == 'T' || c == 't' || c == ' '
      partialTime
      let _ ← attempt timeOffset,
  label "time" partialTime])

end WaveScope.Toml
