import WaveScope.Toml.Scalar
import WaveScope.Toml.Assembly

/-!
# Reading a TOML document

Keys, values, arrays, inline tables, headers and the document itself, on top of the scalars.
The document is read one line item at a time, and each key/value pair and header goes straight
into the `Assembly`, so a redefinition is reported at the line that makes it.

Nesting of arrays and inline tables is bounded by the length of the text, which is the fuel of
`value`.

**Main statements.**  `read_empty` says the empty text is the empty document.
-/

namespace WaveScope.Toml

open Scan

/-- Rule `simple-key = quoted-key / unquoted-key` -/
def simpleKey : Scan Key := do
  let start ← pos
  let c ← peek?
  let name ← match c with
    | some '"' => basicString
    | some '\'' => literalString
    | _ => takeWhile isKeyChar 1 none
  let stop ← pos
  let raw ← slice start stop
  pure ⟨name, raw, ⟨start, stop⟩⟩

/-- Rule `key = simple-key / dotted-key`, with blanks around each part. -/
def key : Scan (List Key) :=
  label "key" (sepBy1 (do ws; let k ← simpleKey; ws; pure k) (do let _ ← charIf (· == '.')))

/-- The sign `=` between a key and its value. -/
def keyvalSep : Scan Unit := do
  let _ ← expectAll ["`.`", "`=`"] (charIf (· == '='))

/-- A comma between items. -/
def comma : Scan Unit := do
  let _ ← charIf (· == ',')

/-- Puts a pair of an inline table in place, under its dotted prefix `rest`; `path` is the
whole prefix and `i` the index of `rest`'s first key in it.  A dotted key passes only through
tables that dotted keys made. -/
def inlineInsert (path : List Key) (k : Key) (v : Value) :
    Nat → List Key → List (String × Value) × Bool → Except Clash (List (String × Value) × Bool)
  | _, [], (es, dotted) =>
    if dotted == path.isEmpty then .error (.duplicateKey k.name none)
    else if es.any (·.1 == k.name) then .error (.duplicateKey k.name none)
    else .ok (es ++ [(k.name, v)], dotted)
  | i, step :: rest, (es, dotted) =>
    match es.lookup step.name with
    | none => do
      let (ces, cd) ← inlineInsert path k v (i + 1) rest ([], true)
      pure (es ++ [(step.name, .inlineTable ces cd)], dotted)
    | some (.inlineTable ces cd) =>
      if !cd then .error (.duplicateKey step.name none) else do
      let (ces, cd) ← inlineInsert path k v (i + 1) rest (ces, cd)
      pure (es.map (fun e => if e.1 == step.name then (e.1, .inlineTable ces cd) else e), dotted)
    | some other => .error (.extendWrongType ((path.take (i + 1)).map (·.name)) other.typeName)

/-- The inline table of its pairs, in order. -/
def inlineOfPairs (pairs : List (List Key × Key × Value)) : Except Clash Value := do
  let (es, d) ← pairs.foldlM (fun acc (path, k, v) => inlineInsert path k v 0 path acc) ([], false)
  pure (.inlineTable es d)

/-- Rule `array = array-open [ array-values ] ws-comment-newline array-close` -/
def arrayWith (elem : Scan (Value × Span)) : Scan Value := do
  let _ ← charIf (· == '[')
  let item : Scan Value := do
    wsCommentNewline
    let (v, _) ← elem
    wsCommentNewline
    pure v
  let items ← cut do
    if (← peek?) == some ']' then pure [] else
    let vs ← sepBy item comma
    if !vs.isEmpty then
      let _ ← attempt comma
    wsCommentNewline
    pure vs
  let _ ← expectAll ["`]`"] (label "array" (cut (charIf (· == ']'))))
  pure (.array items)

/-- Rule `inline-table = inline-table-open [ inline-table-keyvals ] ws inline-table-close` -/
def inlineTableWith (elem : Scan (Value × Span)) : Scan Value := do
  let _ ← charIf (· == '{')
  let pair : Scan (List Key × Key × Value) := do
    let path ← key
    cut do
      keyvalSep
      ws
      let (v, _) ← elem
      ws
      match path.reverse with
      | last :: prefixRev => pure (prefixRev.reverse, last, v)
      | [] => Scan.fail
  let v ← cut (check (do let kvs ← sepBy pair comma; ws; pure kvs)
    fun kvs => (inlineOfPairs kvs).mapError Clash.message)
  let _ ← expectAll ["`\x7d`"] (label "inline table" (cut (charIf (· == '}'))))
  pure v

/-- A word that is likely a string without its quotes. -/
def unquoted {α : Type} (p : Scan α) : Scan α := expectAll ["`\"`", "`'`"] (label "string" p)

/-- Rule `val = string / boolean / array / inline-table / date-time / float / integer`, chosen by its
first character, with where it stands. -/
def value : Nat → Scan (Value × Span)
  | 0 => Scan.fail
  | fuel + 1 => do
    let start ← pos
    let c ← peek?
    let v : Value ← match c with
      | none => Scan.fail
      | some c =>
        if c == '"' || c == '\'' then Value.string <$> string
        else if c == '[' then arrayWith (value fuel)
        else if c == '{' then inlineTableWith (value fuel)
        else if c == '+' || c == '-' || isDigit c then
          firstOf [Value.datetime <$> dateTime, Value.float <$> float, Value.integer <$> integer]
        else if c == '_' then expect "leading digit" (Value.integer <$> integer)
        else if c == '.' then expect "leading digit" (Value.float <$> float)
        else if c == 't' then unquoted (do cut (literal ['t', 'r', 'u', 'e']); pure (.boolean true))
        else if c == 'f' then
          unquoted (do cut (literal ['f', 'a', 'l', 's', 'e']); pure (.boolean false))
        else if c == 'i' then unquoted (do literal ['i', 'n', 'f']; pure (.float (1.0 / 0.0)))
        else if c == 'n' then unquoted (do literal ['n', 'a', 'n']; pure (.float (0.0 / 0.0)))
        else unquoted Scan.fail
    let stop ← pos
    pure (v, ⟨start, stop⟩)

/-- Rule `keyval = key keyval-sep val`, then the rest of its line, put into the open table. -/
def pair (fuel : Nat) (a : Assembly) : Scan Assembly :=
  check (do
    let path ← key
    cut do
      keyvalSep
      ws
      let (v, span) ← value fuel
      lineTrailing
      pure (path, v, span))
    fun (path, v, span) =>
      match path.reverse with
      | last :: prefixRev => (a.addPair prefixRev.reverse last v span).mapError Clash.message
      | [] => .error ""

/-- Rule `std-table = "[" key "]"`, then the rest of its line: opens that table. -/
def tableHeader (a : Assembly) : Scan Assembly :=
  check (do
    let start ← pos
    let _ ← charIf (· == '[')
    let path ← cut key
    let _ ← expectAll ["`.`", "`]`"] (cut (charIf (· == ']')))
    let stop ← pos
    cut lineTrailing
    pure (path, Span.mk start stop))
    fun (path, span) => (a.openTable path span).mapError Clash.message

/-- Rule `array-table = "[[" key "]]"`, then the rest of its line: opens a new element. -/
def arrayTableHeader (a : Assembly) : Scan Assembly :=
  check (do
    let start ← pos
    literal ['[', '[']
    let path ← cut key
    let _ ← expectAll ["`.`", "`]]`"] (cut (literal [']', ']']))
    let stop ← pos
    cut lineTrailing
    pure (path, Span.mk start stop))
    fun (path, span) => (a.openArrayTable path span).mapError Clash.message

/-- Rule `table = std-table / array-table` -/
def header (a : Assembly) : Scan Assembly := label "table header" do
  let two ← peekMany 2
  if two.length < 2 then Scan.fail
  else if two == ['[', '['] then arrayTableHeader a
  else tableHeader a

/-- One item of the document: a comment line, a header, an empty line or a pair. -/
def lineItem (fuel : Nat) (a : Assembly) : Scan Assembly := do
  let c ← peek?
  match c with
  | some '#' => do cut (do comment; lineEnding); pure a
  | some '[' => cut (header a)
  | some '\n' => do newline; pure a
  | some '\r' => do newline; pure a
  | _ => cut (pair fuel a)

/-- The items of the document up to its end, at most `rounds` of them. -/
def lineItems (fuel : Nat) : Nat → Assembly → Scan Assembly
  | 0, a => pure a
  | rounds + 1, a => fun s i =>
    if s.size ≤ i then .ok (a, i)
    else match (do let a ← lineItem fuel a; ws; pure a) s i with
      | .ok (b, j) => if j ≤ i then .ok (b, j) else lineItems fuel rounds b s j
      | .error e => if e.committed then .error e else .ok (a, i)

/-- Rule `toml = expression *( newline expression )`, after an optional byte order mark. -/
def document : Scan Assembly := do
  let s ← text
  let _ ← attempt (charIf (· == '﻿'))
  ws
  let a ← lineItems (s.size + 1) (s.size + 1) Assembly.start
  eof
  pure a

/-- Why a document was refused: the wording, and the place it points at with the number of
bytes to mark there, when there is one. -/
structure Diagnostic where
  message : String
  place : Option (Nat × Nat)
deriving DecidableEq, Repr

/-- The number of bytes of the characters of a span. -/
def spanBytes (text : Array Char) (sp : Span) : Nat :=
  ((text.extract sp.start sp.stop).toList.map Char.utf8Size).foldr (· + ·) 0

/-- The diagnostic of a value or key at a span. -/
def Diagnostic.atSpan (text : Array Char) (sp : Span) (message : String) : Diagnostic :=
  ⟨message, some (sp.start, spanBytes text sp)⟩

/-- Reads a document: the entries of its root table, in order. -/
def read (text : Array Char) : Except Diagnostic (List (Key × Node)) :=
  match Scan.run document text with
  | .error f => .error ⟨f.message, some (f.pos, f.extent.getD (((text[f.pos]?).map Char.utf8Size).getD 0))⟩
  | .ok a => match a.finish with
    | .ok a => .ok a.root
    | .error c => .error ⟨c.message, none⟩

/-- A run of `n` spaces. -/
def spaces (n : Nat) : String := String.ofList (List.replicate n ' ')

/-- The line and column, from zero, of a character position.  The column counts the characters
before the position on its line, or their bytes when the character at the position takes more
than one byte; a position past the end counts on from the last character. -/
def lineColumn (text : Array Char) (p : Nat) : Nat × Nat :=
  if text.size == 0 then (0, p)
  else
    let idx := min p (text.size - 1)
    let before := (text.extract 0 idx).toList
    let line := before.count '\n'
    let sinceBreak := before.reverse.takeWhile (· != '\n')
    match text[p]? with
    | some c => if c.utf8Size > 1 then (line, (sinceBreak.map Char.utf8Size).foldr (· + ·) 0)
      else (line, sinceBreak.length)
    | none => (line, sinceBreak.length + (p - idx))

/-- The diagnostic as a report: the place, the line it is on with marks under the place, then
the wording. -/
def Diagnostic.render (text : Array Char) (d : Diagnostic) : String :=
  match d.place with
  | none => d.message ++ "\n"
  | some (p, width) =>
    let (line, column) := lineColumn text p
    let content := ((String.ofList text.toList).splitOn "\n")[line]?.getD ""
    let number := toString (line + 1)
    let marks := min width (max (content.utf8ByteSize - column) 1)
    "TOML parse error at line " ++ number ++ ", column " ++ toString (column + 1) ++ "\n" ++
      spaces (number.length + 1) ++ "|\n" ++
      number ++ " | " ++ content ++ "\n" ++
      spaces (number.length + 1) ++ "|" ++ spaces (column + 1) ++ "^" ++
      String.ofList (List.replicate (marks - 1) '^') ++ "\n" ++
      d.message ++ "\n"

theorem read_empty : read #[] = .ok [] := by rfl

end WaveScope.Toml
