import WaveScope.Toml.Scalar

/-!
# TOML documents as values

What a TOML document holds once read: values, keys with the place they were written, and the
tables that keys name.  Places are character positions in the text, so that a diagnostic can
point at the value or key it is about.

A table of the document remembers how it came to be: `implicit` when only a longer header or a
dotted key created it, `dotted` when a dotted key did.  Those two marks decide which later
headers and keys may still add to it.

A header that names a table again is reported with the key written afresh (`keyText`): bare when
it can be, else as a basic string.
-/

namespace WaveScope.Toml

/-- A stretch of the text, as character positions `[start, stop)`. -/
structure Span where
  start : Nat
  stop : Nat
deriving DecidableEq, Repr

/-- A key as written: the name it stands for, its text, and where it stands. -/
structure Key where
  name : String
  raw : String
  span : Span
deriving DecidableEq, Repr

/-- A value written on the right of `=`. -/
inductive Value where
  | string (s : String)
  | integer (i : Int)
  | float (x : Float)
  | boolean (b : Bool)
  | datetime (text : String)
  | array (items : List Value)
  | inlineTable (entries : List (String × Value)) (dotted : Bool)
deriving Repr

/-- The name of the kind of a value, as diagnostics write it. -/
def Value.typeName : Value → String
  | .string _ => "string"
  | .integer _ => "integer"
  | .float _ => "float"
  | .boolean _ => "boolean"
  | .datetime _ => "datetime"
  | .array _ => "array"
  | .inlineTable .. => "inline table"

/-- What a key of a table names: a value, a table, or an array of tables with the place of the
header that started it. -/
inductive Node where
  | value (v : Value) (span : Span)
  | table (entries : List (Key × Node)) (implicit dotted : Bool) (span : Option Span)
  | tableArray (tables : List (List (Key × Node))) (span : Option Span)
deriving Repr

/-- A table being filled: its entries in the order they were added, and its marks. -/
structure TableBody where
  entries : List (Key × Node)
  implicit : Bool := false
  dotted : Bool := false
  span : Option Span := none

/-- The table as an entry of its parent. -/
def TableBody.toNode (t : TableBody) : Node := .table t.entries t.implicit t.dotted t.span

/-- The entry of a name. -/
def find? (es : List (Key × Node)) (name : String) : Option Node :=
  (es.find? (·.1.name == name)).map (·.2)

/-- The entries with the entry of a name given a new node, in its place. -/
def replace (es : List (Key × Node)) (name : String) (n : Node) : List (Key × Node) :=
  es.map fun e => if e.1.name == name then (e.1, n) else e

/-- The entries without the entry of a name. -/
def remove (es : List (Key × Node)) (name : String) : List (Key × Node) :=
  es.filter (·.1.name != name)

/-- Why the tables of a document do not fit together. -/
inductive Clash where
  /-- A key defined twice; the table it was defined in, when known. -/
  | duplicateKey (key : String) (table : Option (List String))
  /-- A dotted key that runs through a value that is not a table. -/
  | extendWrongType (path : List String) (actual : String)
deriving DecidableEq, Repr

/-- The wording of a clash. -/
def Clash.message : Clash → String
  | .duplicateKey k none => "duplicate key `" ++ k ++ "`"
  | .duplicateKey k (some []) => "duplicate key `" ++ k ++ "` in document root"
  | .duplicateKey k (some p) => "duplicate key `" ++ k ++ "` in table `" ++ ".".intercalate p ++ "`"
  | .extendWrongType p a =>
    "dotted key `" ++ ".".intercalate p ++ "` attempted to extend non-table type (" ++ a ++ ")"

/-- The four uppercase hexadecimal digits of a code below `0x10000`. -/
def hex4 (n : Nat) : String :=
  String.ofList ((List.range 4).reverse.map fun k =>
    let d := n / Nat.pow 16 k % 16
    Char.ofNat (if d < 10 then '0'.toNat + d else 'A'.toNat + d - 10))

/-- A character inside a basic string: the short escapes, `\uXXXX` for the other controls and
delete, itself otherwise. -/
def basicEscape (c : Char) : String :=
  match c with
  | '\x08' => "\\b"
  | '\t' => "\\t"
  | '\n' => "\\n"
  | '\x0c' => "\\f"
  | '\r' => "\\r"
  | '"' => "\\\""
  | '\\' => "\\\\"
  | c => if c.toNat ≤ 0x1F || c.toNat == 0x7F then "\\u" ++ hex4 c.toNat else c.toString

/-- A key as it is written afresh: bare when it is a non-empty run of key characters, else as a
basic string. -/
def keyText (name : String) : String :=
  if !name.toList.isEmpty && name.toList.all isKeyChar then name
  else "\"" ++ String.join (name.toList.map basicEscape) ++ "\""

/-- The clash of a header path whose `i`-th key was already defined. -/
def Clash.duplicateAt (path : List Key) (i : Nat) : Clash :=
  .duplicateKey (keyText ((path[i]?.map (·.name)).getD "")) (some ((path.take i).map (·.name)))

theorem find?_nil (name : String) : find? [] name = none := rfl

example : keyText "port" = "port" := by decide

example : keyText "a b" = "\"a b\"" := by decide

end WaveScope.Toml
