import WaveScope.CommandLine.Options
import WaveScope.Settings.Values
import WaveScope.Text.IntSyntax
import WaveScope.Text.Similarity

/-!
# Reading the command line

The words of the command line are read from the left.  `--name` and `--name=value` are long
options, `-x` one-letter ones (several may share a dash, and the rest of the word after an option
that takes a value is that value, after an optional `=`), `--` ends the options, and any other
word is the value of the option before it or, when none waits for one, refused: the program takes
no operands.

An option's value is checked when the option is complete: right away when the value is attached,
else when the next option starts or the line ends.  The options seen so far, in order, give the
usage line of some refusals; a value attached to a switch names the settings group there once a
setting is in force.  Where a refusal is found while an earlier option still waits, that
option's own fault is not reported, but what it did to the options seen still counts.
-/

namespace WaveScope.CommandLine

open Text

/-- The settings the command line gives. -/
structure Arguments where
  host : Option String := none
  port : Option Nat := none
  points : Option Nat := none
  yMax : Option Float := none
  noAutoScale : Bool := false
  snapshotDir : Option String := none
  config : Option String := none
deriving Repr

/-- Why a command line is refused. -/
inductive Refusal where
  /-- A word that is no option, with a similar option's name, and the options for the usage. -/
  | unexpectedArgument (word : String) (similar : Option String) (used : List Flag)
  /-- An option that needs a value got none. -/
  | emptyValue (flag : Flag)
  /-- A value the option does not accept, and why. -/
  | invalidValue (raw : String) (flag : Flag) (why : String)
  /-- An option given twice. -/
  | repeated (flag : Flag)
  /-- A value attached to an option that takes none, with the options in force before it. -/
  | unexpectedValue (value : String) (flag : Flag) (seen : List Flag)
deriving Repr

/-- The closing lines of every refusal. -/
def tryHelp : String := "\n\nFor more information, try '--help'.\n"

/-- The text of a refusal as it is printed. -/
def Refusal.message : Refusal → String
  | .unexpectedArgument w similar used =>
    "error: unexpected argument '" ++ w ++ "' found" ++
      (match similar with
        | some s => "\n\n  tip: a similar argument exists: '" ++ s ++ "'"
        | none => "") ++
      "\n\nUsage: " ++ usage used ++ tryHelp
  | .emptyValue f => "error: a value is required for '" ++ (spec f).display ++ "' but none was supplied" ++ tryHelp
  | .invalidValue raw f why => "error: invalid value '" ++ raw ++ "' for '" ++ (spec f).display ++ "': " ++ why ++ tryHelp
  | .repeated f => "error: the argument '" ++ (spec f).display ++ "' cannot be used multiple times" ++
      "\n\nUsage: " ++ usage [] ++ tryHelp
  | .unexpectedValue v f seen => "error: unexpected value '" ++ v ++ "' for '" ++ (spec f).display ++
      "' found; no more were expected" ++ "\n\nUsage: " ++
      (if seen.any (·.isSetting) then groupedUsage (seen ++ [f]) else usage (seen ++ [f])) ++ tryHelp

/-- Where reading stops early. -/
inductive Stop where
  | help
  | version
  | refused (r : Refusal)
deriving Repr

/-- The outcome of reading a command line. -/
inductive Parsed where
  | run (a : Arguments)
  | help
  | version
  | refused (r : Refusal)
deriving Repr

/-- A port: a signed 64-bit number in `0 ..= 65535`. -/
def readPort (raw : String) : Except String Nat :=
  match readInt true i64Min i64Max raw with
  | .error e => .error e.message
  | .ok n => if 0 ≤ n && n ≤ 65535 then .ok n.toNat else .error (toString n ++ " is not in 0..=65535")

/-- A count of points: an unsigned 64-bit number from `1`. -/
def readPoints (raw : String) : Except String Nat :=
  match readInt false 0 u64Max raw with
  | .error e => .error e.message
  | .ok n => if 1 ≤ n then .ok n.toNat else .error (toString n ++ " is not in 1..18446744073709551615")

/-- Sets an option's value in the arguments, checking it. -/
def Arguments.put (a : Arguments) (f : Flag) (raw : String) : Except Refusal Arguments :=
  let wrap {α : Type} (r : Except String α) (k : α → Arguments) : Except Refusal Arguments :=
    match r with
    | .ok v => .ok (k v)
    | .error why => .error (.invalidValue raw f why)
  let path (k : String → Arguments) : Except Refusal Arguments :=
    if raw.isEmpty then .error (.emptyValue f) else .ok (k raw)
  match f with
  | .host => .ok { a with host := some raw }
  | .port => wrap (readPort raw) fun v => { a with port := some v }
  | .points => wrap (readPoints raw) fun v => { a with points := some v }
  | .yMax => wrap (Settings.parseYMax raw) fun v => { a with yMax := some v }
  | .noAutoScale => .ok { a with noAutoScale := true }
  | .snapshotDir => path fun v => { a with snapshotDir := some v }
  | .config => path fun v => { a with config := some v }
  | .help | .version => .ok a

/-- What has been read: the options seen in order and their values. -/
structure Matches where
  seen : List Flag
  args : Arguments

/-- The reader's state: what has been read, and the option whose value is still to be checked,
with the values it has so far. -/
structure Reading where
  record : Matches
  pending : Option (Flag × List String)

/-- Completes an option with its values: the option is recorded and its value checked.  A
refusal may come with a changed record: an option given twice is dropped from it, and an option
whose value is refused stays in it. -/
def complete (m : Matches) (f : Flag) (vals : List String) : Except Stop Matches × Matches :=
  let o := spec f
  match o.takes with
  | .help => (.error .help, m)
  | .version => (.error .version, m)
  | .value _ =>
    match vals with
    | [] => (.error (.refused (.emptyValue f)), m)
    | raw :: _ =>
      if m.seen.contains f then
        let m := { m with seen := m.seen.erase f }
        (.error (.refused (.repeated f)), m)
      else
        let m := { m with seen := m.seen ++ [f] }
        match m.args.put f raw with
        | .ok args => (.ok { m with args }, { m with args })
        | .error r => (.error (.refused r), m)
  | .presence =>
    if m.seen.contains f then
      let m := { m with seen := m.seen.erase f }
      (.error (.refused (.repeated f)), m)
    else
      let m := { m with seen := m.seen ++ [f], args := (m.args.put f "true").toOption.getD m.args }
      (.ok m, m)

/-- Completes the waiting option, if any: the result, and the record either way. -/
def settle (r : Reading) : Except Stop Reading × Reading :=
  match r.pending with
  | none => (.ok r, r)
  | some (f, vals) =>
    let (res, m) := complete r.record f vals
    let r' : Reading := ⟨m, none⟩
    (res.map fun m => ⟨m, none⟩, r')

/-- Settles the waiting option and then completes `f` with `vals`. -/
def react (r : Reading) (f : Flag) (vals : List String) : Except Stop Reading := do
  let r ← (settle r).1
  let m ← (complete r.record f vals).1
  pure ⟨m, none⟩

/-- The option whose long name is most like `name`, if one is alike enough: the best score above
`0.7`, the later option on a tie. -/
def similarLong (name : String) : Option OptionSpec :=
  let best := options.foldl (fun (acc : Option (Float × OptionSpec)) o =>
    let score := jaro name o.long
    if score > 0.7 then
      match acc with
      | some (s, _) => if score ≥ s then some (score, o) else acc
      | none => some (score, o)
    else acc) none
  best.map (·.2)

/-- The refusal of a word that is no option, after settling the waiting option. -/
def unknownLong (r : Reading) (name : String) : Stop :=
  let r := (settle r).2
  match similarLong name with
  | some o =>
    let used := if r.record.seen.contains o.flag then r.record.seen else r.record.seen ++ [o.flag]
    .refused (.unexpectedArgument ("--" ++ name) (some ("--" ++ o.long)) used)
  | none => .refused (.unexpectedArgument ("--" ++ name) none r.record.seen)

/-- Whether the reader waits for an option's value. -/
inductive Waiting where
  | nothing
  | valueOf (f : Flag)
deriving DecidableEq, Repr

/-- Reads a long option `--name` with its attached value, if any. -/
def readLong (r : Reading) (name : String) (attached : Option String) : Except Stop (Reading × Waiting) :=
  match byLong? name with
  | none => .error (unknownLong r name)
  | some o =>
    match o.takes, attached with
    | .value _, some v => do pure (← react r o.flag [v], .nothing)
    | .value _, none => do
      let r ← (settle r).1
      pure (⟨r.record, some (o.flag, [])⟩, .valueOf o.flag)
    | _, some v => .error (.refused (.unexpectedValue v o.flag r.record.seen))
    | _, none => do pure (← react r o.flag [], .nothing)

/-- Reads the letters of a one-letter option word, after the dash. -/
def readShorts (r : Reading) : List Char → Except Stop (Reading × Waiting)
  | [] => .ok (r, .nothing)
  | c :: rest =>
    match byShort? c with
    | none => .error (.refused (.unexpectedArgument ("-" ++ c.toString) none []))
    | some o =>
      match o.takes with
      | .value _ =>
        let attached := match rest with
          | [] => none
          | '=' :: v => some (String.ofList v)
          | v => some (String.ofList v)
        match attached with
        | some v => do pure (← react r o.flag [v], .nothing)
        | none => do
          let r ← (settle r).1
          pure (⟨r.record, some (o.flag, [])⟩, .valueOf o.flag)
      | _ => do readShorts (← react r o.flag []) rest

/-- Splits `--name=value` into the name and the value. -/
def splitLong (body : String) : String × Option String :=
  match body.splitOn "=" with
  | [name] => (name, none)
  | name :: rest => (name, some ("=".intercalate rest))
  | [] => (body, none)

/-- Reads the words from the left; `trailing` is set after `--`. -/
def readWords (r : Reading) (waiting : Waiting) (trailing : Bool) : List String → Except Stop Reading
  | [] => (settle r).1
  | w :: ws =>
    if trailing then .error (.refused (.unexpectedArgument w none []))
    else if w == "--" then readWords r waiting true ws
    else if w.startsWith "--" then do
      let (name, attached) := splitLong (w.drop 2).toString
      let (r, waiting) ← readLong r name attached
      readWords r waiting false ws
    else if w.startsWith "-" && w.length > 1 then do
      let (r, waiting) ← readShorts r (w.toList.drop 1)
      readWords r waiting false ws
    else
      match waiting with
      | .valueOf f =>
        let r := { r with pending := some (f, ((r.pending.map (·.2)).getD []) ++ [w]) }
        readWords r .nothing false ws
      | .nothing => .error (.refused (.unexpectedArgument w none []))

/-- Reads a command line (without the program's name). -/
def parse (words : List String) : Parsed :=
  match readWords ⟨⟨[], {}⟩, none⟩ .nothing false words with
  | .ok r => .run r.record.args
  | .error .help => .help
  | .error .version => .version
  | .error (.refused x) => .refused x

example : (match parse [] with | .run a => a.host.isNone && !a.noAutoScale | _ => false) = true := by
  rfl

example :
    (match readShorts ⟨⟨[], {}⟩, none⟩ ['h'] with | .error .help => true | _ => false) = true := by
  rfl

end WaveScope.CommandLine
