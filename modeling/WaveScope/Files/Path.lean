/-!
# Paths

Slash-separated paths as the file system reads them.  A path is a leading root (`/`) or current
directory (`.`), then components separated by one or more slashes; `.` components past the start
say nothing and are skipped, `..` names the parent.

The file name of a path is its last component when that is an ordinary name.  Its parent is the
path's own text up to that component, with trailing slashes and `.` components removed.
-/

namespace WaveScope.Files

/-- A component of a path. -/
inductive Component where
  | root
  | current
  | up
  | name (s : String)
deriving DecidableEq, Repr

/-- How many characters the start of a path takes: a root slash, or a leading `.` that is a
component of its own. -/
def startLength (p : String) : Nat :=
  match p.toList with
  | '/' :: _ => 1
  | ['.'] => 1
  | '.' :: '/' :: _ => 1
  | _ => 0

/-- The component that the start of a path stands for, if any. -/
def startComponent (p : String) : Option Component :=
  match p.toList with
  | '/' :: _ => some .root
  | ['.'] => some .current
  | '.' :: '/' :: _ => some .current
  | _ => none

/-- The components after the start, with their offsets in the path. -/
def bodyParts (p : String) : List (Nat × String) :=
  let start := startLength p
  let rec go (cs : List Char) (pos : Nat) (cur : List Char) (curPos : Nat) :
      List (Nat × String) :=
    match cs with
    | [] => [(curPos, String.ofList cur.reverse)]
    | '/' :: rest => (curPos, String.ofList cur.reverse) :: go rest (pos + 1) [] (pos + 1)
    | c :: rest => go rest (pos + 1) (c :: cur) curPos
  (go (p.toList.drop start) start [] start).filter fun (_, s) => s != "" && s != "."

/-- The components of a path. -/
def components (p : String) : List Component :=
  (startComponent p).toList ++
    (bodyParts p).map fun (_, s) => if s == ".." then Component.up else .name s

/-- The last component, if it is an ordinary name. -/
def fileName? (p : String) : Option String :=
  match (components p).getLast? with
  | some (.name s) => some s
  | _ => none

/-- Removes trailing slashes and `.` components one at a time from the end, never touching the
first `keep` characters: each step drops the last component when it is empty or `.`, with the
slash before it if that slash lies past the first `keep` characters. -/
def trimEnd (keep : Nat) (cs : List Char) : List Char :=
  go cs.length cs
where
  go : Nat → List Char → List Char
    | 0, cs => cs
    | fuel + 1, cs =>
      if cs.length ≤ keep then cs
      else
        let body := cs.drop keep
        let last := (body.reverse.takeWhile (· != '/')).reverse
        let slash := if body.contains '/' then 1 else 0
        if last.isEmpty || last == ['.'] then go fuel (cs.take (cs.length - last.length - slash))
        else cs

/-- The path without its last component, or nothing for a root or an empty path. -/
def parent? (p : String) : Option String :=
  match (bodyParts p).getLast? with
  | some (pos, _) => some (String.ofList (trimEnd (startLength p) (p.toList.take pos)))
  | none =>
    match startComponent p with
    | some .current => some ""
    | _ => none

example : fileName? "logs/scope.log" = some "scope.log" := by decide

example : parent? "logs/scope.log" = some "logs" := by decide

example : parent? "/././a" = some "/" := by decide

end WaveScope.Files
