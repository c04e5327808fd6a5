import WaveScope.Files.Path
import WaveScope.Os.Error

/-!
# A directory tree

The files the program reads and writes, held as a value: a set of directories and files, each
named by its *location*, the list of names that leads to it from the working directory, or from
the root directory when the list starts with `/`.  Paths are looked up name by name, so a file in
the middle of a path, a missing directory and a directory where a file is expected give the same
errors the operating system reports for them.  A path that ends in a slash or a `.` names a
directory, so it does not reach a file.  A name of more than 255 bytes, a path of 4096 bytes or
more and a path with a NUL byte are refused.  The working directory may have an absolute name
of its own, through which absolute paths reach it; `/proc/self/cwd` reaches it as well.  Of what
lies above the working directory nothing is known but that it is a directory.

Outside the working directory a tree starts with what every system has: the directories `/tmp`,
which anyone may write into, `/dev`, which holds the null device `/dev/null`, `/etc` with the
account file `/etc/passwd`, `/usr` and `/proc`.  The null device reads as empty and swallows what
is written to it.  Nothing may be created outside the working directory but below `/tmp`.

**Main statement.**  `node?_put_self` says an entry that was put is found at its place.
-/

namespace WaveScope.Files

open Os

/-- What a name stands for. -/
inductive Node where
  | dir
  | file (bytes : List UInt8)
  /-- A device that reads as empty and discards what is written to it. -/
  | device
deriving DecidableEq, Repr

/-- Directories and files by their locations.  The working directory and the root directory are
always there. -/
structure Tree where
  entries : List (List String × Node)
  /-- The absolute name of the working directory, or empty when it has none. -/
  workDir : String
deriving Repr

namespace Tree

/-- The first line of the account file. -/
def accountLine : String := "root:x:0:0:root:/root:/bin/bash\n"

/-- What every system holds outside the working directory. -/
def systemEntries : List (List String × Node) :=
  [(["/", "tmp"], .dir), (["/", "dev"], .dir), (["/", "dev", "null"], .device),
   (["/", "etc"], .dir), (["/", "etc", "passwd"], .file accountLine.toUTF8.toList),
   (["/", "usr"], .dir), (["/", "proc"], .dir), (["/", "proc", "self"], .dir)]

/-- The location of the directory above the working directory. -/
def above : List String := [".."]

/-- The location a link stands for: `/proc/self/cwd` is the working directory. -/
def unlink (loc : List String) : List String :=
  if loc == ["/", "proc", "self", "cwd"] then [] else loc

/-- An empty working directory. -/
def empty : Tree := ⟨systemEntries, ""⟩

/-- An empty working directory with an absolute name. -/
def emptyAt (dir : String) : Tree := ⟨systemEntries, dir⟩

/-- The location is outside the working directory: named from the root, or above it. -/
def isSystem (loc : List String) : Bool := loc.head? == some "/" || loc.head? == some ".."

/-- New entries may be made in the directory at this location: anywhere below the working
directory, and outside it only below `/tmp`. -/
def writable (loc : List String) : Bool := !isSystem loc || loc.take 2 == ["/", "tmp"]

/-- The path ends in a slash or a `.` component, so it must name a directory. -/
def namesDirectory (p : String) : Bool := p.endsWith "/" || p == "." || p.endsWith "/."

/-- The checks made on a path before any lookup: no NUL byte, and fewer than 4096 bytes. -/
def checkPath (p : String) : Except IoError Unit :=
  if p.contains (Char.ofNat 0) then .error IoError.nulByte
  else if p.utf8ByteSize ≥ 4096 then .error IoError.nameTooLong
  else .ok ()

/-- The path of a location. -/
def pathOf (loc : List String) : String :=
  match loc with
  | "/" :: rest => "/" ++ "/".intercalate rest
  | _ => "/".intercalate loc

/-- The files below the working directory, with their locations. -/
def workFiles (t : Tree) : List (List String × List UInt8) :=
  t.entries.filterMap fun (loc, n) =>
    match n with
    | .file b => if isSystem loc then none else some (loc, b)
    | _ => none

/-- A path under the working directory's absolute name, made relative to it. -/
def relative (t : Tree) (p : String) : String :=
  if t.workDir.isEmpty then p
  else if p == t.workDir then "."
  else if p.startsWith (t.workDir ++ "/") then
    let rest := (p.drop (t.workDir.length + 1)).toString
    if rest.isEmpty then "." else rest
  else p

/-- What a resolved location holds. -/
def node? (t : Tree) (loc : List String) : Option Node :=
  if loc.isEmpty || loc == ["/"] || loc == above then some .dir
  else (t.entries.find? (·.1 == loc)).map (·.2)

/-- The location one step up: the root and the directory above the working directory are their
own parents. -/
def up (loc : List String) : List String :=
  if loc.isEmpty then above
  else if loc == ["/"] || loc == above then loc
  else loc.dropLast

/-- Where a path leads, or an error when the path is refused, or a step passes something other
than a directory or a missing name, or looks up a name longer than 255 bytes. -/
def locate (t : Tree) (p : String) : Except IoError (List String) := do
  checkPath p
  let p := t.relative p
  if p.isEmpty then .error IoError.notFound
  else
    let step (acc : Except IoError (List String)) (c : Component) : Except IoError (List String) :=
      match acc with
      | .error e => .error e
      | .ok loc =>
        match t.node? loc with
        | some .dir => match c with
          | .name s => if s.utf8ByteSize > 255 then .error IoError.nameTooLong else .ok (unlink (loc ++ [s]))
          | .up => .ok (up loc)
          | .root => .ok ["/"]
          | .current => .ok loc
        | some _ => .error IoError.notADirectory
        | none => .error IoError.notFound
    (components p).foldl step (.ok [])

/-- The path names an existing file or directory, and a directory when it ends as one. -/
def exists? (t : Tree) (p : String) : Bool :=
  match t.locate p with
  | .ok loc =>
    match t.node? loc with
    | some .dir => true
    | some _ => !namesDirectory p
    | none => false
  | .error _ => false

/-- The path names an existing directory. -/
def isDir (t : Tree) (p : String) : Bool :=
  match t.locate p with
  | .ok loc => t.node? loc == some .dir
  | .error _ => false

/-- The bytes of a file. -/
def contents (t : Tree) (p : String) : Except IoError (List UInt8) :=
  match t.locate p with
  | .ok loc =>
    match t.node? loc with
    | some (.file b) => if namesDirectory p then .error IoError.notADirectory else .ok b
    | some .device => if namesDirectory p then .error IoError.notADirectory else .ok []
    | some .dir => .error IoError.isADirectory
    | none => .error IoError.notFound
  | .error e => .error e

/-- Adds or replaces the entry at a location. -/
def put (t : Tree) (loc : List String) (n : Node) : Tree :=
  { t with entries := (loc, n) :: t.entries.filter (·.1 != loc) }

/-- Creates or truncates a file and writes the bytes; its directory must exist and, for a new
file, be writable.  Writing to a device changes nothing. -/
def write (t : Tree) (p : String) (bytes : List UInt8) : Except IoError Tree :=
  match t.locate p with
  | .ok loc =>
    match t.node? loc with
    | some .dir => .error IoError.isADirectory
    | some .device => if namesDirectory p then .error IoError.notADirectory else .ok t
    | some (.file _) =>
      if namesDirectory p then .error IoError.notADirectory else .ok (t.put loc (.file bytes))
    | none =>
      if namesDirectory p then .error IoError.isADirectory
      else match t.node? loc.dropLast with
      | some .dir =>
        if writable loc.dropLast then .ok (t.put loc (.file bytes)) else .error IoError.permissionDenied
      | some _ => .error IoError.notADirectory
      | none => .error IoError.notFound
  | .error e => .error e

/-- Opens a file for appending, creating it empty when it is missing. -/
def openAppend (t : Tree) (p : String) : Except IoError Tree :=
  if t.exists? p then
    match t.contents p with
    | .ok b => t.write p b
    | .error e => .error e
  else t.write p []

/-- Creates one directory; its parent must exist and be writable, and the name must be free. -/
def createDir (t : Tree) (p : String) : Except IoError Tree :=
  match t.locate p with
  | .ok loc =>
    match t.node? loc with
    | some _ => .error IoError.alreadyExists
    | none =>
      match t.node? loc.dropLast with
      | some .dir => if writable loc.dropLast then .ok (t.put loc .dir) else .error IoError.permissionDenied
      | some _ => .error IoError.notADirectory
      | none => .error IoError.notFound
  | .error e => .error e

/-- Creates a directory and every missing directory above it: an existing directory is fine, a
missing parent is created first, and any other failure is reported as it came. -/
def createDirAll (t : Tree) (p : String) : Except IoError Tree :=
  go (components p).length t p
where
  go : Nat → Tree → String → Except IoError Tree
    | 0, t, p => if p.isEmpty || t.isDir p then .ok t else t.createDir p
    | fuel + 1, t, p =>
      if p.isEmpty then .ok t
      else match t.createDir p with
        | .ok t => .ok t
        | .error e =>
          if e == IoError.notFound then
            match parent? p with
            | some q => match go fuel t q with
              | .ok t => match t.createDir p with
                | .ok t => .ok t
                | .error e => if t.isDir p then .ok t else .error e
              | .error e => .error e
            | none => .error e
          else if t.isDir p then .ok t
          else .error e

/-- The names in a directory, sorted, with what each holds. -/
def list (t : Tree) (p : String) : Option (List (String × Node)) :=
  match t.locate p with
  | .ok loc =>
    if t.node? loc == some .dir then
      let children := t.entries.filterMap fun (l, n) =>
        if l.dropLast == loc && l.length == loc.length + 1 then l.getLast?.map (·, n) else none
      some (children.mergeSort fun a b => decide (a.1 ≤ b.1))
    else none
  | _ => none

theorem node?_put_self (t : Tree) (loc : List String) (n : Node) (h : loc ≠ [])
    (hr : loc ≠ ["/"]) (ha : loc ≠ above) : (t.put loc n).node? loc = some n := by
  simp [node?, put, h, hr, ha]

end Tree

end WaveScope.Files
