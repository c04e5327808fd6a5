import WaveScope.Files.Tree
import WaveScope.Text.Quoted

/-!
# The log file

Logs go to a file, never to the terminal, which belongs to the display.  Setting the log up splits
its path into a directory (`.` when the path has none) and a file name, creates the directory with
its parents, opens the file for appending, creating it when it is missing, and installs the log
writer, which can happen once per process.  A file that cannot be opened stops the program: the
log writer refuses to start.
-/

namespace WaveScope

open Os

/-- Why the log could not be set up. -/
inductive LogError where
  | directoryCreation (path : String) (source : IoError)
  | invalidPath (path : String)
  | noParentDirectory (path : String)
  /-- The log file could not be opened, so the log writer does not start. -/
  | writerStart (source : IoError)
  | alreadyInstalled
deriving DecidableEq, Repr

namespace LogError

/-- The name of the kind of failure. -/
def kind : LogError → String
  | .directoryCreation .. => "DirectoryCreation"
  | .invalidPath _ => "InvalidPath"
  | .noParentDirectory _ => "NoParentDirectory"
  | .writerStart _ => "WriterStart"
  | .alreadyInstalled => "SubscriberAlreadySet"

/-- The message of the failure. -/
def message : LogError → String
  | .directoryCreation p s => "Failed to create log directory at " ++ Text.quoted p ++ ": " ++ s.message
  | .invalidPath p => "Invalid log file path: " ++ Text.quoted p
  | .noParentDirectory p => "Log path has no parent directory: " ++ Text.quoted p
  | .writerStart s =>
    "initializing rolling file appender failed: InitError \x7b context: \"failed to create log file\", source: " ++
      Text.Os.IoError.debug s ++ " \x7d"
  | .alreadyInstalled => "Tracing subscriber already initialized"

/-- The structural form of the failure. -/
def debug : LogError → String
  | .directoryCreation p s =>
    "DirectoryCreation \x7b path: " ++ Text.quoted p ++ ", source: " ++ Text.Os.IoError.debug s ++ " \x7d"
  | .invalidPath p => "InvalidPath(" ++ Text.quoted p ++ ")"
  | .noParentDirectory p => "NoParentDirectory(" ++ Text.quoted p ++ ")"
  | .writerStart _ => "WriterStart"
  | .alreadyInstalled => "SubscriberAlreadySet"

/-- The underlying I/O error, if any. -/
def source? : LogError → Option IoError
  | .directoryCreation _ s => some s
  | .writerStart s => some s
  | _ => none

/-- The failure stops the program instead of being returned to it. -/
def stops : LogError → Bool
  | .writerStart _ => true
  | _ => false

end LogError

/-- The directory and file name of a log path. -/
def splitLogPath (p : String) : Except LogError (String × String) :=
  match Files.fileName? p with
  | none => .error (.invalidPath p)
  | some name =>
    match Files.parent? p with
    | none => .error (.noParentDirectory p)
    | some dir => .ok (if dir.isEmpty then "." else dir, name)

/-- Sets the log up in a directory tree: creates the directory and the file.  `installed` tells
whether a log writer is already in place, in which case the directory and the file are still
created but the setup fails. -/
def setUpLog (t : Files.Tree) (p : String) (installed : Bool) : Except LogError Unit × Files.Tree :=
  match splitLogPath p with
  | .error e => (.error e, t)
  | .ok (dir, name) =>
    match t.createDirAll dir with
    | .error s => (.error (.directoryCreation dir s), t)
    | .ok t =>
      let file := if dir == "." then name else dir ++ "/" ++ name
      match t.openAppend file with
      | .error s => (.error (.writerStart s), t)
      | .ok t => if installed then (.error .alreadyInstalled, t) else (.ok (), t)

example : splitLogPath "scope.log" = .ok (".", "scope.log") := by rfl

example : splitLogPath "/" = .error (.invalidPath "/") := by rfl

end WaveScope
