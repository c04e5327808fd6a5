import WaveScope.Settings.File
import WaveScope.Settings.Values
import WaveScope.Files.Tree
import WaveScope.Net.Endpoint
import WaveScope.Net.Link
import WaveScope.Sample.Window
import WaveScope.Axis.Viewport

/-!
# Where the settings come from

Settings are layered, each layer overriding the one below:

1. the defaults;
2. the settings file: the one named on the command line, else the one `RTT_SCOPE_CONFIG` names,
   else the default file, if any.  A file that does not exist gives nothing; one that cannot be
   read or parsed is an error;
3. the environment: `RTT_SCOPE_HOST` when not empty, `RTT_SCOPE_PORT` when it is a port;
4. the command line.

At least one sample is kept, and an initial top of the vertical range is used only when it is
finite and above zero; otherwise the layer below stands.

**Main statements.**  `merge_none` says no file gives the defaults; `applyOverrides_port` says a
port on the command line wins.
-/

namespace WaveScope.Settings

/-- The variable naming the settings file. -/
def configVar : String := "RTT_SCOPE_CONFIG"

/-- The variable overriding the host. -/
def hostVar : String := "RTT_SCOPE_HOST"

/-- The variable overriding the port. -/
def portVar : String := "RTT_SCOPE_PORT"

/-- Why the settings could not be loaded. -/
inductive LoadError where
  | invalidPath (reason : String)
  | unreadable (path : String) (reason : String)
  | malformed (path : String) (reason : String)
deriving DecidableEq, Repr

namespace LoadError

/-- The name of the kind of failure. -/
def kind : LoadError → String
  | .invalidPath _ => "InvalidPath"
  | .unreadable .. => "ReadError"
  | .malformed .. => "ParseError"

/-- The message of the failure. -/
def message : LoadError → String
  | .invalidPath r => "Invalid config path: " ++ r
  | .unreadable p r => "Failed to read config file at " ++ p ++ ": " ++ r
  | .malformed p r => "Invalid TOML in " ++ p ++ ": " ++ r

/-- The structural form of the failure. -/
def debug : LoadError → String
  | .invalidPath r => "InvalidPath(" ++ Text.quoted r ++ ")"
  | .unreadable p r => "ReadError \x7b path: " ++ Text.quoted p ++ ", reason: " ++ Text.quoted r ++ " \x7d"
  | .malformed p r => "ParseError \x7b path: " ++ Text.quoted p ++ ", reason: " ++ Text.quoted r ++ " \x7d"

end LoadError

/-- Environment variables, by name. -/
abbrev Environment := List (String × String)

/-- Reads a settings file from what reading it gave: nothing when it does not exist, else its
bytes or the error of reading them. -/
def readSettings (path : String) : Option (Except Os.IoError (List UInt8)) →
    Except LoadError (Option SettingsFile)
  | none => .ok none
  | some (.error e) => .error (.unreadable path e.message)
  | some (.ok bytes) =>
    match String.fromUTF8? ⟨bytes.toArray⟩ with
    | none => .error (.unreadable path Os.IoError.invalidUtf8.message)
    | some text =>
      match SettingsFile.read text with
      | .ok f => .ok (some f)
      | .error r => .error (.malformed path r)

/-- Loads a settings file: nothing if it does not exist. -/
def loadFile (t : Files.Tree) (path : String) : Except LoadError (Option SettingsFile) :=
  readSettings path (if t.exists? path then some (t.contents path) else none)

/-- The settings file chosen by precedence: the explicit path, else the one the environment
names, else the default path. -/
def settingsPath (explicit : Option String) (env : Environment) (defaultPath : Option String) :
    Except LoadError (Option String) :=
  match explicit with
  | some p => .ok (some p)
  | none =>
    match env.lookup configVar with
    | some "" => .error (.invalidPath (configVar ++ " is empty"))
    | some p => .ok (some p)
    | none => .ok defaultPath

/-- Loads the settings file chosen by precedence. -/
def loadWithPrecedence (t : Files.Tree) (explicit : Option String) (env : Environment)
    (defaultPath : Option String) : Except LoadError (Option SettingsFile) := do
  match ← settingsPath explicit env defaultPath with
  | some p => loadFile t p
  | none => pure none

/-- The settings in force. -/
structure Resolved where
  host : String
  port : Nat
  sampleCount : Nat
  initialYMax : Float
  autoScale : Bool
  reconnectIntervalMs : Nat
  snapshotDir : String
  /-- The log file; `none` for the default location. -/
  logFilePath : Option String
deriving Repr

/-- The defaults. -/
def Resolved.default : Resolved :=
  ⟨Net.Endpoint.default.host, Net.Endpoint.default.port, SampleWindow.defaultCapacity, Viewport.defaultYMax,
    true, Net.Link.defaultInterval, ".", none⟩

/-- The server to connect to. -/
def Resolved.endpoint (r : Resolved) : Net.Endpoint := ⟨r.host, r.port⟩

/-- The defaults with the file's settings over them. -/
def merge : Option SettingsFile → Resolved
  | none => Resolved.default
  | some f =>
    let d := Resolved.default
    { host := f.host.getD d.host
      port := f.port.getD d.port
      sampleCount := max (f.sampleCount.getD d.sampleCount) 1
      initialYMax := (f.initialYMax.bind checkedYMax).getD d.initialYMax
      autoScale := f.autoScale.getD d.autoScale
      reconnectIntervalMs := f.reconnectIntervalMs.getD d.reconnectIntervalMs
      snapshotDir := f.snapshotDir.getD d.snapshotDir
      logFilePath := f.logFilePath }

/-- The environment's host and port over the settings. -/
def applyEnv (r : Resolved) (env : Environment) : Resolved :=
  let r := match env.lookup hostVar with
    | some h => if h.isEmpty then r else { r with host := h }
    | none => r
  match env.lookup portVar with
  | some p => match parsePort p with
    | some n => { r with port := n }
    | none => r
  | none => r

/-- What the command line sets; `none` where it is silent. -/
structure Overrides where
  host : Option String := none
  port : Option Nat := none
  sampleCount : Option Nat := none
  initialYMax : Option Float := none
  autoScale : Option Bool := none
  snapshotDir : Option String := none
deriving Repr

/-- The command line's settings over the others. -/
def applyOverrides (r : Resolved) (o : Overrides) : Resolved :=
  { r with
    host := o.host.getD r.host
    port := o.port.getD r.port
    sampleCount := (o.sampleCount.map (max · 1)).getD r.sampleCount
    initialYMax := (o.initialYMax.bind checkedYMax).getD r.initialYMax
    autoScale := o.autoScale.getD r.autoScale
    snapshotDir := o.snapshotDir.getD r.snapshotDir }

theorem merge_none : merge none = Resolved.default := rfl

theorem applyOverrides_port (r : Resolved) (o : Overrides) (p : Nat) (h : o.port = some p) :
    (applyOverrides r o).port = p := by
  simp [applyOverrides, h]

end WaveScope.Settings
