import WaveScope.CommandLine.Parse
import WaveScope.Settings.Load
import WaveScope.LogFile
import WaveScope.View.App
import WaveScope.Terminal.Decode

/-!
# A run of the program

What one run of the scope does, start to end, as a function of what it is given: the command
line, the environment, the files of its working directory and, when it has one, the terminal
with what is typed on it.

1. The command line is read; the help, the version or a refusal ends the run there.
2. The settings file is loaded (the command line's path, else the one the environment names, else
   the default under the home directory) and the settings layered: defaults, file, environment,
   command line.  A file that cannot be read or parsed ends the run.
3. The log is set up, creating its directory and file.
4. The terminal is taken over.  Without one, the run ends there with the operating system's
   refusal.  With one, the scope runs: input is decoded into events, the session is ticked and a
   frame drawn between inputs, and the run ends when an event asks to quit.  A run that has not
   ended by the deadline is stopped from outside.

The stream server is not part of the picture: no samples arrive during a run.

**Main statement.**  `run_refused` says a refused command line ends the run with status `2`.
-/

namespace WaveScope.Launch

open View Settings

/-- One input to the terminal: after a pause, bytes typed and then, maybe, a new size. -/
structure ConsoleInput where
  delayMs : Nat
  bytes : List UInt8
  resize : Option (Nat × Nat)
deriving Repr

/-- A terminal of a size, with what is typed on it. -/
structure Console where
  width : Nat
  height : Nat
  inputs : List ConsoleInput
deriving Repr

/-- What a run is given. -/
structure Invocation where
  args : List String
  env : Environment
  disk : Files.Tree
  console : Option Console
  /-- After this many milliseconds the run is stopped from outside. -/
  deadlineMs : Nat

/-- How a run ended. -/
inductive Ending where
  | exited (code : Nat)
  | killed (signal : Nat)
deriving DecidableEq, Repr

/-- What a run did. -/
structure Outcome where
  ending : Ending
  stdout : String
  stderr : String
  disk : Files.Tree
  screenEntered : Bool

/-- The signal that stops a run from outside. -/
def killSignal : Nat := 9

/-- The error of taking over a terminal that is not there. -/
def noTerminal : String := "Io(" ++ Text.Os.IoError.debug Os.IoError.noDevice ++ ")"

/-- The status of a run that was stopped by a failure it does not return. -/
def abortStatus : Nat := 101

/-- Where the log writer stops the program when it cannot start. -/
def writerSource : String :=
  "/root/.cargo/registry/src/index.crates.io-1949cf8c6b5b557f/tracing-appender-0.2.3/src/rolling.rs:167:14"

/-- What a run prints when a failure stops it. -/
def abortText (message : String) : String :=
  "thread 'main' panicked at " ++ writerSource ++ ":\n" ++ message ++
    "\nnote: run with `RUST_BACKTRACE=1` environment variable to display a backtrace\n"

/-- Why a run ends before the terminal is taken over. -/
inductive Stop where
  /-- An error returned from the program, shown in its structural form. -/
  | failed (debug : String)
  /-- A failure that stops the program where it happens. -/
  | aborted (message : String)
deriving DecidableEq, Repr

/-- An environment variable holding an absolute path. -/
def absoluteVar (env : Environment) (name : String) : Option String :=
  (env.lookup name).filter (·.startsWith "/")

/-- The home directory, when the environment names one. -/
def homeDir (env : Environment) : Option String :=
  (env.lookup "HOME").filter (!·.isEmpty)

/-- The directory of user settings. -/
def configDir (env : Environment) : Option String :=
  (absoluteVar env "XDG_CONFIG_HOME").orElse fun _ => (homeDir env).map (Snapshot.joinPath · ".config")

/-- The directory of user state. -/
def stateDir (env : Environment) : Option String :=
  (absoluteVar env "XDG_STATE_HOME").orElse fun _ =>
    (homeDir env).map (Snapshot.joinPath · ".local/state")

/-- The settings file read when no other is named. -/
def defaultConfigPath (env : Environment) : Option String :=
  (configDir env).map (Snapshot.joinPath · "rtt-scope/config.toml")

/-- The log file used when the settings name none. -/
def defaultLogPath (env : Environment) : String :=
  match stateDir env with
  | some d => Snapshot.joinPath d "rtt-scope/rtt-scope.log"
  | none => "rtt-scope.log"

/-- The command line's settings as overrides of the others. -/
def overridesOf (a : CommandLine.Arguments) : Overrides :=
  { host := a.host, port := a.port, sampleCount := a.points, initialYMax := a.yMax,
    autoScale := if a.noAutoScale then some false else none, snapshotDir := a.snapshotDir }

/-- The session settings of the resolved settings. -/
def sessionSettings (r : Resolved) : SessionSettings :=
  ⟨r.sampleCount, r.initialYMax, r.autoScale, r.snapshotDir⟩

/-- The wall clock at the start of a run; later times count on from it. -/
def startClock : LocalTime := ⟨2025, 1, 1, 0, 0, 0⟩

/-- The wall clock `ms` milliseconds into a run. -/
def clockAt (ms : Nat) : LocalTime := startClock.plusSeconds (ms / 1000)

/-- Hands events to the application in order, until one asks to quit. -/
def dispatchAll (a : App Replay Files.Tree) (now : Nat) :
    List TerminalEvent → Bool × App Replay Files.Tree
  | [] => (false, a)
  | e :: es =>
    let (quit, a) := a.handleTerminal e now (clockAt now)
    if quit then (true, a) else dispatchAll a now es

/-- A frame: the session is ticked and the screen drawn. -/
def frame (a : App Replay Files.Tree) (now : Nat) : App Replay Files.Tree :=
  { a with session := a.session.tick now }.draw now

/-- Runs the scope on the typed inputs from time `now`, with the undecoded bytes `held`: the
time it quit, if it did before the deadline, and the application then. -/
def runConsole (deadline : Nat) (a : App Replay Files.Tree) (now : Nat) (held : List UInt8) :
    List ConsoleInput → Option Nat × App Replay Files.Tree
  | [] => (none, a)
  | i :: rest =>
    let now := now + i.delayMs
    if now ≥ deadline then (none, a)
    else
      let a := if i.delayMs > 0 then frame a now else a
      let (events, held) := Terminal.feed held i.bytes
      let (quit, a) := dispatchAll a now events
      if quit then (some now, a)
      else
        let (quit, a) := match i.resize with
          | some (w, h) => dispatchAll { a with width := w, height := h } now [.resize w h]
          | none => (false, a)
        if quit then (some now, a) else runConsole deadline a now held rest

/-- The settings in force, layered over the settings file's. -/
def resolvedOf (file : Option SettingsFile) (env : Environment) (args : CommandLine.Arguments) : Resolved :=
  applyOverrides (applyEnv (merge file) env) (overridesOf args)

/-- The log file of the settings in force. -/
def logPathOf (r : Resolved) (env : Environment) : String := r.logFilePath.getD (defaultLogPath env)

/-- The settings in force and the log set up, or what ends the run, with the files as they are
then. -/
def prepare (inv : Invocation) (args : CommandLine.Arguments) :
    Except (Stop × Files.Tree) (Resolved × Files.Tree) := do
  let file ← (loadWithPrecedence inv.disk args.config inv.env (defaultConfigPath inv.env)).mapError
    fun e => (.failed e.debug, inv.disk)
  let resolved := resolvedOf file inv.env args
  let (r, disk) := setUpLog inv.disk (logPathOf resolved inv.env) false
  match r with
  | .error e => .error (if e.stops then .aborted e.message else .failed e.debug, disk)
  | .ok () => pure (resolved, disk)

/-- The application a run starts on a terminal of a size, over the files `disk`. -/
def startApp (r : Resolved) (disk : Files.Tree) (width height : Nat) :
    App Replay Files.Tree :=
  App.new (Session.new ({ link := .connecting } : Replay) (sessionSettings r) 0 disk) width height

/-- One run of the program. -/
def run (inv : Invocation) : Outcome :=
  match CommandLine.parse inv.args with
  | .help => ⟨.exited 0, CommandLine.helpText, "", inv.disk, false⟩
  | .version => ⟨.exited 0, CommandLine.versionText, "", inv.disk, false⟩
  | .refused r => ⟨.exited 2, "", r.message, inv.disk, false⟩
  | .run args =>
    match prepare inv args with
    | .error (.failed e, disk) => ⟨.exited 1, "", "Error: " ++ e ++ "\n", disk, false⟩
    | .error (.aborted m, disk) => ⟨.exited abortStatus, "", abortText m, disk, false⟩
    | .ok (resolved, disk) =>
      match inv.console with
      | none => ⟨.exited 1, "", "Error: " ++ noTerminal ++ "\n", disk, false⟩
      | some c =>
        let (quitAt, a) := runConsole inv.deadlineMs (startApp resolved disk c.width c.height) 0 [] c.inputs
        let ending := if quitAt.isSome then Ending.exited 0 else .killed killSignal
        ⟨ending, "", "", a.session.disk, true⟩

theorem run_refused (inv : Invocation) (r : CommandLine.Refusal)
    (h : CommandLine.parse inv.args = .refused r) : (run inv).ending = .exited 2 := by
  simp [run, h]

end WaveScope.Launch
