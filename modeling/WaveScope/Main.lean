import WaveScope.Launch.Run

/-!
# The scope as a command

The layer between the scope and the machine.  It reads the command line, the environment and
the settings file, sets up the log, and runs the scope on the terminal it was started from:
input is read as the terminal delivers it, a frame is drawn about sixty times a second, and
snapshot files the session saves are written to disk.  What to do is decided by
`WaveScope.Launch` and the modules below it; this module only moves bytes.
-/

namespace WaveScope.Command

open Launch Settings View

/-- The environment variables the scope reads. -/
def watchedVars : List String :=
  ["HOME", "XDG_CONFIG_HOME", "XDG_STATE_HOME", configVar, hostVar, portVar]

/-- The scope's view of the environment. -/
def environment : IO Environment :=
  watchedVars.filterMapM fun n => do pure ((← IO.getEnv n).map (n, ·))

/-- The error of an operating-system error number. -/
def osErrorOfCode (code : UInt32) (details : String) : Os.IoError :=
  match code.toNat with
  | 2 => .notFound
  | 13 => .permissionDenied
  | 17 => .alreadyExists
  | 20 => .notADirectory
  | 21 => .isADirectory
  | n => .os n "Uncategorized" details

/-- The scope's form of a runtime error. -/
def osError : IO.Error → Os.IoError
  | .alreadyExists _ c d | .otherError c d | .resourceBusy c d | .resourceVanished c d
  | .unsupportedOperation c d | .hardwareFault c d | .unsatisfiedConstraints c d
  | .illegalOperation c d | .protocolError c d | .timeExpired c d | .interrupted _ c d
  | .noFileOrDirectory _ c d | .invalidArgument _ c d | .permissionDenied _ c d
  | .resourceExhausted _ c d | .inappropriateType _ c d | .noSuchThing _ c d => osErrorOfCode c d
  | e => .simple "Other" (toString e)

/-- What reading a file gives: nothing when it does not exist. -/
def readBytes (path : String) : IO (Option (Except Os.IoError (List UInt8))) := do
  match ← (IO.FS.readBinFile path).toBaseIO with
  | .ok b => pure (some (.ok b.toList))
  | .error (.noFileOrDirectory ..) => pure none
  | .error e => pure (some (.error (osError e)))

/-- Sets the log up on disk: its directory and an empty file, kept if it exists. -/
def setUpLogOnDisk (p : String) : IO (Except LogError Unit) := do
  match splitLogPath p with
  | .error e => pure (.error e)
  | .ok (dir, name) =>
    match ← (IO.FS.createDirAll dir).toBaseIO with
    | .error e => pure (.error (.directoryCreation dir (osError e)))
    | .ok () =>
      let _ ← (IO.FS.Handle.mk (Snapshot.joinPath dir name) .append).toBaseIO
      pure (.ok ())

/-- A number from the environment, or a default. -/
def envNat (name : String) (d : Nat) : IO Nat := do
  pure (((← IO.getEnv name).bind String.toNat?).getD d)

/-- The files of `next` that `prev` does not hold as they are, with their paths. -/
def changedFiles (prev next : Files.Tree) : List (String × List UInt8) :=
  next.entries.filterMap fun (loc, n) =>
    match n with
    | .file b => if prev.node? loc == some (.file b) then none else some (Files.Tree.pathOf loc, b)
    | _ => none

/-- Draws a frame on the terminal. -/
def display (a : App Replay Files.Tree) : IO Unit := do
  let out ← IO.getStdout
  out.putStr ("\x1b[H" ++ "\r\n".intercalate a.previous.rows)
  out.flush

/-- Runs the scope until it quits or its input ends. -/
partial def loop (a : App Replay Files.Tree) (start : Nat) (held : List UInt8)
    (reader : Task (Except IO.Error ByteArray)) : IO Unit := do
  let now := (← IO.monoMsNow) - start
  let a := frame a now
  display a
  if ← IO.hasFinished reader then
    match reader.get with
    | .ok bytes =>
      if bytes.isEmpty then return
      let before := a.session.disk
      let (events, held) := Terminal.feed held bytes.toList
      let (quit, a) := dispatchAll a now events
      for (p, b) in changedFiles before a.session.disk do
        let _ ← (IO.FS.writeBinFile p ⟨b.toArray⟩).toBaseIO
      if quit then return
      let stdin ← IO.getStdin
      loop a start held (← IO.asTask (stdin.read 1024))
    | .error _ => return
  else
    IO.sleep 16
    loop a start held reader

/-- The files the session starts with: the working directory and, if it exists, the snapshot
directory. -/
def startDisk (snapshotDir : String) : IO Files.Tree := do
  let cwd ← IO.currentDir
  let target := if snapshotDir.startsWith "/" then { cwd with toString := snapshotDir } else cwd / snapshotDir
  let t := Files.Tree.emptyAt cwd.toString
  if ← target.isDir then pure ((t.createDirAll snapshotDir).toOption.getD t) else pure t

/-- Runs the scope on the terminal. -/
def runOnTerminal (r : Resolved) : IO UInt32 := do
  let out ← IO.getStdout
  let width ← envNat "COLUMNS" 80
  let height ← envNat "LINES" 24
  let disk ← startDisk r.snapshotDir
  out.putStr "\x1b[?1049h\x1b[?1000h\x1b[?1002h\x1b[?1015h\x1b[?1006h\x1b[?25l"
  let start ← IO.monoMsNow
  let stdin ← IO.getStdin
  loop (startApp r disk width height) start [] (← IO.asTask (stdin.read 1024))
  out.putStr "\x1b[?1006l\x1b[?1015l\x1b[?1002l\x1b[?1000l\x1b[?25h\x1b[?1049l"
  out.flush
  pure 0

/-- The whole program. -/
def start (words : List String) : IO UInt32 := do
  match CommandLine.parse words with
  | .help => IO.print CommandLine.helpText; pure 0
  | .version => IO.print CommandLine.versionText; pure 0
  | .refused r => IO.eprint r.message; pure 2
  | .run args =>
    let env ← environment
    let fail (e : String) : IO UInt32 := do IO.eprintln ("Error: " ++ e); pure 1
    match settingsPath args.config env (defaultConfigPath env) with
    | .error e => fail e.debug
    | .ok path =>
      let file ← match path with
        | some p => readSettings p <$> readBytes p
        | none => pure (.ok none)
      match file with
      | .error e => fail e.debug
      | .ok file =>
        let resolved := resolvedOf file env args
        match ← setUpLogOnDisk (logPathOf resolved env) with
        | .error e => fail e.debug
        | .ok () =>
          if ← (← IO.getStdin).isTty then runOnTerminal resolved
          else fail noTerminal

end WaveScope.Command

/-- The entry point. -/
def main (args : List String) : IO UInt32 := WaveScope.Command.start args
