/-!
# The command-line options

The options the scope accepts, each with its long name, an optional one-letter name, whether it
takes a value (and the placeholder naming that value), and its line of help.  The help and
version texts are laid out from this table: one line per option, the names in a column as wide
as the widest entry, then the help.

The options that set something, all but the help and the version, form one group.  A usage line
that names options in force may name the group, `<--host <HOST>|...>`, in place of its members.
-/

namespace WaveScope.CommandLine

/-- Which option. -/
inductive Flag where
  | host
  | port
  | points
  | yMax
  | noAutoScale
  | snapshotDir
  | config
  | help
  | version
deriving DecidableEq, Repr

/-- What an option does with the command line after it. -/
inductive Takes where
  /-- It takes one value, named by the placeholder in the help. -/
  | value (placeholder : String)
  /-- It is a switch: being there is its value. -/
  | presence
  /-- It prints the help. -/
  | help
  /-- It prints the version. -/
  | version
deriving DecidableEq, Repr

/-- One option. -/
structure OptionSpec where
  flag : Flag
  short : Option Char
  long : String
  takes : Takes
  help : String
deriving Repr

/-- The name the program goes by. -/
def programName : String := "rtt-scope"

/-- The version of the program. -/
def programVersion : String := "0.1.0"

/-- What the program does, in one line. -/
def about : String := "Plot a stream of little-endian u32 samples from an RTT TCP server"

/-- All options, in the order of the help. -/
def options : List OptionSpec :=
  [⟨.host, none, "host", .value "HOST", "RTT server host [default: 127.0.0.1]"⟩,
   ⟨.port, some 'p', "port", .value "PORT", "RTT server port [default: 60001]"⟩,
   ⟨.points, some 'n', "points", .value "POINTS",
     "Number of samples shown (buffer capacity) [default: 10000]"⟩,
   ⟨.yMax, none, "y-max", .value "Y_MAX", "Initial upper bound of the vertical axis [default: 16384]"⟩,
   ⟨.noAutoScale, none, "no-auto-scale", .presence, "Start with auto-scale disabled"⟩,
   ⟨.snapshotDir, none, "snapshot-dir", .value "SNAPSHOT_DIR",
     "Directory snapshots are written to [default: current directory]"⟩,
   ⟨.config, none, "config", .value "CONFIG", "Path to configuration file"⟩,
   ⟨.help, some 'h', "help", .help, "Print help"⟩,
   ⟨.version, some 'V', "version", .version, "Print version"⟩]

/-- The option of a long name. -/
def byLong? (name : String) : Option OptionSpec := options.find? (·.long == name)

/-- The option of a one-letter name. -/
def byShort? (c : Char) : Option OptionSpec := options.find? (·.short == some c)

/-- The entry of an option. -/
def spec (f : Flag) : OptionSpec :=
  (options.find? (·.flag == f)).getD ⟨f, none, "", .presence, ""⟩

/-- The option as messages name it: its long name, then its placeholder if it takes a value. -/
def OptionSpec.display (o : OptionSpec) : String :=
  "--" ++ o.long ++ match o.takes with
    | .value p => " <" ++ p ++ ">"
    | _ => ""

/-- The names of an option as the help lists them. -/
def OptionSpec.column (o : OptionSpec) : String :=
  (match o.short with
    | some c => "-" ++ c.toString ++ ", "
    | none => "    ") ++ o.display

/-- The text `s` followed by spaces up to `n` characters. -/
def padRight (n : Nat) (s : String) : String := s ++ String.ofList (List.replicate (n - s.length) ' ')

/-- How a command line of these options looks. -/
def usage (used : List Flag) : String :=
  if used.isEmpty then programName ++ " [OPTIONS]"
  else programName ++ String.join (used.map fun f => " " ++ (spec f).display)

/-- The option sets something: it is neither the help nor the version. -/
def Flag.isSetting : Flag → Bool
  | .help | .version => false
  | _ => true

/-- The group of the options that set something, as a usage line names it. -/
def settingsGroup : String :=
  "<" ++ "|".intercalate ((options.filter (·.flag.isSetting)).map (·.display)) ++ ">"

/-- How a command line of these options looks with the settings group named: the options outside
the group, each once, then the group. -/
def groupedUsage (used : List Flag) : String :=
  programName ++ String.join ((used.filter (!·.isSetting)).eraseDups.map fun f => " " ++ (spec f).display) ++
    " " ++ settingsGroup

/-- The help text. -/
def helpText : String :=
  let width := (options.map (·.column.length)).foldl max 0
  about ++ "\n\nUsage: " ++ usage [] ++ "\n\nOptions:\n" ++
    String.join (options.map fun o => "  " ++ padRight width o.column ++ "  " ++ o.help ++ "\n")

/-- The version text. -/
def versionText : String := programName ++ " " ++ programVersion ++ "\n"

example : (byLong? "port").map (·.flag) = some .port := by decide

end WaveScope.CommandLine
