import WaveScope.Toml.Reader
import WaveScope.Text.Decimal
import WaveScope.Text.Quoted

/-!
# The settings file

The settings a TOML file may give, each optional: the server's host and port, the number of
samples on screen, the initial top of the vertical range, whether auto-scale starts on, the
delay between reconnection attempts, the snapshot directory and the log file.  Any other key is
refused, and so is a value of the wrong kind or out of range, with a diagnostic that points at
the key or the value.

Entries are taken in the order of the document's root table; the first one that is refused is
reported.

**Main statements.**  `decodeEntry_unknown` says an unknown key is refused by name.
-/

namespace WaveScope.Settings

open Toml

/-- The settings a file gives; `none` where it is silent. -/
structure SettingsFile where
  host : Option String := none
  port : Option Nat := none
  sampleCount : Option Nat := none
  initialYMax : Option Float := none
  autoScale : Option Bool := none
  reconnectIntervalMs : Option Nat := none
  snapshotDir : Option String := none
  logFilePath : Option String := none
deriving Repr

/-- The keys of the file, in the order diagnostics list them. -/
def fileKeys : List String :=
  ["host", "port", "sample_count", "initial_y_max", "auto_scale", "reconnect_interval_ms",
   "snapshot_dir", "log_file_path"]

/-- A float as the diagnostics write it: every digit, and a decimal point always. -/
def floatWords (x : Float) : String :=
  let t := Decimal.plainText x
  if x.isFinite && !t.toList.contains '.' then t ++ ".0" else t

/-- How a diagnostic names a value that was found. -/
def found : Node → String
  | .value (.string s) _ => "string " ++ Text.quoted s
  | .value (.integer i) _ => "integer `" ++ toString i ++ "`"
  | .value (.float x) _ => "floating point `" ++ floatWords x ++ "`"
  | .value (.boolean b) _ => "boolean `" ++ toString b ++ "`"
  | .value (.array _) _ => "sequence"
  | .tableArray _ _ => "sequence"
  | _ => "map"

/-- Where a diagnostic about an entry's value points: the value, the table's header, the first
header of an array of tables, or else the key. -/
def nodeSpan (k : Key) : Node → Span
  | .value _ sp => sp
  | .table _ _ _ (some sp) => sp
  | .tableArray _ (some sp) => sp
  | _ => k.span

/-- A value of the wrong kind. -/
def wrongKind (n : Node) (wanted : String) : String :=
  "invalid type: " ++ found n ++ ", expected " ++ wanted

/-- An integer out of range. -/
def outOfRange (i : Int) (wanted : String) : String :=
  "invalid value: integer `" ++ toString i ++ "`, expected " ++ wanted

/-- A text. -/
def asText (n : Node) (wanted : String) : Except String String :=
  match n with
  | .value (.string s) _ => .ok s
  | _ => .error (wrongKind n wanted)

/-- An integer from `0` up to `max`. -/
def asCount (n : Node) (max : Nat) (wanted : String) : Except String Nat :=
  match n with
  | .value (.integer i) _ => if 0 ≤ i && i ≤ max then .ok i.toNat else .error (outOfRange i wanted)
  | _ => .error (wrongKind n wanted)

/-- A number; an integer stands for the nearest float. -/
def asNumber (n : Node) : Except String Float :=
  match n with
  | .value (.float x) _ => .ok x
  | .value (.integer i) _ => .ok (if 0 ≤ i then Float.ofNat i.toNat else -Float.ofNat i.natAbs)
  | _ => .error (wrongKind n "f64")

/-- A truth value. -/
def asFlag (n : Node) : Except String Bool :=
  match n with
  | .value (.boolean b) _ => .ok b
  | _ => .error (wrongKind n "a boolean")

/-- Takes one entry of the root table into the settings. -/
def decodeEntry (f : SettingsFile) (k : Key) (n : Node) : Except String SettingsFile :=
  match k.name with
  | "host" => do return { f with host := some (← asText n "a string") }
  | "port" => do return { f with port := some (← asCount n 65535 "u16") }
  | "sample_count" => do
    return { f with sampleCount := some (← asCount n (Nat.pow 2 64 - 1) "usize") }
  | "initial_y_max" => do return { f with initialYMax := some (← asNumber n) }
  | "auto_scale" => do return { f with autoScale := some (← asFlag n) }
  | "reconnect_interval_ms" => do
    return { f with reconnectIntervalMs := some (← asCount n (Nat.pow 2 64 - 1) "u64") }
  | "snapshot_dir" => do return { f with snapshotDir := some (← asText n "path string") }
  | "log_file_path" => do return { f with logFilePath := some (← asText n "path string") }
  | other => .error ("unknown field `" ++ other ++ "`, expected one of " ++
      ", ".intercalate (fileKeys.map fun k => "`" ++ k ++ "`"))

/-- Where a refusal of an entry points: the key for an unknown key, else the value. -/
def refusalSpan (k : Key) (n : Node) : Span :=
  if fileKeys.contains k.name then nodeSpan k n else k.span

/-- The settings of a document's root entries, or the diagnostic of the first refused one. -/
def SettingsFile.ofEntries (text : Array Char) (es : List (Key × Node)) :
    Except Diagnostic SettingsFile :=
  es.foldlM (fun f (k, n) =>
    (decodeEntry f k n).mapError (Diagnostic.atSpan text (refusalSpan k n))) {}

/-- Reads the settings from the text of a file. -/
def SettingsFile.read (text : String) : Except String SettingsFile :=
  let cs := text.toList.toArray
  match Toml.read cs >>= SettingsFile.ofEntries cs with
  | .ok f => .ok f
  | .error d => .error (d.render cs)

theorem decodeEntry_unknown (f : SettingsFile) (k : Key) (n : Node) (h : k.name = "colour") :
    decodeEntry f k n = .error ("unknown field `colour`, expected one of " ++
      ", ".intercalate (fileKeys.map fun k => "`" ++ k ++ "`")) := by
  simp [decodeEntry, h]

end WaveScope.Settings
