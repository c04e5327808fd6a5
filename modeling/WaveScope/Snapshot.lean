import WaveScope.Files.Disk
import WaveScope.Sample.Window
import WaveScope.Axis.Range
import WaveScope.Text.Quoted

/-!
# Snapshots

A snapshot saves the samples of the horizontal range to a text file, one decimal value per line,
in position order, written through a buffer on a disk that may fail (`Files.writeValues`).  The
file is named after the local time of the snapshot, `rtt_snapshot_YYYYMMDD_HHMMSS.txt`; a year
outside `0..9999` is written with its sign.  With no sample in range nothing is written.

Local times are proleptic Gregorian calendar dates with a time of day, years from `-262143` to
`262142`.
-/

namespace WaveScope

open Os

/-- A local date and time. -/
structure LocalTime where
  year : Int
  month : Nat
  day : Nat
  hour : Nat
  minute : Nat
  second : Nat
deriving DecidableEq, Repr

namespace LocalTime

/-- The year has a 29th of February. -/
def isLeap (y : Int) : Bool := (y % 4 == 0 && y % 100 != 0) || y % 400 == 0

/-- The number of days of a month. -/
def daysIn (y : Int) (m : Nat) : Nat :=
  match m with
  | 2 => if isLeap y then 29 else 28
  | 4 | 6 | 9 | 11 => 30
  | _ => 31

/-- The fields name exactly one instant of the calendar: a real date and time of day in the
years -262143 to 262142.  The calendar itself reaches one year further each way, but a local time
of its first or last year may have no universal time inside it, so those years are refused. -/
def isValid (t : LocalTime) : Bool :=
  -262143 ≤ t.year && t.year ≤ 262142 && 1 ≤ t.month && t.month ≤ 12 && 1 ≤ t.day &&
    t.day ≤ daysIn t.year t.month && t.hour < 24 && t.minute < 60 && t.second < 60

/-- A number with at least `width` digits. -/
def padded (width n : Nat) : String :=
  let s := toString n
  String.ofList (List.replicate (width - s.length) '0') ++ s

/-- The year as four digits, or with its sign and at least four digits outside `0..9999`. -/
def yearText (y : Int) : String :=
  if 0 ≤ y && y ≤ 9999 then padded 4 y.toNat
  else (if y < 0 then "-" else "+") ++ padded 4 y.natAbs

/-- The stamp `YYYYMMDD_HHMMSS`. -/
def stamp (t : LocalTime) : String :=
  yearText t.year ++ padded 2 t.month ++ padded 2 t.day ++ "_" ++ padded 2 t.hour ++
    padded 2 t.minute ++ padded 2 t.second

/-- The first second of the next day. -/
def nextDay (t : LocalTime) : LocalTime :=
  if t.day < daysIn t.year t.month then { t with day := t.day + 1 }
  else if t.month < 12 then { t with month := t.month + 1, day := 1 }
  else { t with year := t.year + 1, month := 1, day := 1 }

/-- The time `n` seconds later. -/
def plusSeconds (t : LocalTime) (n : Nat) : LocalTime :=
  let total := t.hour * 3600 + t.minute * 60 + t.second + n
  let d := Nat.repeat nextDay (total / 86400) t
  let rest := total % 86400
  { d with hour := rest / 3600, minute := rest % 3600 / 60, second := rest % 60 }

end LocalTime

namespace Snapshot

/-- The name of a snapshot file taken at a local time. -/
def fileName (t : LocalTime) : String := "rtt_snapshot_" ++ t.stamp ++ ".txt"

/-- The values of the positions in the horizontal range. -/
def select (w : SampleWindow) (x : AxisRange) : Array UInt32 :=
  (w.within x.min x.max).map (·.2)

/-- A directory and a file name joined into one path. -/
def joinPath (dir name : String) : String :=
  if dir.isEmpty then name else if dir.endsWith "/" then dir ++ name else dir ++ "/" ++ name

/-- What saving a snapshot did. -/
inductive Outcome where
  | written (path : String) (count : Nat)
  | nothingVisible
deriving DecidableEq, Repr

/-- Why a snapshot could not be saved. -/
structure Failure where
  path : String
  source : IoError
deriving DecidableEq, Repr

/-- The message of a failed save. -/
def Failure.message (f : Failure) : String :=
  "Failed to write snapshot " ++ Text.quoted f.path ++ ": " ++ f.source.message

/-- The structural form of a failed save. -/
def Failure.debug (f : Failure) : String :=
  "Io \x7b path: " ++ Text.quoted f.path ++ ", source: " ++ Text.Os.IoError.debug f.source ++ " \x7d"

/-- Saves the values of the horizontal range into `dir`, naming the file by the time. -/
def save {δ : Type} [Files.Disk δ] (d : δ) (w : SampleWindow) (x : AxisRange) (dir : String)
    (at_ : LocalTime) : Except Failure Outcome × δ :=
  let values := select w x
  if values.isEmpty then (.ok .nothingVisible, d)
  else
    let path := joinPath dir (fileName at_)
    match Files.writeValues d path values.toList with
    | (d, .ok ()) => (.ok (.written path values.size), d)
    | (d, .error e) => (.error ⟨path, e⟩, d)

end Snapshot

end WaveScope
