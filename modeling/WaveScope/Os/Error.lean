/-!
# Operating-system errors

The errors that file and socket operations report, with the two texts the program shows of them:
the message (`No such file or directory (os error 2)`) and the structural form used in
diagnostics (`Os { code: 2, kind: NotFound, message: "No such file or directory" }`).

An error is either an OS error number with its kind and description, or a plain message with a
kind, which the runtime raises itself (invalid UTF-8 in a file, a NUL byte in a name).
-/

namespace WaveScope.Os

/-- An error of a file or socket operation. -/
inductive IoError where
  /-- An error number reported by the operating system. -/
  | os (code : Nat) (kind : String) (description : String)
  /-- An error raised before or after the system call, with a fixed message. -/
  | simple (kind : String) (message : String)
deriving DecidableEq, Repr

namespace IoError

/-- The error `ENOENT`. -/
def notFound : IoError := .os 2 "NotFound" "No such file or directory"
/-- The error `ENXIO`. -/
def noDevice : IoError := .os 6 "Uncategorized" "No such device or address"
/-- The error `EACCES`. -/
def permissionDenied : IoError := .os 13 "PermissionDenied" "Permission denied"
/-- The error `EEXIST`. -/
def alreadyExists : IoError := .os 17 "AlreadyExists" "File exists"
/-- The error `ENOTDIR`. -/
def notADirectory : IoError := .os 20 "NotADirectory" "Not a directory"
/-- The error `EISDIR`. -/
def isADirectory : IoError := .os 21 "IsADirectory" "Is a directory"
/-- The error `ENAMETOOLONG`. -/
def nameTooLong : IoError := .os 36 "InvalidFilename" "File name too long"
/-- The error `ENETUNREACH`. -/
def networkUnreachable : IoError := .os 101 "NetworkUnreachable" "Network is unreachable"
/-- The error `ECONNREFUSED`. -/
def connectionRefused : IoError := .os 111 "ConnectionRefused" "Connection refused"
/-- A text file whose bytes are not UTF-8. -/
def invalidUtf8 : IoError := .simple "InvalidData" "stream did not contain valid UTF-8"
/-- A name with a NUL byte, refused before any system call. -/
def nulByte : IoError := .simple "InvalidInput" "file name contained an unexpected NUL byte"
/-- A write that took none of a writer's buffered bytes. -/
def writeZeroBuffered : IoError := .simple "WriteZero" "failed to write the buffered data"
/-- A write that took none of the bytes that were to be written whole. -/
def writeZeroWhole : IoError := .simple "WriteZero" "failed to write whole buffer"

/-- The text of the error. -/
def message : IoError → String
  | .os code _ d => d ++ " (os error " ++ toString code ++ ")"
  | .simple _ m => m

end IoError

end WaveScope.Os
