/-! # Faults of the file system

Why a file or a directory cannot be used. -/

namespace Switchboard

/-- Why a file or a directory cannot be used. -/
inductive FileFault where
  | missing
  | busy
  | occupied
  | notDirectory
  | isDirectory
  | nameTooLong
  | linkLoop
  /-- The path has a zero character. -/
  | zeroInPath
  /-- The contents are no text. -/
  | notText
  /-- All names that were tried for a temporary file are taken. -/
  | noFreeName
  deriving DecidableEq, Repr

namespace FileFault

/-- The wording of a fault that the operating system reports by number. -/
def numbered (wording : String) (number : Nat) : String :=
  s!"{wording} (os error {number})"

/-- The wording of a fault. -/
def message : FileFault → String
  | missing => numbered "No such file or directory" 2
  | busy => numbered "Device or resource busy" 16
  | occupied => numbered "File exists" 17
  | notDirectory => numbered "Not a directory" 20
  | isDirectory => numbered "Is a directory" 21
  | nameTooLong => numbered "File name too long" 36
  | linkLoop => numbered "Too many levels of symbolic links" 40
  | zeroInPath => "file name contained an unexpected NUL byte"
  | notText => "stream did not contain valid UTF-8"
  | noFreeName => "too many temporary files exist"

end FileFault

end Switchboard
