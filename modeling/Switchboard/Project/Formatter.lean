import Switchboard.Files.Change
import Switchboard.Project.Fault

/-! # Formatters

A formatter is a program that is run on a file. Nothing is taken for granted of what it leaves there. -/

namespace Switchboard

/-- What a run of a formatter comes to. -/
structure FormatterRun where
  succeeded : Bool
  /-- The contents that it leaves, if it leaves a file. -/
  left : Option (List UInt8)
  deriving DecidableEq, Repr

/-- What a formatter makes of a file with the given contents, or of no file; nothing if it cannot be started. -/
abbrev Formatter := Option (List UInt8) → Option FormatterRun

namespace FileSystem

/-- The contents of the file at a location. -/
def contents? (fs : FileSystem) (l : Location) : Option (List UInt8) :=
  match fs.at? l with
  | some (.file bytes) => some bytes
  | _ => none

/-- Leaves a file with the given contents at a location, or none. -/
def leave (fs : FileSystem) (l : Location) : Option (List UInt8) → FileSystem
  | some bytes => fs.set l (.file bytes)
  | none => fs.erase l

/-- Runs a formatter on the file at a location. -/
def formatAt (fs : FileSystem) (f : Formatter) (l : Location) : Option (Bool × FileSystem) :=
  (f (fs.contents? l)).map fun run => (run.succeeded, fs.leave l run.left)

/-- Runs a formatter on the file where a path leads. Where no file can be, it can only leave none. -/
def runFormatter (fs : FileSystem) (f : Formatter) (p : PathText) : Except ProjectFault Unit × FileSystem :=
  let outcome := match fs.locateWritten p with
    | .ok l => fs.formatAt f l
    | .error _ => (f none).map fun run => (run.succeeded && run.left.isNone, fs)
  match outcome with
  | none => (.error .formatterMissing, fs)
  | some (true, fs) => (.ok (), fs)
  | some (false, fs) => (.error (.formatterFailed p), fs)

end FileSystem

end Switchboard
