import Switchboard.CommandLine.Program

/-! # The command line

Takes down the part of the real file system that a command line is about, runs the program on it, and carries the
changes over. It starts no other program, so it has no formatter. -/

open Switchboard

namespace Switchboard.CommandLine

/-- The variables that the program asks for. -/
def variableNames : List String :=
  ["HANDLERGEN_LOG_LEVEL", "HANDLERGEN_LOG_FORMAT", "HANDLERGEN_LOG_TARGET_FILTER",
    "HANDLERGEN_LOG_INCLUDE_LOCATION", "RUST_LOG"]

/-- The variables that are set. -/
def environment : IO Environment :=
  variableNames.filterMapM fun name => do return (← IO.getEnv name).map fun value => (name, value)

/-- A location as an absolute path. -/
def absolute (l : Location) : PathText :=
  "/" ++ PathText.ofSegments l

/-- Takes down what the parts of a path lead through. -/
partial def takeDown (fs : FileSystem) (here : Location) : List String → IO FileSystem
  | [] => return fs
  | s :: rest => do
    if s = "" || s = "." then takeDown fs here rest
    else if s = ".." then takeDown fs here.dropLast rest
    else
      let l := here ++ [s]
      match ← (IO.FS.realPath (absolute l)).toBaseIO with
      | .error _ => return fs
      | .ok real =>
        let target := real.toString
        if target ≠ absolute l then takeDown (fs.set l (.link target)) [] (PathText.segments target ++ rest)
        else if ← real.isDir then takeDown (fs.set l .directory) l rest
        else return fs.set l (.file (← IO.FS.readBinFile real).toList)

/-- Takes down what a path leads through. -/
def takeDownPath (fs : FileSystem) (p : PathText) : IO FileSystem :=
  takeDown fs (FileSystem.start fs.current p) p.segments

/-- Takes down the source files in a directory. -/
def takeDownSources (fs : FileSystem) (p : PathText) : IO FileSystem := do
  match fs.locateDirectory p with
  | .error _ => return fs
  | .ok l =>
    let entries ← (← IO.FS.realPath (absolute l)).readDir
    entries.foldlM (fun fs e => if isSourceName e.fileName then takeDown fs l [e.fileName] else return fs) fs

/-- Takes down all that a command is about. -/
def takeDownFor (fs : FileSystem) (c : Command) : IO FileSystem := do
  let (input, config, output) := match c with
    | .generate a => (a.input, a.config, a.output)
    | .inspect a => (a.input, a.config, none)
  let fs ← takeDownPath fs input
  let fs ← takeDownSources fs input
  let fs ← takeDownPath fs (config.getD (PathText.join input settingsName))
  match output, fs.configuredJob config input with
  | some p, _ => takeDownPath fs p
  | none, .ok o => match fs.outputOf o with
    | .ok p => takeDownPath fs p
    | .error _ => return fs
  | none, .error _ => return fs

/-- Six letters by chance. -/
def mark : IO String := do
  let letters ← (List.range 6).mapM fun _ => do return Char.ofNat (97 + (← IO.rand 0 25))
  return String.ofList letters

/-- Carries the files that have changed over to the real file system, each in one step. -/
def carryOver (old new : FileSystem) (mark : String) : IO Unit :=
  new.entries.forM fun (l, e) => do
    match e with
    | .file bytes =>
      if old.at? l ≠ some e then
        let staged := absolute (l.dropLast ++ [stagedName mark])
        IO.FS.writeBinFile staged ⟨bytes.toArray⟩
        IO.FS.rename staged (absolute l)
    | _ => return

end Switchboard.CommandLine

open Switchboard.CommandLine in
/-- Runs the program. -/
def main (args : List String) : IO UInt32 := do
  let current := (PathText.segments (← IO.currentDir).toString).filter (· ≠ "")
  let fs ← takeDown ⟨[], current⟩ [] current
  let fs ← match Invocation.parse args with
    | .ok i => takeDownFor fs i.command
    | .error _ => pure fs
  let mark ← mark
  let run := fs.runProgram ⟨fun _ => none, [mark]⟩ (← environment) args
  carryOver fs run.files mark
  IO.print run.printed
  run.warnings.forM IO.eprintln
  run.records.forM fun r => IO.eprintln (r.line run.logForm)
  run.failure.toList.forM IO.eprintln
  return UInt32.ofNat run.exitCode
