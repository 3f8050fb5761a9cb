import Switchboard.Files.FileSystem
import Switchboard.Project.Fault
import Switchboard.Source.File

/-! # The source files of a module

A module is a directory. Its source files are the files directly in it whose names say so; generated files are left
out, so that a dispatch file is no part of the module it was made from. -/

namespace Switchboard

/-- The ending of the name of a generated file. -/
def generatedEnding : String := ".gen.rs"

/-- The ending of the name of a source file. -/
def sourceEnding : String := ".rs"

/-- Whether a name ends in a text. -/
def hasEnding (ending name : String) : Bool :=
  ending.toList.isSuffixOf name.toList

/-- Whether a file of this name is a source file and not a generated one. -/
def isSourceName (name : String) : Bool :=
  hasEnding sourceEnding name && !hasEnding generatedEnding name

/-- The names of the source files among the contents of a directory, in order. -/
def sourceNames (children : List (String × Entry)) : List String :=
  let names := children.filterMap fun (name, e) =>
    match e with
    | .file _ => if isSourceName name then some name else none
    | _ => none
  names.mergeSort fun a b => decide (a ≤ b)

namespace FileSystem

/-- The name of a directory, whatever path leads there. -/
def nameOfDirectory (fs : FileSystem) (directory : PathText) : Except ProjectFault String :=
  match fs.locate directory with
  | .error fault => .error (.unlocatedInput directory fault)
  | .ok l =>
    match l.getLast? with
    | some name => .ok name
    | none => .error .unnamedInput

/-- The dispatch file of a module that names no other: in its directory, and named like it. -/
def defaultOutput (fs : FileSystem) (directory : PathText) : Except ProjectFault PathText :=
  (fs.nameOfDirectory directory).map fun name => PathText.join directory (name ++ generatedEnding)

/-- The paths of the source files of a module, in the order of their names. -/
def collectSources (fs : FileSystem) (directory : PathText) : Except ProjectFault (List PathText) :=
  match fs.readDirectory directory with
  | .error fault => .error (.unlistedInput directory fault)
  | .ok children => .ok ((sourceNames children).map (PathText.join directory))

/-- Reads source files in order; fails at the first that cannot be read or understood. -/
def readSources (fs : FileSystem) : List PathText → Except AnalysisFault (List ModuleFile)
  | [] => .ok []
  | p :: rest =>
    match fs.readText p with
    | .error fault => .error (.unreadable p fault)
    | .ok text =>
      match ModuleFile.parse p text with
      | .error position => .error (.malformed position)
      | .ok file =>
        match readSources fs rest with
        | .error e => .error e
        | .ok files => .ok (file :: files)

end FileSystem

end Switchboard
