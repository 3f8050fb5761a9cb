import Switchboard.Project.Generation
import Switchboard.Settings.Basic

/-! # Modules with settings

A module's settings stand in a file of a fixed name in its directory, unless another file is named. -/

namespace Switchboard

/-- The name of the file with the settings of a module. -/
def settingsName : String := "handlergen.toml"

namespace FileSystem

/-- The file with the settings of a module: the named file, which has to be there, or the one in its directory, if
there is one. -/
def settingsPath (fs : FileSystem) (named : Option PathText) (input : PathText) :
    Except ProjectFault (Option PathText) :=
  match named with
  | some p => if fs.leadsSomewhere p then .ok (some p) else .error (.missingSettings p)
  | none =>
    let p := PathText.join input settingsName
    .ok (if fs.leadsSomewhere p then some p else none)

/-- The settings in a file, if there is such a file. -/
def loadSettings (fs : FileSystem) (p : PathText) : Except ProjectFault (Option Settings) :=
  if fs.leadsSomewhere p then
    match fs.readText p with
    | .error fault => .error (.unreadSettings p fault)
    | .ok text =>
      match Settings.parse? text with
      | none => .error (.malformedSettings p)
      | some s => .ok (some s)
  else .ok none

/-- The settings of a module. -/
def settingsOf (fs : FileSystem) (named : Option PathText) (input : PathText) : Except ProjectFault Settings :=
  match fs.settingsPath named input with
  | .error e => .error e
  | .ok none => .ok .empty
  | .ok (some p) => (fs.loadSettings p).map (·.getD .empty)

/-- What reading the settings of a module reports. -/
def settingsEvents (fs : FileSystem) (named : Option PathText) (input : PathText) : List Event :=
  match fs.settingsPath named input with
  | .ok (some p) => [⟨.debug, .commands, "loading generator config", [("config", .text p)]⟩]
  | _ => []

/-- The job that the settings of a module make. A path of the settings starts at the module's directory. -/
def jobFrom (fs : FileSystem) (input : PathText) (s : Settings) : Except ProjectFault GenerationJob :=
  (fs.nameOfDirectory input).map fun name =>
    { input
      output := s.output.map (PathText.join input)
      conventions := s.conventions name
      formatted := s.formatted
      dryRun := false }

end FileSystem

end Switchboard
