import Switchboard.Analysis
import Switchboard.Document.Basic
import Switchboard.Files.PathText
import Switchboard.Settings.Text

/-! # The settings of a module

What a module says about its own dispatch file. Whatever it leaves open has a default. -/

namespace Switchboard

/-- The settings of a module. -/
structure Settings where
  moduleName : Option String
  /-- The dispatch file, from the directory of the module if the path is not absolute. -/
  output : Option PathText
  setupFunction : Option String
  transportPath : Option String
  runtimePath : Option String
  requestType : Option String
  responseWriter : Option String
  /-- Whether the dispatch file is formatted. -/
  formatted : Bool
  deriving DecidableEq, Repr

namespace Settings

/-- Settings that leave everything open. -/
def empty : Settings where
  moduleName := none
  output := none
  setupFunction := none
  transportPath := none
  runtimePath := none
  requestType := none
  responseWriter := none
  formatted := false

/-- The settings after an assignment, if it has a known key and a value of the right kind. -/
def assign? (s : Settings) (a : Assignment) : Option Settings :=
  match a.key, a.value with
  | "module_name", .text v => some { s with moduleName := some v }
  | "output", .text v => some { s with output := some v }
  | "setup_fn", .text v => some { s with setupFunction := some v }
  | "transport_path", .text v => some { s with transportPath := some v }
  | "runtime_path", .text v => some { s with runtimePath := some v }
  | "request_type", .text v => some { s with requestType := some v }
  | "response_writer", .text v => some { s with responseWriter := some v }
  | "rustfmt", .flag b => some { s with formatted := b }
  | _, _ => none

/-- The settings that some assignments make. A key comes once at most. -/
def ofAssignments? (assignments : List Assignment) : Option Settings :=
  if (assignments.map (·.key)).Nodup then assignments.foldlM assign? empty else none

/-- The settings that a text makes. -/
def parse? (text : String) : Option Settings :=
  (Settings.assignments text).bind ofAssignments?

/-- The conventions that the settings make, for a module that has the given name unless it says otherwise. -/
def conventions (s : Settings) (defaultModule : String) : Conventions :=
  let defaults := Conventions.ofModule (s.moduleName.getD defaultModule)
  { defaults with
    setupFunction := s.setupFunction.getD defaults.setupFunction
    transportPath := s.transportPath.getD defaults.transportPath
    runtimePath := s.runtimePath.getD defaults.runtimePath
    requestType := s.requestType.getD defaults.requestType
    responseWriter := s.responseWriter.getD defaults.responseWriter }

/-- Settings as they are shown to a reader. -/
def document (s : Settings) : Document :=
  .record
    [("module_name", .ofText? s.moduleName), ("output", .ofText? s.output), ("setup_fn", .ofText? s.setupFunction),
      ("transport_path", .ofText? s.transportPath), ("runtime_path", .ofText? s.runtimePath),
      ("request_type", .ofText? s.requestType), ("response_writer", .ofText? s.responseWriter),
      ("rustfmt", .bool s.formatted)]

end Settings

end Switchboard
