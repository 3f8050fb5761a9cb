import Switchboard.Event
import Switchboard.Files.Fault
import Switchboard.Handler.Descriptor

/-! # The analysis of a module

The files of a module are analysed together: their scope is built first, then every public function has to have the
form of a handler, in file and item order, and last the handlers are described. The first failure ends the analysis,
so that nothing is made of a module that is understood in part only. -/

namespace Switchboard

open Source

/-- What a module and its dispatch file call things: themselves, and the support that they use. -/
structure Conventions where
  moduleName : String
  setupFunction : String
  /-- The module of the request, the response writer and the multiplexer. -/
  transportPath : String
  /-- The module of the codec and the setup options. -/
  runtimePath : String
  requestType : String
  responseWriter : String
  deriving DecidableEq, Repr

namespace Conventions

/-- The conventions for a module when nothing else is said. -/
def ofModule (moduleName : String) : Conventions where
  moduleName := moduleName
  setupFunction := "config_serve_mux_handler"
  transportPath := "handlergen::transport"
  runtimePath := "handlergen::web"
  requestType := "Request"
  responseWriter := "ResponseWriter"

/-- The full path of the request type. -/
def requestPath (o : Conventions) : String :=
  o.transportPath ++ "::" ++ o.requestType

/-- The full path of the response writer. -/
def writerPath (o : Conventions) : String :=
  o.transportPath ++ "::" ++ o.responseWriter

/-- The full paths of the two injected types. -/
def injectedPaths (o : Conventions) : InjectedPaths :=
  ⟨o.requestPath, o.writerPath⟩

end Conventions

/-- Why an analysis fails. -/
inductive AnalysisFault where
  | unreadable (path : String) (fault : FileFault)
  /-- A file's text has an error at a place. -/
  | malformed (position : Position)
  | conflictingImport (conflict : ImportConflict)
  | noInput
  | rejected (rejection : HandlerRejection)
  deriving DecidableEq, Repr

namespace AnalysisFault

/-- The wording of a failure. -/
def message : AnalysisFault → String
  | unreadable path fault => s!"failed to read {path}: " ++ fault.message
  | malformed position => position.render ++ ": syntax error"
  | conflictingImport c =>
    c.position.render ++ s!": `{c.name}` is imported as both `{c.first.render}` and `{c.second.render}`"
  | noInput => "no input files"
  | rejected r => r.message

/-- The place at fault, if there is one. -/
def position? : AnalysisFault → Option Position
  | unreadable _ _ => none
  | malformed position => some position
  | conflictingImport c => some c.position
  | noInput => none
  | rejected r => some r.position

end AnalysisFault

/-- All that is needed to write a dispatch file. -/
structure DispatchContext where
  moduleName : String
  setupFunction : String
  transportAlias : String
  runtimeAlias : String
  imports : ImportTable
  descriptors : List Descriptor
  deriving DecidableEq, Repr

/-- A function together with the file that declares it. -/
structure DeclaredFunction where
  file : ModuleFile
  function : Function

/-- The functions of some files, in file and item order. -/
def declaredFunctions (files : List ModuleFile) : List DeclaredFunction :=
  files.flatMap fun file => file.functions.map fun f => ⟨file, f⟩

/-- The forms of the public functions, in order; fails at the first that is rejected. -/
def handlerForms (s : Scope) (paths : InjectedPaths) :
    List DeclaredFunction → Except HandlerRejection (List HandlerForm)
  | [] => .ok []
  | d :: rest =>
    if d.function.isCandidate then
      match s.formOf paths d.file d.function with
      | .error e => .error e
      | .ok form =>
        match handlerForms s paths rest with
        | .error e => .error e
        | .ok forms => .ok (form :: forms)
    else handlerForms s paths rest

/-- The context of a module whose handlers have the given forms. -/
def contextOf (o : Conventions) (forms : List HandlerForm) : DispatchContext :=
  let seeds := ImportTable.seeded o.transportPath o.runtimePath
  let (descriptors, imports) := describeAll seeds forms
  { moduleName := o.moduleName
    setupFunction := o.setupFunction
    transportAlias := (seeds.get? o.transportPath).getD ""
    runtimeAlias := (seeds.get? o.runtimePath).getD ""
    imports, descriptors }

/-- The analysis of the files of a module. -/
def analyze (o : Conventions) (files : List ModuleFile) : Except AnalysisFault DispatchContext :=
  if files.isEmpty then .error .noInput
  else match Scope.ofFiles files with
    | .error conflict => .error (.conflictingImport conflict)
    | .ok s =>
      match handlerForms s o.injectedPaths (declaredFunctions files) with
      | .error rejection => .error (.rejected rejection)
      | .ok forms => .ok (contextOf o forms)

/-! ### What an analysis reports -/

/-- The report on a scope that is complete. -/
def Scope.collectedEvent (s : Scope) (files : Nat) : Event :=
  ⟨.debug, .scope, "module scope collected",
    [("files", .count files), ("locals", .count s.types.length), ("imports", .count s.imports.length),
      ("globs", .count s.globs.length)]⟩

/-- The report on a handler that has its form. -/
def HandlerForm.classifiedEvent (h : HandlerForm) : Event :=
  ⟨.debug, .analysis, "classified handler",
    [("function", .text h.name), ("parameters", .count h.parameters.length),
      ("decodable", .count (h.parameters.filter (·.role.isData)).length), ("results", .count h.results.length)]⟩

/-- The report on a function that is passed over. -/
def DeclaredFunction.skippedEvent (d : DeclaredFunction) : Event :=
  ⟨.debug, .analysis, "skipping non-public function",
    [("function", .text d.function.name), ("file", .text d.file.path)]⟩

/-- The reports on the functions of a module, up to the first that is rejected. -/
def functionEvents (s : Scope) (paths : InjectedPaths) : List DeclaredFunction → List Event
  | [] => []
  | d :: rest =>
    if d.function.isCandidate then
      match s.formOf paths d.file d.function with
      | .error _ => []
      | .ok form => form.classifiedEvent :: functionEvents s paths rest
    else d.skippedEvent :: functionEvents s paths rest

/-- The report on an analysis that succeeded. -/
def DispatchContext.completeEvent (c : DispatchContext) (files : Nat) : Event :=
  ⟨.info, .analysis, "analysis complete",
    [("module", .text c.moduleName), ("files", .count files), ("handlers", .count c.descriptors.length),
      ("imports", .count c.imports.size)]⟩

/-- What the analysis of the files of a module reports. -/
def analysisEvents (o : Conventions) (files : List ModuleFile) : List Event :=
  match Scope.ofFiles files with
  | .error _ => []
  | .ok s =>
    if files.isEmpty then []
    else
      let complete := match analyze o files with
        | .ok c => [c.completeEvent files.length]
        | .error _ => []
      [s.collectedEvent files.length] ++ functionEvents s o.injectedPaths (declaredFunctions files) ++ complete

end Switchboard
