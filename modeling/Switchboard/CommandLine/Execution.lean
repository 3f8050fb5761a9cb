import Switchboard.CommandLine.Invocation
import Switchboard.Dispatch.Inspection
import Switchboard.Document.PrettyJson
import Switchboard.Document.Yaml
import Switchboard.Project.Configured

/-! # Carrying out commands

A command works on a file system. It prints a text, reports events, and may fail; what it changes is the file system
that it leaves. -/

namespace Switchboard

/-- What carrying out a command comes to. -/
structure Execution where
  printed : String
  fault : Option ProjectFault
  events : List Event
  files : FileSystem

namespace Execution

/-- A command that fails without a change. -/
def failed (fs : FileSystem) (e : ProjectFault) (events : List Event) : Execution :=
  ⟨"", some e, events, fs⟩

end Execution

/-- What is told of a dispatch file that is written. -/
def GeneratedFile.line (r : GeneratedFile) : String :=
  s!"✅ Generated {r.output} ({r.handlers} handlers)\n"

/-- What is printed of a dispatch file: that it is written, or else the file itself. -/
def GeneratedFile.printed (r : GeneratedFile) : String :=
  if r.written then r.line else r.source

/-- A context in the form that is asked for. -/
def DocumentForm.render (f : DocumentForm) (c : DispatchContext) : String :=
  match f with
  | .json => c.document.prettyJson
  | .yaml => c.document.yaml

/-- The job as the command line has it. What it says goes before what the settings say. -/
def GenerateArguments.override (a : GenerateArguments) (j : GenerationJob) : GenerationJob :=
  { j with
    output := match a.output with
      | some p => some p
      | none => j.output
    conventions :=
      { j.conventions with
        moduleName := a.moduleName.getD j.conventions.moduleName
        setupFunction := a.setupFunction.getD j.conventions.setupFunction }
    formatted := j.formatted || a.formatted
    dryRun := a.dryRun }

namespace FileSystem

/-- The job for a module with the settings that a command line names, or with its own. -/
def configuredJob (fs : FileSystem) (config : Option PathText) (input : PathText) :
    Except ProjectFault GenerationJob :=
  (fs.settingsOf config input).bind (fs.jobFrom input)

/-- Carries out `generate`. -/
def executeGenerate (fs : FileSystem) (tools : Tools) (a : GenerateArguments) : Execution :=
  let settingsEvents := fs.settingsEvents a.config a.input
  match fs.configuredJob a.config a.input with
  | .error e => .failed fs e settingsEvents
  | .ok j =>
    let j := a.override j
    let events := settingsEvents ++ fs.generationEvents tools j
    match fs.generate tools j with
    | (.error e, fs) => .failed fs e events
    | (.ok r, fs) => ⟨r.printed, none, events, fs⟩

/-- Carries out `inspect`. -/
def executeInspect (fs : FileSystem) (a : InspectArguments) : Execution :=
  let settingsEvents := fs.settingsEvents a.config a.input
  match fs.configuredJob a.config a.input with
  | .error e => .failed fs e settingsEvents
  | .ok j =>
    let events := settingsEvents ++ fs.inspectionEvents j
    match fs.inspect j with
    | .error e => .failed fs e events
    | .ok c => ⟨a.format.render c ++ "\n", none, events, fs⟩

/-- Carries out a command. -/
def execute (fs : FileSystem) (tools : Tools) : Command → Execution
  | .generate a => fs.executeGenerate tools a
  | .inspect a => fs.executeInspect a

end FileSystem

end Switchboard
