import Switchboard.Dispatch.File
import Switchboard.Project.Publication

/-! # Making dispatch files

The source files of a module are read and analysed, its dispatch file is written as a text, and the text replaces the
file. Looking into a module goes the same way up to the analysis. -/

namespace Switchboard

/-- What a dispatch file is made from. -/
structure GenerationJob where
  input : PathText
  /-- The dispatch file; without it, the module's default. -/
  output : Option PathText
  conventions : Conventions
  formatted : Bool
  /-- Whether the dispatch file is left as it is. -/
  dryRun : Bool
  deriving DecidableEq, Repr

/-- A dispatch file that was made, if only as a text. -/
structure GeneratedFile where
  output : PathText
  handlers : Nat
  written : Bool
  source : String
  deriving DecidableEq, Repr

/-- The source files of a module, and where its dispatch file goes. -/
structure Survey where
  output : PathText
  sources : List PathText
  deriving DecidableEq, Repr

namespace FileSystem

/-- The job for a module when nothing else is said. -/
def jobFor (fs : FileSystem) (input : PathText) : Except ProjectFault GenerationJob :=
  (fs.nameOfDirectory input).map fun name =>
    { input, output := none, conventions := .ofModule name, formatted := false, dryRun := false }

/-- Where the dispatch file goes. -/
def outputOf (fs : FileSystem) (j : GenerationJob) : Except ProjectFault PathText :=
  match j.output with
  | some p => .ok p
  | none => fs.defaultOutput j.input

/-- The source files of a module but for the dispatch file, and where that goes. -/
def survey (fs : FileSystem) (j : GenerationJob) : Except ProjectFault Survey :=
  match fs.outputOf j with
  | .error e => .error e
  | .ok output =>
    (fs.collectSources j.input).map fun sources => ⟨output, sources.filter fun p => !PathText.same p output⟩

/-- The analysis of the files of a survey. -/
def examine (fs : FileSystem) (j : GenerationJob) (s : Survey) : Except ProjectFault DispatchContext :=
  ((fs.readSources s.sources).bind (analyze j.conventions)).mapError (.analysis j.input)

/-- The handlers of a module and their imports. -/
def inspect (fs : FileSystem) (j : GenerationJob) : Except ProjectFault DispatchContext :=
  (fs.survey j).bind (fs.examine j)

/-- Replaces the dispatch file as the job says, and says what its text is then. -/
def writeOutput (fs : FileSystem) (tools : Tools) (j : GenerationJob) (output : PathText) (source : String) :
    Except ProjectFault String × FileSystem :=
  if j.formatted then fs.publishFormatted tools output source
  else
    let (r, fs) := fs.publish tools.marks output source
    (r.map fun () => source, fs)

/-- Makes the dispatch file of a module. -/
def generate (fs : FileSystem) (tools : Tools) (j : GenerationJob) : Except ProjectFault GeneratedFile × FileSystem :=
  match fs.survey j with
  | .error e => (.error e, fs)
  | .ok s =>
    match fs.examine j s with
    | .error e => (.error e, fs)
    | .ok c =>
      if j.dryRun then (.ok ⟨s.output, c.descriptors.length, false, c.render⟩, fs)
      else
        match fs.writeOutput tools j s.output c.render with
        | (.error e, fs) => (.error e, fs)
        | (.ok source, fs) => (.ok ⟨s.output, c.descriptors.length, true, source⟩, fs)

/-! ### What making a dispatch file reports -/

/-- The report on the source files of a module. -/
def Survey.event (j : GenerationJob) (s : Survey) : Event :=
  ⟨.debug, .project, "collected source files", [("input", .text j.input), ("files", .count s.sources.length)]⟩

/-- The report on a dispatch file. -/
def GeneratedFile.event (r : GeneratedFile) : Event :=
  ⟨.info, .project, if r.written then "generated dispatch file" else "dry run, dispatch file not written",
    [("output", .text r.output), ("handlers", .count r.handlers)]⟩

/-- What the analysis of the files of a survey reports. -/
def examinationEvents (fs : FileSystem) (j : GenerationJob) (s : Survey) : List Event :=
  match fs.readSources s.sources with
  | .error _ => []
  | .ok files => analysisEvents j.conventions files

/-- What looking into a module reports. -/
def inspectionEvents (fs : FileSystem) (j : GenerationJob) : List Event :=
  match fs.survey j with
  | .error _ => []
  | .ok s => fs.examinationEvents j s

/-- What making a dispatch file reports. -/
def generationEvents (fs : FileSystem) (tools : Tools) (j : GenerationJob) : List Event :=
  match fs.survey j with
  | .error _ => []
  | .ok s =>
    let written := match (fs.generate tools j).1 with
      | .error _ => []
      | .ok r => [GeneratedFile.event r]
    [Survey.event j s] ++ fs.examinationEvents j s ++ written

end FileSystem

end Switchboard
