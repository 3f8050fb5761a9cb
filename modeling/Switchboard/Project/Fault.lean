import Switchboard.Analysis
import Switchboard.Files.PathText
import Switchboard.Text.Quoted

/-! # Faults of a project

Why a dispatch file cannot be made. -/

namespace Switchboard

/-- Why a dispatch file cannot be made. -/
inductive ProjectFault where
  /-- The directory of the module leads nowhere. -/
  | unlocatedInput (input : PathText) (fault : FileFault)
  /-- The directory of the module is the root, which has no name. -/
  | unnamedInput
  | unlistedInput (input : PathText) (fault : FileFault)
  | analysis (input : PathText) (error : AnalysisFault)
  | missingSettings (path : PathText)
  | unreadSettings (path : PathText) (fault : FileFault)
  | malformedSettings (path : PathText)
  /-- No file can be staged in a directory under a path. -/
  | unstaged (directory : PathText) (fault : FileFault) (path : PathText)
  /-- The formatter cannot be started. -/
  | formatterMissing
  | formatterFailed (path : PathText)
  /-- What the formatter left cannot be read. -/
  | unreadResult (fault : FileFault)
  | unpublished (path : PathText) (fault : FileFault)
  deriving DecidableEq, Repr

namespace ProjectFault

/-- A path between quotes. Single quotes get an escape too. -/
def quotedPath (p : PathText) : String :=
  String.ofList ((Text.quoted p).toList.flatMap fun c => if c = '\'' then ['\\', '\''] else [c])

/-- The wording of a failed analysis. A file that cannot be read names the cause twice. -/
def analysisMessage (e : AnalysisFault) : String :=
  match e with
  | .unreadable _ fault => e.message ++ ": " ++ fault.message
  | _ => e.message

/-- The wording of a fault. -/
def message : ProjectFault → String
  | unlocatedInput input fault => s!"Failed to canonicalize input dir: {input}: " ++ fault.message
  | unnamedInput => "Input dir has no usable name: /"
  | unlistedInput input fault => s!"Failed to read input dir: {input}: " ++ fault.message
  | analysis input error => s!"Failed to analyze {input}: " ++ analysisMessage error
  | missingSettings path => s!"config file not found: {path}"
  | unreadSettings path fault => s!"Failed to read generator config: {path}: " ++ fault.message
  | malformedSettings path => s!"Failed to parse generator config: {path}"
  | unstaged directory fault path =>
    s!"Failed to create temporary file in {directory}: " ++ fault.message ++ " at path " ++ quotedPath path
  | formatterMissing => FileFault.missing.message
  | formatterFailed path => s!"rustfmt failed on {path}"
  | unreadResult fault => fault.message
  | unpublished path fault => s!"Failed to write {path}: " ++ fault.message

end ProjectFault

end Switchboard
