import Switchboard.Project.Formatter
import Switchboard.Project.Sources

/-! # Publishing a file

A file is replaced in one step: its new contents are staged in a file beside it, formatted there if need be, and the
staged file is moved over it. If anything fails on the way the staged file is discarded, and nothing has changed.

A staged file is created with its contents in it. That it is created but cannot be filled, as on a full disk, is left
out: files have no limits here. It would be discarded like one that cannot be formatted. -/

namespace Switchboard

/-- What publishing takes besides the file: a formatter, and the marks that are tried in turn to set the name of a
staged file apart from other names. -/
structure Tools where
  formatter : Formatter
  marks : List String

/-- A file with new contents that waits to replace another. -/
structure StagedFile where
  path : PathText
  location : Location
  deriving DecidableEq, Repr

/-- The directory in which new contents for a file are staged. -/
def stagingDirectory (p : PathText) : PathText :=
  match PathText.parent? p with
  | none => "."
  | some d => if d = "" then "." else d

/-- The name of a staged file. -/
def stagedName (mark : String) : String :=
  ".handlergen" ++ mark ++ ".rs"

namespace FileSystem

/-- Stages contents in a directory under the first free name. -/
def stageIn (fs : FileSystem) (directory : PathText) (contents : List UInt8) :
    List String → Except ProjectFault (StagedFile × FileSystem)
  | [] => .error (.unstaged directory .noFreeName directory)
  | mark :: rest =>
    let path := PathText.join directory (stagedName mark)
    match fs.create path contents with
    | .ok (l, fs) => .ok (⟨path, l⟩, fs)
    | .error .occupied => stageIn fs directory contents rest
    | .error fault => .error (.unstaged directory fault path)

/-- Stages the new contents of a file. -/
def stage (fs : FileSystem) (marks : List String) (p : PathText) (text : String) :
    Except ProjectFault (StagedFile × FileSystem) :=
  fs.stageIn (stagingDirectory p) (Text.utf8 text) marks

/-- Gives a staged file up. -/
def discard (fs : FileSystem) (s : StagedFile) : FileSystem :=
  fs.erase s.location

/-- Runs a formatter on a staged file. The text is what it leaves. -/
def formatStaged (fs : FileSystem) (f : Formatter) (s : StagedFile) : Except ProjectFault String × FileSystem :=
  match fs.formatAt f s.location with
  | none => (.error .formatterMissing, fs)
  | some (false, fs) => (.error (.formatterFailed s.path), fs)
  | some (true, fs) =>
    match fs.contents? s.location with
    | none => (.error (.unreadResult .missing), fs)
    | some bytes =>
      match Text.decodeUtf8? bytes with
      | none => (.error (.unreadResult .notText), fs)
      | some text => (.ok text, fs)

/-- Moves a staged file over the file that it replaces, or gives it up. -/
def settle (fs : FileSystem) (s : StagedFile) (p : PathText) : Except ProjectFault Unit × FileSystem :=
  match fs.rename s.location p with
  | .ok fs => (.ok (), fs)
  | .error fault => (.error (.unpublished p fault), fs.discard s)

/-- Replaces a file by a text as it is. -/
def publish (fs : FileSystem) (marks : List String) (p : PathText) (text : String) :
    Except ProjectFault Unit × FileSystem :=
  match fs.stage marks p text with
  | .error e => (.error e, fs)
  | .ok (s, fs) => fs.settle s p

/-- Replaces a file by a text that is formatted first, and says what the text is then. -/
def publishFormatted (fs : FileSystem) (tools : Tools) (p : PathText) (text : String) :
    Except ProjectFault String × FileSystem :=
  match fs.stage tools.marks p text with
  | .error e => (.error e, fs)
  | .ok (s, fs) =>
    match fs.formatStaged tools.formatter s with
    | (.error e, fs) => (.error e, fs.discard s)
    | (.ok formatted, fs) =>
      match fs.settle s p with
      | (.error e, fs) => (.error e, fs)
      | (.ok (), fs) => (.ok formatted, fs)

end FileSystem

end Switchboard
