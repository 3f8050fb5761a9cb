import Switchboard.Files.FileSystem

/-! # Changes to a file system

Making, renaming and removing files. A change that fails leaves everything as it was. -/

namespace Switchboard.FileSystem

/-- The name that a path ends in, if it ends in one. -/
inductive LastPart where
  /-- The path is a root, or it ends in a dot or two. -/
  | none
  /-- A name in the directory that the parts before lead to. -/
  | name (before : List String) (name : String) (slashed : Bool)
  deriving DecidableEq, Repr

/-- The last part of a path that says something. -/
def lastPart (p : PathText) : LastPart :=
  let parts := p.segments.reverse
  match parts.dropWhile (· = "") with
  | [] => .none
  | s :: before => if s = "." ∨ s = ".." then .none else .name before.reverse s (parts.head? = some "")

/-- The location of the directory that some parts of a path lead to. -/
def locateParts (fs : FileSystem) (p : PathText) (parts : List String) : Except FileFault Location :=
  fs.follow true (maxLinks + 1) (start fs.current p) (parts ++ [""])

/-- Where a path would put a new entry: a location in a directory that is there. Links at the end of the path are
not followed. -/
def locateNew (fs : FileSystem) (p : PathText) : Except FileFault Location :=
  match pathFault? p with
  | some e => .error e
  | none =>
    match lastPart p with
    | .none => .error .occupied
    | .name before name slashed =>
      match fs.locateParts p before with
      | .error e => .error e
      | .ok l =>
        if name.utf8ByteSize > maxNameSize then .error .nameTooLong
        else if slashed then .error .isDirectory
        else .ok (l ++ [name])

/-- Makes a file that is not there yet, and says where it is. -/
def create (fs : FileSystem) (p : PathText) (contents : List UInt8) : Except FileFault (Location × FileSystem) :=
  match fs.locateNew p with
  | .error e => .error e
  | .ok l => if (fs.at? l).isSome then .error .occupied else .ok (l, fs.set l (.file contents))

/-- Where a path lets a file replace what stands there. -/
def locateTarget (fs : FileSystem) (p : PathText) : Except FileFault Location :=
  match pathFault? p with
  | some e => .error e
  | none =>
    match lastPart p with
    | .none => .error .busy
    | .name before name slashed =>
      match fs.locateParts p before with
      | .error e => .error e
      | .ok l =>
        if name.utf8ByteSize > maxNameSize then .error .nameTooLong
        else if slashed then .error .notDirectory
        else if fs.at? (l ++ [name]) = some .directory then .error .isDirectory
        else .ok (l ++ [name])

/-- Moves a file in one step to where a path leads, over a file or link that stands there. -/
def rename (fs : FileSystem) (source : Location) (p : PathText) : Except FileFault FileSystem :=
  match fs.at? source with
  | none => .error .missing
  | some e =>
    match fs.locateTarget p with
    | .error e => .error e
    | .ok target => .ok ((fs.erase source).set target e)

/-- Where writing to a path puts the contents: where the path leads, or a new place. -/
def locateWritten (fs : FileSystem) (p : PathText) : Except FileFault Location :=
  match fs.locate p with
  | .ok l => if fs.at? l = some .directory then .error .isDirectory else .ok l
  | .error .missing => fs.locateNew p
  | .error e => .error e

/-- Writes a file, over the file that stands there. -/
def write (fs : FileSystem) (p : PathText) (contents : List UInt8) : Except FileFault FileSystem :=
  (fs.locateWritten p).map fun l => fs.set l (.file contents)

/-- Makes a link that is not there yet. -/
def createLink (fs : FileSystem) (p target : PathText) : Except FileFault FileSystem :=
  match fs.locateNew p with
  | .error e => .error e
  | .ok l => if (fs.at? l).isSome then .error .occupied else .ok (fs.set l (.link target))

/-- Makes the directories that some parts of a path name, from a directory on, where they are missing. -/
def createParts (fs : FileSystem) (p : PathText) (done : List String) : List String → Except FileFault FileSystem
  | [] => .ok fs
  | s :: rest =>
    let parts := done ++ [s]
    match fs.locateParts p parts with
    | .ok _ => createParts fs p parts rest
    | .error .missing =>
      match fs.locateParts p done with
      | .error e => .error e
      | .ok l => createParts (fs.set (l ++ [s]) .directory) p parts rest
    | .error e => .error e

/-- Makes a directory, and those that lead to it, where they are missing. -/
def createDirectories (fs : FileSystem) (p : PathText) : Except FileFault FileSystem :=
  if p = "" then .ok fs else fs.createParts p [] p.segments

/-- Takes away what stands at the end of a path, with all that is below it. A link goes by itself. -/
def remove (fs : FileSystem) (p : PathText) : Except FileFault FileSystem :=
  match fs.locateWith false p with
  | .error e => .error e
  | .ok l => .ok { fs with entries := fs.entries.filter fun (m, _) => !l.isPrefixOf m }

end Switchboard.FileSystem
