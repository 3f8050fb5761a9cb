/-! # Paths as they are written

A path is a text whose parts are set apart by slashes. Empty parts, and dots behind the first part, say nothing; two
paths are the same if the parts that remain agree. Joining and taking the parent keep the spelling of what they do
not touch. -/

namespace Switchboard

/-- A path as it is written. -/
abbrev PathText := String

namespace PathText

/-- The pieces of a text between separators; there is one more of them than separators. -/
def pieces (separator : Char) : List Char → List (List Char)
  | [] => [[]]
  | c :: cs =>
    if c = separator then [] :: pieces separator cs
    else match pieces separator cs with
      | [] => [[c]]
      | piece :: rest => (c :: piece) :: rest

/-- The parts of a path between slashes, empty ones too. -/
def segments (p : PathText) : List String :=
  (pieces '/' p.toList).map String.ofList

/-- Whether a path starts at the root. -/
def isAbsolute (p : PathText) : Bool :=
  p.toList.head? = some '/'

/-- What a path says, part by part. -/
inductive Component where
  | root
  | here
  | parent
  | name (s : String)
  deriving DecidableEq, Repr

/-- What a part says that is not the first. -/
def Component.ofSegment? (s : String) : Option Component :=
  if s = "" ∨ s = "." then none
  else if s = ".." then some .parent
  else some (.name s)

/-- What a path says. Only a dot at its very start counts. -/
def components (p : PathText) : List Component :=
  match p.segments with
  | [] => []
  | first :: rest =>
    let tail := rest.filterMap Component.ofSegment?
    if first = "" then (if p.isAbsolute then .root :: tail else tail)
    else if first = "." then .here :: tail
    else (Component.ofSegment? first).toList ++ tail

/-- Whether two paths say the same, part by part. -/
def same (p q : PathText) : Bool :=
  p.components = q.components

/-- A path below another. An absolute path stands for itself. -/
def join (p q : PathText) : PathText :=
  if q.isAbsolute then q
  else if p = "" ∨ p.toList.getLast? = some '/' then p ++ q
  else p ++ "/" ++ q

/-- Parts with slashes between them. -/
def ofSegments (segments : List String) : PathText :=
  "/".intercalate segments

/-- The parts of a reversed path that say nothing at its end are left out. -/
def dropSilent : List String → List String
  | [] => []
  | [s] => if s = "" then [] else [s]
  | s :: rest => if (Component.ofSegment? s).isNone then dropSilent rest else s :: rest

/-- The path without its last part; nothing for the root and for the empty path. -/
def parent? (p : PathText) : Option PathText :=
  match dropSilent p.segments.reverse with
  | [] => none
  | _ :: before =>
    match dropSilent before with
    | [] => some (if p.isAbsolute then "/" else "")
    | kept => some (ofSegments kept.reverse)

end PathText

end Switchboard
