import Switchboard.Files.Fault
import Switchboard.Files.PathText
import Switchboard.Text.Utf8

/-! # File systems

Entries at locations. A location says which directories lead to an entry, without links and shortcuts; a path leads
to a location through the directories and links that it names. The entries come in some order, which is the order in
which a directory shows its contents. -/

namespace Switchboard

/-- The names that lead to an entry from the root. -/
abbrev Location := List String

/-- What stands at a location. -/
inductive Entry where
  | file (contents : List UInt8)
  | directory
  | link (target : PathText)
  deriving DecidableEq, Repr

/-- Files, directories and links. -/
structure FileSystem where
  entries : List (Location × Entry)
  /-- Where paths start that are not absolute. -/
  current : Location
  deriving DecidableEq, Repr

namespace FileSystem

/-- What stands at a location. The root is always a directory. -/
def at? (fs : FileSystem) (l : Location) : Option Entry :=
  if l = [] then some .directory else fs.entries.lookup l

/-- Puts an entry at a location. -/
def set (fs : FileSystem) (l : Location) (e : Entry) : FileSystem :=
  { fs with entries := fs.entries.filter (·.1 ≠ l) ++ [(l, e)] }

/-- Takes the entry at a location away. -/
def erase (fs : FileSystem) (l : Location) : FileSystem :=
  { fs with entries := fs.entries.filter (·.1 ≠ l) }

theorem lookup_filter_ne (entries : List (Location × Entry)) (l m : Location) :
    (entries.filter (·.1 ≠ l)).lookup m = if m = l then none else entries.lookup m := by
  induction entries with
  | nil => simp
  | cons p entries ih =>
    obtain ⟨k, e⟩ := p
    by_cases hk : k = l
    · subst hk
      rw [List.filter_cons_of_neg (by simp), ih]
      by_cases hm : m = k
      · simp [hm]
      · have hne : (m == k) = false := by simpa using hm
        rw [if_neg hm, if_neg hm, List.lookup_cons, hne]
    · rw [List.filter_cons_of_pos (by simpa using hk), List.lookup_cons, ih, List.lookup_cons]
      by_cases hm : m = l
      · subst hm
        have hne : (m == k) = false := by simpa using fun h => hk h.symm
        rw [hne, if_pos rfl]
      · rw [if_neg hm, if_neg hm]

/-- Putting an entry changes what stands at its location, and nothing else. -/
theorem at?_set (fs : FileSystem) {l : Location} (hl : l ≠ []) (m : Location) (e : Entry) :
    (fs.set l e).at? m = if m = l then some e else fs.at? m := by
  by_cases hm : m = []
  · subst hm
    have hne : ([] : Location) ≠ l := fun h => hl h.symm
    simp [at?, hne]
  · simp only [at?, set, if_neg hm, List.lookup_append, lookup_filter_ne]
    by_cases h : m = l
    · subst h
      simp
    · have hne : (m == l) = false := by simpa using h
      simp [h, List.lookup_cons, hne]

/-- Taking an entry away changes what stands at its location, and nothing else. -/
theorem at?_erase (fs : FileSystem) {l : Location} (hl : l ≠ []) (m : Location) :
    (fs.erase l).at? m = if m = l then none else fs.at? m := by
  by_cases hm : m = []
  · subst hm
    have hne : ([] : Location) ≠ l := fun h => hl h.symm
    simp [at?, hne]
  · simp only [at?, erase, if_neg hm, lookup_filter_ne]

/-- The names in a directory with what stands there. -/
def children (fs : FileSystem) (l : Location) : List (String × Entry) :=
  fs.entries.filterMap fun (m, e) =>
    match m.getLast? with
    | some name => if m.dropLast = l then some (name, e) else none
    | none => none

/-! ### Following paths -/

/-- Where following a path pauses: at its end, or at a link in a directory with parts still to go. -/
inductive Stop where
  | done (l : Location)
  | link (directory : Location) (target : PathText) (rest : List String)
  deriving Repr

/-- The greatest number of bytes in a name. -/
def maxNameSize : Nat := 255

/-- The greatest number of bytes in a path. -/
def maxPathSize : Nat := 4095

/-- Follows the parts of a path from a directory up to a link. A link that is the last part counts only if `last`
says so. -/
def advance (fs : FileSystem) (last : Bool) : Location → List String → Except FileFault Stop
  | here, [] => .ok (.done here)
  | here, s :: rest =>
    if s = "" ∨ s = "." then advance fs last here rest
    else if s = ".." then advance fs last here.dropLast rest
    else if s.utf8ByteSize > maxNameSize then .error .nameTooLong
    else match fs.at? (here ++ [s]) with
      | none => .error .missing
      | some (.file _) => if rest = [] then .ok (.done (here ++ [s])) else .error .notDirectory
      | some .directory => advance fs last (here ++ [s]) rest
      | some (.link target) =>
        if rest = [] ∧ !last then .ok (.done (here ++ [s])) else .ok (.link here target rest)

/-- Where a path starts. -/
def start (here : Location) (p : PathText) : Location :=
  if p.isAbsolute then [] else here

/-- Follows the parts of a path, and fewer links than the given number on the way. -/
def follow (fs : FileSystem) (last : Bool) : Nat → Location → List String → Except FileFault Location
  | 0, _, _ => .error .linkLoop
  | n + 1, here, segments =>
    match fs.advance last here segments with
    | .error e => .error e
    | .ok (.done l) => .ok l
    | .ok (.link directory target rest) =>
      follow fs last n (start directory target) (target.segments ++ rest)

/-- The greatest number of links that a path leads through. -/
def maxLinks : Nat := 40

/-- A path that no file can have. -/
def pathFault? (p : PathText) : Option FileFault :=
  if p = "" then some .missing
  else if p.toList.contains '\x00' then some .zeroInPath
  else if p.utf8ByteSize > maxPathSize then some .nameTooLong
  else none

/-- Where a path leads, with a last link followed if `last` says so. -/
def locateWith (fs : FileSystem) (last : Bool) (p : PathText) : Except FileFault Location :=
  match pathFault? p with
  | some e => .error e
  | none => fs.follow last (maxLinks + 1) (start fs.current p) p.segments

/-- Where a path leads. -/
def locate (fs : FileSystem) (p : PathText) : Except FileFault Location :=
  fs.locateWith true p

/-- Whether there is something where a path leads. -/
def leadsSomewhere (fs : FileSystem) (p : PathText) : Bool :=
  (fs.locate p).toOption.isSome

/-! ### Looking at files and directories -/

/-- The contents of a file. -/
def read (fs : FileSystem) (p : PathText) : Except FileFault (List UInt8) :=
  match fs.locate p with
  | .error e => .error e
  | .ok l =>
    match fs.at? l with
    | some (.file contents) => .ok contents
    | some .directory => .error .isDirectory
    | _ => .error .missing

/-- The contents of a file as text. -/
def readText (fs : FileSystem) (p : PathText) : Except FileFault String :=
  match fs.read p with
  | .error e => .error e
  | .ok bytes =>
    match Text.decodeUtf8? bytes with
    | some s => .ok s
    | none => .error .notText

/-- The location of a directory. -/
def locateDirectory (fs : FileSystem) (p : PathText) : Except FileFault Location :=
  match fs.locate p with
  | .error e => .error e
  | .ok l => if fs.at? l = some .directory then .ok l else .error .notDirectory

/-- The contents of a directory. -/
def readDirectory (fs : FileSystem) (p : PathText) : Except FileFault (List (String × Entry)) :=
  (fs.locateDirectory p).map fs.children

/-- All that stands below a directory, as paths from there in order; directories end in a slash. -/
def below (fs : FileSystem) (l : Location) : List PathText :=
  let paths := fs.entries.filterMap fun (m, e) =>
    if l.isPrefixOf m ∧ m ≠ l then
      let p := PathText.ofSegments (m.drop l.length)
      some (if e = .directory then p ++ "/" else p)
    else none
  paths.mergeSort fun p q => decide (p ≤ q)

end FileSystem

end Switchboard
