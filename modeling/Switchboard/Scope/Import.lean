import Switchboard.Source.Item
import Switchboard.Scope.Resolution

/-! # What imports bind

An import declaration stands for its leaves: names bound to full paths, and modules whose names all become visible.
The tree is read from left to right, and the names on the way to a leaf are its path. -/

namespace Switchboard

open Source

/-- One leaf of an import declaration. -/
inductive ImportLeaf where
  /-- A name bound to a full path. -/
  | binding (name : String) (path : List String)
  /-- A module all of whose names become visible. -/
  | glob (module : ModulePath)
  deriving DecidableEq, Repr

/-- The leaf of a plain name under a path. `self` binds the path's own last name, and nothing without a path. -/
def ImportLeaf.ofName (path : List String) (name : String) : List ImportLeaf :=
  if name = "self" then
    match path.getLast? with
    | some last => [.binding last path]
    | none => []
  else [.binding name (path ++ [name])]

/-- The leaf of a renamed name under a path. The name `_` binds nothing; `self` stands for the path itself. -/
def ImportLeaf.ofRename (path : List String) (name newName : String) : List ImportLeaf :=
  if newName = "_" then []
  else [.binding newName (if name = "self" then path else path ++ [name])]

mutual

/-- The leaves of a tree under a path, from left to right. -/
def Source.UseTree.leavesUnder (path : List String) : UseTree → List ImportLeaf
  | .path first tree => tree.leavesUnder (path ++ [first])
  | .name n => ImportLeaf.ofName path n
  | .rename n newName => ImportLeaf.ofRename path n newName
  | .glob => [.glob path]
  | .group trees => UseTree.allLeavesUnder path trees

/-- The leaves of several trees under a path. -/
def Source.UseTree.allLeavesUnder (path : List String) : List UseTree → List ImportLeaf
  | [] => []
  | t :: ts => t.leavesUnder path ++ UseTree.allLeavesUnder path ts

end

/-- The leaves of an import declaration, from left to right. -/
def Source.UseTree.leaves (tree : UseTree) : List ImportLeaf :=
  tree.leavesUnder []

end Switchboard
