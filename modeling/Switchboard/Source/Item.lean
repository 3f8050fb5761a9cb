import Switchboard.Source.Position
import Switchboard.Source.TypeExpr

/-! # Items

The top-level items of a source file, as far as they matter to its analysis: type declarations, aliases, child
modules, imports and functions. -/

namespace Switchboard.Source

/-- What an import declaration brings into scope, as written: a tree whose leaves are names, renamed names and
globs. -/
inductive UseTree where
  /-- `name::tree` -/
  | path (name : String) (tree : UseTree)
  | name (name : String)
  /-- `name as newName`, where the new name may be `_` -/
  | rename (name newName : String)
  | glob
  | group (trees : List UseTree)

/-- One declared parameter of a function. -/
inductive Parameter where
  /-- The receiver `self` in any form. -/
  | receiver (mark : Mark)
  /-- A pattern and its type. `name` is the bound name, or the pattern's spelling if it is no plain name; `mark` is
  where the type starts. -/
  | typed (name : String) (mark : Mark) (type : TypeExpr)

/-- The parts of a function's signature that a caller has to respect. -/
structure Signature where
  isAsync : Bool
  isUnsafe : Bool
  isExtern : Bool
  isVariadic : Bool
  /-- Whether it has parameters for types or constants; lifetimes do not count. -/
  isGeneric : Bool
  parameters : List Parameter
  output : Option TypeExpr

/-- A function item. -/
structure Function where
  name : String
  /-- Where the name stands. -/
  mark : Mark
  /-- Whether it is marked `pub` without any restriction. -/
  isPublic : Bool
  signature : Signature

/-- The kinds of type that an item declares. -/
inductive TypeKind where
  | struct
  | enum
  | union
  | trait
  deriving DecidableEq, Repr

/-- A top-level item. -/
inductive Item where
  | function (f : Function)
  | declaration (kind : TypeKind) (name : String)
  /-- `type name = target;`, with the target's spelling. -/
  | typeAlias (name : String) (target : TypeExpr) (spelling : String) (isGeneric : Bool)
  | module (name : String)
  /-- An import; `mark` is where the item starts. -/
  | use (mark : Mark) (tree : UseTree)
  /-- Any item that declares nothing a signature could name. -/
  | other

end Switchboard.Source
