import Switchboard.NameMap
import Switchboard.Source.File
import Switchboard.Scope.Import

/-! # The scope of a module

All files of a module share one scope: the types it declares, its child modules, the names it imports and the modules
it imports as a whole. The scope is complete before any path is resolved, so the order of declarations does not
matter. Importing one name from two paths is a conflict. -/

namespace Switchboard

open Source

/-- A type declared in the module. -/
inductive DeclaredType where
  | declared (kind : TypeKind)
  /-- An alias of a type, which is also kept as it is spelled. -/
  | typeAlias (target : TypeExpr) (spelling : String) (isGeneric : Bool)

/-- An imported name's full path, and the declaration that first imported it. -/
structure Import where
  path : List String
  position : Position
  deriving DecidableEq, Repr

/-- Two imports of one name from different paths; the position is the later one's. -/
structure ImportConflict where
  position : Position
  name : String
  first : ModulePath
  second : ModulePath
  deriving DecidableEq, Repr

/-- The declarations and imports of a module, over all its files. -/
structure Scope where
  types : NameMap DeclaredType
  modules : List String
  imports : NameMap Import
  globs : List ModulePath

namespace Scope

/-- The scope of a module without files. -/
def empty : Scope := ⟨[], [], [], []⟩

/-- Adds an imported name. Importing it again from the same path changes nothing. -/
def addBinding (s : Scope) (position : Position) (name : String) (path : List String) :
    Except ImportConflict Scope :=
  match s.imports.get? name with
  | some known => if known.path = path then .ok s else .error ⟨position, name, known.path, path⟩
  | none => .ok { s with imports := s.imports.set name ⟨path, position⟩ }

/-- Adds a leaf of an import declaration. -/
def addLeaf (s : Scope) (position : Position) : ImportLeaf → Except ImportConflict Scope
  | .binding name path => s.addBinding position name path
  | .glob m => .ok (if s.globs.contains m then s else { s with globs := s.globs ++ [m] })

/-- Adds an item of a file. A type declared again takes the place of the earlier one. -/
def addItem (s : Scope) (file : ModuleFile) : Item → Except ImportConflict Scope
  | .declaration kind name => .ok { s with types := s.types.set name (.declared kind) }
  | .typeAlias name target spelling isGeneric =>
    .ok { s with types := s.types.set name (.typeAlias target spelling isGeneric) }
  | .module name => .ok { s with modules := name :: s.modules }
  | .use mark tree => tree.leaves.foldlM (fun s leaf => s.addLeaf (file.position mark) leaf) s
  | .function _ => .ok s
  | .other => .ok s

/-- Adds all items of a file. -/
def addFile (s : Scope) (file : ModuleFile) : Except ImportConflict Scope :=
  file.items.foldlM (fun s item => s.addItem file item) s

/-- The scope of a module with the given files. -/
def ofFiles (files : List ModuleFile) : Except ImportConflict Scope :=
  files.foldlM addFile empty

/-! ### Resolving paths -/

/-- What a bare name stands for: a declared type, an imported name, or else what a glob supplies. -/
def resolveName (s : Scope) (name : String) : Resolution :=
  if s.types.contains name then .localType name
  else match s.imports.get? name with
    | some known => .ofFullPath known.path
    | none => if s.globs.isEmpty then .unresolved else .glob name

/-- What a path of several names stands for, `first` in front of `rest`. A path keyword is left as it is; an imported
name stands for its path, and a child module is found below `self`. Any other first name is that of a crate. -/
def resolveQualified (s : Scope) (first : String) (rest : List String) : Resolution :=
  match first, rest with
  | "self", [name] => if s.types.contains name then .localType name else .unresolved
  | "crate", _ => .ofFullPath (first :: rest)
  | "self", _ => .ofFullPath (first :: rest)
  | "super", _ => .ofFullPath (first :: rest)
  | _, _ =>
    match s.imports.get? first with
    | some known => .ofFullPath (known.path ++ rest)
    | none =>
      if s.modules.contains first then .ofFullPath ("self" :: first :: rest)
      else .ofFullPath (first :: rest)

/-- What a path stands for, by its names. -/
def resolveNames (s : Scope) : List String → Resolution
  | [] => .unresolved
  | [name] => s.resolveName name
  | first :: rest => s.resolveQualified first rest

/-- What a written path stands for. Arguments, and a `::` in front, do not matter. -/
def resolve (s : Scope) (p : Path) : Resolution :=
  s.resolveNames p.names

/-- Where a name was first imported. -/
def positionOf? (s : Scope) (name : String) : Option Position :=
  (s.imports.get? name).map (·.position)

end Scope

end Switchboard
