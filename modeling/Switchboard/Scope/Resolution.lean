/-! # Resolutions

What a path written in a module stands for, as far as the module's own text can tell. -/

namespace Switchboard

/-- The names of a module path, outermost first. It may start with `crate`, `self` or `super`. -/
abbrev ModulePath := List String

/-- A module path as written, its names joined by `::`. -/
def ModulePath.render (m : ModulePath) : String :=
  "::".intercalate m

/-- Where a path written in a module points. -/
inductive Resolution where
  /-- To a type declared in the module itself. -/
  | localType (name : String)
  /-- To an item of another module, whose path is written as seen from this one. -/
  | external (module : ModulePath) (name : String)
  /-- To whatever a glob import supplies under the name. -/
  | glob (name : String)
  /-- To nothing that is declared or imported. -/
  | unresolved
  deriving DecidableEq, Repr, Inhabited

namespace Resolution

/-- The item that a full path names: its last name in the module before it. A path of one name can only be what a
glob supplies. -/
def ofFullPath (names : List String) : Resolution :=
  match names.getLast? with
  | none => unresolved
  | some name => if names.dropLast.isEmpty then glob name else external names.dropLast name

/-- The path of a resolved item as written, from this module. -/
def fullPath? : Resolution → Option String
  | localType name => some name
  | external m name => some (m.render ++ "::" ++ name)
  | glob name => some name
  | unresolved => none

@[simp] theorem ofFullPath_nil : ofFullPath [] = unresolved := rfl

@[simp] theorem ofFullPath_singleton (name : String) : ofFullPath [name] = glob name := rfl

@[simp] theorem ofFullPath_concat (m : ModulePath) (name : String) :
    ofFullPath (m ++ [name]) = if m.isEmpty then glob name else external m name := by
  simp [ofFullPath]

end Resolution

end Switchboard
