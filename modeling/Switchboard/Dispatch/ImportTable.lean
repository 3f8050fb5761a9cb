import Switchboard.Handler.Form

/-! # The imports of a dispatch file

A dispatch file names the modules it needs by aliases. The table gives each module path one alias, for good, when the
path is first asked for: its last name, or, if that is taken, the last name with the least number behind it that
makes it free. As the dispatch file is a child of the module it serves, paths relative to that module are written one
level further up. -/

namespace Switchboard

/-- A module path of a dispatch file and the alias that stands for it. -/
structure NamedImport where
  path : String
  aliasName : String
  deriving DecidableEq, Repr

/-- The characters behind the last `::`, if there is one. -/
def charsAfterLastColons? : List Char → Option (List Char)
  | [] => none
  | c :: cs =>
    match charsAfterLastColons? cs with
    | some rest => some rest
    | none =>
      match c, cs with
      | ':', ':' :: rest => some rest
      | _, _ => none

/-- The last name of a written path. -/
def lastName (path : String) : String :=
  match charsAfterLastColons? path.toList with
  | some rest => String.ofList rest
  | none => path

/-- Whether an import has to say its alias: by itself it binds the path's last name. -/
def NamedImport.isRenamed (e : NamedImport) : Bool :=
  lastName e.path != e.aliasName

/-- What an import says behind its path. -/
def NamedImport.asClause (e : NamedImport) : String :=
  if e.isRenamed then " as " ++ e.aliasName else ""

/-- A base name with a number behind it. -/
def numberedName (base : String) (number : Nat) : String :=
  base ++ "_" ++ toString number

/-- A name that is not taken: the base itself, or the base with the least number from one on that makes it free. Of
the numbers up to that of the taken names one always does. -/
def freshName (taken : List String) (base : String) : String :=
  if taken.contains base then
    let numbers := (List.range taken.length).map (· + 1)
    match numbers.find? fun k => !taken.contains (numberedName base k) with
    | some k => numberedName base k
    | none => numberedName base (taken.length + 1)
  else base

/-- The imports of a dispatch file, in the order in which they were first needed. -/
structure ImportTable where
  entries : List NamedImport
  deriving DecidableEq, Repr

namespace ImportTable

/-- The table without imports. -/
def empty : ImportTable := ⟨[]⟩

/-- The number of imports. -/
def size (t : ImportTable) : Nat := t.entries.length

/-- The aliases in use. -/
def aliases (t : ImportTable) : List String :=
  t.entries.map (·.aliasName)

/-- The alias of a path that was asked for before. -/
def get? (t : ImportTable) (path : String) : Option String :=
  (t.entries.find? (·.path = path)).map (·.aliasName)

/-- The alias of a path, and the table in which it has one. -/
def bind (t : ImportTable) (path : String) : String × ImportTable :=
  match t.get? path with
  | some name => (name, t)
  | none =>
    let name := freshName t.aliases (lastName path)
    (name, ⟨t.entries ++ [⟨path, name⟩]⟩)

/-- The table in which some paths were asked for, one after another. -/
def ofPaths (paths : List String) : ImportTable :=
  paths.foldl (fun t path => (t.bind path).2) empty

/-- The table that starts with the modules of the transport and of the runtime. -/
def seeded (transport runtime : String) : ImportTable :=
  ofPaths [transport, runtime]

end ImportTable

/-- A module path as seen from a child of the module in which it was written: `self` is the parent, and what was above
the parent is one level further up. -/
def ModulePath.fromChild : ModulePath → ModulePath
  | "self" :: rest => "super" :: rest
  | "super" :: rest => "super" :: "super" :: rest
  | m => m

/-- The names that stand for modules by their place and cannot be imported. -/
def leadWords : List String := ["crate", "self", "super"]

namespace ImportTable

/-- What a resolved type is called in the dispatch file, and the table with the import that the name needs. Names of
the module itself, and those that globs supply to it, are visible as they are; modules given by their place alone
need no import. -/
def qualify (t : ImportTable) : Resolution → String × ImportTable
  | .localType name => (name, t)
  | .glob name => (name, t)
  | .external m name =>
    let path := m.fromChild
    if path.all leadWords.contains then (path.render ++ "::" ++ name, t)
    else
      let (qualifier, t') := t.bind path.render
      (qualifier ++ "::" ++ name, t')
  | .unresolved => ("", t)

/-- What a data type is called in the dispatch file. -/
def typeName (t : ImportTable) : DataType → String × ImportTable
  | .scalar name => (name, t)
  | .named r => t.qualify r

end ImportTable

end Switchboard
