/-! # Types as they are written

The types, paths and bounds that a signature can hold. Of a type whose form alone decides what becomes of it (a
slice, a function pointer) nothing else is kept; paths keep the names of their segments and the type arguments. -/

namespace Switchboard.Source

mutual

/-- A written type. -/
inductive TypeExpr where
  | paren (inner : TypeExpr)
  | reference (mutable : Bool) (target : TypeExpr)
  /-- A trait object, with `dyn` or without it. -/
  | object (bounds : List Bound)
  /-- An `impl` type. -/
  | abstract (bounds : List Bound)
  | path (path : Path)
  /-- An associated type named through `<T as Trait>::`. -/
  | associated
  | tuple (elements : List TypeExpr)
  | slice
  | array
  | function
  | pointer
  | never
  | inferred
  | invocation
  /-- A type of no known form, by its tokens. -/
  | verbatim (spelling : String)

/-- One bound of a trait object or an `impl` type. -/
inductive Bound where
  | trait (path : Path)
  | lifetime
  | other

/-- A path has at least one segment; an absolute one starts with `::`. -/
structure Path where
  absolute : Bool
  initial : List Segment
  last : Segment

/-- One name of a path with the arguments written behind it. -/
structure Segment where
  name : String
  arguments : Arguments

/-- The arguments of a path segment. Of those in angle brackets only the types count: lifetimes, constants, bindings
and constraints are left out. -/
inductive Arguments where
  | none
  | angle (types : List TypeExpr)
  | call

end

deriving instance Inhabited for Arguments, Segment, Path, TypeExpr

/-- Whether anything in brackets is written behind a segment. -/
def Arguments.isNone : Arguments → Bool
  | .none => true
  | .angle _ => false
  | .call => false

namespace Path

/-- All segments in order. -/
def segments (p : Path) : List Segment :=
  p.initial ++ [p.last]

/-- The names of all segments in order. -/
def names (p : Path) : List String :=
  p.segments.map (·.name)

/-- A path of one name with nothing in front of it. -/
def isBareName (p : Path) : Bool :=
  p.initial.isEmpty && !p.absolute

/-- Whether some segment has arguments. -/
def isGeneric (p : Path) : Bool :=
  p.segments.any fun s => !s.arguments.isNone

/-- The path as shown in messages: its names without arguments. -/
def render (p : Path) : String :=
  "::".intercalate p.names

end Path

end Switchboard.Source
