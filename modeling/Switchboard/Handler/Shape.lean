import Switchboard.Handler.Diagnostic
import Switchboard.Scope.Basic

/-! # Shapes of types

What decides the role of a parameter is the shape of its type: a scalar, a named type, a box or reference of another
shape, an interface, or none of these. Parentheses and local aliases do not count: an alias has the shape of its
target. As aliases can be cyclic, at most `aliasLimit` of them are followed on the way to a shape. -/

namespace Switchboard

open Source

/-- The names of the scalar types. -/
def scalarNames : List String :=
  ["bool", "char", "i8", "i16", "i32", "i64", "i128", "isize", "u8", "u16", "u32", "u64", "u128", "usize", "f32",
    "f64", "String"]

/-- How many aliases are followed before a type is taken to be cyclic. -/
def aliasLimit : Nat := 32

/-- The shape of a type behind its aliases. -/
inductive Shape where
  | scalar (name : String)
  | named (resolution : Resolution)
  | boxed (inner : Shape)
  | reference (mutable : Bool) (target : Shape)
  /-- A trait object, an `impl` type or a trait's bare name. `bound` is its first trait; only an object, written as
  one, can be the response writer. -/
  | interface (bound : Option Resolution) (object : Bool)
  | unresolved (name : String)
  | unsupported (form : UnsupportedForm)
  deriving DecidableEq, Repr

/-- Whether a path names an item of the standard library: its names are `std` or `alloc` and then the given ones. -/
def Source.Path.isStandard (p : Path) (tail : List String) : Bool :=
  p.names == "std" :: tail || p.names == "alloc" :: tail

namespace Scope

variable (s : Scope)

/-- Whether a path's last name is that of the standard box: alone, unless the module declares a type of that name, or
through its full path. -/
def namesBox (p : Path) : Bool :=
  p.last.name == "Box" && ((p.initial.isEmpty && !s.types.contains "Box") || p.isStandard ["boxed", "Box"])

/-- The type in a box: the only type argument of a path to the standard box. -/
def boxed? (p : Path) : Option TypeExpr :=
  if s.namesBox p then
    match p.last.arguments with
    | .angle [t] => some t
    | _ => none
  else none

/-- The first trait among some bounds. -/
def leadingTrait? : List Bound → Option Resolution
  | [] => none
  | .trait p :: _ => some (s.resolve p)
  | _ :: bounds => leadingTrait? bounds

/-- The scalar that a path names, or the text type that has no size. Names that the module declares are not taken for
scalars. -/
def builtinShape? (p : Path) : Option Shape :=
  let name := p.last.name
  let plain := p.last.arguments.isNone
  if p.isBareName && !s.types.contains name && name == "str" then some (.unsupported .unsizedText)
  else if p.isBareName && !s.types.contains name && scalarNames.contains name && plain then some (.scalar name)
  else if p.isStandard ["string", "String"] && plain then some (.scalar "String")
  else none

theorem sizeOf_boxed {p : Path} {t : TypeExpr} (h : s.boxed? p = some t) : sizeOf t < sizeOf p := by
  obtain ⟨absolute, initial, ⟨name, arguments⟩⟩ := p
  unfold boxed? at h
  split at h
  · cases arguments with
    | none => simp at h
    | call => simp at h
    | angle ts =>
      match ts with
      | [] => simp at h
      | [u] =>
        simp only [Option.some.injEq] at h
        subst h
        simp
        omega
      | _ :: _ :: _ => simp at h
  · simp at h

/-- The shape of a type when a number of aliases may still be followed. -/
def shapeWithin (aliases : Nat) (t : TypeExpr) : Shape :=
  match t with
  | .paren inner => shapeWithin aliases inner
  | .reference mutable target => .reference mutable (shapeWithin aliases target)
  | .object bounds => .interface (s.leadingTrait? bounds) true
  | .abstract bounds => .interface (s.leadingTrait? bounds) false
  | .path p =>
    match s.builtinShape? p with
    | some shape => shape
    | none =>
    match _h : s.boxed? p with
    | some inner => .boxed (shapeWithin aliases inner)
    | none =>
    if p.isGeneric then .unsupported (.generic p.last.name)
    else match s.resolve p with
      | .localType name =>
        match s.types.get? name with
        | some (.typeAlias _ _ true) => .unsupported (.genericAlias name)
        | some (.typeAlias target _ false) =>
          if _h : aliases = 0 then .unsupported (.recursiveAlias name)
          else shapeWithin (aliases - 1) target
        | some (.declared .trait) => .interface (some (.localType name)) false
        | _ => .named (.localType name)
      | .unresolved => .unresolved p.render
      | r => .named r
  | .associated => .unsupported .associated
  | .slice => .unsupported .slice
  | .array => .unsupported .array
  | .tuple [] => .unsupported .unit
  | .tuple (_ :: _) => .unsupported .tuple
  | .function => .unsupported .functionPointer
  | .pointer => .unsupported .rawPointer
  | .never => .unsupported .never
  | .inferred => .unsupported .inferred
  | .invocation => .unsupported .invocation
  | .verbatim spelling => .unsupported (.verbatim spelling)
termination_by (aliases, sizeOf t)
decreasing_by
  · decreasing_tactic
  · decreasing_tactic
  · have := s.sizeOf_boxed _h
    apply Prod.Lex.right
    simp
    omega
  · apply Prod.Lex.left
    omega

/-- The shape of a type. -/
def shape (t : TypeExpr) : Shape :=
  s.shapeWithin aliasLimit t

/-! ### Results -/

/-- The target of a local alias of no type parameters that a path of one name names. -/
def aliasTarget? (p : Path) : Option TypeExpr :=
  if p.initial.isEmpty then
    match s.types.get? p.last.name with
    | some (.typeAlias target _ false) => some target
    | _ => none
  else none

/-- A type behind its parentheses and aliases, when a number of aliases may still be followed. -/
def expandWithin (aliases : Nat) (t : TypeExpr) : TypeExpr :=
  if _h : aliases = 0 then t
  else match t with
    | .paren inner => expandWithin aliases inner
    | .path p =>
      match s.aliasTarget? p with
      | some target => expandWithin (aliases - 1) target
      | none => t
    | _ => t
termination_by (aliases, sizeOf t)
decreasing_by
  · decreasing_tactic
  · apply Prod.Lex.left
    omega

/-- A type behind its parentheses and aliases. -/
def expand (t : TypeExpr) : TypeExpr :=
  s.expandWithin aliasLimit t

/-- Whether a type behind its aliases is a box. -/
def isBoxed (t : TypeExpr) : Bool :=
  match s.expand t with
  | .path p => (s.boxed? p).isSome
  | _ => false

end Scope

end Switchboard
