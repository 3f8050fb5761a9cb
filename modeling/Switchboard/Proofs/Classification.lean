import Switchboard.Proofs.Roles
import Switchboard.Proofs.Spine

/-! # Which types have which roles

The types are told apart by what stands behind their parentheses and aliases: `Strips` says what that is, and how many of
the aliases may still be followed from there. `HasShape` has a rule for each form, without the order in which forms are
tried, and says of no type two shapes (`hasShape_iff`). With the rows of the table of roles in terms of what a written
path names, a type has the role of its row, or the fault of its row, and no other (`roleOf_shape_iff`).

A name of the prelude is one only where nothing hides it, neither a type of the module nor an import. The rows are those
of a module whose imports leave these names alone (`KeepsPrelude`); there only a declaration can hide one.

The name of the text type without a size is a row of its own: a glob could supply it like any other name, but it is
rejected even then. -/

namespace Switchboard

open Source

namespace Scope

/-! ### Behind parentheses and aliases -/

/-- The first type, with so many aliases left, leads through parentheses and aliases to the second. -/
inductive Strips (s : Scope) : Nat → TypeExpr → Nat → TypeExpr → Prop where
  | done {n : Nat} {t : TypeExpr} : Strips s n t n t
  | paren {n m : Nat} {t u : TypeExpr} : Strips s n t m u → Strips s n (.paren t) m u
  | aliasOf {n m : Nat} {p : Path} {target u : TypeExpr} (h : s.IsAliasOf p target) :
      Strips s n target m u → Strips s (n + 1) (.path p) m u

variable {s : Scope} {n m : Nat} {t u : TypeExpr} {x : Shape}

theorem shapeWithin_of_strips (h : s.Strips n t m u) : s.shapeWithin n t = s.shapeWithin m u := by
  induction h with
  | done => rfl
  | paren _ ih =>
    rw [shapeWithin]
    exact ih
  | aliasOf halias _ ih =>
    rw [shapeWithin_alias_succ halias]
    exact ih

/-- The first trait among some bounds, by what it resolves to. -/
def LeadsBounds (s : Scope) (bounds : List Bound) (r : Resolution) : Prop :=
  ∃ front p back, bounds = front ++ .trait p :: back ∧ (∀ q, Bound.trait q ∉ front) ∧ s.resolve p = r

theorem leadingTrait?_eq_some_iff {bounds : List Bound} {r : Resolution} :
    s.leadingTrait? bounds = some r ↔ s.LeadsBounds bounds r := by
  induction bounds with
  | nil =>
    refine ⟨nofun, ?_⟩
    rintro ⟨front, p, back, h, -⟩
    simp at h
  | cons b bounds ih =>
    -- A bound that is no trait can be left out.
    have skip : (∀ q, b ≠ .trait q) → (s.LeadsBounds (b :: bounds) r ↔ s.LeadsBounds bounds r) := by
      intro hb
      constructor
      · rintro ⟨front, p, back, h, hfront, hr⟩
        cases front with
        | nil =>
          rw [List.nil_append, List.cons.injEq] at h
          exact absurd h.1 (hb p)
        | cons c front =>
          rw [List.cons_append, List.cons.injEq] at h
          exact ⟨front, p, back, h.2, fun q hq => hfront q (List.mem_cons_of_mem _ hq), hr⟩
      · rintro ⟨front, p, back, rfl, hfront, hr⟩
        refine ⟨b :: front, p, back, rfl, fun q hq => ?_, hr⟩
        rcases List.mem_cons.mp hq with hq | hq
        · exact hb q hq.symm
        · exact hfront q hq
    cases b with
    | trait p =>
      rw [leadingTrait?, Option.some.injEq]
      constructor
      · intro hr
        exact ⟨[], p, bounds, rfl, nofun, hr⟩
      · rintro ⟨front, q, back, h, hfront, hr⟩
        cases front with
        | nil =>
          rw [List.nil_append, List.cons.injEq, Bound.trait.injEq] at h
          rw [h.1]
          exact hr
        | cons c front =>
          rw [List.cons_append, List.cons.injEq] at h
          exact absurd (h.1 ▸ List.mem_cons_self) (hfront p)
    | lifetime =>
      rw [skip nofun, ← ih]
      rfl
    | other =>
      rw [skip nofun, ← ih]
      rfl

/-! ### Shapes by rules -/

/-- The shape of a type with a number of aliases left, by a rule for each form. -/
inductive HasShape (s : Scope) : Nat → TypeExpr → Shape → Prop where
  | scalar {n m : Nat} {t : TypeExpr} {p : Path} {name : String} (h : s.Strips n t m (.path p))
      (hp : s.IsScalar p name) : HasShape s n t (.scalar name)
  | named {n m : Nat} {t : TypeExpr} {p : Path} {r : Resolution} (h : s.Strips n t m (.path p))
      (hp : s.IsNamed p r) : HasShape s n t (.named r)
  | boxed {n m : Nat} {t inner : TypeExpr} {p : Path} {x : Shape} (h : s.Strips n t m (.path p))
      (hp : s.IsBoxOf p inner) (hx : HasShape s m inner x) : HasShape s n t (.boxed x)
  | reference {n m : Nat} {t target : TypeExpr} {mutable : Bool} {x : Shape}
      (h : s.Strips n t m (.reference mutable target)) (hx : HasShape s m target x) :
      HasShape s n t (.reference mutable x)
  | object {n m : Nat} {t : TypeExpr} {bounds : List Bound} (h : s.Strips n t m (.object bounds)) :
      HasShape s n t (.interface (s.leadingTrait? bounds) true)
  | abstract {n m : Nat} {t : TypeExpr} {bounds : List Bound} (h : s.Strips n t m (.abstract bounds)) :
      HasShape s n t (.interface (s.leadingTrait? bounds) false)
  | trait {n m : Nat} {t : TypeExpr} {p : Path} {name : String} (h : s.Strips n t m (.path p))
      (hp : s.Declares p name (.declared .trait)) : HasShape s n t (.interface (some (.localType name)) false)
  | unresolved {n m : Nat} {t : TypeExpr} {p : Path} (h : s.Strips n t m (.path p)) (hp : s.IsUnknown p) :
      HasShape s n t (.unresolved p.render)
  | unsupported {n : Nat} {t : TypeExpr} {form : UnsupportedForm} (h : s.shapeWithin n t = .unsupported form) :
      HasShape s n t (.unsupported form)

theorem HasShape.shapeWithin_eq (h : s.HasShape n t x) : s.shapeWithin n t = x := by
  induction h with
  | scalar h hp => rw [shapeWithin_of_strips h, shapeWithin_scalar hp]
  | named h hp => rw [shapeWithin_of_strips h, shapeWithin_named hp]
  | boxed h hp _ ih => rw [shapeWithin_of_strips h, shapeWithin_box hp, ih]
  | reference h _ ih => rw [shapeWithin_of_strips h, shapeWithin, ih]
  | object h => rw [shapeWithin_of_strips h, shapeWithin]
  | abstract h => rw [shapeWithin_of_strips h, shapeWithin]
  | trait h hp => rw [shapeWithin_of_strips h, shapeWithin_trait hp]
  | unresolved h hp => rw [shapeWithin_of_strips h, shapeWithin_unknown hp]
  | unsupported h => exact h

/-- Whatever a type leads to through parentheses and aliases has its shape. -/
theorem HasShape.of_strips (hstep : ∀ {k v}, s.Strips m u k v → s.Strips n t k v)
    (hshape : s.shapeWithin n t = s.shapeWithin m u) (h : s.HasShape m u x) : s.HasShape n t x := by
  cases h with
  | scalar h hp => exact .scalar (hstep h) hp
  | named h hp => exact .named (hstep h) hp
  | boxed h hp hx => exact .boxed (hstep h) hp hx
  | reference h hx => exact .reference (hstep h) hx
  | object h => exact .object (hstep h)
  | abstract h => exact .abstract (hstep h)
  | trait h hp => exact .trait (hstep h) hp
  | unresolved h hp => exact .unresolved (hstep h) hp
  | unsupported h => exact .unsupported (hshape.trans h)

theorem hasShape_shapeWithin (s : Scope) (n : Nat) (t : TypeExpr) : s.HasShape n t (s.shapeWithin n t) := by
  induction n, t using s.spine_induction with
  | step n t ih =>
    cases t with
    | paren t =>
      have hshape : s.shapeWithin n (.paren t) = s.shapeWithin n t := by rw [shapeWithin]
      rw [hshape]
      exact (ih n t .paren).of_strips .paren hshape
    | reference mutable target =>
      rw [shapeWithin]
      exact .reference .done (ih n target .reference)
    | object bounds =>
      rw [shapeWithin]
      exact .object .done
    | abstract bounds =>
      rw [shapeWithin]
      exact .abstract .done
    | path p =>
      cases s.pathKind p with
      | boxOf inner h =>
        rw [shapeWithin_box h]
        exact .boxed .done h (ih n inner (.boxOf h))
      | aliasOf target h =>
        cases n with
        | zero =>
          obtain ⟨name, hshape⟩ := shapeWithin_alias_zero h
          rw [hshape]
          exact .unsupported hshape
        | succ n =>
          have hshape := shapeWithin_alias_succ (n := n) h
          rw [hshape]
          exact (ih n target (.aliasOf h)).of_strips (.aliasOf h) hshape
      | scalar name h =>
        rw [shapeWithin_scalar h]
        exact .scalar .done h
      | trait name h =>
        rw [shapeWithin_trait h]
        exact .trait .done h
      | named r h =>
        rw [shapeWithin_named h]
        exact .named .done h
      | unknown h =>
        rw [shapeWithin_unknown h]
        exact .unresolved .done h
      | other form h =>
        rw [h n]
        exact .unsupported (h n)
    | tuple elements =>
      cases elements <;> (rw [shapeWithin]; exact .unsupported (by rw [shapeWithin]))
    | _ =>
      rw [shapeWithin]
      exact .unsupported (by rw [shapeWithin])

theorem hasShape_iff : s.HasShape n t x ↔ s.shapeWithin n t = x := by
  refine ⟨HasShape.shapeWithin_eq, ?_⟩
  rintro rfl
  exact s.hasShape_shapeWithin n t

/-! ### Forms of types -/

/-- A box of another type, with so many aliases left for that one. -/
def IsBox (s : Scope) (n : Nat) (t : TypeExpr) (m : Nat) (inner : TypeExpr) : Prop :=
  ∃ p, s.Strips n t m (.path p) ∧ s.IsBoxOf p inner

/-- A trait object, an `impl` type or a trait of the module. -/
inductive IsInterface (s : Scope) (n : Nat) (t : TypeExpr) : Prop where
  | object {m : Nat} {bounds : List Bound} (h : s.Strips n t m (.object bounds))
  | abstract {m : Nat} {bounds : List Bound} (h : s.Strips n t m (.abstract bounds))
  | trait {m : Nat} {p : Path} {name : String} (h : s.Strips n t m (.path p))
      (hp : s.Declares p name (.declared .trait))

theorem shapeWithin_eq_boxed_iff :
    s.shapeWithin n t = .boxed x ↔ ∃ m inner, s.IsBox n t m inner ∧ s.shapeWithin m inner = x := by
  rw [← hasShape_iff]
  constructor
  · intro h
    cases h with
    | boxed h hp hx => exact ⟨_, _, ⟨_, h, hp⟩, hx.shapeWithin_eq⟩
  · rintro ⟨m, inner, ⟨p, h, hp⟩, hx⟩
    exact .boxed h hp (hasShape_iff.mpr hx)

theorem shapeWithin_eq_reference_iff {mutable : Bool} :
    s.shapeWithin n t = .reference mutable x ↔
      ∃ m target, s.Strips n t m (.reference mutable target) ∧ s.shapeWithin m target = x := by
  rw [← hasShape_iff]
  constructor
  · intro h
    cases h with
    | reference h hx => exact ⟨_, _, h, hx.shapeWithin_eq⟩
  · rintro ⟨m, target, h, hx⟩
    exact .reference h (hasShape_iff.mpr hx)

theorem shapeWithin_eq_object_iff {r : Resolution} :
    s.shapeWithin n t = .interface (some r) true ↔
      ∃ m bounds, s.Strips n t m (.object bounds) ∧ s.LeadsBounds bounds r := by
  constructor
  · intro hshape
    have h := s.hasShape_shapeWithin n t
    rw [hshape] at h
    -- The trait has to be a variable for the cases, as the rule for objects computes it.
    generalize hbound : some r = bound at h
    cases h with
    | object h => exact ⟨_, _, h, leadingTrait?_eq_some_iff.mp hbound.symm⟩
  · rintro ⟨m, bounds, h, hr⟩
    rw [← leadingTrait?_eq_some_iff.mpr hr]
    exact hasShape_iff.mp (.object h)

theorem isInterface_iff : s.IsInterface n t ↔ (s.shapeWithin n t).IsInterface := by
  constructor
  · intro h
    cases h with
    | object h => exact ⟨_, _, hasShape_iff.mp (.object h)⟩
    | abstract h => exact ⟨_, _, hasShape_iff.mp (.abstract h)⟩
    | trait h hp => exact ⟨_, _, hasShape_iff.mp (.trait h hp)⟩
  · rintro ⟨bound, object, hshape⟩
    have h := hasShape_iff.mpr hshape
    cases h with
    | object h => exact .object h
    | abstract h => exact .abstract h
    | trait h hp => exact .trait h hp

/-! ### What written paths name -/

/-- The paths of what the standard library has under a name of the prelude. -/
def standardPaths (name : String) : List (List String) :=
  if name = "Box" then [["std", "boxed", name], ["alloc", "boxed", name]]
  else if name = "String" then [["std", "string", name], ["alloc", "string", name]]
  else [["std", "primitive", name], ["core", "primitive", name]]

/-- An import of the module has the name, for something else than the standard library has under it. -/
def Overrides (s : Scope) (name : String) : Prop :=
  ∃ known, s.imports.get? name = some known ∧ known.path ∉ standardPaths name

/-- The names of the prelude that types are told apart by. -/
def preludeNames : List String :=
  "str" :: "Box" :: scalarNames

/-- The imports of the module leave the names of the prelude alone. -/
def KeepsPrelude (s : Scope) : Prop :=
  ∀ name ∈ preludeNames, ¬s.Overrides name

/-- A bare name that neither a type of the module nor an import hides. -/
def IsPlainName (s : Scope) (p : Path) (name : String) : Prop :=
  p.isBareName = true ∧ p.last.name = name ∧ s.types.contains name = false ∧ ¬s.Overrides name

/-- The path of a scalar: its bare name, or the text type by its full path. -/
def IsScalarPath (s : Scope) (p : Path) (name : String) : Prop :=
  p.last.arguments.isNone = true ∧
    (s.IsPlainName p name ∧ name ∈ scalarNames ∨ p.isStandard ["string", "String"] = true ∧ name = "String")

/-- The path of the standard box around a single type. -/
def IsBoxPath (s : Scope) (p : Path) (t : TypeExpr) : Prop :=
  p.last.name = "Box" ∧ p.last.arguments = .angle [t] ∧
    (p.initial = [] ∧ s.types.contains "Box" = false ∧ ¬s.Overrides "Box" ∨ p.isStandard ["boxed", "Box"] = true)

/-- The path of a named type: any other one without arguments to the item of a type. -/
def IsItemPath (s : Scope) (p : Path) (r : Resolution) : Prop :=
  p.isGeneric = false ∧ s.resolve p = r ∧ s.IsTypeItem r ∧ ∀ name, ¬s.IsScalarPath p name

section
variable {p : Path} {r : Resolution} {name : String} {inner : TypeExpr} (hs : s.KeepsPrelude)
include hs

theorem isPlainName_iff (hname : name ∈ preludeNames) : s.IsPlainName p name ↔ s.IsForeignName p name := by
  rw [IsPlainName, IsForeignName, and_iff_left (hs name hname)]

theorem isScalarPath_iff : s.IsScalarPath p name ↔ s.IsScalar p name := by
  have plain : s.IsPlainName p name ∧ name ∈ scalarNames ↔ s.IsForeignName p name ∧ name ∈ scalarNames :=
    and_congr_left fun hname => isPlainName_iff hs (List.mem_cons_of_mem _ (List.mem_cons_of_mem _ hname))
  rw [IsScalarPath, IsScalar, plain]

theorem isBoxPath_iff : s.IsBoxPath p inner ↔ s.IsBoxOf p inner := by
  have hbox : ¬s.Overrides "Box" := hs "Box" (by decide)
  rw [IsBoxPath, IsBoxOf, and_iff_left hbox]

theorem isItemPath_iff : s.IsItemPath p r ↔ s.IsTypePath p r := by
  simp only [IsItemPath, IsTypePath, isScalarPath_iff hs]

end

/-! ### Forms of types in the table -/

/-- A scalar or a named type, which data can be decoded of. The text type without a size is none. -/
inductive IsData (s : Scope) (n : Nat) (t : TypeExpr) : DataType → Prop where
  | scalar {m : Nat} {p : Path} {name : String} (h : s.Strips n t m (.path p)) (hp : s.IsScalarPath p name) :
      IsData s n t (.scalar name)
  | named {m : Nat} {p : Path} {r : Resolution} (h : s.Strips n t m (.path p)) (hp : s.IsItemPath p r)
      (htext : ¬s.IsPlainName p "str") : IsData s n t (.named r)

/-- A pointer to another type, with so many aliases left for that one. -/
def IsPointerTo (s : Scope) (n : Nat) (t : TypeExpr) (m : Nat) (inner : TypeExpr) : Prop :=
  ∃ p, s.Strips n t m (.path p) ∧ s.IsBoxPath p inner

/-- A path that names nothing, as shown in messages. -/
def IsUnresolved (s : Scope) (n : Nat) (t : TypeExpr) (name : String) : Prop :=
  ∃ m p, s.Strips n t m (.path p) ∧ p.isGeneric = false ∧ s.resolve p = .unresolved ∧
    (∀ name, ¬s.IsScalarPath p name) ∧ ¬s.IsPlainName p "str" ∧ p.render = name

section
variable (hs : s.KeepsPrelude)
include hs

theorem isData_iff {type : DataType} : s.IsData n t type ↔ s.shapeWithin n t = type.shape := by
  have text {p : Path} : s.IsPlainName p "str" ↔ s.IsForeignName p "str" := isPlainName_iff hs (by decide)
  rw [← hasShape_iff]
  constructor
  · intro h
    cases h with
    | scalar h hp => exact .scalar h ((isScalarPath_iff hs).mp hp)
    | named h hp htext => exact .named h ⟨(isItemPath_iff hs).mp hp, fun hforeign => htext (text.mpr hforeign)⟩
  · intro h
    cases type with
    | scalar name =>
      cases h with
      | scalar h hp => exact .scalar h ((isScalarPath_iff hs).mpr hp)
    | named r =>
      cases h with
      | named h hp => exact .named h ((isItemPath_iff hs).mpr hp.1) fun hplain => hp.2 (text.mp hplain)

theorem isPointerTo_iff {inner : TypeExpr} : s.IsPointerTo n t m inner ↔ s.IsBox n t m inner := by
  simp only [IsPointerTo, IsBox, isBoxPath_iff hs]

theorem isUnresolved_iff {name : String} : s.IsUnresolved n t name ↔ s.shapeWithin n t = .unresolved name := by
  have text {p : Path} : s.IsPlainName p "str" ↔ s.IsForeignName p "str" := isPlainName_iff hs (by decide)
  rw [← hasShape_iff]
  simp only [IsUnresolved, isScalarPath_iff hs, text]
  constructor
  · rintro ⟨m, p, h, hplain, hresolve, hscalar, htext, rfl⟩
    exact .unresolved h ⟨hplain, hresolve, hscalar, htext⟩
  · intro h
    cases h with
    | unresolved h hp => exact ⟨_, _, h, hp.1, hp.2.1, hp.2.2.1, hp.2.2.2, rfl⟩

end

/-! ### The table of roles -/

/-- A shared reference to a named type that is the configured request. -/
def IsRequest (s : Scope) (paths : InjectedPaths) (t : TypeExpr) : Prop :=
  ∃ m target r, s.Strips aliasLimit t m (.reference false target) ∧ s.IsData m target (.named r) ∧
    relativePathText paths.request ∈ s.writtenPaths r

/-- A mutable reference to a trait object whose first trait is the configured response writer. -/
def IsWriter (s : Scope) (paths : InjectedPaths) (t : TypeExpr) : Prop :=
  ∃ m target k bounds r, s.Strips aliasLimit t m (.reference true target) ∧ s.Strips m target k (.object bounds) ∧
    s.LeadsBounds bounds r ∧ relativePathText paths.responseWriter ∈ s.writtenPaths r

/-- A box of data. -/
def IsPointer (s : Scope) (t : TypeExpr) (type : DataType) : Prop :=
  ∃ m inner, s.IsPointerTo aliasLimit t m inner ∧ s.IsData m inner type

/-- An interface by itself, in a box or behind a reference, other than the response writer. -/
def IsOtherInterface (s : Scope) (paths : InjectedPaths) (t : TypeExpr) : Prop :=
  s.IsInterface aliasLimit t ∨ (∃ m inner, s.IsPointerTo aliasLimit t m inner ∧ s.IsInterface m inner) ∨
    ∃ m mutable target, s.Strips aliasLimit t m (.reference mutable target) ∧ s.IsInterface m target ∧
      ¬s.IsWriter paths t

/-- A path that names nothing by itself, in a box or behind a reference. -/
def LeadsNowhere (s : Scope) (t : TypeExpr) (name : String) : Prop :=
  s.IsUnresolved aliasLimit t name ∨ (∃ m inner, s.IsPointerTo aliasLimit t m inner ∧ s.IsUnresolved m inner name) ∨
    ∃ m mutable target, s.Strips aliasLimit t m (.reference mutable target) ∧ s.IsUnresolved m target name

/-- A reference to anything else than an interface or nothing, other than the request. -/
def IsBorrowed (s : Scope) (paths : InjectedPaths) (t : TypeExpr) : Prop :=
  ∃ m mutable target, s.Strips aliasLimit t m (.reference mutable target) ∧ ¬s.IsInterface m target ∧
    (∀ name, ¬s.IsUnresolved m target name) ∧ ¬s.IsRequest paths t

variable {paths : InjectedPaths}

theorem roleOf_shape_writer_iff :
    s.roleOf paths (s.shape t) = .ok (.injected .responseWriter) ↔ s.IsWriter paths t := by
  rw [roleOf_eq_injected_iff]
  constructor
  · rintro ⟨r, hshape, hpath⟩
    obtain ⟨m, target, h, htarget⟩ := shapeWithin_eq_reference_iff.mp hshape
    obtain ⟨k, bounds, hobject, hbounds⟩ := shapeWithin_eq_object_iff.mp htarget
    exact ⟨m, target, k, bounds, r, h, hobject, hbounds, hpath⟩
  · rintro ⟨m, target, k, bounds, r, h, hobject, hbounds, hpath⟩
    have htarget := shapeWithin_eq_object_iff.mpr ⟨k, bounds, hobject, hbounds⟩
    exact ⟨r, shapeWithin_eq_reference_iff.mpr ⟨m, target, h, htarget⟩, hpath⟩

section
variable (hs : s.KeepsPrelude)
include hs

theorem roleOf_shape_request_iff : s.roleOf paths (s.shape t) = .ok (.injected .request) ↔ s.IsRequest paths t := by
  rw [roleOf_eq_injected_iff]
  constructor
  · rintro ⟨r, hshape, hpath⟩
    obtain ⟨m, target, h, htarget⟩ := shapeWithin_eq_reference_iff.mp hshape
    exact ⟨m, target, r, h, (isData_iff hs).mpr htarget, hpath⟩
  · rintro ⟨m, target, r, h, htarget, hpath⟩
    exact ⟨r, shapeWithin_eq_reference_iff.mpr ⟨m, target, h, (isData_iff hs).mp htarget⟩, hpath⟩

theorem roleOf_shape_byPointer_iff {type : DataType} :
    s.roleOf paths (s.shape t) = .ok (.byPointer type) ↔ s.IsPointer t type := by
  rw [roleOf_eq_byPointer_iff, shape, shapeWithin_eq_boxed_iff]
  simp only [IsPointer, isPointerTo_iff hs, isData_iff hs]

theorem roleOf_shape_byValue_iff {type : DataType} :
    s.roleOf paths (s.shape t) = .ok (.byValue type) ↔ s.IsData aliasLimit t type := by
  rw [roleOf_eq_byValue_iff, isData_iff hs, shape]

theorem roleOf_shape_interface_iff :
    s.roleOf paths (s.shape t) = .error .interface ↔ s.IsOtherInterface paths t := by
  rw [roleOf_eq_interface_iff, ne_eq, roleOf_shape_writer_iff, IsOtherInterface, isInterface_iff, shape]
  refine or_congr Iff.rfl (or_congr ?_ ?_)
  · constructor
    · rintro ⟨y, hshape, hy⟩
      obtain ⟨m, inner, hbox, rfl⟩ := shapeWithin_eq_boxed_iff.mp hshape
      exact ⟨m, inner, (isPointerTo_iff hs).mpr hbox, isInterface_iff.mpr hy⟩
    · rintro ⟨m, inner, hpointer, hinner⟩
      have hbox := (isPointerTo_iff hs).mp hpointer
      exact ⟨_, shapeWithin_eq_boxed_iff.mpr ⟨m, inner, hbox, rfl⟩, isInterface_iff.mp hinner⟩
  · constructor
    · rintro ⟨mutable, y, hshape, hy, hwriter⟩
      obtain ⟨m, target, h, rfl⟩ := shapeWithin_eq_reference_iff.mp hshape
      exact ⟨m, mutable, target, h, isInterface_iff.mpr hy, hwriter⟩
    · rintro ⟨m, mutable, target, h, htarget, hwriter⟩
      exact ⟨mutable, _, shapeWithin_eq_reference_iff.mpr ⟨m, target, h, rfl⟩, isInterface_iff.mp htarget, hwriter⟩

theorem roleOf_shape_unresolved_iff {name : String} :
    s.roleOf paths (s.shape t) = .error (.unresolved name) ↔ s.LeadsNowhere t name := by
  rw [roleOf_eq_unresolved_iff, LeadsNowhere, isUnresolved_iff hs, shape, shapeWithin_eq_boxed_iff]
  simp only [shapeWithin_eq_reference_iff, isPointerTo_iff hs, isUnresolved_iff hs]
  exact or_congr Iff.rfl (or_congr Iff.rfl exists_comm)

theorem roleOf_shape_borrowed_iff : s.roleOf paths (s.shape t) = .error .borrowed ↔ s.IsBorrowed paths t := by
  rw [roleOf_eq_borrowed_iff, ne_eq, roleOf_shape_request_iff hs, IsBorrowed, shape]
  constructor
  · rintro ⟨mutable, y, hshape, hy, hknown, hrequest⟩
    obtain ⟨m, target, h, rfl⟩ := shapeWithin_eq_reference_iff.mp hshape
    exact ⟨m, mutable, target, h, fun ht => hy (isInterface_iff.mp ht),
      fun name ht => hknown name ((isUnresolved_iff hs).mp ht), hrequest⟩
  · rintro ⟨m, mutable, target, h, htarget, hknown, hrequest⟩
    exact ⟨mutable, _, shapeWithin_eq_reference_iff.mpr ⟨m, target, h, rfl⟩, fun hy => htarget (isInterface_iff.mpr hy),
      fun name hy => hknown name ((isUnresolved_iff hs).mpr hy), hrequest⟩

end

end Scope

end Switchboard
