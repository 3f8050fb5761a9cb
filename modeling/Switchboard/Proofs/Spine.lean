import Mathlib.Data.List.Chain
import Switchboard.Handler.Shape

/-! # Along the spine of a type

The shape of a type is found by going along its spine: through parentheses and references, from a box to what is in it
and from an alias to its target. `Calls` has one rule for each of these steps, and every run of steps ends, since the
types that are left get smaller or fewer aliases may be followed (`rank_lt_of_calls`). What holds for each type if it
holds for all that its shape is asked of, therefore holds (`spine_induction`).

What makes a path a box, an alias, a scalar and so on is said here by itself, without the order in which these are
tried. A path of neither of the first two kinds ends the spine (`pathKind`). -/

namespace Switchboard

open Source

namespace Scope

variable (s : Scope)

/-! ### Kinds of paths -/

/-- A bare name that the module has no type of its own for. -/
def IsForeignName (p : Path) (name : String) : Prop :=
  p.isBareName = true ∧ p.last.name = name ∧ s.types.contains name = false

/-- The path of a scalar: its bare name, or the text type by its full path. -/
def IsScalar (p : Path) (name : String) : Prop :=
  p.last.arguments.isNone = true ∧
    (s.IsForeignName p name ∧ name ∈ scalarNames ∨ p.isStandard ["string", "String"] = true ∧ name = "String")

/-- The path of the standard box around a single type. -/
def IsBoxOf (p : Path) (t : TypeExpr) : Prop :=
  p.last.name = "Box" ∧ p.last.arguments = .angle [t] ∧
    (p.initial = [] ∧ s.types.contains "Box" = false ∨ p.isStandard ["boxed", "Box"] = true)

/-- A path without arguments to something that the module declares. -/
def Declares (p : Path) (name : String) (type : DeclaredType) : Prop :=
  p.isGeneric = false ∧ s.resolve p = .localType name ∧ s.types.get? name = some type

/-- The path of an alias of the module that has no type parameters. -/
def IsAliasOf (p : Path) (target : TypeExpr) : Prop :=
  ∃ name spelling, s.Declares p name (.typeAlias target spelling false)

/-- A resolution to a type of the module other than a trait or an alias, to an item of another module, or to what a
glob supplies. -/
def IsTypeItem : Resolution → Prop
  | .localType name => ∃ kind, s.types.get? name = some (.declared kind) ∧ kind ≠ .trait
  | .external _ _ => True
  | .glob _ => True
  | .unresolved => False

/-- Any path without arguments to the item of a type, unless it is a scalar. -/
def IsTypePath (p : Path) (r : Resolution) : Prop :=
  p.isGeneric = false ∧ s.resolve p = r ∧ s.IsTypeItem r ∧ ∀ name, ¬s.IsScalar p name

/-- The path of a named type: one to the item of a type, but not the name of the text type without a size. -/
def IsNamed (p : Path) (r : Resolution) : Prop :=
  s.IsTypePath p r ∧ ¬s.IsForeignName p "str"

/-- A path without arguments that names nothing at all. -/
def IsUnknown (p : Path) : Prop :=
  p.isGeneric = false ∧ s.resolve p = .unresolved ∧ (∀ name, ¬s.IsScalar p name) ∧ ¬s.IsForeignName p "str"

variable {s} {p : Path}

theorem not_isScalar (hname : p.last.name ∉ scalarNames) (hstandard : p.isStandard ["string", "String"] = false)
    (name : String) : ¬s.IsScalar p name := by
  rintro ⟨-, ⟨⟨-, rfl, -⟩, hscalar⟩ | ⟨htext, -⟩⟩
  · exact hname hscalar
  · rw [hstandard] at htext
    cases htext

/-- A path without arguments to the item of a type is a named type if its last name says nothing of its own. -/
theorem isNamed_of_resolve {r : Resolution} (hplain : p.isGeneric = false) (hresolve : s.resolve p = r)
    (hitem : s.IsTypeItem r) (hname : p.last.name ∉ scalarNames) (htext : p.last.name ≠ "str")
    (hstandard : p.isStandard ["string", "String"] = false) : s.IsNamed p r :=
  ⟨⟨hplain, hresolve, hitem, not_isScalar hname hstandard⟩, fun hforeign => htext hforeign.2.1⟩

theorem IsForeignName.initial_eq_nil {name : String} (h : s.IsForeignName p name) : p.initial = [] := by
  have hbare := h.1
  rw [Path.isBareName, Bool.and_eq_true, List.isEmpty_iff] at hbare
  exact hbare.1

theorem IsBoxOf.unique {t u : TypeExpr} (ht : s.IsBoxOf p t) (hu : s.IsBoxOf p u) : t = u := by
  have h := ht.2.1.symm.trans hu.2.1
  simpa using h

theorem Declares.unique {name name' : String} {type type' : DeclaredType} (h : s.Declares p name type)
    (h' : s.Declares p name' type') : name = name' ∧ type = type' := by
  obtain rfl : name = name' := Resolution.localType.inj (h.2.1.symm.trans h'.2.1)
  exact ⟨rfl, Option.some.inj (h.2.2.symm.trans h'.2.2)⟩

theorem IsAliasOf.unique {t u : TypeExpr} (ht : s.IsAliasOf p t) (hu : s.IsAliasOf p u) : t = u := by
  obtain ⟨_, _, ht⟩ := ht
  obtain ⟨_, _, hu⟩ := hu
  exact (DeclaredType.typeAlias.inj (ht.unique hu).2).1

/-! ### The tests of a path -/

theorem boxed?_eq_some_iff {t : TypeExpr} : s.boxed? p = some t ↔ s.IsBoxOf p t := by
  have names : s.namesBox p = true ↔ p.last.name = "Box" ∧
      (p.initial = [] ∧ s.types.contains "Box" = false ∨ p.isStandard ["boxed", "Box"] = true) := by
    simp [namesBox]
  rw [boxed?, IsBoxOf]
  by_cases h : s.namesBox p = true
  · obtain ⟨hname, hplace⟩ := names.mp h
    rw [if_pos h]
    split
    · rename_i u hu
      simp [hname, hplace, hu]
    · rename_i hu
      refine ⟨nofun, fun ht => absurd ht.2.1 (hu t)⟩
  · rw [if_neg h]
    refine ⟨nofun, fun ht => absurd (names.mpr ⟨ht.1, ht.2.2⟩) h⟩

theorem initial_ne_nil_of_isStandard {tail : List String} (htail : tail ≠ []) (h : p.isStandard tail = true) :
    p.initial ≠ [] := by
  intro hinitial
  rw [Path.isStandard, Bool.or_eq_true, beq_iff_eq, beq_iff_eq] at h
  obtain ⟨n, rest, rfl⟩ := List.exists_cons_of_ne_nil htail
  rcases h with h | h <;> simp [Path.names, Path.segments, hinitial] at h

theorem builtinShape?_eq_some_iff {x : Shape} :
    s.builtinShape? p = some x ↔
      (s.IsForeignName p "str" ∧ x = .unsupported .unsizedText) ∨ ∃ name, s.IsScalar p name ∧ x = .scalar name := by
  refine ⟨fun h => ?_, ?_⟩
  · simp only [builtinShape?] at h
    split at h
    · rename_i htext
      simp only [Bool.and_eq_true, Bool.not_eq_true', beq_iff_eq] at htext
      obtain ⟨⟨hbare, hforeign⟩, hname⟩ := htext
      exact Or.inl ⟨⟨hbare, hname, hname ▸ hforeign⟩, (Option.some.inj h).symm⟩
    · split at h
      · rename_i hscalar
        simp only [Bool.and_eq_true, Bool.not_eq_true', List.contains_iff_mem] at hscalar
        obtain ⟨⟨⟨hbare, hforeign⟩, hmem⟩, hplain⟩ := hscalar
        exact Or.inr ⟨_, ⟨hplain, Or.inl ⟨⟨hbare, rfl, hforeign⟩, hmem⟩⟩, (Option.some.inj h).symm⟩
      · split at h
        · rename_i hstandard
          rw [Bool.and_eq_true] at hstandard
          exact Or.inr ⟨_, ⟨hstandard.2, Or.inr ⟨hstandard.1, rfl⟩⟩, (Option.some.inj h).symm⟩
        · cases h
  · rintro (⟨⟨hbare, hname, hforeign⟩, rfl⟩ | ⟨name, ⟨hplain, ⟨⟨hbare, rfl, hforeign⟩, hmem⟩ | ⟨hstandard, rfl⟩⟩, rfl⟩)
    · simp [builtinShape?, hbare, hname, hforeign]
    · have hname : p.last.name ≠ "str" := by
        intro e
        rw [e] at hmem
        exact absurd hmem (by decide)
      simp [builtinShape?, hbare, hforeign, hmem, hplain, hname]
    · have hinitial : p.initial.isEmpty = false := by
        simpa using initial_ne_nil_of_isStandard (by simp) hstandard
      simp [builtinShape?, Path.isBareName, hinitial, hstandard, hplain]

theorem builtinShape?_eq_none_iff :
    s.builtinShape? p = none ↔ (∀ name, ¬s.IsScalar p name) ∧ ¬s.IsForeignName p "str" := by
  rw [Option.eq_none_iff_forall_ne_some]
  refine ⟨fun h => ⟨fun name hscalar => ?_, fun htext => ?_⟩, fun h x hx => ?_⟩
  · exact h _ (builtinShape?_eq_some_iff.mpr (Or.inr ⟨name, hscalar, rfl⟩))
  · exact h _ (builtinShape?_eq_some_iff.mpr (Or.inl ⟨htext, rfl⟩))
  · rcases builtinShape?_eq_some_iff.mp hx with ⟨htext, -⟩ | ⟨name, hscalar, -⟩
    · exact h.2 htext
    · exact h.1 name hscalar

/-- What the module declares is named by a single name, perhaps behind `self`. -/
theorem resolve_eq_localType {name : String} (h : s.resolve p = .localType name) :
    s.types.contains name = true ∧ (p.names = [name] ∨ p.names = ["self", name]) := by
  have full : ∀ names : List String, Resolution.ofFullPath names ≠ .localType name := by
    intro names
    rw [Resolution.ofFullPath]
    split
    · simp
    · split <;> simp
  rw [resolve] at h
  unfold resolveNames at h
  split at h
  · cases h
  · rename_i n hn
    rw [resolveName] at h
    split at h
    · cases h
      exact ⟨‹_›, Or.inl hn⟩
    · split at h
      · exact absurd h (full _)
      · split at h <;> cases h
  · rename_i first rest _ hn
    unfold resolveQualified at h
    split at h
    · split at h
      · cases h
        exact ⟨‹_›, Or.inr hn⟩
      · cases h
    all_goals try exact absurd h (full _)
    split at h
    · exact absurd h (full _)
    · split at h <;> exact absurd h (full _)

theorem Declares.builtinShape?_eq_none {name : String} {type : DeclaredType} (h : s.Declares p name type) :
    s.builtinShape? p = none := by
  obtain ⟨hcontains, hnames⟩ := resolve_eq_localType h.2.1
  -- The only bare name of what is declared is its own.
  have foreign : ∀ other, ¬s.IsForeignName p other := by
    intro other hother
    have hlast : p.last.name = name := by simpa [Path.names, Path.segments, hother.initial_eq_nil] using hnames
    obtain ⟨-, rfl, hforeign⟩ := hother
    rw [hlast, hcontains] at hforeign
    cases hforeign
  refine builtinShape?_eq_none_iff.mpr ⟨?_, foreign "str"⟩
  rintro other ⟨-, ⟨hforeign, -⟩ | ⟨hstandard, -⟩⟩
  · exact foreign other hforeign
  · rw [Path.isStandard] at hstandard
    rcases hnames with hnames | hnames <;> simp [hnames] at hstandard

theorem IsBoxOf.builtinShape?_eq_none {t : TypeExpr} (h : s.IsBoxOf p t) : s.builtinShape? p = none := by
  refine builtinShape?_eq_none_iff.mpr ⟨?_, ?_⟩
  · rintro name ⟨hplain, -⟩
    rw [h.2.1] at hplain
    cases hplain
  · rintro ⟨-, hname, -⟩
    exact absurd (h.1.symm.trans hname) (by decide)

theorem boxed?_eq_none_of_not_generic (h : p.isGeneric = false) : s.boxed? p = none := by
  rw [Option.eq_none_iff_forall_ne_some]
  intro t ht
  have harguments := (boxed?_eq_some_iff.mp ht).2.1
  simp [Path.isGeneric, Path.segments, harguments, Arguments.isNone] at h

/-! ### The shape of a path -/

variable {n : Nat}

theorem shapeWithin_scalar {name : String} (h : s.IsScalar p name) : s.shapeWithin n (.path p) = .scalar name := by
  rw [shapeWithin, builtinShape?_eq_some_iff.mpr (Or.inr ⟨name, h, rfl⟩)]

theorem shapeWithin_text (h : s.IsForeignName p "str") : s.shapeWithin n (.path p) = .unsupported .unsizedText := by
  rw [shapeWithin, builtinShape?_eq_some_iff.mpr (Or.inl ⟨h, rfl⟩)]

theorem shapeWithin_box {t : TypeExpr} (h : s.IsBoxOf p t) :
    s.shapeWithin n (.path p) = .boxed (s.shapeWithin n t) := by
  rw [shapeWithin]
  simp only [h.builtinShape?_eq_none]
  split
  · rename_i hbox
    rw [h.unique (boxed?_eq_some_iff.mp hbox)]
  · rename_i hbox
    rw [boxed?_eq_some_iff.mpr h] at hbox
    cases hbox

/-- A path without arguments that is no scalar goes by what it resolves to. -/
theorem shapeWithin_plain (hbuiltin : s.builtinShape? p = none) (hplain : p.isGeneric = false) :
    s.shapeWithin n (.path p) =
      match s.resolve p with
      | .localType name =>
        match s.types.get? name with
        | some (.typeAlias _ _ true) => .unsupported (.genericAlias name)
        | some (.typeAlias target _ false) =>
          if n = 0 then .unsupported (.recursiveAlias name) else s.shapeWithin (n - 1) target
        | some (.declared .trait) => .interface (some (.localType name)) false
        | _ => .named (.localType name)
      | .unresolved => .unresolved p.render
      | r => .named r := by
  rw [shapeWithin]
  simp only [hbuiltin]
  split
  · rename_i hbox
    rw [boxed?_eq_none_of_not_generic hplain] at hbox
    cases hbox
  · have hgeneric : ¬p.isGeneric = true := by simp [hplain]
    refine (if_neg hgeneric).trans ?_
    cases s.resolve p <;> rfl

theorem shapeWithin_alias_zero {target : TypeExpr} (h : s.IsAliasOf p target) :
    ∃ name, s.shapeWithin 0 (.path p) = .unsupported (.recursiveAlias name) := by
  obtain ⟨name, spelling, h⟩ := h
  refine ⟨name, ?_⟩
  rw [shapeWithin_plain h.builtinShape?_eq_none h.1, h.2.1]
  simp only [h.2.2, ↓reduceIte]

theorem shapeWithin_alias_succ {target : TypeExpr} (h : s.IsAliasOf p target) :
    s.shapeWithin (n + 1) (.path p) = s.shapeWithin n target := by
  obtain ⟨name, spelling, h⟩ := h
  rw [shapeWithin_plain h.builtinShape?_eq_none h.1, h.2.1]
  simp only [h.2.2, Nat.add_eq_zero_iff, Nat.one_ne_zero, and_false, ↓reduceIte, Nat.add_sub_cancel]

theorem shapeWithin_trait {name : String} (h : s.Declares p name (.declared .trait)) :
    s.shapeWithin n (.path p) = .interface (some (.localType name)) false := by
  rw [shapeWithin_plain h.builtinShape?_eq_none h.1, h.2.1]
  simp only [h.2.2]

theorem shapeWithin_named {r : Resolution} (h : s.IsNamed p r) : s.shapeWithin n (.path p) = .named r := by
  obtain ⟨⟨hplain, hresolve, hitem, hscalar⟩, htext⟩ := h
  rw [shapeWithin_plain (builtinShape?_eq_none_iff.mpr ⟨hscalar, htext⟩) hplain, hresolve]
  cases r with
  | localType name =>
    obtain ⟨kind, htype, hkind⟩ := hitem
    cases kind with
    | trait => exact absurd rfl hkind
    | struct | enum | union => simp only [htype]
  | external m name => rfl
  | glob name => rfl
  | unresolved => exact hitem.elim

theorem shapeWithin_unknown (h : s.IsUnknown p) : s.shapeWithin n (.path p) = .unresolved p.render := by
  obtain ⟨hplain, hresolve, hbuiltin⟩ := h
  rw [shapeWithin_plain (builtinShape?_eq_none_iff.mpr hbuiltin) hplain, hresolve]

/-- The kinds of paths. What is of no kind has a shape that no type can have, however many aliases may be followed. -/
inductive PathKind (s : Scope) (p : Path) : Prop where
  | boxOf (t : TypeExpr) (h : s.IsBoxOf p t)
  | aliasOf (target : TypeExpr) (h : s.IsAliasOf p target)
  | scalar (name : String) (h : s.IsScalar p name)
  | trait (name : String) (h : s.Declares p name (.declared .trait))
  | named (r : Resolution) (h : s.IsNamed p r)
  | unknown (h : s.IsUnknown p)
  | other (form : UnsupportedForm) (h : ∀ n, s.shapeWithin n (.path p) = .unsupported form)

theorem pathKind (s : Scope) (p : Path) : s.PathKind p := by
  -- What is tried first does not matter for the first three kinds; all others are told apart by the resolution.
  by_cases hbox : ∃ t, s.IsBoxOf p t
  · obtain ⟨t, hbox⟩ := hbox
    exact .boxOf t hbox
  by_cases hscalar : ∃ name, s.IsScalar p name
  · obtain ⟨name, hscalar⟩ := hscalar
    exact .scalar name hscalar
  by_cases htext : s.IsForeignName p "str"
  · exact .other _ fun n => shapeWithin_text htext
  rw [not_exists] at hscalar
  have hbuiltin : s.builtinShape? p = none := builtinShape?_eq_none_iff.mpr ⟨hscalar, htext⟩
  by_cases hgeneric : p.isGeneric = true
  · refine .other (.generic p.last.name) fun n => ?_
    rw [shapeWithin]
    simp only [hbuiltin]
    split
    · rename_i hsome
      exact absurd ⟨_, boxed?_eq_some_iff.mp hsome⟩ hbox
    · rw [if_pos hgeneric]
  have hplain : p.isGeneric = false := by simpa using hgeneric
  cases hresolve : s.resolve p with
  | localType name =>
    obtain ⟨hcontains, -⟩ := resolve_eq_localType hresolve
    obtain ⟨type, htype⟩ := Option.isSome_iff_exists.mp hcontains
    cases type with
    | declared kind =>
      by_cases hkind : kind = .trait
      · exact .trait name ⟨hplain, hresolve, hkind ▸ htype⟩
      · exact .named _ ⟨⟨hplain, hresolve, ⟨kind, htype, hkind⟩, hscalar⟩, htext⟩
    | typeAlias target spelling isGeneric =>
      cases isGeneric with
      | false => exact .aliasOf target ⟨name, spelling, hplain, hresolve, htype⟩
      | true =>
        refine .other (.genericAlias name) fun n => ?_
        rw [shapeWithin_plain hbuiltin hplain, hresolve]
        simp only [htype]
  | external m name => exact .named _ ⟨⟨hplain, hresolve, trivial, hscalar⟩, htext⟩
  | glob name => exact .named _ ⟨⟨hplain, hresolve, trivial, hscalar⟩, htext⟩
  | unresolved => exact .unknown ⟨hplain, hresolve, hscalar, htext⟩

/-! ### Steps along the spine -/

/-- One step along the spine: the shape of the first type, with so many aliases left, is asked of the second. -/
inductive Calls (s : Scope) : Nat × TypeExpr → Nat × TypeExpr → Prop where
  | paren {n : Nat} {t : TypeExpr} : Calls s (n, .paren t) (n, t)
  | reference {n : Nat} {mutable : Bool} {t : TypeExpr} : Calls s (n, .reference mutable t) (n, t)
  | boxOf {n : Nat} {p : Path} {t : TypeExpr} (h : s.IsBoxOf p t) : Calls s (n, .path p) (n, t)
  | aliasOf {n : Nat} {p : Path} {target : TypeExpr} (h : s.IsAliasOf p target) : Calls s (n + 1, .path p) (n, target)

variable {t u : TypeExpr}

/-- A bound for the number of steps along a spine. -/
noncomputable def rank (s : Scope) (n : Nat) (t : TypeExpr) : Nat :=
  sizeOf t + n * sizeOf s.types

theorem IsBoxOf.sizeOf_lt (h : s.IsBoxOf p t) : sizeOf t < sizeOf (TypeExpr.path p) := by
  have := s.sizeOf_boxed (boxed?_eq_some_iff.mpr h)
  simp
  omega

theorem IsAliasOf.sizeOf_lt (h : s.IsAliasOf p t) : sizeOf t < sizeOf s.types := by
  obtain ⟨name, spelling, -, -, hget⟩ := h
  have hmem : (name, DeclaredType.typeAlias t spelling false) ∈ s.types := by
    obtain ⟨front, back, hsplit, -⟩ := List.lookup_eq_some_iff.mp hget
    rw [hsplit]
    exact List.mem_append_right _ List.mem_cons_self
  have := List.sizeOf_lt_of_mem hmem
  simp at this
  omega

theorem rank_lt_of_calls {m : Nat} (h : s.Calls (n, t) (m, u)) : s.rank m u < s.rank n t := by
  cases h with
  | paren => simp [rank]
  | reference =>
    simp [rank]
  | boxOf h =>
    have := h.sizeOf_lt
    rw [rank, rank]
    omega
  | aliasOf h =>
    have := h.sizeOf_lt
    rw [rank, rank, Nat.succ_mul]
    omega

/-- A step takes the shape over as it is, or puts a box or a reference around it. -/
theorem shapeWithin_of_calls {m : Nat} (h : s.Calls (n, t) (m, u)) :
    s.shapeWithin n t = s.shapeWithin m u ∨ s.shapeWithin n t = .boxed (s.shapeWithin m u) ∨
      ∃ mutable, s.shapeWithin n t = .reference mutable (s.shapeWithin m u) := by
  cases h with
  | paren => exact Or.inl (by rw [shapeWithin])
  | reference => exact Or.inr (Or.inr ⟨_, by rw [shapeWithin]⟩)
  | boxOf h => exact Or.inr (Or.inl (shapeWithin_box h))
  | aliasOf h => exact Or.inl (shapeWithin_alias_succ h)

/-- What follows for every type from all that its shape is asked of, under one bound after another, holds. -/
theorem spine_induction {motive : Nat → TypeExpr → Prop}
    (step : ∀ n t, (∀ m u, s.Calls (n, t) (m, u) → motive m u) → motive n t) (n : Nat) (t : TypeExpr) : motive n t := by
  induction h : s.rank n t using Nat.strong_induction_on generalizing n t with
  | _ r ih =>
    subst h
    exact step n t fun m u hcall => ih _ (rank_lt_of_calls hcall) m u rfl

/-- A run along the spine makes no more steps than the rank of where it starts. -/
theorem length_le_rank {calls : List (Nat × TypeExpr)} (h : ((n, t) :: calls).IsChain s.Calls) :
    calls.length ≤ s.rank n t := by
  induction calls generalizing n t with
  | nil => exact Nat.zero_le _
  | cons next calls ih =>
    rw [List.isChain_cons_cons] at h
    have hlength := ih h.2
    have hrank := rank_lt_of_calls h.1
    rw [List.length_cons]
    omega

end Scope

end Switchboard
