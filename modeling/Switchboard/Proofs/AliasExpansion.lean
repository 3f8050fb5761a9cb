import Switchboard.Handler.Descriptor
import Switchboard.Proofs.Spine

/-! # Aliases on the spine of a type

The spine of a type leads through parentheses, references and boxes, and from an alias on to its target. `Expands` says
what the type is when all aliases on its spine are replaced, and how many there are; a type whose spine leads to a cycle
has no expansion (`not_expands_of_cycle`). The shape of a type is that of its expansion as long as no more aliases are
replaced than may be followed (`shapeWithin_of_expands`); in any other case it is cut off at an alias, and no role belongs
to such a shape (`exists_expands_or_isCutOff`). -/

namespace Switchboard

open Source

/-- Whether the spine of a type ends with the type itself, whatever the module declares. -/
def Source.TypeExpr.EndsSpine : TypeExpr → Prop
  | .paren _ => False
  | .reference _ _ => False
  | .path _ => False
  | _ => True

/-- A shape that ends, behind boxes and references, where no further alias was followed. -/
inductive Shape.IsCutOff : Shape → Prop where
  | recursiveAlias (name : String) : IsCutOff (.unsupported (.recursiveAlias name))
  | boxed {x : Shape} : IsCutOff x → IsCutOff (.boxed x)
  | reference {mutable : Bool} {x : Shape} : IsCutOff x → IsCutOff (.reference mutable x)

/-- A path with another type as its only argument. -/
def Source.Path.withArgument (p : Path) (t : TypeExpr) : Path :=
  ⟨p.absolute, p.initial, ⟨p.last.name, .angle [t]⟩⟩

namespace Scope

/-- The first type has a number of aliases on its spine, and is the second one with the targets in their places. -/
inductive Expands (s : Scope) : TypeExpr → Nat → TypeExpr → Prop where
  | paren {t u : TypeExpr} {k : Nat} : Expands s t k u → Expands s (.paren t) k (.paren u)
  | reference {mutable : Bool} {t u : TypeExpr} {k : Nat} :
      Expands s t k u → Expands s (.reference mutable t) k (.reference mutable u)
  | boxOf {p : Path} {t u : TypeExpr} {k : Nat} (h : s.IsBoxOf p t) :
      Expands s t k u → Expands s (.path p) k (.path (p.withArgument u))
  | aliasOf {p : Path} {target u : TypeExpr} {k : Nat} (h : s.IsAliasOf p target) :
      Expands s target k u → Expands s (.path p) (k + 1) u
  | path {p : Path} (hbox : ∀ t, ¬s.IsBoxOf p t) (halias : ∀ t, ¬s.IsAliasOf p t) : Expands s (.path p) 0 (.path p)
  | other {t : TypeExpr} (h : t.EndsSpine) : Expands s t 0 t

variable {s : Scope} {p : Path} {t u : TypeExpr} {n k : Nat}

theorem IsBoxOf.not_isAliasOf (h : s.IsBoxOf p t) : ¬s.IsAliasOf p u := by
  rintro ⟨_, _, hplain, -⟩
  simp [Path.isGeneric, Path.segments, h.2.1, Arguments.isNone] at hplain

theorem IsBoxOf.withArgument (h : s.IsBoxOf p t) (u : TypeExpr) : s.IsBoxOf (p.withArgument u) u := by
  have names : (p.withArgument u).names = p.names := by simp [Path.names, Path.segments, Path.withArgument]
  refine ⟨h.1, rfl, h.2.2.imp_right fun hstandard => ?_⟩
  rw [Path.isStandard] at hstandard ⊢
  rwa [names]

/-! ### Expansions -/

/-- A type has at most one expansion. -/
theorem Expands.unique {k' : Nat} {u' : TypeExpr} (h : s.Expands t k u) (h' : s.Expands t k' u') : k = k' ∧ u = u' := by
  induction h generalizing k' u' with
  | paren _ ih =>
    cases h' with
    | paren h' =>
      obtain ⟨rfl, rfl⟩ := ih h'
      exact ⟨rfl, rfl⟩
    | other hend => exact hend.elim
  | reference _ ih =>
    cases h' with
    | reference h' =>
      obtain ⟨rfl, rfl⟩ := ih h'
      exact ⟨rfl, rfl⟩
    | other hend => exact hend.elim
  | boxOf hbox _ ih =>
    cases h' with
    | boxOf hbox' h' =>
      obtain rfl := hbox.unique hbox'
      obtain ⟨rfl, rfl⟩ := ih h'
      exact ⟨rfl, rfl⟩
    | aliasOf halias' => exact absurd halias' hbox.not_isAliasOf
    | path hbox' => exact absurd hbox (hbox' _)
    | other hend => exact hend.elim
  | aliasOf halias _ ih =>
    cases h' with
    | boxOf hbox' => exact absurd halias hbox'.not_isAliasOf
    | aliasOf halias' h' =>
      obtain rfl := halias.unique halias'
      obtain ⟨rfl, rfl⟩ := ih h'
      exact ⟨rfl, rfl⟩
    | path _ halias' => exact absurd halias (halias' _)
    | other hend => exact hend.elim
  | path hbox halias =>
    cases h' with
    | boxOf hbox' => exact absurd hbox' (hbox _)
    | aliasOf halias' => exact absurd halias' (halias _)
    | path => exact ⟨rfl, rfl⟩
    | other hend => exact hend.elim
  | other hend =>
    cases h' with
    | paren | reference | boxOf | aliasOf | path => exact hend.elim
    | other => exact ⟨rfl, rfl⟩

/-- An expansion has no aliases left on its spine. -/
theorem Expands.expanded (h : s.Expands t k u) : s.Expands u 0 u := by
  induction h with
  | paren _ ih => exact .paren ih
  | reference _ ih => exact .reference ih
  | boxOf hbox _ ih => exact .boxOf (hbox.withArgument _) ih
  | aliasOf _ _ ih => exact ih
  | path hbox halias => exact .path hbox halias
  | other hend => exact .other hend

/-- The second type is next on the spine of the first. -/
def LeadsTo (s : Scope) (t u : TypeExpr) : Prop :=
  ∃ n m, s.Calls (n, t) (m, u)

/-- The spine of a type that has an expansion comes to an end. -/
theorem Expands.acc (h : s.Expands t k u) : Acc (fun u t => s.LeadsTo t u) t := by
  induction h with
  | paren _ ih =>
    refine Acc.intro _ ?_
    rintro _ ⟨_, _, hcall⟩
    cases hcall
    exact ih
  | reference _ ih =>
    refine Acc.intro _ ?_
    rintro _ ⟨_, _, hcall⟩
    cases hcall
    exact ih
  | boxOf hbox _ ih =>
    refine Acc.intro _ ?_
    rintro _ ⟨_, _, hcall⟩
    cases hcall with
    | boxOf hbox' => exact hbox.unique hbox' ▸ ih
    | aliasOf halias' => exact absurd halias' hbox.not_isAliasOf
  | aliasOf halias _ ih =>
    refine Acc.intro _ ?_
    rintro _ ⟨_, _, hcall⟩
    cases hcall with
    | boxOf hbox' => exact absurd halias hbox'.not_isAliasOf
    | aliasOf halias' => exact halias.unique halias' ▸ ih
  | path hbox halias =>
    refine Acc.intro _ ?_
    rintro _ ⟨_, _, hcall⟩
    cases hcall with
    | boxOf hbox' => exact absurd hbox' (hbox _)
    | aliasOf halias' => exact absurd halias' (halias _)
  | other hend =>
    refine Acc.intro _ ?_
    rintro _ ⟨_, _, hcall⟩
    cases hcall <;> exact hend.elim

/-- A type whose spine leads to a cycle has no expansion. -/
theorem not_expands_of_cycle {v : TypeExpr} (hv : Relation.ReflTransGen s.LeadsTo t v)
    (hcycle : Relation.TransGen s.LeadsTo v v) : ¬s.Expands t k u := by
  intro h
  have hacc : Acc (Relation.TransGen fun u t => s.LeadsTo t u) v := by
    have ht : Acc (Relation.TransGen fun u t => s.LeadsTo t u) t := h.acc.transGen
    rcases Relation.reflTransGen_iff_eq_or_transGen.mp hv with rfl | hv
    · exact ht
    · exact ht.inv (Relation.transGen_swap.mp hv)
  have hback : Relation.TransGen (fun u t => s.LeadsTo t u) v v := Relation.transGen_swap.mp hcycle
  -- Nothing from where all ways end leads back to itself.
  clear h hv hcycle
  induction hacc with
  | intro v _ ih => exact ih v hback hback

/-! ### Shapes of expansions -/

theorem shapeWithin_of_endsSpine (h : t.EndsSpine) (m : Nat) : s.shapeWithin n t = s.shapeWithin m t := by
  cases t with
  | paren _ | reference _ _ | path _ => exact h.elim
  | tuple elements => cases elements <;> simp only [shapeWithin]
  | _ => simp only [shapeWithin]

theorem shapeWithin_of_not_alias (hbox : ∀ t, ¬s.IsBoxOf p t) (halias : ∀ t, ¬s.IsAliasOf p t) (m : Nat) :
    s.shapeWithin n (.path p) = s.shapeWithin m (.path p) := by
  cases s.pathKind p with
  | boxOf t h => exact absurd h (hbox t)
  | aliasOf t h => exact absurd h (halias t)
  | scalar _ h => rw [shapeWithin_scalar h, shapeWithin_scalar h]
  | trait _ h => rw [shapeWithin_trait h, shapeWithin_trait h]
  | named _ h => rw [shapeWithin_named h, shapeWithin_named h]
  | unknown h => rw [shapeWithin_unknown h, shapeWithin_unknown h]
  | other _ h => rw [h, h]

/-- A type has the shape of its expansion if its aliases may all be followed. -/
theorem shapeWithin_of_expands (h : s.Expands t k u) (hk : k ≤ n) (m : Nat) :
    s.shapeWithin n t = s.shapeWithin m u := by
  induction h generalizing n with
  | paren _ ih =>
    rw [shapeWithin, shapeWithin]
    exact ih hk
  | reference _ ih => rw [shapeWithin, shapeWithin, ih hk]
  | boxOf hbox _ ih => rw [shapeWithin_box hbox, shapeWithin_box (hbox.withArgument _), ih hk]
  | aliasOf halias _ ih =>
    obtain ⟨n, rfl⟩ := Nat.exists_eq_add_one_of_ne_zero (by omega : n ≠ 0)
    rw [shapeWithin_alias_succ halias]
    exact ih (by omega)
  | path hbox halias => exact shapeWithin_of_not_alias hbox halias m
  | other hend => exact shapeWithin_of_endsSpine hend m

/-! ### Shapes that are cut off -/

theorem isCutOff_of_calls {m : Nat} (hcall : s.Calls (n, t) (m, u)) (h : (s.shapeWithin m u).IsCutOff) :
    (s.shapeWithin n t).IsCutOff := by
  rcases shapeWithin_of_calls hcall with hshape | hshape | ⟨_, hshape⟩
  · exact hshape ▸ h
  · exact hshape ▸ .boxed h
  · exact hshape ▸ .reference h

/-- A type can be expanded by the aliases that may be followed, or its shape is cut off. -/
theorem exists_expands_or_isCutOff (s : Scope) (n : Nat) (t : TypeExpr) :
    (∃ k u, k ≤ n ∧ s.Expands t k u) ∨ (s.shapeWithin n t).IsCutOff := by
  -- An expansion of what the shape is asked of gives one of the type, and a cut passes on to its shape.
  induction n, t using s.spine_induction with
  | step n t ih =>
    cases t with
    | paren t =>
      rcases ih n t .paren with ⟨k, u, hk, h⟩ | h
      · exact Or.inl ⟨k, _, hk, .paren h⟩
      · exact Or.inr (isCutOff_of_calls .paren h)
    | reference mutable t =>
      rcases ih n t .reference with ⟨k, u, hk, h⟩ | h
      · exact Or.inl ⟨k, _, hk, .reference h⟩
      · exact Or.inr (isCutOff_of_calls .reference h)
    | path p =>
      by_cases hbox : ∃ t, s.IsBoxOf p t
      · obtain ⟨t, hbox⟩ := hbox
        rcases ih n t (.boxOf hbox) with ⟨k, u, hk, h⟩ | h
        · exact Or.inl ⟨k, _, hk, .boxOf hbox h⟩
        · exact Or.inr (isCutOff_of_calls (.boxOf hbox) h)
      by_cases halias : ∃ t, s.IsAliasOf p t
      · obtain ⟨target, halias⟩ := halias
        cases n with
        | zero =>
          -- Here the shape is cut off; all other cuts come from here.
          obtain ⟨name, hshape⟩ := shapeWithin_alias_zero halias
          exact Or.inr (hshape ▸ .recursiveAlias name)
        | succ n =>
          rcases ih n target (.aliasOf halias) with ⟨k, u, hk, h⟩ | h
          · exact Or.inl ⟨k + 1, u, by omega, .aliasOf halias h⟩
          · exact Or.inr (isCutOff_of_calls (.aliasOf halias) h)
      · exact Or.inl ⟨0, _, Nat.zero_le n, .path (not_exists.mp hbox) (not_exists.mp halias)⟩
    | _ => exact Or.inl ⟨0, _, Nat.zero_le n, .other trivial⟩

/-- No role belongs to a shape that is cut off. -/
theorem roleOf_of_isCutOff {x : Shape} (h : x.IsCutOff) (paths : InjectedPaths) :
    ∃ fault, s.roleOf paths x = .error fault := by
  cases h with
  | recursiveAlias name => exact ⟨_, rfl⟩
  | boxed h => cases h <;> exact ⟨_, rfl⟩
  | reference h => cases h <;> exact ⟨_, rfl⟩

/-! ### What becomes of a parameter -/

/-- What becomes of some parameters of a function: their roles with the types named and the imports added, or the place
and the cause of the first rejection. -/
def describeParameters (s : Scope) (paths : InjectedPaths) (taken : List Injected) (table : ImportTable) (index : Nat)
    (parameters : List Parameter) : Except (Mark × HandlerFault) (List DescribedParameter × ImportTable) :=
  (s.parameterForms paths taken parameters).map fun forms => nameParameters table index forms

/-- Whatever aliases a module declares, the steps along the spine of a type are bounded. If the type has an expansion that
replaces no more aliases than may be followed, which has no alias left itself, then a function fares with a parameter of
the type as with one of the expansion. If its expansion replaces more aliases, or it has none, then the parameter is
rejected for its type; and no type that leads to a cycle has one. -/
theorem describeParameters_of_aliases (s : Scope) (t : TypeExpr) :
    (∀ calls, ((aliasLimit, t) :: calls).IsChain s.Calls → calls.length ≤ s.rank aliasLimit t) ∧
    ∀ (paths : InjectedPaths) (taken : List Injected) (table : ImportTable) (index : Nat) (name : String) (mark : Mark)
      (rest : List Parameter),
      let outcome (t : TypeExpr) := s.describeParameters paths taken table index (.typed name mark t :: rest)
      (∀ k u, s.Expands t k u → k ≤ aliasLimit → s.Expands u 0 u ∧ outcome t = outcome u) ∧
      (∀ k u, s.Expands t k u → aliasLimit < k → ∃ fault, outcome t = .error (mark, .parameterType name fault)) ∧
      ((∀ k u, ¬s.Expands t k u) → ∃ fault, outcome t = .error (mark, .parameterType name fault)) ∧
      ∀ v, Relation.ReflTransGen s.LeadsTo t v → Relation.TransGen s.LeadsTo v v → ∀ k u, ¬s.Expands t k u := by
  refine ⟨fun calls h => length_le_rank h, fun paths taken table index name mark rest => ?_⟩
  intro outcome
  have rejected : (∀ k u, s.Expands t k u → aliasLimit < k) →
      ∃ fault, outcome t = .error (mark, .parameterType name fault) := by
    intro hlong
    rcases s.exists_expands_or_isCutOff aliasLimit t with ⟨k, u, hk, h⟩ | hcut
    · exact absurd (hlong k u h) (by omega)
    · have hrole : ∃ fault, s.roleOf paths (s.shape t) = .error fault := roleOf_of_isCutOff hcut paths
      obtain ⟨fault, hfault⟩ := hrole
      exact ⟨fault, by simp only [outcome, describeParameters, parameterForms, hfault, Except.map]⟩
  refine ⟨fun k u h hk => ⟨h.expanded, ?_⟩, fun k u h hk => rejected fun k' u' h' => ?_,
    fun hnone => rejected fun k u h => absurd h (hnone k u), fun v hv hcycle k u => not_expands_of_cycle hv hcycle⟩
  · have hshape : s.shape t = s.shape u := shapeWithin_of_expands h hk aliasLimit
    simp only [outcome, describeParameters, parameterForms, hshape]
  · rw [← (h.unique h').1]
    exact hk

end Scope

end Switchboard
