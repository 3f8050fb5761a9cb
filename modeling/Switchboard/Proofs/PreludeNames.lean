import Switchboard.Proofs.Classification
import Switchboard.Proofs.ImportedNames
import Switchboard.Proofs.ScopeAgreement
import Switchboard.Proofs.SelfPaths

/-! # Names of the prelude

The names of the scalars and of the box are known in every module without an import. A declaration of the module takes
precedence over them: its types are not taken for a scalar or a box. An import does not. Its name keeps the meaning that
it has without the import, wherever a parameter holds it (`Holds`) and for results alike; so a name of the prelude stands
for what the module says it does exactly if the module declares it (`roleOf_prelude_iff`). -/

namespace Switchboard

open Source

/-- A path of a single name. -/
def Source.Path.ofName (name : String) : Path :=
  ⟨false, [], ⟨name, .none⟩⟩

/-- A box of a type, by the name that the prelude has for it. -/
def Source.Path.boxOf (inner : TypeExpr) : Path :=
  ⟨false, [], ⟨"Box", .angle [inner]⟩⟩

namespace Scope

/-- The first type holds the second, with so many aliases left for it, behind parentheses and aliases, boxes and
references. The shape of the first is what the function makes of that of the second. -/
inductive Holds (s : Scope) : Nat → TypeExpr → (Shape → Shape) → Nat → TypeExpr → Prop where
  | here {n m : Nat} {t u : TypeExpr} (h : s.Strips n t m u) : Holds s n t id m u
  | boxed {n k m : Nat} {t inner u : TypeExpr} {wrap : Shape → Shape} (h : s.IsBox n t k inner) :
      Holds s k inner wrap m u → Holds s n t (fun x => .boxed (wrap x)) m u
  | reference {n k m : Nat} {mutable : Bool} {t target u : TypeExpr} {wrap : Shape → Shape}
      (h : s.Strips n t k (.reference mutable target)) :
      Holds s k target wrap m u → Holds s n t (fun x => .reference mutable (wrap x)) m u

variable {s : Scope} {n m k : Nat} {t u inner : TypeExpr} {wrap : Shape → Shape} {name : String}

theorem Holds.shapeWithin_eq (h : s.Holds n t wrap m u) : s.shapeWithin n t = wrap (s.shapeWithin m u) := by
  induction h with
  | here h => exact shapeWithin_of_strips h
  | boxed h _ ih => exact shapeWithin_eq_boxed_iff.mpr ⟨_, _, h, ih⟩
  | reference h _ ih => exact shapeWithin_eq_reference_iff.mpr ⟨_, _, h, ih⟩

theorem Holds.injective (h : s.Holds n t wrap m u) : Function.Injective wrap := by
  induction h with
  | here => exact Function.injective_id
  | boxed _ _ ih => exact fun x y hxy => ih (Shape.boxed.inj hxy)
  | reference _ _ ih => exact fun x y hxy => ih (Shape.reference.inj hxy).2

/-! ### Scalars -/

theorem isScalar_ofName (hname : name ∈ scalarNames) (hlocal : s.types.contains name = false) :
    s.IsScalar (.ofName name) name :=
  ⟨rfl, Or.inl ⟨⟨rfl, rfl, hlocal⟩, hname⟩⟩

theorem resolve_ofName (s : Scope) (name : String) : s.resolve (.ofName name) = s.resolveName name :=
  resolve_bare rfl

/-- The name of a scalar has the shape of the type that it resolves to exactly if that is a type of the module. -/
theorem shapeWithin_ofName_eq_named_iff (hname : name ∈ scalarNames) :
    s.shapeWithin n (.path (.ofName name)) = .named (s.resolve (.ofName name)) ↔ s.IsTypeItem (.localType name) := by
  cases hlocal : s.types.contains name with
  | false =>
    rw [shapeWithin_scalar (isScalar_ofName hname hlocal)]
    refine iff_of_false nofun ?_
    rintro ⟨kind, htype, -⟩
    simp [NameMap.contains, htype] at hlocal
  | true =>
    have hresolve : s.resolve (.ofName name) = .localType name := by rw [resolve_ofName, resolveName, if_pos hlocal]
    have hbuiltin : s.builtinShape? (.ofName name) = none := by
      obtain ⟨type, htype⟩ := Option.isSome_iff_exists.mp hlocal
      exact Declares.builtinShape?_eq_none ⟨rfl, hresolve, htype⟩
    rw [hresolve]
    constructor
    · intro hshape
      cases hasShape_iff.mpr hshape with
      | named _ hp => exact hp.1.2.2.1
    · intro hitem
      obtain ⟨hscalar, htext⟩ := builtinShape?_eq_none_iff.mp hbuiltin
      exact shapeWithin_named ⟨⟨rfl, hresolve, hitem, hscalar⟩, htext⟩

/-! ### Boxes -/

theorem roleOf_eq_generic_iff {paths : InjectedPaths} {x : Shape} :
    s.roleOf paths x = .error (.unsupported (.generic name)) ↔ x = .unsupported (.generic name) := by
  refine ⟨fun h => ?_, fun h => h ▸ rfl⟩
  cases x with
  | unsupported form =>
    cases h
    rfl
  | boxed y => cases y <;> cases h
  | reference mutable y =>
    rcases s.referenceRole_cases paths mutable y with ⟨-, hrole | hrole⟩ | ⟨_, -, hrole⟩ | ⟨-, -, hrole | hrole⟩ <;>
      cases hrole.symm.trans h
  | scalar _ | named _ | interface _ _ | unresolved _ => cases h

theorem isBoxOf_boxOf (inner : TypeExpr) (hlocal : s.types.contains "Box" = false) : s.IsBoxOf (.boxOf inner) inner :=
  ⟨rfl, rfl, Or.inl ⟨rfl, hlocal⟩⟩

theorem boxed?_boxOf_eq_none (inner : TypeExpr) (hlocal : s.types.contains "Box" = true) :
    s.boxed? (.boxOf inner) = none := by
  simp [boxed?, namesBox, Path.boxOf, hlocal, Path.isStandard, Path.names, Path.segments]

/-- A box with an argument is rejected as a generic type exactly if the module declares a type of its name. -/
theorem shapeWithin_boxOf_eq_generic_iff :
    s.shapeWithin n (.path (.boxOf inner)) = .unsupported (.generic "Box") ↔ s.types.contains "Box" = true := by
  cases hlocal : s.types.contains "Box" with
  | false =>
    rw [shapeWithin_box (isBoxOf_boxOf inner hlocal)]
    exact iff_of_false nofun nofun
  | true =>
    have hbuiltin : s.builtinShape? (.boxOf inner) = none := by
      have hscalar : "Box" ∉ scalarNames := by decide
      have htext : "Box" ≠ "str" := by decide
      exact builtinShape?_eq_none_iff.mpr ⟨not_isScalar hscalar rfl, fun h => htext h.2.1⟩
    exact iff_of_true (shapeWithin_generic hbuiltin (boxed?_boxOf_eq_none inner hlocal) rfl n) rfl

/-! ### Results -/

theorem aliasTarget?_boxOf (hplain : ∀ target spelling, s.types.get? "Box" ≠ some (.typeAlias target spelling false)) :
    s.aliasTarget? (.boxOf inner) = none := by
  have hinitial : (Path.boxOf inner).initial.isEmpty = true := rfl
  rw [aliasTarget?, if_pos hinitial]
  split
  · rename_i target spelling htype
    exact absurd htype (hplain target spelling)
  · rfl

/-- A box that is returned is handed on as one exactly if the module declares no type of its name. -/
theorem resultRoles_boxOf (h : s.LeadsByName t k (.path (.boxOf inner))) (hk : k < aliasLimit)
    (hplain : ∀ target spelling, s.types.get? "Box" ≠ some (.typeAlias target spelling false)) :
    s.resultRoles (some t) = ([if s.types.contains "Box" then .byValue else .byPointer], false) := by
  have hend : s.aliasTarget? (.boxOf inner) = none := aliasTarget?_boxOf hplain
  have hexpand : s.expand t = .path (.boxOf inner) := h.expand_eq hend hk
  have hbox : s.isBoxed (.path (.boxOf inner)) = (s.boxed? (.boxOf inner)).isSome := by
    rw [isBoxed, expand, expandWithin_of_aliasTarget?_eq_none hend]
  rw [resultRoles, hexpand]
  simp only [hbox]
  cases hlocal : s.types.contains "Box" with
  | false => simp [boxed?_eq_some_iff.mpr (isBoxOf_boxOf inner hlocal)]
  | true => simp [boxed?_boxOf_eq_none inner hlocal]

/-! ### Names of the prelude in a module -/

/-- A name of the prelude has a meaning of the module's own exactly if the module declares it. The name of a scalar
stands for the type that it resolves to exactly if that is a type of the module, and for the scalar whatever else it
resolves to, the path of an import among them. A box with an argument is rejected as a generic type exactly if the module
declares a type of its name; else it is the box of its argument. The same goes for a box that is returned, unless an
alias without parameters has its name; and the roles of results do not depend on the imports at all. -/
theorem roleOf_prelude_iff (s : Scope) (paths : InjectedPaths) :
    let role (t : TypeExpr) := s.roleOf paths (s.shape t)
    (∀ name ∈ scalarNames, ∀ t wrap m, s.Holds aliasLimit t wrap m (.path (.ofName name)) →
      (s.shape t = wrap (.named (s.resolve (.ofName name))) ↔ s.IsTypeItem (.localType name)) ∧
      (s.types.contains name = false →
        s.shape t = wrap (.scalar name) ∧
        (wrap = id → role t = .ok (.byValue (.scalar name))) ∧
        (wrap = .boxed → role t = .ok (.byPointer (.scalar name))) ∧
        ∀ known, s.imports.get? name = some known → s.resolve (.ofName name) = .ofFullPath known.path)) ∧
    (∀ inner t wrap m, s.Holds aliasLimit t wrap m (.path (.boxOf inner)) →
      (s.shape t = wrap (.unsupported (.generic "Box")) ↔ s.types.contains "Box" = true) ∧
      (s.types.contains "Box" = false → s.shape t = wrap (.boxed (s.shapeWithin m inner))) ∧
      (wrap = id → (role t = .error (.unsupported (.generic "Box")) ↔ s.types.contains "Box" = true))) ∧
    (∀ inner t k, s.LeadsByName t k (.path (.boxOf inner)) → k < aliasLimit →
      (∀ target spelling, s.types.get? "Box" ≠ some (.typeAlias target spelling false)) →
      s.resultRoles (some t) = ([if s.types.contains "Box" then .byValue else .byPointer], false)) ∧
    ∀ imports output, { s with imports := imports }.resultRoles output = s.resultRoles output := by
  intro role
  refine ⟨fun name hname t wrap m hholds => ?_, fun inner t wrap m hholds => ?_,
    fun _ _ _ => resultRoles_boxOf, fun _ => resultRoles_congr fun _ => rfl⟩
  · have hshape : s.shape t = wrap (s.shapeWithin m (.path (.ofName name))) := hholds.shapeWithin_eq
    refine ⟨?_, fun hlocal => ?_⟩
    · rw [hshape, hholds.injective.eq_iff, shapeWithin_ofName_eq_named_iff hname]
    · rw [shapeWithin_scalar (isScalar_ofName hname hlocal)] at hshape
      refine ⟨hshape, ?_, ?_, fun known himport => ?_⟩
      · rintro rfl
        exact roleOf_eq_byValue_iff.mpr hshape
      · rintro rfl
        exact roleOf_eq_byPointer_iff.mpr hshape
      · rw [resolve_ofName, resolveName_imported himport hlocal]
  · have hshape : s.shape t = wrap (s.shapeWithin m (.path (.boxOf inner))) := hholds.shapeWithin_eq
    refine ⟨?_, fun hlocal => ?_, ?_⟩
    · rw [hshape, hholds.injective.eq_iff, shapeWithin_boxOf_eq_generic_iff]
    · rw [hshape, shapeWithin_box (isBoxOf_boxOf inner hlocal)]
    · rintro rfl
      have hgeneric : role t = .error (.unsupported (.generic "Box")) ↔ s.shape t = .unsupported (.generic "Box") :=
        roleOf_eq_generic_iff
      rw [hgeneric, hshape]
      exact shapeWithin_boxOf_eq_generic_iff

/-- A module that imports a `String` and a `Box` of other crates: the names keep what they mean in the prelude. -/
theorem roleOf_prelude_iff_imported :
    let s : Scope := ⟨[], [], [("String", ⟨["text", "String"], ⟨"h.rs", ⟨1, 1⟩⟩⟩),
      ("Box", ⟨["alloc_box", "Box"], ⟨"h.rs", ⟨2, 1⟩⟩⟩)], []⟩
    let text : TypeExpr := .path (.ofName "String")
    let box : TypeExpr := .path (.boxOf text)
    ∀ paths, s.resolve (.ofName "String") = .external ["text"] "String" ∧
      s.roleOf paths (s.shape text) = .ok (.byValue (.scalar "String")) ∧
      s.roleOf paths (s.shape box) = .ok (.byPointer (.scalar "String")) ∧
      s.shape box ≠ .unsupported (.generic "Box") ∧ s.resultRoles (some box) = ([.byPointer], false) := by
  intro s text box paths
  obtain ⟨hscalar, hbox, hresult, -⟩ := roleOf_prelude_iff s paths
  have hname : "String" ∈ scalarNames := by decide
  have hheld : s.Holds aliasLimit box .boxed aliasLimit text :=
    .boxed ⟨_, .done, isBoxOf_boxOf text rfl⟩ (.here .done)
  obtain ⟨-, hvalue⟩ := hscalar _ hname text _ _ (.here .done)
  obtain ⟨-, hpointer⟩ := hscalar _ hname box _ _ hheld
  obtain ⟨hgeneric, -, -⟩ := hbox text box _ _ (.here .done)
  refine ⟨(hvalue rfl).2.2.2 _ rfl, (hvalue rfl).2.1 rfl, (hpointer rfl).2.2.1 rfl, fun h => ?_, ?_⟩
  · exact Bool.false_ne_true (hgeneric.mp h)
  · exact hresult text box 0 .done (by decide) nofun

end Scope

end Switchboard
