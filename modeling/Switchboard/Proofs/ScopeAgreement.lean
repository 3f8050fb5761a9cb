import Switchboard.Proofs.ScopeContents
import Switchboard.Proofs.Spine
import Switchboard.Proofs.Results

/-! # Scopes that answer alike

Scopes of the same module can keep their names in different orders, and import a name at different places. Nothing that
decides the form of a handler sees a difference (`Agrees`): each look-up gives the same, and so does whatever is made of
look-ups only, up to the form of a function (`Agrees.formOf`). In particular two scopes agree that have the same entries
in different orders, as long as no type is declared twice (`agrees_of_perm`).

Paths are resolved by the names alone, whatever the types are declared as (`SameNames`). -/

namespace Switchboard

open Source

namespace Scope

/-- Two scopes with the same types and modules, that import the same names from the same paths and the same modules as a
whole. -/
structure Agrees (s s' : Scope) : Prop where
  types : ∀ name, s.types.get? name = s'.types.get? name
  modules : ∀ name, name ∈ s.modules ↔ name ∈ s'.modules
  imports : ∀ name, (s.imports.get? name).map (·.path) = (s'.imports.get? name).map (·.path)
  globs : ∀ m, m ∈ s.globs ↔ m ∈ s'.globs

/-- The same, but that the types of one name may be declared in different ways. -/
structure SameNames (s s' : Scope) : Prop where
  types : ∀ name, s.types.contains name = s'.types.contains name
  modules : ∀ name, name ∈ s.modules ↔ name ∈ s'.modules
  imports : ∀ name, (s.imports.get? name).map (·.path) = (s'.imports.get? name).map (·.path)
  globs : ∀ m, m ∈ s.globs ↔ m ∈ s'.globs

/-- What is a box depends on nothing but whether a type of the module has its name. -/
theorem boxed?_congr {s s' : Scope} (h : s.types.contains "Box" = s'.types.contains "Box") (p : Path) :
    s.boxed? p = s'.boxed? p := by
  rw [boxed?, boxed?, namesBox, namesBox, h]

namespace SameNames

variable {s s' : Scope} (h : s.SameNames s')

theorem refl (s : Scope) : s.SameNames s :=
  ⟨fun _ => rfl, fun _ => Iff.rfl, fun _ => rfl, fun _ => Iff.rfl⟩

include h

/-! ### Look-ups -/

theorem contains_modules (name : String) : s.modules.contains name = s'.modules.contains name := by
  rw [Bool.eq_iff_iff, List.contains_iff_mem, List.contains_iff_mem]
  exact h.modules name

theorem isEmpty_globs : s.globs.isEmpty = s'.globs.isEmpty := by
  rw [Bool.eq_iff_iff, List.isEmpty_iff, List.isEmpty_iff, List.eq_nil_iff_forall_not_mem, List.eq_nil_iff_forall_not_mem]
  simp only [h.globs]

/-- A name is imported by both scopes, from one path, or by none. -/
theorem imports_cases (name : String) :
    (s.imports.get? name = none ∧ s'.imports.get? name = none) ∨
      ∃ known known', s.imports.get? name = some known ∧ s'.imports.get? name = some known' ∧ known.path = known'.path := by
  have hpath := h.imports name
  cases hs : s.imports.get? name with
  | none =>
    rw [hs, Option.map_none, eq_comm, Option.map_eq_none_iff] at hpath
    exact Or.inl ⟨rfl, hpath⟩
  | some known =>
    rw [hs, Option.map_some, eq_comm, Option.map_eq_some_iff] at hpath
    obtain ⟨known', hs', hsame⟩ := hpath
    exact Or.inr ⟨known, known', rfl, hs', hsame.symm⟩

theorem resolveName (name : String) : s.resolveName name = s'.resolveName name := by
  rw [Scope.resolveName, Scope.resolveName, h.types, h.isEmpty_globs]
  rcases h.imports_cases name with ⟨hs, hs'⟩ | ⟨known, known', hs, hs', hsame⟩
  · rw [hs, hs']
  · simp only [hs, hs', hsame]

theorem resolveQualified (first : String) (rest : List String) :
    s.resolveQualified first rest = s'.resolveQualified first rest := by
  unfold Scope.resolveQualified
  split
  · rw [h.types]
  · rfl
  · rfl
  · rfl
  · rcases h.imports_cases first with ⟨hs, hs'⟩ | ⟨known, known', hs, hs', hsame⟩
    · rw [hs, hs', h.contains_modules]
    · simp only [hs, hs', hsame]

theorem resolve (p : Path) : s.resolve p = s'.resolve p := by
  rw [Scope.resolve, Scope.resolve]
  unfold resolveNames
  split
  · rfl
  · exact h.resolveName _
  · exact h.resolveQualified _ _

theorem isItem (r : Resolution) (path : String) : s.isItem r path = s'.isItem r path := by
  cases r with
  | glob name =>
    rw [Bool.eq_iff_iff]
    simp only [Scope.isItem, List.any_eq_true, h.globs]
  | localType | external | unresolved => rfl

/-! ### Shapes -/

theorem builtinShape? (p : Path) : s.builtinShape? p = s'.builtinShape? p := by
  rw [Scope.builtinShape?, Scope.builtinShape?, h.types]

theorem leadingTrait? (bounds : List Bound) : s.leadingTrait? bounds = s'.leadingTrait? bounds := by
  induction bounds with
  | nil => rfl
  | cons bound bounds ih =>
    cases bound with
    | trait p => rw [Scope.leadingTrait?, Scope.leadingTrait?, h.resolve]
    | lifetime | other => exact ih

end SameNames

/-- A path that is neither a scalar nor a box is not looked up if it has arguments. -/
theorem shapeWithin_generic {s : Scope} {p : Path} (hbuiltin : s.builtinShape? p = none) (hbox : s.boxed? p = none)
    (hgeneric : p.isGeneric = true) (n : Nat) : s.shapeWithin n (.path p) = .unsupported (.generic p.last.name) := by
  rw [shapeWithin]
  simp only [hbuiltin]
  split
  · rename_i hsome
    rw [hbox] at hsome
    cases hsome
  · rw [if_pos hgeneric]

theorem shapeWithin_builtin {s : Scope} {p : Path} {x : Shape} (h : s.builtinShape? p = some x) (n : Nat) :
    s.shapeWithin n (.path p) = x := by
  rw [shapeWithin, h]

/-! ### Results

How results are handed on depends on the types that are declared, and on nothing else in the scope. -/

section
variable {s s' : Scope} (h : ∀ name, s.types.get? name = s'.types.get? name)

include h

theorem contains_types_congr (name : String) : s.types.contains name = s'.types.contains name := by
  rw [NameMap.contains, NameMap.contains, h]

theorem aliasTarget?_congr (p : Path) : s.aliasTarget? p = s'.aliasTarget? p := by
  rw [aliasTarget?, aliasTarget?, h]

theorem expandWithin_congr (n : Nat) (t : TypeExpr) : s.expandWithin n t = s'.expandWithin n t := by
  induction n, t using expandWithin.induct s with
  | case1 t => rw [expandWithin_zero, expandWithin_zero]
  | case2 n hn t ih =>
    obtain ⟨n, rfl⟩ := Nat.exists_eq_add_one_of_ne_zero hn
    rw [expandWithin_paren, expandWithin_paren, ih]
  | case3 n hn p target htarget ih =>
    have htarget' := (aliasTarget?_congr h p).symm.trans htarget
    rw [expandWithin, expandWithin]
    simp only [hn, htarget, htarget', ih]
  | case4 n hn p hnone =>
    rw [expandWithin_of_aliasTarget?_eq_none hnone,
      expandWithin_of_aliasTarget?_eq_none ((aliasTarget?_congr h p).symm.trans hnone)]
  | case5 n t hn hparen hpath =>
    cases t with
    | paren t => exact (hparen t rfl).elim
    | path p => exact (hpath p rfl).elim
    | _ => simp only [expandWithin]

theorem isBoxed_congr (t : TypeExpr) : s.isBoxed t = s'.isBoxed t := by
  rw [isBoxed, isBoxed, expand, expand, expandWithin_congr h]
  cases s'.expandWithin aliasLimit t with
  | path p => simp only [boxed?_congr (contains_types_congr h "Box")]
  | _ => rfl

theorem resultRoles_congr (output : Option TypeExpr) : s.resultRoles output = s'.resultRoles output := by
  cases output with
  | none => rfl
  | some type => simp only [resultRoles, isBoxed_congr h, expand, expandWithin_congr h]

end

namespace Agrees

variable {s s' : Scope} (h : s.Agrees s')

include h

theorem sameNames : s.SameNames s' where
  types := contains_types_congr h.types
  modules := h.modules
  imports := h.imports
  globs := h.globs

theorem shapeWithin (n : Nat) (t : TypeExpr) : s.shapeWithin n t = s'.shapeWithin n t := by
  -- Along the spine of the type in one scope; the other goes along the same types.
  induction n, t using s.spine_induction with
  | step n t ih =>
    cases t with
    | paren t =>
      rw [Scope.shapeWithin, Scope.shapeWithin]
      exact ih n t .paren
    | reference mutable t => rw [Scope.shapeWithin, Scope.shapeWithin, ih n t .reference]
    | object bounds => rw [Scope.shapeWithin, Scope.shapeWithin, h.sameNames.leadingTrait?]
    | abstract bounds => rw [Scope.shapeWithin, Scope.shapeWithin, h.sameNames.leadingTrait?]
    | path p =>
      cases hbuiltin : s.builtinShape? p with
      | some x => rw [shapeWithin_builtin hbuiltin, shapeWithin_builtin ((h.sameNames.builtinShape? p).symm.trans hbuiltin)]
      | none =>
        have hbuiltin' := (h.sameNames.builtinShape? p).symm.trans hbuiltin
        cases hbox : s.boxed? p with
        | some inner =>
          have hbox' := (boxed?_congr (h.sameNames.types "Box") p).symm.trans hbox
          rw [boxed?_eq_some_iff] at hbox hbox'
          rw [shapeWithin_box hbox, shapeWithin_box hbox', ih n inner (.boxOf hbox)]
        | none =>
          cases hplain : p.isGeneric with
          | true =>
            rw [shapeWithin_generic hbuiltin hbox hplain,
              shapeWithin_generic hbuiltin' ((boxed?_congr (h.sameNames.types "Box") p).symm.trans hbox) hplain]
          | false =>
            rw [shapeWithin_plain hbuiltin hplain, shapeWithin_plain hbuiltin' hplain, ← h.sameNames.resolve p]
            cases hresolve : s.resolve p with
            | localType name =>
              simp only [← h.types name]
              cases htype : s.types.get? name with
              | none => rfl
              | some type =>
                rcases type with kind | ⟨target, spelling, isGeneric⟩
                · cases kind <;> rfl
                · cases isGeneric with
                  | true => rfl
                  | false =>
                    cases n with
                    | zero => rfl
                    | succ n => exact ih n target (.aliasOf ⟨name, spelling, hplain, hresolve, htype⟩)
            | external | glob | unresolved => rfl
    | tuple elements => cases elements <;> rw [Scope.shapeWithin, Scope.shapeWithin]
    | _ => rw [Scope.shapeWithin, Scope.shapeWithin]

theorem shape (t : TypeExpr) : s.shape t = s'.shape t :=
  h.shapeWithin aliasLimit t

/-! ### Forms -/

theorem referenceRole (paths : InjectedPaths) (mutable : Bool) (x : Shape) :
    s.referenceRole paths mutable x = s'.referenceRole paths mutable x := by
  unfold Scope.referenceRole
  simp only [h.sameNames.isItem]

theorem roleOf (paths : InjectedPaths) (x : Shape) : s.roleOf paths x = s'.roleOf paths x := by
  cases x with
  | reference mutable target => exact h.referenceRole paths mutable target
  | _ => rfl

theorem parameterForms (paths : InjectedPaths) (taken : List Injected) (parameters : List Parameter) :
    s.parameterForms paths taken parameters = s'.parameterForms paths taken parameters := by
  induction parameters generalizing taken with
  | nil => rfl
  | cons parameter parameters ih =>
    cases parameter with
    | receiver mark => rfl
    | typed name mark type => simp only [Scope.parameterForms, h.shape, h.roleOf, ih]

/-- What decides the form of a function does not tell the scopes apart. -/
theorem formOf (paths : InjectedPaths) (file : ModuleFile) (f : Function) :
    s.formOf paths file f = s'.formOf paths file f := by
  rw [Scope.formOf, Scope.formOf, h.parameterForms, resultRoles_congr h.types]

end Agrees

/-! ### Entries in another order -/

variable {s s' : Scope} {entries entries' : List ScopeEntry}

theorem length_typeNamed (name : String) (entries : List ScopeEntry) :
    (entries.filterMap (·.typeNamed? name)).length = (entries.filterMap (·.typeName?)).count name := by
  induction entries with
  | nil => rfl
  | cons e entries ih =>
    cases e with
    | declares n type =>
      rw [List.filterMap_cons, List.filterMap_cons]
      by_cases hn : n = name
      · subst hn
        have hsome : ScopeEntry.typeNamed? n (.declares n type) = some type := if_pos rfl
        simp only [hsome, ScopeEntry.typeName?, List.length_cons, List.count_cons_self, ih]
      · have hnone : ScopeEntry.typeNamed? name (.declares n type) = none := if_neg hn
        simp only [hnone, ScopeEntry.typeName?, List.count_cons_of_ne hn, ih]
    | module | imports => simpa [ScopeEntry.typeNamed?, ScopeEntry.typeName?] using ih

/-- Where no type is declared twice, the last declaration of a name is the only one. -/
theorem filterMap_typeNamed_eq_of_perm (hperm : entries.Perm entries') (hnodup : (entries.filterMap (·.typeName?)).Nodup)
    (name : String) : entries.filterMap (·.typeNamed? name) = entries'.filterMap (·.typeNamed? name) := by
  have hsame : (entries.filterMap (·.typeNamed? name)).Perm (entries'.filterMap (·.typeNamed? name)) :=
    hperm.filterMap _
  have hone : (entries.filterMap (·.typeNamed? name)).length ≤ 1 := by
    rw [length_typeNamed]
    exact List.nodup_iff_count_le_one.mp hnodup name
  match hfound : entries.filterMap (·.typeNamed? name) with
  | [] =>
    rw [hfound] at hsame
    exact hfound.trans hsame.nil_eq
  | [type] =>
    rw [hfound] at hsame
    exact hfound.trans (List.perm_singleton.mp hsame.symm).symm
  | _ :: _ :: _ =>
    rw [hfound] at hone
    simp at hone

/-- Scopes agree that have the same entries in different orders, unless a type is declared twice. -/
theorem agrees_of_perm (h : s.Collects entries) (h' : s'.Collects entries') (hperm : entries.Perm entries')
    (hnodup : (entries.filterMap (·.typeName?)).Nodup) : s.Agrees s' where
  types name := by rw [h.types, h'.types, filterMap_typeNamed_eq_of_perm hperm hnodup]
  modules name := by rw [h.modules, h'.modules, hperm.mem_iff]
  imports name := Option.ext fun path => by simp only [h.imports, h'.imports, hperm.mem_iff]
  globs m := by simp only [h.globs, h'.globs, hperm.mem_iff]

theorem ImportsAgree.perm (h : ImportsAgree entries) (hperm : entries.Perm entries') : ImportsAgree entries' :=
  fun name path path' position position' hpath hpath' =>
    h name path path' position position' (hperm.mem_iff.mpr hpath) (hperm.mem_iff.mpr hpath')

end Scope

end Switchboard
