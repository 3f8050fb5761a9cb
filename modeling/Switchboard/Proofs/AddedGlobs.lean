import Switchboard.Proofs.HandlerSignatures
import Switchboard.Proofs.ImportGroups

/-! # More globs

A glob import can supply names that nothing else declares or imports. With more globs a path that resolved still resolves
to the same, and of the others a bare name can be one that a glob supplies (`Scope.widens_resolve`). A type that had a role
keeps it (`Scope.roleOf_withGlobs`), because no role rests on a name that is not known. So a module with one more glob import
is analysed as before (`analyze_addGlob`). -/

namespace Switchboard

open Source

/-- What more globs can make of a resolution: a name that was not known can come from a glob. -/
def Resolution.Widens (r r' : Resolution) : Prop :=
  r' = r ∨ r = .unresolved ∧ ∃ name, r' = .glob name

/-- What more globs can make of a shape. -/
inductive Shape.Widens : Shape → Shape → Prop where
  | same (x : Shape) : Widens x x
  | known (text name : String) : Widens (.unresolved text) (.named (.glob name))
  | bound (name : String) (object : Bool) :
      Widens (.interface (some .unresolved) object) (.interface (some (.glob name)) object)
  | boxed {x x' : Shape} (h : Widens x x') : Widens (.boxed x) (.boxed x')
  | reference (mutable : Bool) {x x' : Shape} (h : Widens x x') : Widens (.reference mutable x) (.reference mutable x')

namespace Scope

/-- The scope with other globs. -/
def withGlobs (s : Scope) (globs : List ModulePath) : Scope := { s with globs }

variable {s : Scope} {globs : List ModulePath} (hmore : ∀ m ∈ s.globs, m ∈ globs)

include hmore

/-! ### Resolutions and shapes -/

theorem widens_resolveName (name : String) : (s.resolveName name).Widens ((s.withGlobs globs).resolveName name) := by
  have htypes : (s.withGlobs globs).types = s.types := rfl
  have himports : (s.withGlobs globs).imports = s.imports := rfl
  rw [resolveName, resolveName, htypes, himports]
  by_cases hlocal : s.types.contains name = true
  · rw [if_pos hlocal, if_pos hlocal]
    exact Or.inl rfl
  · rw [if_neg hlocal, if_neg hlocal]
    cases s.imports.get? name with
    | some known => exact Or.inl rfl
    | none =>
      cases hglobs : s.globs with
      | nil =>
        cases globs with
        | nil => exact Or.inl rfl
        | cons m ms => exact Or.inr ⟨rfl, name, rfl⟩
      | cons m ms =>
        have hne : globs ≠ [] := List.ne_nil_of_mem (hmore m (hglobs ▸ List.mem_cons_self))
        have hmany : (s.withGlobs globs).globs.isEmpty = false := List.isEmpty_eq_false_iff.mpr hne
        simp only [hmany]
        exact Or.inl rfl

/-- A path that resolves, resolves to the same with more globs. -/
theorem widens_resolve (p : Path) : (s.resolve p).Widens ((s.withGlobs globs).resolve p) := by
  rw [resolve, resolve]
  rcases p.names with _ | ⟨first, _ | ⟨second, rest⟩⟩
  · exact Or.inl rfl
  · exact widens_resolveName hmore first
  · exact Or.inl rfl

theorem isItem_withGlobs {r : Resolution} {path : String} (h : s.isItem r path = true) :
    (s.withGlobs globs).isItem r path = true := by
  cases r with
  | glob name =>
    simp only [isItem, List.any_eq_true] at h ⊢
    obtain ⟨m, hm, hpath⟩ := h
    exact ⟨m, hmore m hm, hpath⟩
  | localType | external | unresolved => exact h

theorem widens_interface (bounds : List Bound) (object : Bool) :
    Shape.Widens (.interface (s.leadingTrait? bounds) object)
      (.interface ((s.withGlobs globs).leadingTrait? bounds) object) := by
  induction bounds with
  | nil => exact .same _
  | cons bound bounds ih =>
    cases bound with
    | trait p =>
      rw [leadingTrait?, leadingTrait?]
      rcases widens_resolve hmore p with hsame | ⟨hnone, name, hname⟩
      · rw [hsame]
        exact .same _
      · rw [hnone, hname]
        exact .bound name object
    | lifetime | other => exact ih

theorem widens_shapeWithin (n : Nat) (t : TypeExpr) :
    (s.shapeWithin n t).Widens ((s.withGlobs globs).shapeWithin n t) := by
  induction n, t using s.spine_induction with
  | step n t ih =>
    cases t with
    | paren t =>
      rw [shapeWithin, shapeWithin]
      exact ih n t .paren
    | reference mutable t =>
      rw [shapeWithin, shapeWithin]
      exact .reference mutable (ih n t .reference)
    | object bounds =>
      rw [shapeWithin, shapeWithin]
      exact widens_interface hmore bounds true
    | abstract bounds =>
      rw [shapeWithin, shapeWithin]
      exact widens_interface hmore bounds false
    | path p =>
      -- Scalars, boxes and generic types are told by the types of the module, which are the same.
      have hbuiltin' : (s.withGlobs globs).builtinShape? p = s.builtinShape? p := rfl
      have hbox' : (s.withGlobs globs).boxed? p = s.boxed? p := rfl
      cases hbuiltin : s.builtinShape? p with
      | some x =>
        rw [shapeWithin_builtin hbuiltin, shapeWithin_builtin (hbuiltin'.trans hbuiltin)]
        exact .same x
      | none =>
        cases hbox : s.boxed? p with
        | some inner =>
          rw [shapeWithin_box (boxed?_eq_some_iff.mp hbox), shapeWithin_box (boxed?_eq_some_iff.mp (hbox'.trans hbox))]
          exact .boxed (ih n inner (.boxOf (boxed?_eq_some_iff.mp hbox)))
        | none =>
          cases hplain : p.isGeneric with
          | true =>
            rw [shapeWithin_generic hbuiltin hbox hplain,
              shapeWithin_generic (hbuiltin'.trans hbuiltin) (hbox'.trans hbox) hplain]
            exact .same _
          | false =>
            rw [shapeWithin_plain hbuiltin hplain, shapeWithin_plain (hbuiltin'.trans hbuiltin) hplain]
            have htypes : (s.withGlobs globs).types = s.types := rfl
            rcases widens_resolve hmore p with hsame | ⟨hnone, name, hname⟩
            · rw [hsame, htypes]
              cases hresolve : s.resolve p with
              | localType name =>
                dsimp only
                cases htype : s.types.get? name with
                | none => exact .same _
                | some type =>
                  rcases type with kind | ⟨target, spelling, isGeneric⟩
                  · cases kind <;> exact .same _
                  · cases isGeneric with
                    | true => exact .same _
                    | false =>
                      cases n with
                      | zero => exact .same _
                      | succ n => exact ih n target (.aliasOf ⟨name, spelling, hplain, hresolve, htype⟩)
              | external | glob | unresolved => exact .same _
            · rw [hnone, hname]
              exact .known p.render name
    | tuple elements => cases elements <;> rw [shapeWithin, shapeWithin] <;> exact .same _
    | _ =>
      rw [shapeWithin, shapeWithin]
      exact .same _

/-! ### Roles and forms -/

variable {paths : InjectedPaths} {role : Role}

theorem referenceRole_withGlobs {mutable : Bool} {x : Shape} (h : s.referenceRole paths mutable x = .ok role) :
    (s.withGlobs globs).referenceRole paths mutable x = .ok role := by
  unfold referenceRole at h ⊢
  split at h
  · split at h
    · rename_i hitem
      rw [Bool.and_eq_true] at hitem
      rw [isItem_withGlobs hmore hitem.2, hitem.1]
      exact h
    · cases h
  · split at h
    · rename_i hitem
      rw [Bool.and_eq_true] at hitem
      simp only [isItem_withGlobs hmore hitem.2, hitem.1]
      exact h
    · cases h
  · cases h
  · cases h
  · cases h

/-- A type that has a role has it with more globs too: no role rests on a name that is not known. -/
theorem roleOf_withGlobs {x x' : Shape} (hwidens : x.Widens x') (h : s.roleOf paths x = .ok role) :
    (s.withGlobs globs).roleOf paths x' = .ok role := by
  cases hwidens with
  | same =>
    cases x with
    | reference mutable target => exact referenceRole_withGlobs hmore h
    | _ => exact h
  | known text name => cases h
  | bound name object => cases h
  | boxed hinner =>
    cases hinner with
    | same => exact h
    | known | bound | boxed | reference => cases h
  | reference mutable htarget =>
    cases htarget with
    | same => exact referenceRole_withGlobs hmore h
    | bound name object => cases object <;> cases mutable <;> cases h
    | known | boxed | reference => cases h

theorem roleOf_shape_withGlobs {t : TypeExpr} (h : s.roleOf paths (s.shape t) = .ok role) :
    (s.withGlobs globs).roleOf paths ((s.withGlobs globs).shape t) = .ok role :=
  roleOf_withGlobs hmore (widens_shapeWithin hmore aliasLimit t) h

theorem parameterForms_withGlobs {taken : List Injected} {ps : List Parameter} {forms : List ParameterForm}
    (h : s.parameterForms paths taken ps = .ok forms) :
    (s.withGlobs globs).parameterForms paths taken ps = .ok forms := by
  induction ps generalizing taken forms with
  | nil => exact h
  | cons p ps ih =>
    obtain ⟨form, rest, ⟨mark, type, rfl, hrole⟩, hnew, hrest, rfl⟩ := parameterForms_cons_ok h
    have hform : (s.withGlobs globs).HasForm paths (.typed form.name mark type) form :=
      ⟨mark, type, rfl, roleOf_shape_withGlobs hmore hrole⟩
    rw [hform.parameterForms_cons hnew, ih hrest]
    rfl

/-- A function that has a form has the same form with more globs. -/
theorem formOf_withGlobs {file : ModuleFile} {f : Function} {form : HandlerForm} (h : s.formOf paths file f = .ok form) :
    (s.withGlobs globs).formOf paths file f = .ok form := by
  obtain ⟨hfault, hname, hposition, hparameters, hresults⟩ := formOf_eq_ok_iff.mp h
  have htypes : ∀ name, (s.withGlobs globs).types.get? name = s.types.get? name := fun _ => rfl
  exact formOf_eq_ok_iff.mpr ⟨hfault, hname, hposition, parameterForms_withGlobs hmore hparameters,
    (resultRoles_congr htypes f.signature.output).trans hresults⟩

end Scope

/-! ### One more glob import -/

/-- The declaration that imports all names of a module. -/
def globItem (mark : Mark) (m : ModulePath) : Item :=
  .use mark (WrittenLeaf.tree ⟨m, .glob⟩)

theorem entries_globItem (file : ModuleFile) (mark : Mark) (m : ModulePath) :
    (globItem mark m).entries file = [.imports (file.position mark) (.glob m)] := by
  rw [globItem, Item.entries, WrittenLeaf.leaves_tree]
  rfl

namespace Scope

variable {s : Scope} {front back : List ScopeEntry} {position : Position} {m : ModulePath}

/-- With one more glob among its entries a module has a scope that differs by globs alone. -/
theorem exists_withGlobs (h : (front ++ back).foldlM addEntry empty = .ok s) :
    ∃ s', (front ++ .imports position (.glob m) :: back).foldlM addEntry empty = .ok s' ∧
      (∀ m' ∈ s.globs, m' ∈ s'.globs) ∧ (s.withGlobs s'.globs).Agrees s' := by
  have hcollects := collects_of_foldlM h
  -- Only globs are told apart by the entry.
  have hmem (e : ScopeEntry) (he : ∀ position, e ≠ .imports position (.glob m)) :
      e ∈ front ++ .imports position (.glob m) :: back ↔ e ∈ front ++ back := by
    simp [he position]
  have hagree : ImportsAgree (front ++ .imports position (.glob m) :: back) := by
    intro name path path' place place' hpath hpath'
    rw [hmem _ (by simp)] at hpath hpath'
    exact hcollects.importsAgree name path path' place place' hpath hpath'
  obtain ⟨s', hs'⟩ := exists_foldlM_of_importsAgree hagree
  have hcollects' := collects_of_foldlM hs'
  refine ⟨s', hs', fun m' hm' => ?_, ?_, ?_, ?_, fun _ => Iff.rfl⟩
  · obtain ⟨place, hplace⟩ := (hcollects.globs m').mp hm'
    refine (hcollects'.globs m').mpr ⟨place, ?_⟩
    rcases List.mem_append.mp hplace with hfront | hback
    · exact List.mem_append_left _ hfront
    · exact List.mem_append_right _ (List.mem_cons_of_mem _ hback)
  · intro name
    refine (hcollects.types name).trans ((hcollects'.types name).trans ?_).symm
    rw [List.filterMap_append, List.filterMap_append, List.filterMap_cons]
    rfl
  · intro name
    exact (hcollects.modules name).trans ((hcollects'.modules name).trans (hmem _ (by simp))).symm
  · intro name
    refine Option.ext fun path => ?_
    refine (hcollects.imports name path).trans ((hcollects'.imports name path).trans ?_).symm
    exact exists_congr fun place => hmem _ (by simp)

theorem exists_scope_globItem {before after : List ModuleFile} {path : String} {front back : List Item}
    (h : ofFiles (before ++ ⟨path, front ++ back⟩ :: after) = .ok s) (mark : Mark) (m : ModulePath) :
    ∃ s', ofFiles (before ++ ⟨path, front ++ globItem mark m :: back⟩ :: after) = .ok s' ∧
      (∀ m' ∈ s.globs, m' ∈ s'.globs) ∧ (s.withGlobs s'.globs).Agrees s' := by
  simp only [ofFiles_eq_foldlM, List.flatMap_append, List.flatMap_cons, ModuleFile.entries_mk, entries_globItem,
    List.append_assoc, List.singleton_append] at h ⊢
  rw [← List.append_assoc] at h ⊢
  exact exists_withGlobs h

end Scope

/-- The function declared in a file of which the path alone is known. -/
def DeclaredFunction.bare (d : DeclaredFunction) : DeclaredFunction := ⟨⟨d.file.path, []⟩, d.function⟩

theorem handlerForms_bare (s : Scope) (paths : InjectedPaths) (ds : List DeclaredFunction) :
    handlerForms s paths (ds.map (·.bare)) = handlerForms s paths ds := by
  induction ds with
  | nil => rfl
  | cons d ds ih =>
    have hform : s.formOf paths d.bare.file d.bare.function = s.formOf paths d.file d.function := rfl
    have hcandidate : d.bare.function.isCandidate = d.function.isCandidate := rfl
    rw [List.map_cons, handlerForms, handlerForms, hform, hcandidate, ih]

theorem handlerForms_withGlobs {s : Scope} {globs : List ModulePath} (hmore : ∀ m ∈ s.globs, m ∈ globs)
    {paths : InjectedPaths} {ds : List DeclaredFunction} {forms : List HandlerForm}
    (h : handlerForms s paths ds = .ok forms) : handlerForms (s.withGlobs globs) paths ds = .ok forms := by
  induction ds generalizing forms with
  | nil => exact h
  | cons d ds ih =>
    by_cases hcandidate : d.function.isCandidate = true
    · obtain ⟨form, rest, hform, hrest, rfl⟩ := handlerForms_cons_ok hcandidate h
      rw [handlerForms_cons_of_candidate hcandidate, Scope.formOf_withGlobs hmore hform, ih hrest]
      rfl
    · rw [handlerForms_cons_of_not_candidate hcandidate] at h ⊢
      exact ih h

theorem bare_declaredFunctions_globItem (before after : List ModuleFile) (path : String) (front back : List Item)
    (mark : Mark) (m : ModulePath) :
    (declaredFunctions (before ++ ⟨path, front ++ globItem mark m :: back⟩ :: after)).map (·.bare) =
      (declaredFunctions (before ++ ⟨path, front ++ back⟩ :: after)).map (·.bare) := by
  simp only [declaredFunctions, List.flatMap_append, List.flatMap_cons, List.map_append, List.map_map,
    ModuleFile.functions, List.filterMap_append, List.filterMap_cons, globItem]
  rfl

/-- The glob import in a file that is the same otherwise. -/
theorem analyze_globItem {o : Conventions} {before after : List ModuleFile} {path : String} {front back : List Item}
    {c : DispatchContext} (h : analyze o (before ++ ⟨path, front ++ back⟩ :: after) = .ok c) (mark : Mark)
    (m : ModulePath) : analyze o (before ++ ⟨path, front ++ globItem mark m :: back⟩ :: after) = .ok c := by
  obtain ⟨s, forms, hs, hforms, rfl⟩ := analyze_ok h
  obtain ⟨s', hs', hmore, hagree⟩ := Scope.exists_scope_globItem hs mark m
  refine analyze_of_forms (by simp) hs' ?_
  rw [← hagree.handlerForms, ← handlerForms_bare, bare_declaredFunctions_globItem, handlerForms_bare]
  exact handlerForms_withGlobs hmore hforms

/-- A module that can be analysed can be analysed with one more glob import anywhere in one of its files, and its context is
the same but for the places of its handlers: its descriptors, imports and aliases do not change. What a path resolves to
does not change either; only a path that did not resolve can now be a name that a glob supplies. -/
theorem analyze_addGlob {o : Conventions} (before after : List ModuleFile) {path : String} {front back : List Item}
    {c : DispatchContext} (h : analyze o (before ++ ⟨path, front ++ back⟩ :: after) = .ok c) (mark : Mark)
    (m : ModulePath) {file : ModuleFile}
    (hfile : file.unmarked = ModuleFile.unmarked ⟨path, front ++ globItem mark m :: back⟩) :
    (∃ c', analyze o (before ++ file :: after) = .ok c' ∧ c'.unmarked = c.unmarked) ∧
    ∃ s s', Scope.ofFiles (before ++ ⟨path, front ++ back⟩ :: after) = .ok s ∧
      Scope.ofFiles (before ++ file :: after) = .ok s' ∧
      ∀ p, s'.resolve p = s.resolve p ∨ s.resolve p = .unresolved ∧ ∃ name, s'.resolve p = .glob name := by
  have hunmarked : (before ++ ⟨path, front ++ globItem mark m :: back⟩ :: after).map (·.unmarked) =
      (before ++ file :: after).map (·.unmarked) := by
    rw [List.map_append, List.map_append, List.map_cons, List.map_cons, hfile]
  constructor
  · have halike := analyze_unmarked o (before ++ ⟨path, front ++ globItem mark m :: back⟩ :: after)
    rw [hunmarked, analyze_unmarked] at halike
    exact (outcome_of_left_out halike.symm).1 c (analyze_globItem h mark m)
  · obtain ⟨s, -, hs, -, -⟩ := analyze_ok h
    obtain ⟨s', hs', hmore, hagree⟩ := Scope.exists_scope_globItem hs mark m
    have halike := Scope.ofFiles_unmarked (before ++ ⟨path, front ++ globItem mark m :: back⟩ :: after)
    rw [hunmarked, Scope.ofFiles_unmarked] at halike
    obtain ⟨s'', hs'', hsame⟩ := (outcome_of_left_out halike.symm).1 s' hs'
    refine ⟨s, s'', hs, hs'', fun p => ?_⟩
    have hresolve : s''.resolve p = (s.withGlobs s'.globs).resolve p := by
      rw [← s''.agrees_unmarked.sameNames.resolve, hsame, s'.agrees_unmarked.sameNames.resolve, hagree.sameNames.resolve]
    rw [hresolve]
    exact Scope.widens_resolve hmore p

/-- A module that knows the request by one glob only, and another glob in front of it. -/
theorem analyze_addGlob_request :
    let o : Conventions := .ofModule "h"
    let type (name : String) : TypeExpr := .path ⟨false, [], ⟨name, .none⟩⟩
    let items (line : Nat) : List Item :=
      [.use ⟨line, 1⟩ (.path "handlergen" (.path "transport" .glob)),
        .function ⟨"f", ⟨line + 1, 8⟩, true, ⟨false, false, false, false, false,
          [.typed "r" ⟨line + 1, 13⟩ (.reference false (type "Request")), .typed "x" ⟨line + 1, 26⟩ (type "Thing")], none⟩⟩]
    ∃ c c', analyze o [⟨"a.rs", items 1⟩] = .ok c ∧
      analyze o [⟨"a.rs", globItem ⟨1, 1⟩ ["models"] :: items 2⟩] = .ok c' ∧
      c.descriptors.map (fun d => d.parameters.map (·.role)) = [[.injected .request, .dataByValue "Thing"]] ∧
      c'.unmarked = c.unmarked := by
  intro o type items
  let file : ModuleFile := ⟨"a.rs", items 1⟩
  let form : HandlerForm :=
    ⟨"f", ⟨"a.rs", ⟨2, 8⟩⟩, [⟨"r", .injected .request⟩, ⟨"x", .byValue (.named (.glob "Thing"))⟩], [], false⟩
  let s : Scope := ⟨[], [], [], [["handlergen", "transport"]]⟩
  have hs : Scope.ofFiles [file] = .ok s := rfl
  have hforms : handlerForms s o.injectedPaths (declaredFunctions [file]) = .ok [form] := by
    have hrequestNamed : s.IsNamed ⟨false, [], ⟨"Request", .none⟩⟩ (.glob "Request") :=
      Scope.isNamed_of_resolve rfl rfl trivial (by decide) (by decide) (by decide)
    have hthingNamed : s.IsNamed ⟨false, [], ⟨"Thing", .none⟩⟩ (.glob "Thing") :=
      Scope.isNamed_of_resolve rfl rfl trivial (by decide) (by decide) (by decide)
    have hrequest : s.roleOf o.injectedPaths (s.shape (.reference false (type "Request"))) = .ok (.injected .request) := by
      refine Scope.roleOf_eq_injected_iff.mpr ⟨.glob "Request", ?_, by decide⟩
      rw [Scope.shape, Scope.shapeWithin, Scope.shapeWithin_named hrequestNamed]
      rfl
    have hthing : s.roleOf o.injectedPaths (s.shape (type "Thing")) = .ok (.byValue (.named (.glob "Thing"))) := by
      rw [Scope.shape, Scope.shapeWithin_named hthingNamed]
      rfl
    have hdeclared : declaredFunctions [file] = [⟨file, ⟨"f", ⟨2, 8⟩, true, ⟨false, false, false, false, false,
        [.typed "r" ⟨2, 13⟩ (.reference false (type "Request")), .typed "x" ⟨2, 26⟩ (type "Thing")], none⟩⟩⟩] := rfl
    rw [hdeclared, handlerForms]
    simp only [Scope.formOf, Scope.parameterForms, hrequest, hthing]
    rfl
  have h : analyze o [file] = .ok (contextOf o [form]) := analyze_of_forms (by simp) hs hforms
  have hfile : ModuleFile.unmarked ⟨"a.rs", globItem ⟨1, 1⟩ ["models"] :: items 2⟩ =
      ModuleFile.unmarked ⟨"a.rs", [] ++ globItem ⟨1, 1⟩ ["models"] :: items 1⟩ := rfl
  obtain ⟨⟨c', hc', hsame⟩, -⟩ := analyze_addGlob [] [] h ⟨1, 1⟩ ["models"] hfile
  exact ⟨_, c', h, hc', by decide, hsame⟩

end Switchboard
