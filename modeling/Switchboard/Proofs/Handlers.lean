import Mathlib.Data.List.Forall2
import Switchboard.Proofs.ImportTable
import Switchboard.Analysis

/-! # Where descriptors come from

An analysis that succeeds has a scope and a form for each public function, in order, and describes the forms one after
another while its import table grows. So each descriptor belongs to one function, and each of its parameters to the
parameter that the function declares in that place: under the same name, and in the role that the type of the
parameter has. -/

namespace Switchboard

open Source

/-- Each element on the right is related to one on the left. -/
theorem exists_of_forall₂ {α β : Type} {R : α → β → Prop} {xs : List α} {ys : List β} (h : List.Forall₂ R xs ys) :
    ∀ y ∈ ys, ∃ x ∈ xs, R x y := by
  induction h with
  | nil => simp
  | cons hxy _ ih =>
    intro y hy
    rcases List.mem_cons.mp hy with rfl | hy
    · exact ⟨_, List.mem_cons_self, hxy⟩
    · obtain ⟨x, hx, hr⟩ := ih y hy
      exact ⟨x, List.mem_cons_of_mem _ hx, hr⟩

theorem forall₂_trans {α β γ : Type} {R : α → β → Prop} {S : β → γ → Prop} {T : α → γ → Prop}
    (htrans : ∀ x y z, R x y → S y z → T x z) {xs : List α} {ys : List β} {zs : List γ} (h : List.Forall₂ R xs ys)
    (h' : List.Forall₂ S ys zs) : List.Forall₂ T xs zs := by
  induction h generalizing zs with
  | nil =>
    cases h'
    exact .nil
  | cons hxy _ ih =>
    cases h' with
    | cons hyz htail => exact .cons (htrans _ _ _ hxy hyz) (ih htail)

theorem ok_of_map {ε α β : Type} {f : α → β} {x : Except ε α} {b : β} (h : x.map f = .ok b) : ∃ a, x = .ok a ∧ b = f a := by
  cases x with
  | ok a => exact ⟨a, rfl, (Except.ok.inj h).symm⟩
  | error e => cases h

theorem error_of_map {ε α β : Type} {f : α → β} {x : Except ε α} {e : ε} (h : x.map f = .error e) : x = .error e := by
  cases x with
  | ok a => cases h
  | error e' => exact congrArg Except.error (Except.error.inj h)

/-! ### Forms -/

/-- A form of a parameter has its name and the role of its type. -/
def Scope.HasForm (s : Scope) (paths : InjectedPaths) (p : Parameter) (form : ParameterForm) : Prop :=
  ∃ mark type, p = .typed form.name mark type ∧ s.roleOf paths (s.shape type) = .ok form.role

theorem Scope.parameterForms_ok {s : Scope} {paths : InjectedPaths} {taken : List Injected} {ps : List Parameter}
    {forms : List ParameterForm} (h : s.parameterForms paths taken ps = .ok forms) :
    List.Forall₂ (s.HasForm paths) ps forms := by
  induction ps generalizing taken forms with
  | nil =>
    simp only [parameterForms, Except.ok.injEq] at h
    subst h
    exact .nil
  | cons p ps ih =>
    cases p with
    | receiver mark => simp [parameterForms] at h
    | typed name mark type =>
      rw [parameterForms] at h
      cases hrole : s.roleOf paths (s.shape type) with
      | error fault => simp [hrole] at h
      | ok role =>
        -- Whatever the role is, the forms of the other parameters follow the one of the first.
        have found : ∃ taken' rest, s.parameterForms paths taken' ps = .ok rest ∧ forms = ⟨name, role⟩ :: rest := by
          simp only [hrole] at h
          split at h
          · simp at h
          · rename_i what heq
            rw [Except.ok.injEq] at heq
            split at h
            · simp at h
            · split at h
              · rename_i rest hrest
                exact ⟨_, rest, hrest, by rw [heq]; simpa using h.symm⟩
              · simp at h
          · rename_i role' _ heq
            rw [Except.ok.injEq] at heq
            split at h
            · rename_i rest hrest
              exact ⟨_, rest, hrest, by rw [heq]; simpa using h.symm⟩
            · simp at h
        obtain ⟨taken', rest, hrest, rfl⟩ := found
        exact .cons ⟨mark, type, rfl, hrole⟩ (ih hrest)

/-- All that a form says of its function. -/
theorem Scope.formOf_eq_ok_iff {s : Scope} {paths : InjectedPaths} {file : ModuleFile} {f : Function} {form : HandlerForm} :
    s.formOf paths file f = .ok form ↔
      f.signature.fault? = none ∧ form.name = f.name ∧ form.position = file.position f.mark ∧
        s.parameterForms paths [] f.signature.parameters = .ok form.parameters ∧
        s.resultRoles f.signature.output = (form.results, form.returnsTuple) := by
  obtain ⟨name, position, parameters, results, returnsTuple⟩ := form
  unfold formOf
  cases f.signature.fault? with
  | some fault => simp
  | none =>
    cases s.parameterForms paths [] f.signature.parameters with
    | error e => simp
    | ok forms =>
      simp only [Except.ok.injEq, HandlerForm.mk.injEq, Prod.ext_iff, true_and]
      simp only [eq_comm]

theorem Scope.formOf_ok {s : Scope} {paths : InjectedPaths} {file : ModuleFile} {f : Function} {form : HandlerForm}
    (h : s.formOf paths file f = .ok form) :
    f.signature.fault? = none ∧ form.name = f.name ∧
      List.Forall₂ (s.HasForm paths) f.signature.parameters form.parameters := by
  obtain ⟨hfault, hname, -, hparameters, -⟩ := formOf_eq_ok_iff.mp h
  exact ⟨hfault, hname, parameterForms_ok hparameters⟩

section
variable {s : Scope} {paths : InjectedPaths} {d : DeclaredFunction} {ds : List DeclaredFunction}

theorem handlerForms_cons_of_candidate (h : d.function.isCandidate = true) : handlerForms s paths (d :: ds) =
    (s.formOf paths d.file d.function).bind fun form => (handlerForms s paths ds).map (form :: ·) := by
  rw [handlerForms, if_pos h]
  cases s.formOf paths d.file d.function with
  | error r => rfl
  | ok form => cases handlerForms s paths ds <;> rfl

theorem handlerForms_cons_of_not_candidate (h : ¬d.function.isCandidate = true) :
    handlerForms s paths (d :: ds) = handlerForms s paths ds := by
  rw [handlerForms, if_neg h]

theorem handlerForms_cons_ok {forms : List HandlerForm} (hcandidate : d.function.isCandidate = true)
    (h : handlerForms s paths (d :: ds) = .ok forms) : ∃ form rest,
      s.formOf paths d.file d.function = .ok form ∧ handlerForms s paths ds = .ok rest ∧ forms = form :: rest := by
  rw [handlerForms_cons_of_candidate hcandidate] at h
  cases hform : s.formOf paths d.file d.function with
  | error r =>
    rw [hform] at h
    cases h
  | ok form =>
    rw [hform] at h
    obtain ⟨rest, hrest, rfl⟩ := ok_of_map h
    exact ⟨form, rest, rfl, hrest, rfl⟩

/-- The forms of a module are those of its public functions, in order. -/
theorem handlerForms_ok {forms : List HandlerForm} (h : handlerForms s paths ds = .ok forms) :
    List.Forall₂ (fun (d : DeclaredFunction) form => s.formOf paths d.file d.function = .ok form)
      (ds.filter (·.function.isCandidate)) forms := by
  induction ds generalizing forms with
  | nil =>
    cases h
    exact .nil
  | cons d ds ih =>
    rw [List.filter_cons]
    by_cases hcandidate : d.function.isCandidate = true
    · obtain ⟨form, rest, hform, hrest, rfl⟩ := handlerForms_cons_ok hcandidate h
      rw [if_pos hcandidate]
      exact .cons hform (ih hrest)
    · rw [handlerForms_cons_of_not_candidate hcandidate] at h
      rw [if_neg hcandidate]
      exact ih h

/-- A module has no forms because of the first of its public functions that is rejected. -/
theorem handlerForms_eq_error_iff {r : HandlerRejection} : handlerForms s paths ds = .error r ↔ ∃ front d back,
    ds = front ++ d :: back ∧ d.function.isCandidate = true ∧ s.formOf paths d.file d.function = .error r ∧
      ∀ d' ∈ front, d'.function.isCandidate = true → ∃ form, s.formOf paths d'.file d'.function = .ok form := by
  constructor
  · intro h
    induction ds with
    | nil => cases h
    | cons d ds ih =>
      by_cases hcandidate : d.function.isCandidate = true
      · rw [handlerForms_cons_of_candidate hcandidate] at h
        cases hform : s.formOf paths d.file d.function with
        | error r' =>
          rw [hform] at h
          cases h
          exact ⟨[], d, ds, rfl, hcandidate, hform, by simp⟩
        | ok form =>
          rw [hform] at h
          obtain ⟨front, d', back, rfl, hd', hrejected, hfront⟩ := ih (error_of_map h)
          exact ⟨d :: front, d', back, rfl, hd', hrejected, List.forall_mem_cons.mpr ⟨fun _ => ⟨form, hform⟩, hfront⟩⟩
      · rw [handlerForms_cons_of_not_candidate hcandidate] at h
        obtain ⟨front, d', back, rfl, hd', hrejected, hfront⟩ := ih h
        exact ⟨d :: front, d', back, rfl, hd', hrejected,
          List.forall_mem_cons.mpr ⟨fun hd => absurd hd hcandidate, hfront⟩⟩
  · rintro ⟨front, d, back, rfl, hcandidate, hrejected, hfront⟩
    induction front with
    | nil =>
      rw [List.nil_append, handlerForms_cons_of_candidate hcandidate, hrejected]
      rfl
    | cons d' front ih =>
      obtain ⟨hd', hfront⟩ := List.forall_mem_cons.mp hfront
      rw [List.cons_append]
      by_cases hcandidate' : d'.function.isCandidate = true
      · obtain ⟨form, hform⟩ := hd' hcandidate'
        rw [handlerForms_cons_of_candidate hcandidate', hform, ih hfront]
        rfl
      · rw [handlerForms_cons_of_not_candidate hcandidate']
        exact ih hfront

end

/-! ### Descriptors -/

/-- A slot has the name of its parameter, and its role under the name that some table gives the type. -/
def ParameterForm.HasSlot (form : ParameterForm) (slot : DescribedParameter) : Prop :=
  slot.sourceName = form.name ∧ ∃ t, slot.role = (form.role.named t).1

theorem nameParameters_slots (t : ImportTable) (index : Nat) (forms : List ParameterForm) :
    List.Forall₂ ParameterForm.HasSlot forms (nameParameters t index forms).1 := by
  induction forms generalizing t index with
  | nil => exact .nil
  | cons form forms ih => exact .cons ⟨rfl, t, rfl⟩ (ih _ _)

theorem describeAll_descriptors (t : ImportTable) (forms : List HandlerForm) :
    List.Forall₂ (fun (form : HandlerForm) d => ∃ t, d = (form.describe t).1) forms (describeAll t forms).1 := by
  induction forms generalizing t with
  | nil => exact .nil
  | cons form forms ih => exact .cons ⟨t, rfl⟩ (ih _)

theorem Role.named_eq_injected {role : Role} {t : ImportTable} {what : Injected}
    (h : (role.named t).1 = .injected what) : role = .injected what := by
  cases role with
  | byValue type => simp [Role.named] at h
  | byPointer type => simp [Role.named] at h
  | injected what' =>
    simp only [Role.named, NamedRole.injected.injEq] at h
    rw [h]

/-! ### Growth of the table -/

theorem ImportTable.extends_typeName (t : ImportTable) (type : DataType) : (t.typeName type).2.Extends t := by
  cases type with
  | scalar name => exact Extends.refl t
  | named r => exact extends_qualify t r

theorem Role.extends_named (role : Role) (t : ImportTable) : (role.named t).2.Extends t := by
  cases role with
  | byValue type => exact t.extends_typeName type
  | byPointer type => exact t.extends_typeName type
  | injected what => exact ImportTable.Extends.refl t

theorem extends_nameParameters (t : ImportTable) (index : Nat) (forms : List ParameterForm) :
    (nameParameters t index forms).2.Extends t := by
  induction forms generalizing t index with
  | nil => exact ImportTable.Extends.refl t
  | cons form forms ih => exact (ih _ _).trans (form.role.extends_named t)

theorem HandlerForm.extends_describe (form : HandlerForm) (t : ImportTable) : (form.describe t).2.Extends t :=
  extends_nameParameters t 0 form.parameters

theorem extends_describeAll (t : ImportTable) (forms : List HandlerForm) : (describeAll t forms).2.Extends t := by
  induction forms generalizing t with
  | nil => exact ImportTable.Extends.refl t
  | cons form forms ih => exact (ih _).trans (form.extends_describe t)

/-! ### A whole analysis -/

theorem analyze_ok {o : Conventions} {files : List ModuleFile} {c : DispatchContext} (h : analyze o files = .ok c) :
    ∃ s forms, Scope.ofFiles files = .ok s ∧
      handlerForms s o.injectedPaths (declaredFunctions files) = .ok forms ∧ c = contextOf o forms := by
  rw [analyze] at h
  split at h
  · simp at h
  · split at h
    · simp at h
    · rename_i s hs
      split at h
      · simp at h
      · rename_i forms hforms
        rw [Except.ok.injEq] at h
        exact ⟨s, forms, hs, hforms, h.symm⟩

theorem analyze_of_forms {o : Conventions} {files : List ModuleFile} (hfiles : files ≠ []) {s : Scope}
    (hs : Scope.ofFiles files = .ok s) {forms : List HandlerForm}
    (hforms : handlerForms s o.injectedPaths (declaredFunctions files) = .ok forms) :
    analyze o files = .ok (contextOf o forms) := by
  have hfiles : ¬files.isEmpty = true := by simpa using hfiles
  rw [analyze, if_neg hfiles, hs]
  simp only [hforms]

/-- The imports of a context start with the modules of the transport and of the runtime. -/
theorem extends_contextOf (o : Conventions) (forms : List HandlerForm) :
    (contextOf o forms).imports.Extends (.seeded o.transportPath o.runtimePath) :=
  extends_describeAll _ forms

theorem mem_declaredFunctions {files : List ModuleFile} {d : DeclaredFunction} (h : d ∈ declaredFunctions files) :
    d.file ∈ files ∧ d.function ∈ d.file.functions := by
  obtain ⟨file, hfile, hd⟩ := List.mem_flatMap.mp h
  obtain ⟨f, hf, rfl⟩ := List.mem_map.mp hd
  exact ⟨hfile, hf⟩

/-- A described parameter is one of a public function, and has the role of its type there. -/
theorem exists_parameter_of_mem {o : Conventions} {files : List ModuleFile} {c : DispatchContext} {s : Scope}
    (h : analyze o files = .ok c) (hs : Scope.ofFiles files = .ok s) {d : Descriptor} (hd : d ∈ c.descriptors)
    {p : DescribedParameter} (hp : p ∈ d.parameters) :
    ∃ file ∈ files, ∃ f ∈ file.functions, f.isCandidate = true ∧ d.name = f.name ∧
      ∃ mark type role t, Parameter.typed p.sourceName mark type ∈ f.signature.parameters ∧
        s.roleOf o.injectedPaths (s.shape type) = .ok role ∧ p.role = (role.named t).1 := by
  obtain ⟨s', forms, hs', hforms, rfl⟩ := analyze_ok h
  obtain rfl : s = s' := Except.ok.inj (hs.symm.trans hs')
  obtain ⟨form, hform, t, rfl⟩ := exists_of_forall₂ (describeAll_descriptors _ forms) d hd
  obtain ⟨declared, hdeclared, hof⟩ := exists_of_forall₂ (handlerForms_ok hforms) form hform
  obtain ⟨hdeclared, hcandidate⟩ := List.mem_filter.mp hdeclared
  obtain ⟨hfile, hfunction⟩ := mem_declaredFunctions hdeclared
  obtain ⟨-, hname, hparameters⟩ := Scope.formOf_ok hof
  obtain ⟨parameter, hparameter, hslot, t', hrole⟩ := exists_of_forall₂ (nameParameters_slots t 0 form.parameters) p hp
  obtain ⟨source, hsource, mark, type, rfl, htype⟩ := exists_of_forall₂ hparameters parameter hparameter
  refine ⟨declared.file, hfile, declared.function, hfunction, hcandidate, hname, mark, type, parameter.role, t', ?_,
    htype, hrole⟩
  rw [hslot]
  exact hsource

end Switchboard
