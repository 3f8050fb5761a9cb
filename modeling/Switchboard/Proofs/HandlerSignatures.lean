import Switchboard.Proofs.RenderedText

/-! # Signatures of handlers

The parameters of a function are looked at one after another. A parameter is refused if it is a receiver, if its type has no
role, or if what the transport passes for it is passed for an earlier one (`Scope.Refuses`). If none is refused the function
has a form (`parameterForms_eq_ok_iff`), and otherwise the first one that is refused is to blame
(`parameterForms_eq_error_iff`).

The descriptor of a form has all that the text of a registration relies on: a place for each parameter, and variables that
are told apart (`Descriptor.IsWellFormed`). Parameters that are accepted one by one are accepted together, unless two of them
ask the transport for the same thing (`Scope.formOf_wellFormed_or_repeated`). -/

namespace Switchboard

open Source

/-! ### What the transport passes -/

/-- What the transport passes in a role, if anything. -/
def Role.injected? : Role → Option Injected
  | injected what => some what
  | _ => none

def NamedRole.injected? : NamedRole → Option Injected
  | injected what => some what
  | _ => none

theorem Role.injected?_named (role : Role) (t : ImportTable) : (role.named t).1.injected? = role.injected? := by
  cases role <;> rfl

theorem filterMap_injected?_nameParameters (t : ImportTable) (index : Nat) (forms : List ParameterForm) :
    (nameParameters t index forms).1.filterMap (·.role.injected?) = forms.filterMap (·.role.injected?) := by
  induction forms generalizing t index with
  | nil => rfl
  | cons form forms ih => simp only [nameParameters, List.filterMap_cons, form.role.injected?_named t, ih]

/-- What has been passed behind some more parameters. -/
def takenBehind (taken : List Injected) (forms : List ParameterForm) : List Injected :=
  (forms.filterMap (·.role.injected?)).reverse ++ taken

theorem takenBehind_cons (taken : List Injected) (form : ParameterForm) (forms : List ParameterForm) :
    takenBehind taken (form :: forms) = takenBehind (form.role.injected?.toList ++ taken) forms := by
  cases h : form.role.injected? <;> simp [takenBehind, h]

theorem nodup_takenBehind_nil {forms : List ParameterForm} :
    (takenBehind [] forms).Nodup ↔ (forms.filterMap (·.role.injected?)).Nodup := by
  rw [takenBehind, List.append_nil, List.nodup_reverse]

theorem mem_takenBehind_nil {forms : List ParameterForm} {what : Injected} :
    what ∈ takenBehind [] forms ↔ what ∈ forms.filterMap (·.role.injected?) := by
  rw [takenBehind, List.append_nil, List.mem_reverse]

namespace Scope

variable {s : Scope} {paths : InjectedPaths} {taken : List Injected} {p : Parameter} {ps qs : List Parameter}
  {form : ParameterForm} {forms : List ParameterForm} {e : Mark × HandlerFault}

/-- What the transport passes for a declared parameter, if anything. -/
def injected? (s : Scope) (paths : InjectedPaths) : Parameter → Option Injected
  | .receiver _ => none
  | .typed _ _ type => (s.roleOf paths (s.shape type)).toOption.bind (·.injected?)

theorem HasForm.injected?_eq (h : s.HasForm paths p form) : s.injected? paths p = form.role.injected? := by
  obtain ⟨mark, type, rfl, hrole⟩ := h
  rw [injected?, hrole, Except.toOption, Option.bind_some]

theorem filterMap_injected? (h : List.Forall₂ (s.HasForm paths) ps forms) :
    ps.filterMap (s.injected? paths) = forms.filterMap (·.role.injected?) := by
  induction h with
  | nil => rfl
  | cons hform _ ih => rw [List.filterMap_cons, List.filterMap_cons, hform.injected?_eq, ih]

/-! ### One parameter -/

/-- Why a parameter is refused where some things have been passed already. -/
inductive Refuses (s : Scope) (paths : InjectedPaths) (taken : List Injected) : Parameter → Mark × HandlerFault → Prop where
  | receiver (mark : Mark) : Refuses s paths taken (.receiver mark) (mark, .signature .takesSelf)
  | type {name : String} {mark : Mark} {type : TypeExpr} {fault : TypeFault}
      (h : s.roleOf paths (s.shape type) = .error fault) :
      Refuses s paths taken (.typed name mark type) (mark, .parameterType name fault)
  | again {name : String} {mark : Mark} {type : TypeExpr} {what : Injected}
      (h : s.roleOf paths (s.shape type) = .ok (.injected what)) (htaken : what ∈ taken) :
      Refuses s paths taken (.typed name mark type) (mark, .duplicate name what)

theorem hasForm_or_refuses (s : Scope) (paths : InjectedPaths) (taken : List Injected) (p : Parameter) :
    (∃ form, s.HasForm paths p form ∧ ∀ what, form.role.injected? = some what → what ∉ taken) ∨
      ∃ e, s.Refuses paths taken p e := by
  cases p with
  | receiver mark => exact Or.inr ⟨_, .receiver mark⟩
  | typed name mark type =>
    cases hrole : s.roleOf paths (s.shape type) with
    | error fault => exact Or.inr ⟨_, .type hrole⟩
    | ok role =>
      by_cases hnew : ∀ what, role.injected? = some what → what ∉ taken
      · exact Or.inl ⟨⟨name, role⟩, ⟨mark, type, rfl, hrole⟩, hnew⟩
      · simp only [not_forall, not_not] at hnew
        obtain ⟨what, hwhat, htaken⟩ := hnew
        cases role with
        | byValue type => cases hwhat
        | byPointer type => cases hwhat
        | injected what' =>
          obtain rfl := Option.some.inj hwhat
          exact Or.inr ⟨_, .again hrole htaken⟩

theorem HasForm.parameterForms_cons (h : s.HasForm paths p form)
    (hnew : ∀ what, form.role.injected? = some what → what ∉ taken) :
    s.parameterForms paths taken (p :: ps) =
      (s.parameterForms paths (form.role.injected?.toList ++ taken) ps).map (form :: ·) := by
  obtain ⟨mark, type, rfl, hrole⟩ := h
  obtain ⟨name, role⟩ := form
  rw [Scope.parameterForms, hrole]
  cases role with
  | byValue type => cases htail : s.parameterForms paths taken ps <;> simp [Role.injected?, htail, Except.map]
  | byPointer type => cases htail : s.parameterForms paths taken ps <;> simp [Role.injected?, htail, Except.map]
  | injected what =>
    have hwhat : what ∉ taken := hnew what rfl
    cases htail : s.parameterForms paths (what :: taken) ps <;> simp [Role.injected?, htail, hwhat, Except.map]

theorem Refuses.parameterForms_cons (h : s.Refuses paths taken p e) : s.parameterForms paths taken (p :: ps) = .error e := by
  cases h with
  | receiver mark => rfl
  | type h => rw [Scope.parameterForms, h]
  | again h htaken =>
    rw [Scope.parameterForms, h]
    simp only [List.contains_iff_mem, htaken, if_true]

theorem parameterForms_cons_ok (h : s.parameterForms paths taken (p :: ps) = .ok forms) :
    ∃ form rest, s.HasForm paths p form ∧ (∀ what, form.role.injected? = some what → what ∉ taken) ∧
      s.parameterForms paths (form.role.injected?.toList ++ taken) ps = .ok rest ∧ forms = form :: rest := by
  rcases s.hasForm_or_refuses paths taken p with ⟨form, hform, hnew⟩ | ⟨e, hrefused⟩
  · rw [hform.parameterForms_cons hnew] at h
    obtain ⟨rest, hrest, rfl⟩ := ok_of_map h
    exact ⟨form, rest, hform, hnew, hrest, rfl⟩
  · rw [hrefused.parameterForms_cons] at h
    cases h

/-! ### All parameters -/

/-- Some parameters behind others are looked at as if they were the first, except for what has been passed by then. -/
theorem parameterForms_append (h : s.parameterForms paths taken ps = .ok forms) :
    s.parameterForms paths taken (ps ++ qs) = (s.parameterForms paths (takenBehind taken forms) qs).map (forms ++ ·) := by
  induction ps generalizing taken forms with
  | nil =>
    obtain rfl := Except.ok.inj h
    cases htail : s.parameterForms paths taken qs <;> simp [takenBehind, htail, Except.map]
  | cons p ps ih =>
    obtain ⟨form, rest, hform, hnew, hrest, rfl⟩ := parameterForms_cons_ok h
    rw [List.cons_append, hform.parameterForms_cons hnew, ih hrest, takenBehind_cons]
    cases s.parameterForms paths (takenBehind (form.role.injected?.toList ++ taken) rest) qs <;> rfl

/-- Parameters have forms if each has one by itself and no two are passed the same thing. -/
theorem parameterForms_eq_ok_iff (htaken : taken.Nodup) : s.parameterForms paths taken ps = .ok forms ↔
    List.Forall₂ (s.HasForm paths) ps forms ∧ (takenBehind taken forms).Nodup := by
  refine ⟨fun h => ⟨parameterForms_ok h, ?_⟩, ?_⟩
  · induction ps generalizing taken forms with
    | nil =>
      obtain rfl := Except.ok.inj h
      exact htaken
    | cons p ps ih =>
      obtain ⟨form, rest, -, hnew, hrest, rfl⟩ := parameterForms_cons_ok h
      rw [takenBehind_cons]
      refine ih ?_ hrest
      cases hwhat : form.role.injected? with
      | none => exact htaken
      | some what => exact List.nodup_cons.mpr ⟨hnew what hwhat, htaken⟩
  · rintro ⟨hforms, hnodup⟩
    induction hforms generalizing taken with
    | nil => rfl
    | @cons p form ps forms hform _ ih =>
      rw [takenBehind_cons] at hnodup
      have hahead : (form.role.injected?.toList ++ taken).Nodup := hnodup.of_append_right
      have hnew : ∀ what, form.role.injected? = some what → what ∉ taken := by
        intro what hwhat
        rw [hwhat] at hahead
        exact (List.nodup_cons.mp hahead).1
      rw [hform.parameterForms_cons hnew, ih hahead hnodup]
      rfl

/-- Parameters have no forms because of the first that is refused behind those before it. -/
theorem parameterForms_eq_error_iff : s.parameterForms paths taken ps = .error e ↔ ∃ front p back forms,
    ps = front ++ p :: back ∧ s.parameterForms paths taken front = .ok forms ∧
      s.Refuses paths (takenBehind taken forms) p e := by
  constructor
  · intro h
    induction ps generalizing taken with
    | nil => cases h
    | cons p ps ih =>
      rcases s.hasForm_or_refuses paths taken p with ⟨form, hform, hnew⟩ | ⟨e', hrefused⟩
      · rw [hform.parameterForms_cons hnew] at h
        obtain ⟨front, q, back, forms, rfl, hfront, hrefused⟩ := ih (error_of_map h)
        refine ⟨p :: front, q, back, form :: forms, rfl, ?_, ?_⟩
        · rw [hform.parameterForms_cons hnew, hfront]
          rfl
        · rwa [takenBehind_cons]
      · rw [hrefused.parameterForms_cons] at h
        obtain rfl := Except.error.inj h
        exact ⟨[], p, ps, [], rfl, rfl, hrefused⟩
  · rintro ⟨front, p, back, forms, rfl, hfront, hrefused⟩
    rw [parameterForms_append hfront, hrefused.parameterForms_cons]
    rfl

/-! ### A whole function -/

section
variable {file : ModuleFile} {f : Function} {form : HandlerForm} {r : HandlerRejection}

theorem exists_formOf_iff : (∃ form, s.formOf paths file f = .ok form) ↔
    f.signature.fault? = none ∧ ∃ forms, s.parameterForms paths [] f.signature.parameters = .ok forms := by
  constructor
  · rintro ⟨form, h⟩
    obtain ⟨hfault, -, -, hforms, -⟩ := formOf_eq_ok_iff.mp h
    exact ⟨hfault, form.parameters, hforms⟩
  · rintro ⟨hfault, forms, hforms⟩
    exact ⟨⟨f.name, file.position f.mark, forms, _, _⟩, formOf_eq_ok_iff.mpr ⟨hfault, rfl, rfl, hforms, rfl⟩⟩

theorem formOf_eq_error_iff (hfault : f.signature.fault? = none) : s.formOf paths file f = .error r ↔
    ∃ e, s.parameterForms paths [] f.signature.parameters = .error e ∧ r = ⟨file.position e.1, f.name, e.2⟩ := by
  unfold formOf
  rw [hfault]
  cases s.parameterForms paths [] f.signature.parameters <;> simp [eq_comm]

theorem formOf_parameterForms (h : s.formOf paths file f = .ok form) :
    s.parameterForms paths [] f.signature.parameters = .ok form.parameters :=
  (formOf_eq_ok_iff.mp h).2.2.2.1

end

end Scope

/-! ### Descriptors -/

/-- A variable shows the place of a parameter that is decoded, or else what the transport passes. -/
theorem NamedRole.eq_of_variableName {role role' : NamedRole} {i j : Nat} (h : role.variableName i = role'.variableName j) :
    i = j ∨ ∃ what, role.injected? = some what ∧ role'.injected? = some what := by
  cases role <;> cases role'
  case injected.injected what what' =>
    obtain rfl := Injected.variableName_injective h
    exact Or.inr ⟨what, rfl, rfl⟩
  case injected.dataByValue | injected.dataByPointer => exact absurd h.symm (parameterVariable_ne_injected _ _)
  case dataByValue.injected | dataByPointer.injected => exact absurd h (parameterVariable_ne_injected _ _)
  all_goals exact Or.inl (parameterVariable_injective h)

namespace Descriptor

variable {d : Descriptor}

theorem IsNumbered.nodup_parameterVariables (h : d.IsNumbered)
    (hinjected : (d.parameters.filterMap (·.role.injected?)).Nodup) : (d.parameters.map (·.variableName)).Nodup := by
  rw [List.Nodup, List.pairwise_filterMap, List.pairwise_iff_getElem] at hinjected
  rw [List.Nodup, List.pairwise_map, List.pairwise_iff_getElem]
  intro i j hi hj hij heq
  rw [h.parameters i _ (List.getElem?_eq_getElem hi), h.parameters j _ (List.getElem?_eq_getElem hj)] at heq
  rcases NamedRole.eq_of_variableName heq with rfl | ⟨what, hwhat, hwhat'⟩
  · exact Nat.lt_irrefl i hij
  · exact hinjected i j hi hj hij what hwhat what hwhat' rfl

theorem IsNumbered.nodup_variables (h : d.IsNumbered) (hinjected : (d.parameters.filterMap (·.role.injected?)).Nodup) :
    (d.parameters.map (·.variableName) ++ d.results.map (·.variableName)).Nodup := by
  refine List.nodup_append.mpr ⟨h.nodup_parameterVariables hinjected, h.nodup_resultVariables, fun v hv v' hv' => ?_⟩
  obtain ⟨p, hp, rfl⟩ := List.mem_map.mp hv
  obtain ⟨j, rfl⟩ := h.exists_resultVariable hv'
  rcases h.variable_mem hp with hdata | hpassed
  · obtain ⟨i, hi⟩ := h.exists_parameterVariable hdata
    rw [hi]
    exact parameterVariable_ne_resultVariable i j
  · have hfixed : ∀ name ∈ ["w", "r"], name ∈ fixedNames := by decide
    exact fun heq => resultVariable_not_fixed j (heq ▸ hfixed _ hpassed)

/-- What the text of a registration relies on: each variable is named for its place and what is decoded is counted, the
transport passes nothing twice, the results come as they are counted, and no two variables are the same. -/
structure IsWellFormed (d : Descriptor) : Prop where
  numbered : d.IsNumbered
  injected_nodup : (d.parameters.filterMap (·.role.injected?)).Nodup
  returns : d.ReturnsAsCounted
  nodup_variables : (d.parameters.map (·.variableName) ++ d.results.map (·.variableName)).Nodup

end Descriptor

/-! ### Functions -/

/-- The function with other parameters. -/
def Source.Function.withParameters (f : Function) (parameters : List Parameter) : Function :=
  { f with signature := { f.signature with parameters } }

namespace Scope

variable {s : Scope} {paths : InjectedPaths} {file : ModuleFile} {f : Function} {form : HandlerForm}

theorem isWellFormed_describe (h : s.formOf paths file f = .ok form) (t : ImportTable) : (form.describe t).1.IsWellFormed := by
  have hnumbered := form.isNumbered_describe t
  have hinjected : ((form.describe t).1.parameters.filterMap (·.role.injected?)).Nodup := by
    have hnodup := ((parameterForms_eq_ok_iff List.nodup_nil).mp (formOf_parameterForms h)).2
    rw [nodup_takenBehind_nil] at hnodup
    rwa [HandlerForm.describe, filterMap_injected?_nameParameters]
  exact ⟨hnumbered, hinjected, returnsAsCounted h t, hnumbered.nodup_variables hinjected⟩

/-- The parameters of a descriptor are those of its function, one for one. -/
theorem slots_describe (h : s.formOf paths file f = .ok form) (t : ImportTable) :
    List.Forall₂ (fun p slot => ∃ form : ParameterForm, s.HasForm paths p form ∧ form.HasSlot slot)
      f.signature.parameters (form.describe t).1.parameters :=
  forall₂_trans (fun _ form _ hform hslot => ⟨form, hform, hslot⟩) (formOf_ok h).2.2 (nameParameters_slots t 0 form.parameters)

theorem exists_formOf_alone_iff {p : Parameter} : (∃ form, s.formOf paths file (f.withParameters [p]) = .ok form) ↔
    f.signature.fault? = none ∧ ∃ form, s.HasForm paths p form := by
  rw [exists_formOf_iff]
  refine and_congr_right fun _ => ⟨?_, ?_⟩
  · rintro ⟨forms, hforms⟩
    obtain ⟨form, _, hform, -⟩ := List.forall₂_cons_left_iff.mp (parameterForms_ok hforms)
    exact ⟨form, hform⟩
  · rintro ⟨form, hform⟩
    exact ⟨[form], hform.parameterForms_cons fun _ _ => List.not_mem_nil⟩

theorem exists_forms {ps : List Parameter} (h : ∀ p ∈ ps, ∃ form, s.HasForm paths p form) :
    ∃ forms, List.Forall₂ (s.HasForm paths) ps forms := by
  induction ps with
  | nil => exact ⟨[], .nil⟩
  | cons p ps ih =>
    obtain ⟨⟨form, hform⟩, hps⟩ := List.forall_mem_cons.mp h
    obtain ⟨forms, hforms⟩ := ih hps
    exact ⟨form :: forms, .cons hform hforms⟩

/-- Where each parameter has a form, the first that is refused is a second one of its kind. -/
theorem parameterForms_eq_error_iff_again {ps : List Parameter} (h : ∀ p ∈ ps, ∃ form, s.HasForm paths p form)
    {e : Mark × HandlerFault} : s.parameterForms paths [] ps = .error e ↔ ∃ front name mark type back what,
      ps = front ++ .typed name mark type :: back ∧ s.roleOf paths (s.shape type) = .ok (.injected what) ∧
      (front.filterMap (s.injected? paths)).Nodup ∧ what ∈ front.filterMap (s.injected? paths) ∧
      e = (mark, .duplicate name what) := by
  rw [parameterForms_eq_error_iff]
  constructor
  · rintro ⟨front, p, back, forms, rfl, hfront, hrefused⟩
    obtain ⟨hforms, hnodup⟩ := (parameterForms_eq_ok_iff List.nodup_nil).mp hfront
    obtain ⟨form, mark, type, rfl, hform⟩ := h p (by simp)
    rw [nodup_takenBehind_nil, ← filterMap_injected? hforms] at hnodup
    cases hrefused with
    | type hrole =>
      rw [hrole] at hform
      cases hform
    | again hrole htaken =>
      rw [mem_takenBehind_nil, ← filterMap_injected? hforms] at htaken
      exact ⟨front, _, mark, type, back, _, rfl, hrole, hnodup, htaken, rfl⟩
  · rintro ⟨front, name, mark, type, back, what, rfl, hrole, hnodup, htaken, rfl⟩
    obtain ⟨forms, hforms⟩ := exists_forms fun p hp => h p (List.mem_append_left _ hp)
    rw [filterMap_injected? hforms] at hnodup htaken
    exact ⟨front, _, back, forms, rfl,
      (parameterForms_eq_ok_iff List.nodup_nil).mpr ⟨hforms, nodup_takenBehind_nil.mpr hnodup⟩,
      .again hrole (mem_takenBehind_nil.mpr htaken)⟩

/-- A function that has a form has a well-formed descriptor, with a place for each of its parameters in the role of its type,
whatever has been imported. And if neither the signature as a whole nor any of its parameters alone is refused, the function
can only be rejected for a parameter that is passed the same as one before it, and then for the first such parameter. -/
theorem formOf_wellFormed_or_repeated (s : Scope) (paths : InjectedPaths) (file : ModuleFile) (f : Function) :
    (∀ form, s.formOf paths file f = .ok form → ∀ t : ImportTable,
      List.Forall₂ (fun p slot => ∃ form : ParameterForm, s.HasForm paths p form ∧ form.HasSlot slot)
        f.signature.parameters (form.describe t).1.parameters ∧
      (form.describe t).1.IsWellFormed) ∧
    (f.signature.fault? = none →
      (∀ p ∈ f.signature.parameters, ∃ form, s.formOf paths file (f.withParameters [p]) = .ok form) →
      ∀ r, s.formOf paths file f = .error r ↔ ∃ front name mark type back what,
        f.signature.parameters = front ++ .typed name mark type :: back ∧
        s.roleOf paths (s.shape type) = .ok (.injected what) ∧
        (front.filterMap (s.injected? paths)).Nodup ∧ what ∈ front.filterMap (s.injected? paths) ∧
        r = ⟨file.position mark, f.name, .duplicate name what⟩) := by
  refine ⟨fun form h t => ⟨slots_describe h t, isWellFormed_describe h t⟩, fun hfault halone r => ?_⟩
  have hforms : ∀ p ∈ f.signature.parameters, ∃ form, s.HasForm paths p form := fun p hp =>
    (exists_formOf_alone_iff.mp (halone p hp)).2
  rw [formOf_eq_error_iff hfault]
  constructor
  · rintro ⟨e, he, rfl⟩
    obtain ⟨front, name, mark, type, back, what, hsplit, hrole, hnodup, htaken, rfl⟩ :=
      (parameterForms_eq_error_iff_again hforms).mp he
    exact ⟨front, name, mark, type, back, what, hsplit, hrole, hnodup, htaken, rfl⟩
  · rintro ⟨front, name, mark, type, back, what, hsplit, hrole, hnodup, htaken, rfl⟩
    exact ⟨_, (parameterForms_eq_error_iff_again hforms).mpr
      ⟨front, name, mark, type, back, what, hsplit, hrole, hnodup, htaken, rfl⟩, rfl⟩

/-- A number between two response writers: the second writer is rejected, and without it the function has a form. -/
theorem formOf_second_writer :
    let number : TypeExpr := .path ⟨false, [], ⟨"u8", .none⟩⟩
    let writer : TypeExpr := .reference true (.object [.trait ⟨false, [], ⟨"ResponseWriter", .none⟩⟩])
    let s : Scope := ⟨[], [], [("ResponseWriter", ⟨["handlergen", "transport", "ResponseWriter"], ⟨"h.rs", ⟨1, 1⟩⟩⟩)], []⟩
    let front : List Parameter := [.typed "w" ⟨2, 13⟩ writer, .typed "a" ⟨2, 40⟩ number]
    let f : Function := ⟨"f", ⟨2, 8⟩, true, ⟨false, false, false, false, false, front ++ [.typed "v" ⟨2, 47⟩ writer], none⟩⟩
    let paths := (Conventions.ofModule "h").injectedPaths
    s.formOf paths ⟨"h.rs", []⟩ f = .error ⟨⟨"h.rs", ⟨2, 47⟩⟩, "f", .duplicate "v" .responseWriter⟩ ∧
      ∃ form, s.formOf paths ⟨"h.rs", []⟩ (f.withParameters front) = .ok form ∧
        ∀ t, (form.describe t).1.IsWellFormed ∧ (form.describe t).1.parameters.map (·.variableName) = ["w", "a1"] := by
  intro number writer s front f paths
  have hnumber : s.roleOf paths (s.shape number) = .ok (.byValue (.scalar "u8")) := by
    have hscalar : s.IsScalar ⟨false, [], ⟨"u8", .none⟩⟩ "u8" := ⟨rfl, Or.inl ⟨⟨rfl, rfl, by decide⟩, by decide⟩⟩
    rw [shape, shapeWithin_scalar hscalar]
    rfl
  have hwriter : s.roleOf paths (s.shape writer) = .ok (.injected .responseWriter) := by
    refine roleOf_eq_injected_iff.mpr ⟨.external ["handlergen", "transport"] "ResponseWriter", ?_, by decide⟩
    rw [shape, shapeWithin, shapeWithin]
    rfl
  have hfront : s.parameterForms paths [] front = .ok [⟨"w", .injected .responseWriter⟩, ⟨"a", .byValue (.scalar "u8")⟩] := by
    simp only [front, parameterForms, hwriter, hnumber]
    rfl
  have halone : ∀ p ∈ f.signature.parameters, ∃ form, s.formOf paths ⟨"h.rs", []⟩ (f.withParameters [p]) = .ok form := by
    simp only [f, front, List.cons_append, List.nil_append, List.forall_mem_cons]
    exact ⟨exists_formOf_alone_iff.mpr ⟨rfl, ⟨"w", _⟩, _, _, rfl, hwriter⟩,
      exists_formOf_alone_iff.mpr ⟨rfl, ⟨"a", _⟩, _, _, rfl, hnumber⟩,
      exists_formOf_alone_iff.mpr ⟨rfl, ⟨"v", _⟩, _, _, rfl, hwriter⟩, List.forall_mem_nil _⟩
  have hpassed : front.filterMap (s.injected? paths) = [.responseWriter] := by
    rw [filterMap_injected? (parameterForms_ok hfront)]
    rfl
  refine ⟨?_, ?_⟩
  · refine ((formOf_wellFormed_or_repeated s paths ⟨"h.rs", []⟩ f).2 rfl halone _).mpr
      ⟨front, "v", ⟨2, 47⟩, writer, [], .responseWriter, rfl, hwriter, ?_, ?_, rfl⟩
    · rw [hpassed]
      exact List.nodup_singleton _
    · rw [hpassed]
      exact List.mem_singleton_self _
  · obtain ⟨form, hform⟩ := (exists_formOf_iff (f := f.withParameters front)).mpr ⟨rfl, _, hfront⟩
    refine ⟨form, hform, fun t => ⟨((formOf_wellFormed_or_repeated s paths _ _).1 form hform t).2, ?_⟩⟩
    have hparameters := Except.ok.inj ((formOf_parameterForms hform).symm.trans hfront)
    simp only [HandlerForm.describe, hparameters]
    rfl

end Scope

end Switchboard
