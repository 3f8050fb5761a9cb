import Switchboard.Proofs.HandlerSignatures

/-! # The first rejection

Functions are described one after another, and the types of a function's parameters are named one after another, all with
one table of imports that grows on the way (`Scope.describeInTurn`, `Scope.describeAllInTurn`). An analysis comes to the
same (`analyze_eq_inTurn`). What the table holds decides names and never whether a function is rejected
(`Scope.describeInTurn_eq_error_iff`); so an analysis fails exactly if some public function is rejected alone, and it fails
as the first such function does (`analyze_eq_error_iff`). -/

namespace Switchboard

open Source

/-! ### Describing in turn -/

namespace Scope

/-- The slots of some parameters from an index on. Each type is named as soon as its role is known, and the names stay in the
table when a later parameter is refused. -/
def slotsInTurn (s : Scope) (paths : InjectedPaths) (t : ImportTable) (index : Nat) (taken : List Injected) :
    List Parameter → Except (Mark × HandlerFault) (List DescribedParameter) × ImportTable
  | [] => (.ok [], t)
  | .receiver mark :: _ => (.error (mark, .signature .takesSelf), t)
  | .typed name mark type :: rest =>
    match s.roleOf paths (s.shape type) with
    | .error fault => (.error (mark, .parameterType name fault), t)
    | .ok role =>
      let (named, t') := role.named t
      match named with
      | .injected what =>
        if taken.contains what then (.error (mark, .duplicate name what), t')
        else
          let (slots, t'') := s.slotsInTurn paths t' (index + 1) (what :: taken) rest
          (slots.map (⟨name, named, what.variableName⟩ :: ·), t'')
      | _ =>
        let (slots, t'') := s.slotsInTurn paths t' (index + 1) taken rest
        (slots.map (⟨name, named, parameterVariable index⟩ :: ·), t'')

/-- Describes a function with a table of imports, or rejects it. -/
def describeInTurn (s : Scope) (paths : InjectedPaths) (t : ImportTable) (d : DeclaredFunction) :
    Except HandlerRejection Descriptor × ImportTable :=
  let f := d.function
  match f.signature.fault? with
  | some fault => (.error ⟨d.file.position f.mark, f.name, .signature fault⟩, t)
  | none =>
    match s.slotsInTurn paths t 0 [] f.signature.parameters with
    | (.error (mark, fault), t') => (.error ⟨d.file.position mark, f.name, fault⟩, t')
    | (.ok parameters, t') =>
      let (results, returnsTuple) := s.resultRoles f.signature.output
      (.ok ⟨f.name, parameters, results.mapIdx fun index role => ⟨role, resultVariable index⟩, returnsTuple,
        (parameters.filter (·.role.isData)).length, d.file.position f.mark⟩, t')

/-- Describes the public ones of some functions, each with the table that those before it leave; ends with the first that is
rejected. -/
def describeAllInTurn (s : Scope) (paths : InjectedPaths) (t : ImportTable) :
    List DeclaredFunction → Except HandlerRejection (List Descriptor) × ImportTable
  | [] => (.ok [], t)
  | d :: ds =>
    if d.function.isCandidate then
      match s.describeInTurn paths t d with
      | (.error r, t') => (.error r, t')
      | (.ok descriptor, t') =>
        let (descriptors, t'') := s.describeAllInTurn paths t' ds
        (descriptors.map (descriptor :: ·), t'')
    else s.describeAllInTurn paths t ds

variable {s : Scope} {paths : InjectedPaths} {taken : List Injected} {ps : List Parameter} {e : Mark × HandlerFault}
  {d : DeclaredFunction} {ds : List DeclaredFunction} {r : HandlerRejection}

/-! ### What the table decides -/

theorem slotsInTurn_cons {p : Parameter} {form : ParameterForm} (h : s.HasForm paths p form)
    (hnew : ∀ what, form.role.injected? = some what → what ∉ taken) (t : ImportTable) (index : Nat) :
    s.slotsInTurn paths t index taken (p :: ps) =
      ((s.slotsInTurn paths (form.role.named t).2 (index + 1) (form.role.injected?.toList ++ taken) ps).1.map
        (⟨form.name, (form.role.named t).1, form.role.variableName index⟩ :: ·),
      (s.slotsInTurn paths (form.role.named t).2 (index + 1) (form.role.injected?.toList ++ taken) ps).2) := by
  obtain ⟨mark, type, rfl, hrole⟩ := h
  obtain ⟨name, role⟩ := form
  rw [slotsInTurn, hrole]
  cases role with
  | byValue type | byPointer type => rfl
  | injected what =>
    have hwhat : ¬taken.contains what = true := by simpa using hnew what rfl
    exact if_neg hwhat

theorem Refuses.slotsInTurn_cons {p : Parameter} (h : s.Refuses paths taken p e) (t : ImportTable) (index : Nat) :
    (s.slotsInTurn paths t index taken (p :: ps)).1 = .error e := by
  cases h with
  | receiver mark => rfl
  | type h => rw [slotsInTurn, h]
  | again h htaken =>
    rw [slotsInTurn, h]
    simp only [Role.named, List.contains_iff_mem, htaken, if_true]

theorem slotsInTurn_of_ok {t : ImportTable} {index : Nat} {forms : List ParameterForm}
    (h : s.parameterForms paths taken ps = .ok forms) : s.slotsInTurn paths t index taken ps =
      (.ok (nameParameters t index forms).1, (nameParameters t index forms).2) := by
  induction ps generalizing t index taken forms with
  | nil =>
    cases h
    rfl
  | cons p ps ih =>
    obtain ⟨form, rest, hform, hnew, hrest, rfl⟩ := parameterForms_cons_ok h
    rw [slotsInTurn_cons hform hnew, ih hrest]
    rfl

theorem slotsInTurn_of_error {t : ImportTable} {index : Nat} (h : s.parameterForms paths taken ps = .error e) :
    (s.slotsInTurn paths t index taken ps).1 = .error e := by
  induction ps generalizing t index taken with
  | nil => cases h
  | cons p ps ih =>
    rcases s.hasForm_or_refuses paths taken p with ⟨form, hform, hnew⟩ | ⟨e', hrefused⟩
    · rw [hform.parameterForms_cons hnew] at h
      rw [slotsInTurn_cons hform hnew, ih (error_of_map h)]
      rfl
    · rw [hrefused.parameterForms_cons] at h
      exact (hrefused.slotsInTurn_cons t index).trans (congrArg Except.error (Except.error.inj h))

theorem describeInTurn_of_ok {t : ImportTable} {form : HandlerForm} (h : s.formOf paths d.file d.function = .ok form) :
    s.describeInTurn paths t d = (.ok (form.describe t).1, (form.describe t).2) := by
  obtain ⟨name, position, parameters, results, returnsTuple⟩ := form
  obtain ⟨hfault, rfl, rfl, hforms, hresults⟩ := formOf_eq_ok_iff.mp h
  simp only [describeInTurn, hfault, slotsInTurn_of_ok hforms, hresults]
  rfl

theorem describeInTurn_of_error {t : ImportTable} (h : s.formOf paths d.file d.function = .error r) :
    (s.describeInTurn paths t d).1 = .error r := by
  cases hfault : d.function.signature.fault? with
  | some fault =>
    rw [formOf, hfault] at h
    simp only [describeInTurn, hfault]
    exact congrArg Except.error (Except.error.inj h)
  | none =>
    obtain ⟨⟨mark, fault⟩, he, rfl⟩ := (formOf_eq_error_iff hfault).mp h
    have hslots : (s.slotsInTurn paths t 0 [] d.function.signature.parameters).1 = .error (mark, fault) :=
      slotsInTurn_of_error he
    rw [describeInTurn, hfault]
    rcases hturn : s.slotsInTurn paths t 0 [] d.function.signature.parameters with ⟨slots, t'⟩
    rw [hturn] at hslots
    obtain rfl : slots = .error (mark, fault) := hslots
    rfl

/-- Whether and why a function is rejected does not depend on the imports that there are. -/
theorem describeInTurn_eq_error_iff {t : ImportTable} :
    (s.describeInTurn paths t d).1 = .error r ↔ s.formOf paths d.file d.function = .error r := by
  cases hform : s.formOf paths d.file d.function with
  | ok form => simp [describeInTurn_of_ok hform]
  | error r' => simp [describeInTurn_of_error hform]

theorem describeAllInTurn_of_ok {t : ImportTable} {forms : List HandlerForm} (h : handlerForms s paths ds = .ok forms) :
    s.describeAllInTurn paths t ds = (.ok (describeAll t forms).1, (describeAll t forms).2) := by
  induction ds generalizing t forms with
  | nil =>
    cases h
    rfl
  | cons d ds ih =>
    rw [describeAllInTurn]
    by_cases hcandidate : d.function.isCandidate = true
    · obtain ⟨form, rest, hform, hrest, rfl⟩ := handlerForms_cons_ok hcandidate h
      simp only [if_pos hcandidate, describeInTurn_of_ok hform, ih hrest]
      rfl
    · rw [handlerForms_cons_of_not_candidate hcandidate] at h
      rw [if_neg hcandidate]
      exact ih h

/-- A run ends with the first function that is rejected, whatever the table holds by then. -/
theorem describeAllInTurn_of_error {t : ImportTable} (h : handlerForms s paths ds = .error r) :
    (s.describeAllInTurn paths t ds).1 = .error r := by
  obtain ⟨front, d, back, rfl, hcandidate, hrejected, hfront⟩ := handlerForms_eq_error_iff.mp h
  clear h
  induction front generalizing t with
  | nil =>
    have hturn : (s.describeInTurn paths t d).1 = .error r := describeInTurn_of_error hrejected
    rw [List.nil_append, describeAllInTurn, if_pos hcandidate]
    rcases hdescribe : s.describeInTurn paths t d with ⟨outcome, t'⟩
    rw [hdescribe] at hturn
    obtain rfl : outcome = .error r := hturn
    rfl
  | cons d' front ih =>
    obtain ⟨hd', hfront⟩ := List.forall_mem_cons.mp hfront
    rw [List.cons_append, describeAllInTurn]
    by_cases hcandidate' : d'.function.isCandidate = true
    · obtain ⟨form, hform⟩ := hd' hcandidate'
      simp only [if_pos hcandidate', describeInTurn_of_ok hform, ih hfront]
      rfl
    · rw [if_neg hcandidate']
      exact ih hfront

/-! ### The first parameter that is refused -/

/-- A parameter is refused behind some others, whatever becomes of these. -/
def RefusesBehind (s : Scope) (paths : InjectedPaths) (front : List Parameter) (p : Parameter) (e : Mark × HandlerFault) :
    Prop :=
  s.Refuses paths (front.filterMap (s.injected? paths)) p e

variable {p : Parameter} {front back : List Parameter} {forms : List ParameterForm}

theorem Refuses.congr {taken' : List Injected} (htaken : ∀ what, what ∈ taken ↔ what ∈ taken')
    (h : s.Refuses paths taken p e) : s.Refuses paths taken' p e := by
  cases h with
  | receiver mark => exact .receiver mark
  | type hrole => exact .type hrole
  | again hrole hwhat => exact .again hrole ((htaken _).mp hwhat)

theorem refuses_takenBehind_iff (h : s.parameterForms paths [] front = .ok forms) :
    s.Refuses paths (takenBehind [] forms) p e ↔ s.RefusesBehind paths front p e := by
  have htaken (what : Injected) : what ∈ takenBehind [] forms ↔ what ∈ front.filterMap (s.injected? paths) := by
    rw [mem_takenBehind_nil, filterMap_injected? (parameterForms_ok h)]
  exact ⟨.congr htaken, .congr fun what => (htaken what).symm⟩

/-- Of parameters that have forms none is refused behind those before it. -/
theorem not_refusesBehind (h : s.parameterForms paths [] (front ++ p :: back) = .ok forms) :
    ¬s.RefusesBehind paths front p e := by
  intro hrefused
  cases hfront : s.parameterForms paths [] front with
  | ok forms' =>
    have herror := parameterForms_eq_error_iff.mpr
      ⟨front, p, back, forms', rfl, hfront, (refuses_takenBehind_iff hfront).mpr hrefused⟩
    rw [h] at herror
    cases herror
  | error e' =>
    obtain ⟨front', q, back', forms', rfl, hfront', hq⟩ := parameterForms_eq_error_iff.mp hfront
    have herror : s.parameterForms paths [] (front' ++ q :: back' ++ p :: back) = .error e' :=
      parameterForms_eq_error_iff.mpr ⟨front', q, back' ++ p :: back, forms', by simp, hfront', hq⟩
    rw [h] at herror
    cases herror

/-- Why the first of some parameters to be refused is: none of those before it is refused behind what stands before that. -/
def IsFirstRefused (s : Scope) (paths : InjectedPaths) (ps : List Parameter) (e : Mark × HandlerFault) : Prop :=
  ∃ front p back, ps = front ++ p :: back ∧ s.RefusesBehind paths front p e ∧
    ∀ front' q back', front = front' ++ q :: back' → ∀ e', ¬s.RefusesBehind paths front' q e'

theorem parameterForms_eq_error_iff_isFirstRefused :
    s.parameterForms paths [] ps = .error e ↔ s.IsFirstRefused paths ps e := by
  constructor
  · intro h
    obtain ⟨front, p, back, forms, rfl, hfront, hp⟩ := parameterForms_eq_error_iff.mp h
    refine ⟨front, p, back, rfl, (refuses_takenBehind_iff hfront).mp hp, ?_⟩
    rintro front' q back' rfl e'
    exact not_refusesBehind hfront
  · rintro ⟨front, p, back, rfl, hp, hfirst⟩
    cases hfront : s.parameterForms paths [] front with
    | ok forms =>
      exact parameterForms_eq_error_iff.mpr ⟨front, p, back, forms, rfl, hfront, (refuses_takenBehind_iff hfront).mpr hp⟩
    | error e' =>
      obtain ⟨front', q, back', forms, hsplit, hfront', hq⟩ := parameterForms_eq_error_iff.mp hfront
      exact absurd ((refuses_takenBehind_iff hfront').mp hq) (hfirst front' q back' hsplit e')

/-- A function is rejected for its signature as a whole, and otherwise for the first parameter that is refused. -/
theorem formOf_eq_error_iff_isFirstRefused : s.formOf paths d.file d.function = .error r ↔
    (∃ fault, d.function.signature.fault? = some fault ∧
      r = ⟨d.file.position d.function.mark, d.function.name, .signature fault⟩) ∨
    (d.function.signature.fault? = none ∧ ∃ mark fault,
      s.IsFirstRefused paths d.function.signature.parameters (mark, fault) ∧
        r = ⟨d.file.position mark, d.function.name, fault⟩) := by
  cases hfault : d.function.signature.fault? with
  | some fault =>
    rw [formOf, hfault]
    simp [eq_comm]
  | none =>
    rw [formOf_eq_error_iff hfault]
    simp only [parameterForms_eq_error_iff_isFirstRefused, Prod.exists, reduceCtorEq, false_and, exists_false, false_or,
      true_and]

end Scope

/-! ### The first function that is rejected -/

/-- The context of some descriptors that came with a table of imports. -/
def Conventions.contextWith (o : Conventions) (descriptors : List Descriptor) (imports : ImportTable) : DispatchContext :=
  { contextOf o [] with imports, descriptors }

theorem contextOf_eq_contextWith (o : Conventions) (forms : List HandlerForm) : contextOf o forms =
    o.contextWith (describeAll (.seeded o.transportPath o.runtimePath) forms).1
      (describeAll (.seeded o.transportPath o.runtimePath) forms).2 :=
  rfl

section
variable {o : Conventions} {files : List ModuleFile} {s : Scope}

theorem analyze_of_rejection (hfiles : files ≠ []) (hs : Scope.ofFiles files = .ok s) {r : HandlerRejection}
    (h : handlerForms s o.injectedPaths (declaredFunctions files) = .error r) :
    analyze o files = .error (.rejected r) := by
  rw [analyze, if_neg (by simpa using hfiles), hs]
  simp only [h]

/-- An analysis describes the public functions in turn, from the table that has the support modules only. -/
theorem analyze_eq_inTurn (o : Conventions) (hfiles : files ≠ []) (hs : Scope.ofFiles files = .ok s) :
    let run := s.describeAllInTurn o.injectedPaths (.seeded o.transportPath o.runtimePath) (declaredFunctions files)
    analyze o files = (run.1.map fun descriptors => o.contextWith descriptors run.2).mapError .rejected := by
  intro run
  cases hforms : handlerForms s o.injectedPaths (declaredFunctions files) with
  | ok forms =>
    rw [analyze_of_forms hfiles hs hforms, contextOf_eq_contextWith]
    simp only [run, Scope.describeAllInTurn_of_ok hforms]
    rfl
  | error r =>
    have hrun : run.1 = .error r := Scope.describeAllInTurn_of_error hforms
    rw [analyze_of_rejection hfiles hs hforms, hrun]
    rfl

theorem analyze_eq_error_iff_handlerForms (hfiles : files ≠ []) (hs : Scope.ofFiles files = .ok s) {e : AnalysisFault} :
    analyze o files = .error e ↔
      ∃ r, handlerForms s o.injectedPaths (declaredFunctions files) = .error r ∧ e = .rejected r := by
  cases hforms : handlerForms s o.injectedPaths (declaredFunctions files) with
  | ok forms => simp [analyze_of_forms hfiles hs hforms]
  | error r => simp [analyze_of_rejection hfiles hs hforms, eq_comm]

theorem Scope.exists_describeInTurn_iff {paths : InjectedPaths} {t : ImportTable} {d : DeclaredFunction} :
    (∃ descriptor, (s.describeInTurn paths t d).1 = .ok descriptor) ↔
      ∃ form, s.formOf paths d.file d.function = .ok form := by
  cases hform : s.formOf paths d.file d.function with
  | ok form => simp [Scope.describeInTurn_of_ok hform]
  | error r => simp [Scope.describeInTurn_of_error hform]

/-- Where the scope of some files can be built, their public functions are described in turn, each with the imports that those
before it leave. All of this fails if and only if some public function is rejected alone, and it fails as the first of these
does. The imports never matter to whether a function is rejected, nor why: it is for its signature as a whole, and otherwise
for the first of its parameters that is refused. -/
theorem analyze_eq_error_iff (o : Conventions) (hfiles : files ≠ []) (hs : Scope.ofFiles files = .ok s) :
    let seeds := ImportTable.seeded o.transportPath o.runtimePath
    let run := s.describeAllInTurn o.injectedPaths seeds (declaredFunctions files)
    let alone (d : DeclaredFunction) := (s.describeInTurn o.injectedPaths seeds d).1
    analyze o files = (run.1.map fun descriptors => o.contextWith descriptors run.2).mapError .rejected ∧
    ((∃ e, analyze o files = .error e) ↔
      ∃ d ∈ declaredFunctions files, d.function.isCandidate = true ∧ ∃ r, alone d = .error r) ∧
    (∀ e, analyze o files = .error e ↔ ∃ front d back r,
      declaredFunctions files = front ++ d :: back ∧ d.function.isCandidate = true ∧ alone d = .error r ∧
        (∀ d' ∈ front, d'.function.isCandidate = true → ∃ descriptor, alone d' = .ok descriptor) ∧ e = .rejected r) ∧
    (∀ t d r, (s.describeInTurn o.injectedPaths t d).1 = .error r ↔ alone d = .error r) ∧
    ∀ d r, alone d = .error r ↔
      (∃ fault, d.function.signature.fault? = some fault ∧
        r = ⟨d.file.position d.function.mark, d.function.name, .signature fault⟩) ∨
      (d.function.signature.fault? = none ∧ ∃ mark fault,
        s.IsFirstRefused o.injectedPaths d.function.signature.parameters (mark, fault) ∧
          r = ⟨d.file.position mark, d.function.name, fault⟩) := by
  intro seeds run alone
  have halone (d : DeclaredFunction) (r : HandlerRejection) :
      alone d = .error r ↔ s.formOf o.injectedPaths d.file d.function = .error r := Scope.describeInTurn_eq_error_iff
  have hfails (e : AnalysisFault) : analyze o files = .error e ↔ ∃ front d back r,
      declaredFunctions files = front ++ d :: back ∧ d.function.isCandidate = true ∧ alone d = .error r ∧
        (∀ d' ∈ front, d'.function.isCandidate = true → ∃ descriptor, alone d' = .ok descriptor) ∧ e = .rejected r := by
    rw [analyze_eq_error_iff_handlerForms hfiles hs]
    simp only [handlerForms_eq_error_iff, halone, alone, Scope.exists_describeInTurn_iff]
    constructor
    · rintro ⟨r, ⟨front, d, back, hsplit, hcandidate, hrejected, hfront⟩, rfl⟩
      exact ⟨front, d, back, r, hsplit, hcandidate, hrejected, hfront, rfl⟩
    · rintro ⟨front, d, back, r, hsplit, hcandidate, hrejected, hfront, rfl⟩
      exact ⟨r, ⟨front, d, back, hsplit, hcandidate, hrejected, hfront⟩, rfl⟩
  refine ⟨analyze_eq_inTurn o hfiles hs, ?_, hfails, fun t d r => ?_, fun d r => ?_⟩
  · constructor
    · rintro ⟨e, he⟩
      obtain ⟨front, d, back, r, hsplit, hcandidate, hrejected, -, -⟩ := (hfails e).mp he
      exact ⟨d, by simp [hsplit], hcandidate, r, hrejected⟩
    · rintro ⟨d, hd, hcandidate, r, hrejected⟩
      -- A run that came to its end would have a form for this function too.
      cases hforms : handlerForms s o.injectedPaths (declaredFunctions files) with
      | error r' => exact ⟨_, analyze_of_rejection hfiles hs hforms⟩
      | ok forms =>
        obtain ⟨form, -, hform⟩ := exists_of_forall₂ (handlerForms_ok hforms).flip d
          (List.mem_filter.mpr ⟨hd, hcandidate⟩)
        rw [(halone d r).mp hrejected] at hform
        cases hform
  · exact Scope.describeInTurn_eq_error_iff.trans (halone d r).symm
  · exact (halone d r).trans Scope.formOf_eq_error_iff_isFirstRefused

/-- A private function that is `async` and a public one with an import stand before one that asks for the request twice, and a
public `async` function behind that: the second request is to blame. -/
theorem analyze_eq_error_second_request :
    let o : Conventions := .ofModule "h"
    let request : TypeExpr := .reference false (.path ⟨false, [], ⟨"Request", .none⟩⟩)
    let thing : TypeExpr := .path ⟨false, [⟨"models", .none⟩], ⟨"Thing", .none⟩⟩
    let declare (name : String) (line : Nat) (isPublic isAsync : Bool) (ps : List Parameter) : Function :=
      ⟨name, ⟨line, 8⟩, isPublic, ⟨isAsync, false, false, false, false, ps, none⟩⟩
    let a : ModuleFile := ⟨"a.rs", [.use ⟨1, 1⟩ (.path "handlergen" (.path "transport" (.name "Request"))),
      .function (declare "hidden" 2 false true []), .function (declare "first" 3 true false [.typed "x" ⟨3, 17⟩ thing])]⟩
    let b : ModuleFile := ⟨"b.rs",
      [.function (declare "twice" 1 true false [.typed "r" ⟨1, 17⟩ request, .typed "t" ⟨1, 30⟩ request]),
        .function (declare "late" 2 true true [])]⟩
    analyze o [a, b] = .error (.rejected ⟨⟨"b.rs", ⟨1, 30⟩⟩, "twice", .duplicate "t" .request⟩) := by
  intro o request thing declare a b
  let s : Scope := ⟨[], [], [("Request", ⟨["handlergen", "transport", "Request"], ⟨"a.rs", ⟨1, 1⟩⟩⟩)], []⟩
  have hs : Scope.ofFiles [a, b] = .ok s := rfl
  have hrequestNamed : s.IsNamed ⟨false, [], ⟨"Request", .none⟩⟩ (.external ["handlergen", "transport"] "Request") :=
    Scope.isNamed_of_resolve rfl rfl trivial (by decide) (by decide) (by decide)
  have hthingNamed : s.IsNamed ⟨false, [⟨"models", .none⟩], ⟨"Thing", .none⟩⟩ (.external ["models"] "Thing") :=
    Scope.isNamed_of_resolve rfl rfl trivial (by decide) (by decide) (by decide)
  have hrequest : s.roleOf o.injectedPaths (s.shape request) = .ok (.injected .request) := by
    refine Scope.roleOf_eq_injected_iff.mpr ⟨.external ["handlergen", "transport"] "Request", ?_, by decide⟩
    rw [Scope.shape, Scope.shapeWithin, Scope.shapeWithin_named hrequestNamed]
    rfl
  have hthing : s.HasForm o.injectedPaths (.typed "x" ⟨3, 17⟩ thing)
      ⟨"x", .byValue (.named (.external ["models"] "Thing"))⟩ := by
    refine ⟨_, _, rfl, ?_⟩
    rw [Scope.shape, Scope.shapeWithin_named hthingNamed]
    rfl
  have hfirst : ∃ form, s.formOf o.injectedPaths a (declare "first" 3 true false [.typed "x" ⟨3, 17⟩ thing]) = .ok form :=
    Scope.exists_formOf_iff.mpr ⟨rfl, _, hthing.parameterForms_cons fun _ _ => List.not_mem_nil⟩
  have htwice : s.formOf o.injectedPaths b
      (declare "twice" 1 true false [.typed "r" ⟨1, 17⟩ request, .typed "t" ⟨1, 30⟩ request]) =
        .error ⟨⟨"b.rs", ⟨1, 30⟩⟩, "twice", .duplicate "t" .request⟩ := by
    simp only [declare, Scope.formOf, Scope.parameterForms, hrequest]
    rfl
  obtain ⟨-, -, hfails, -⟩ := analyze_eq_error_iff o (List.cons_ne_nil a [b]) hs
  refine (hfails _).mpr ⟨[⟨a, declare "hidden" 2 false true []⟩, ⟨a, declare "first" 3 true false [.typed "x" ⟨3, 17⟩ thing]⟩],
    _, [⟨b, declare "late" 2 true true []⟩], _, rfl, rfl, Scope.describeInTurn_of_error htwice, ?_, rfl⟩
  exact List.forall_mem_cons.mpr ⟨fun hhidden => absurd hhidden (by decide),
    List.forall_mem_singleton.mpr fun _ => Scope.exists_describeInTurn_iff.mpr hfirst⟩

end

end Switchboard
