import Switchboard.Proofs.Results
import Switchboard.Proofs.ServingBlock

/-! # Registrations are well scoped

The block of a handler declares what is decoded, passes on what it declares and what the closure is given, binds what the
handler returns, and shares with the closure what the closure reads and nothing else. No variable hides another: those of
parameters and results are told apart by their numbers, and from all others by their first letters. -/

namespace Switchboard

open Source

/-! ### Names of variables -/

/-- The variable of a parameter with a role at an index. -/
def NamedRole.variableName (index : Nat) : NamedRole → String
  | injected what => what.variableName
  | _ => parameterVariable index

/-- Each variable of a descriptor is named for its place, and those that are decoded are counted. -/
structure Descriptor.IsNumbered (d : Descriptor) : Prop where
  parameters : ∀ (i : Nat) (p : DescribedParameter), d.parameters[i]? = some p → p.variableName = p.role.variableName i
  results : ∀ (i : Nat) (r : DescribedResult), d.results[i]? = some r → r.variableName = resultVariable i
  decodable : d.decodableCount = d.dataParameters.length

theorem Role.variableName_named (role : Role) (t : ImportTable) (index : Nat) :
    (role.named t).1.variableName index = role.variableName index := by
  cases role <;> rfl

theorem nameParameters_variableName (t : ImportTable) (index : Nat) (forms : List ParameterForm) :
    ∀ (i : Nat) (p : DescribedParameter), (nameParameters t index forms).1[i]? = some p →
      p.variableName = p.role.variableName (index + i) := by
  induction forms generalizing t index with
  | nil => nofun
  | cons form forms ih =>
    intro i p hp
    cases i with
    | zero =>
      obtain rfl := Option.some.inj hp
      exact (form.role.variableName_named t index).symm
    | succ i =>
      have := ih _ (index + 1) i p hp
      rwa [Nat.add_right_comm] at this

theorem HandlerForm.isNumbered_describe (form : HandlerForm) (t : ImportTable) : (form.describe t).1.IsNumbered where
  parameters i p hp := by
    have := nameParameters_variableName t 0 form.parameters i p hp
    rwa [Nat.zero_add] at this
  results i r hr := by
    rw [HandlerForm.describe, List.getElem?_mapIdx, Option.map_eq_some_iff] at hr
    obtain ⟨role, -, rfl⟩ := hr
    rfl
  decodable := rfl

theorem isNumbered_contextOf {o : Conventions} {forms : List HandlerForm} {d : Descriptor}
    (h : d ∈ (contextOf o forms).descriptors) : d.IsNumbered := by
  obtain ⟨form, -, t, rfl⟩ := exists_of_forall₂ (describeAll_descriptors _ forms) d h
  exact form.isNumbered_describe t

theorem toString_injective : Function.Injective (toString : Nat → String) := fun j k h =>
  numberedName_injective "" (by rw [numberedName, numberedName, h])

theorem parameterVariable_injective : Function.Injective parameterVariable := fun _ _ h =>
  toString_injective ((String.append_right_inj _).mp h)

theorem resultVariable_injective : Function.Injective resultVariable := fun _ _ h =>
  toString_injective ((String.append_right_inj _).mp h)

/-- The names that stand for the same in every block. -/
def fixedNames : List String :=
  ["msg_codec", "on_request_error", "on_response_error", "w", "r", "err"]

theorem parameterVariable_not_fixed (index : Nat) : parameterVariable index ∉ fixedNames := by
  have head : (parameterVariable index).toList.head? = some 'a' := by simp [parameterVariable]
  have heads : ∀ name ∈ fixedNames, name.toList.head? ≠ some 'a' := by decide
  exact fun h => heads _ h head

theorem resultVariable_not_fixed (index : Nat) : resultVariable index ∉ fixedNames := by
  have head : (resultVariable index).toList.head? = some 'r' := by simp [resultVariable]
  have heads : ∀ name ∈ fixedNames, name.toList.head? = some 'r' → name = "r" := by decide
  intro h
  have digits : (toString index).toList = [] := by
    have equal := congrArg String.toList (heads _ h head)
    simpa only [resultVariable, String.toList_append, List.append_right_eq_self] using equal
  rw [Nat.toString_eq_ofList_toDigits, String.toList_ofList] at digits
  exact absurd digits Nat.toDigits_ne_nil

theorem parameterVariable_ne_resultVariable (i j : Nat) : parameterVariable i ≠ resultVariable j := by
  intro h
  have heads := congrArg (fun name : String => name.toList.head?) h
  simp [parameterVariable, resultVariable] at heads

theorem Injected.variableName_mem_fixedNames (what : Injected) : what.variableName ∈ fixedNames := by
  cases what <;> decide

theorem Injected.variableName_injective : Function.Injective Injected.variableName := by
  intro what what' h
  cases what <;> cases what' <;> first | rfl | exact absurd h (by decide)

theorem parameterVariable_ne_injected (index : Nat) (what : Injected) : parameterVariable index ≠ what.variableName :=
  fun h => parameterVariable_not_fixed index (h ▸ what.variableName_mem_fixedNames)

/-- The variables of parameters that are decoded differ, whatever index the parameters start at. -/
theorem nodup_dataVariables {ps : List DescribedParameter} (start : Nat)
    (h : ∀ (i : Nat) (p : DescribedParameter), ps[i]? = some p → p.variableName = p.role.variableName (start + i)) :
    ((ps.filter (·.role.isData)).map (·.variableName)).Nodup ∧
    ∀ v ∈ (ps.filter (·.role.isData)).map (·.variableName), ∃ i, start ≤ i ∧ v = parameterVariable i := by
  induction ps generalizing start with
  | nil => simp
  | cons p ps ih =>
    obtain ⟨nodup, numbered⟩ := ih (start + 1) fun i q hq => by
      have := h (i + 1) q hq
      rwa [Nat.add_right_comm]
    have numbered' : ∀ v ∈ (ps.filter (·.role.isData)).map (·.variableName), ∃ i, start ≤ i ∧ v = parameterVariable i := by
      intro v hv
      obtain ⟨i, hi, rfl⟩ := numbered v hv
      exact ⟨i, by omega, rfl⟩
    by_cases hdata : p.role.isData = true
    · have hp : p.variableName = parameterVariable start := by
        rw [h 0 p rfl]
        cases hrole : p.role with
        | dataByValue => rfl
        | dataByPointer => rfl
        | injected => simp [hrole, NamedRole.isData] at hdata
      rw [List.filter_cons, if_pos hdata, List.map_cons, hp]
      refine ⟨List.nodup_cons.mpr ⟨fun hmem => ?_, nodup⟩, fun v hv => ?_⟩
      · obtain ⟨i, hi, heq⟩ := numbered _ hmem
        have := parameterVariable_injective heq
        omega
      · rcases List.mem_cons.mp hv with rfl | hv
        · exact ⟨start, le_refl _, rfl⟩
        · exact numbered' v hv
    · rw [List.filter_cons, if_neg hdata]
      exact ⟨nodup, numbered'⟩

namespace Descriptor.IsNumbered

variable {d : Descriptor}

theorem nodup_dataVariables (h : d.IsNumbered) : (d.dataParameters.map (·.variableName)).Nodup :=
  (Switchboard.nodup_dataVariables 0 fun i p hp => by rw [Nat.zero_add]; exact h.parameters i p hp).1

theorem exists_parameterVariable (h : d.IsNumbered) {v : String} (hv : v ∈ d.dataParameters.map (·.variableName)) :
    ∃ i, v = parameterVariable i := by
  obtain ⟨i, -, hi⟩ := (Switchboard.nodup_dataVariables 0 fun i p hp => by
    rw [Nat.zero_add]; exact h.parameters i p hp).2 v hv
  exact ⟨i, hi⟩

theorem resultVariables (h : d.IsNumbered) :
    d.results.map (·.variableName) = (List.range d.results.length).map resultVariable := by
  refine List.ext_getElem? fun i => ?_
  rw [List.getElem?_map, List.getElem?_map]
  by_cases hi : i < d.results.length
  · rw [List.getElem?_eq_getElem hi, List.getElem?_range hi, Option.map_some, Option.map_some,
      h.results i _ (List.getElem?_eq_getElem hi)]
  · rw [List.getElem?_eq_none (by omega), List.getElem?_eq_none (by simpa using hi)]
    rfl

theorem nodup_resultVariables (h : d.IsNumbered) : (d.results.map (·.variableName)).Nodup := by
  rw [h.resultVariables]
  exact List.nodup_range.map resultVariable_injective

theorem exists_resultVariable (h : d.IsNumbered) {v : String} (hv : v ∈ d.results.map (·.variableName)) :
    ∃ i, v = resultVariable i := by
  rw [h.resultVariables] at hv
  obtain ⟨i, -, hi⟩ := List.mem_map.mp hv
  exact ⟨i, hi.symm⟩

/-- What the closure passes to the handler is decoded, or it is a parameter of its own. -/
theorem variable_mem (h : d.IsNumbered) {p : DescribedParameter} (hp : p ∈ d.parameters) :
    p.variableName ∈ d.dataParameters.map (·.variableName) ∨ p.variableName ∈ ["w", "r"] := by
  by_cases hdata : p.role.isData = true
  · exact Or.inl (List.mem_map_of_mem (List.mem_filter.mpr ⟨hp, hdata⟩))
  · obtain ⟨i, hi⟩ := List.getElem?_of_mem hp
    rw [h.parameters i p hi]
    right
    cases hrole : p.role with
    | dataByValue => simp [hrole, NamedRole.isData] at hdata
    | dataByPointer => simp [hrole, NamedRole.isData] at hdata
    | injected what => cases what <;> simp [NamedRole.variableName, Injected.variableName]

end Descriptor.IsNumbered

/-! ### The block of a handler -/

/-- Whether the parameter is decoded into a box. -/
def NamedRole.isBoxed : NamedRole → Bool
  | dataByPointer _ => true
  | _ => false

/-- A parameter as it is handed on to be filled. -/
def DescribedParameter.handed (p : DescribedParameter) : Handed :=
  ⟨p.variableName, p.role.isBoxed⟩

/-- A block serves a handler that returns a type: what is decoded is declared and filled, the handler gets its arguments and
has its results bound, and the results are written, all in their order. -/
structure ServingBlock.Serves (b : ServingBlock) (d : Descriptor) (output : Option TypeExpr) : Prop where
  declared : b.declared.map (fun l => (l.variableName, some l.typeName, l.boxed)) =
    d.dataParameters.map fun p => (p.variableName, p.role.typeName?, p.role.isBoxed)
  decoded : b.passedTo (.method "msg_codec" "decode") =
    if d.dataParameters = [] then [] else [[.plain "r", .row true (d.dataParameters.map (·.handed))]]
  called : ∃ pattern, b.bindings =
      [(pattern, ⟨.item ("super::" ++ d.name), d.parameters.map fun p => .plain p.variableName⟩)] ∧
    pattern.variableNames = d.results.map (·.variableName) ∧ pattern.Fits output
  encoded : b.passedTo (.method "msg_codec" "encode") =
    if d.results = [] then [] else [[.plain "w", .row false (d.results.map fun r => ⟨r.variableName, r.role = .byPointer⟩)]]

theorem filterMap_of_data {β : Type} {f : DescribedParameter → Option β} {g : DescribedParameter → β}
    (h : ∀ p, f p = if p.role.isData then some (g p) else none) (ps : List DescribedParameter) :
    ps.filterMap f = (ps.filter (·.role.isData)).map g := by
  induction ps with
  | nil => rfl
  | cons p ps ih =>
    rw [List.filterMap_cons, List.filter_cons, h p]
    cases p.role.isData with
    | true => simp [ih]
    | false => simp [ih]

theorem filterMap_decoded? (d : Descriptor) :
    d.parameters.filterMap (·.decoded?) = d.dataParameters.map (·.handed) := by
  refine filterMap_of_data (fun p => ?_) d.parameters
  obtain ⟨_, role, _⟩ := p
  cases role <;> rfl

theorem filterMap_dataLocal? (d : Descriptor) :
    d.parameters.filterMap (·.dataLocal?) =
      d.dataParameters.map fun p => ⟨p.variableName, p.role.typeName?.getD "", p.role.isBoxed⟩ := by
  refine filterMap_of_data (fun p => ?_) d.parameters
  obtain ⟨_, role, _⟩ := p
  cases role <;> rfl

namespace Descriptor

variable (d : Descriptor)

theorem variableNames_resultPattern : d.resultPattern.variableNames = d.results.map (·.variableName) := by
  unfold resultPattern
  split
  · next h => rw [h]; rfl
  · next h =>
    rw [h]
    split <;> rfl
  · rfl

theorem binds_locals : (d.registration.locals.map BlockStatement.declare).flatMap (·.binds) =
    d.dataParameters.map (·.variableName) := by
  rw [registration, filterMap_dataLocal?, List.map_map, List.flatMap_map]
  exact List.map_eq_flatMap.symm

theorem binds_decode :
    (if d.registration.decoded.isEmpty then [] else [d.registration.decodeStatement]).flatMap (·.binds) = [] := by
  split <;> rfl

theorem binds_call : d.registration.callStatement.binds = d.results.map (·.variableName) :=
  d.variableNames_resultPattern

theorem binds_encode :
    (if d.registration.encoded.isEmpty then [] else [d.registration.encodeStatement]).flatMap (·.binds) = [] := by
  split <;> rfl

theorem binds_block (a : SupportAliases) : (d.registration.block a).body.flatMap (·.binds) =
    d.dataParameters.map (·.variableName) ++ d.results.map (·.variableName) := by
  simp only [Registration.block, List.flatMap_append, d.binds_locals, d.binds_decode, d.binds_encode, List.flatMap_singleton,
    d.binds_call, List.append_nil]

theorem eq_err_of_mem_bindsInside (a : SupportAliases) {v : String}
    (hv : v ∈ (d.registration.block a).body.flatMap (·.bindsInside)) : v = "err" := by
  obtain ⟨s, hs, hv⟩ := List.mem_flatMap.mp hv
  simp only [Registration.block, List.mem_append, List.mem_map, List.mem_singleton] at hs
  rcases hs with ((⟨l, -, rfl⟩ | hs) | rfl) | hs
  · cases hv
  · split at hs
    · cases hs
    · rw [List.mem_singleton.mp hs] at hv
      exact List.mem_singleton.mp hv
  · cases hv
  · split at hs
    · cases hs
    · rw [List.mem_singleton.mp hs] at hv
      exact List.mem_singleton.mp hv

theorem captures_sublist : d.captures.Sublist [.codec, .requestHook, .responseHook] := by
  rw [captures]
  by_cases hdata : d.decodableCount > 0 <;> cases hresults : d.results.isEmpty <;> simp [hdata]

theorem isEmpty_decoded_iff : d.registration.decoded.isEmpty = true ↔ d.dataParameters = [] := by
  rw [registration, filterMap_decoded?, List.isEmpty_iff, List.map_eq_nil_iff]

theorem isEmpty_encoded_iff : d.registration.encoded.isEmpty = true ↔ d.results = [] := by
  rw [registration, List.isEmpty_iff, List.map_eq_nil_iff]

end Descriptor

namespace Descriptor.IsNumbered

variable {d : Descriptor} (h : d.IsNumbered) (a : SupportAliases)
include h

theorem not_fixed {v : String} (hv : v ∈ d.dataParameters.map (·.variableName) ∨ v ∈ d.results.map (·.variableName)) :
    v ∉ fixedNames := by
  rcases hv with hv | hv
  · obtain ⟨i, rfl⟩ := h.exists_parameterVariable hv
    exact parameterVariable_not_fixed i
  · obtain ⟨i, rfl⟩ := h.exists_resultVariable hv
    exact resultVariable_not_fixed i

/-- What the closure binds is none of what it takes from outside. -/
theorem outer_not_mem {statements : List BlockStatement}
    (hs : ∀ v ∈ statements.flatMap (·.binds), v ∈ d.dataParameters.map (·.variableName) ∨ v ∈ d.results.map (·.variableName)) :
    ∀ v ∈ outerNames, v ∉ scopeBehind ["w", "r"] statements := by
  have fixed : ∀ v ∈ outerNames, v ∈ fixedNames ∧ v ∉ ["w", "r"] := by decide
  intro v hv hmem
  rcases mem_scopeBehind_iff.mp hmem with hmem | hmem
  · exact h.not_fixed (hs v hmem) (fixed v hv).1
  · exact (fixed v hv).2 hmem

/-- The closure of a handler takes the codec and a hook from outside for each direction in which data goes. -/
theorem freeVariables_block : (d.registration.block a).freeVariables =
    (if d.dataParameters = [] then [] else ["msg_codec", "on_request_error"]) ++
      (if d.results = [] then [] else ["msg_codec", "on_response_error"]) := by
  let locals : List BlockStatement := d.registration.locals.map .declare
  let decode : List BlockStatement := if d.registration.decoded.isEmpty then [] else [d.registration.decodeStatement]
  let call : List BlockStatement := [d.registration.callStatement]
  let encode : List BlockStatement := if d.registration.encoded.isEmpty then [] else [d.registration.encodeStatement]
  have body : (d.registration.block a).freeVariables = unboundIn ["w", "r"] (locals ++ decode ++ call ++ encode) := rfl
  have parameters : ∀ statements, ∀ v ∈ ["w", "r"], v ∈ scopeBehind ["w", "r"] statements :=
    fun _ v hv => mem_scopeBehind_iff.mpr (Or.inr hv)
  have atDecode : locals.flatMap (·.binds) = d.dataParameters.map (·.variableName) := d.binds_locals
  have atCall : (locals ++ decode).flatMap (·.binds) = d.dataParameters.map (·.variableName) := by
    rw [List.flatMap_append, atDecode, d.binds_decode, List.append_nil]
  have atEncode : (locals ++ decode ++ call).flatMap (·.binds) =
      d.dataParameters.map (·.variableName) ++ d.results.map (·.variableName) := by
    rw [List.flatMap_append, atCall, List.flatMap_singleton, d.binds_call]
  have hdecode : unboundIn (scopeBehind ["w", "r"] locals) decode =
      if d.dataParameters = [] then [] else ["msg_codec", "on_request_error"] := by
    simp only [decode, d.isEmpty_decoded_iff]
    split
    · rfl
    · refine (List.append_nil _).trans (unbound_decodeStatement (parameters _) (h.outer_not_mem fun v hv => ?_) fun x hx => ?_)
      · exact Or.inl (atDecode ▸ hv)
      · rw [mem_scopeBehind_iff, atDecode]
        rw [registration, filterMap_decoded?] at hx
        obtain ⟨p, hp, rfl⟩ := List.mem_map.mp hx
        exact Or.inl (List.mem_map_of_mem hp)
  have hcall : unboundIn (scopeBehind ["w", "r"] (locals ++ decode)) call = [] := by
    refine (List.append_nil _).trans (unbound_callStatement fun v hv => ?_)
    obtain ⟨p, hp, rfl⟩ := List.mem_map.mp hv
    rw [mem_scopeBehind_iff, atCall]
    exact h.variable_mem hp
  have hencode : unboundIn (scopeBehind ["w", "r"] (locals ++ decode ++ call)) encode =
      if d.results = [] then [] else ["msg_codec", "on_response_error"] := by
    simp only [encode, d.isEmpty_encoded_iff]
    split
    · rfl
    · refine (List.append_nil _).trans (unbound_encodeStatement (parameters _) (h.outer_not_mem fun v hv => ?_) fun x hx => ?_)
      · exact List.mem_append.mp (atEncode ▸ hv)
      · rw [mem_scopeBehind_iff, atEncode]
        obtain ⟨r, hr, rfl⟩ := List.mem_map.mp hx
        exact Or.inl (List.mem_append_right _ (List.mem_map_of_mem hr))
  rw [body, unboundIn_append, unboundIn_append, unboundIn_append, unboundIn_declare, hdecode, hcall, hencode, List.nil_append,
    List.append_nil]

/-- What is shared with the closure is what it reads from outside, and all variables of the block have names of their
own. -/
theorem isWellScoped_block : (d.registration.block a).IsWellScoped where
  mem_free_iff v := by
    have captures : (d.registration.block a).captures = d.captures.map (·.variableName) := rfl
    have decodes : d.decodableCount > 0 ↔ d.dataParameters ≠ [] := by
      rw [h.decodable, gt_iff_lt, List.length_pos_iff]
    rw [h.freeVariables_block a, captures, Descriptor.captures]
    by_cases hdata : d.dataParameters = [] <;> by_cases hresults : d.results = [] <;>
      simp [decodes, hdata, hresults, Collaborator.variableName]
    tauto
  distinct := by
    have shared : ((d.registration.block a).captures ++ ["w", "r"]).Sublist (outerNames ++ ["w", "r"]) :=
      (d.captures_sublist.map _).append_right _
    have outer : ∀ v ∈ (d.registration.block a).captures ++ ["w", "r"], v ∈ fixedNames ∧ v ≠ "err" := by
      have known : ∀ v ∈ outerNames ++ ["w", "r"], v ∈ fixedNames ∧ v ≠ "err" := by decide
      exact fun v hv => known v (shared.subset hv)
    have inside : ∀ v ∈ (d.registration.block a).body.flatMap (·.binds), v ∉ fixedNames := by
      intro v hv
      rw [d.binds_block a] at hv
      exact h.not_fixed (List.mem_append.mp hv)
    have insideNodup : ((d.registration.block a).body.flatMap (·.binds)).Nodup := by
      rw [d.binds_block a, List.nodup_append]
      refine ⟨h.nodup_dataVariables, h.nodup_resultVariables, fun v hv v' hv' => ?_⟩
      obtain ⟨i, rfl⟩ := h.exists_parameterVariable hv
      obtain ⟨j, rfl⟩ := h.exists_resultVariable hv'
      exact parameterVariable_ne_resultVariable i j
    rw [ServingBlock.bound, List.nodup_append, List.nodup_append]
    refine ⟨⟨shared.nodup (by decide), insideNodup, fun v hv v' hv' heq => inside v' hv' (heq ▸ (outer v hv).1)⟩,
      List.nodup_dedup _, fun v hv v' hv' heq => ?_⟩
    have herr : v = "err" := heq.trans (d.eq_err_of_mem_bindsInside a (List.mem_dedup.mp hv'))
    rcases List.mem_append.mp hv with hv | hv
    · exact (outer v hv).2 herr
    · exact inside v hv (herr ▸ by decide)

end Descriptor.IsNumbered

/-! ### A registration serves its handler -/

/-- The pattern of a handler fits the type that it returns, behind the aliases of the type. -/
theorem Scope.fits_resultPattern {s : Scope} {output : Option TypeExpr} {form : HandlerForm}
    (h : s.resultRoles output = (form.results, form.returnsTuple)) (t : ImportTable) :
    (form.describe t).1.resultPattern.Fits (output.map s.expand) := by
  have results : (form.describe t).1.results = form.results.mapIdx fun i role => ⟨role, resultVariable i⟩ := rfl
  have returnsTuple : (form.describe t).1.returnsTuple = form.returnsTuple := rfl
  rw [Descriptor.resultPattern, results, returnsTuple]
  cases output with
  | none =>
    obtain ⟨hresults, -⟩ := Prod.mk.inj h
    rw [← hresults]
    exact .nothing
  | some type =>
    rw [Option.map_some]
    rw [resultRoles] at h
    cases htype : s.expand type with
    | tuple elements =>
      obtain ⟨hresults, htuple⟩ := Prod.mk.inj (htype ▸ h)
      rw [← hresults, ← htuple]
      rcases elements with _ | ⟨e, _ | ⟨e', es⟩⟩
      · exact .unit
      · exact .tuple (by simp) rfl
      · simp only [List.map_cons, List.mapIdx_cons]
        exact .tuple (List.cons_ne_nil _ _) (by simp)
    | _ =>
      obtain ⟨hresults, htuple⟩ := Prod.mk.inj (htype ▸ h)
      rw [← hresults, ← htuple]
      exact .single _ fun elements heq => by cases heq

namespace Descriptor

variable (d : Descriptor) (a : SupportAliases)

theorem declared_block : (d.registration.block a).declared = d.registration.locals := by
  simp only [ServingBlock.declared, Registration.block, List.filterMap_append, List.filterMap_map]
  split <;> split <;> simp [Registration.callStatement, Registration.decodeStatement, Registration.encodeStatement]

theorem bindings_block : (d.registration.block a).bindings =
    [(d.resultPattern, ⟨.item ("super::" ++ d.name), d.parameters.map fun p => .plain p.variableName⟩)] := by
  simp only [ServingBlock.bindings, Registration.block, List.filterMap_append, List.filterMap_map]
  split <;> split <;>
    simp [Function.comp_def, Registration.callStatement, Registration.decodeStatement, Registration.encodeStatement, registration]

/-- The calls of the closure: one to decode if there is something to decode, the handler, and one to encode if the handler
returns something. -/
theorem calls_block : (d.registration.block a).body.flatMap (·.calls) =
    (if d.dataParameters = [] then [] else d.registration.decodeStatement.calls) ++ d.registration.callStatement.calls ++
      (if d.results = [] then [] else d.registration.encodeStatement.calls) := by
  have locals : (d.registration.locals.map BlockStatement.declare).flatMap (·.calls) = [] := by
    simp [BlockStatement.calls, List.flatMap_map]
  simp only [Registration.block, List.flatMap_append, locals, d.isEmpty_decoded_iff, d.isEmpty_encoded_iff,
    List.flatMap_singleton, List.nil_append]
  congr 1
  · congr 1
    split <;> simp
  · split <;> simp

theorem passedTo_decode : (d.registration.block a).passedTo (.method "msg_codec" "decode") =
    if d.dataParameters = [] then [] else [[.plain "r", .row true (d.dataParameters.map (·.handed))]] := by
  have filled : d.registration.decoded = d.dataParameters.map (·.handed) := filterMap_decoded? d
  rw [ServingBlock.passedTo, calls_block, Registration.decodeStatement, Registration.callStatement,
    Registration.encodeStatement, filled]
  split <;> split <;> simp [BlockStatement.calls]

theorem passedTo_encode : (d.registration.block a).passedTo (.method "msg_codec" "encode") =
    if d.results = [] then [] else [[.plain "w", .row false (d.results.map fun r => ⟨r.variableName, r.role = .byPointer⟩)]] := by
  have read : d.registration.encoded = d.results.map fun r => ⟨r.variableName, r.role = .byPointer⟩ := rfl
  rw [ServingBlock.passedTo, calls_block, Registration.decodeStatement, Registration.callStatement,
    Registration.encodeStatement, read]
  split <;> split <;> simp [BlockStatement.calls]

theorem serves_block {output : Option TypeExpr} (h : d.resultPattern.Fits output) :
    (d.registration.block a).Serves d output where
  declared := by
    have typed : ∀ p ∈ d.dataParameters, some (p.role.typeName?.getD "") = p.role.typeName? := by
      intro p hp
      have hdata : p.role.isData = true := (List.mem_filter.mp hp).2
      cases hrole : p.role with
      | injected what => simp [hrole, NamedRole.isData] at hdata
      | _ => rfl
    have locals : d.registration.locals =
        d.dataParameters.map fun p => ⟨p.variableName, p.role.typeName?.getD "", p.role.isBoxed⟩ := filterMap_dataLocal? d
    rw [declared_block, locals, List.map_map]
    exact List.map_congr_left fun p hp => by simp [typed p hp]
  decoded := d.passedTo_decode a
  called := ⟨_, d.bindings_block a, d.variableNames_resultPattern, h⟩
  encoded := d.passedTo_encode a

end Descriptor

end Switchboard
