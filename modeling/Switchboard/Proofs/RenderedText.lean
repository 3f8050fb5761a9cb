import Switchboard.Proofs.InjectedTypes
import Switchboard.Proofs.RegistrationText
import Switchboard.Proofs.TypeNames

/-! # What a dispatch file shows

The text of a dispatch file is its lines, since no line has a line feed in it. Its header shows the module, the lines up
to the next empty one are the imports, the line behind that shows the setup function and the support modules, and every
registration shows its handler. So two modules with the same dispatch file agree on all that the file is made of. -/

namespace Switchboard

open Source

/-! ### Names -/

theorem IsIdentifier.isOneLine {name : String} (h : IsIdentifier name) : IsOneLine name :=
  h.not_mem (by decide) (by decide)

theorem IsIdentifierPath.isOneLine {text : String} (h : IsIdentifierPath text) : IsOneLine text :=
  h.not_mem (by decide) (by decide) (by decide)

/-- The last name of a path has no colon in it. -/
theorem IsIdentifierPath.not_mem_lastName {text : String} (h : IsIdentifierPath text) : ':' ∉ (lastName text).toList := by
  obtain ⟨names, hne, hnames, rfl⟩ := h
  obtain ⟨init, last, rfl⟩ := (List.eq_nil_or_concat names).resolve_left hne
  rw [List.concat_eq_append] at hnames ⊢
  have hlast : ':' ∉ last.toList := (hnames last (by simp)).not_mem (by decide) (by decide)
  rwa [lastName_render_concat init hlast]

/-- The handler and the types that it decodes are spelled as identifiers and paths. -/
structure Descriptor.IsSpelled (d : Descriptor) : Prop where
  name : IsIdentifier d.name
  types : ∀ p ∈ d.parameters, ∀ typeName ∈ p.role.typeName?, IsIdentifierPath typeName

/-- All names of a context are identifiers, and all its paths are identifiers joined by `::`. -/
structure DispatchContext.IsSpelled (c : DispatchContext) : Prop where
  moduleName : IsIdentifier c.moduleName
  setupFunction : IsIdentifier c.setupFunction
  paths : ∀ e ∈ c.imports.entries, IsIdentifierPath e.path
  handlers : ∀ d ∈ c.descriptors, d.IsSpelled

/-! ### What an analysis makes -/

/-- A result of a function comes in a tuple if there are several, and there is no empty tuple. -/
theorem Scope.returnsAsCounted {s : Scope} {paths : InjectedPaths} {file : ModuleFile} {f : Function} {form : HandlerForm}
    (h : s.formOf paths file f = .ok form) (t : ImportTable) : (form.describe t).1.ReturnsAsCounted := by
  have counted : (form.results = [] → form.returnsTuple = false) ∧
      (2 ≤ form.results.length → form.returnsTuple = true) := by
    have hroles := formOf_results h
    cases houtput : f.signature.output with
    | none =>
      obtain ⟨hresults, hreturns⟩ := Prod.mk.inj (houtput ▸ hroles)
      simp [← hresults, ← hreturns]
    | some type =>
      rw [houtput, resultRoles] at hroles
      split at hroles
      · obtain ⟨hresults, hreturns⟩ := Prod.mk.inj hroles
        rw [← hresults, ← hreturns]
        constructor
        · intro hnil
          rw [List.map_eq_nil_iff.mp hnil]
          rfl
        · intro hlength
          rw [List.length_map] at hlength
          simpa using List.ne_nil_of_length_pos (by omega)
      · obtain ⟨hresults, hreturns⟩ := Prod.mk.inj hroles
        simp [← hresults]
  have results : (form.describe t).1.results = form.results.mapIdx fun i role => ⟨role, resultVariable i⟩ := rfl
  refine ⟨fun hnil => counted.1 ?_, fun hlength => counted.2 ?_⟩
  · rwa [results, List.mapIdx_eq_nil_iff] at hnil
  · rwa [results, List.length_mapIdx] at hlength

section
variable {o : Conventions} {files : List ModuleFile} {c : DispatchContext}

theorem isNumbered_of_ok (h : analyze o files = .ok c) : ∀ d ∈ c.descriptors, d.IsNumbered := by
  obtain ⟨s, forms, -, -, rfl⟩ := analyze_ok h
  exact fun d hd => isNumbered_contextOf hd

theorem returnsAsCounted_of_ok (h : analyze o files = .ok c) : ∀ d ∈ c.descriptors, d.ReturnsAsCounted := by
  obtain ⟨s, forms, -, hforms, rfl⟩ := analyze_ok h
  intro d hd
  obtain ⟨form, hform, t, rfl⟩ := exists_of_forall₂ (describeAll_descriptors _ forms) d hd
  obtain ⟨declared, -, hof⟩ := exists_of_forall₂ (handlerForms_ok hforms) form hform
  exact Scope.returnsAsCounted hof t

theorem wellFormed_of_ok (h : analyze o files = .ok c) : c.imports.WellFormed := by
  obtain ⟨s, forms, -, -, rfl⟩ := analyze_ok h
  rw [imports_contextOf]
  exact ImportTable.wellFormed_ofPaths _

theorem ImportTable.exists_get? {t : ImportTable} {path : String} (h : path ∈ t.entries.map (·.path)) :
    ∃ e ∈ t.entries, t.get? path = some e.aliasName := by
  obtain ⟨e, he, hpath⟩ := List.mem_map.mp h
  obtain ⟨found, hfound⟩ : ∃ found, t.entries.find? (·.path = path) = some found :=
    Option.isSome_iff_exists.mp (List.find?_isSome.mpr ⟨e, he, by simpa using hpath⟩)
  exact ⟨found, List.mem_of_find?_eq_some hfound, by rw [get?, hfound, Option.map_some]⟩

/-- The support modules go by aliases of the table. -/
theorem supportAliases_mem_of_ok (h : analyze o files = .ok c) :
    c.transportAlias ∈ c.imports.aliases ∧ c.runtimeAlias ∈ c.imports.aliases := by
  obtain ⟨s, forms, -, -, rfl⟩ := analyze_ok h
  have seeded {path : String} (hpath : path ∈ [o.transportPath, o.runtimePath]) :
      ((ImportTable.seeded o.transportPath o.runtimePath).get? path).getD "" ∈ (contextOf o forms).imports.aliases := by
    obtain ⟨e, he, hget⟩ := ImportTable.exists_get? (ImportTable.mem_ofPaths_iff.mpr hpath)
    rw [ImportTable.seeded, hget]
    exact List.mem_map_of_mem ((extends_contextOf o forms).mem he)
  exact ⟨seeded (by simp), seeded (by simp)⟩

end

/-! ### Lines -/

theorem isOneLine_openBrace : IsOneLine openBrace :=
  .ofList (by decide : '\n' ∉ ['\x7b'])

theorem isOneLine_closeBrace : IsOneLine closeBrace :=
  .ofList (by decide : '\n' ∉ ['\x7d'])

theorem ResultPattern.isOneLine_render {pattern : ResultPattern} (h : ∀ v ∈ pattern.variableNames, IsOneLine v) :
    IsOneLine pattern.render := by
  match pattern with
  | nothing => exact .ofList (by decide : '\n' ∉ [])
  | single name => exact .framed (h name List.mem_cons_self) (by decide) (by decide)
  | tuple [name] => exact .framed (h name List.mem_cons_self) (by decide) (by decide)
  | tuple [] | tuple (_ :: _ :: _) => exact .framed (.intercalate (.ofList (by decide)) h) (by decide) (by decide)

theorem DataLocal.isOneLine_render {l : DataLocal} (hvariable : IsOneLine l.variableName) (htype : IsOneLine l.typeName) :
    IsOneLine l.render := by
  rw [render]
  split
  · exact (hvariable.framed (by decide) (by decide)).followed htype (by decide)
  · exact (hvariable.framed (by decide) (by decide)).followed htype (by decide)

namespace Descriptor.IsNumbered

variable {d : Descriptor} (h : d.IsNumbered)
include h

theorem isOneLine_parameter {p : DescribedParameter} (hp : p ∈ d.parameters) : IsOneLine p.variableName :=
  h.not_mem_variableName hp (by decide) (by decide)

theorem isOneLine_result {r : DescribedResult} (hr : r ∈ d.results) : IsOneLine r.variableName := by
  obtain ⟨i, hi⟩ := h.variableName_result hr
  rw [hi]
  exact not_mem_append_toString (by decide) (by decide) i

theorem isOneLine_call (hname : IsOneLine d.name) : IsOneLine d.registration.call := by
  have pattern : IsOneLine d.resultPattern.render := by
    refine ResultPattern.isOneLine_render fun v hv => ?_
    rw [d.variableNames_resultPattern] at hv
    obtain ⟨r, hr, rfl⟩ := List.mem_map.mp hv
    exact h.isOneLine_result hr
  have arguments : IsOneLine (", ".intercalate d.registration.arguments) := by
    refine IsOneLine.intercalate (by decide) fun v hv => ?_
    obtain ⟨p, hp, rfl⟩ := List.mem_map.mp hv
    exact h.isOneLine_parameter hp
  rw [call_eq]
  have named := hname.append (.ofList (by decide : '\n' ∉ ['(']))
  exact pattern.append (.append (.ofList (by decide)) (named.append (arguments.append (.ofList (by decide)))))

theorem isOneLine_decodeLines : ∀ line ∈ d.registration.decodeLines, IsOneLine line := by
  have arguments : IsOneLine d.registration.decodeArguments := by
    refine IsOneLine.intercalate (by decide) fun v hv => ?_
    obtain ⟨filled, hfilled, rfl⟩ := List.mem_map.mp hv
    have decoded : d.registration.decoded = d.dataParameters.map (·.handed) := filterMap_decoded? d
    obtain ⟨p, hp, rfl⟩ := List.mem_map.mp (decoded ▸ hfilled)
    refine IsOneLine.append ?_ (h.isOneLine_parameter (List.mem_filter.mp hp).1)
    split <;> decide
  rw [Registration.decodeLines]
  split
  · exact List.forall_mem_nil _
  · simp only [List.forall_mem_cons]
    refine ⟨?_, .ofList (by decide), .ofList (by decide), .append (.ofList (by decide)) isOneLine_closeBrace, List.forall_mem_nil _⟩
    exact (arguments.framed (by decide) (by decide)).append isOneLine_openBrace

theorem isOneLine_encodeLines : ∀ line ∈ d.registration.encodeLines, IsOneLine line := by
  have arguments : IsOneLine d.registration.encodeArguments := by
    refine IsOneLine.intercalate (by decide) fun v hv => ?_
    obtain ⟨read, hread, rfl⟩ := List.mem_map.mp hv
    obtain ⟨r, hr, rfl⟩ := List.mem_map.mp hread
    refine IsOneLine.append ?_ (h.isOneLine_result hr)
    split <;> decide
  rw [Registration.encodeLines]
  split
  · exact List.forall_mem_nil _
  · simp only [List.forall_mem_cons]
    refine ⟨?_, .ofList (by decide), .append (.ofList (by decide)) isOneLine_closeBrace, List.forall_mem_nil _⟩
    exact (arguments.framed (by decide) (by decide)).append isOneLine_openBrace

/-- No line of a registration has a line feed in it. -/
theorem isOneLine_lines (hspelled : d.IsSpelled) {a : SupportAliases} (ha : IsOneLine a.transport) :
    ∀ line ∈ d.registration.lines a, IsOneLine line := by
  have captures : ∀ line ∈ d.registration.captureLines, IsOneLine line := by
    intro line hline
    obtain ⟨c, -, rfl⟩ := List.mem_map.mp hline
    have hvariable : IsOneLine c.variableName := by cases c <;> exact .ofList (by decide)
    exact (hvariable.framed (by decide) (by decide)).followed hvariable (by decide)
  have head : IsOneLine (d.registration.headLine a) :=
    (((hspelled.name.isOneLine.framed (by decide) (by decide)).followed ha (by decide)).append
      (ha.framed (by decide) (by decide))).append isOneLine_openBrace
  have locals : ∀ line ∈ d.registration.locals.map Registration.localLine, IsOneLine line := by
    intro line hline
    obtain ⟨l, hl, rfl⟩ := List.mem_map.mp hline
    obtain ⟨p, hp, hlocal⟩ := List.mem_filterMap.mp hl
    have shows : l.variableName = p.variableName ∧ l.typeName ∈ p.role.typeName? := by
      obtain ⟨_, role, _⟩ := p
      cases role <;> cases hlocal <;> exact ⟨rfl, rfl⟩
    refine .append (.ofList (by decide)) (DataLocal.isOneLine_render ?_ (hspelled.types p hp _ shows.2).isOneLine)
    exact shows.1 ▸ h.isOneLine_parameter hp
  rw [← List.append_nil (d.registration.lines a), Registration.lines_append]
  simp only [List.forall_mem_cons, List.forall_mem_append]
  exact ⟨.append (.ofList (by decide)) isOneLine_openBrace, captures, head, locals, h.isOneLine_decodeLines,
    .append (.ofList (by decide)) (h.isOneLine_call hspelled.name.isOneLine), h.isOneLine_encodeLines,
    .append (.append (.ofList (by decide)) isOneLine_closeBrace) (.ofList (by decide)),
    .append (.ofList (by decide)) isOneLine_closeBrace, List.forall_mem_nil _⟩

end Descriptor.IsNumbered

namespace DispatchContext

/-- The line that opens the setup function. -/
def setupLine (c : DispatchContext) : String :=
  s!"pub fn {c.setupFunction}(mux: &mut {c.transportAlias}::ServeMux, "
    ++ s!"opts: &{c.runtimeAlias}::HandlerSetupOptions) " ++ openBrace

/-- The line that shows the module. -/
def moduleLine (c : DispatchContext) : String :=
  s!"//! Request dispatch for the `{c.moduleName}` module."

theorem lines_eq (c : DispatchContext) :
    c.lines = "// Code generated by handlergen. DO NOT EDIT." :: "" :: c.moduleLine :: "" ::
      "#![allow(unused_variables)]" :: "" :: "use super::*;" :: "" :: (c.imports.lines ++ "" :: c.setupLine ::
        "    let route_map = &opts.route;" :: "    let msg_codec = &opts.codec;" ::
        "    let on_request_error = &opts.on_request_error;" :: "    let on_response_error = &opts.on_response_error;" ::
        (c.descriptors.flatMap (·.registration.lines c.supportAliases) ++ [closeBrace])) := by
  have registered : c.registrations.flatMap (·.lines c.supportAliases) =
      c.descriptors.flatMap (·.registration.lines c.supportAliases) := List.flatMap_map ..
  simp only [lines, registered, List.append_assoc, List.cons_append, List.nil_append]
  rfl

/-- Two contexts are made of the same parts, but for the places and names in the source. -/
structure IsShownAs (c c' : DispatchContext) : Prop where
  moduleName : c.moduleName = c'.moduleName
  setupFunction : c.setupFunction = c'.setupFunction
  transportAlias : c.transportAlias = c'.transportAlias
  runtimeAlias : c.runtimeAlias = c'.runtimeAlias
  imports : c.imports = c'.imports
  descriptors : List.Forall₂ Descriptor.IsShownAs c.descriptors c'.descriptors

variable {c c' : DispatchContext}

theorem moduleLine_inj (h : c.moduleLine = c'.moduleLine) : c.moduleName = c'.moduleName :=
  (String.append_right_inj _).mp ((String.append_left_inj _).mp h)

/-- The line of the setup function shows its name and the aliases of the support modules. -/
theorem setupLine_inj (h : c.setupLine = c'.setupLine) (hname : '(' ∉ c.setupFunction.toList)
    (hname' : '(' ∉ c'.setupFunction.toList) (halias : ':' ∉ c.transportAlias.toList)
    (halias' : ':' ∉ c'.transportAlias.toList) :
    c.setupFunction = c'.setupFunction ∧ c.transportAlias = c'.transportAlias ∧ c.runtimeAlias = c'.runtimeAlias := by
  have parts (c : DispatchContext) : c.setupLine = "pub fn " ++ (c.setupFunction ++ "(mux: &mut " ++ (c.transportAlias ++
      "::ServeMux, " ++ ("opts: &" ++ (c.runtimeAlias ++ ("::HandlerSetupOptions) " ++ openBrace))))) := by
    unfold setupLine
    simp only [String.append_assoc]
    rfl
  rw [parts, parts, String.append_right_inj] at h
  obtain ⟨hsetup, h⟩ := append_inj_of_head rfl h hname hname'
  obtain ⟨htransport, h⟩ := append_inj_of_head rfl h halias halias'
  exact ⟨hsetup, htransport, (String.append_left_inj _).mp ((String.append_right_inj _).mp h)⟩

end DispatchContext

/-! ### The whole text -/

/-- The lines behind the hooks show the handlers one after another. -/
theorem isShownAs_of_registrations {ds ds' : List Descriptor} {a a' : SupportAliases}
    (hds : ∀ d ∈ ds, d.IsNumbered ∧ '(' ∉ d.name.toList ∧ d.ReturnsAsCounted)
    (hds' : ∀ d ∈ ds', d.IsNumbered ∧ '(' ∉ d.name.toList ∧ d.ReturnsAsCounted)
    (h : ds.flatMap (·.registration.lines a) ++ [closeBrace] = ds'.flatMap (·.registration.lines a') ++ [closeBrace]) :
    List.Forall₂ Descriptor.IsShownAs ds ds' := by
  have more (d : Descriptor) (ds : List Descriptor) (a : SupportAliases) :
      [closeBrace] ≠ (d :: ds).flatMap (·.registration.lines a) ++ [closeBrace] := by
    intro e
    rw [List.flatMap_cons, List.append_assoc, Registration.lines_append] at e
    exact absurd (List.cons.inj e).1 (by decide)
  induction ds generalizing ds' with
  | nil =>
    cases ds' with
    | nil => exact .nil
    | cons d' ds' => exact absurd h (more d' ds' a')
  | cons d ds ih =>
    cases ds' with
    | nil => exact absurd h.symm (more d ds a)
    | cons d' ds' =>
      obtain ⟨⟨hd, hname, hreturns⟩, hds⟩ := List.forall_mem_cons.mp hds
      obtain ⟨⟨hd', hname', hreturns'⟩, hds'⟩ := List.forall_mem_cons.mp hds'
      rw [List.flatMap_cons, List.flatMap_cons, List.append_assoc, List.append_assoc] at h
      obtain ⟨hshown, hrest⟩ := hd.lines_append_inj hd' hname hname' hreturns hreturns' h
      exact .cons hshown (ih hds hds' hrest)

section
variable {o o' : Conventions} {files files' : List ModuleFile} {c c' : DispatchContext}

/-- An alias is made of the last name of a path. -/
theorem not_mem_alias_of_ok (h : analyze o files = .ok c) {char : Char} (hdigit : char.isDigit = false) (hlow : char ≠ '_')
    (hpaths : ∀ e ∈ c.imports.entries, char ∉ (lastName e.path).toList) :
    ∀ name ∈ c.imports.aliases, char ∉ name.toList := by
  intro name hname
  obtain ⟨e, he, rfl⟩ := List.mem_map.mp hname
  exact ((wellFormed_of_ok h).named e he).not_mem hdigit hlow (hpaths e he)

namespace DispatchContext.IsSpelled

variable (hspelled : c.IsSpelled) (h : analyze o files = .ok c)
include hspelled h

theorem not_mem_transportAlias : ':' ∉ c.transportAlias.toList :=
  not_mem_alias_of_ok h (by decide) (by decide) (fun e he => (hspelled.paths e he).not_mem_lastName) _
    (supportAliases_mem_of_ok h).1

theorem imported_lines : imported c.imports.lines = c.imports.entries :=
  (wellFormed_of_ok h).imported_lines fun e he => (hspelled.paths e he).not_mem (by decide) (by decide) (by decide)

theorem handlers_of_ok : ∀ d ∈ c.descriptors, d.IsNumbered ∧ '(' ∉ d.name.toList ∧ d.ReturnsAsCounted := fun d hd =>
  ⟨isNumbered_of_ok h d hd, (hspelled.handlers d hd).name.not_mem (by decide) (by decide), returnsAsCounted_of_ok h d hd⟩

/-- No line of a dispatch file has a line feed in it. -/
theorem isOneLine_lines : ∀ line ∈ c.lines, IsOneLine line := by
  have empty : IsOneLine "" := .ofList (by decide : '\n' ∉ [])
  have aliases : ∀ name ∈ c.imports.aliases, IsOneLine name :=
    not_mem_alias_of_ok h (by decide) (by decide) fun e he hmem =>
      (hspelled.paths e he).isOneLine (lastName_subset _ hmem)
  obtain ⟨htransport, hruntime⟩ := supportAliases_mem_of_ok h
  have moduleText : IsOneLine c.moduleLine :=
    hspelled.moduleName.isOneLine.framed (by decide) (by decide)
  have imports : ∀ line ∈ c.imports.lines, IsOneLine line := by
    intro line hline
    obtain ⟨e, he, rfl⟩ := List.mem_map.mp hline
    have clause : IsOneLine e.asClause := by
      rw [NamedImport.asClause]
      split
      · exact .append (.ofList (by decide)) (aliases _ (List.mem_map_of_mem he))
      · exact empty
    exact (IsOneLine.append (.ofList (by decide)) (hspelled.paths e he).isOneLine).followed clause (by decide)
  have setup : IsOneLine c.setupLine :=
    (((hspelled.setupFunction.isOneLine.framed (by decide) (by decide)).followed (aliases _ htransport) (by decide)).append
      ((aliases _ hruntime).framed (by decide) (by decide))).append isOneLine_openBrace
  have registrations : ∀ line ∈ c.descriptors.flatMap (·.registration.lines c.supportAliases), IsOneLine line := by
    intro line hline
    obtain ⟨d, hd, hline⟩ := List.mem_flatMap.mp hline
    exact (isNumbered_of_ok h d hd).isOneLine_lines (hspelled.handlers d hd) (aliases _ htransport) line hline
  rw [c.lines_eq]
  simp only [List.forall_mem_cons, List.forall_mem_append]
  exact ⟨.ofList (by decide), empty, moduleText, empty, .ofList (by decide), empty, .ofList (by decide), empty, imports,
    empty, setup, .ofList (by decide), .ofList (by decide), .ofList (by decide), .ofList (by decide), registrations,
    isOneLine_closeBrace, List.forall_mem_nil _⟩

end DispatchContext.IsSpelled

/-- Contexts that are written alike are made of the same parts. -/
theorem isShownAs_of_render_eq (h : analyze o files = .ok c) (h' : analyze o' files' = .ok c') (hspelled : c.IsSpelled)
    (hspelled' : c'.IsSpelled) (hrender : c.render = c'.render) : c.IsShownAs c' := by
  have some_line (c : DispatchContext) : c.lines ≠ [] := by
    rw [c.lines_eq]
    exact List.cons_ne_nil _ _
  have hlines : c.lines = c'.lines :=
    intercalate_inj rfl (hspelled.isOneLine_lines h) (hspelled'.isOneLine_lines h') (some_line c) (some_line c') hrender
  rw [c.lines_eq, c'.lines_eq] at hlines
  simp only [List.cons.injEq, true_and] at hlines
  obtain ⟨hmodule, hlines⟩ := hlines
  -- Import lines are not empty, so they end at the next empty line.
  have not_empty (t : ImportTable) : "" ∉ t.lines := by
    intro hmem
    obtain ⟨e, -, he⟩ := List.mem_map.mp hmem
    have hchars := congrArg String.toList he
    rw [NamedImport.toList_line] at hchars
    cases hchars
  obtain ⟨himports, hlines⟩ := append_cons_inj hlines (not_empty _) (not_empty _)
  simp only [List.cons.injEq, true_and] at hlines
  obtain ⟨hsetup, hregistrations⟩ := hlines
  obtain ⟨hfunction, htransport, hruntime⟩ := DispatchContext.setupLine_inj hsetup
    (hspelled.setupFunction.not_mem (by decide) (by decide)) (hspelled'.setupFunction.not_mem (by decide) (by decide))
    (hspelled.not_mem_transportAlias h) (hspelled'.not_mem_transportAlias h')
  have hentries : c.imports.entries = c'.imports.entries := by
    rw [← hspelled.imported_lines h, ← hspelled'.imported_lines h', himports]
  exact ⟨DispatchContext.moduleLine_inj hmodule, hfunction, htransport, hruntime, congrArg ImportTable.mk hentries,
    isShownAs_of_registrations (hspelled.handlers_of_ok h) (hspelled'.handlers_of_ok h') hregistrations⟩

/-- The name of a parameter, and the place of a function, do not show in the dispatch file. -/
theorem isShownAs_of_render_eq_moved :
    let o : Conventions := .ofModule "handlers"
    let number : TypeExpr := .path ⟨false, [], ⟨"u8", .none⟩⟩
    let f (parameter : String) (mark : Mark) : Function :=
      ⟨"f", mark, true, ⟨false, false, false, false, false, [.typed parameter mark number], some number⟩⟩
    let file (path parameter : String) (mark : Mark) : ModuleFile := ⟨path, [.function (f parameter mark)]⟩
    ∃ c c', analyze o [file "a.rs" "x" ⟨1, 8⟩] = .ok c ∧ analyze o [file "b.rs" "y" ⟨9, 8⟩] = .ok c' ∧ c ≠ c' ∧
      c.IsSpelled ∧ c'.IsSpelled ∧ c.render = c'.render ∧ c.IsShownAs c' := by
  intro o number f file
  let form (path parameter : String) (mark : Mark) : HandlerForm :=
    ⟨"f", ⟨path, mark⟩, [⟨parameter, .byValue (.scalar "u8")⟩], [.byValue], false⟩
  let context (path parameter : String) (mark : Mark) : DispatchContext := contextOf o [form path parameter mark]
  have hanalyze (path parameter : String) (mark : Mark) :
      analyze o [file path parameter mark] = .ok (context path parameter mark) := by
    let s : Scope := ⟨[], [], [], []⟩
    have hs : Scope.ofFiles [file path parameter mark] = .ok s := rfl
    have hscalar : s.IsScalar ⟨false, [], ⟨"u8", .none⟩⟩ "u8" := ⟨rfl, Or.inl ⟨⟨rfl, rfl, by decide⟩, by decide⟩⟩
    have hshape : s.shape number = .scalar "u8" := Scope.shapeWithin_scalar hscalar
    have hexpand : s.expand number = number := Scope.expandWithin_of_aliasTarget?_eq_none rfl aliasLimit
    have hresults : s.resultRoles (some number) = ([.byValue], false) := by
      have hboxed : s.isBoxed number = false := by
        rw [Scope.isBoxed, hexpand]
        rfl
      simp [Scope.resultRoles, hexpand, number, show s.isBoxed (.path ⟨false, [], ⟨"u8", .none⟩⟩) = false from hboxed]
    have hforms : handlerForms s o.injectedPaths (declaredFunctions [file path parameter mark]) =
        .ok [form path parameter mark] := by
      have hparameters : s.parameterForms o.injectedPaths [] [.typed parameter mark number] =
          .ok (form path parameter mark).parameters := by
        simp only [Scope.parameterForms, hshape]
        rfl
      have hform : s.formOf o.injectedPaths (file path parameter mark) (f parameter mark) =
          .ok (form path parameter mark) := by
        unfold Scope.formOf
        simp only [f, hparameters, hresults]
        rfl
      have hdeclared : declaredFunctions [file path parameter mark] = [⟨file path parameter mark, f parameter mark⟩] := rfl
      rw [hdeclared, handlerForms, hform]
      rfl
    exact analyze_of_forms (by simp) hs hforms
  have hspelled (path parameter : String) (mark : Mark) : (context path parameter mark).IsSpelled := by
    have crate : IsIdentifier "handlergen" := .ofList (by decide) (by decide)
    have below {last text : String} (hlast : IsIdentifier last) (htext : text = ModulePath.render ["handlergen", last]) :
        IsIdentifierPath text :=
      ⟨["handlergen", last], by simp, List.forall_mem_cons.mpr ⟨crate, List.forall_mem_singleton.mpr hlast⟩, htext⟩
    have hlast : IsIdentifier "transport" ∧ IsIdentifier "web" :=
      ⟨.ofList (by decide) (by decide), .ofList (by decide) (by decide)⟩
    have transport : IsIdentifierPath "handlergen::transport" := below hlast.1 (by decide)
    have runtime : IsIdentifierPath "handlergen::web" := below hlast.2 (by decide)
    have imports : ImportTable.seeded o.transportPath o.runtimePath =
        ⟨[⟨"handlergen::transport", "transport"⟩, ⟨"handlergen::web", "web"⟩]⟩ := by decide
    constructor
    · exact .ofList (by decide) (by decide)
    · exact .ofList (by decide) (by decide)
    · rw [show (context path parameter mark).imports = _ from imports]
      simp only [List.forall_mem_cons]
      exact ⟨transport, runtime, List.forall_mem_nil _⟩
    · rw [show (context path parameter mark).descriptors =
        [⟨"f", [⟨parameter, .dataByValue "u8", "a0"⟩], [⟨.byValue, "r0"⟩], false, 1, ⟨path, mark⟩⟩] from rfl]
      refine List.forall_mem_singleton.mpr ⟨.ofList (by decide) (by decide), List.forall_mem_singleton.mpr ?_⟩
      rintro typeName ⟨⟩
      exact ⟨["u8"], by simp, List.forall_mem_singleton.mpr (.ofList (by decide) (by decide)), by decide⟩
  have hrender : (context "a.rs" "x" ⟨1, 8⟩).render = (context "b.rs" "y" ⟨9, 8⟩).render := rfl
  have h := hanalyze "a.rs" "x" ⟨1, 8⟩
  have h' := hanalyze "b.rs" "y" ⟨9, 8⟩
  have hshown := isShownAs_of_render_eq h h' (hspelled _ _ _) (hspelled _ _ _) hrender
  exact ⟨_, _, h, h', by decide, hspelled _ _ _, hspelled _ _ _, hrender, hshown⟩

end

end Switchboard
