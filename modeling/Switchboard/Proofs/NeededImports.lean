import Switchboard.Proofs.FileOrder
import Switchboard.Proofs.Roles

/-! # Imports that are needed

A dispatch file needs the modules of the transport and of the runtime, and for each data type of a parameter the module
that the type comes from, unless that is given by its place. What is needed can be told from the signatures of the public
functions alone (`Scope.neededModule?`). The table of a module has an entry for each module that is needed, in the order
in which they are first needed, and none besides: every other entry is used by the name of a type (`imports_of_needed`). -/

namespace Switchboard

open Source

/-- The type of the data that a role decodes. -/
def Role.dataType? : Role → Option DataType
  | byValue type => some type
  | byPointer type => some type
  | injected _ => none

theorem Role.importedModule?_eq (role : Role) : role.importedModule? = role.dataType?.bind (·.importedModule?) := by
  cases role <;> rfl

theorem ImportTable.NamesRole.names {t : ImportTable} {role : Role} {shown : NamedRole} (h : t.NamesRole role shown) :
    Option.Rel t.Names role.dataType? shown.typeName? := by
  cases h with
  | byValue hname => exact .some hname
  | byPointer hname => exact .some hname
  | injected what => exact .none

namespace Scope

variable {s : Scope} {paths : InjectedPaths}

/-- The data type of a parameter, boxed or not. -/
def dataType? (s : Scope) : Parameter → Option DataType
  | .receiver _ => none
  | .typed _ _ type =>
    match s.shape type with
    | .scalar name => some (.scalar name)
    | .named r => some (.named r)
    | .boxed (.scalar name) => some (.scalar name)
    | .boxed (.named r) => some (.named r)
    | _ => none

/-- The module that a parameter's data type makes a dispatch file import. -/
def neededModule? (s : Scope) (p : Parameter) : Option String :=
  (s.dataType? p).bind (·.importedModule?)

/-- The modules that the parameters of a function need, in order. -/
def neededModules (s : Scope) (f : DeclaredFunction) : List String :=
  f.function.signature.parameters.filterMap s.neededModule?

theorem HasForm.dataType?_eq {p : Parameter} {form : ParameterForm} (h : s.HasForm paths p form) :
    s.dataType? p = form.role.dataType? := by
  obtain ⟨mark, type, rfl, hrole⟩ := h
  cases hform : form.role with
  | byValue data =>
    rw [hform, roleOf_eq_byValue_iff] at hrole
    cases data <;> simp only [dataType?, hrole, DataType.shape, Role.dataType?]
  | byPointer data =>
    rw [hform, roleOf_eq_byPointer_iff] at hrole
    cases data <;> simp only [dataType?, hrole, DataType.shape, Role.dataType?]
  | injected what =>
    rw [hform, roleOf_eq_injected_iff] at hrole
    obtain ⟨r, hshape, -⟩ := hrole
    cases what <;> simp only [dataType?, hshape, Injected.shapeOf, Role.dataType?]

theorem filterMap_importedModule? {ps : List Parameter} {forms : List ParameterForm}
    (h : List.Forall₂ (s.HasForm paths) ps forms) :
    forms.filterMap (·.role.importedModule?) = ps.filterMap s.neededModule? := by
  induction h with
  | nil => rfl
  | cons hform _ ih =>
    have hmodule := (Role.importedModule?_eq _).trans (congrArg (·.bind DataType.importedModule?) hform.dataType?_eq.symm)
    rw [List.filterMap_cons, List.filterMap_cons, ih, hmodule]
    rfl

theorem flatMap_importedModules {fs : List DeclaredFunction}
    (h : ∀ f ∈ fs, ∃ form, s.formOf paths f.file f.function = .ok form) :
    (fs.filterMap (s.form? paths)).flatMap (·.importedModules) = fs.flatMap s.neededModules := by
  induction fs with
  | nil => rfl
  | cons f fs ih =>
    obtain ⟨⟨form, hform⟩, hfs⟩ := List.forall_mem_cons.mp h
    have hsome : s.form? paths f = some form := by rw [form?, hform, Except.toOption]
    have hneeded : form.importedModules = s.neededModules f := filterMap_importedModule? (formOf_ok hform).2.2
    rw [List.filterMap_cons, hsome, List.flatMap_cons, List.flatMap_cons, ih hfs, hneeded]

/-- Where the table knows all its types, a descriptor calls the data type of each parameter by the table, and no other. -/
theorem names_describe {f : DeclaredFunction} {form : HandlerForm} (hform : s.formOf paths f.file f.function = .ok form)
    {t : ImportTable} (hknown : (form.describe t).2 = t) :
    List.Forall₂ (fun p (slot : DescribedParameter) => Option.Rel t.Names (s.dataType? p) slot.role.typeName?)
      f.function.signature.parameters (form.describe t).1.parameters := by
  refine forall₂_trans (fun p form slot hp hslot => ?_) (formOf_ok hform).2.2 (ImportTable.namesRole_nameParameters hknown)
  rw [hp.dataType?_eq]
  exact hslot.names

end Scope

/-- The import table of a module has the modules of the transport and of the runtime, and behind them those that the data
types of the public functions need, each once and where it is first needed. The descriptors call each data type by the
table, with the alias of an entry if its module has to be imported, and every entry behind the first ones stands in
the name of a type. -/
theorem imports_of_needed {o : Conventions} {files : List ModuleFile} {c : DispatchContext} (h : analyze o files = .ok c) :
    ∃ s, Scope.ofFiles files = .ok s ∧
      c.imports.entries.map (·.path) =
        (o.transportPath :: o.runtimePath :: (publicFunctions files).flatMap s.neededModules).eraseDups ∧
      List.Forall₂ (fun (f : DeclaredFunction) (d : Descriptor) => d.name = f.function.name ∧
          List.Forall₂ (fun p (slot : DescribedParameter) =>
            Option.Rel c.imports.Names (s.dataType? p) slot.role.typeName?) f.function.signature.parameters d.parameters)
        (publicFunctions files) c.descriptors ∧
      (∀ path name, c.imports.get? path = some name ↔ ⟨path, name⟩ ∈ c.imports.entries) ∧
      ∀ e ∈ c.imports.entries, e.path = o.transportPath ∨ e.path = o.runtimePath ∨
        ∃ d ∈ c.descriptors, ∃ slot ∈ d.parameters, ∃ item, slot.role.typeName? = some (e.aliasName ++ "::" ++ item) := by
  obtain ⟨s, _, hs, -, -⟩ := analyze_ok h
  obtain ⟨hdescriptors, hforms⟩ := descriptors_of_ok h hs
  have hall : ∀ f ∈ publicFunctions files, ∃ form, s.formOf o.injectedPaths f.file f.function = .ok form := by
    intro f hf
    obtain ⟨form, hform, -⟩ := hforms f hf
    exact ⟨form, hform⟩
  have himports : c.imports =
      .ofPaths (o.transportPath :: o.runtimePath :: (publicFunctions files).flatMap s.neededModules) := by
    rw [imports_of_ok h hs, importedModules, Scope.flatMap_importedModules hall]
  have hwell : c.imports.WellFormed := himports ▸ ImportTable.wellFormed_ofPaths _
  have hnames : ∀ f ∈ publicFunctions files, List.Forall₂ (fun p (slot : DescribedParameter) =>
      Option.Rel c.imports.Names (s.dataType? p) slot.role.typeName?) f.function.signature.parameters
        (s.describe o.injectedPaths c.imports f).parameters := by
    intro f hf
    obtain ⟨form, hform, hknown⟩ := hforms f hf
    rw [Scope.describe_of_form hform]
    exact Scope.names_describe hform hknown
  have hname : ∀ f ∈ publicFunctions files, (s.describe o.injectedPaths c.imports f).name = f.function.name := by
    intro f hf
    obtain ⟨form, hform, -⟩ := hforms f hf
    rw [Scope.describe_of_form hform]
    exact (Scope.formOf_ok hform).2.1
  refine ⟨s, hs, by rw [himports, ImportTable.paths_ofPaths], ?_, fun _ _ => hwell.get?_eq_some_iff, fun e he => ?_⟩
  · rw [hdescriptors, List.forall₂_map_right_iff, List.forall₂_same]
    exact fun f hf => ⟨hname f hf, hnames f hf⟩
  · have hpath := ImportTable.mem_of_mem_ofPaths (himports ▸ he)
    simp only [List.mem_cons, List.mem_flatMap] at hpath
    refine hpath.imp_right (Or.imp_right ?_)
    rintro ⟨f, hf, hneeded⟩
    obtain ⟨p, hp, hmodule⟩ := List.mem_filterMap.mp hneeded
    obtain ⟨type, htype, himported⟩ := Option.bind_eq_some_iff.mp hmodule
    obtain ⟨slot, hslot, hrel⟩ := exists_of_forall₂ (List.Forall₂.flip (hnames f hf)) p hp
    rw [htype] at hrel
    refine ⟨_, hdescriptors ▸ List.mem_map_of_mem hf, slot, hslot, ?_⟩
    generalize slot.role.typeName? = name? at hrel
    cases hrel with
    | some hname =>
      rw [ImportTable.Names, himported] at hname
      obtain ⟨qualifier, item, hget, rfl, -⟩ := hname
      have halias : qualifier = e.aliasName := by
        have hentry : c.imports.get? e.path = some e.aliasName := hwell.get?_eq_some_iff.mpr he
        exact Option.some.inj (hget.symm.trans hentry)
      exact ⟨item, by rw [halias]⟩

/-- A handler of a type from above the module in a box, one of another crate, and the first again. -/
theorem imports_of_needed_again :
    let o : Conventions := .ofModule "handlers"
    let user : TypeExpr := .path ⟨false, [], ⟨"User", .none⟩⟩
    let item : TypeExpr := .path ⟨false, [], ⟨"Item", .none⟩⟩
    let box : TypeExpr := .path ⟨false, [], ⟨"Box", .angle [item]⟩⟩
    let f : Function := ⟨"save", ⟨3, 8⟩, true, ⟨false, false, false, false, false,
      [.typed "a" ⟨3, 16⟩ box, .typed "b" ⟨3, 30⟩ user, .typed "c" ⟨3, 39⟩ item], none⟩⟩
    let file : ModuleFile := ⟨"h.rs", [.use ⟨1, 1⟩ (.path "api" (.path "models" (.name "User"))),
      .use ⟨2, 1⟩ (.path "super" (.path "models" (.name "Item"))), .function f]⟩
    ∃ c, analyze o [file] = .ok c ∧
      c.imports.entries.map (·.path) = ["handlergen::transport", "handlergen::web", "super::super::models", "api::models"] ∧
      c.descriptors.flatMap (·.parameters.filterMap (·.role.typeName?)) = ["models::Item", "models_1::User", "models::Item"] := by
  intro o user item box f file
  let s : Scope := ⟨[], [], [("User", ⟨["api", "models", "User"], ⟨"h.rs", ⟨1, 1⟩⟩⟩),
    ("Item", ⟨["super", "models", "Item"], ⟨"h.rs", ⟨2, 1⟩⟩⟩)], []⟩
  let form : HandlerForm := ⟨"save", ⟨"h.rs", ⟨3, 8⟩⟩,
    [⟨"a", .byPointer (.named (.external ["super", "models"] "Item"))⟩,
      ⟨"b", .byValue (.named (.external ["api", "models"] "User"))⟩,
      ⟨"c", .byValue (.named (.external ["super", "models"] "Item"))⟩], [], false⟩
  have hs : Scope.ofFiles [file] = .ok s := rfl
  have named {name : String} {r : Resolution} (hname : name ∉ scalarNames) (htext : name ≠ "str")
      (hresolve : s.resolve ⟨false, [], ⟨name, .none⟩⟩ = r) (hitem : s.IsTypeItem r) :
      s.shapeWithin aliasLimit (.path ⟨false, [], ⟨name, .none⟩⟩) = .named r := by
    refine Scope.shapeWithin_named ⟨⟨rfl, hresolve, hitem, Scope.not_isScalar hname ?_⟩, ?_⟩
    · simp [Path.isStandard, Path.names, Path.segments]
    · rintro ⟨-, hstr, -⟩
      exact htext hstr
  have huser : s.shapeWithin aliasLimit user = .named (.external ["api", "models"] "User") :=
    named (by decide) (by decide) rfl trivial
  have hitem : s.shapeWithin aliasLimit item = .named (.external ["super", "models"] "Item") :=
    named (by decide) (by decide) rfl trivial
  have hbox : s.shapeWithin aliasLimit box = .boxed (.named (.external ["super", "models"] "Item")) := by
    rw [Scope.shapeWithin_box ⟨rfl, rfl, Or.inl ⟨rfl, by decide⟩⟩, hitem]
  have hparameters : s.parameterForms o.injectedPaths [] f.signature.parameters = .ok form.parameters := by
    simp only [f, Scope.parameterForms, Scope.shape, huser, hitem, hbox]
    rfl
  have hform : s.formOf o.injectedPaths file f = .ok form :=
    Scope.formOf_eq_ok_iff.mpr ⟨rfl, rfl, rfl, hparameters, rfl⟩
  have hpublic : publicFunctions [file] = [⟨file, f⟩] := rfl
  have hforms : handlerForms s o.injectedPaths (declaredFunctions [file]) = .ok [form] := by
    have hdeclared : declaredFunctions [file] = [⟨file, f⟩] := rfl
    rw [hdeclared, handlerForms, hform]
    rfl
  have h : analyze o [file] = .ok (contextOf o [form]) := analyze_of_forms (by simp) hs hforms
  obtain ⟨s', hs', hpaths, -, -, -⟩ := imports_of_needed h
  obtain rfl : s = s' := Except.ok.inj (hs.symm.trans hs')
  have hneeded : s.neededModules ⟨file, f⟩ = ["super::super::models", "api::models", "super::super::models"] := by
    simp only [Scope.neededModules, f, List.filterMap_cons, Scope.neededModule?, Scope.dataType?, Scope.shape, huser, hitem,
      hbox]
    rfl
  refine ⟨_, h, ?_, by decide⟩
  rw [hpaths, hpublic, List.flatMap_singleton, hneeded]
  decide

end Switchboard
