import Switchboard.Proofs.ScopeAgreement
import Switchboard.Proofs.TypeNames

/-! # The order of the files of a module

A module can be split over files, and these can be given in any order. Where each type is declared once, the order
decides neither whether the module can be analysed nor what its handlers look like. It decides the order of the handlers,
and since the import table fills in that order, which of two modules of the same last name has to take an alias with a
number (`analyze_perm`). -/

namespace Switchboard

open Source

/-! ### Public functions and their forms -/

/-- The public functions of some files, in file and item order. -/
def publicFunctions (files : List ModuleFile) : List DeclaredFunction :=
  (declaredFunctions files).filter (·.function.isCandidate)

theorem publicFunctions_perm {files files' : List ModuleFile} (h : files.Perm files') :
    (publicFunctions files).Perm (publicFunctions files') :=
  (h.flatMap_right _).filter _

/-- The form of a function, if it has one. -/
def Scope.form? (s : Scope) (paths : InjectedPaths) (f : DeclaredFunction) : Option HandlerForm :=
  (s.formOf paths f.file f.function).toOption

/-- The forms of a module exist exactly if each public function has one. -/
theorem exists_handlerForms_iff {s : Scope} {paths : InjectedPaths} {ds : List DeclaredFunction} :
    (∃ forms, handlerForms s paths ds = .ok forms) ↔
      ∀ d ∈ ds.filter (·.function.isCandidate), ∃ form, s.formOf paths d.file d.function = .ok form := by
  induction ds with
  | nil => simp [handlerForms]
  | cons d ds ih =>
    rw [handlerForms]
    by_cases hc : d.function.isCandidate = true
    · rw [if_pos hc, List.filter_cons, if_pos hc, List.forall_mem_cons, ← ih]
      cases s.formOf paths d.file d.function with
      | error e => simp
      | ok form => cases handlerForms s paths ds <;> simp
    · rw [if_neg hc, List.filter_cons, if_neg hc, ih]

theorem handlerForms_eq_filterMap {s : Scope} {paths : InjectedPaths} {files : List ModuleFile} {forms : List HandlerForm}
    (h : handlerForms s paths (declaredFunctions files) = .ok forms) :
    forms = (publicFunctions files).filterMap (s.form? paths) := by
  have hforms := handlerForms_ok h
  rw [publicFunctions]
  generalize (declaredFunctions files).filter (·.function.isCandidate) = fs at hforms
  clear h
  induction hforms with
  | nil => rfl
  | cons hform _ ih =>
    rw [List.filterMap_cons]
    simp only [Scope.form?, hform, Except.toOption]
    rw [ih]

/-- A module can be analysed exactly if it has a file, a scope, and a form for each public function. -/
theorem exists_analyze_iff {o : Conventions} {files : List ModuleFile} :
    (∃ c, analyze o files = .ok c) ↔ files ≠ [] ∧ ∃ s, Scope.ofFiles files = .ok s ∧
      ∀ f ∈ publicFunctions files, ∃ form, s.formOf o.injectedPaths f.file f.function = .ok form := by
  constructor
  · rintro ⟨c, h⟩
    obtain ⟨s, forms, hs, hforms, -⟩ := analyze_ok h
    refine ⟨?_, s, hs, exists_handlerForms_iff.mp ⟨forms, hforms⟩⟩
    rintro rfl
    cases h
  · rintro ⟨hfiles, s, hs, hall⟩
    obtain ⟨forms, hforms⟩ := exists_handlerForms_iff.mpr hall
    exact ⟨_, analyze_of_forms hfiles hs hforms⟩

theorem Scope.formOf_position {s : Scope} {paths : InjectedPaths} {file : ModuleFile} {f : Function} {form : HandlerForm}
    (h : s.formOf paths file f = .ok form) : form.position = file.position f.mark :=
  (formOf_eq_ok_iff.mp h).2.2.1

/-! ### Scopes of permuted files -/

theorem entries_perm {files files' : List ModuleFile} (h : files.Perm files') :
    (files.flatMap (·.entries)).Perm (files'.flatMap (·.entries)) :=
  h.flatMap_right _

theorem filterMap_typeName_flatMap (files : List ModuleFile) :
    (files.flatMap (·.entries)).filterMap (·.typeName?) = files.flatMap (·.typeNames) := by
  rw [List.filterMap_flatMap]
  simp only [ModuleFile.filterMap_typeName]

/-- Permuted files that declare no type twice have scopes that agree, or none. -/
theorem Scope.agrees_of_files_perm {files files' : List ModuleFile} (hperm : files.Perm files')
    (hnodup : (files.flatMap (·.typeNames)).Nodup) {s s' : Scope} (hs : ofFiles files = .ok s)
    (hs' : ofFiles files' = .ok s') : s.Agrees s' := by
  refine agrees_of_perm (collects_of_ofFiles hs) (collects_of_ofFiles hs') (entries_perm hperm) ?_
  rwa [filterMap_typeName_flatMap]

theorem Scope.exists_of_files_perm {files files' : List ModuleFile} (hperm : files.Perm files')
    (h : ∃ s, ofFiles files = .ok s) : ∃ s, ofFiles files' = .ok s :=
  exists_scope_iff.mpr ((exists_scope_iff.mp h).perm (entries_perm hperm))

/-! ### Success -/

theorem exists_analyze_of_perm {o : Conventions} {files files' : List ModuleFile} (hperm : files.Perm files')
    (hnodup : (files.flatMap (·.typeNames)).Nodup) (h : ∃ c, analyze o files = .ok c) :
    ∃ c, analyze o files' = .ok c := by
  obtain ⟨hfiles, s, hs, hall⟩ := exists_analyze_iff.mp h
  obtain ⟨s', hs'⟩ := Scope.exists_of_files_perm hperm ⟨s, hs⟩
  have hagree := Scope.agrees_of_files_perm hperm hnodup hs hs'
  refine exists_analyze_iff.mpr ⟨fun e => hfiles (by rw [e] at hperm; exact hperm.eq_nil), s', hs', fun f hf => ?_⟩
  obtain ⟨form, hform⟩ := hall f ((publicFunctions_perm hperm).mem_iff.mpr hf)
  exact ⟨form, (hagree.formOf _ _ _).symm.trans hform⟩

/-! ### Descriptors -/

/-- Two descriptors of a handler with a form: they are alike, and the names of types stand by each one's table for the
types of the form. -/
structure DeclaredFunction.IsDescribedAlike (f : DeclaredFunction) (form : HandlerForm) (t t' : ImportTable)
    (d d' : Descriptor) : Prop where
  name : d.name = f.function.name ∧ d'.name = d.name
  position : d.position = f.file.position f.function.mark ∧ d'.position = d.position
  sourceNames : d'.parameters.map (·.sourceName) = d.parameters.map (·.sourceName)
  variableNames : d'.parameters.map (·.variableName) = d.parameters.map (·.variableName)
  decodableCount : d'.decodableCount = d.decodableCount
  results : d'.results = d.results
  returnsTuple : d'.returnsTuple = d.returnsTuple
  roles : List.Forall₂ (fun (p : ParameterForm) (slot : DescribedParameter) => t.NamesRole p.role slot.role)
    form.parameters d.parameters
  roles' : List.Forall₂ (fun (p : ParameterForm) (slot : DescribedParameter) => t'.NamesRole p.role slot.role)
    form.parameters d'.parameters

/-- What a function is described as by a table. -/
def Scope.describe (s : Scope) (paths : InjectedPaths) (t : ImportTable) (f : DeclaredFunction) : Descriptor :=
  match s.formOf paths f.file f.function with
  | .ok form => (form.describe t).1
  | .error _ => ⟨f.function.name, [], [], false, 0, f.file.position f.function.mark⟩

theorem Scope.describe_of_form {s : Scope} {paths : InjectedPaths} {f : DeclaredFunction} {form : HandlerForm}
    (h : s.formOf paths f.file f.function = .ok form) (t : ImportTable) : s.describe paths t f = (form.describe t).1 := by
  rw [describe, h]

theorem map_describe_of_forms {s : Scope} {paths : InjectedPaths} {fs : List DeclaredFunction} {forms : List HandlerForm}
    (h : List.Forall₂ (fun (f : DeclaredFunction) form => s.formOf paths f.file f.function = .ok form) fs forms)
    (t : ImportTable) : forms.map (fun form => (form.describe t).1) = fs.map (s.describe paths t) := by
  induction h with
  | nil => rfl
  | cons hform _ ih => rw [List.map_cons, List.map_cons, Scope.describe_of_form hform, ih]

/-- The handlers of a module are its public functions, described by the finished table, which knows all their types. -/
theorem descriptors_of_ok {o : Conventions} {files : List ModuleFile} {c : DispatchContext} {s : Scope}
    (h : analyze o files = .ok c) (hs : Scope.ofFiles files = .ok s) :
    c.descriptors = (publicFunctions files).map (s.describe o.injectedPaths c.imports) ∧
      ∀ f ∈ publicFunctions files, ∃ form, s.formOf o.injectedPaths f.file f.function = .ok form ∧
        (form.describe c.imports).2 = c.imports := by
  obtain ⟨s', forms, hs', hforms, rfl⟩ := analyze_ok h
  obtain rfl : s = s' := Except.ok.inj (hs.symm.trans hs')
  obtain ⟨hdescriptors, hknown⟩ := describeAll_eq_map (ImportTable.Extends.refl (contextOf o forms).imports)
  have hof := handlerForms_ok hforms
  rw [← publicFunctions] at hof
  refine ⟨hdescriptors.trans (map_describe_of_forms hof _), fun f hf => ?_⟩
  have hflip : List.Forall₂ (fun form (f : DeclaredFunction) => s.formOf o.injectedPaths f.file f.function = .ok form)
      forms (publicFunctions files) := List.Forall₂.flip hof
  obtain ⟨form, hmem, hform⟩ := exists_of_forall₂ hflip f hf
  exact ⟨form, hform, hknown form hmem⟩

theorem HandlerForm.isDescribedAlike {f : DeclaredFunction} {form : HandlerForm} {s : Scope} {paths : InjectedPaths}
    (hform : s.formOf paths f.file f.function = .ok form) {t t' : ImportTable} (h : (form.describe t).2 = t)
    (h' : (form.describe t').2 = t') : f.IsDescribedAlike form t t' (form.describe t).1 (form.describe t').1 where
  name := ⟨(Scope.formOf_ok hform).2.1, rfl⟩
  position := ⟨Scope.formOf_position hform, rfl⟩
  sourceNames := (nameParameters_sourceName t' 0 form.parameters).trans (nameParameters_sourceName t 0 form.parameters).symm
  variableNames := nameParameters_variableName_congr t' t 0 form.parameters
  decodableCount := (decodableCount_describe form t').trans (decodableCount_describe form t).symm
  results := rfl
  returnsTuple := rfl
  roles := ImportTable.namesRole_nameParameters h
  roles' := ImportTable.namesRole_nameParameters h'

/-! ### Imports -/

/-- The imports of a module are decided by its scope and the list of its public functions. -/
theorem imports_of_ok {o : Conventions} {files : List ModuleFile} {c : DispatchContext} {s : Scope}
    (h : analyze o files = .ok c) (hs : Scope.ofFiles files = .ok s) :
    c.imports = .ofPaths (importedModules o ((publicFunctions files).filterMap (s.form? o.injectedPaths))) := by
  obtain ⟨s', forms, hs', hforms, rfl⟩ := analyze_ok h
  obtain rfl : s = s' := Except.ok.inj (hs.symm.trans hs')
  rw [imports_contextOf, ← handlerForms_eq_filterMap hforms]

theorem mem_importedModules_perm {o : Conventions} {forms forms' : List HandlerForm} (h : forms.Perm forms')
    (path : String) : path ∈ importedModules o forms ↔ path ∈ importedModules o forms' := by
  simp only [importedModules, List.mem_cons, (h.flatMap_right _).mem_iff]

/-! ### Files in another order -/

/-- Files that declare no type twice can be analysed in each order or in none. In whatever order, the handlers are the same
public functions, each described alike: what its parameters and results are, their names and variables do not change, and
the names of types stand for the same types by the import table of either order. Both tables have the same paths. -/
theorem analyze_perm (o : Conventions) {files files' : List ModuleFile} (hperm : files.Perm files')
    (hnodup : (files.flatMap (·.typeNames)).Nodup) :
    ((∃ c, analyze o files = .ok c) ↔ ∃ c', analyze o files' = .ok c') ∧
    ∀ c c', analyze o files = .ok c → analyze o files' = .ok c' →
      ∃ (s : Scope) (describe describe' : DeclaredFunction → Descriptor), Scope.ofFiles files = .ok s ∧
        (publicFunctions files).Perm (publicFunctions files') ∧
        c.descriptors = (publicFunctions files).map describe ∧
        c'.descriptors = (publicFunctions files').map describe' ∧
        (∀ f ∈ publicFunctions files, ∃ form, s.formOf o.injectedPaths f.file f.function = .ok form ∧
          f.IsDescribedAlike form c.imports c'.imports (describe f) (describe' f)) ∧
        ∀ path, path ∈ c.imports.entries.map (·.path) ↔ path ∈ c'.imports.entries.map (·.path) := by
  have hnodup' : (files'.flatMap (·.typeNames)).Nodup := (hperm.flatMap_right _).nodup_iff.mp hnodup
  refine ⟨⟨exists_analyze_of_perm hperm hnodup, exists_analyze_of_perm hperm.symm hnodup'⟩, fun c c' h h' => ?_⟩
  obtain ⟨s, _, hs, -, -⟩ := analyze_ok h
  obtain ⟨s', _, hs', -, -⟩ := analyze_ok h'
  have hagree := Scope.agrees_of_files_perm hperm hnodup hs hs'
  have hfunctions := publicFunctions_perm hperm
  obtain ⟨hdescriptors, hforms⟩ := descriptors_of_ok h hs
  obtain ⟨hdescriptors', hforms'⟩ := descriptors_of_ok h' hs'
  refine ⟨s, _, _, hs, hfunctions, hdescriptors, hdescriptors', fun f hf => ?_, fun path => ?_⟩
  · obtain ⟨form, hform, hknown⟩ := hforms f hf
    obtain ⟨form', hform', hknown'⟩ := hforms' f (hfunctions.mem_iff.mp hf)
    obtain rfl : form = form' := Except.ok.inj (hform.symm.trans ((hagree.formOf _ _ _).trans hform'))
    rw [Scope.describe_of_form hform, Scope.describe_of_form hform']
    exact ⟨form, hform, form.isDescribedAlike hform hknown hknown'⟩
  · have hsame : s.form? o.injectedPaths = s'.form? o.injectedPaths := by
      funext f
      rw [Scope.form?, Scope.form?, hagree.formOf]
    rw [imports_of_ok h hs, imports_of_ok h' hs', ImportTable.mem_ofPaths_iff, ImportTable.mem_ofPaths_iff, hsame]
    exact mem_importedModules_perm (hfunctions.filterMap _) path

/-- Two files, each with a handler of a type from a module `models`: the first file's module is called by its own name, and
the other's with a number. -/
theorem analyze_perm_models :
    let o : Conventions := .ofModule "handlers"
    let signature (type : String) : Signature :=
      ⟨false, false, false, false, false, [.typed "x" ⟨2, 13⟩ (.path ⟨false, [], ⟨type, .none⟩⟩)], none⟩
    let file (path crate type name : String) : ModuleFile :=
      ⟨path, [.use ⟨1, 1⟩ (.path crate (.path "models" (.name type))), .function ⟨name, ⟨2, 8⟩, true, signature type⟩]⟩
    let a := file "a.rs" "api" "User" "find"
    let b := file "b.rs" "db" "Item" "load"
    ∃ c c', analyze o [a, b] = .ok c ∧ analyze o [b, a] = .ok c' ∧
      c.imports.get? "api::models" = some "models" ∧ c'.imports.get? "api::models" = some "models_1" ∧
      ∀ path, path ∈ c.imports.entries.map (·.path) ↔ path ∈ c'.imports.entries.map (·.path) := by
  intro o signature file a b
  let form (path crate type name : String) : HandlerForm :=
    ⟨name, ⟨path, ⟨2, 8⟩⟩, [⟨"x", .byValue (.named (.external [crate, "models"] type))⟩], [], false⟩
  have hform {s : Scope} (path crate type name : String)
      (hnamed : s.IsNamed ⟨false, [], ⟨type, .none⟩⟩ (.external [crate, "models"] type)) :
      s.formOf o.injectedPaths (file path crate type name) ⟨name, ⟨2, 8⟩, true, signature type⟩ =
        .ok (form path crate type name) := by
    have hshape : s.shape (.path ⟨false, [], ⟨type, .none⟩⟩) = .named (.external [crate, "models"] type) :=
      Scope.shapeWithin_named hnamed
    have hparameters : s.parameterForms o.injectedPaths [] (signature type).parameters =
        .ok (form path crate type name).parameters := by
      simp only [signature, Scope.parameterForms, hshape]
      rfl
    unfold Scope.formOf
    simp only [hparameters]
    rfl
  have named {s : Scope} {crate type : String}
      (hresolve : s.resolve ⟨false, [], ⟨type, .none⟩⟩ = .external [crate, "models"] type)
      (hname : type ∉ scalarNames) (htext : type ≠ "str") :
      s.IsNamed ⟨false, [], ⟨type, .none⟩⟩ (.external [crate, "models"] type) := by
    refine ⟨⟨rfl, hresolve, trivial, Scope.not_isScalar hname (by simp [Path.isStandard, Path.names, Path.segments])⟩, ?_⟩
    rintro ⟨-, hstr, -⟩
    exact htext hstr
  let user : String × Import := ("User", ⟨["api", "models", "User"], ⟨"a.rs", ⟨1, 1⟩⟩⟩)
  let item : String × Import := ("Item", ⟨["db", "models", "Item"], ⟨"b.rs", ⟨1, 1⟩⟩⟩)
  let s : Scope := ⟨[], [], [user, item], []⟩
  let s' : Scope := ⟨[], [], [item, user], []⟩
  have hs : Scope.ofFiles [a, b] = .ok s := rfl
  have hs' : Scope.ofFiles [b, a] = .ok s' := rfl
  have hdeclared : declaredFunctions [a, b] =
      [⟨a, ⟨"find", ⟨2, 8⟩, true, signature "User"⟩⟩, ⟨b, ⟨"load", ⟨2, 8⟩, true, signature "Item"⟩⟩] := rfl
  have hdeclared' : declaredFunctions [b, a] =
      [⟨b, ⟨"load", ⟨2, 8⟩, true, signature "Item"⟩⟩, ⟨a, ⟨"find", ⟨2, 8⟩, true, signature "User"⟩⟩] := rfl
  have hforms : handlerForms s o.injectedPaths (declaredFunctions [a, b]) =
      .ok [form "a.rs" "api" "User" "find", form "b.rs" "db" "Item" "load"] := by
    rw [hdeclared, handlerForms, handlerForms, hform "a.rs" "api" "User" "find" (named rfl (by decide) (by decide)),
      hform "b.rs" "db" "Item" "load" (named rfl (by decide) (by decide))]
    rfl
  have hforms' : handlerForms s' o.injectedPaths (declaredFunctions [b, a]) =
      .ok [form "b.rs" "db" "Item" "load", form "a.rs" "api" "User" "find"] := by
    rw [hdeclared', handlerForms, handlerForms, hform "a.rs" "api" "User" "find" (named rfl (by decide) (by decide)),
      hform "b.rs" "db" "Item" "load" (named rfl (by decide) (by decide))]
    rfl
  have h := analyze_of_forms (by simp) hs hforms
  have h' := analyze_of_forms (by simp) hs' hforms'
  have hperm : [a, b].Perm [b, a] := List.Perm.swap b a []
  obtain ⟨-, hsame⟩ := analyze_perm o hperm (by simp [a, b, file, ModuleFile.typeNames, Item.typeName?])
  obtain ⟨_, _, _, -, -, -, -, -, hpaths⟩ := hsame _ _ h h'
  exact ⟨_, _, h, h', by decide, by decide, hpaths⟩

end Switchboard
