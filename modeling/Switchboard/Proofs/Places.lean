import Switchboard.Proofs.Handlers
import Switchboard.Proofs.ScopeAgreement

/-! # Places in files

What an item means does not depend on where it stands in the text of its file. Places are kept for what is reported, and
nothing is decided by them: files without their marks have the scope and the analysis that the files themselves have, but
for the marks of what comes out (`Scope.ofFiles_unmarked`, `analyze_unmarked`). So files that differ in marks alone, as
when an item is put in front of others, fare alike. -/

namespace Switchboard

open Source

/-! ### Without marks -/

/-- A place of which the file alone is known. -/
def Position.unmarked (p : Position) : Position := ⟨p.file, .start⟩

def Source.Parameter.unmarked : Parameter → Parameter
  | .receiver _ => .receiver .start
  | .typed name _ type => .typed name .start type

def Source.Function.unmarked (f : Function) : Function :=
  { f with
    mark := .start
    signature := { f.signature with parameters := f.signature.parameters.map (·.unmarked) } }

def Source.Item.unmarked : Item → Item
  | .function f => .function f.unmarked
  | .use _ tree => .use .start tree
  | item => item

def ModuleFile.unmarked (file : ModuleFile) : ModuleFile := ⟨file.path, file.items.map (·.unmarked)⟩

def DeclaredFunction.unmarked (d : DeclaredFunction) : DeclaredFunction := ⟨d.file.unmarked, d.function.unmarked⟩

def ScopeEntry.unmarked : ScopeEntry → ScopeEntry
  | .imports position leaf => .imports position.unmarked leaf
  | e => e

def Import.unmarked (i : Import) : Import := ⟨i.path, i.position.unmarked⟩

def Scope.unmarked (s : Scope) : Scope := { s with imports := s.imports.map fun p => (p.1, p.2.unmarked) }

def ImportConflict.unmarked (c : ImportConflict) : ImportConflict := { c with position := c.position.unmarked }

def HandlerForm.unmarked (h : HandlerForm) : HandlerForm := { h with position := h.position.unmarked }

def HandlerRejection.unmarked (r : HandlerRejection) : HandlerRejection := { r with position := r.position.unmarked }

def Descriptor.unmarked (d : Descriptor) : Descriptor := { d with position := d.position.unmarked }

/-- The context with the same handlers and imports, but for the places where the handlers are declared. -/
def DispatchContext.unmarked (c : DispatchContext) : DispatchContext :=
  { c with descriptors := c.descriptors.map (·.unmarked) }

def AnalysisFault.unmarked : AnalysisFault → AnalysisFault
  | unreadable path fault => unreadable path fault
  | malformed position => malformed position.unmarked
  | conflictingImport c => conflictingImport c.unmarked
  | noInput => noInput
  | rejected r => rejected r.unmarked

/-- Outcomes that are the same but for what is left out of them are both successes or both failures. -/
theorem outcome_of_left_out {ε α : Type} {f : α → α} {g : ε → ε} {x y : Except ε α}
    (h : (x.map f).mapError g = (y.map f).mapError g) :
    (∀ a, x = .ok a → ∃ b, y = .ok b ∧ f b = f a) ∧ ∀ e, x = .error e → ∃ e', y = .error e' ∧ g e' = g e := by
  constructor
  · rintro a rfl
    cases y with
    | ok b => exact ⟨b, rfl, (Except.ok.inj h).symm⟩
    | error e => cases h
  · rintro e rfl
    cases y with
    | ok b => cases h
    | error e' => exact ⟨e', rfl, (Except.error.inj h).symm⟩

/-! ### Scopes -/

namespace NameMap

variable {α β : Type} (f : α → β)

theorem get?_map (m : NameMap α) (name : String) : get? (m.map fun p => (p.1, f p.2)) name = (m.get? name).map f := by
  induction m with
  | nil => rfl
  | cons p m ih =>
    obtain ⟨n, a⟩ := p
    rw [List.map_cons, get?_cons, get?_cons, ih]
    split <;> rfl

theorem set_map (m : NameMap α) (name : String) (a : α) :
    set (m.map fun p => (p.1, f p.2)) name (f a) = (m.set name a).map fun p => (p.1, f p.2) := by
  induction m with
  | nil => rfl
  | cons p m ih =>
    obtain ⟨n, b⟩ := p
    simp only [List.map_cons, set, ih]
    split <;> rfl

end NameMap

theorem ModuleFile.position_unmarked (file : ModuleFile) (m : Mark) :
    file.unmarked.position .start = (file.position m).unmarked := rfl

theorem Source.Item.entries_unmarked (file : ModuleFile) (item : Item) :
    item.unmarked.entries file.unmarked = (item.entries file).map (·.unmarked) := by
  cases item with
  | use mark tree =>
    rw [unmarked, entries, entries, List.map_map, file.position_unmarked mark]
    rfl
  | function | declaration | typeAlias | module | other => rfl

theorem ModuleFile.entries_unmarked (file : ModuleFile) : file.unmarked.entries = file.entries.map (·.unmarked) := by
  rw [entries, entries, List.map_flatMap]
  simp only [unmarked, List.flatMap_map]
  exact List.flatMap_congr fun item _ => item.entries_unmarked file

namespace Scope

variable (s : Scope)

theorem get?_imports_unmarked (name : String) :
    s.unmarked.imports.get? name = (s.imports.get? name).map (·.unmarked) :=
  NameMap.get?_map _ s.imports name

/-- A step of the collection does not look at marks. -/
theorem addEntry_unmarked (e : ScopeEntry) :
    s.unmarked.addEntry e.unmarked = ((s.addEntry e).map (·.unmarked)).mapError (·.unmarked) := by
  rcases e with ⟨name, type⟩ | name | ⟨position, ⟨name, path⟩ | m⟩
  case imports.binding =>
    simp only [addEntry, ScopeEntry.unmarked, addLeaf, addBinding, get?_imports_unmarked]
    cases s.imports.get? name with
    | none =>
      have hset := NameMap.set_map (·.unmarked) s.imports name ⟨path, position⟩
      simp only [Option.map_none, Except.map, Except.mapError, unmarked, ← hset]
      rfl
    | some known =>
      simp only [Option.map_some, Import.unmarked]
      split <;> rfl
  case imports.glob =>
    have hglobs : s.unmarked.globs = s.globs := rfl
    simp only [addEntry, ScopeEntry.unmarked, addLeaf, Except.map, Except.mapError, Except.ok.injEq, hglobs]
    split <;> rfl
  all_goals rfl

theorem foldlM_unmarked (entries : List ScopeEntry) : (entries.map (·.unmarked)).foldlM addEntry s.unmarked =
    ((entries.foldlM addEntry s).map (·.unmarked)).mapError (·.unmarked) := by
  induction entries generalizing s with
  | nil => rfl
  | cons e entries ih =>
    rw [List.map_cons, List.foldlM_cons, List.foldlM_cons, s.addEntry_unmarked]
    cases s.addEntry e with
    | error c => rfl
    | ok s => exact ih s

theorem ofFiles_unmarked (files : List ModuleFile) :
    ofFiles (files.map (·.unmarked)) = ((ofFiles files).map (·.unmarked)).mapError (·.unmarked) := by
  have hentries : (files.map (·.unmarked)).flatMap (·.entries) = (files.flatMap (·.entries)).map (·.unmarked) := by
    rw [List.flatMap_map, List.map_flatMap]
    exact List.flatMap_congr fun file _ => file.entries_unmarked
  rw [ofFiles_eq_foldlM, ofFiles_eq_foldlM, hentries]
  exact foldlM_unmarked empty _

theorem agrees_unmarked : s.unmarked.Agrees s where
  types _ := rfl
  modules _ := Iff.rfl
  imports name := by
    rw [get?_imports_unmarked, Option.map_map]
    rfl
  globs _ := Iff.rfl

/-! ### Forms -/

variable {s}

theorem parameterForms_unmarked (paths : InjectedPaths) (taken : List Injected) (ps : List Parameter) :
    s.parameterForms paths taken (ps.map (·.unmarked)) =
      (s.parameterForms paths taken ps).mapError fun e => (.start, e.2) := by
  induction ps generalizing taken with
  | nil => rfl
  | cons p ps ih =>
    cases p with
    | receiver mark => rfl
    | typed name mark type =>
      have hunmarked : (Parameter.typed name mark type).unmarked = .typed name .start type := rfl
      rw [List.map_cons, hunmarked, parameterForms, parameterForms]
      cases s.roleOf paths (s.shape type) with
      | error fault => rfl
      | ok role =>
        cases role with
        | injected what =>
          simp only [ih]
          split
          · rfl
          · cases s.parameterForms paths (what :: taken) ps <;> rfl
        | byValue type | byPointer type =>
          simp only [ih]
          cases s.parameterForms paths taken ps <;> rfl

theorem formOf_unmarked (paths : InjectedPaths) (file : ModuleFile) (f : Function) :
    s.formOf paths file.unmarked f.unmarked = ((s.formOf paths file f).map (·.unmarked)).mapError (·.unmarked) := by
  have hfault : f.unmarked.signature.fault? = f.signature.fault? := rfl
  have hparameters : f.unmarked.signature.parameters = f.signature.parameters.map (·.unmarked) := rfl
  rw [formOf, formOf, hfault, hparameters, parameterForms_unmarked]
  cases f.signature.fault? with
  | some fault => rfl
  | none => cases s.parameterForms paths [] f.signature.parameters <;> rfl

end Scope

theorem declaredFunctions_unmarked (files : List ModuleFile) :
    declaredFunctions (files.map (·.unmarked)) = (declaredFunctions files).map (·.unmarked) := by
  have hfunctions (file : ModuleFile) : file.unmarked.functions = file.functions.map (·.unmarked) := by
    rw [ModuleFile.functions, ModuleFile.functions, List.map_filterMap, ModuleFile.unmarked, List.filterMap_map]
    refine List.filterMap_congr fun item _ => ?_
    cases item <;> rfl
  rw [declaredFunctions, declaredFunctions, List.flatMap_map, List.map_flatMap]
  refine List.flatMap_congr fun file _ => ?_
  rw [hfunctions, List.map_map, List.map_map]
  rfl

theorem Scope.Agrees.handlerForms {s s' : Scope} (h : s.Agrees s') (paths : InjectedPaths) (ds : List DeclaredFunction) :
    handlerForms s paths ds = handlerForms s' paths ds := by
  induction ds with
  | nil => rfl
  | cons d ds ih => rw [Switchboard.handlerForms, Switchboard.handlerForms, h.formOf, ih]

theorem handlerForms_unmarked (s : Scope) (paths : InjectedPaths) (ds : List DeclaredFunction) :
    handlerForms s paths (ds.map (·.unmarked)) =
      ((handlerForms s paths ds).map (List.map (·.unmarked))).mapError (·.unmarked) := by
  induction ds with
  | nil => rfl
  | cons d ds ih =>
    have hcandidate : d.unmarked.function.isCandidate = d.function.isCandidate := rfl
    have hform := Scope.formOf_unmarked (s := s) paths d.file d.function
    rw [List.map_cons, handlerForms, handlerForms, hcandidate, ih]
    split
    · rw [DeclaredFunction.unmarked, hform]
      cases s.formOf paths d.file d.function with
      | error r => rfl
      | ok form => cases handlerForms s paths ds <;> rfl
    · rfl

/-! ### Contexts -/

theorem describeAll_unmarked (t : ImportTable) (forms : List HandlerForm) :
    describeAll t (forms.map (·.unmarked)) = ((describeAll t forms).1.map (·.unmarked), (describeAll t forms).2) := by
  induction forms generalizing t with
  | nil => rfl
  | cons form forms ih =>
    have hdescribe : form.unmarked.describe t = ((form.describe t).1.unmarked, (form.describe t).2) := rfl
    simp only [List.map_cons, describeAll, hdescribe, ih]

theorem contextOf_unmarked (o : Conventions) (forms : List HandlerForm) :
    contextOf o (forms.map (·.unmarked)) = (contextOf o forms).unmarked := by
  simp only [contextOf, describeAll_unmarked, DispatchContext.unmarked]

/-- Files without their marks are analysed as the files are, but for the marks of what comes out. -/
theorem analyze_unmarked (o : Conventions) (files : List ModuleFile) :
    analyze o (files.map (·.unmarked)) = ((analyze o files).map (·.unmarked)).mapError (·.unmarked) := by
  rw [analyze, analyze, List.isEmpty_map, Scope.ofFiles_unmarked]
  split
  · rfl
  · cases Scope.ofFiles files with
    | error c => rfl
    | ok s =>
      simp only [Except.map, Except.mapError, s.agrees_unmarked.handlerForms, declaredFunctions_unmarked,
        handlerForms_unmarked]
      cases handlerForms s o.injectedPaths (declaredFunctions files) with
      | error r => rfl
      | ok forms => exact congrArg Except.ok (contextOf_unmarked o forms)

end Switchboard
