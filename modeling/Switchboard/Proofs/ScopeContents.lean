import Mathlib.Data.List.Basic
import Mathlib.Data.List.Induction
import Switchboard.Scope.Basic

/-! # What a scope holds

The items of a module add entries to its scope: types that they declare, child modules, and the leaves of import
declarations (`ofFiles_eq_foldlM`). What the scope answers depends on its entries in a simple way (`Collects`): of a type
that is declared several times the last declaration counts, and of everything else only that it is among the entries. So
a module has a scope exactly if no two of its entries import one name from different paths (`exists_scope_iff`). -/

namespace Switchboard

open Source

/-- One thing that an item adds to the scope of its module. -/
inductive ScopeEntry where
  | declares (name : String) (type : DeclaredType)
  | module (name : String)
  | imports (position : Position) (leaf : ImportLeaf)

/-- What an item of a file adds to the scope, in order. -/
def Source.Item.entries (file : ModuleFile) : Item → List ScopeEntry
  | .declaration kind name => [.declares name (.declared kind)]
  | .typeAlias name target spelling isGeneric => [.declares name (.typeAlias target spelling isGeneric)]
  | .module name => [.module name]
  | .use mark tree => tree.leaves.map (.imports (file.position mark))
  | .function _ => []
  | .other => []

/-- What a file adds to the scope, in order. -/
def ModuleFile.entries (file : ModuleFile) : List ScopeEntry :=
  file.items.flatMap (·.entries file)

/-- What the entry declares under a name. -/
def ScopeEntry.typeNamed? (name : String) : ScopeEntry → Option DeclaredType
  | .declares n type => if n = name then some type else none
  | _ => none

/-- The name of a type that the entry declares. -/
def ScopeEntry.typeName? : ScopeEntry → Option String
  | .declares name _ => some name
  | _ => none

/-- The name of a type that the item declares. -/
def Source.Item.typeName? : Item → Option String
  | .declaration _ name => some name
  | .typeAlias name _ _ _ => some name
  | _ => none

/-- The names of the types that a file declares, in order. -/
def ModuleFile.typeNames (file : ModuleFile) : List String :=
  file.items.filterMap (·.typeName?)

theorem ModuleFile.filterMap_typeName (file : ModuleFile) : file.entries.filterMap (·.typeName?) = file.typeNames := by
  rw [entries, typeNames, List.filterMap_flatMap]
  have hitem (item : Item) : (item.entries file).filterMap (·.typeName?) = item.typeName?.toList := by
    cases item with
    | use mark tree => simp [Item.entries, ScopeEntry.typeName?, Item.typeName?]
    | _ => rfl
  rw [List.filterMap_eq_flatMap_toList]
  simp only [hitem]

namespace Scope

/-- Adds an entry. -/
def addEntry (s : Scope) : ScopeEntry → Except ImportConflict Scope
  | .declares name type => .ok { s with types := s.types.set name type }
  | .module name => .ok { s with modules := name :: s.modules }
  | .imports position leaf => s.addLeaf position leaf

/-! ### Entry by entry -/

theorem addItem_eq_foldlM (s : Scope) (file : ModuleFile) (item : Item) :
    s.addItem file item = (item.entries file).foldlM addEntry s := by
  cases item with
  | use mark tree =>
    rw [addItem, Item.entries, List.foldlM_map]
    rfl
  | function | declaration | typeAlias | module | other => rfl

theorem foldlM_flatMap {α β σ : Type} {f : α → List β} {step : σ → β → Except ImportConflict σ} (as : List α) (s : σ) :
    as.foldlM (fun s a => (f a).foldlM step s) s = (as.flatMap f).foldlM step s := by
  induction as generalizing s with
  | nil => rfl
  | cons a as ih =>
    rw [List.foldlM_cons, List.flatMap_cons, List.foldlM_append]
    simp only [ih]

theorem addFile_eq_foldlM (s : Scope) (file : ModuleFile) : s.addFile file = file.entries.foldlM addEntry s := by
  rw [addFile, ModuleFile.entries, ← foldlM_flatMap]
  simp only [addItem_eq_foldlM]

theorem ofFiles_eq_foldlM (files : List ModuleFile) :
    ofFiles files = (files.flatMap (·.entries)).foldlM addEntry empty := by
  rw [ofFiles, ← foldlM_flatMap]
  congr 1
  funext s file
  exact s.addFile_eq_foldlM file

/-! ### What is collected -/

/-- The scope answers by some entries: of the declarations of a type by the last, and otherwise by all alike. -/
structure Collects (s : Scope) (entries : List ScopeEntry) : Prop where
  types : ∀ name, s.types.get? name = (entries.filterMap (·.typeNamed? name)).getLast?
  modules : ∀ name, name ∈ s.modules ↔ .module name ∈ entries
  imports : ∀ name path, (s.imports.get? name).map (·.path) = some path ↔
    ∃ position, .imports position (.binding name path) ∈ entries
  globs : ∀ m, m ∈ s.globs ↔ ∃ position, .imports position (.glob m) ∈ entries

variable {s s' : Scope} {entries : List ScopeEntry}

theorem collects_empty : empty.Collects [] where
  types _ := rfl
  modules := by simp [empty]
  imports := by simp [empty]
  globs := by simp [empty]

/-- Importing a name adds its path, unless the name is imported from another path. -/
theorem addBinding_ok {position : Position} {name : String} {path : List String}
    (h : s.addBinding position name path = .ok s') :
    s'.types = s.types ∧ s'.modules = s.modules ∧ s'.globs = s.globs ∧
      ∀ n p, (s'.imports.get? n).map (·.path) = some p ↔
        (s.imports.get? n).map (·.path) = some p ∨ n = name ∧ p = path := by
  rw [addBinding] at h
  split at h
  · rename_i known hknown
    split at h
    · rename_i hpath
      cases h
      refine ⟨rfl, rfl, rfl, fun n p => ⟨Or.inl, ?_⟩⟩
      rintro (h | ⟨rfl, rfl⟩)
      · exact h
      · rw [hknown, Option.map_some, hpath]
    · cases h
  · rename_i hnew
    cases h
    refine ⟨rfl, rfl, rfl, fun n p => ?_⟩
    simp only [NameMap.get?_set]
    by_cases hn : name = n
    · subst hn
      rw [if_pos rfl, hnew]
      simp [eq_comm]
    · rw [if_neg hn]
      simp [Ne.symm hn]

/-- Importing a whole module adds it to those that are. -/
theorem addGlob_ok (position : Position) {m : ModulePath} (h : s.addLeaf position (.glob m) = .ok s') :
    s'.types = s.types ∧ s'.modules = s.modules ∧ s'.imports = s.imports ∧
      ∀ m', m' ∈ s'.globs ↔ m' ∈ s.globs ∨ m' = m := by
  cases h
  split
  · rename_i hm
    rw [List.contains_iff_mem] at hm
    exact ⟨rfl, rfl, rfl, fun m' => ⟨Or.inl, fun h => h.elim id fun e => e ▸ hm⟩⟩
  · exact ⟨rfl, rfl, rfl, fun m' => by simp⟩

theorem Collects.addEntry (h : s.Collects entries) {e : ScopeEntry} (hadd : s.addEntry e = .ok s') :
    s'.Collects (entries ++ [e]) := by
  cases e with
  | declares name type =>
    cases hadd
    refine ⟨fun n => ?_, by simpa using h.modules, by simpa using h.imports, by simpa using h.globs⟩
    rw [NameMap.get?_set, List.filterMap_append, List.getLast?_append, h.types n]
    by_cases hn : name = n <;> simp [ScopeEntry.typeNamed?, hn]
  | module name =>
    cases hadd
    refine ⟨fun n => ?_, fun n => ?_, by simpa using h.imports, by simpa using h.globs⟩
    · simpa [ScopeEntry.typeNamed?] using h.types n
    · simp [h.modules n, or_comm]
  | imports position leaf =>
    have types (x : List ScopeEntry) (n : String) : (x ++ [ScopeEntry.imports position leaf]).filterMap (·.typeNamed? n) =
        x.filterMap (·.typeNamed? n) := by
      simp [ScopeEntry.typeNamed?]
    cases leaf with
    | binding name path =>
      obtain ⟨htypes, hmodules, hglobs, himports⟩ := addBinding_ok hadd
      refine ⟨fun n => ?_, fun n => ?_, fun n p => ?_, fun m => ?_⟩
      · rw [htypes, types, h.types n]
      · simpa [hmodules] using h.modules n
      · rw [himports, h.imports]
        simp [exists_or]
      · simpa [hglobs] using h.globs m
    | glob m =>
      obtain ⟨htypes, hmodules, himports, hglobs⟩ := addGlob_ok position hadd
      refine ⟨fun n => ?_, fun n => ?_, fun n p => ?_, fun m' => ?_⟩
      · rw [htypes, types, h.types n]
      · simpa [hmodules] using h.modules n
      · simpa [himports] using h.imports n p
      · rw [hglobs, h.globs m']
        simp [exists_or]

theorem foldlM_concat (entries : List ScopeEntry) (e : ScopeEntry) :
    (entries ++ [e]).foldlM Scope.addEntry empty = entries.foldlM Scope.addEntry empty >>= (·.addEntry e) := by
  simp only [List.foldlM_append, List.foldlM_cons, List.foldlM_nil, bind_pure]

theorem collects_of_foldlM (h : entries.foldlM Scope.addEntry empty = .ok s) : s.Collects entries := by
  induction entries using List.reverseRecOn generalizing s with
  | nil =>
    cases h
    exact collects_empty
  | append_singleton entries e ih =>
    rw [foldlM_concat] at h
    cases hfront : entries.foldlM Scope.addEntry empty with
    | error conflict =>
      rw [hfront] at h
      cases h
    | ok front =>
      rw [hfront] at h
      exact (ih hfront).addEntry h

/-- The scope of some files answers by what they have. -/
theorem collects_of_ofFiles {files : List ModuleFile} (h : ofFiles files = .ok s) :
    s.Collects (files.flatMap (·.entries)) := by
  rw [ofFiles_eq_foldlM] at h
  exact collects_of_foldlM h

/-! ### When there is a scope -/

/-- No name is imported from two paths. -/
def ImportsAgree (entries : List ScopeEntry) : Prop :=
  ∀ name path path' position position', .imports position (.binding name path) ∈ entries →
    .imports position' (.binding name path') ∈ entries → path = path'

theorem Collects.importsAgree (h : s.Collects entries) : ImportsAgree entries := by
  intro name path path' position position' hpath hpath'
  have found := (h.imports name path).mpr ⟨position, hpath⟩
  have found' := (h.imports name path').mpr ⟨position', hpath'⟩
  exact Option.some.inj (found.symm.trans found')

theorem exists_foldlM_of_importsAgree (h : ImportsAgree entries) :
    ∃ s, entries.foldlM Scope.addEntry empty = .ok s := by
  induction entries using List.reverseRecOn with
  | nil => exact ⟨_, rfl⟩
  | append_singleton entries e ih =>
    obtain ⟨s, hs⟩ := ih fun name path path' position position' hpath hpath' =>
      h name path path' position position' (List.mem_append_left _ hpath) (List.mem_append_left _ hpath')
    have hfold : (entries ++ [e]).foldlM Scope.addEntry empty = s.addEntry e := by
      rw [foldlM_concat, hs]
      rfl
    rw [hfold]
    rcases e with ⟨name, type⟩ | name | ⟨position, ⟨name, path⟩ | m⟩
    case imports.binding =>
      rw [addEntry, addLeaf, addBinding]
      split
      · rename_i known hknown
        obtain ⟨position', hmem⟩ := ((collects_of_foldlM hs).imports name known.path).mp (by rw [hknown, Option.map_some])
        have hpath : known.path = path := h name known.path path position' position (List.mem_append_left _ hmem) (by simp)
        exact ⟨s, by rw [if_pos hpath]⟩
      · exact ⟨_, rfl⟩
    all_goals exact ⟨_, rfl⟩

theorem exists_scope_iff {files : List ModuleFile} :
    (∃ s, ofFiles files = .ok s) ↔ ImportsAgree (files.flatMap (·.entries)) := by
  refine ⟨fun ⟨s, h⟩ => (collects_of_ofFiles h).importsAgree, fun h => ?_⟩
  rw [ofFiles_eq_foldlM]
  exact exists_foldlM_of_importsAgree h

end Scope

end Switchboard
