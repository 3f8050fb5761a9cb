import Mathlib.Data.List.Induction
import Switchboard.Proofs.Handlers

/-! # The modules that a dispatch file imports

The import table of a dispatch file is made by asking for one module path after another: those of the transport and of
the runtime, and then the module of each data type that comes from another module, in the order of the parameters
(`imports_contextOf`). So all aliases are decided by that list of paths.

A path is given its last name as long as that is free, and else the last name with a number. Therefore a name that is no
last name with a number is an alias exactly if some path ends in it, and it stands for the first such path
(`exists_alias_iff`). -/

namespace Switchboard

/-! ### Which modules are asked for -/

/-- The path by which a dispatch file imports the module of a resolved item, if it needs that import. -/
def Resolution.importedModule? : Resolution → Option String
  | .external m _ => if m.fromChild.all leadWords.contains then none else some m.fromChild.render
  | _ => none

/-- The module that the name of a data type needs. -/
def DataType.importedModule? : DataType → Option String
  | .scalar _ => none
  | .named r => r.importedModule?

/-- The module that the type of a parameter needs. -/
def Role.importedModule? : Role → Option String
  | .byValue type => type.importedModule?
  | .byPointer type => type.importedModule?
  | .injected _ => none

/-- The modules that the parameters of a handler need, in order. -/
def HandlerForm.importedModules (form : HandlerForm) : List String :=
  form.parameters.filterMap (·.role.importedModule?)

/-- The module paths that a dispatch file is asked for, in order. -/
def importedModules (o : Conventions) (forms : List HandlerForm) : List String :=
  o.transportPath :: o.runtimePath :: forms.flatMap (·.importedModules)

namespace ImportTable

/-- The table in which some more paths were asked for, one after another. -/
def bindAll (t : ImportTable) (paths : List String) : ImportTable :=
  paths.foldl (fun t path => (t.bind path).2) t

theorem bindAll_append (t : ImportTable) (paths later : List String) :
    t.bindAll (paths ++ later) = (t.bindAll paths).bindAll later :=
  List.foldl_append

theorem ofPaths_concat (paths : List String) (path : String) : ofPaths (paths ++ [path]) = ((ofPaths paths).bind path).2 :=
  bindAll_append empty paths [path]

theorem qualify_eq_bindAll (t : ImportTable) (r : Resolution) : (t.qualify r).2 = t.bindAll r.importedModule?.toList := by
  cases r with
  | external m name =>
    simp only [qualify, Resolution.importedModule?]
    split <;> rfl
  | localType | glob | unresolved => rfl

theorem typeName_eq_bindAll (t : ImportTable) (type : DataType) :
    (t.typeName type).2 = t.bindAll type.importedModule?.toList := by
  cases type with
  | scalar name => rfl
  | named r => exact t.qualify_eq_bindAll r

end ImportTable

open ImportTable

theorem Role.named_eq_bindAll (role : Role) (t : ImportTable) :
    (role.named t).2 = t.bindAll role.importedModule?.toList := by
  cases role with
  | byValue type => exact t.typeName_eq_bindAll type
  | byPointer type => exact t.typeName_eq_bindAll type
  | injected what => rfl

theorem nameParameters_eq_bindAll (t : ImportTable) (index : Nat) (forms : List ParameterForm) :
    (nameParameters t index forms).2 = t.bindAll (forms.filterMap (·.role.importedModule?)) := by
  induction forms generalizing t index with
  | nil => rfl
  | cons form forms ih =>
    have hcons : (form :: forms).filterMap (·.role.importedModule?) =
        form.role.importedModule?.toList ++ forms.filterMap (·.role.importedModule?) := by
      rw [List.filterMap_cons]
      cases form.role.importedModule? <;> rfl
    rw [hcons, bindAll_append, ← form.role.named_eq_bindAll]
    exact ih _ _

theorem describeAll_eq_bindAll (t : ImportTable) (forms : List HandlerForm) :
    (describeAll t forms).2 = t.bindAll (forms.flatMap (·.importedModules)) := by
  induction forms generalizing t with
  | nil => rfl
  | cons form forms ih =>
    rw [List.flatMap_cons, bindAll_append, HandlerForm.importedModules, ← nameParameters_eq_bindAll t 0]
    exact ih _

/-- The imports of a dispatch file are those of the paths that it is asked for. -/
theorem imports_contextOf (o : Conventions) (forms : List HandlerForm) :
    (contextOf o forms).imports = ofPaths (importedModules o forms) :=
  describeAll_eq_bindAll _ forms

/-! ### Which aliases are given -/

namespace ImportTable

variable {paths : List String} {root path : String}

theorem wellFormed_ofPaths (paths : List String) : (ofPaths paths).WellFormed := by
  induction paths using List.reverseRecOn with
  | nil => exact wellFormed_empty
  | append_singleton paths path ih =>
    rw [ofPaths_concat]
    exact ih.bind path

theorem mem_of_mem_ofPaths {e : NamedImport} (he : e ∈ (ofPaths paths).entries) : e.path ∈ paths := by
  induction paths using List.reverseRecOn with
  | nil => simp [ofPaths, empty] at he
  | append_singleton paths path ih =>
    rw [ofPaths_concat] at he
    rcases mem_bind he with he | he
    · exact List.mem_append_left _ (ih he)
    · exact List.mem_append_right _ (List.mem_singleton.mpr he)

theorem paths_bind (t : ImportTable) (path : String) :
    (t.bind path).2.entries.map (·.path) =
      t.entries.map (·.path) ++ if path ∈ t.entries.map (·.path) then [] else [path] := by
  rcases bind_cases t path with ⟨e, he, hpath, hb⟩ | ⟨hnew, hb⟩
  · rw [hb, if_pos (List.mem_map.mpr ⟨e, he, hpath⟩), List.append_nil]
  · have hnot : path ∉ t.entries.map (·.path) := fun h => by
      obtain ⟨e, he, hpath⟩ := List.mem_map.mp h
      exact hnew e he hpath
    rw [hb, if_neg hnot, List.map_append, List.map_singleton]

/-- The paths of a table are those that were asked for, each where it was first asked for. -/
theorem paths_ofPaths (paths : List String) : (ofPaths paths).entries.map (·.path) = paths.eraseDups := by
  induction paths using List.reverseRecOn with
  | nil => rfl
  | append_singleton paths path ih =>
    rw [ofPaths_concat, paths_bind, ih, List.eraseDups_append, List.removeAll]
    by_cases hknown : path ∈ paths
    · simp [hknown]
    · simp [hknown, List.eraseDups_cons]

theorem length_ofPaths_le (paths : List String) : (ofPaths paths).entries.length ≤ paths.length := by
  induction paths using List.reverseRecOn with
  | nil => exact Nat.le_refl 0
  | append_singleton paths path ih =>
    rw [ofPaths_concat, List.length_append, List.length_singleton]
    rcases bind_cases (ofPaths paths) path with ⟨_, -, -, hb⟩ | ⟨-, hb⟩
    · rw [hb]
      exact Nat.le_succ_of_le ih
    · rw [hb, List.length_append, List.length_singleton]
      exact Nat.succ_le_succ ih

/-- An alias is the last name of a path, or that name with a number no greater than the number of paths. -/
theorem alias_ofPaths_cases {e : NamedImport} (he : e ∈ (ofPaths paths).entries) :
    e.aliasName = lastName e.path ∨
      ∃ k, 1 ≤ k ∧ k ≤ paths.length ∧ e.aliasName = numberedName (lastName e.path) k := by
  induction paths using List.reverseRecOn with
  | nil => simp [ofPaths, empty] at he
  | append_singleton paths path ih =>
    rw [ofPaths_concat] at he
    have earlier : e ∈ (ofPaths paths).entries → e.aliasName = lastName e.path ∨
        ∃ k, 1 ≤ k ∧ k ≤ (paths ++ [path]).length ∧ e.aliasName = numberedName (lastName e.path) k := by
      intro he
      refine (ih he).imp_right ?_
      rintro ⟨k, hone, hk, halias⟩
      exact ⟨k, hone, by rw [List.length_append]; omega, halias⟩
    rcases bind_cases (ofPaths paths) path with ⟨_, -, -, hb⟩ | ⟨-, hb⟩
    · rw [hb] at he
      exact earlier he
    · rw [hb] at he
      rcases List.mem_append.mp he with he | he
      · exact earlier he
      · rw [List.mem_singleton.mp he]
        by_cases htaken : lastName path ∈ (ofPaths paths).aliases
        · obtain ⟨k, hone, hk, hfresh, -⟩ := freshName_of_mem htaken
          have hlength : (ofPaths paths).aliases.length ≤ paths.length := by
            rw [aliases, List.length_map]
            exact length_ofPaths_le paths
          exact Or.inr ⟨k, hone, by rw [List.length_append]; omega, hfresh⟩
        · exact Or.inl (freshName_of_not_mem htaken)

/-- A name that is no last name with a number is an alias exactly if a path ends in it, and stands for the first that does. -/
theorem exists_alias_iff (hroot : ∀ path ∈ paths, ∀ k, root ≠ numberedName (lastName path) k) :
    (∃ e ∈ (ofPaths paths).entries, e.aliasName = root ∧ e.path = path) ↔ paths.find? (lastName · = root) = some path := by
  induction paths using List.reverseRecOn generalizing path with
  | nil => simp [ofPaths, empty]
  | append_singleton paths last ih =>
    have ih (p : String) : (∃ e ∈ (ofPaths paths).entries, e.aliasName = root ∧ e.path = p) ↔
        paths.find? (lastName · = root) = some p :=
      ih fun path hpath => hroot path (List.mem_append_left _ hpath)
    rw [ofPaths_concat, List.find?_append]
    rcases bind_cases (ofPaths paths) last with ⟨e, he, rfl, hb⟩ | ⟨hnew, hb⟩
    · -- A known path is among the earlier ones, so the first path that ends in the name is too.
      have hsame : (paths.find? (lastName · = root)).or ([e.path].find? (lastName · = root)) =
          paths.find? (lastName · = root) := by
        cases hfind : paths.find? (lastName · = root) with
        | some p => rfl
        | none =>
          have hne := List.find?_eq_none.mp hfind e.path (mem_of_mem_ofPaths he)
          simp only [decide_eq_true_eq] at hne
          simp [hne]
      rw [hb, hsame]
      exact ih path
    · have hfree : root ∈ (ofPaths paths).aliases ↔ paths.find? (lastName · = root) ≠ none := by
        rw [aliases, List.mem_map, Option.ne_none_iff_exists']
        constructor
        · rintro ⟨e, he, halias⟩
          exact ⟨e.path, (ih _).mp ⟨e, he, halias, rfl⟩⟩
        · rintro ⟨p, hp⟩
          obtain ⟨e, he, halias, -⟩ := (ih p).mpr hp
          exact ⟨e, he, halias⟩
      have hfresh : freshName (ofPaths paths).aliases (lastName last) = root ↔
          lastName last = root ∧ paths.find? (lastName · = root) = none := by
        rw [freshName_eq_iff (hroot last (by simp)), hfree, not_not]
      rw [hb]
      simp only [List.mem_append, List.mem_singleton, or_and_right, exists_or, ih, exists_eq_left, hfresh]
      cases hfind : paths.find? (lastName · = root) with
      | some p => simp
      | none => simp [and_comm, eq_comm]

end ImportTable

end Switchboard
