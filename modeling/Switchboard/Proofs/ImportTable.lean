import Switchboard.Proofs.FreshNames
import Switchboard.Proofs.Surroundings

/-! # The import table

A table only grows: asking for the alias of a path leaves the earlier entries as they are and adds at most one. The
entries of a well-formed table have distinct paths and distinct aliases, and each alias is the last name of its path
or that name with a number. Both hold of every table that is built by asking for aliases, since a name is made fresh
before it is given away (`freshName_not_mem`).

So in a well-formed table an alias stands for one path only. A type is qualified by one such step at most, for the
module it is external to (`qualify_of_not_keyword`), and by none if the module is given by keywords alone
(`qualify_of_keywords`). -/

namespace Switchboard

/-- The alias of an entry is the last name of its path, or that name with a number. -/
def NamedImport.IsNamedByPath (e : NamedImport) : Prop :=
  e.aliasName = lastName e.path ∨ ∃ k, e.aliasName = numberedName (lastName e.path) k

theorem isNamedByPath_freshName (taken : List String) (path : String) :
    NamedImport.IsNamedByPath ⟨path, freshName taken (lastName path)⟩ := by
  by_cases h : lastName path ∈ taken
  · obtain ⟨k, -, -, he, -⟩ := freshName_of_mem h
    exact Or.inr ⟨k, he⟩
  · exact Or.inl (freshName_of_not_mem h)

/-! ### Tables -/

namespace ImportTable

/-- Distinct paths have distinct aliases, which are named by their paths. -/
structure WellFormed (t : ImportTable) : Prop where
  paths_nodup : (t.entries.map (·.path)).Nodup
  aliases_nodup : t.aliases.Nodup
  named : ∀ e ∈ t.entries, e.IsNamedByPath

/-- A table has the entries of another in front, as they are. -/
def Extends (t' t : ImportTable) : Prop :=
  t.entries <+: t'.entries

variable {t t' t'' : ImportTable}

theorem Extends.refl (t : ImportTable) : t.Extends t :=
  List.prefix_refl _

theorem Extends.trans (h' : t''.Extends t') (h : t'.Extends t) : t''.Extends t :=
  List.IsPrefix.trans h h'

theorem Extends.mem (h : t'.Extends t) {e : NamedImport} (he : e ∈ t.entries) : e ∈ t'.entries :=
  List.IsPrefix.mem he h

theorem wellFormed_empty : empty.WellFormed where
  paths_nodup := List.nodup_nil
  aliases_nodup := List.nodup_nil
  named := by simp [empty]

theorem get?_eq_none_iff {path : String} : t.get? path = none ↔ path ∉ t.entries.map (·.path) := by
  rw [get?, Option.map_eq_none_iff, List.find?_eq_none, List.mem_map]
  refine ⟨?_, fun h e he hpath => h ⟨e, he, of_decide_eq_true hpath⟩⟩
  rintro h ⟨e, he, hpath⟩
  exact h e he (decide_eq_true hpath)

/-- In a well-formed table a path has the alias of its entry. -/
theorem WellFormed.get?_eq_some_iff (h : t.WellFormed) {path name : String} :
    t.get? path = some name ↔ ⟨path, name⟩ ∈ t.entries := by
  refine ⟨fun hname => ?_, fun he => ?_⟩
  · obtain ⟨e, hfind, rfl⟩ := Option.map_eq_some_iff.mp hname
    have hpath : e.path = path := by simpa using List.find?_some hfind
    rw [← hpath]
    exact List.mem_of_find?_eq_some hfind
  · cases hget : t.get? path with
    | none => exact absurd (List.mem_map.mpr ⟨_, he, rfl⟩) (get?_eq_none_iff.mp hget)
    | some found =>
      obtain ⟨e, hfind, rfl⟩ := Option.map_eq_some_iff.mp hget
      have hpath : e.path = path := by simpa using List.find?_some hfind
      rw [List.inj_on_of_nodup_map h.paths_nodup (List.mem_of_find?_eq_some hfind) he hpath]

/-- A known path keeps its alias, and an unknown one gets a fresh alias in a new last entry. -/
theorem bind_cases (t : ImportTable) (path : String) :
    (∃ e ∈ t.entries, e.path = path ∧ t.bind path = (e.aliasName, t)) ∨
    ((∀ e ∈ t.entries, e.path ≠ path) ∧
      t.bind path = (freshName t.aliases (lastName path),
        ⟨t.entries ++ [⟨path, freshName t.aliases (lastName path)⟩]⟩)) := by
  cases hfind : t.entries.find? (·.path = path) with
  | some e =>
    have hpath : e.path = path := by simpa using List.find?_some hfind
    refine Or.inl ⟨e, List.mem_of_find?_eq_some hfind, hpath, ?_⟩
    simp only [bind, get?, hfind, Option.map_some]
  | none =>
    refine Or.inr ⟨fun e he => by simpa using List.find?_eq_none.mp hfind e he, ?_⟩
    simp only [bind, get?, hfind, Option.map_none]

theorem extends_bind (t : ImportTable) (path : String) : (t.bind path).2.Extends t := by
  rcases bind_cases t path with ⟨e, -, -, hb⟩ | ⟨-, hb⟩
  · rw [hb]
    exact Extends.refl t
  · rw [hb]
    exact List.prefix_append _ _

/-- The table has an entry for what it was asked for. -/
theorem exists_mem_bind (t : ImportTable) (path : String) :
    ∃ e ∈ (t.bind path).2.entries, e.path = path ∧ e.aliasName = (t.bind path).1 := by
  rcases bind_cases t path with ⟨e, he, hpath, hb⟩ | ⟨-, hb⟩
  · rw [hb]
    exact ⟨e, he, hpath, rfl⟩
  · rw [hb]
    exact ⟨_, List.mem_append_right _ List.mem_cons_self, rfl, rfl⟩

theorem mem_bind {path : String} {e : NamedImport} (h : e ∈ (t.bind path).2.entries) :
    e ∈ t.entries ∨ e.path = path := by
  rcases bind_cases t path with ⟨_, -, -, hb⟩ | ⟨-, hb⟩
  · rw [hb] at h
    exact Or.inl h
  · rw [hb] at h
    rcases List.mem_append.mp h with h | h
    · exact Or.inl h
    · exact Or.inr (by rw [List.mem_singleton.mp h])

theorem WellFormed.bind (h : t.WellFormed) (path : String) : (t.bind path).2.WellFormed := by
  rcases bind_cases t path with ⟨_, -, -, hb⟩ | ⟨hnew, hb⟩
  · rw [hb]
    exact h
  · rw [hb]
    refine ⟨?_, ?_, fun e he => ?_⟩
    · rw [List.map_append]
      refine List.Nodup.append h.paths_nodup (List.nodup_singleton _) fun x hx hx' => ?_
      obtain ⟨e, he, rfl⟩ := List.mem_map.mp hx
      exact hnew e he (List.mem_singleton.mp hx')
    · rw [aliases, List.map_append]
      refine List.Nodup.append h.aliases_nodup (List.nodup_singleton _) fun x hx hx' => ?_
      rw [List.map_singleton, List.mem_singleton] at hx'
      exact freshName_not_mem _ _ (hx' ▸ hx)
    · rcases List.mem_append.mp he with he | he
      · exact h.named e he
      · rw [List.mem_singleton.mp he]
        exact isNamedByPath_freshName _ _

/-! ### Names of resolutions -/

/-- Modules given by their place alone need no import. -/
theorem qualify_of_keywords {m : ModulePath} (h : ∀ n ∈ m.fromChild, n ∈ leadWords) (t : ImportTable) (name : String) :
    t.qualify (.external m name) = (m.fromChild.render ++ "::" ++ name, t) := by
  have hall : m.fromChild.all leadWords.contains = true := by simpa using h
  simp only [qualify, hall, ↓reduceIte]

/-- An item of any other module is named by the alias of the rewritten module path. -/
theorem qualify_of_not_keyword {m : ModulePath} {n : String} (hn : n ∈ m.fromChild) (hkey : n ∉ leadWords)
    (t : ImportTable) (name : String) :
    t.qualify (.external m name) =
      ((t.bind m.fromChild.render).1 ++ "::" ++ name, (t.bind m.fromChild.render).2) := by
  have hall : m.fromChild.all leadWords.contains = false := by
    rw [List.all_eq_false]
    exact ⟨n, hn, by simpa using hkey⟩
  simp only [qualify, hall, Bool.false_eq_true, ↓reduceIte]

theorem extends_qualify (t : ImportTable) (r : Resolution) : (t.qualify r).2.Extends t := by
  cases r with
  | localType name => exact Extends.refl t
  | glob name => exact Extends.refl t
  | unresolved => exact Extends.refl t
  | external m name =>
    by_cases h : ∀ n ∈ m.fromChild, n ∈ leadWords
    · rw [qualify_of_keywords h]
      exact Extends.refl t
    · simp only [not_forall] at h
      obtain ⟨n, hn, hkey⟩ := h
      rw [qualify_of_not_keyword hn hkey]
      exact extends_bind t _

end ImportTable

end Switchboard
