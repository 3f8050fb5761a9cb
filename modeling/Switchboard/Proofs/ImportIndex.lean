import Switchboard.Proofs.TypeNames

/-! # The index of an import table

A table can be kept together with an index that says where the entry of each path stands, so that an alias is found without
going through the entries. Entries and index are two structures that only agree if they are changed together: an index that
is not exact leads to the alias of another path, or to no entry at all, and then asking fails (`aliasAt?`).

Asking for an alias keeps the index exact (`IsExact.bind?_of_known`, `IsExact.bind?_of_unknown`). So, however often a table is
asked, with an index it answers as without one, and it never fails (`exists_exact`). -/

namespace Switchboard

open ImportTable

/-- An import table, and where the entry of each path stands in it. -/
structure IndexedTable where
  table : ImportTable
  places : NameMap Nat
  deriving DecidableEq, Repr

namespace IndexedTable

/-- The table without imports. -/
def empty : IndexedTable := ⟨.empty, []⟩

/-- The alias of the entry at a place; fails if there is no such entry. -/
def aliasAt? (x : IndexedTable) (place : Nat) : Option String :=
  x.table.entries[place]?.map (·.aliasName)

/-- The alias of a path, if it was asked for before. -/
def find? (x : IndexedTable) (path : String) : Option (Option String) :=
  match x.places.get? path with
  | some place => (x.aliasAt? place).map some
  | none => some none

/-- The alias of a path, and the table in which it has one. -/
def bind? (x : IndexedTable) (path : String) : Option (String × IndexedTable) :=
  match x.places.get? path with
  | some place => (x.aliasAt? place).map fun name => (name, x)
  | none =>
    let name := freshName x.table.aliases (lastName path)
    some (name, ⟨⟨x.table.entries ++ [⟨path, name⟩]⟩, x.places.set path x.table.size⟩)

/-- The table in which some more paths were asked for, one after another. -/
def bindAll? (x : IndexedTable) : List String → Option IndexedTable
  | [] => some x
  | path :: rest => (x.bind? path).bind fun answer => answer.2.bindAll? rest

/-- The table that starts with the modules of the transport and of the runtime. -/
def seeded? (transport runtime : String) : Option IndexedTable :=
  empty.bindAll? [transport, runtime]

/-- The table at the beginning: with the modules of the transport and of the runtime, or without imports. -/
def start? : Option (String × String) → Option IndexedTable
  | none => some empty
  | some (transport, runtime) => seeded? transport runtime

/-- The paths that were asked for in the table at the beginning. -/
def seedPaths : Option (String × String) → List String
  | none => []
  | some (transport, runtime) => [transport, runtime]

/-! ### One question -/

/-- The index of a well-formed table leads from each path to its entry, and from nothing else to anywhere. -/
structure IsExact (x : IndexedTable) : Prop where
  wellFormed : x.table.WellFormed
  place_iff {path : String} {place : Nat} :
    x.places.get? path = some place ↔ ∃ e, x.table.entries[place]? = some e ∧ e.path = path

variable {x y : IndexedTable} {path other : String}

theorem isExact_empty : empty.IsExact where
  wellFormed := wellFormed_empty
  place_iff := by simp [empty, ImportTable.empty]

theorem IsExact.mem_iff (h : x.IsExact) : path ∈ x.table.entries.map (·.path) ↔ ∃ place, x.places.get? path = some place := by
  simp only [h.place_iff, List.mem_map]
  constructor
  · rintro ⟨e, he, hpath⟩
    obtain ⟨place, hplace⟩ := List.mem_iff_getElem?.mp he
    exact ⟨place, e, hplace, hpath⟩
  · rintro ⟨place, e, he, hpath⟩
    exact ⟨e, List.mem_of_getElem? he, hpath⟩

theorem IsExact.get?_of_not_mem (h : x.IsExact) (hpath : path ∉ x.table.entries.map (·.path)) :
    x.places.get? path = none := by
  rw [h.mem_iff, not_exists] at hpath
  exact Option.eq_none_iff_forall_ne_some.mpr hpath

/-- Where the index has a path, the entry there has the alias that a search would find. -/
theorem IsExact.aliasAt?_eq (h : x.IsExact) {place : Nat} (hplace : x.places.get? path = some place) :
    ∃ name, x.aliasAt? place = some name ∧ x.table.get? path = some name := by
  obtain ⟨e, he, rfl⟩ := h.place_iff.mp hplace
  refine ⟨e.aliasName, ?_, h.wellFormed.get?_eq_some_iff.mpr (List.mem_of_getElem? he)⟩
  rw [aliasAt?, he, Option.map_some]

theorem IsExact.find?_eq (h : x.IsExact) (path : String) : x.find? path = some (x.table.get? path) := by
  unfold find?
  cases hplace : x.places.get? path with
  | some place =>
    obtain ⟨name, hname, hget⟩ := h.aliasAt?_eq hplace
    simp only [hname, hget, Option.map_some]
  | none =>
    have hpath : path ∉ x.table.entries.map (·.path) := fun hmem => by
      obtain ⟨place, hsome⟩ := h.mem_iff.mp hmem
      rw [hplace] at hsome
      cases hsome
    rw [get?_eq_none_iff.mpr hpath]

/-- A known path is answered by its alias, and nothing changes. -/
theorem IsExact.bind?_of_known (h : x.IsExact) (hpath : path ∈ x.table.entries.map (·.path)) :
    x.bind? path = some ((x.table.bind path).1, x) ∧ (x.table.bind path).2 = x.table := by
  obtain ⟨place, hplace⟩ := h.mem_iff.mp hpath
  obtain ⟨name, hname, hget⟩ := h.aliasAt?_eq hplace
  have hbind : x.table.bind path = (name, x.table) := by simp only [ImportTable.bind, hget]
  rw [hbind]
  simp only [bind?, hplace, hname, Option.map_some, and_self]

/-- The table and index behind the first question for a path. -/
def grown (x : IndexedTable) (path : String) : IndexedTable :=
  ⟨(x.table.bind path).2, x.places.set path x.table.size⟩

/-- An unknown path gets a new entry behind the others, and the place of that entry. -/
theorem IsExact.bind?_of_unknown (h : x.IsExact) (hpath : path ∉ x.table.entries.map (·.path)) :
    x.bind? path = some ((x.table.bind path).1, x.grown path) ∧
      (x.grown path).table.entries = x.table.entries ++ [⟨path, (x.table.bind path).1⟩] := by
  have hget : x.table.get? path = none := get?_eq_none_iff.mpr hpath
  have hbind : x.table.bind path = (freshName x.table.aliases (lastName path),
      ⟨x.table.entries ++ [⟨path, freshName x.table.aliases (lastName path)⟩]⟩) := by simp only [ImportTable.bind, hget]
  rw [grown, hbind]
  simp only [bind?, h.get?_of_not_mem hpath, and_self]

theorem IsExact.grown (h : x.IsExact) (hpath : path ∉ x.table.entries.map (·.path)) : (x.grown path).IsExact where
  wellFormed := h.wellFormed.bind path
  place_iff {other place} := by
    obtain ⟨-, hentries⟩ := h.bind?_of_unknown hpath
    rw [hentries, IndexedTable.grown, NameMap.get?_set]
    -- The place of the new entry is the number of the old ones, so neither gets in the other's way.
    by_cases hother : path = other
    · subst hother
      rw [if_pos rfl, Option.some_inj, ImportTable.size]
      constructor
      · rintro rfl
        exact ⟨_, List.getElem?_concat_length, rfl⟩
      · rintro ⟨e, he, hsame⟩
        rcases Nat.lt_trichotomy place x.table.entries.length with hlt | heq | hgt
        · rw [List.getElem?_append_left hlt] at he
          exact absurd (List.mem_map.mpr ⟨e, List.mem_of_getElem? he, hsame⟩) hpath
        · exact heq.symm
        · rw [List.getElem?_eq_none (by rw [List.length_append, List.length_singleton]; omega)] at he
          cases he
    · rw [if_neg hother, h.place_iff]
      refine exists_congr fun e => and_congr_left fun hsame => ?_
      rcases Nat.lt_trichotomy place x.table.entries.length with hlt | rfl | hgt
      · rw [List.getElem?_append_left hlt]
      · rw [List.getElem?_concat_length, List.getElem?_eq_none (Nat.le_refl _)]
        refine iff_of_false nofun fun he => hother ?_
        rw [← hsame, ← Option.some.inj he]
      · rw [List.getElem?_eq_none (by omega), List.getElem?_eq_none (by rw [List.length_append, List.length_singleton]; omega)]

/-- A question is answered as by the table alone, and the index stays exact. -/
theorem IsExact.bind? (h : x.IsExact) (path : String) :
    ∃ y, x.bind? path = some ((x.table.bind path).1, y) ∧ y.table = (x.table.bind path).2 ∧ y.IsExact := by
  by_cases hpath : path ∈ x.table.entries.map (·.path)
  · obtain ⟨hbind, hsame⟩ := h.bind?_of_known hpath
    exact ⟨x, hbind, hsame.symm, h⟩
  · exact ⟨x.grown path, (h.bind?_of_unknown hpath).1, rfl, h.grown hpath⟩

/-! ### All questions -/

theorem IsExact.bindAll? (h : x.IsExact) (paths : List String) :
    ∃ y, x.bindAll? paths = some y ∧ y.table = x.table.bindAll paths ∧ y.IsExact := by
  induction paths generalizing x with
  | nil => exact ⟨x, rfl, rfl, h⟩
  | cons path paths ih =>
    obtain ⟨y, hbind, htable, hy⟩ := h.bind? path
    obtain ⟨z, hall, htable', hz⟩ := ih hy
    refine ⟨z, ?_, ?_, hz⟩
    · rw [IndexedTable.bindAll?, hbind, Option.bind_some, hall]
    · rw [htable', htable]
      rfl

theorem exists_start (seed : Option (String × String)) :
    ∃ start, start? seed = some start ∧ start.table = .ofPaths (seedPaths seed) ∧ start.IsExact := by
  cases seed with
  | none => exact ⟨empty, rfl, rfl, isExact_empty⟩
  | some seed => exact isExact_empty.bindAll? [seed.1, seed.2]

/-- However often a table is asked, from the empty or a seeded one on, its index leads to the entries of exactly the paths that
were asked for, of which each has one entry and an alias of its own, and finding an alias through the index never
fails. Asking once more gives a known path its alias and changes nothing; for an unknown path, one entry is added, and
the earlier entries, their places and their aliases stay as they are. -/
theorem exists_exact (seed : Option (String × String)) (paths : List String) :
    ∃ start x : IndexedTable, start? seed = some start ∧ start.bindAll? paths = some x ∧
      let asked := seedPaths seed ++ paths
      x.table = .ofPaths asked ∧
      (∀ path place, x.places.get? path = some place ↔ ∃ e, x.table.entries[place]? = some e ∧ e.path = path) ∧
      (∀ path, path ∈ x.table.entries.map (·.path) ↔ path ∈ asked) ∧
      (x.table.entries.map (·.path)).Nodup ∧ x.table.aliases.Nodup ∧
      (∀ path, x.find? path = some (x.table.get? path)) ∧
      (∀ e ∈ x.table.entries, x.find? e.path = some (some e.aliasName)) ∧
      (∀ path, path ∉ asked → x.find? path = some none) ∧
      ∀ path, ∃ name y, x.bind? path = some (name, y) ∧ x.table.bind path = (name, y.table) ∧
        y.find? path = some (some name) ∧
        (path ∈ asked → y = x) ∧
        (path ∉ asked → y.table.entries = x.table.entries ++ [⟨path, name⟩] ∧
          (∀ other, y.places.get? other = if path = other then some x.table.size else x.places.get? other) ∧
          ∀ other, other ≠ path → y.find? other = x.find? other) := by
  obtain ⟨start, hstart, hseeds, hexact⟩ := exists_start seed
  obtain ⟨x, hall, htable, hx⟩ := hexact.bindAll? paths
  refine ⟨start, x, hstart, hall, ?_⟩
  intro asked
  have htable : x.table = .ofPaths asked := by
    rw [htable, hseeds]
    exact (ImportTable.empty.bindAll_append (seedPaths seed) paths).symm
  have hasked (path : String) : path ∈ x.table.entries.map (·.path) ↔ path ∈ asked := by rw [htable, mem_ofPaths_iff]
  refine ⟨htable, fun _ _ => hx.place_iff, hasked, hx.wellFormed.paths_nodup, hx.wellFormed.aliases_nodup, hx.find?_eq,
    fun e he => ?_, fun path hpath => ?_, fun path => ?_⟩
  · rw [hx.find?_eq, hx.wellFormed.get?_eq_some_iff.mpr he]
  · rw [hx.find?_eq, get?_eq_none_iff.mpr fun hmem => hpath ((hasked path).mp hmem)]
  · obtain ⟨y, hbind, hgrown, hy⟩ := hx.bind? path
    have hname : y.find? path = some (some (x.table.bind path).1) := by rw [hy.find?_eq, hgrown, x.table.get?_bind]
    refine ⟨_, y, hbind, by rw [hgrown], hname, fun hpath => ?_, fun hpath => ?_⟩
    · rw [(hx.bind?_of_known ((hasked path).mpr hpath)).1] at hbind
      exact (Prod.mk.inj (Option.some.inj hbind)).2.symm
    · obtain ⟨hbind', hentries⟩ := hx.bind?_of_unknown fun hmem => hpath ((hasked path).mp hmem)
      rw [hbind'] at hbind
      obtain rfl := (Prod.mk.inj (Option.some.inj hbind)).2
      refine ⟨hentries, fun other => NameMap.get?_set _ _ _ _, fun other hother => ?_⟩
      rw [hy.find?_eq, hx.find?_eq, ImportTable.get?, hentries, List.find?_append]
      simp [ImportTable.get?, hother.symm]

/-- Last names that look like numbered ones are told apart like all others. -/
example : (empty.bindAll? ["api::model", "db::model", "web::model_1", "web::model_1_1", "db::model"]).map (·.table.aliases) =
    some ["model", "model_1", "model_1_1", "model_1_1_1"] := by decide

end IndexedTable

end Switchboard
