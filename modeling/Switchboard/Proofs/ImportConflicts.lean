import Mathlib.Data.List.Find
import Switchboard.Proofs.ScopeContents

/-! # Conflicting imports

Import declarations bind names to paths. Their leaves are met in the order of files, items and trees
(`ModuleFile.bindings`), and a name keeps its first path: a later binding to the same path changes nothing, and the first
binding that departs from the first one of its name ends the collection. So what is reported, and what the scope holds
otherwise, can be told from the list of bindings alone (`ofFiles_outcome`).

What a leaf binds is said here of the leaf as it is written, with the names on the way to it. -/

namespace Switchboard

open Source

/-! ### Leaves as they are written -/

/-- What an import tree ends with. -/
inductive UseEnd where
  | name (name : String)
  /-- `name as newName` -/
  | rename (name newName : String)
  | glob

/-- A leaf of an import tree: its end, and the names on the way to it. -/
structure WrittenLeaf where
  way : List String
  last : UseEnd

mutual

/-- The leaves of a tree, from left to right. -/
def Source.UseTree.written : UseTree → List WrittenLeaf
  | .path first tree => tree.written.map fun l => ⟨first :: l.way, l.last⟩
  | .name n => [⟨[], .name n⟩]
  | .rename n newName => [⟨[], .rename n newName⟩]
  | .glob => [⟨[], .glob⟩]
  | .group trees => UseTree.allWritten trees

/-- The leaves of several trees, one after another. -/
def Source.UseTree.allWritten : List UseTree → List WrittenLeaf
  | [] => []
  | t :: ts => t.written ++ UseTree.allWritten ts

end

/-- A name that is bound to a path, and the place of the declaration that does it. -/
structure Binding where
  name : String
  path : List String
  position : Position

/-- What a leaf binds. A name is bound to its whole path, and `self` stands for the way to it, under the last name of the
way or a new one. A glob, the new name `_`, and `self` with nothing in front bind no name. -/
def WrittenLeaf.binding? (position : Position) (l : WrittenLeaf) : Option Binding :=
  match l.last with
  | .name n =>
    if n = "self" then l.way.getLast?.map fun last => ⟨last, l.way, position⟩
    else some ⟨n, l.way ++ [n], position⟩
  | .rename n newName =>
    if newName = "_" then none else some ⟨newName, if n = "self" then l.way else l.way ++ [n], position⟩
  | .glob => none

/-- What an item of a file binds, in order. -/
def Source.Item.bindings (file : ModuleFile) : Item → List Binding
  | .use mark tree => tree.written.filterMap (·.binding? (file.position mark))
  | _ => []

/-- What the import declarations of a file bind, in order. -/
def ModuleFile.bindings (file : ModuleFile) : List Binding :=
  file.items.flatMap (·.bindings file)

/-- What an entry of a scope binds. -/
def ScopeEntry.binding? : ScopeEntry → Option Binding
  | .imports position (.binding name path) => some ⟨name, path, position⟩
  | _ => none

/-! ### From trees to bindings -/

/-- What a leaf adds to a scope. -/
def WrittenLeaf.leaves (l : WrittenLeaf) : List ImportLeaf :=
  match l.last with
  | .name n => ImportLeaf.ofName l.way n
  | .rename n newName => ImportLeaf.ofRename l.way n newName
  | .glob => [.glob l.way]

mutual

theorem Source.UseTree.leavesUnder_eq_written (path : List String) (tree : UseTree) :
    tree.leavesUnder path = tree.written.flatMap fun l => WrittenLeaf.leaves ⟨path ++ l.way, l.last⟩ := by
  cases tree with
  | path first tree =>
    rw [leavesUnder, written, List.flatMap_map, leavesUnder_eq_written (path ++ [first]) tree]
    simp only [List.append_assoc, List.singleton_append]
  | group trees => rw [leavesUnder, written, allLeavesUnder_eq_written path trees]
  | name | rename | glob => simp [leavesUnder, written, WrittenLeaf.leaves]

theorem Source.UseTree.allLeavesUnder_eq_written (path : List String) (trees : List UseTree) :
    allLeavesUnder path trees = (allWritten trees).flatMap fun l => WrittenLeaf.leaves ⟨path ++ l.way, l.last⟩ := by
  cases trees with
  | nil => rfl
  | cons t ts =>
    rw [allLeavesUnder, allWritten, List.flatMap_append, leavesUnder_eq_written path t,
      allLeavesUnder_eq_written path ts]

end

theorem WrittenLeaf.filterMap_leaves (position : Position) (l : WrittenLeaf) :
    l.leaves.filterMap (fun leaf => (ScopeEntry.imports position leaf).binding?) = (l.binding? position).toList := by
  obtain ⟨way, last⟩ := l
  cases last with
  | name n =>
    simp only [leaves, ImportLeaf.ofName, binding?]
    by_cases hself : n = "self"
    · rw [if_pos hself, if_pos hself]
      cases way.getLast? <;> rfl
    · rw [if_neg hself, if_neg hself]
      rfl
  | rename n newName =>
    simp only [leaves, ImportLeaf.ofRename, binding?]
    by_cases hblank : newName = "_"
    · rw [if_pos hblank, if_pos hblank]
      rfl
    · rw [if_neg hblank, if_neg hblank]
      rfl
  | glob => rfl

theorem Source.Item.filterMap_entries (file : ModuleFile) (item : Item) :
    (item.entries file).filterMap (·.binding?) = item.bindings file := by
  cases item with
  | use mark tree =>
    rw [entries, bindings, List.filterMap_map, UseTree.leaves, UseTree.leavesUnder_eq_written, List.filterMap_flatMap,
      List.filterMap_eq_flatMap_toList]
    exact List.flatMap_congr fun l _ => l.filterMap_leaves (file.position mark)
  | function | declaration | typeAlias | module | other => rfl

theorem ModuleFile.filterMap_entries (file : ModuleFile) : file.entries.filterMap (·.binding?) = file.bindings := by
  rw [entries, bindings, List.filterMap_flatMap]
  exact List.flatMap_congr fun item _ => item.filterMap_entries file

theorem filterMap_flatMap_entries (files : List ModuleFile) :
    (files.flatMap (·.entries)).filterMap (·.binding?) = files.flatMap (·.bindings) := by
  rw [List.filterMap_flatMap]
  exact List.flatMap_congr fun file _ => file.filterMap_entries

/-! ### The first that departs -/

/-- The first of some bindings of a name. -/
def firstOf? (bs : List Binding) (name : String) : Option Binding :=
  bs.find? (·.name = name)

/-- Whether a binding has another path than the first one of its name. -/
def departs (bs : List Binding) (b : Binding) : Bool :=
  (firstOf? bs b.name).any fun first => first.path ≠ b.path

/-- The conflict of some bindings: between the first that departs and the first one of its name. -/
def IsConflictOf (bs : List Binding) (c : ImportConflict) : Prop :=
  ∃ later first, bs.find? (departs bs) = some later ∧ firstOf? bs later.name = some first ∧
    c = ⟨later.position, later.name, first.path, later.path⟩

variable {bs : List Binding} {b : Binding} {c : ImportConflict}

theorem departs_iff : departs bs b = true ↔ ∃ first, firstOf? bs b.name = some first ∧ first.path ≠ b.path := by
  simp [departs, Option.any_eq_true]

theorem exists_firstOf?_of_mem (h : b ∈ bs) : ∃ first ∈ bs, firstOf? bs b.name = some first ∧ first.name = b.name := by
  cases hfirst : firstOf? bs b.name with
  | none => simpa using List.find?_eq_none.mp hfirst b h
  | some first => exact ⟨first, List.mem_of_find?_eq_some hfirst, rfl, by simpa using List.find?_some hfirst⟩

/-- Behind the first binding of a name others do not matter. -/
theorem firstOf?_append_of_mem (h : b ∈ bs) (more : List Binding) :
    firstOf? (bs ++ more) b.name = firstOf? bs b.name := by
  obtain ⟨first, -, hfirst, -⟩ := exists_firstOf?_of_mem h
  rw [hfirst, firstOf?, List.find?_append, ← firstOf?, hfirst, Option.some_or]

theorem departs_append_of_mem (h : b ∈ bs) (more : List Binding) : departs (bs ++ more) b = departs bs b := by
  rw [departs, departs, firstOf?_append_of_mem h]

theorem find?_departs_append (more : List Binding) :
    (bs ++ more).find? (departs (bs ++ more)) = (bs.find? (departs bs)).or (more.find? (departs (bs ++ more))) := by
  rw [List.find?_append]
  congr 1
  exact List.find?_congr fun b hb => departs_append_of_mem hb more

theorem find?_departs_eq_none_iff :
    bs.find? (departs bs) = none ↔ ∀ b ∈ bs, ∀ b' ∈ bs, b.name = b'.name → b.path = b'.path := by
  rw [List.find?_eq_none]
  constructor
  · intro h b hb b' hb' hname
    -- Both have the path of the first one.
    have alike : ∀ b ∈ bs, ∀ first, firstOf? bs b.name = some first → first.path = b.path := fun b hb first hfirst =>
      by_contra fun hne => h b hb (departs_iff.mpr ⟨first, hfirst, hne⟩)
    obtain ⟨first, -, hfirst, -⟩ := exists_firstOf?_of_mem hb
    exact (alike b hb first hfirst).symm.trans (alike b' hb' first (hname ▸ hfirst))
  · intro h b hb hdeparts
    obtain ⟨first, hfirst, hne⟩ := departs_iff.mp hdeparts
    obtain ⟨first', hmem, hfirst', hname⟩ := exists_firstOf?_of_mem hb
    obtain rfl := Option.some.inj (hfirst.symm.trans hfirst')
    exact hne (h first hmem b hb hname)

theorem IsConflictOf.append (h : IsConflictOf bs c) (more : List Binding) : IsConflictOf (bs ++ more) c := by
  obtain ⟨later, first, hlater, hfirst, hc⟩ := h
  refine ⟨later, first, ?_, ?_, hc⟩
  · rw [find?_departs_append, hlater, Option.some_or]
  · rw [firstOf?_append_of_mem (List.mem_of_find?_eq_some hlater), hfirst]

theorem IsConflictOf.unique {c' : ImportConflict} (h : IsConflictOf bs c) (h' : IsConflictOf bs c') : c = c' := by
  obtain ⟨later, first, hlater, hfirst, rfl⟩ := h
  obtain ⟨later', first', hlater', hfirst', rfl⟩ := h'
  obtain rfl := Option.some.inj (hlater.symm.trans hlater')
  obtain rfl := Option.some.inj (hfirst.symm.trans hfirst')
  rfl

theorem firstOf?_concat (bs : List Binding) (b : Binding) (name : String) :
    firstOf? (bs ++ [b]) name = (firstOf? bs name).or (if b.name = name then some b else none) := by
  rw [firstOf?, List.find?_append, List.find?_singleton, firstOf?]
  simp only [decide_eq_true_eq]

/-- One more binding is in conflict exactly if the first one of its name has another path. -/
theorem isConflictOf_concat_iff (h : bs.find? (departs bs) = none) :
    IsConflictOf (bs ++ [b]) c ↔
      ∃ first, firstOf? bs b.name = some first ∧ first.path ≠ b.path ∧ c = ⟨b.position, b.name, first.path, b.path⟩ := by
  have hfind : (bs ++ [b]).find? (departs (bs ++ [b])) = if departs (bs ++ [b]) b then some b else none := by
    rw [find?_departs_append, h, Option.none_or, List.find?_singleton]
  have hfirst : firstOf? (bs ++ [b]) b.name = (firstOf? bs b.name).or (some b) := by
    rw [firstOf?_concat, if_pos rfl]
  constructor
  · rintro ⟨later, first, hlater, hname, rfl⟩
    rw [hfind] at hlater
    split at hlater
    · rename_i hdeparts
      obtain rfl := Option.some.inj hlater
      obtain ⟨first', hfirst', hne⟩ := departs_iff.mp hdeparts
      obtain rfl := Option.some.inj (hname.symm.trans hfirst')
      cases hbs : firstOf? bs b.name with
      | none =>
        -- The binding is then the first one of its name itself.
        rw [hfirst, hbs, Option.none_or] at hname
        exact absurd (congrArg Binding.path (Option.some.inj hname).symm) hne
      | some known =>
        rw [hfirst, hbs, Option.some_or] at hname
        exact ⟨first, hname, hne, rfl⟩
    · cases hlater
  · rintro ⟨first, hbs, hne, rfl⟩
    rw [hbs, Option.some_or] at hfirst
    refine ⟨b, first, ?_, hfirst, rfl⟩
    rw [hfind, if_pos (departs_iff.mpr ⟨first, hfirst, hne⟩)]

theorem find?_departs_eq_none_of_not_exists (h : ∀ c, ¬IsConflictOf bs c) : bs.find? (departs bs) = none := by
  rw [Option.eq_none_iff_forall_ne_some]
  intro later hlater
  obtain ⟨first, -, hfirst, -⟩ := exists_firstOf?_of_mem (List.mem_of_find?_eq_some hlater)
  exact h _ ⟨later, first, hlater, hfirst, rfl⟩

theorem exists_isConflictOf_iff :
    (∃ c, IsConflictOf bs c) ↔ ∃ b ∈ bs, ∃ b' ∈ bs, b.name = b'.name ∧ b.path ≠ b'.path := by
  constructor
  · rintro ⟨c, later, first, hlater, -⟩
    by_contra hagree
    push Not at hagree
    rw [find?_departs_eq_none_iff.mpr hagree] at hlater
    cases hlater
  · rintro ⟨b, hb, b', hb', hname, hne⟩
    by_contra hnone
    have hfind := find?_departs_eq_none_of_not_exists (not_exists.mp hnone)
    exact hne (find?_departs_eq_none_iff.mp hfind b hb b' hb' hname)

/-! ### Collecting entries -/

namespace Scope

variable {s s' : Scope} {e : ScopeEntry} {entries : List ScopeEntry}

/-- Each name is imported as its first binding says. -/
def ImportsFirst (s : Scope) (bs : List Binding) : Prop :=
  ∀ name, s.imports.get? name = (firstOf? bs name).map fun b => ⟨b.path, b.position⟩

/-- Only a binding can fail to be added, namely if the first one of its name has another path. -/
theorem ImportsFirst.addEntry_eq_error_iff (h : s.ImportsFirst bs) :
    s.addEntry e = .error c ↔ ∃ b first, e.binding? = some b ∧ firstOf? bs b.name = some first ∧ first.path ≠ b.path ∧
      c = ⟨b.position, b.name, first.path, b.path⟩ := by
  rcases e with ⟨name, type⟩ | name | ⟨position, ⟨name, path⟩ | m⟩
  case imports.binding =>
    rw [addEntry, addLeaf, addBinding, h name]
    constructor
    · intro hadd
      cases hfirst : firstOf? bs name with
      | none =>
        rw [hfirst] at hadd
        cases hadd
      | some first =>
        simp only [hfirst, Option.map_some] at hadd
        split at hadd
        · cases hadd
        · rename_i hne
          exact ⟨_, first, rfl, hfirst, hne, (Except.error.inj hadd).symm⟩
    · rintro ⟨b, first, hb, hfirst, hne, rfl⟩
      cases hb
      simp only [hfirst, Option.map_some]
      exact if_neg hne
  all_goals
    constructor
    · intro hadd
      cases hadd
    · rintro ⟨b, first, hb, -⟩
      cases hb

theorem ImportsFirst.addEntry (h : s.ImportsFirst bs) (hadd : s.addEntry e = .ok s') :
    s'.ImportsFirst (bs ++ e.binding?.toList) := by
  rcases e with ⟨name, type⟩ | name | ⟨position, ⟨name, path⟩ | m⟩
  case imports.binding =>
    intro other
    have hbinding : (ScopeEntry.imports position (.binding name path)).binding? = some ⟨name, path, position⟩ := rfl
    rw [hbinding, Option.toList_some, firstOf?_concat]
    rw [Scope.addEntry, addLeaf, addBinding, h name] at hadd
    cases hfirst : firstOf? bs name with
    | none =>
      simp only [hfirst, Option.map_none, Except.ok.injEq] at hadd
      subst hadd
      rw [NameMap.get?_set, h other]
      by_cases hname : name = other
      · subst hname
        simp [hfirst]
      · simp [hname]
    | some first =>
      simp only [hfirst, Option.map_some] at hadd
      split at hadd
      · cases hadd
        rw [h other]
        by_cases hname : name = other
        · subst hname
          rw [hfirst, Option.some_or]
        · rw [if_neg hname, Option.or_none]
      · cases hadd
  case imports.glob =>
    obtain ⟨-, -, himports, -⟩ := addGlob_ok position hadd
    intro other
    simpa [ScopeEntry.binding?, himports] using h other
  all_goals
    cases hadd
    intro other
    simpa [ScopeEntry.binding?] using h other

/-- How the collection of some entries ends. -/
theorem foldlM_outcome (entries : List ScopeEntry) :
    (∀ c, entries.foldlM Scope.addEntry empty = .error c ↔ IsConflictOf (entries.filterMap (·.binding?)) c) ∧
    ∀ s, entries.foldlM Scope.addEntry empty = .ok s → s.ImportsFirst (entries.filterMap (·.binding?)) := by
  induction entries using List.reverseRecOn with
  | nil =>
    refine ⟨fun c => ⟨nofun, ?_⟩, fun s h => ?_⟩
    · rintro ⟨later, first, hlater, -⟩
      cases hlater
    · cases h
      exact fun name => rfl
  | append_singleton entries e ih =>
    obtain ⟨herror, hok⟩ := ih
    rw [foldlM_concat, List.filterMap_append]
    have hlast : [e].filterMap (·.binding?) = e.binding?.toList := by
      cases hbinding : e.binding? <;> simp [hbinding]
    rw [hlast]
    cases hfront : entries.foldlM Scope.addEntry empty with
    | error c =>
      have hconflict := (herror c).mp hfront
      refine ⟨fun c' => ⟨fun h => ?_, fun h => ?_⟩, nofun⟩
      · cases h
        exact hconflict.append _
      · rw [(hconflict.append _).unique h]
        rfl
    | ok s =>
      have hfirst := hok s hfront
      refine ⟨fun c => ?_, fun s' hadd => hfirst.addEntry hadd⟩
      have hnone : ∀ c, ¬IsConflictOf (entries.filterMap (·.binding?)) c := fun c h => by
        rw [← herror c, hfront] at h
        cases h
      refine hfirst.addEntry_eq_error_iff.trans ?_
      cases e.binding? with
      | none =>
        simpa using hnone c
      | some b =>
        rw [Option.toList_some, isConflictOf_concat_iff (find?_departs_eq_none_of_not_exists hnone)]
        simp

/-- The scope of some files exists exactly if no name is bound to two paths. Otherwise the conflict is between the first
binding that departs and the first one of its name, at the declaration of the later one; and a scope has each bound name
under the path that all its bindings have, at the declaration of the first. -/
theorem ofFiles_outcome (files : List ModuleFile) :
    let bs := files.flatMap (·.bindings)
    ((∃ c, ofFiles files = .error c) ↔ ∃ b ∈ bs, ∃ b' ∈ bs, b.name = b'.name ∧ b.path ≠ b'.path) ∧
    (∀ c, ofFiles files = .error c ↔ ∃ later first, bs.find? (departs bs) = some later ∧
      firstOf? bs later.name = some first ∧ c = ⟨later.position, later.name, first.path, later.path⟩) ∧
    ∀ s, ofFiles files = .ok s →
      (∀ b ∈ bs, ∃ first, firstOf? bs b.name = some first ∧ s.imports.get? b.name = some ⟨b.path, first.position⟩) ∧
      ∀ name, (∀ b ∈ bs, b.name ≠ name) → s.imports.get? name = none := by
  intro bs
  rw [ofFiles_eq_foldlM]
  obtain ⟨herror, hok⟩ := foldlM_outcome (files.flatMap (·.entries))
  rw [filterMap_flatMap_entries] at herror hok
  refine ⟨?_, herror, fun s h => ⟨fun b hb => ?_, fun name hname => ?_⟩⟩
  · simp only [herror]
    exact exists_isConflictOf_iff
  · obtain ⟨first, hmem, hfirst, hname⟩ := exists_firstOf?_of_mem hb
    -- A scope that exists has no conflict, so the first binding has the same path.
    have hpath : first.path = b.path := by
      by_contra hne
      obtain ⟨c, hc⟩ := exists_isConflictOf_iff.mpr ⟨first, hmem, b, hb, hname, hne⟩
      rw [← herror c, h] at hc
      cases hc
    refine ⟨first, hfirst, ?_⟩
    rw [hok s h b.name, hfirst, Option.map_some, hpath]
  · have hnone : firstOf? bs name = none := List.find?_eq_none.mpr fun b hb => by simpa using hname b hb
    rw [hok s h name, hnone, Option.map_none]

end Scope

end Switchboard
