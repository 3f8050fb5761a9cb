import Switchboard.Proofs.ImportConflicts
import Switchboard.Proofs.Places

/-! # Grouped imports

An import declaration stands for its leaves, and each leaf can be declared by itself: by the names on the way to it in a
row, and without `self`, as `p::{self}` is `p` and `p::{self as n}` is `p as n` (`WrittenLeaf.plain`). A module in which a
declaration is replaced by those of its leaves has the same scope or the same conflict (`Scope.ofFiles_ungrouped`). -/

namespace Switchboard

open Source

/-! ### One declaration for each leaf -/

namespace UseEnd

/-- The end is `self`, under its own name or a new one. -/
def isSelf : UseEnd → Bool
  | name n => n = "self"
  | rename n _ => n = "self"
  | glob => false

/-- The end with another name in place of the one that is looked up. -/
def withName (n : String) : UseEnd → UseEnd
  | name _ => name n
  | rename _ newName => rename n newName
  | glob => glob

def tree : UseEnd → UseTree
  | name n => .name n
  | rename n newName => .rename n newName
  | glob => .glob

end UseEnd

namespace WrittenLeaf

/-- The leaf without `self` at its end: it ends in the last name of the way there. -/
def withoutSelf (l : WrittenLeaf) : WrittenLeaf :=
  match l.way.getLast? with
  | none => l
  | some last => if l.last.isSelf then ⟨l.way.dropLast, l.last.withName last⟩ else l

/-- The tree of no other leaf. -/
def tree (l : WrittenLeaf) : UseTree :=
  l.way.foldr .path l.last.tree

/-- The leaf declared by itself. -/
def plain (l : WrittenLeaf) : UseTree :=
  l.withoutSelf.tree

/-- If the leaf is `self`, there is a way to it, and this does not end in `self` too. -/
def IsProper (l : WrittenLeaf) : Prop :=
  l.last.isSelf = true → ∃ last, l.way.getLast? = some last ∧ last ≠ "self"

theorem written_tree (l : WrittenLeaf) : l.tree.written = [l] := by
  obtain ⟨way, last⟩ := l
  rw [tree]
  induction way with
  | nil => cases last <;> rfl
  | cons first way ih =>
    rw [List.foldr_cons, UseTree.written]
    simp only at ih
    rw [ih]
    rfl

theorem leaves_withoutSelf {l : WrittenLeaf} (h : l.IsProper) : l.withoutSelf.leaves = l.leaves := by
  obtain ⟨way, last⟩ := l
  by_cases hself : last.isSelf = true
  · obtain ⟨n, hlast, hne⟩ := h hself
    obtain ⟨before, rfl⟩ := List.getLast?_eq_some_iff.mp hlast
    have hwithout : withoutSelf ⟨before ++ [n], last⟩ = ⟨before, last.withName n⟩ := by
      simp [withoutSelf, hself]
    rw [hwithout]
    cases last with
    | name m =>
      obtain rfl : m = "self" := of_decide_eq_true hself
      simp [leaves, UseEnd.withName, ImportLeaf.ofName, hne]
    | rename m newName =>
      obtain rfl : m = "self" := of_decide_eq_true hself
      simp [leaves, UseEnd.withName, ImportLeaf.ofRename, hne]
    | glob => cases hself
  · have hwithout : withoutSelf ⟨way, last⟩ = ⟨way, last⟩ := by
      rw [withoutSelf]
      split
      · rfl
      · exact if_neg hself
    rw [hwithout]

theorem leaves_tree (l : WrittenLeaf) : l.tree.leaves = l.leaves := by
  rw [UseTree.leaves, UseTree.leavesUnder_eq_written, written_tree, List.flatMap_singleton]
  rfl

end WrittenLeaf

/-! ### The same entries -/

/-- What an item adds depends on its file by the file's path alone. -/
theorem Source.Item.entries_congr {file file' : ModuleFile} (h : file.path = file'.path) (item : Item) :
    item.entries file = item.entries file' := by
  cases item with
  | use mark tree => rw [entries, entries, ModuleFile.position, ModuleFile.position, h]
  | function | declaration | typeAlias | module | other => rfl

theorem ModuleFile.entries_mk (path : String) (items : List Item) :
    entries ⟨path, items⟩ = items.flatMap (·.entries ⟨path, []⟩) :=
  List.flatMap_congr fun item _ => item.entries_congr rfl

/-- The declarations of the leaves add what the declaration of them all does. -/
theorem Source.Item.flatMap_entries_plain (file : ModuleFile) (mark : Mark) {tree : UseTree}
    (h : ∀ l ∈ tree.written, l.IsProper) :
    (tree.written.map fun l => Item.use mark l.plain).flatMap (·.entries file) = (Item.use mark tree).entries file := by
  have hleaves : tree.leaves = tree.written.flatMap (·.leaves) := by
    rw [UseTree.leaves, UseTree.leavesUnder_eq_written]
    rfl
  rw [List.flatMap_map, entries, hleaves, List.map_flatMap]
  refine List.flatMap_congr fun l hl => ?_
  rw [entries, WrittenLeaf.plain, WrittenLeaf.leaves_tree, WrittenLeaf.leaves_withoutSelf (h l hl)]

namespace Scope

/-- A module in which an import declaration is replaced by one plain declaration for each of its leaves, in order, has the
same types, modules, imports and globs and resolves each path alike, or it has the same conflict. Only marks can differ. -/
theorem ofFiles_ungrouped (before after : List ModuleFile) {path : String} {front back : List Item} {mark : Mark}
    {tree : UseTree} {file : ModuleFile} (hproper : ∀ l ∈ tree.written, l.IsProper)
    (hfile : file.unmarked =
      ModuleFile.unmarked ⟨path, front ++ tree.written.map (fun l => .use mark l.plain) ++ back⟩) :
    let grouped := ofFiles (before ++ ⟨path, front ++ .use mark tree :: back⟩ :: after)
    let ungrouped := ofFiles (before ++ file :: after)
    (∀ s, grouped = .ok s → ∃ s', ungrouped = .ok s' ∧ s'.types = s.types ∧ s'.modules = s.modules ∧
      (∀ name, (s'.imports.get? name).map (·.path) = (s.imports.get? name).map (·.path)) ∧ s'.globs = s.globs ∧
      ∀ p, s'.resolve p = s.resolve p) ∧
    ∀ c, grouped = .error c → ∃ c', ungrouped = .error c' ∧ c'.position.file = c.position.file ∧ c'.name = c.name ∧
      c'.first = c.first ∧ c'.second = c.second := by
  intro grouped ungrouped
  -- With the marks of the one declaration, those of its leaves add the same entries one by one.
  have hsame : grouped =
      ofFiles (before ++ ⟨path, front ++ tree.written.map (fun l => .use mark l.plain) ++ back⟩ :: after) := by
    have hentries := Item.flatMap_entries_plain ⟨path, []⟩ mark hproper
    simp only [grouped, ofFiles_eq_foldlM, List.flatMap_append, List.flatMap_cons, ModuleFile.entries_mk, hentries,
      List.append_assoc]
  have halike : (grouped.map (·.unmarked)).mapError (·.unmarked) =
      (ungrouped.map (·.unmarked)).mapError (·.unmarked) := by
    rw [hsame, ← ofFiles_unmarked, ← ofFiles_unmarked, List.map_append, List.map_append, List.map_cons, List.map_cons,
      hfile]
  obtain ⟨hok, herror⟩ := outcome_of_left_out halike
  refine ⟨fun s hs => ?_, fun c hc => ?_⟩
  · obtain ⟨s', hs', hunmarked⟩ := hok s hs
    have himports (name : String) : (s'.imports.get? name).map (·.path) = (s.imports.get? name).map (·.path) := by
      rw [← s'.agrees_unmarked.imports, hunmarked, s.agrees_unmarked.imports]
    have hresolve (p : Path) : s'.resolve p = s.resolve p := by
      rw [← s'.agrees_unmarked.sameNames.resolve, hunmarked, s.agrees_unmarked.sameNames.resolve]
    exact ⟨s', hs', congrArg (·.types) hunmarked, congrArg (·.modules) hunmarked, himports,
      congrArg (·.globs) hunmarked, hresolve⟩
  · obtain ⟨c', hc', hunmarked⟩ := herror c hc
    exact ⟨c', hc', congrArg (·.position.file) hunmarked, congrArg (·.name) hunmarked, congrArg (·.first) hunmarked,
      congrArg (·.second) hunmarked⟩

/-- Groups in a group, with `self` under two names, a glob, and a trait that is imported for its methods only. The function
behind the declaration moves down. -/
theorem ofFiles_ungrouped_nested :
    let tree : UseTree := .path "a" (.group [.path "b" (.group [.name "self", .name "C"]), .rename "self" "d",
      .path "e" .glob, .rename "F" "_"])
    let function (mark : Mark) : Item :=
      .function ⟨"f", mark, true, ⟨false, false, false, false, false, [], none⟩⟩
    let grouped : ModuleFile := ⟨"m.rs", [.use ⟨1, 1⟩ tree, function ⟨2, 8⟩]⟩
    let ungrouped : ModuleFile := ⟨"m.rs", [.use ⟨1, 1⟩ (.path "a" (.name "b")),
      .use ⟨2, 1⟩ (.path "a" (.path "b" (.name "C"))), .use ⟨3, 1⟩ (.rename "a" "d"), .use ⟨4, 1⟩ (.path "a" (.path "e" .glob)),
      .use ⟨5, 1⟩ (.path "a" (.rename "F" "_")), function ⟨6, 8⟩]⟩
    (∀ l ∈ tree.written, l.IsProper) ∧ ∃ s s', ofFiles [grouped] = .ok s ∧ ofFiles [ungrouped] = .ok s' ∧
      s'.globs = [["a", "e"]] ∧ (∀ name, (s'.imports.get? name).map (·.path) = (s.imports.get? name).map (·.path)) ∧
      (s'.imports.get? "b").map (·.path) = some ["a", "b"] ∧ ∀ p, s'.resolve p = s.resolve p := by
  intro tree function grouped ungrouped
  have hproper : ∀ l ∈ tree.written, l.IsProper := by
    simp [tree, UseTree.written, UseTree.allWritten, WrittenLeaf.IsProper, UseEnd.isSelf]
  have hfile : ungrouped.unmarked =
      ModuleFile.unmarked ⟨"m.rs", [] ++ tree.written.map (fun l => .use ⟨1, 1⟩ l.plain) ++ [function ⟨2, 8⟩]⟩ := rfl
  obtain ⟨s', hs', -, -, himports, hglobs, hresolve⟩ := (ofFiles_ungrouped [] [] hproper hfile).1 _ rfl
  exact ⟨hproper, _, s', rfl, hs', hglobs, himports, himports "b", hresolve⟩

end Scope

end Switchboard
