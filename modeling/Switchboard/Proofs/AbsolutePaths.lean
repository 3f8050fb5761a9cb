import Switchboard.Proofs.ImportedNames
import Switchboard.Proofs.Roles
import Switchboard.Proofs.Spine

/-! # Absolute paths

A path with `::` in front names an item of a crate, by its own names. A scope reads it as it reads the same path without
the `::`: its first name is looked for among the imports and the child modules. So it stands for the item of the crate
exactly if no import and no child module has the name of the crate (`resolve_absolute_iff`); and for the name of any crate
there is a module in which it does not. -/

namespace Switchboard

open Source

/-- The item of a crate that a path of several names stands for by its own names. -/
def Source.Path.ownItem (p : Path) : Resolution :=
  .external (p.initial.map (·.name)) p.last.name

namespace Scope

variable {s : Scope} {p : Path} {first : String} {rest : List String}

theorem ofFullPath_names (hinitial : p.initial ≠ []) : Resolution.ofFullPath p.names = p.ownItem := by
  have hnames : p.names = p.initial.map (·.name) ++ [p.last.name] := by
    rw [Path.names, Path.segments, List.map_append, List.map_singleton]
  have hempty : (p.initial.map (·.name)).isEmpty = false := by simpa using hinitial
  rw [hnames, Resolution.ofFullPath_concat, hempty]
  rfl

theorem resolve_qualified (hnames : p.names = first :: rest) (hrest : rest ≠ []) :
    s.resolve p = s.resolveQualified first rest := by
  obtain ⟨n, rest, rfl⟩ := List.exists_cons_of_ne_nil hrest
  rw [resolve, hnames, resolveNames]
  simp

/-- Such a path stands for what its own names say exactly if it is read as it is written. -/
theorem resolve_eq_ownItem_iff (hinitial : p.initial ≠ []) (hnames : p.names = first :: rest) (hrest : rest ≠ []) :
    s.resolve p = p.ownItem ↔ s.ReadsAsWritten first rest := by
  rw [← ofFullPath_names hinitial, resolve_qualified hnames hrest, hnames, readsAsWritten_iff]
  by_cases hself : first = "self" ∧ rest.length = 1
  · -- A single name behind `self` is no item of another module.
    obtain ⟨rfl, hlength⟩ := hself
    obtain ⟨n, rfl⟩ := List.length_eq_one_iff.mp hlength
    refine iff_of_false (fun h => ?_) (fun h => h.2 ⟨rfl, hlength⟩)
    rw [resolveQualified_self] at h
    split at h <;> cases h
  · rw [resolveQualified_eq hself, Resolution.ofFullPath_inj hrest, and_iff_left hself, ← List.singleton_append,
      List.append_left_inj]

/-- A path of several names that starts with no keyword is a named type, whatever its first name stands for, unless it has
arguments or is the full path of the text type. -/
theorem isNamed_of_qualified (hinitial : p.initial ≠ []) (hnames : p.names = first :: rest) (hrest : rest ≠ [])
    (hkey : first ∉ leadWords) (hplain : p.isGeneric = false) (htext : p.isStandard ["string", "String"] = false) :
    s.IsNamed p (s.resolve p) := by
  have hforeign (name : String) : ¬s.IsForeignName p name := fun h => hinitial h.initial_eq_nil
  have hitem : s.IsTypeItem (s.resolve p) := by
    have hself : ¬(first = "self" ∧ rest.length = 1) := fun h => hkey (by simp [leadWords, h.1])
    rw [resolve_qualified hnames hrest, resolveQualified_eq hself]
    obtain ⟨init, last, rfl⟩ := (List.eq_nil_or_concat rest).resolve_left hrest
    rw [List.concat_eq_append, ← List.append_assoc, Resolution.ofFullPath_concat]
    split <;> trivial
  refine ⟨⟨hplain, rfl, hitem, ?_⟩, hforeign "str"⟩
  rintro name ⟨-, ⟨hname, -⟩ | ⟨hstandard, -⟩⟩
  · exact hforeign name hname
  · rw [htext] at hstandard
    cases hstandard

/-- A path with `::` in front stands for the item of the crate exactly if its first name is read as it is written; a
parameter of such a type is decoded as that item in the same case. An import of the first name takes its place, and else
a child module of that name. So there is a module that reads the path in another way, unless it starts with a keyword. -/
theorem resolve_absolute_iff (s : Scope) (first last : Segment) (between : List Segment) :
    let p : Path := ⟨true, first :: between, last⟩
    let rest := between.map (·.name) ++ [last.name]
    (s.resolve p = p.ownItem ↔ s.ReadsAsWritten first.name rest) ∧
    (first.name ∉ leadWords →
      (∀ known, s.imports.get? first.name = some known → s.resolve p = .ofFullPath (known.path ++ rest)) ∧
      (s.imports.get? first.name = none → first.name ∈ s.modules →
        s.resolve p = .external ("self" :: first.name :: between.map (·.name)) last.name) ∧
      (p.isGeneric = false → p.isStandard ["string", "String"] = false → ∀ paths,
        s.roleOf paths (s.shape (.path p)) = .ok (.byValue (.named p.ownItem)) ↔ s.ReadsAsWritten first.name rest)) ∧
    ((∀ s' : Scope, s'.resolve p = p.ownItem) ↔ first.name ∈ leadWords ∧ (first.name = "self" → between ≠ [])) := by
  intro p rest
  have hinitial : p.initial ≠ [] := List.cons_ne_nil _ _
  have hnames : p.names = first.name :: rest := by simp [p, rest, Path.names, Path.segments]
  have hrest : rest ≠ [] := by simp [rest]
  have own (s : Scope) : s.resolve p = p.ownItem ↔ s.ReadsAsWritten first.name rest :=
    resolve_eq_ownItem_iff hinitial hnames hrest
  have origin (hkey : first.name ∉ leadWords) : s.resolve p = .ofFullPath (s.origin first.name ++ rest) := by
    rw [resolve_qualified hnames hrest, resolveQualified_eq fun h => hkey (by simp [leadWords, h.1])]
  refine ⟨own s, fun hkey => ⟨fun known himport => ?_, fun himport hmodule => ?_, fun hplain htext paths => ?_⟩, ?_⟩
  · rw [origin hkey, Scope.origin, if_neg hkey, himport]
  · rw [origin hkey, Scope.origin, if_neg hkey, himport, List.contains_iff_mem.mpr hmodule, ← List.append_assoc,
      Resolution.ofFullPath_concat]
    rfl
  · have hnamed : s.IsNamed p (s.resolve p) := isNamed_of_qualified hinitial hnames hrest hkey hplain htext
    rw [roleOf_eq_byValue_iff, shape, shapeWithin_named hnamed, DataType.shape, Shape.named.injEq, own s]
  · constructor
    · intro hall
      by_cases hkey : first.name ∈ leadWords
      · rcases (own empty).mp (hall empty) with ⟨-, hself⟩ | ⟨hnot, -⟩
        · refine ⟨hkey, fun h hnil => hself h ?_⟩
          simp [rest, hnil]
        · exact absurd hkey hnot
      · -- A child module under the name of the crate is in its way.
        rcases (own ⟨[], [first.name], [], []⟩).mp (hall _) with ⟨hkey', -⟩ | ⟨-, hmodule⟩
        · exact absurd hkey' hkey
        · exact absurd (List.mem_singleton_self first.name) hmodule
    · rintro ⟨hkey, hself⟩ s'
      refine (own s').mpr (Or.inl ⟨hkey, fun h hlength => hself h ?_⟩)
      simpa [rest] using hlength

/-- In a module with the child module `chrono` and an import of another `serde`: three absolute paths, of which only the
last is read as it is written. -/
theorem resolve_absolute_iff_child :
    let s : Scope := ⟨[], ["chrono"], [("serde", ⟨["vendor", "serde"], ⟨"h.rs", ⟨2, 1⟩⟩⟩)], []⟩
    let absolute (crate name : String) : Path := ⟨true, [⟨crate, .none⟩], ⟨name, .none⟩⟩
    s.resolve (absolute "chrono" "DateTime") = .external ["self", "chrono"] "DateTime" ∧
      s.resolve (absolute "serde" "Value") = .external ["vendor", "serde"] "Value" ∧
      s.resolve (absolute "uuid" "Uuid") = .external ["uuid"] "Uuid" := by
  intro s absolute
  have key (crate : String) (h : crate ∉ leadWords) (name : String) :=
    (resolve_absolute_iff s ⟨crate, .none⟩ ⟨name, .none⟩ []).2.1 h
  have huuid := (resolve_absolute_iff s ⟨"uuid", .none⟩ ⟨"Uuid", .none⟩ []).1
  refine ⟨(key "chrono" (by decide) "DateTime").2.1 rfl (by decide), (key "serde" (by decide) "Value").1 _ rfl, ?_⟩
  exact huuid.mpr (Or.inr ⟨by decide, show "uuid" ∉ ["chrono"] by decide⟩)

end Scope

end Switchboard
