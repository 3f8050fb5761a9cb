import Switchboard.Dispatch.File
import Switchboard.Proofs.ImportedModules
import Switchboard.Proofs.Spine

/-! # Captured names

The aliases of a dispatch file are kept apart from each other, and from nothing else. A path of the file that starts with
another name is captured by an alias of that name: the path of the shared pointers, which the file spells out from `std`;
the path of another import, which starts with the name of a crate; the bare name of a type, which the file sees through
`use super::*`.

Whether that happens is decided by the module paths that the file is asked for (`isCaptured_iff`). A root name is captured
only if a module path ends in it, perhaps with a number behind the last name; and a name that cannot come from a number
is captured exactly by the first module path that ends in it. -/

namespace Switchboard

open Source

namespace DispatchContext

/-- The root names that a dispatch file relies on next to an import: the crate that it clones shared pointers from, the
crates of all other imports, and the bare names of data types. -/
inductive ReliesOn (c : DispatchContext) (e : NamedImport) : String → Prop where
  | standard : ReliesOn c e "std"
  | crate {other : NamedImport} {first : String} {rest : List String} (hother : other ∈ c.imports.entries) (hne : other ≠ e)
      (hpath : pathNames other.path = first :: rest) (hfirst : first ∉ leadWords) : ReliesOn c e first
  | bareType {d : Descriptor} {p : DescribedParameter} {name : String} (hd : d ∈ c.descriptors) (hp : p ∈ d.parameters)
      (htype : p.role.typeName? = some name) (hbare : pathNames name = [name]) : ReliesOn c e name

/-- A root name that the file relies on next to an import whose alias it is. -/
def IsCaptured (c : DispatchContext) (root : String) : Prop :=
  ∃ e ∈ c.imports.entries, c.ReliesOn e root ∧ e.aliasName = root

end DispatchContext

theorem numberedName_ne_std (base : String) (k : Nat) : numberedName base k ≠ "std" := by
  intro h
  have hlow : '_' ∈ (numberedName base k).toList := by simp [numberedName]
  rw [h] at hlow
  exact absurd hlow (by decide)

section
variable {c : DispatchContext} {paths : List String} {root : String}

/-- A captured name is the last name of a path, or such a name with a number. -/
theorem DispatchContext.IsCaptured.exists_lastName (himports : c.imports = .ofPaths paths) (h : c.IsCaptured root) :
    ∃ path ∈ paths, root = lastName path ∨
      ∃ k, 1 ≤ k ∧ k ≤ paths.length ∧ root = numberedName (lastName path) k := by
  obtain ⟨e, he, -, rfl⟩ := h
  rw [himports] at he
  exact ⟨e.path, ImportTable.mem_of_mem_ofPaths he, ImportTable.alias_ofPaths_cases he⟩

/-- A name that is no last name with a number is captured by the first path that ends in it. -/
theorem isCaptured_iff_find? (himports : c.imports = .ofPaths paths)
    (hroot : ∀ path ∈ paths, ∀ k, root ≠ numberedName (lastName path) k) :
    c.IsCaptured root ↔
      ∃ e ∈ c.imports.entries, c.ReliesOn e root ∧ paths.find? (lastName · = root) = some e.path := by
  refine exists_congr fun e => and_congr_right fun he => and_congr_right fun _ => ?_
  rw [himports] at he
  rw [← ImportTable.exists_alias_iff hroot]
  constructor
  · intro halias
    exact ⟨e, he, halias, rfl⟩
  · rintro ⟨e', he', halias, hpath⟩
    have hwell := ImportTable.wellFormed_ofPaths paths
    rwa [List.inj_on_of_nodup_map hwell.paths_nodup he' he hpath] at halias

theorem isCaptured_std_iff (himports : c.imports = .ofPaths paths) :
    c.IsCaptured "std" ↔ ∃ path ∈ paths, lastName path = "std" := by
  rw [isCaptured_iff_find? himports fun path _ k h => numberedName_ne_std _ k h.symm]
  constructor
  · rintro ⟨e, -, -, hfind⟩
    exact ⟨e.path, List.mem_of_find?_eq_some hfind, by simpa using List.find?_some hfind⟩
  · rintro ⟨path, hpath, hlast⟩
    obtain ⟨first, hfind⟩ : ∃ first, paths.find? (lastName · = "std") = some first :=
      Option.isSome_iff_exists.mp (List.find?_isSome.mpr ⟨path, hpath, by simpa using hlast⟩)
    obtain ⟨e, he, -, rfl⟩ :=
      (ImportTable.exists_alias_iff fun path _ k h => numberedName_ne_std _ k h.symm).mpr hfind
    exact ⟨e, himports ▸ he, .standard, hfind⟩

end

/-- In the dispatch file of a module, a root name is captured only if it is the last name of a module path that the file is
asked for, or such a name with a number; without a number, it is captured exactly if the first path that ends in it is
that of an import next to which the file relies on the name. The crate of the shared pointers is captured exactly if some
path ends in its name. -/
theorem isCaptured_iff {o : Conventions} {files : List ModuleFile} {c : DispatchContext} (h : analyze o files = .ok c) :
    ∃ s forms, Scope.ofFiles files = .ok s ∧ handlerForms s o.injectedPaths (declaredFunctions files) = .ok forms ∧
      let paths := importedModules o forms
      (c.IsCaptured "std" ↔ ∃ path ∈ paths, lastName path = "std") ∧
      ∀ root, (c.IsCaptured root → ∃ path ∈ paths, root = lastName path ∨
          ∃ k, 1 ≤ k ∧ k ≤ paths.length ∧ root = numberedName (lastName path) k) ∧
        ((∀ path ∈ paths, ∀ k, root ≠ numberedName (lastName path) k) →
          (c.IsCaptured root ↔
            ∃ e ∈ c.imports.entries, c.ReliesOn e root ∧ paths.find? (lastName · = root) = some e.path)) := by
  obtain ⟨s, forms, hs, hforms, rfl⟩ := analyze_ok h
  have himports := imports_contextOf o forms
  refine ⟨s, forms, hs, hforms, isCaptured_std_iff himports, fun root => ⟨?_, isCaptured_iff_find? himports⟩⟩
  exact DispatchContext.IsCaptured.exists_lastName himports

/-- A parameter of a type from the module `vendor::std`. -/
theorem isCaptured_iff_vendor :
    let o : Conventions := .ofModule "handlers"
    let parameter : Parameter := .typed "x" ⟨2, 13⟩ (.path ⟨false, [], ⟨"Thing", .none⟩⟩)
    let f : Function := ⟨"f", ⟨2, 8⟩, true, ⟨false, false, false, false, false, [parameter], none⟩⟩
    let file : ModuleFile := ⟨"h.rs", [.use ⟨1, 1⟩ (.path "vendor" (.path "std" (.name "Thing"))), .function f]⟩
    ∃ c, analyze o [file] = .ok c ∧ c.IsCaptured "std" ∧ "use vendor::std;" ∈ c.lines ∧
      "        let msg_codec = std::sync::Arc::clone(msg_codec);" ∈ c.lines := by
  intro o parameter f file
  let s : Scope := ⟨[], [], [("Thing", ⟨["vendor", "std", "Thing"], ⟨"h.rs", ⟨1, 1⟩⟩⟩)], []⟩
  let form : HandlerForm := ⟨"f", ⟨"h.rs", ⟨2, 8⟩⟩, [⟨"x", .byValue (.named (.external ["vendor", "std"] "Thing"))⟩], [], false⟩
  have hs : Scope.ofFiles [file] = .ok s := rfl
  have hnamed : s.IsNamed ⟨false, [], ⟨"Thing", .none⟩⟩ (.external ["vendor", "std"] "Thing") := by
    refine ⟨⟨rfl, by decide, trivial, Scope.not_isScalar (by decide) (by decide)⟩, ?_⟩
    rintro ⟨-, hname, -⟩
    exact absurd hname (by decide)
  have hforms : handlerForms s o.injectedPaths (declaredFunctions [file]) = .ok [form] := by
    have hrole : s.roleOf o.injectedPaths (s.shape (.path ⟨false, [], ⟨"Thing", .none⟩⟩)) =
        .ok (.byValue (.named (.external ["vendor", "std"] "Thing"))) := by
      rw [Scope.shape, Scope.shapeWithin_named hnamed]
      rfl
    have hparameters : s.parameterForms o.injectedPaths [] [parameter] = .ok form.parameters := by
      rw [Scope.parameterForms, hrole]
      rfl
    have hform : s.formOf o.injectedPaths file f = .ok form := by
      unfold Scope.formOf
      simp only [f, hparameters]
      rfl
    have hdeclared : declaredFunctions [file] = [⟨file, f⟩] := rfl
    rw [hdeclared, handlerForms, hform]
    rfl
  have h : analyze o [file] = .ok (contextOf o [form]) := analyze_of_forms (by simp) hs hforms
  obtain ⟨s', forms, hs', hforms', hstd, -⟩ := isCaptured_iff h
  obtain rfl : s = s' := Except.ok.inj (hs.symm.trans hs')
  obtain rfl : [form] = forms := Except.ok.inj (hforms.symm.trans hforms')
  exact ⟨_, h, hstd.mpr ⟨"vendor::std", by decide, by decide⟩, by decide, by decide⟩

end Switchboard
