import Switchboard.Handler.Form
import Switchboard.Proofs.ImportedNames
import Switchboard.Proofs.Spine

/-! # Names behind `self`

A bare name is looked for among the types of the module, then among its imports, and at last it is what a glob may supply.
Behind `self` the same name is looked for among the types alone. So both denote one item exactly if the module declares
the name (`resolve_self_iff`). Where a `use` brings the name in, possibly in another file, the path behind `self` is taken
for one that names nothing. -/

namespace Switchboard

open Source

theorem Resolution.ofFullPath_eq_unresolved_iff {names : List String} : ofFullPath names = .unresolved ↔ names = [] := by
  rcases List.eq_nil_or_concat names with rfl | ⟨m, name, rfl⟩
  · simp
  · rw [List.concat_eq_append, ofFullPath_concat]
    split <;> simp

namespace Scope

/-- A name comes from outside: from the path of its import, or else from a glob. -/
def BringsIn (s : Scope) (name : String) : Prop :=
  match s.imports.get? name with
  | some known => known.path ≠ []
  | none => s.globs ≠ []

variable {s : Scope} {name : String} {bare below : Path}

theorem resolveName_ne_unresolved_iff :
    s.resolveName name ≠ .unresolved ↔ s.types.contains name = true ∨ s.BringsIn name := by
  rw [resolveName, BringsIn]
  by_cases hlocal : s.types.contains name = true
  · simp [hlocal]
  · rw [if_neg hlocal, or_iff_right hlocal]
    cases s.imports.get? name with
    | some known => exact not_congr Resolution.ofFullPath_eq_unresolved_iff
    | none =>
      have hglobs : (if s.globs.isEmpty then Resolution.unresolved else .glob name) = .unresolved ↔ s.globs = [] := by
        cases s.globs <;> simp
      exact not_congr hglobs

theorem resolve_bare (hbare : bare.names = [name]) : s.resolve bare = s.resolveName name := by
  rw [resolve, hbare, resolveNames]

theorem resolve_self (hbelow : below.names = ["self", name]) :
    s.resolve below = if s.types.contains name then .localType name else .unresolved := by
  rw [resolve, hbelow, resolveNames, resolveQualified_self]
  simp

/-- What the module does not declare is not known behind `self`, whatever its imports are. -/
theorem isUnknown_self (hbelow : below.names = ["self", name]) (hlocal : s.types.contains name = false)
    (hplain : below.isGeneric = false) : s.IsUnknown below := by
  have hforeign (other : String) : ¬s.IsForeignName below other := by
    intro hother
    simp [Path.names, Path.segments, hother.initial_eq_nil] at hbelow
  refine ⟨hplain, by rw [resolve_self hbelow, hlocal]; rfl, ?_, hforeign "str"⟩
  rintro other ⟨-, ⟨hbare, -⟩ | ⟨hstandard, -⟩⟩
  · exact hforeign other hbare
  · simp [Path.isStandard, hbelow] at hstandard

/-- A name denotes the same item behind `self` exactly if the module declares it. All other names that `use` declarations
bring in resolve only bare, and a parameter of their type behind `self` is an error. -/
theorem resolve_self_iff (s : Scope) (a : Surroundings) (hbare : bare.names = [name])
    (hbelow : below.names = ["self", name]) :
    ((∃ item, a.denoted (s.resolve below) = some item ∧ a.denoted (s.resolve bare) = some item) ↔
      s.types.contains name = true) ∧
    (s.resolve bare ≠ .unresolved ↔ s.types.contains name = true ∨ s.BringsIn name) ∧
    (s.resolve below ≠ .unresolved ↔ s.types.contains name = true) ∧
    (s.types.contains name = false → below.isGeneric = false → ∀ paths,
      s.roleOf paths (s.shape (.path below)) = .error (.unresolved below.render)) := by
  rw [resolve_bare hbare, resolve_self hbelow]
  refine ⟨?_, resolveName_ne_unresolved_iff, by simp, fun hlocal hplain paths => ?_⟩
  · by_cases hlocal : s.types.contains name = true
    · rw [resolveName, if_pos hlocal, if_pos hlocal]
      exact ⟨fun _ => hlocal, fun _ => ⟨a.named name, rfl, rfl⟩⟩
    · rw [if_neg hlocal]
      constructor
      · -- Nothing is denoted by a path that does not resolve.
        rintro ⟨item, hitem, -⟩
        cases hitem
      · exact fun h => absurd h hlocal
  · rw [shape, shapeWithin_unknown (isUnknown_self hbelow hlocal hplain)]
    rfl

/-- A module that declares `User` and imports `Date`: behind `self` only `User` is known. -/
theorem resolve_self_iff_imported :
    let s : Scope := ⟨[("User", .declared .struct)], [], [("Date", ⟨["chrono", "Date"], ⟨"a.rs", ⟨1, 1⟩⟩⟩)], []⟩
    let a : Surroundings := ⟨["h"], fun _ => none⟩
    let bare (name : String) : Path := ⟨false, [], ⟨name, .none⟩⟩
    let below (name : String) : Path := ⟨false, [⟨"self", .none⟩], ⟨name, .none⟩⟩
    (∃ item, a.denoted (s.resolve (below "User")) = some item ∧ a.denoted (s.resolve (bare "User")) = some item) ∧
      s.resolve (bare "Date") ≠ .unresolved ∧ s.resolve (below "Date") = .unresolved ∧
      ∀ paths, s.roleOf paths (s.shape (.path (below "Date"))) = .error (.unresolved "self::Date") := by
  intro s a bare below
  have names (name : String) : (bare name).names = [name] ∧ (below name).names = ["self", name] := ⟨rfl, rfl⟩
  obtain ⟨huser, -⟩ := resolve_self_iff s a (names "User").1 (names "User").2
  obtain ⟨-, hbare, hbelow, hrole⟩ := resolve_self_iff s a (names "Date").1 (names "Date").2
  have hlocal : s.types.contains "Date" = false := rfl
  refine ⟨huser.mpr rfl, hbare.mpr (Or.inr (List.cons_ne_nil _ _)), ?_, hrole hlocal rfl⟩
  exact not_not.mp fun h => Bool.false_ne_true (hlocal.symm.trans (hbelow.mp h))

end Scope

end Switchboard
