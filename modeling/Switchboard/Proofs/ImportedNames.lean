import Switchboard.Proofs.ImportTable

/-! # Imported names and their paths

A bare imported name stands for the path of its import as it is. Where the same path is written out, its first name is
looked up: it may be imported itself, or be a child module, and then the path is another one (`origin`). Both resolve
alike exactly if the first name is read as itself (`resolve_imported_iff`). A single name behind `self` never is, since
that is looked for among the types that the module declares. -/

namespace Switchboard

open Source

namespace Resolution

/-- Full paths of two names and more are told apart by their resolutions. -/
theorem ofFullPath_inj {names : List String} {first : String} {rest : List String} (hrest : rest ≠ []) :
    ofFullPath names = ofFullPath (first :: rest) ↔ names = first :: rest := by
  refine ⟨fun h => ?_, fun h => h ▸ rfl⟩
  obtain ⟨init, last, rfl⟩ := (List.eq_nil_or_concat rest).resolve_left hrest
  rw [List.concat_eq_append, ← List.cons_append] at h ⊢
  rw [ofFullPath_concat] at h
  rcases List.eq_nil_or_concat names with rfl | ⟨front, name, rfl⟩
  · cases h
  · rw [List.concat_eq_append, ofFullPath_concat] at h
    cases front with
    | nil => cases h
    | cons n front =>
      obtain ⟨hfront, hname⟩ := Resolution.external.inj h
      rw [List.concat_eq_append, hfront, hname]

end Resolution

namespace Scope

/-- The path that the first name of a longer path stands for. -/
def origin (s : Scope) (first : String) : List String :=
  if first ∈ leadWords then [first]
  else match s.imports.get? first with
    | some known => known.path
    | none => if s.modules.contains first then ["self", first] else [first]

/-- A path that is read as it is written, `first` in front of `rest`: from a keyword, but for a single name behind `self`,
or from a name that neither an import nor a child module gives another meaning. -/
def ReadsAsWritten (s : Scope) (first : String) (rest : List String) : Prop :=
  (first ∈ leadWords ∧ (first = "self" → rest.length ≠ 1)) ∨
  (first ∉ leadWords ∧ match s.imports.get? first with
    | some known => known.path = [first]
    | none => first ∉ s.modules)

variable {s : Scope} {name first : String} {rest : List String}

theorem resolveQualified_self (s : Scope) (name : String) :
    s.resolveQualified "self" [name] = if s.types.contains name then .localType name else .unresolved := rfl

/-- But for a single name behind `self`, a path is looked up from the origin of its first name. -/
theorem resolveQualified_eq (h : ¬(first = "self" ∧ rest.length = 1)) :
    s.resolveQualified first rest = .ofFullPath (s.origin first ++ rest) := by
  unfold resolveQualified
  split
  · exact absurd ⟨rfl, rfl⟩ h
  · rfl
  · rfl
  · rfl
  · rename_i hcrate hself hsuper _
    have hkey : first ∉ leadWords := by
      simp only [leadWords, List.mem_cons, List.not_mem_nil, or_false, not_or]
      exact ⟨hcrate, hself, hsuper⟩
    rw [origin, if_neg hkey]
    cases s.imports.get? first with
    | some known => rfl
    | none => cases s.modules.contains first <;> rfl

theorem readsAsWritten_iff : s.ReadsAsWritten first rest ↔
    s.origin first = [first] ∧ ¬(first = "self" ∧ rest.length = 1) := by
  by_cases hkey : first ∈ leadWords
  · simp [ReadsAsWritten, origin, hkey]
  · have hself : first ≠ "self" := fun h => hkey (by simp [leadWords, h])
    cases himport : s.imports.get? first with
    | some known => simp [ReadsAsWritten, origin, hkey, himport, hself]
    | none => simp [ReadsAsWritten, origin, hkey, himport, hself]

theorem resolveName_imported {known : Import} (himport : s.imports.get? name = some known)
    (hlocal : s.types.contains name = false) : s.resolveName name = .ofFullPath known.path := by
  simp [resolveName, hlocal, himport]

/-- A bare imported name resolves as the path of its import exactly if that path is read as it is written. -/
theorem resolve_imported_iff {position : Position} (himport : s.imports.get? name = some ⟨first :: rest, position⟩)
    (hrest : rest ≠ []) (hlocal : s.types.contains name = false) {bare written : Path} (hbare : bare.names = [name])
    (hwritten : written.names = first :: rest) :
    s.resolve bare = s.resolve written ↔ s.ReadsAsWritten first rest := by
  have hfull : s.resolve bare = .ofFullPath (first :: rest) := by
    rw [resolve, hbare, resolveNames, resolveName_imported himport hlocal]
  have hqualified : s.resolve written = s.resolveQualified first rest := by
    obtain ⟨n, rest, rfl⟩ := List.exists_cons_of_ne_nil hrest
    rw [resolve, hwritten, resolveNames]
    simp
  rw [hfull, hqualified, readsAsWritten_iff]
  by_cases hself : first = "self" ∧ rest.length = 1
  · obtain ⟨rfl, hlength⟩ := hself
    obtain ⟨n, rfl⟩ := List.length_eq_one_iff.mp hlength
    refine ⟨fun h => ?_, fun h => absurd ⟨rfl, hlength⟩ h.2⟩
    rw [resolveQualified_self] at h
    split at h <;> cases h
  · rw [resolveQualified_eq hself, eq_comm, Resolution.ofFullPath_inj hrest]
    have hcancel : s.origin first ++ rest = first :: rest ↔ s.origin first = [first] := by
      rw [← List.singleton_append, List.append_left_inj]
    rw [hcancel, and_iff_left hself]

/-- Two imported names of a module with the child module `models`: one from a crate, one from the child module. -/
theorem resolve_imported_iff_child :
    let s : Scope := ⟨[], ["models"], [("Date", ⟨["chrono", "Date"], ⟨"h.rs", ⟨1, 1⟩⟩⟩),
      ("User", ⟨["models", "User"], ⟨"h.rs", ⟨2, 1⟩⟩⟩)], []⟩
    let bare (name : String) : Path := ⟨false, [], ⟨name, .none⟩⟩
    let below (m name : String) : Path := ⟨false, [⟨m, .none⟩], ⟨name, .none⟩⟩
    s.resolve (bare "Date") = s.resolve (below "chrono" "Date") ∧
      s.resolve (bare "User") ≠ s.resolve (below "models" "User") := by
  intro s bare below
  have hdate : s.resolve (bare "Date") = s.resolve (below "chrono" "Date") ↔ s.ReadsAsWritten "chrono" ["Date"] :=
    resolve_imported_iff rfl (by simp) (by decide) rfl rfl
  have huser : s.resolve (bare "User") = s.resolve (below "models" "User") ↔ s.ReadsAsWritten "models" ["User"] :=
    resolve_imported_iff rfl (by simp) (by decide) rfl rfl
  refine ⟨hdate.mpr (Or.inr ⟨by decide, show "chrono" ∉ ["models"] by decide⟩), fun h => ?_⟩
  rcases huser.mp h with ⟨hkey, -⟩ | ⟨-, hmodule⟩
  · exact absurd hkey (by decide)
  · exact absurd (List.mem_singleton_self "models") hmodule

end Scope

end Switchboard
