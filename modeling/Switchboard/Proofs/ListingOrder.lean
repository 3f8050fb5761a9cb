import Switchboard.Proofs.SourceListing
import Switchboard.Proofs.Utf8

/-! # The order of source files

The names of source files come in strictly increasing order of their bytes (`pairwise_utf8_sourceNames`), and such an order
leaves no choice: a directory that is read in any order, with names that are bytes and may be no text, gives the same source
files (`FileSystem.Lists.listedSources_eq`). -/

namespace Switchboard

open PathText

/-! ### Names in the order of their bytes -/

theorem hasEnding_iff {ending name : String} : hasEnding ending name = true ↔ ∃ before, name = before ++ ending := by
  rw [hasEnding, List.isSuffixOf_iff_suffix]
  constructor
  · rintro ⟨before, h⟩
    exact ⟨String.ofList before, String.toList_inj.mp (by rw [String.toList_append, String.toList_ofList, h])⟩
  · rintro ⟨before, rfl⟩
    exact ⟨before.toList, String.toList_append.symm⟩

theorem isSourceName_iff {name : String} : isSourceName name = true ↔
    (∃ before, name = before ++ ".rs") ∧ ¬∃ before, name = before ++ ".gen.rs" := by
  rw [isSourceName, Bool.and_eq_true, Bool.not_eq_true', ← Bool.not_eq_true, hasEnding_iff, hasEnding_iff]
  rfl

/-- Names are in strictly increasing order of their bytes. -/
def IsByteOrdered (names : List String) : Prop :=
  names.Pairwise fun a b => Text.utf8 a < Text.utf8 b

theorem isByteOrdered_of_pairwise_le {names : List String} (h : names.Pairwise (· ≤ ·)) (hnodup : names.Nodup) :
    IsByteOrdered names :=
  h.imp₂ (fun _ _ hle hne => Text.utf8_lt (lt_of_le_of_ne hle hne)) hnodup

theorem IsByteOrdered.nodup {names : List String} (h : IsByteOrdered names) : names.Nodup :=
  List.Pairwise.imp (fun {a b} (hlt : Text.utf8 a < Text.utf8 b) (heq : a = b) => List.lt_irrefl _ (heq ▸ hlt)) h

/-- Only one list of the same names is in the order of their bytes. -/
theorem IsByteOrdered.eq_of_mem_iff {names names' : List String} (h : IsByteOrdered names) (h' : IsByteOrdered names')
    (hmem : ∀ name, name ∈ names ↔ name ∈ names') : names = names' := by
  have hperm : names.Perm names' := (List.perm_ext_iff_of_nodup h.nodup h'.nodup).mpr hmem
  exact hperm.eq_of_pairwise (fun _ _ _ _ hab hba => absurd (List.lt_trans hab hba) (List.lt_irrefl _)) h h'

theorem isByteOrdered_sourceNames {children : List (String × Entry)} (h : (children.map (·.1)).Nodup) :
    IsByteOrdered (sourceNames children) :=
  isByteOrdered_of_pairwise_le (pairwise_sourceNames children) (nodup_sourceNames h)

/-! ### Directories as they are read -/

/-- The name of an entry whose name is bytes, if it is a source file. -/
def sourceName? : List UInt8 × Entry → Option String
  | (bytes, .file _) => (Text.decodeUtf8? bytes).filter isSourceName
  | _ => none

/-- The names of the source files among entries whose names are bytes, in the order of the bytes. -/
def listedSources (listing : List (List UInt8 × Entry)) : List String :=
  (listing.filterMap sourceName?).mergeSort fun a b => decide (Text.utf8 a ≤ Text.utf8 b)

theorem sourceName?_eq_some_iff {entry : List UInt8 × Entry} {name : String} : sourceName? entry = some name ↔
    isSourceName name = true ∧ ∃ contents, entry = (Text.utf8 name, .file contents) := by
  obtain ⟨bytes, e⟩ := entry
  cases e with
  | file contents =>
    simp only [sourceName?, Option.filter_eq_some_iff, Text.decodeUtf8?_eq_some_iff, Prod.mk.injEq, Entry.file.injEq,
      exists_and_left, exists_eq', and_true]
    exact ⟨fun ⟨h, hsource⟩ => ⟨hsource, h.symm⟩, fun ⟨hsource, h⟩ => ⟨h.symm, hsource⟩⟩
  | directory => simp [sourceName?]
  | link target => simp [sourceName?]

theorem mem_listedSources_iff {listing : List (List UInt8 × Entry)} {name : String} : name ∈ listedSources listing ↔
    isSourceName name = true ∧ ∃ contents, (Text.utf8 name, .file contents) ∈ listing := by
  simp only [listedSources, List.mem_mergeSort, List.mem_filterMap, sourceName?_eq_some_iff]
  constructor
  · rintro ⟨_, hmem, hsource, contents, rfl⟩
    exact ⟨hsource, contents, hmem⟩
  · rintro ⟨hsource, contents, hmem⟩
    exact ⟨_, hmem, hsource, contents, rfl⟩

theorem isByteOrdered_listedSources {listing : List (List UInt8 × Entry)} (h : (listing.map (·.1)).Nodup) :
    IsByteOrdered (listedSources listing) := by
  have hnodup : (listing.filterMap sourceName?).Nodup := by
    rw [List.Nodup, List.pairwise_filterMap]
    refine (List.pairwise_map.mp h).imp fun hne name hname name' hname' heq => hne ?_
    obtain ⟨-, _, rfl⟩ := sourceName?_eq_some_iff.mp hname
    obtain ⟨-, _, rfl⟩ := sourceName?_eq_some_iff.mp hname'
    exact congrArg Text.utf8 heq
  have hle (a b : String) : decide (Text.utf8 a ≤ Text.utf8 b) = decide (a ≤ b) := by
    rw [decide_eq_decide, ← not_lt, ← Text.utf8_lt_iff]
    rfl
  unfold listedSources
  simp only [hle]
  exact isByteOrdered_of_pairwise_le (List.pairwise_mergeSort' _ _) ((List.mergeSort_perm _ _).nodup_iff.mpr hnodup)

namespace FileSystem

/-- What a directory shows when it is read: its entries under the bytes of their names, each once, in some order. There may
be more of them, with names that are no text. -/
structure Lists (fs : FileSystem) (d : Location) (listing : List (List UInt8 × Entry)) : Prop where
  distinct : (listing.map (·.1)).Nodup
  entries : ∀ name e, (Text.utf8 name, e) ∈ listing ↔ fs.at? (d ++ [name]) = some e

variable {fs : FileSystem} {d : Location}

theorem Lists.perm {listing listing' : List (List UInt8 × Entry)} (h : fs.Lists d listing) (hperm : listing'.Perm listing) :
    fs.Lists d listing' where
  distinct := (hperm.map _).nodup_iff.mpr h.distinct
  entries name e := hperm.mem_iff.trans (h.entries name e)

/-- A directory shows the entries that are known of it, and may show others whose names are no text. -/
theorem WellFormed.lists (wf : fs.WellFormed) (d : Location) {others : List (List UInt8 × Entry)}
    (hdistinct : (others.map (·.1)).Nodup) (hothers : ∀ entry ∈ others, Text.decodeUtf8? entry.1 = none) :
    fs.Lists d ((fs.children d).map (fun child => (Text.utf8 child.1, child.2)) ++ others) where
  distinct := by
    rw [List.map_append, List.map_map, List.nodup_append]
    refine ⟨(List.pairwise_map.mp (wf.nodup_children d)).map _ fun _ _ hne heq => hne (Text.utf8_injective heq), hdistinct,
      fun bytes hbytes bytes' hbytes' heq => ?_⟩
    obtain ⟨child, -, rfl⟩ := List.mem_map.mp hbytes
    obtain ⟨entry, hentry, rfl⟩ := List.mem_map.mp hbytes'
    have hnot := hothers entry hentry
    rw [← heq, Function.comp_apply, Text.decodeUtf8?_utf8] at hnot
    nomatch hnot
  entries name e := by
    rw [← wf.mem_children_iff, List.mem_append, List.mem_map]
    constructor
    · rintro (⟨⟨name', e'⟩, hmem, heq⟩ | hmem)
      · obtain ⟨hname, rfl⟩ := Prod.mk.inj heq
        rwa [← Text.utf8_injective hname]
      · have hnot := hothers _ hmem
        rw [Text.decodeUtf8?_utf8] at hnot
        nomatch hnot
    · exact fun hmem => Or.inl ⟨(name, e), hmem, rfl⟩

/-- The source files of a directory do not depend on the order in which it is read. -/
theorem Lists.listedSources_eq {listing : List (List UInt8 × Entry)} (h : fs.Lists d listing) (wf : fs.WellFormed) :
    listedSources listing = sourceNames (fs.children d) := by
  refine (isByteOrdered_listedSources h.distinct).eq_of_mem_iff (isByteOrdered_sourceNames (wf.nodup_children d)) fun name => ?_
  rw [mem_listedSources_iff, mem_sourceNames_iff]
  simp only [h.entries, wf.mem_children_iff]

end FileSystem

end Switchboard
