import Switchboard.Proofs.ListingOrder
import Switchboard.Proofs.Publication

/-! # File systems in another order

What stands at each location decides all that is done with paths (`FileSystem.ShowsSame`), except that a directory shows its
entries in some order. Source files are put in an order of their own, so a dispatch file that is made of a module, and what
is said of it, are the same however the entries of a file system come (`FileSystem.generate_reordered`). -/

namespace Switchboard

open PathText

namespace FileSystem

/-- The same stands at each location of two file systems, and paths start at the same place. -/
structure ShowsSame (fs fs' : FileSystem) : Prop where
  current : fs'.current = fs.current
  entry : ∀ l, fs'.at? l = fs.at? l

/-- Two runs have the same outcome and leave the same at each location. -/
def EndsSame {α : Type} (r r' : α × FileSystem) : Prop :=
  ∃ outcome after after', r = (outcome, after) ∧ r' = (outcome, after') ∧ after.ShowsSame after'

/-- Two runs fail in the same way, or both succeed with results that a relation holds of. -/
def FailsSame {ε α : Type} (Same : α → α → Prop) (r r' : Except ε α) : Prop :=
  (∃ e, r = .error e ∧ r' = .error e) ∨ ∃ a a', r = .ok a ∧ r' = .ok a' ∧ Same a a'

variable {fs fs' : FileSystem} {l : Location} {p : PathText} {j : GenerationJob} {tools : Tools}

theorem showsSame_of_perm (hdistinct : (fs.entries.map (·.1)).Nodup) (hperm : fs'.entries.Perm fs.entries)
    (hcurrent : fs'.current = fs.current) : fs.ShowsSame fs' where
  current := hcurrent
  entry l := by
    have hdistinct' : (fs'.entries.map (·.1)).Nodup := (hperm.map _).nodup_iff.mpr hdistinct
    have hlookup : fs'.entries.lookup l = fs.entries.lookup l := by
      refine Option.ext fun e => ?_
      rw [lookup_eq_some_iff hdistinct', lookup_eq_some_iff hdistinct, hperm.mem_iff]
    rw [at?, at?, hlookup]

theorem WellFormed.of_perm (wf : fs.WellFormed) (hperm : fs'.entries.Perm fs.entries) : fs'.WellFormed where
  distinct := (hperm.map _).nodup_iff.mpr wf.distinct
  named d name e h := wf.named d name e (hperm.mem_iff.mp h)

/-! ### What a change shows below the root -/

theorem at?_set_of_ne_nil (fs : FileSystem) {m : Location} (hm : m ≠ []) (l : Location) (e : Entry) :
    (fs.set l e).at? m = if m = l then some e else fs.at? m := by
  simp only [at?, set, if_neg hm, List.lookup_append, lookup_filter_ne]
  by_cases heq : m = l
  · simp [heq]
  · have hne : (m == l) = false := by simpa using heq
    simp [heq, List.lookup_cons, hne]

theorem at?_erase_of_ne_nil (fs : FileSystem) {m : Location} (hm : m ≠ []) (l : Location) :
    (fs.erase l).at? m = if m = l then none else fs.at? m := by
  simp only [at?, erase, if_neg hm, lookup_filter_ne]

namespace ShowsSame

/-! ### Where paths lead -/

theorem advance_eq (h : fs.ShowsSame fs') (last : Bool) (here : Location) (parts : List String) :
    fs'.advance last here parts = fs.advance last here parts := by
  induction parts generalizing here with
  | nil => rfl
  | cons s parts ih =>
    rw [advance, advance, h.entry]
    simp only [ih]

theorem follow_eq (h : fs.ShowsSame fs') (last : Bool) (n : Nat) (here : Location) (parts : List String) :
    fs'.follow last n here parts = fs.follow last n here parts := by
  induction n generalizing here parts with
  | zero => rfl
  | succ n ih =>
    rw [follow, follow, h.advance_eq]
    simp only [ih]

theorem locate_eq (h : fs.ShowsSame fs') (p : PathText) : fs'.locate p = fs.locate p := by
  simp only [locate, locateWith, h.current, h.follow_eq]

theorem locateParts_eq (h : fs.ShowsSame fs') (p : PathText) (parts : List String) :
    fs'.locateParts p parts = fs.locateParts p parts := by
  simp only [locateParts, h.current, h.follow_eq]

theorem locateNew_eq (h : fs.ShowsSame fs') (p : PathText) : fs'.locateNew p = fs.locateNew p := by
  simp only [locateNew, h.locateParts_eq]

theorem locateTarget_eq (h : fs.ShowsSame fs') (p : PathText) : fs'.locateTarget p = fs.locateTarget p := by
  simp only [locateTarget, h.locateParts_eq, h.entry]

theorem locateDirectory_eq (h : fs.ShowsSame fs') (p : PathText) : fs'.locateDirectory p = fs.locateDirectory p := by
  simp only [locateDirectory, h.locate_eq, h.entry]

theorem readText_eq (h : fs.ShowsSame fs') (p : PathText) : fs'.readText p = fs.readText p := by
  simp only [readText, read, h.locate_eq, h.entry]

theorem contents?_eq (h : fs.ShowsSame fs') (l : Location) : fs'.contents? l = fs.contents? l := by
  simp only [contents?, h.entry]

theorem outputOf_eq (h : fs.ShowsSame fs') (j : GenerationJob) : fs'.outputOf j = fs.outputOf j := by
  simp only [outputOf, defaultOutput, nameOfDirectory, h.locate_eq]

/-! ### Changes at a location -/

theorem set (h : fs.ShowsSame fs') (l : Location) (e : Entry) : (fs.set l e).ShowsSame (fs'.set l e) where
  current := h.current
  entry m := by
    by_cases hm : m = []
    · rw [hm, at?, at?, if_pos rfl, if_pos rfl]
    · rw [at?_set_of_ne_nil fs hm, at?_set_of_ne_nil fs' hm, h.entry]

theorem erase (h : fs.ShowsSame fs') (l : Location) : (fs.erase l).ShowsSame (fs'.erase l) where
  current := h.current
  entry m := by
    by_cases hm : m = []
    · rw [hm, at?, at?, if_pos rfl, if_pos rfl]
    · rw [at?_erase_of_ne_nil fs hm, at?_erase_of_ne_nil fs' hm, h.entry]

theorem leave (h : fs.ShowsSame fs') (l : Location) (left : Option (List UInt8)) :
    (fs.leave l left).ShowsSame (fs'.leave l left) := by
  cases left with
  | some bytes => exact h.set l _
  | none => exact h.erase l

/-! ### Publishing -/

theorem endsSame (h : fs.ShowsSame fs') {α : Type} (outcome : α) : EndsSame (outcome, fs) (outcome, fs') :=
  ⟨outcome, fs, fs', rfl, rfl, h⟩

theorem create (h : fs.ShowsSame fs') (p : PathText) (bytes : List UInt8) :
    FailsSame EndsSame (fs.create p bytes) (fs'.create p bytes) := by
  rw [FileSystem.create, FileSystem.create, h.locateNew_eq]
  cases fs.locateNew p with
  | error e => exact Or.inl ⟨e, rfl, rfl⟩
  | ok l =>
    simp only [h.entry]
    split
    · exact Or.inl ⟨_, rfl, rfl⟩
    · exact Or.inr ⟨_, _, rfl, rfl, (h.set l _).endsSame l⟩

theorem stageIn (h : fs.ShowsSame fs') (directory : PathText) (bytes : List UInt8) (marks : List String) :
    FailsSame EndsSame (fs.stageIn directory bytes marks) (fs'.stageIn directory bytes marks) := by
  induction marks with
  | nil => exact Or.inl ⟨_, rfl, rfl⟩
  | cons mark marks ih =>
    rw [stageIn_cons, stageIn_cons]
    rcases h.create (join directory (stagedName mark)) bytes with
      ⟨fault, hfault, hfault'⟩ | ⟨_, _, hmade, hmade', l, after, after', rfl, rfl, hafter⟩
    · rw [hfault, hfault']
      cases fault with
      | occupied => exact ih
      | _ => exact Or.inl ⟨_, rfl, rfl⟩
    · rw [hmade, hmade']
      exact Or.inr ⟨_, _, rfl, rfl, hafter.endsSame _⟩

theorem stage (h : fs.ShowsSame fs') (marks : List String) (p : PathText) (text : String) :
    FailsSame EndsSame (fs.stage marks p text) (fs'.stage marks p text) :=
  h.stageIn _ _ _

theorem formatStaged (h : fs.ShowsSame fs') (f : Formatter) (s : StagedFile) :
    EndsSame (fs.formatStaged f s) (fs'.formatStaged f s) := by
  rw [FileSystem.formatStaged, FileSystem.formatStaged, formatAt, formatAt, h.contents?_eq]
  cases f (fs.contents? s.location) with
  | none => exact h.endsSame _
  | some run =>
    obtain ⟨succeeded, left⟩ := run
    have hleft := h.leave s.location left
    cases succeeded with
    | false => exact hleft.endsSame _
    | true =>
      simp only [Option.map_some, hleft.contents?_eq]
      cases (fs.leave s.location left).contents? s.location with
      | none => exact hleft.endsSame _
      | some bytes =>
        dsimp only
        cases Text.decodeUtf8? bytes <;> exact hleft.endsSame _

theorem rename (h : fs.ShowsSame fs') (source : Location) (p : PathText) :
    FailsSame ShowsSame (fs.rename source p) (fs'.rename source p) := by
  rw [FileSystem.rename, FileSystem.rename, h.entry, h.locateTarget_eq]
  cases fs.at? source with
  | none => exact Or.inl ⟨_, rfl, rfl⟩
  | some e =>
    cases fs.locateTarget p with
    | error fault => exact Or.inl ⟨_, rfl, rfl⟩
    | ok target => exact Or.inr ⟨_, _, rfl, rfl, (h.erase source).set target e⟩

theorem settle (h : fs.ShowsSame fs') (s : StagedFile) (p : PathText) : EndsSame (fs.settle s p) (fs'.settle s p) := by
  rw [FileSystem.settle, FileSystem.settle]
  rcases h.rename s.location p with ⟨fault, hfault, hfault'⟩ | ⟨after, after', hafter, hafter', hsame⟩
  · rw [hfault, hfault']
    exact (h.erase s.location).endsSame _
  · rw [hafter, hafter']
    exact hsame.endsSame _

theorem publish (h : fs.ShowsSame fs') (marks : List String) (p : PathText) (text : String) :
    EndsSame (fs.publish marks p text) (fs'.publish marks p text) := by
  rw [FileSystem.publish, FileSystem.publish]
  rcases h.stage marks p text with ⟨e, he, he'⟩ | ⟨_, _, hstaged, hstaged', s, after, after', rfl, rfl, hafter⟩
  · rw [he, he']
    exact h.endsSame _
  · rw [hstaged, hstaged']
    exact hafter.settle s p

theorem publishFormatted (h : fs.ShowsSame fs') (tools : Tools) (p : PathText) (text : String) :
    EndsSame (fs.publishFormatted tools p text) (fs'.publishFormatted tools p text) := by
  rw [FileSystem.publishFormatted, FileSystem.publishFormatted]
  rcases h.stage tools.marks p text with ⟨e, he, he'⟩ | ⟨_, _, hstaged, hstaged', s, after, after', rfl, rfl, hafter⟩
  · rw [he, he']
    exact h.endsSame _
  · rw [hstaged, hstaged']
    obtain ⟨outcome, formatted, formatted', hformat, hformat', hsame⟩ := hafter.formatStaged tools.formatter s
    simp only [hformat, hformat']
    cases outcome with
    | error e => exact (hsame.erase s.location).endsSame _
    | ok result =>
      obtain ⟨settled, _, _, hsettle, hsettle', hsame⟩ := hsame.settle s p
      simp only [hsettle, hsettle']
      cases settled <;> exact hsame.endsSame _

theorem writeOutput (h : fs.ShowsSame fs') (tools : Tools) (j : GenerationJob) (output : PathText) (source : String) :
    EndsSame (fs.writeOutput tools j output source) (fs'.writeOutput tools j output source) := by
  rw [FileSystem.writeOutput, FileSystem.writeOutput]
  split
  · exact h.publishFormatted tools output source
  · obtain ⟨outcome, _, _, hpublish, hpublish', hsame⟩ := h.publish tools.marks output source
    rw [hpublish, hpublish']
    exact hsame.endsSame _

/-! ### Making dispatch files -/

/-- Apart from the source files that its directory shows, a dispatch file is made of what stands at locations. -/
theorem survey_eq (h : fs.ShowsSame fs') (hsources : fs'.collectSources j.input = fs.collectSources j.input) :
    fs'.survey j = fs.survey j := by
  rw [survey, survey, h.outputOf_eq, hsources]

theorem examine_eq (h : fs.ShowsSame fs') (j : GenerationJob) (s : Survey) : fs'.examine j s = fs.examine j s :=
  examine_congr fun p _ => h.readText_eq p

theorem generate (h : fs.ShowsSame fs') (hsources : fs'.collectSources j.input = fs.collectSources j.input) (tools : Tools) :
    EndsSame (fs.generate tools j) (fs'.generate tools j) := by
  rw [FileSystem.generate, FileSystem.generate, h.survey_eq hsources]
  cases fs.survey j with
  | error e => exact h.endsSame _
  | ok s =>
    simp only [h.examine_eq]
    cases fs.examine j s with
    | error e => exact h.endsSame _
    | ok c =>
      simp only
      split
      · exact h.endsSame _
      · obtain ⟨outcome, _, _, hwrite, hwrite', hsame⟩ := h.writeOutput tools j s.output c.render
        rw [hwrite, hwrite']
        cases outcome <;> exact hsame.endsSame _

end ShowsSame

/-! ### Reading directories -/

theorem collectSources_of_locateDirectory {d : Location} (hd : fs.locateDirectory p = .ok d) :
    fs.collectSources p = .ok ((sourceNames (fs.children d)).map (join p)) := by
  rw [collectSources, readDirectory, hd]
  rfl

theorem collectSources_of_locateDirectory_error {fault : FileFault} (hd : fs.locateDirectory p = .error fault) :
    fs.collectSources p = .error (.unlistedInput p fault) := by
  rw [collectSources, readDirectory, hd]
  rfl

/-- Where the same stands at each location, the source files of a directory come in the same order. -/
theorem ShowsSame.collectSources_eq (h : fs.ShowsSame fs') (wf : fs.WellFormed) (wf' : fs'.WellFormed) (p : PathText) :
    fs'.collectSources p = fs.collectSources p := by
  cases hd : fs.locateDirectory p with
  | error fault =>
    rw [collectSources_of_locateDirectory_error hd, collectSources_of_locateDirectory_error ((h.locateDirectory_eq p).trans hd)]
  | ok d =>
    have hnames : sourceNames (fs'.children d) = sourceNames (fs.children d) := by
      refine (isByteOrdered_sourceNames (wf'.nodup_children d)).eq_of_mem_iff
        (isByteOrdered_sourceNames (wf.nodup_children d)) fun name => ?_
      rw [mem_sourceNames_iff, mem_sourceNames_iff]
      simp only [wf.mem_children_iff, wf'.mem_children_iff, h.entry]
    rw [collectSources_of_locateDirectory hd, collectSources_of_locateDirectory ((h.locateDirectory_eq p).trans hd), hnames]

theorem nodup_map_join (wf : fs.WellFormed) (p : PathText) (d : Location) :
    ((sourceNames (fs.children d)).map (join p)).Nodup := by
  refine (nodup_sourceNames (wf.nodup_children d)).map_on fun a ha b hb hjoin => ?_
  have single {name : String} (hname : name ∈ sourceNames (fs.children d)) : '/' ∉ name.toList := by
    obtain ⟨-, bytes, hchild⟩ := mem_sourceNames_iff.mp hname
    exact (wf.isEntryName (wf.mem_children_iff.mp hchild)).single
  exact join_injective (single ha) (single hb) hjoin

/-- Of a directory the files directly in it are taken whose names are texts that end in `.rs` and not in `.gen.rs`, each once
and in strictly increasing order of the bytes of their names, in whatever order the directory is read. And with the entries
of the file system in any other order, looking into a module and making its dispatch file come to the same. -/
theorem generate_reordered (wf : fs.WellFormed) (horder : fs'.entries.Perm fs.entries) (hcurrent : fs'.current = fs.current)
    (tools : Tools) (j : GenerationJob) :
    (∀ p d, fs.locateDirectory p = .ok d → ∃ names : List String,
      (∀ name, name ∈ names ↔ ((∃ before, name = before ++ ".rs") ∧ ¬∃ before, name = before ++ ".gen.rs") ∧
        ∃ bytes, fs.at? (d ++ [name]) = some (.file bytes)) ∧
      IsByteOrdered names ∧ (names.map (join p)).Nodup ∧
      (∀ listing, fs.Lists d listing → listedSources listing = names) ∧
      fs.collectSources p = .ok (names.map (join p))) ∧
    (∀ p, fs'.collectSources p = fs.collectSources p) ∧
    fs'.inspect j = fs.inspect j ∧
    EndsSame (fs.generate tools j) (fs'.generate tools j) := by
  -- The order of the entries is seen where a directory is read, and nowhere else.
  have hsame := showsSame_of_perm wf.distinct horder hcurrent
  have hsources := hsame.collectSources_eq wf (wf.of_perm horder)
  refine ⟨fun p d hd => ?_, hsources, ?_, hsame.generate (hsources j.input) tools⟩
  · refine ⟨sourceNames (fs.children d), fun name => ?_, isByteOrdered_sourceNames (wf.nodup_children d), nodup_map_join wf p d,
      fun listing hlists => hlists.listedSources_eq wf, collectSources_of_locateDirectory hd⟩
    rw [mem_sourceNames_iff, isSourceName_iff]
    simp only [wf.mem_children_iff]
  · rw [inspect, inspect, hsame.survey_eq (hsources j.input)]
    cases fs.survey j with
    | error e => rfl
    | ok s => exact hsame.examine_eq j s

/-- A module's directory is read backwards, with a file among the others whose name is no text: the same files are taken, `z`
before `é`, and the same dispatch file is made. -/
theorem generate_reordered_backwards :
    let entries : List (Location × Entry) :=
      [(["h"], .directory), (["h", "z.rs"], .file (Text.utf8 "pub fn z(x: &str) {}")), (["h", "é.rs"], .file []),
        (["h", "h.gen.rs"], .file []), (["h", "notes.txt"], .file []), (["h", "a.rs"], .directory)]
    let fs : FileSystem := ⟨entries, []⟩
    let fs' : FileSystem := ⟨entries.reverse, []⟩
    let j : GenerationJob := ⟨"h", none, .ofModule "h", false, false⟩
    let shown := (fs.children ["h"]).map (fun child => (Text.utf8 child.1, child.2)) ++ [([0xFF, 0x2E, 0x72, 0x73], .file [])]
    listedSources shown.reverse = ["z.rs", "é.rs"] ∧ fs'.collectSources "h" = .ok ["h/z.rs", "h/é.rs"] ∧
      ∀ tools, EndsSame (fs.generate tools j) (fs'.generate tools j) := by
  intro entries fs fs' j shown
  have wf : fs.WellFormed := by decide
  have hd : fs.locateDirectory "h" = .ok ["h"] := by decide +kernel
  have hshown : fs.Lists ["h"] shown.reverse := by
    refine (wf.lists ["h"] (by simp) fun entry hentry => ?_).perm (List.reverse_perm _)
    rw [List.mem_singleton.mp hentry, Text.decodeUtf8?, Text.decodeUtf8, Text.decodeUtf8With]
    rfl
  have hreordered (tools : Tools) := @generate_reordered fs fs' wf (List.reverse_perm _) rfl tools j
  obtain ⟨hlisted, hcollected, -⟩ := hreordered ⟨fun _ => none, []⟩
  obtain ⟨names, -, -, -, hnames, hsources⟩ := hlisted "h" ["h"] hd
  have hz : names = ["z.rs", "é.rs"] := by
    rw [← hnames _ hshown, hshown.listedSources_eq wf]
    exact List.mergeSort_of_pairwise (by decide)
  refine ⟨by rw [hnames _ hshown, hz], ?_, fun tools => (hreordered tools).2.2.2⟩
  rw [hcollected, hsources, hz]
  decide

end FileSystem

end Switchboard
