import Mathlib.Data.List.Sort
import Mathlib.Data.String.Basic
import Switchboard.Project.Generation
import Switchboard.Proofs.FilePath

/-! # What a survey of a module takes

A directory shows each of its entries once, so which files a survey takes as sources can be said entry by entry: those of
the module's directory whose names are names of source files, but for the one whose path is that of the dispatch file. And
what a survey finds, and what is read then, depends on these entries only. -/

namespace Switchboard

open PathText

namespace FileSystem

variable {fs fs' : FileSystem} {d l : Location} {name : String}

/-! ### Directories -/

/-- Each location has one entry, and every entry has a name. -/
structure WellFormed (fs : FileSystem) : Prop where
  distinct : (fs.entries.map (·.1)).Nodup
  named : ∀ d name e, (d ++ [name], e) ∈ fs.entries → IsEntryName name

theorem wellFormed_iff : fs.WellFormed ↔
    (fs.entries.map (·.1)).Nodup ∧ ∀ entry ∈ fs.entries, ∀ name ∈ entry.1.getLast?, IsEntryName name := by
  constructor
  · intro wf
    refine ⟨wf.distinct, fun ⟨m, e⟩ hentry name hname => ?_⟩
    obtain ⟨d, rfl⟩ := List.getLast?_eq_some_iff.mp hname
    exact wf.named d name e hentry
  · rintro ⟨hdistinct, hnames⟩
    exact ⟨hdistinct, fun d name e hentry => hnames _ hentry name List.getLast?_concat⟩

instance (fs : FileSystem) : Decidable fs.WellFormed :=
  decidable_of_iff _ wellFormed_iff.symm

theorem lookup_eq_some_iff {entries : List (Location × Entry)} (h : (entries.map (·.1)).Nodup) {l : Location} {e : Entry} :
    entries.lookup l = some e ↔ (l, e) ∈ entries := by
  induction entries with
  | nil => simp
  | cons entry entries ih =>
    obtain ⟨k, e'⟩ := entry
    obtain ⟨hk, hrest⟩ := List.nodup_cons.mp h
    rw [List.lookup_cons]
    by_cases hl : l = k
    · subst hl
      have hnot : (l, e) ∉ entries := fun hmem => hk (List.mem_map.mpr ⟨_, hmem, rfl⟩)
      simp [hnot, eq_comm]
    · have hne : (l == k) = false := by simpa using hl
      simp [hne, ih hrest, hl]

theorem eq_of_child {m : Location} {e : Entry} {child : String × Entry} (h : (match m.getLast? with
    | some name => if m.dropLast = d then some (name, e) else none
    | none => none) = some child) : m = d ++ [child.1] ∧ e = child.2 := by
  split at h
  · rename_i name hlast
    obtain ⟨before, rfl⟩ := List.getLast?_eq_some_iff.mp hlast
    rw [List.dropLast_concat] at h
    split at h
    · rename_i hbefore
      cases h
      exact ⟨by rw [hbefore], rfl⟩
    · nomatch h
  · nomatch h

theorem mem_children_iff_mem_entries {e : Entry} : (name, e) ∈ fs.children d ↔ (d ++ [name], e) ∈ fs.entries := by
  rw [children, List.mem_filterMap]
  constructor
  · rintro ⟨⟨m, e'⟩, hmem, hchild⟩
    obtain ⟨rfl, rfl⟩ := eq_of_child hchild
    exact hmem
  · intro hmem
    exact ⟨(d ++ [name], e), hmem, by simp⟩

namespace WellFormed

theorem mem_children_iff (wf : fs.WellFormed) {e : Entry} : (name, e) ∈ fs.children d ↔ fs.at? (d ++ [name]) = some e := by
  rw [mem_children_iff_mem_entries, at?, if_neg (by simp), lookup_eq_some_iff wf.distinct]

theorem isEntryName (wf : fs.WellFormed) {e : Entry} (h : fs.at? (d ++ [name]) = some e) : IsEntryName name :=
  wf.named d name e (mem_children_iff_mem_entries.mp (wf.mem_children_iff.mpr h))

theorem nodup_children (wf : fs.WellFormed) (d : Location) : ((fs.children d).map (·.1)).Nodup := by
  rw [List.Nodup, List.pairwise_map, children, List.pairwise_filterMap]
  refine (List.pairwise_map.mp wf.distinct).imp fun hne child hchild child' hchild' heq => hne ?_
  rw [(eq_of_child hchild).1, (eq_of_child hchild').1, heq]

theorem erase (wf : fs.WellFormed) (l : Location) : (fs.erase l).WellFormed where
  distinct := (List.filter_sublist.map _).nodup wf.distinct
  named d name e h := wf.named d name e (List.mem_filter.mp h).1

theorem set (wf : fs.WellFormed) (hname : IsEntryName name) (d : Location) (e : Entry) :
    (fs.set (d ++ [name]) e).WellFormed where
  distinct := by
    have hfree : d ++ [name] ∉ (fs.entries.filter fun entry => decide (entry.1 ≠ d ++ [name])).map (·.1) := by
      intro h
      obtain ⟨entry, hentry, heq⟩ := List.mem_map.mp h
      exact of_decide_eq_true (List.mem_filter.mp hentry).2 heq
    rw [FileSystem.set, List.map_append, List.nodup_append]
    refine ⟨(wf.erase (d ++ [name])).distinct, by simp, fun l hl l' hl' heq => ?_⟩
    have hl' : l' = d ++ [name] := List.mem_singleton.mp hl'
    rw [heq, hl'] at hl
    exact hfree hl
  named d' name' e' h := by
    rcases List.mem_append.mp h with h | h
    · exact wf.named d' name' e' (List.mem_filter.mp h).1
    · have heq : d' ++ [name'] = d ++ [name] := (Prod.mk.inj (List.mem_singleton.mp h)).1
      obtain rfl : name' = name := List.singleton_inj.mp (List.append_inj' heq rfl).2
      exact hname

end WellFormed

end FileSystem

/-! ### Names of source files -/

theorem mem_sourceNames_iff {children : List (String × Entry)} {name : String} :
    name ∈ sourceNames children ↔ isSourceName name = true ∧ ∃ bytes, (name, .file bytes) ∈ children := by
  rw [sourceNames, List.mem_mergeSort, List.mem_filterMap]
  constructor
  · rintro ⟨⟨n, e⟩, hmem, hname⟩
    cases e with
    | file bytes =>
      simp only at hname
      split at hname
      · rename_i hsource
        cases hname
        exact ⟨hsource, bytes, hmem⟩
      · nomatch hname
    | directory => nomatch hname
    | link target => nomatch hname
  · rintro ⟨hsource, bytes, hmem⟩
    exact ⟨(name, .file bytes), hmem, by simp [hsource]⟩

theorem pairwise_sourceNames (children : List (String × Entry)) : (sourceNames children).Pairwise (· ≤ ·) :=
  List.pairwise_mergeSort' _ _

theorem nodup_sourceNames {children : List (String × Entry)} (h : (children.map (·.1)).Nodup) :
    (sourceNames children).Nodup := by
  rw [sourceNames, (List.mergeSort_perm _ _).nodup_iff, List.Nodup, List.pairwise_filterMap]
  refine (List.pairwise_map.mp h).imp ?_
  rintro ⟨name, e⟩ ⟨name', e'⟩ hne found hfound found' hfound' heq
  apply hne
  cases e with
  | file bytes =>
    cases e' with
    | file bytes' =>
      obtain ⟨-, rfl⟩ : isSourceName name = true ∧ name = found := by simpa using hfound
      obtain ⟨-, rfl⟩ : isSourceName name' = true ∧ name' = found' := by simpa using hfound'
      exact heq
    | directory => nomatch hfound'
    | link target => nomatch hfound'
  | directory => nomatch hfound
  | link target => nomatch hfound

/-- Names of source files are listed in an order of their own, so the same names make the same list. -/
theorem filter_sourceNames_congr {cs cs' : List (String × Entry)} (h : (cs.map (·.1)).Nodup) (h' : (cs'.map (·.1)).Nodup)
    {kept : String → Bool} (hkept : ∀ name, kept name = true → (name ∈ sourceNames cs' ↔ name ∈ sourceNames cs)) :
    (sourceNames cs').filter kept = (sourceNames cs).filter kept := by
  have perm : ((sourceNames cs').filter kept).Perm ((sourceNames cs).filter kept) := by
    rw [List.perm_ext_iff_of_nodup ((nodup_sourceNames h').filter _) ((nodup_sourceNames h).filter _)]
    intro name
    rw [List.mem_filter, List.mem_filter]
    exact ⟨fun ⟨hmem, hk⟩ => ⟨(hkept name hk).mp hmem, hk⟩, fun ⟨hmem, hk⟩ => ⟨(hkept name hk).mpr hmem, hk⟩⟩
  exact perm.eq_of_pairwise (fun a b _ _ hab hba => String.le_antisymm hab hba)
    ((pairwise_sourceNames cs').filter _) ((pairwise_sourceNames cs).filter _)

theorem join_injective {p : PathText} {a b : String} (ha : '/' ∉ a.toList) (hb : '/' ∉ b.toList) (h : join p a = join p b) :
    a = b := by
  obtain ⟨parts, hparts, -⟩ := segments_join p ha
  obtain ⟨parts', hparts', -⟩ := segments_join p hb
  have heq : parts ++ [a] = parts' ++ [b] := by rw [← hparts, ← hparts', h]
  exact List.singleton_inj.mp (List.append_inj' heq rfl).2

namespace FileSystem

variable {fs fs' : FileSystem} {d l : Location} {name : String} {j : GenerationJob}

/-! ### Surveys -/

theorem survey_ok_iff {s : Survey} : fs.survey j = .ok s ↔ ∃ d, fs.locateDirectory j.input = .ok d ∧
    fs.outputOf j = .ok s.output ∧
    s.sources = ((sourceNames (fs.children d)).filter fun name => !same (join j.input name) s.output).map (join j.input) := by
  unfold survey collectSources readDirectory
  constructor
  · intro h
    cases houtput : fs.outputOf j with
    | error e =>
      rw [houtput] at h
      nomatch h
    | ok output =>
      rw [houtput] at h
      cases hd : fs.locateDirectory j.input with
      | error e =>
        rw [hd] at h
        nomatch h
      | ok d =>
        rw [hd] at h
        cases h
        exact ⟨d, rfl, rfl, List.filter_map⟩
  · rintro ⟨d, hd, houtput, hsources⟩
    obtain ⟨output, sources⟩ := s
    simp only at houtput hsources
    rw [houtput, hd, hsources]
    exact congrArg (fun sources => Except.ok (Survey.mk output sources)) List.filter_map

theorem survey_of_outputOf {output : PathText} (hd : fs.locateDirectory j.input = .ok d) (houtput : fs.outputOf j = .ok output) :
    fs.survey j = .ok ⟨output, ((sourceNames (fs.children d)).filter fun name => !same (join j.input name) output).map
      (join j.input)⟩ :=
  survey_ok_iff.mpr ⟨d, hd, houtput, rfl⟩

/-- The survey of a module takes what stands at a location as a source: that is an entry of the module's directory, and its
path is listed. -/
def Takes (fs : FileSystem) (j : GenerationJob) (l : Location) : Prop :=
  ∃ d name s, fs.locateDirectory j.input = .ok d ∧ l = d ++ [name] ∧ (fs.at? l).isSome ∧ fs.survey j = .ok s ∧
    join j.input name ∈ s.sources

/-- A survey takes the source files of the module's directory, but for the one whose path is that of the dispatch file. -/
theorem WellFormed.takes_iff (wf : fs.WellFormed) : fs.Takes j l ↔ ∃ d name output,
    fs.locateDirectory j.input = .ok d ∧ fs.outputOf j = .ok output ∧ l = d ++ [name] ∧ isSourceName name = true ∧
    (∃ bytes, fs.at? l = some (.file bytes)) ∧ same (join j.input name) output = false := by
  constructor
  · rintro ⟨d, name, s, hd, rfl, hsome, hsurvey, hmem⟩
    obtain ⟨d', hd', houtput, hsources⟩ := survey_ok_iff.mp hsurvey
    obtain rfl : d' = d := Except.ok.inj (hd'.symm.trans hd)
    obtain ⟨e, he⟩ := Option.isSome_iff_exists.mp hsome
    rw [hsources] at hmem
    obtain ⟨name', hname', hjoin⟩ := List.mem_map.mp hmem
    obtain ⟨hlisted, hother⟩ := List.mem_filter.mp hname'
    obtain ⟨hsource, bytes, hchild⟩ := mem_sourceNames_iff.mp hlisted
    have hfile := wf.mem_children_iff.mp hchild
    obtain rfl : name' = name := join_injective (wf.isEntryName hfile).single (wf.isEntryName he).single hjoin
    exact ⟨d', name', s.output, hd, houtput, rfl, hsource, ⟨bytes, hfile⟩, by simpa using hother⟩
  · rintro ⟨d, name, output, hd, houtput, rfl, hsource, ⟨bytes, hfile⟩, hother⟩
    have hlisted : name ∈ sourceNames (fs.children d) :=
      mem_sourceNames_iff.mpr ⟨hsource, bytes, wf.mem_children_iff.mpr hfile⟩
    refine ⟨d, name, _, hd, rfl, by simp [hfile], survey_of_outputOf hd houtput, ?_⟩
    exact List.mem_map_of_mem (List.mem_filter.mpr ⟨hlisted, by simp [hother]⟩)

/-! ### The same survey in a file system that changes at one location -/

theorem locate_of_locateDirectory {p : PathText} (h : fs.locateDirectory p = .ok d) : fs.locate p = .ok d := by
  unfold locateDirectory at h
  split at h
  · nomatch h
  · rename_i l hl
    split at h
    · cases h
      exact hl
    · nomatch h

theorem nameOfDirectory_congr {p : PathText} (h : fs.locateDirectory p = .ok d) (h' : fs'.locateDirectory p = .ok d) :
    fs'.nameOfDirectory p = fs.nameOfDirectory p := by
  rw [nameOfDirectory, nameOfDirectory, locate_of_locateDirectory h, locate_of_locateDirectory h']

theorem outputOf_congr (h : fs.locateDirectory j.input = .ok d) (h' : fs'.locateDirectory j.input = .ok d) :
    fs'.outputOf j = fs.outputOf j := by
  rw [outputOf, outputOf]
  cases j.output with
  | some p => rfl
  | none => simp only [defaultOutput, nameOfDirectory_congr h h']

theorem readText_join_congr {p : PathText} {bytes : List UInt8} (hname : IsEntryName name)
    (h : fs.locateDirectory p = .ok d) (h' : fs'.locateDirectory p = .ok d)
    (hfile : fs.at? (d ++ [name]) = some (.file bytes)) (hfile' : fs'.at? (d ++ [name]) = some (.file bytes)) :
    fs'.readText (join p name) = fs.readText (join p name) := by
  rw [readText, readText, read, read, locate_join hname h hfile, locate_join hname h' hfile']
  cases pathFault? (join p name) with
  | some e => rfl
  | none => simp only [hfile, hfile']

theorem readSources_congr {ps : List PathText} (h : ∀ p ∈ ps, fs'.readText p = fs.readText p) :
    fs'.readSources ps = fs.readSources ps := by
  induction ps with
  | nil => rfl
  | cons p ps ih =>
    rw [readSources, readSources, h p List.mem_cons_self, ih fun q hq => h q (List.mem_cons_of_mem _ hq)]

theorem examine_congr {s : Survey} (h : ∀ p ∈ s.sources, fs'.readText p = fs.readText p) :
    fs'.examine j s = fs.examine j s := by
  rw [examine, examine, readSources_congr h]

/-- A survey does not see a change at a location that is no source file of the module before or after, and what is read then
is the same. -/
theorem survey_congr (wf : fs.WellFormed) (wf' : fs'.WellFormed) (agree : fs.AgreesBut fs' l)
    (hd : fs.locateDirectory j.input = .ok d) (hd' : fs'.locateDirectory j.input = .ok d) {output : PathText}
    (houtput : fs.outputOf j = .ok output)
    (hsource : ∀ name, l = d ++ [name] → isSourceName name = true → same (join j.input name) output = true) :
    ∃ s, s.output = output ∧ fs.survey j = .ok s ∧ fs'.survey j = .ok s ∧ fs'.examine j s = fs.examine j s := by
  let kept : String → Bool := fun name => !same (join j.input name) output
  have others : ∀ name, isSourceName name = true → kept name = true → fs'.at? (d ++ [name]) = fs.at? (d ++ [name]) := by
    intro name hname hkept
    refine agree.others _ fun heq => ?_
    have hsame := hsource name heq.symm hname
    simp [kept, hsame] at hkept
  have hnames : (sourceNames (fs'.children d)).filter kept = (sourceNames (fs.children d)).filter kept := by
    refine filter_sourceNames_congr (wf.nodup_children d) (wf'.nodup_children d) fun name hkept => ?_
    rw [mem_sourceNames_iff, mem_sourceNames_iff]
    refine and_congr_right fun hname => exists_congr fun bytes => ?_
    rw [wf'.mem_children_iff, wf.mem_children_iff, others name hname hkept]
  have hsurvey' := survey_of_outputOf hd' ((outputOf_congr hd hd').trans houtput)
  rw [hnames] at hsurvey'
  refine ⟨_, rfl, survey_of_outputOf hd houtput, hsurvey', examine_congr fun p hp => ?_⟩
  obtain ⟨name, hname, rfl⟩ := List.mem_map.mp hp
  obtain ⟨hlisted, hkept⟩ := List.mem_filter.mp hname
  obtain ⟨hsourceName, bytes, hchild⟩ := mem_sourceNames_iff.mp hlisted
  have hfile := wf.mem_children_iff.mp hchild
  exact readText_join_congr (wf.isEntryName hfile) hd hd' hfile ((others name hsourceName hkept).trans hfile)

end FileSystem

end Switchboard
