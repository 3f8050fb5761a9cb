import Switchboard.Proofs.Staging

/-! # Making a dispatch file again

A dispatch file that was made may stand in the directory of its module, and it may have taken the place of a link that paths
went through. Making it again does the same as long as neither happens behind the back of the paths: they lead where they
led, and if the file is a source file by its name, the path of the module's directory and the name say the same as the path
of the dispatch file. -/

namespace Switchboard

open PathText FileSystem

/-- Some name for a staged file is free wherever it may be needed. -/
def Tools.CanStage (tools : Tools) (fs : FileSystem) : Prop :=
  (∀ m ∈ tools.marks, IsMark m) ∧ ∃ m ∈ tools.marks, ∀ d, fs.at? (d ++ [stagedName m]) = none

namespace FileSystem

/-- A file that is put at a location leaves the way to a module as it is, and it is no source file of the module unless its
path there is that of a file that is left out. -/
structure LeavesModule (fs : FileSystem) (input excluded : PathText) (l : Location) : Prop where
  module : ∀ bytes, (fs.set l (.file bytes)).locateDirectory input = fs.locateDirectory input
  source : ∀ d name, fs.locateDirectory input = .ok d → l = d ++ [name] → isSourceName name = true →
    same (join input name) excluded = true

/-- A dispatch file that is put at a location leaves its module as it is, and the way to itself. -/
structure IsApart (fs : FileSystem) (input output : PathText) (l : Location) : Prop
    extends fs.LeavesModule input output l where
  destination : ∀ bytes, (fs.set l (.file bytes)).locateTarget output = fs.locateTarget output

variable {fs fs' after : FileSystem} {d l : Location} {j : GenerationJob} {tools tools' : Tools} {r : GeneratedFile}

theorem generate_ok_iff (hdry : j.dryRun = false) : fs.generate tools j = (.ok r, after) ↔
    ∃ s c, fs.survey j = .ok s ∧ fs.examine j s = .ok c ∧ fs.writeOutput tools j s.output c.render = (.ok r.source, after) ∧
      r = ⟨s.output, c.descriptors.length, true, r.source⟩ := by
  unfold generate
  rw [hdry]
  cases hsurvey : fs.survey j with
  | error e => simp
  | ok s =>
    cases hexamine : fs.examine j s with
    | error e => simp [hexamine]
    | ok c =>
      rcases hwrite : fs.writeOutput tools j s.output c.render with ⟨written, made⟩
      constructor
      · intro h
        simp only [hexamine, Bool.false_eq_true, if_false, hwrite] at h
        cases written with
        | error e => nomatch h
        | ok source =>
          cases h
          exact ⟨s, c, rfl, hexamine, hwrite, rfl⟩
      · rintro ⟨s', c', hs, hc, hwrite', hr⟩
        cases hs
        obtain rfl : c = c' := Except.ok.inj (hexamine.symm.trans hc)
        rw [hwrite] at hwrite'
        cases hwrite'
        simp only [hexamine, Bool.false_eq_true, if_false, hwrite]
        rw [← hr]

theorem WellFormed.set_target (wf : fs.WellFormed) {p : PathText} (h : fs.locateTarget p = .ok l) (e : Entry) :
    (fs.set l e).WellFormed := by
  obtain ⟨d, name, rfl, hname⟩ := IsEntryName.of_locateTarget h
  exact wf.set hname d e

/-- Where a path puts a file does not change as long as the ways that are there now are kept. -/
theorem KeepsWays.locateTarget_unique (keeps : fs.KeepsWays fs') {p : PathText} {l l' : Location}
    (h : fs.locateTarget p = .ok l) (h' : fs'.locateTarget p = .ok l') : l' = l := by
  obtain ⟨before, name, d, -, hlast, hparts, -, rfl, -⟩ := locateTarget_ok_iff.mp h
  obtain ⟨before', name', d', -, hlast', hparts', -, rfl, -⟩ := locateTarget_ok_iff.mp h'
  rw [hlast] at hlast'
  cases hlast'
  have hd : d' = d := Except.ok.inj (hparts'.symm.trans (keeps.locateParts_eq hparts))
  rw [hd]

/-! ### A file that is put where a path leads -/

section

variable {bytes : List UInt8} {output : PathText} (wf : fs.WellFormed) (htarget : fs.locateTarget output = .ok l)
include htarget

theorem at?_set_target : (fs.set l (.file bytes)).at? l = some (.file bytes) := by
  rw [at?_set fs (ne_nil_of_locateTarget htarget), if_pos rfl]

theorem keepsWays_of_set_target : (fs.set l (.file bytes)).KeepsWays fs :=
  (agreesBut_set (ne_nil_of_locateTarget htarget) _).symm.keepsWays (not_leadsOn_of_file (at?_set_target htarget))

/-- What file is put there makes no difference to ways. -/
theorem keepsWays_set_set (bytes' : List UInt8) : (fs.set l (.file bytes)).KeepsWays (fs.set l (.file bytes')) := by
  rw [← set_set fs l (.file bytes) (.file bytes')]
  exact (agreesBut_set (ne_nil_of_locateTarget htarget) _).keepsWays (not_leadsOn_of_file (at?_set_target htarget))

include wf

theorem LeavesModule.survey_eq {excluded : PathText} (h : fs.LeavesModule j.input excluded l)
    (hd : fs.locateDirectory j.input = .ok d) (hexcluded : fs.outputOf j = .ok excluded) :
    (∃ s, fs.survey j = .ok s ∧ (fs.set l (.file bytes)).survey j = .ok s ∧
      (fs.set l (.file bytes)).examine j s = fs.examine j s) ∧ ¬(fs.set l (.file bytes)).Takes j l := by
  have wf' : (fs.set l (.file bytes)).WellFormed := wf.set_target htarget _
  have hd' : (fs.set l (.file bytes)).locateDirectory j.input = .ok d := by rw [h.module, hd]
  obtain ⟨s, -, hs⟩ := survey_congr wf wf' (agreesBut_set (ne_nil_of_locateTarget htarget) _) hd hd' hexcluded
    fun name hplace hsource => h.source d name hd hplace hsource
  refine ⟨⟨s, hs⟩, fun htakes => ?_⟩
  obtain ⟨d', name, excluded', hd'', hexcluded', hplace, hsource, -, hother⟩ := wf'.takes_iff.mp htakes
  obtain rfl : d = d' := Except.ok.inj (hd'.symm.trans hd'')
  rw [outputOf_congr hd hd', hexcluded] at hexcluded'
  obtain rfl := Except.ok.inj hexcluded'
  rw [h.source d name hd hplace hsource] at hother
  nomatch hother

theorem leavesModule_of_not_takes {excluded : PathText} (hd' : (fs.set l (.file bytes)).locateDirectory j.input = .ok d)
    (hexcluded : (fs.set l (.file bytes)).outputOf j = .ok excluded) (htakes : ¬(fs.set l (.file bytes)).Takes j l) :
    fs.LeavesModule j.input excluded l where
  module bytes' := by
    rw [(keepsWays_set_set htarget bytes').locateDirectory_eq hd', (keepsWays_of_set_target htarget).locateDirectory_eq hd']
  source d' name hd hplace hsource := by
    by_contra hother
    have hsame : fs.locateDirectory j.input = .ok d := (keepsWays_of_set_target htarget).locateDirectory_eq hd'
    obtain rfl : d = d' := Except.ok.inj (hsame.symm.trans hd)
    exact htakes ((wf.set_target htarget _).takes_iff.mpr ⟨d, name, excluded, hd', hexcluded, hplace, hsource,
      ⟨bytes, at?_set_target htarget⟩, by simpa using hother⟩)

end

/-- Where no link stands, a file is in the way of nothing, and only its name and the spelling of its path matter. -/
theorem leavesModule_iff_of_not_leadsOn {input excluded : PathText} (hl : ¬fs.LeadsOn l) (hne : l ≠ [])
    (hd : fs.locateDirectory input = .ok d) : fs.LeavesModule input excluded l ↔
      ∀ name, l = d ++ [name] → isSourceName name = true → same (join input name) excluded = true := by
  constructor
  · intro leaves name
    exact leaves.source d name hd
  · intro hsource
    refine ⟨fun bytes => ?_, fun d' name hd' => ?_⟩
    · rw [((agreesBut_set hne _).keepsWays hl).locateDirectory_eq hd, hd]
    · obtain rfl : d' = d := Except.ok.inj (hd'.symm.trans hd)
      exact hsource name

theorem isApart_iff_of_not_leadsOn {input output : PathText} (hl : ¬fs.LeadsOn l) (hd : fs.locateDirectory input = .ok d)
    (htarget : fs.locateTarget output = .ok l) : fs.IsApart input output l ↔
      ∀ name, l = d ++ [name] → isSourceName name = true → same (join input name) output = true := by
  have hne : l ≠ [] := ne_nil_of_locateTarget htarget
  rw [← leavesModule_iff_of_not_leadsOn hl hne hd]
  constructor
  · exact IsApart.toLeavesModule
  · intro leaves
    refine ⟨leaves, fun bytes => ?_⟩
    rw [locateTarget_eq_of_agreesBut (agreesBut_set hne _) hl (not_leadsOn_of_file (at?_set_target htarget)) htarget, htarget]

/-! ### Making a dispatch file again -/

theorem exists_stage_again {p : PathText} {text : String} {s : StagedFile} (hmarks : ∀ m ∈ tools.marks, IsMark m)
    (hstaged : fs.stage tools.marks p text = .ok (s, fs')) (htarget : after.locateTarget p = .ok l)
    (hstage : tools'.CanStage after) : ∃ s' made, after.stage tools'.marks p text = .ok (s', made) := by
  obtain ⟨m, hm, hfault, -⟩ := stageIn_location hmarks hstaged
  obtain ⟨hmarks', m', hm', hfree⟩ := hstage
  obtain ⟨before, name, d, -, hlast, hparts, -, -, -⟩ := locateTarget_ok_iff.mp htarget
  rw [pathFault?_stagedName (hmarks m hm) (hmarks' m' hm')] at hfault
  exact exists_stage hmarks' hlast hparts hm' hfault (hfree d) text

theorem free_of_names {name : String} (h : ∀ entry ∈ fs.entries, entry.1.getLast? ≠ some name) (d : Location) :
    fs.at? (d ++ [name]) = none := by
  rw [at?, if_neg (by simp), List.lookup_eq_none_iff]
  intro entry hentry
  have hne : d ++ [name] ≠ entry.1 := by
    intro heq
    exact h entry hentry (by rw [← heq, List.getLast?_concat])
  simpa using hne

/-- Making a dispatch file again does the same again, and does not take the file from before for a source, if and only if the
place of the file is apart from the module. -/
theorem generate_again_iff (wf : fs.WellFormed) (hmarks : ∀ m ∈ tools.marks, IsMark m) (hdry : j.dryRun = false)
    (hrun : fs.generate tools j = (.ok r, after)) (hformatter : tools'.formatter = tools.formatter)
    (hstage : tools'.CanStage after) : ∃ l, fs.locateTarget r.output = .ok l ∧
      (after.generate tools' j = (.ok r, after) ∧ ¬after.Takes j l ↔ fs.IsApart j.input r.output l) := by
  obtain ⟨s, c, hsurvey, hexamine, hwrite, hr⟩ := (generate_ok_iff hdry).mp hrun
  obtain ⟨⟨staged, made, hstaged⟩, hleaves, l, htarget, rfl⟩ := writeOutput_ok_iff.mp hwrite
  obtain ⟨d, hd, houtput, -⟩ := survey_ok_iff.mp hsurvey
  have hname : r.output = s.output := by rw [hr]
  rw [← hname] at houtput hstaged htarget
  refine ⟨l, htarget, fun ⟨hagain, htakes⟩ => ?_, fun apart => ?_⟩
  · obtain ⟨s', c', hsurvey', -, hwrite', hr'⟩ := (generate_ok_iff hdry).mp hagain
    obtain ⟨-, -, l', htarget', -⟩ := writeOutput_ok_iff.mp hwrite'
    obtain ⟨d', hd', houtput', -⟩ := survey_ok_iff.mp hsurvey'
    have hname' : r.output = s'.output := by rw [hr']
    rw [← hname'] at houtput' htarget'
    obtain rfl : l = l' := (keepsWays_of_set_target htarget).locateTarget_unique htarget' htarget
    refine ⟨leavesModule_of_not_takes wf htarget hd' houtput' htakes, fun bytes => ?_⟩
    have hfile : (fs.set l (.file bytes)).at? l = some (.file bytes) := at?_set_target htarget
    rw [← set_set fs l (.file (Text.utf8 r.source)) (.file bytes)] at hfile ⊢
    rw [htarget, locateTarget_eq_of_agreesBut (agreesBut_set (ne_nil_of_locateTarget htarget) _)
      (not_leadsOn_of_file (at?_set_target htarget)) (not_leadsOn_of_file hfile) htarget']
  · have htarget' : (fs.set l (.file (Text.utf8 r.source))).locateTarget r.output = .ok l := by
      rw [apart.destination, htarget]
    obtain ⟨⟨s', hsurvey', hsurveyAfter, hexamineAfter⟩, htakes⟩ := apart.toLeavesModule.survey_eq wf htarget hd houtput
    obtain rfl : s = s' := Except.ok.inj (hsurvey.symm.trans hsurvey')
    obtain ⟨staged', made', hstaged'⟩ := exists_stage_again hmarks hstaged htarget' hstage
    refine ⟨(generate_ok_iff hdry).mpr ⟨s, c, hsurveyAfter, hexamineAfter.trans hexamine, ?_, hr⟩, htakes⟩
    rw [← hname]
    refine writeOutput_ok_iff.mpr ⟨⟨staged', made', hstaged'⟩, hformatter ▸ hleaves, l, htarget', ?_⟩
    rw [set_set]

/-- A dispatch file among the source files of its module is told apart by a path that goes on from the module's path. By
another path it is not, even if both lead to the same place. -/
theorem generate_again_iff_spelled :
    let fs : FileSystem := ⟨[(["h"], .directory), (["h", "mod.rs"], .file [])], []⟩
    let tools : Tools := ⟨fun _ => none, ["AAAAAA"]⟩
    let j (output : PathText) : GenerationJob := ⟨"h", some output, .ofModule "h", false, false⟩
    let again (output : PathText) : Prop := ∃ r after, fs.generate tools (j output) = (.ok r, after) ∧
      after.generate tools (j output) = (.ok r, after) ∧ ¬after.Takes (j output) ["h", "dispatch.rs"]
    again "h/./dispatch.rs" ∧ ¬again "./h/dispatch.rs" := by
  intro fs tools j again
  have wf : fs.WellFormed := by decide
  have hmarks : ∀ m ∈ tools.marks, IsMark m := by decide
  have hd : fs.locateDirectory "h" = .ok ["h"] := by decide +kernel
  have hfree : ¬fs.LeadsOn ["h", "dispatch.rs"] := not_leadsOn_of_free (by decide)
  have hruns : ∀ output ∈ ["h/./dispatch.rs", "./h/dispatch.rs"],
      (fs.generate tools (j output)).1.toOption.map (·.output) = some output ∧
        fs.locateTarget output = .ok ["h", "dispatch.rs"] ∧
        ∀ entry ∈ (fs.generate tools (j output)).2.entries, entry.1.getLast? ≠ some (stagedName "AAAAAA") := by
    decide +kernel
  have hagain : ∀ output ∈ ["h/./dispatch.rs", "./h/dispatch.rs"],
      again output ↔ same (join "h" "dispatch.rs") output = true := by
    intro output houtput
    obtain ⟨hok, htarget, hnames⟩ := hruns output houtput
    obtain ⟨r, hr, hname⟩ := Option.map_eq_some_iff.mp hok
    rcases hrun : fs.generate tools (j output) with ⟨result, after⟩
    rw [hrun] at hr hnames
    cases result with
    | error e => nomatch hr
    | ok r' =>
      obtain rfl : r' = r := Option.some.inj hr
      have hstage : tools.CanStage after := ⟨hmarks, _, List.mem_cons_self, free_of_names hnames⟩
      obtain ⟨l, hl, hiff⟩ := generate_again_iff wf hmarks rfl hrun rfl hstage
      rw [hname] at hl hiff
      obtain rfl : ["h", "dispatch.rs"] = l := Except.ok.inj (htarget.symm.trans hl)
      rw [isApart_iff_of_not_leadsOn hfree hd hl] at hiff
      constructor
      · rintro ⟨r', after', hrun', hsame, htakes⟩
        rw [hrun] at hrun'
        cases hrun'
        exact hiff.mp ⟨hsame, htakes⟩ "dispatch.rs" rfl (by decide)
      · intro hspelled
        obtain ⟨hsame, htakes⟩ := hiff.mpr fun name hplace _ => by
          obtain rfl : "dispatch.rs" = name := by simpa using hplace
          exact hspelled
        exact ⟨r', after, hrun, hsame, htakes⟩
  rw [hagain _ List.mem_cons_self, hagain "./h/dispatch.rs" (by decide)]
  decide

end FileSystem

end Switchboard
