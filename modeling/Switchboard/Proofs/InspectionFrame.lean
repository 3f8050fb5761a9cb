import Switchboard.CommandLine.Execution
import Switchboard.Proofs.Regeneration

/-! # Inspecting a module before and after its dispatch file is made

`generate` may be told on the command line where the dispatch file goes, and `inspect` leaves out the file that the settings
name. So inspecting shows the same before and after if the new file is no source file of the module, or the one that the
settings name, by its path from the module's directory; and it is in nobody's way. -/

namespace Switchboard

open PathText FileSystem

namespace FileSystem

variable {fs fs' : FileSystem} {d l : Location} {j : GenerationJob} {tools : Tools}

/-! ### Settings -/

/-- The path where the settings of a module are looked for. -/
def settingsFile (named : Option PathText) (input : PathText) : PathText :=
  named.getD (join input settingsName)

/-- A file that is put at a location does not change what a path leads to, if anything, and is not found there. -/
def PassesBy (fs : FileSystem) (l : Location) (p : PathText) : Prop :=
  fs.locate p ≠ .ok l ∧ ∀ bytes, (fs.set l (.file bytes)).locate p = fs.locate p

theorem PassesBy.readText_eq {p : PathText} (h : fs.PassesBy l p) (hl : l ≠ []) (bytes : List UInt8) :
    (fs.set l (.file bytes)).readText p = fs.readText p := by
  rw [readText, readText, read, read, h.2 bytes]
  cases hlocate : fs.locate p with
  | error e => rfl
  | ok m =>
    have hne : m ≠ l := by
      rintro rfl
      exact h.1 hlocate
    simp only [at?_set fs hl, if_neg hne]

theorem settingsOf_congr {named : Option PathText} {input : PathText}
    (hlocate : fs'.locate (settingsFile named input) = fs.locate (settingsFile named input))
    (hread : fs'.readText (settingsFile named input) = fs.readText (settingsFile named input)) :
    fs'.settingsOf named input = fs.settingsOf named input := by
  have hsomewhere : fs'.leadsSomewhere (settingsFile named input) = fs.leadsSomewhere (settingsFile named input) := by
    rw [leadsSomewhere, leadsSomewhere, hlocate]
  have hload : fs'.loadSettings (settingsFile named input) = fs.loadSettings (settingsFile named input) := by
    rw [loadSettings, loadSettings, hsomewhere, hread]
  unfold settingsOf settingsPath
  cases named with
  | some p =>
    simp only [settingsFile, Option.getD_some] at hsomewhere hload
    simp only [hsomewhere]
    split
    · rfl
    · rfl
    · rename_i p' hp'
      split at hp'
      · cases hp'
        rw [hload]
      · nomatch hp'
  | none =>
    simp only [settingsFile, Option.getD_none] at hsomewhere hload
    simp only [hsomewhere]
    split
    · rfl
    · rfl
    · rename_i p' hp'
      split at hp'
      · cases hp'
        rw [hload]
      · nomatch hp'

theorem jobFrom_congr (hd : fs.locateDirectory j.input = .ok d) (hd' : fs'.locateDirectory j.input = .ok d) (s : Settings) :
    fs'.jobFrom j.input s = fs.jobFrom j.input s := by
  rw [jobFrom, jobFrom, nameOfDirectory_congr hd hd']

theorem jobFrom_ok {input : PathText} {s : Settings} (h : fs.jobFrom input s = .ok j) :
    j.input = input ∧ ∃ name, fs.nameOfDirectory input = .ok name := by
  unfold jobFrom at h
  cases hname : fs.nameOfDirectory input with
  | error e =>
    rw [hname] at h
    nomatch h
  | ok name =>
    rw [hname] at h
    cases h
    exact ⟨rfl, name, rfl⟩

theorem configuredJob_ok_iff {config : Option PathText} {input : PathText} :
    fs.configuredJob config input = .ok j ↔ ∃ s, fs.settingsOf config input = .ok s ∧ fs.jobFrom input s = .ok j := by
  unfold configuredJob
  cases fs.settingsOf config input with
  | error e => simp [Except.bind]
  | ok s => simp [Except.bind]

/-- A module that has a name has a dispatch file, by its settings or by its name. -/
theorem exists_outputOf {name : String} (h : fs.nameOfDirectory j.input = .ok name) : ∃ own, fs.outputOf j = .ok own := by
  rw [outputOf]
  cases j.output with
  | some p => exact ⟨p, rfl⟩
  | none => exact ⟨_, by rw [defaultOutput, h]; rfl⟩

end FileSystem

/-! ### What inspecting fails with -/

/-- A module was found, with its settings, and its source files were listed; their analysis failed. -/
def ProjectFault.IsOfAnalysis : ProjectFault → Prop
  | .analysis _ _ => True
  | _ => False

namespace FileSystem

variable {fs fs' : FileSystem} {d l : Location} {j : GenerationJob} {tools : Tools}

theorem not_isOfAnalysis_of_nameOfDirectory {p : PathText} {e : ProjectFault} (h : fs.nameOfDirectory p = .error e) :
    ¬e.IsOfAnalysis := by
  unfold nameOfDirectory at h
  split at h
  · cases h
    exact id
  · split at h
    · nomatch h
    · cases h
      exact id

theorem not_isOfAnalysis_of_survey {e : ProjectFault} (h : fs.survey j = .error e) : ¬e.IsOfAnalysis := by
  unfold survey at h
  split at h
  · rename_i e' houtput
    cases h
    unfold outputOf at houtput
    split at houtput
    · cases houtput
    · rw [defaultOutput] at houtput
      cases hname : fs.nameOfDirectory j.input with
      | error e =>
        rw [hname] at houtput
        cases houtput
        exact not_isOfAnalysis_of_nameOfDirectory hname
      | ok name =>
        rw [hname] at houtput
        cases houtput
  · unfold collectSources at h
    split at h
    · cases h
      exact id
    · cases h

theorem isOfAnalysis_of_examine {s : Survey} {e : ProjectFault} (h : fs.examine j s = .error e) : e.IsOfAnalysis := by
  unfold examine at h
  cases hcontext : (fs.readSources s.sources).bind (analyze j.conventions) with
  | error fault =>
    rw [hcontext] at h
    cases h
    trivial
  | ok c =>
    rw [hcontext] at h
    nomatch h

/-- What `inspect` prints, and why it fails. -/
def inspected (fs : FileSystem) (b : InspectArguments) : String × Option ProjectFault :=
  ((fs.executeInspect b).printed, (fs.executeInspect b).fault)

theorem inspected_of_survey {b : InspectArguments} {s : Survey} (hjob : fs.configuredJob b.config b.input = .ok j)
    (hsurvey : fs.survey j = .ok s) : fs.inspected b =
      match fs.examine j s with
      | .error e => ("", some e)
      | .ok c => (b.format.render c ++ "\n", none) := by
  unfold inspected executeInspect inspect
  simp only [hjob, hsurvey, Except.bind]
  cases fs.examine j s with
  | error e => rfl
  | ok c => rfl

theorem isOfAnalysis_of_inspected {b : InspectArguments} {s : Survey} {e : ProjectFault}
    (hjob : fs.configuredJob b.config b.input = .ok j) (hsurvey : fs.survey j = .ok s)
    (h : (fs.inspected b).2 = some e) : e.IsOfAnalysis := by
  rw [inspected_of_survey hjob hsurvey] at h
  cases hcontext : fs.examine j s with
  | error e' =>
    rw [hcontext] at h
    cases h
    exact isOfAnalysis_of_examine hcontext
  | ok c =>
    rw [hcontext] at h
    cases h

/-- With its settings read, `inspect` surveys its module or fails before any analysis. -/
theorem survey_of_inspected {b : InspectArguments} {s : Settings} (hsettings : fs.settingsOf b.config b.input = .ok s)
    (hfault : ∀ e, (fs.inspected b).2 = some e → e.IsOfAnalysis) :
    ∃ j sv, fs.configuredJob b.config b.input = .ok j ∧ fs.survey j = .ok sv := by
  cases hjob : fs.configuredJob b.config b.input with
  | error e =>
    have hname : fs.nameOfDirectory b.input = .error e := by
      rw [configuredJob, hsettings] at hjob
      cases hname : fs.nameOfDirectory b.input with
      | error e' =>
        simp only [Except.bind, jobFrom, hname] at hjob
        cases hjob
        rfl
      | ok name =>
        simp only [Except.bind, jobFrom, hname] at hjob
        nomatch hjob
    exact absurd (hfault e (by simp [inspected, executeInspect, hjob, Execution.failed]))
      (not_isOfAnalysis_of_nameOfDirectory hname)
  | ok j =>
    cases hsurvey : fs.survey j with
    | error e =>
      exact absurd (hfault e (by simp [inspected, executeInspect, hjob, inspect, hsurvey, Except.bind, Execution.failed]))
        (not_isOfAnalysis_of_survey hsurvey)
    | ok sv => exact ⟨j, sv, rfl, hsurvey⟩

/-! ### Inspecting after a dispatch file is made -/

theorem executeGenerate_ok {a : GenerateArguments} (h : (fs.executeGenerate tools a).fault = none) :
    ∃ j r, fs.configuredJob a.config a.input = .ok j ∧
      fs.generate tools (a.override j) = (.ok r, (fs.executeGenerate tools a).files) := by
  unfold executeGenerate at h ⊢
  cases hjob : fs.configuredJob a.config a.input with
  | error e =>
    simp only [hjob] at h
    nomatch h
  | ok j =>
    rcases hrun : fs.generate tools (a.override j) with ⟨result, after⟩
    cases result with
    | error e =>
      simp only [hjob, hrun] at h
      nomatch h
    | ok r => exact ⟨j, r, rfl, by simp only [hrun]⟩

/-- Inspecting a module shows the same before and after its dispatch file is made, and does not take the new file for a
source, if and only if the new file leaves the module as it is but for the file that the settings name. -/
theorem inspect_after_generate_iff {a : GenerateArguments} {b : InspectArguments} (wf : fs.WellFormed)
    (hok : (fs.executeGenerate tools a).fault = none) (hinput : b.input = a.input) (hconfig : b.config = a.config) :
    ∃ j own, fs.configuredJob a.config a.input = .ok j ∧ fs.outputOf j = .ok own ∧
      if a.dryRun then (fs.executeGenerate tools a).files = fs
      else ∃ output l, fs.outputOf (a.override j) = .ok output ∧ fs.locateTarget output = .ok l ∧
        (fs.PassesBy l (settingsFile a.config a.input) →
          ((fs.executeGenerate tools a).files.inspected b = fs.inspected b ∧ ¬(fs.executeGenerate tools a).files.Takes j l ↔
            fs.LeavesModule a.input own l)) := by
  obtain ⟨j, r, hjob, hrun⟩ := executeGenerate_ok hok
  obtain ⟨s, hsettings, hfrom⟩ := configuredJob_ok_iff.mp hjob
  obtain ⟨hj, name, hname⟩ := jobFrom_ok hfrom
  obtain ⟨own, hown⟩ := exists_outputOf (j := j) (hj ▸ hname)
  refine ⟨j, own, hjob, hown, ?_⟩
  cases hdry : a.dryRun with
  | true =>
    have hkeeps := generate_replaces_or_keeps fs tools (a.override j)
    have hdry : (a.override j).dryRun = true := hdry
    rw [hrun] at hkeeps
    simp only [hdry, if_true] at hkeeps
    rw [if_pos rfl]
    exact hkeeps.2.2
  | false =>
    rw [if_neg Bool.false_ne_true]
    obtain ⟨sg, c, hsurveyg, hexamine, hwrite, hr⟩ := (generate_ok_iff (j := a.override j) hdry).mp hrun
    obtain ⟨-, -, l, htarget, hafter⟩ := writeOutput_ok_iff.mp hwrite
    obtain ⟨d, hd, houtput, -⟩ := survey_ok_iff.mp hsurveyg
    have hd : fs.locateDirectory j.input = .ok d := hd
    refine ⟨sg.output, l, houtput, htarget, fun hpasses => ?_⟩
    rw [hafter]
    have hjob' : fs.configuredJob b.config b.input = .ok j := by rw [hinput, hconfig, hjob]
    have hsettings' : (fs.set l (.file (Text.utf8 r.source))).settingsOf b.config b.input = .ok s := by
      rw [hinput, hconfig, ← hsettings]
      exact settingsOf_congr (hpasses.2 _) (hpasses.readText_eq (ne_nil_of_locateTarget htarget) _)
    have hafterJob : (fs.set l (.file (Text.utf8 r.source))).locateDirectory j.input = .ok d →
        (fs.set l (.file (Text.utf8 r.source))).configuredJob b.config b.input = .ok j := by
      intro hd'
      refine configuredJob_ok_iff.mpr ⟨s, hsettings', ?_⟩
      rw [hinput, ← hj, jobFrom_congr hd hd', hj, hfrom]
    have hsurvey := survey_of_outputOf hd hown
    rw [← hj]
    constructor
    · rintro ⟨hsame, htakes⟩
      have hfault : ∀ e, ((fs.set l (.file (Text.utf8 r.source))).inspected b).2 = some e → e.IsOfAnalysis := by
        rw [hsame]
        exact fun e => isOfAnalysis_of_inspected hjob' hsurvey
      obtain ⟨j', sv', hjobAfter, hsurveyAfter⟩ := survey_of_inspected hsettings' hfault
      obtain ⟨d', hd', -⟩ := survey_ok_iff.mp hsurveyAfter
      obtain ⟨s', -, hfromAfter⟩ := configuredJob_ok_iff.mp hjobAfter
      rw [(jobFrom_ok hfromAfter).1, hinput, ← hj] at hd'
      obtain rfl : d' = d := Except.ok.inj (((keepsWays_of_set_target htarget).locateDirectory_eq hd').symm.trans hd)
      exact leavesModule_of_not_takes wf htarget hd' ((outputOf_congr hd hd').trans hown) htakes
    · intro leaves
      have hd' : (fs.set l (.file (Text.utf8 r.source))).locateDirectory j.input = .ok d := by rw [leaves.module, hd]
      obtain ⟨⟨sv', hsv, hsvAfter, hexamineAfter⟩, htakes⟩ := leaves.survey_eq wf htarget hd hown
      exact ⟨by rw [inspected_of_survey hjob' hsv, inspected_of_survey (hafterJob hd') hsvAfter, hexamineAfter], htakes⟩

/-- A dispatch file beside the module's directory leaves what is shown of the module as it is. A source file in the directory
that only the command line calls the dispatch file does not. -/
theorem inspect_after_generate_iff_named :
    let fs : FileSystem := ⟨[(["h"], .directory), (["h", "mod.rs"], .file [])], []⟩
    let tools : Tools := ⟨fun _ => none, ["AAAAAA"]⟩
    let a (output : PathText) : GenerateArguments := ⟨"h", some output, none, none, none, false, false⟩
    let b : InspectArguments := ⟨"h", none, .json⟩
    let j : GenerationJob := ⟨"h", none, .ofModule "h", false, false⟩
    let keeps (output : PathText) (l : Location) : Prop :=
      (fs.executeGenerate tools (a output)).files.inspected b = fs.inspected b ∧
        ¬(fs.executeGenerate tools (a output)).files.Takes j l
    keeps "dispatch.rs" ["dispatch.rs"] ∧ ¬keeps "h/dispatch.rs" ["h", "dispatch.rs"] := by
  intro fs tools a b j keeps
  have wf : fs.WellFormed := by decide
  have hd : fs.locateDirectory "h" = .ok ["h"] := by decide +kernel
  have hjob : fs.configuredJob none "h" = .ok j := by decide +kernel
  have hown : fs.outputOf j = .ok "h/h.gen.rs" := by decide
  have hruns : ∀ output ∈ ["dispatch.rs", "h/dispatch.rs"], (fs.executeGenerate tools (a output)).fault = none := by
    decide +kernel
  have hkeeps : ∀ output l, output ∈ ["dispatch.rs", "h/dispatch.rs"] → fs.locateTarget output = .ok l → fs.at? l = none →
      fs.PassesBy l (settingsFile none "h") → (keeps output l ↔ fs.LeavesModule "h" "h/h.gen.rs" l) := by
    intro output l houtput htarget hfree hpasses
    obtain ⟨j', own, hjob', hown', h⟩ := inspect_after_generate_iff (b := b) wf (hruns output houtput) rfl rfl
    obtain rfl : j = j' := Except.ok.inj (hjob.symm.trans hjob')
    obtain rfl : "h/h.gen.rs" = own := Except.ok.inj (hown.symm.trans hown')
    rw [if_neg Bool.false_ne_true] at h
    obtain ⟨output', l', houtput', htarget', hiff⟩ := h
    obtain rfl : output = output' := Except.ok.inj houtput'
    obtain rfl : l = l' := Except.ok.inj (htarget.symm.trans htarget')
    exact hiff hpasses
  have hbeside : fs.at? ["dispatch.rs"] = none := by decide
  have hinside : fs.at? ["h", "dispatch.rs"] = none := by decide
  constructor
  · rw [hkeeps "dispatch.rs" ["dispatch.rs"] (by decide) (by decide) hbeside ⟨by decide, fun _ => rfl⟩,
      leavesModule_iff_of_not_leadsOn (not_leadsOn_of_free hbeside) (by decide) hd]
    intro name hplace
    simp at hplace
  · rw [hkeeps "h/dispatch.rs" ["h", "dispatch.rs"] (by decide) (by decide) hinside ⟨by decide, fun _ => rfl⟩,
      leavesModule_iff_of_not_leadsOn (not_leadsOn_of_free hinside) (by decide) hd]
    intro hsource
    exact absurd (hsource "dispatch.rs" rfl (by decide)) (by decide)

end FileSystem

end Switchboard
