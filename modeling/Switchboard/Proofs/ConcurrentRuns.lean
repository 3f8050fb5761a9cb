import Mathlib.Logic.Relation
import Switchboard.Proofs.Staging

/-! # Runs that stop half-way or go on at the same time

A run surveys its module, analyses it, stages a file, formats it and moves it, one step after another. Several runs share a
file system and take their steps in any order, and a run that is interrupted takes no more steps. In every state that comes
about like this a staged file is a file with the name of a source file. So nothing but its place keeps it out of a survey:
whoever surveys the directory where it stands takes it. -/

namespace Switchboard

open PathText FileSystem

/-! ### Runs step by step -/

/-- How far a run has come. -/
inductive Progress where
  | begun
  | surveyed (s : Survey)
  | rendered (r : GeneratedFile)
  | staged (r : GeneratedFile) (file : StagedFile)
  | formatted (r : GeneratedFile) (file : StagedFile)
  /-- The staged file is of no use any more. -/
  | spoiled (e : ProjectFault) (file : StagedFile)
  | ended (result : Except ProjectFault GeneratedFile)
  deriving DecidableEq

namespace Progress

/-- The staged file of a run, while it has one. -/
def file? : Progress → Option StagedFile
  | staged _ file => some file
  | formatted _ file => some file
  | spoiled _ file => some file
  | _ => none

end Progress

namespace FileSystem

/-- The next step of a run. -/
def advanceRun (fs : FileSystem) (tools : Tools) (j : GenerationJob) : Progress → Progress × FileSystem
  | .begun =>
    match fs.survey j with
    | .error e => (.ended (.error e), fs)
    | .ok s => (.surveyed s, fs)
  | .surveyed s =>
    match fs.examine j s with
    | .error e => (.ended (.error e), fs)
    | .ok c =>
      let r : GeneratedFile := ⟨s.output, c.descriptors.length, false, c.render⟩
      (if j.dryRun then .ended (.ok r) else .rendered r, fs)
  | .rendered r =>
    match fs.stage tools.marks r.output r.source with
    | .error e => (.ended (.error e), fs)
    | .ok (file, fs) => (.staged r file, fs)
  | .staged r file =>
    if j.formatted then
      match fs.formatStaged tools.formatter file with
      | (.error e, fs) => (.spoiled e file, fs)
      | (.ok text, fs) => (.formatted { r with source := text } file, fs)
    else (.formatted r file, fs)
  | .formatted r file =>
    match fs.rename file.location r.output with
    | .error fault => (.spoiled (.unpublished r.output fault) file, fs)
    | .ok fs => (.ended (.ok { r with written := true }), fs)
  | .spoiled e file => (.ended (.error e), fs.discard file)
  | .ended result => (.ended result, fs)

/-- Some steps of a run that nothing else comes between. -/
def advanceRunFor (tools : Tools) (j : GenerationJob) : Nat → Progress × FileSystem → Progress × FileSystem
  | 0, state => state
  | n + 1, state => advanceRunFor tools j n (state.2.advanceRun tools j state.1)

/-- The steps of a run make the dispatch file of its module. -/
theorem advanceRunFor_eq_generate (fs : FileSystem) (tools : Tools) (j : GenerationJob) :
    advanceRunFor tools j 6 (.begun, fs) = (.ended (fs.generate tools j).1, (fs.generate tools j).2) := by
  cases hsurvey : fs.survey j with
  | error e => simp only [advanceRunFor, advanceRun, generate, hsurvey]
  | ok s =>
    cases hexamine : fs.examine j s with
    | error e => simp only [advanceRunFor, advanceRun, generate, hsurvey, hexamine]
    | ok c =>
      cases hdry : j.dryRun with
      | true => simp only [advanceRunFor, advanceRun, generate, hsurvey, hexamine, hdry, if_true]
      | false =>
        simp only [advanceRunFor, advanceRun, generate, writeOutput, publishFormatted, publish, hsurvey, hexamine, hdry,
          Bool.false_eq_true, if_false]
        cases hstage : fs.stage tools.marks s.output c.render with
        | error e => cases j.formatted <;> simp [Except.map]
        | ok staged =>
          obtain ⟨file, made⟩ := staged
          cases hformatted : j.formatted with
          | false =>
            simp only [Bool.false_eq_true, if_false, settle]
            cases hrename : made.rename file.location s.output with
            | error fault => simp [Except.map]
            | ok after => simp [Except.map]
          | true =>
            simp only [if_true]
            rcases hformat : made.formatStaged tools.formatter file with ⟨text, left⟩
            cases text with
            | error e => simp
            | ok text =>
              simp only [settle]
              cases hrename : left.rename file.location s.output with
              | error fault => simp
              | ok after => simp

end FileSystem

/-! ### Several runs -/

/-- A run with what it is given. -/
structure Run where
  tools : Tools
  job : GenerationJob
  progress : Progress

/-- A file system and the runs that work on it. -/
structure World where
  files : FileSystem
  runs : List Run

namespace World

/-- One of the runs takes a step. -/
inductive Step : World → World → Prop
  | advance (fs : FileSystem) (before after : List Run) (run : Run) :
    Step ⟨fs, before ++ run :: after⟩
      ⟨(fs.advanceRun run.tools run.job run.progress).2,
        before ++ { run with progress := (fs.advanceRun run.tools run.job run.progress).1 } :: after⟩

/-- No run has done anything yet. -/
structure Starts (w : World) : Prop where
  wellFormed : w.files.WellFormed
  marks : ∀ run ∈ w.runs, ∀ m ∈ run.tools.marks, IsMark m
  begun : ∀ run ∈ w.runs, run.progress = .begun

end World

namespace FileSystem

variable {fs fs' fs'' : FileSystem} {d l k : Location} {name : String} {tools : Tools} {j : GenerationJob}

/-! ### Changes of files -/

/-- Nothing but files has come. -/
structure OnlyFiles (fs fs' : FileSystem) : Prop where
  wellFormed : fs.WellFormed → fs'.WellFormed
  leadsOn : ∀ k, fs'.LeadsOn k → fs.LeadsOn k

theorem OnlyFiles.refl (fs : FileSystem) : fs.OnlyFiles fs :=
  ⟨id, fun _ => id⟩

theorem OnlyFiles.trans (h : fs.OnlyFiles fs') (h' : fs'.OnlyFiles fs'') : fs.OnlyFiles fs'' :=
  ⟨fun wf => h'.wellFormed (h.wellFormed wf), fun k hk => h.leadsOn k (h'.leadsOn k hk)⟩

theorem onlyFiles_erase (fs : FileSystem) (hl : l ≠ []) : fs.OnlyFiles (fs.erase l) where
  wellFormed wf := wf.erase l
  leadsOn k hk := by
    unfold LeadsOn at hk ⊢
    rw [at?_erase fs hl] at hk
    split at hk
    · rcases hk with hk | ⟨_, hk⟩ <;> nomatch hk
    · exact hk

theorem onlyFiles_set (fs : FileSystem) (hname : IsEntryName name) (d : Location) (bytes : List UInt8) :
    fs.OnlyFiles (fs.set (d ++ [name]) (.file bytes)) where
  wellFormed wf := wf.set hname d _
  leadsOn k hk := by
    unfold LeadsOn at hk ⊢
    rw [at?_set fs (by simp)] at hk
    split at hk
    · rcases hk with hk | ⟨_, hk⟩ <;> nomatch hk
    · exact hk

/-- The place of a staged file: it has a name for staged files, and no directory or link stands there. -/
structure IsStagedPlace (fs : FileSystem) (k : Location) : Prop where
  named : ∃ d m, IsMark m ∧ k = d ++ [stagedName m]
  blocked : ¬fs.LeadsOn k

theorem IsStagedPlace.ne_nil (h : fs.IsStagedPlace k) : k ≠ [] := by
  obtain ⟨d, m, -, rfl⟩ := h.named
  simp

theorem IsStagedPlace.onlyFiles (h : fs.IsStagedPlace k) (only : fs.OnlyFiles fs') : fs'.IsStagedPlace k :=
  ⟨h.named, fun hk => h.blocked (only.leadsOn k hk)⟩

theorem IsStagedPlace.onlyFiles_leave (h : fs.IsStagedPlace k) (left : Option (List UInt8)) :
    fs.OnlyFiles (fs.leave k left) := by
  obtain ⟨d, m, hm, rfl⟩ := h.named
  cases left with
  | none => exact onlyFiles_erase fs (by simp)
  | some bytes => exact onlyFiles_set fs hm.isEntryName d bytes

theorem onlyFiles_stage {marks : List String} {p : PathText} {text : String} {s : StagedFile}
    (hmarks : ∀ m ∈ marks, IsMark m) (h : fs.stage marks p text = .ok (s, fs')) :
    fs.OnlyFiles fs' ∧ fs'.IsStagedPlace s.location := by
  obtain ⟨m, hm, -, d, hlocation⟩ := stageIn_location hmarks h
  obtain ⟨-, rfl⟩ := stage_ok h
  have hfile : (fs.set (d ++ [stagedName m]) (.file (Text.utf8 text))).at? (d ++ [stagedName m]) =
      some (.file (Text.utf8 text)) := by
    rw [at?_set fs (by simp), if_pos rfl]
  rw [hlocation]
  exact ⟨onlyFiles_set fs (hmarks m hm).isEntryName d _, ⟨d, m, hmarks m hm, rfl⟩, not_leadsOn_of_file hfile⟩

theorem onlyFiles_formatStaged {f : Formatter} {s : StagedFile} {r : Except ProjectFault String}
    (hs : fs.IsStagedPlace s.location) (h : fs.formatStaged f s = (r, fs')) : fs.OnlyFiles fs' := by
  unfold formatStaged formatAt at h
  cases hrun : f (fs.contents? s.location) with
  | none =>
    rw [hrun] at h
    cases h
    exact OnlyFiles.refl fs
  | some run =>
    obtain ⟨succeeded, left⟩ := run
    have hleave := hs.onlyFiles_leave left
    simp only [hrun, Option.map_some] at h
    cases succeeded with
    | false =>
      cases h
      exact hleave
    | true =>
      simp only at h
      split at h
      · cases h
        exact hleave
      · split at h
        · cases h
          exact hleave
        · cases h
          exact hleave

theorem onlyFiles_rename {p : PathText} (hk : fs.IsStagedPlace k) (h : fs.rename k p = .ok fs') : fs.OnlyFiles fs' := by
  unfold rename at h
  cases hat : fs.at? k with
  | none =>
    rw [hat] at h
    nomatch h
  | some e =>
    cases htarget : fs.locateTarget p with
    | error fault =>
      simp only [hat, htarget] at h
      nomatch h
    | ok target =>
      simp only [hat, htarget] at h
      cases h
      obtain ⟨d, name, rfl, hname⟩ := IsEntryName.of_locateTarget htarget
      cases e with
      | file bytes => exact (onlyFiles_erase fs hk.ne_nil).trans (onlyFiles_set _ hname d bytes)
      | directory => exact absurd (Or.inl hat) hk.blocked
      | link t => exact absurd (Or.inr ⟨t, hat⟩) hk.blocked

/-- A step of a run brings nothing but files, and its staged file stays a staged file. -/
theorem advanceRun_keeps {progress : Progress} (hmarks : ∀ m ∈ tools.marks, IsMark m)
    (hplace : ∀ file, progress.file? = some file → fs.IsStagedPlace file.location) :
    fs.OnlyFiles (fs.advanceRun tools j progress).2 ∧ ∀ file, (fs.advanceRun tools j progress).1.file? = some file →
      (fs.advanceRun tools j progress).2.IsStagedPlace file.location := by
  cases progress with
  | begun =>
    cases hsurvey : fs.survey j with
    | error e => simpa only [advanceRun, hsurvey] using ⟨OnlyFiles.refl fs, nofun⟩
    | ok s => simpa only [advanceRun, hsurvey] using ⟨OnlyFiles.refl fs, nofun⟩
  | surveyed s =>
    cases hexamine : fs.examine j s with
    | error e => simpa only [advanceRun, hexamine] using ⟨OnlyFiles.refl fs, nofun⟩
    | ok c =>
      simp only [advanceRun, hexamine]
      refine ⟨OnlyFiles.refl fs, fun file hfile => ?_⟩
      split at hfile <;> nomatch hfile
  | rendered r =>
    cases hstage : fs.stage tools.marks r.output r.source with
    | error e => simpa only [advanceRun, hstage] using ⟨OnlyFiles.refl fs, nofun⟩
    | ok staged =>
      obtain ⟨file, made⟩ := staged
      obtain ⟨only, hnew⟩ := onlyFiles_stage hmarks hstage
      simp only [advanceRun, hstage]
      refine ⟨only, fun file' hfile' => ?_⟩
      obtain rfl := Option.some.inj hfile'
      exact hnew
  | staged r file =>
    have hfile := hplace file rfl
    cases hformatted : j.formatted with
    | false =>
      simp only [advanceRun, hformatted, Bool.false_eq_true, if_false]
      exact ⟨OnlyFiles.refl fs, hplace⟩
    | true =>
      rcases hformat : fs.formatStaged tools.formatter file with ⟨text, left⟩
      have only := onlyFiles_formatStaged hfile hformat
      cases text with
      | error e =>
        simp only [advanceRun, hformatted, if_true, hformat]
        exact ⟨only, fun file' hfile' => Option.some.inj hfile' ▸ hfile.onlyFiles only⟩
      | ok text =>
        simp only [advanceRun, hformatted, if_true, hformat]
        exact ⟨only, fun file' hfile' => Option.some.inj hfile' ▸ hfile.onlyFiles only⟩
  | formatted r file =>
    have hfile := hplace file rfl
    cases hrename : fs.rename file.location r.output with
    | error fault =>
      simp only [advanceRun, hrename]
      exact ⟨OnlyFiles.refl fs, fun file' hfile' => Option.some.inj hfile' ▸ hfile⟩
    | ok after =>
      simp only [advanceRun, hrename]
      exact ⟨onlyFiles_rename hfile hrename, nofun⟩
  | spoiled e file => exact ⟨onlyFiles_erase fs (hplace file rfl).ne_nil, nofun⟩
  | ended result => exact ⟨OnlyFiles.refl fs, nofun⟩

end FileSystem

namespace World

/-- What holds whatever steps the runs have taken. -/
structure Sound (w : World) : Prop where
  wellFormed : w.files.WellFormed
  marks : ∀ run ∈ w.runs, ∀ m ∈ run.tools.marks, IsMark m
  places : ∀ run ∈ w.runs, ∀ file, run.progress.file? = some file → w.files.IsStagedPlace file.location

theorem Starts.sound {w : World} (h : w.Starts) : w.Sound where
  wellFormed := h.wellFormed
  marks := h.marks
  places run hrun file hfile := by
    rw [h.begun run hrun] at hfile
    nomatch hfile

theorem Sound.step {w w' : World} (h : w.Sound) (hstep : w.Step w') : w'.Sound := by
  obtain ⟨fs, before, after, run⟩ := hstep
  have hmem : run ∈ before ++ run :: after := by simp
  obtain ⟨only, hplace⟩ := advanceRun_keeps (j := run.job) (h.marks run hmem) (h.places run hmem)
  have hothers : ∀ other ∈ before ++ { run with progress := (fs.advanceRun run.tools run.job run.progress).1 } :: after,
      other = { run with progress := (fs.advanceRun run.tools run.job run.progress).1 } ∨ other ∈ before ++ run :: after := by
    intro other hother
    simp only [List.mem_append, List.mem_cons] at hother ⊢
    tauto
  refine ⟨only.wellFormed h.wellFormed, fun other hother => ?_, fun other hother file hfile => ?_⟩
  · rcases hothers other hother with rfl | hother
    · exact h.marks run hmem
    · exact h.marks other hother
  · rcases hothers other hother with rfl | hother
    · exact hplace file hfile
    · exact (h.places other hother file hfile).onlyFiles only

theorem Sound.reaches {w w' : World} (h : w.Sound) (hsteps : Relation.ReflTransGen Step w w') : w'.Sound := by
  induction hsteps with
  | refl => exact h
  | tail _ hstep ih => exact ih.step hstep

theorem reaches_advanceRunFor (tools : Tools) (j : GenerationJob) (before after : List Run) (n : Nat) (state : Progress × FileSystem) :
    Relation.ReflTransGen Step ⟨state.2, before ++ ⟨tools, j, state.1⟩ :: after⟩
      ⟨(advanceRunFor tools j n state).2, before ++ ⟨tools, j, (advanceRunFor tools j n state).1⟩ :: after⟩ := by
  induction n generalizing state with
  | zero => exact .refl
  | succ n ih => exact .head (.advance state.2 before after ⟨tools, j, state.1⟩) (ih _)

/-- However several runs take their steps, and wherever they stop, a survey takes a staged file if and only if it is a survey
of the directory where the file stands, and the path of the file is not that of the dispatch file of the survey. -/
theorem takes_staged_iff {w₀ w : World} (hstart : w₀.Starts) (hsteps : Relation.ReflTransGen Step w₀ w) {run : Run}
    (hrun : run ∈ w.runs) {file : StagedFile} (hfile : run.progress.file? = some file)
    (hstands : w.files.at? file.location ≠ none) : ∃ d m, IsMark m ∧ file.location = d ++ [stagedName m] ∧
      ∀ j : GenerationJob, w.files.Takes j file.location ↔ ∃ output, w.files.locateDirectory j.input = .ok d ∧
        w.files.outputOf j = .ok output ∧ same (join j.input (stagedName m)) output = false := by
  have sound : w.Sound := hstart.sound.reaches hsteps
  have hplace := sound.places run hrun file hfile
  obtain ⟨d, m, hm, hlocation⟩ := hplace.named
  have hcontents : ∃ bytes, w.files.at? file.location = some (.file bytes) := by
    cases hat : w.files.at? file.location with
    | none => exact absurd hat hstands
    | some e =>
      cases e with
      | file bytes => exact ⟨bytes, rfl⟩
      | directory => exact absurd (Or.inl hat) hplace.blocked
      | link target => exact absurd (Or.inr ⟨target, hat⟩) hplace.blocked
  refine ⟨d, m, hm, hlocation, fun j => ?_⟩
  rw [sound.wellFormed.takes_iff]
  constructor
  · rintro ⟨d', name, output, hd, houtput, hplace', -, -, hother⟩
    obtain ⟨rfl, hname⟩ := List.append_inj' (hlocation.symm.trans hplace') rfl
    obtain rfl : stagedName m = name := List.singleton_inj.mp hname
    exact ⟨output, hd, houtput, hother⟩
  · rintro ⟨output, hd, houtput, hother⟩
    exact ⟨d, stagedName m, output, hd, houtput, hlocation, hm.isSourceName, hcontents, hother⟩

/-- A run that has staged its file, be it interrupted there or not, and another that surveys the same module: it takes the
staged file for a source. -/
theorem takes_staged_iff_same_module :
    let fs : FileSystem := ⟨[(["h"], .directory), (["h", "mod.rs"], .file [])], []⟩
    let run : Run := ⟨⟨fun _ => none, ["AAAAAA"]⟩, ⟨"h", none, .ofModule "h", false, false⟩, .begun⟩
    ∃ w : World, Relation.ReflTransGen Step ⟨fs, [run, run]⟩ w ∧ run ∈ w.runs ∧
      (∃ staged ∈ w.runs, staged.progress.file? = some ⟨"h/.handlergenAAAAAA.rs", ["h", ".handlergenAAAAAA.rs"]⟩) ∧
      w.files.Takes run.job ["h", ".handlergenAAAAAA.rs"] := by
  intro fs run
  let state : Progress × FileSystem := advanceRunFor run.tools run.job 3 (.begun, fs)
  have hruns : ∀ r ∈ [run, run], r = run := by simp
  have hstart : Starts ⟨fs, [run, run]⟩ := by
    refine ⟨by decide, fun r hr => ?_, fun r hr => ?_⟩
    · rw [hruns r hr]
      decide
    · rw [hruns r hr]
  have hsteps : Relation.ReflTransGen Step ⟨fs, [run, run]⟩ ⟨state.2, [⟨run.tools, run.job, state.1⟩, run]⟩ :=
    reaches_advanceRunFor run.tools run.job [] [run] 3 (.begun, fs)
  have hfile : state.1.file? = some ⟨"h/.handlergenAAAAAA.rs", ["h", ".handlergenAAAAAA.rs"]⟩ := by decide +kernel
  have hstands : state.2.at? ["h", ".handlergenAAAAAA.rs"] ≠ none := by decide +kernel
  have hmodule : state.2.locateDirectory "h" = .ok ["h"] ∧ state.2.outputOf run.job = .ok "h/h.gen.rs" := by decide +kernel
  obtain ⟨d, m, -, hlocation, htakes⟩ := takes_staged_iff hstart hsteps List.mem_cons_self hfile hstands
  have hlocation : ["h"] ++ [".handlergenAAAAAA.rs"] = d ++ [stagedName m] := hlocation
  obtain ⟨rfl, hname⟩ := List.append_inj' hlocation rfl
  have hname : stagedName m = ".handlergenAAAAAA.rs" := (List.singleton_inj.mp hname).symm
  refine ⟨_, hsteps, by simp, ⟨_, List.mem_cons_self, hfile⟩, (htakes run.job).mpr ⟨"h/h.gen.rs", hmodule.1, hmodule.2, ?_⟩⟩
  rw [hname]
  decide

end World

end Switchboard
