import Switchboard.Project.Generation
import Switchboard.Proofs.PathFollowing
import Switchboard.Proofs.Utf8

/-! # Making a dispatch file replaces it or changes nothing

From the moment a file is staged to the moment it is moved or given up, the file system is the one from before but for
a location that was free then. That is kept whatever a formatter leaves there, so giving the staged file up brings
back the file system from before, and moving it changes what stands at the destination and nothing else. -/

namespace Switchboard.FileSystem

variable {fs fs' after : FileSystem} {k l : Location}

/-! ### Entries that come and go -/

theorem erase_of_free (h : fs.at? k = none) : fs.erase k = fs := by
  have hk : k ≠ [] := by
    rintro rfl
    nomatch h
  rw [at?, if_neg hk, List.lookup_eq_none_iff] at h
  have kept : fs.entries.filter (fun entry => decide (entry.1 ≠ k)) = fs.entries := by
    rw [List.filter_eq_self]
    intro entry hentry
    have hne : k ≠ entry.1 := by simpa using h entry hentry
    exact decide_eq_true hne.symm
  simp only [erase, kept]

theorem erase_erase (fs : FileSystem) (k : Location) : (fs.erase k).erase k = fs.erase k := by
  simp [erase]

theorem erase_set (fs : FileSystem) (k : Location) (e : Entry) : (fs.set k e).erase k = fs.erase k := by
  simp [erase, set]

theorem set_set (fs : FileSystem) (k : Location) (e e' : Entry) : (fs.set k e).set k e' = fs.set k e' := by
  simp [set]

theorem set_erase (fs : FileSystem) (k : Location) (e : Entry) : (fs.erase k).set k e = fs.set k e := by
  simp [set, erase]

/-! ### A file system with a staged file -/

/-- A file system is another with perhaps a file at a location that was free there. -/
structure HasStaged (fs fs' : FileSystem) (k : Location) : Prop where
  free : fs.at? k = none
  eq_leave : ∃ left, fs' = fs.leave k left

theorem HasStaged.erase (h : fs.HasStaged fs' k) : fs'.erase k = fs := by
  obtain ⟨left, rfl⟩ := h.eq_leave
  cases left with
  | none => rw [leave, erase_erase, erase_of_free h.free]
  | some bytes => rw [leave, erase_set, erase_of_free h.free]

theorem HasStaged.leave (h : fs.HasStaged fs' k) (left : Option (List UInt8)) :
    fs'.leave k left = fs.leave k left := by
  obtain ⟨before, rfl⟩ := h.eq_leave
  cases before <;> cases left <;> simp only [FileSystem.leave, erase_erase, erase_set, set_set, set_erase]

theorem HasStaged.ne_nil (h : fs.HasStaged fs' k) : k ≠ [] := by
  rintro rfl
  nomatch h.free

theorem contents?_leave (fs : FileSystem) (hk : k ≠ []) (left : Option (List UInt8)) :
    (fs.leave k left).contents? k = left := by
  cases left with
  | none => rw [contents?, FileSystem.leave, at?_erase fs hk, if_pos rfl]
  | some bytes => rw [contents?, FileSystem.leave, at?_set fs hk, if_pos rfl]

theorem not_leadsOn_of_free (h : fs.at? k = none) : ¬fs.LeadsOn k := by
  simp [LeadsOn, h]

theorem not_leadsOn_of_file {bytes : List UInt8} (h : fs.at? k = some (.file bytes)) : ¬fs.LeadsOn k := by
  simp [LeadsOn, h]

theorem create_ok {p : PathText} {contents : List UInt8} (h : fs.create p contents = .ok (k, fs')) :
    fs.at? k = none ∧ fs' = fs.set k (.file contents) := by
  unfold create at h
  split at h
  · nomatch h
  · split at h
    · nomatch h
    · rename_i hfree
      cases h
      exact ⟨by simpa using hfree, rfl⟩

theorem stageIn_cons (fs : FileSystem) (directory : PathText) (contents : List UInt8) (mark : String)
    (marks : List String) :
    fs.stageIn directory contents (mark :: marks) =
      match fs.create (PathText.join directory (stagedName mark)) contents with
      | .ok (l, made) => .ok (⟨PathText.join directory (stagedName mark), l⟩, made)
      | .error .occupied => fs.stageIn directory contents marks
      | .error fault => .error (.unstaged directory fault (PathText.join directory (stagedName mark))) := by
  rfl

theorem stageIn_ok {directory : PathText} {contents : List UInt8} {marks : List String} {s : StagedFile}
    (h : fs.stageIn directory contents marks = .ok (s, fs')) :
    fs.at? s.location = none ∧ fs' = fs.set s.location (.file contents) := by
  induction marks with
  | nil => nomatch h
  | cons mark marks ih =>
    rw [stageIn_cons] at h
    split at h
    · rename_i l made hcreate
      cases h
      exact create_ok hcreate
    · exact ih h
    · nomatch h

theorem stage_ok {marks : List String} {p : PathText} {text : String} {s : StagedFile}
    (h : fs.stage marks p text = .ok (s, fs')) :
    fs.at? s.location = none ∧ fs' = fs.set s.location (.file (Text.utf8 text)) :=
  stageIn_ok h

/-- Whatever a formatter does to a staged file, the rest stays; and the text that is read back is all there is in
the file. -/
theorem formatStaged_keeps {f : Formatter} {s : StagedFile} {r : Except ProjectFault String}
    (hs : fs.HasStaged fs' s.location) (h : fs'.formatStaged f s = (r, after)) :
    fs.HasStaged after s.location ∧ ∀ text, r = .ok text → after = fs.set s.location (.file (Text.utf8 text)) := by
  unfold formatStaged formatAt at h
  cases hrun : f (fs'.contents? s.location) with
  | none =>
    rw [hrun] at h
    cases h
    exact ⟨hs, nofun⟩
  | some run =>
    obtain ⟨succeeded, left⟩ := run
    simp only [hrun, Option.map_some, hs.leave left] at h
    have hleft : fs.HasStaged (fs.leave s.location left) s.location := ⟨hs.free, left, rfl⟩
    cases succeeded with
    | false =>
      cases h
      exact ⟨hleft, nofun⟩
    | true =>
      simp only [contents?_leave fs hs.ne_nil] at h
      cases left with
      | none =>
        cases h
        exact ⟨hleft, nofun⟩
      | some bytes =>
        cases hdecode : Text.decodeUtf8? bytes with
        | none =>
          simp only [hdecode] at h
          cases h
          exact ⟨hleft, nofun⟩
        | some text =>
          simp only [hdecode] at h
          cases h
          refine ⟨hleft, fun text' htext => ?_⟩
          cases htext
          rw [Text.utf8_of_decodeUtf8? hdecode, FileSystem.leave]

/-- Moving a staged file fails and leaves nothing of it, or puts it at the destination. -/
theorem settle_cases {s : StagedFile} (hfree : fs.at? s.location = none) (p : PathText) (bytes : List UInt8) :
    (∃ e, (fs.set s.location (.file bytes)).settle s p = (.error e, fs)) ∨
    (∃ l, fs.locateTarget p = .ok l ∧
      (fs.set s.location (.file bytes)).settle s p = (.ok (), fs.set l (.file bytes))) := by
  have hs : fs.HasStaged (fs.set s.location (.file bytes)) s.location := ⟨hfree, some bytes, rfl⟩
  have hfile : (fs.set s.location (.file bytes)).at? s.location = some (.file bytes) := by
    rw [at?_set fs hs.ne_nil, if_pos rfl]
  unfold settle rename
  rw [hfile]
  simp only [discard, hs.erase]
  cases htarget : (fs.set s.location (.file bytes)).locateTarget p with
  | error e => exact Or.inl ⟨_, rfl⟩
  | ok l =>
    have agree : (fs.set s.location (.file bytes)).AgreesBut fs s.location := (agreesBut_set hs.ne_nil _).symm
    have htarget' := locateTarget_eq_of_agreesBut agree (not_leadsOn_of_file hfile) (not_leadsOn_of_free hfree) htarget
    exact Or.inr ⟨l, htarget', rfl⟩

theorem publish_cases (fs : FileSystem) (marks : List String) (p : PathText) (text : String) :
    (∃ e, fs.publish marks p text = (.error e, fs)) ∨
    (∃ l, fs.locateTarget p = .ok l ∧ fs.publish marks p text = (.ok (), fs.set l (.file (Text.utf8 text)))) := by
  unfold publish
  cases hstage : fs.stage marks p text with
  | error e => exact Or.inl ⟨e, rfl⟩
  | ok staged =>
    obtain ⟨s, fs'⟩ := staged
    obtain ⟨hfree, rfl⟩ := stage_ok hstage
    exact settle_cases hfree p (Text.utf8 text)

theorem publishFormatted_cases (fs : FileSystem) (tools : Tools) (p : PathText) (text : String) :
    (∃ e, fs.publishFormatted tools p text = (.error e, fs)) ∨
    (∃ formatted l, fs.locateTarget p = .ok l ∧
      fs.publishFormatted tools p text = (.ok formatted, fs.set l (.file (Text.utf8 formatted)))) := by
  unfold publishFormatted
  cases hstage : fs.stage tools.marks p text with
  | error e => exact Or.inl ⟨e, rfl⟩
  | ok staged =>
    obtain ⟨s, fs'⟩ := staged
    obtain ⟨hfree, rfl⟩ := stage_ok hstage
    have hs : fs.HasStaged (fs.set s.location (.file (Text.utf8 text))) s.location := ⟨hfree, some _, rfl⟩
    rcases hformat : (fs.set s.location (.file (Text.utf8 text))).formatStaged tools.formatter s with ⟨r, fs'⟩
    obtain ⟨hkeeps, hok⟩ := formatStaged_keeps hs hformat
    simp only [hformat]
    cases r with
    | error e => exact Or.inl ⟨e, by simp only [discard, hkeeps.erase]⟩
    | ok formatted =>
      rw [hok formatted rfl]
      rcases settle_cases hfree p (Text.utf8 formatted) with ⟨e, hsettle⟩ | ⟨l, htarget, hsettle⟩
      · exact Or.inl ⟨e, by simp only [hsettle]⟩
      · exact Or.inr ⟨formatted, l, htarget, by simp only [hsettle]⟩

theorem writeOutput_cases (fs : FileSystem) (tools : Tools) (j : GenerationJob) (p : PathText) (text : String) :
    (∃ e, fs.writeOutput tools j p text = (.error e, fs)) ∨
    (∃ written l, fs.locateTarget p = .ok l ∧
      fs.writeOutput tools j p text = (.ok written, fs.set l (.file (Text.utf8 written)))) := by
  unfold writeOutput
  split
  · exact publishFormatted_cases fs tools p text
  · rcases publish_cases fs tools.marks p text with ⟨e, h⟩ | ⟨l, htarget, h⟩
    · exact Or.inl ⟨e, by rw [h]; rfl⟩
    · exact Or.inr ⟨text, l, htarget, by rw [h]; rfl⟩

/-! ### Making a dispatch file -/

/-- A file system is another in which a text has taken the place of what stood where a path puts a file. -/
structure IsReplacement (fs after : FileSystem) (p : PathText) (text : String) (l : Location) : Prop where
  located : fs.locateTarget p = .ok l
  holds : after.at? l = some (.file (Text.utf8 text))
  agree : fs.AgreesBut after l
  /-- A link that stood there may have been on the way of the path; else the path finds the text. -/
  read : (∀ target, fs.at? l ≠ some (.link target)) → after.read p = .ok (Text.utf8 text)

theorem isReplacement_set {p : PathText} (h : fs.locateTarget p = .ok l) (text : String) :
    fs.IsReplacement (fs.set l (.file (Text.utf8 text))) p text l := by
  have hl : l ≠ [] := ne_nil_of_locateTarget h
  have holds : (fs.set l (.file (Text.utf8 text))).at? l = some (.file (Text.utf8 text)) := by
    rw [at?_set fs hl, if_pos rfl]
  refine ⟨h, holds, agreesBut_set hl _, fun hlink => ?_⟩
  obtain ⟨_, _, _, _, _, _, _, _, hdirectory⟩ := locateTarget_ok_iff.mp h
  exact read_of_locateTarget h (agreesBut_set hl _) (not_or.mpr ⟨hdirectory, not_exists.mpr hlink⟩) holds

theorem survey_output {j : GenerationJob} {s : Survey} (h : fs.survey j = .ok s) : fs.outputOf j = .ok s.output := by
  unfold survey at h
  cases houtput : fs.outputOf j with
  | error e =>
    rw [houtput] at h
    nomatch h
  | ok output =>
    rw [houtput] at h
    cases hsources : fs.collectSources j.input with
    | error e =>
      simp only [hsources] at h
      nomatch h
    | ok sources =>
      simp only [hsources] at h
      cases h
      rfl

/-- Making a dispatch file puts the text that it reports at the destination and changes nothing else, or it changes
nothing at all. It changes nothing if it fails, wherever it does, and if the destination is to be left as it is. -/
theorem generate_replaces_or_keeps (fs : FileSystem) (tools : Tools) (j : GenerationJob) :
    match fs.generate tools j with
    | (.error _, after) => after = fs
    | (.ok r, after) =>
      fs.outputOf j = .ok r.output ∧
      if j.dryRun then r.written = false ∧ after = fs
      else r.written = true ∧ ∃ l, fs.IsReplacement after r.output r.source l := by
  unfold generate
  cases hsurvey : fs.survey j with
  | error e => rfl
  | ok s =>
    have houtput : fs.outputOf j = .ok s.output := survey_output hsurvey
    cases hexamine : fs.examine j s with
    | error e => simp only [hexamine]
    | ok c =>
      simp only [hexamine]
      cases hdry : j.dryRun with
      | true => exact ⟨houtput, rfl, rfl⟩
      | false =>
        rcases writeOutput_cases fs tools j s.output c.render with ⟨e, h⟩ | ⟨written, l, htarget, h⟩
        · rw [h]
          rfl
        · rw [h]
          exact ⟨houtput, rfl, l, isReplacement_set htarget written⟩

end Switchboard.FileSystem
