import Switchboard.Proofs.Publication
import Switchboard.Proofs.SourceListing
import Switchboard.Sample.Formatters

/-! # When new contents are staged and published

The names of staged files differ in their marks only. If one of them can be used in a directory, so can each of them that is
free there; and whether a file is published depends on a free name, on the formatter and on the place of the file alone. -/

namespace Switchboard

open PathText FileSystem

/-! ### Names of staged files -/

/-- What sets the name of a staged file apart: letters and digits, always as many. -/
structure IsMark (mark : String) : Prop where
  size : mark.utf8ByteSize = 6
  alphanumeric : ∀ c ∈ mark.toList, c.isAlphanum = true

theorem isMark_iff {mark : String} : IsMark mark ↔ mark.utf8ByteSize = 6 ∧ mark.toList.all (·.isAlphanum) = true :=
  ⟨fun h => ⟨h.size, List.all_eq_true.mpr h.alphanumeric⟩, fun ⟨hs, ha⟩ => ⟨hs, List.all_eq_true.mp ha⟩⟩

instance (mark : String) : Decidable (IsMark mark) :=
  decidable_of_iff _ isMark_iff.symm

namespace IsMark

variable {mark : String} (h : IsMark mark)
include h

theorem not_mem {c : Char} (hc : c.isAlphanum = false) : c ∉ mark.toList := by
  intro hmem
  rw [h.alphanumeric c hmem] at hc
  nomatch hc

theorem size_stagedName : (stagedName mark).utf8ByteSize = 20 := by
  rw [stagedName, String.utf8ByteSize_append, String.utf8ByteSize_append, h.size]
  rfl

theorem isEntryName : IsEntryName (stagedName mark) where
  ne_empty := by simp [stagedName]
  ne_here heq := by
    have hsize := congrArg String.utf8ByteSize heq
    rw [h.size_stagedName] at hsize
    nomatch hsize
  ne_parent heq := by
    have hsize := congrArg String.utf8ByteSize heq
    rw [h.size_stagedName] at hsize
    nomatch hsize
  single := by
    have hmark : '/' ∉ mark.toList := h.not_mem (by decide)
    simp [stagedName, hmark]
  size := by
    rw [h.size_stagedName]
    decide

/-- A staged file looks like a source file, and not like a generated one. -/
theorem isSourceName : isSourceName (stagedName mark) = true := by
  have characters : (stagedName mark).toList = ('.' :: ("handlergen".toList ++ mark.toList)) ++ ".rs".toList := by
    simp [stagedName]
  have hdot : '.' ∉ "handlergen".toList ++ mark.toList := by
    rw [List.mem_append, not_or]
    exact ⟨by decide, h.not_mem (by decide)⟩
  have hsource : hasEnding sourceEnding (stagedName mark) = true := by
    rw [hasEnding, characters, List.isSuffixOf_iff_suffix]
    exact List.suffix_append _ _
  have hgenerated : hasEnding generatedEnding (stagedName mark) = false := by
    rw [hasEnding, characters, ← Bool.not_eq_true, List.isSuffixOf_iff_suffix]
    intro hsuffix
    have ending : generatedEnding.toList = ".gen".toList ++ ".rs".toList := by decide
    rw [ending, List.suffix_append_self_iff, List.suffix_cons_iff] at hsuffix
    rcases hsuffix with heq | hsuffix
    · simp at heq
    · exact hdot (hsuffix.subset (by decide))
  rw [Switchboard.isSourceName, hsource, hgenerated]
  rfl

end IsMark

theorem exists_join_eq_append (p : PathText) : ∃ before, ∀ name : String, '/' ∉ name.toList → join p name = before ++ name := by
  by_cases hslash : p = "" ∨ p.toList.getLast? = some '/'
  · refine ⟨p, fun name hname => ?_⟩
    rw [join, isAbsolute_of_not_mem hname, if_neg Bool.false_ne_true, if_pos hslash]
  · refine ⟨p ++ "/", fun name hname => ?_⟩
    rw [join, isAbsolute_of_not_mem hname, if_neg Bool.false_ne_true, if_neg hslash]

theorem pathFault?_stagedName {mark mark' : String} (h : IsMark mark) (h' : IsMark mark') (p : PathText) :
    pathFault? (join p (stagedName mark)) = pathFault? (join p (stagedName mark')) := by
  obtain ⟨before, hbefore⟩ := exists_join_eq_append p
  have zero : ∀ {m : String}, IsMark m → (before ++ stagedName m).toList.contains '\x00' = before.toList.contains '\x00' := by
    intro m hm
    have hmark : '\x00' ∉ m.toList := hm.not_mem (by decide)
    simp [stagedName, hmark]
  have nonempty : ∀ {m : String}, IsMark m → before ++ stagedName m ≠ "" := by
    intro m hm
    simp [stagedName]
  rw [hbefore _ h.isEntryName.single, hbefore _ h'.isEntryName.single, pathFault?, pathFault?, if_neg (nonempty h),
    if_neg (nonempty h'), zero h, zero h', String.utf8ByteSize_append, String.utf8ByteSize_append, h.size_stagedName,
    h'.size_stagedName]

namespace FileSystem

variable {fs fs' after : FileSystem} {d l : Location} {p : PathText} {text written : String} {marks : List String}
  {s : StagedFile}

/-! ### Staging -/

theorem create_of_locateNew {contents : List UInt8} (h : fs.locateNew p = .ok l) (hfree : fs.at? l = none) :
    fs.create p contents = .ok (l, fs.set l (.file contents)) := by
  rw [create, h]
  simp [hfree]

theorem locateNew_of_create {contents : List UInt8} (h : fs.create p contents = .ok (l, fs')) : fs.locateNew p = .ok l := by
  unfold create at h
  split at h
  · nomatch h
  · rename_i l' hl'
    split at h
    · nomatch h
    · cases h
      exact hl'

theorem stageIn_location {directory : PathText} {contents : List UInt8} (hmarks : ∀ m ∈ marks, IsMark m)
    (h : fs.stageIn directory contents marks = .ok (s, fs')) : ∃ m ∈ marks,
      pathFault? (join directory (stagedName m)) = none ∧ ∃ d, s.location = d ++ [stagedName m] := by
  induction marks with
  | nil => nomatch h
  | cons mark marks ih =>
    rw [stageIn_cons] at h
    split at h
    · rename_i l made hcreate
      cases h
      have hnew := locateNew_of_create hcreate
      rw [locateNew_join (hmarks mark List.mem_cons_self).isEntryName] at hnew
      split at hnew
      · nomatch hnew
      · rename_i hfault
        cases hparts : fs.locateParts directory directory.segments with
        | error e =>
          rw [hparts] at hnew
          nomatch hnew
        | ok d =>
          rw [hparts] at hnew
          exact ⟨mark, List.mem_cons_self, hfault, d, (Except.ok.inj hnew).symm⟩
    · obtain ⟨m, hm, hlocation⟩ := ih (fun m hm => hmarks m (List.mem_cons_of_mem _ hm)) h
      exact ⟨m, List.mem_cons_of_mem _ hm, hlocation⟩
    · nomatch h

theorem WellFormed.stage (wf : fs.WellFormed) (hmarks : ∀ m ∈ marks, IsMark m)
    (h : fs.stage marks p text = .ok (s, fs')) : fs'.WellFormed := by
  obtain ⟨m, hm, -, d, hlocation⟩ := stageIn_location hmarks h
  rw [(stage_ok h).2, hlocation]
  exact wf.set (hmarks m hm).isEntryName d _

/-- A file can be staged if one of the names for it is free in the directory of the file that it is to replace. -/
theorem exists_stage {before : List String} {name mark : String} (hmarks : ∀ m ∈ marks, IsMark m)
    (hlast : lastPart p = .name before name false) (hparts : fs.locateParts p before = .ok d) (hmem : mark ∈ marks)
    (hfault : pathFault? (join (stagingDirectory p) (stagedName mark)) = none)
    (hfree : fs.at? (d ++ [stagedName mark]) = none) (text : String) :
    ∃ s fs', fs.stage marks p text = .ok (s, fs') := by
  rw [stage]
  induction marks with
  | nil => nomatch hmem
  | cons m marks ih =>
    have hm : IsMark m := hmarks m List.mem_cons_self
    have hnew : fs.locateNew (join (stagingDirectory p) (stagedName m)) = .ok (d ++ [stagedName m]) := by
      rw [locateNew_staged hlast hm.isEntryName, pathFault?_stagedName hm (hmarks mark hmem), hfault, hparts]
      rfl
    rw [stageIn_cons]
    cases hat : fs.at? (d ++ [stagedName m]) with
    | none => exact ⟨_, _, by rw [create_of_locateNew hnew hat]⟩
    | some e =>
      have htaken : fs.create (join (stagingDirectory p) (stagedName m)) (Text.utf8 text) = .error .occupied := by
        rw [create, hnew]
        simp [hat]
      have hrest : mark ∈ marks := by
        rcases List.mem_cons.mp hmem with rfl | hrest
        · rw [hfree] at hat
          nomatch hat
        · exact hrest
      simp only [htaken]
      exact ih (fun m hm => hmarks m (List.mem_cons_of_mem _ hm)) hrest

/-! ### Publishing -/

theorem settle_ok (hfree : fs.at? s.location = none) (htarget : fs.locateTarget p = .ok l) (bytes : List UInt8) :
    (fs.set s.location (.file bytes)).settle s p = (.ok (), fs.set l (.file bytes)) := by
  have hs : fs.HasStaged (fs.set s.location (.file bytes)) s.location := ⟨hfree, some bytes, rfl⟩
  have hfile : (fs.set s.location (.file bytes)).at? s.location = some (.file bytes) := by
    rw [at?_set fs hs.ne_nil, if_pos rfl]
  have htarget' : (fs.set s.location (.file bytes)).locateTarget p = .ok l :=
    locateTarget_eq_of_agreesBut (agreesBut_set hs.ne_nil _) (not_leadsOn_of_free hfree) (not_leadsOn_of_file hfile) htarget
  rw [settle, rename, hfile]
  simp only [htarget', hs.erase]

end FileSystem

/-- What a formatter makes of a text, if it is asked to make something of it. -/
def Formatter.Leaves (f : Formatter) (formatted : Bool) (text written : String) : Prop :=
  if formatted then
    ∃ bytes, f (some (Text.utf8 text)) = some ⟨true, some bytes⟩ ∧ Text.decodeUtf8? bytes = some written
  else written = text

namespace FileSystem

variable {fs fs' after : FileSystem} {l : Location} {p : PathText} {text written : String} {s : StagedFile} {f : Formatter}

theorem formatStaged_ok_iff (hfree : fs.at? s.location = none) :
    (∃ after, (fs.set s.location (.file (Text.utf8 text))).formatStaged f s = (.ok written, after)) ↔
      f.Leaves true text written := by
  have hs : fs.HasStaged (fs.set s.location (.file (Text.utf8 text))) s.location := ⟨hfree, some _, rfl⟩
  have hcontents : (fs.set s.location (.file (Text.utf8 text))).contents? s.location = some (Text.utf8 text) :=
    contents?_leave fs hs.ne_nil (some (Text.utf8 text))
  rw [Formatter.Leaves, if_pos rfl]
  unfold formatStaged formatAt
  rw [hcontents]
  cases hrun : f (some (Text.utf8 text)) with
  | none => simp
  | some run =>
    obtain ⟨succeeded, left⟩ := run
    simp only [Option.map_some, hs.leave left]
    cases succeeded with
    | false => simp
    | true =>
      simp only [contents?_leave fs hs.ne_nil]
      cases left with
      | none => simp
      | some bytes =>
        cases hdecode : Text.decodeUtf8? bytes with
        | none => simp [hdecode]
        | some decoded => simp [hdecode]

/-- Of the sample formatters some leave a text, and the others behave badly in a way of their own. -/
example :
    let staged : StagedFile := ⟨"h/.handlergenA.rs", ["h", ".handlergenA.rs"]⟩
    let fs : FileSystem := ⟨[(staged.location, .file (Text.utf8 "mod a;\n"))], []⟩
    let left (f : Formatter) : Option String := (fs.formatStaged f staged).1.toOption
    left Sample.keepingFormatter = some "mod a;\n" ∧ left Sample.replacingFormatter = some "replaced\n" ∧
    left Sample.appendingFormatter = some "mod a;\n// formatted --edition 2021\n" ∧
    ∀ f ∈ [Sample.failingFormatter, Sample.binaryFormatter, Sample.deletingFormatter, Sample.missingFormatter],
      left f = none := by
  decide +kernel

/-- A dispatch file is written if and only if a file can be staged for it, the formatter leaves a text, and a file can be put
in its place; and then it is that text, and nothing else has changed. -/
theorem writeOutput_ok_iff {tools : Tools} {j : GenerationJob} :
    fs.writeOutput tools j p text = (.ok written, after) ↔
      (∃ s fs', fs.stage tools.marks p text = .ok (s, fs')) ∧ tools.formatter.Leaves j.formatted text written ∧
      ∃ l, fs.locateTarget p = .ok l ∧ after = fs.set l (.file (Text.utf8 written)) := by
  unfold writeOutput publishFormatted publish
  cases hstage : fs.stage tools.marks p text with
  | error e => cases j.formatted <;> simp [Except.map]
  | ok staged =>
    obtain ⟨s, fs'⟩ := staged
    obtain ⟨hfree, rfl⟩ := stage_ok hstage
    have hs : fs.HasStaged (fs.set s.location (.file (Text.utf8 text))) s.location := ⟨hfree, some _, rfl⟩
    cases hformatted : j.formatted with
    | false =>
      simp only [Formatter.Leaves, Bool.false_eq_true, if_false]
      constructor
      · intro h
        rcases settle_cases hfree p (Text.utf8 text) with ⟨e, hsettle⟩ | ⟨l, htarget, hsettle⟩
        · rw [hsettle] at h
          nomatch h
        · rw [hsettle] at h
          cases h
          exact ⟨⟨_, _, rfl⟩, rfl, l, htarget, rfl⟩
      · rintro ⟨-, rfl, l, htarget, rfl⟩
        rw [settle_ok hfree htarget]
        rfl
    | true =>
      simp only [if_true]
      constructor
      · intro h
        rcases hformat : (fs.set s.location (.file (Text.utf8 text))).formatStaged tools.formatter s with ⟨r, made⟩
        rw [hformat] at h
        cases r with
        | error e => nomatch h
        | ok formatted =>
          have hleaves := (formatStaged_ok_iff hfree).mp ⟨made, hformat⟩
          obtain ⟨-, hmade⟩ := formatStaged_keeps hs hformat
          simp only [hmade formatted rfl] at h
          rcases settle_cases hfree p (Text.utf8 formatted) with ⟨e, hsettle⟩ | ⟨l, htarget, hsettle⟩
          · simp only [hsettle] at h
            nomatch h
          · simp only [hsettle] at h
            cases h
            exact ⟨⟨_, _, rfl⟩, hleaves, l, htarget, rfl⟩
      · rintro ⟨-, hleaves, l, htarget, rfl⟩
        obtain ⟨made, hformat⟩ := (formatStaged_ok_iff hfree).mpr hleaves
        obtain ⟨-, hmade⟩ := formatStaged_keeps hs hformat
        simp only [hformat, hmade written rfl, settle_ok hfree htarget]

end FileSystem

end Switchboard
