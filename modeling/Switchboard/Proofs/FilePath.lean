import Switchboard.Project.Publication
import Switchboard.Proofs.PathFollowing

/-! # Files in the directory that a path leads to

Only the parts of a path that say something lead anywhere, so a path may be spelled in many ways. A name that is joined to
the path of a directory leads to the entry of that name there, and the directory in which a file is staged is the one in
which the file that it replaces stands, however the paths are spelled. -/

namespace Switchboard

namespace PathText

/-! ### Parts -/

theorem pieces_eq_splitOn (separator : Char) (cs : List Char) : pieces separator cs = cs.splitOn separator := by
  induction cs with
  | nil => rfl
  | cons c cs ih =>
    rw [pieces, ih, List.splitOn_cons_eq_if_modifyHead]
    simp only [beq_iff_eq]
    split
    · rfl
    · cases h : cs.splitOn separator with
      | nil => exact absurd h (List.splitOn_ne_nil separator cs)
      | cons piece rest => rfl

theorem segments_eq_splitOn (p : PathText) : p.segments = (p.toList.splitOn '/').map String.ofList := by
  rw [segments, pieces_eq_splitOn]

theorem segments_of_not_mem {p : PathText} (h : '/' ∉ p.toList) : p.segments = [p] := by
  rw [segments_eq_splitOn, List.splitOn_eq_singleton h, List.map_singleton, String.ofList_toList]

theorem segments_append_slash (p q : PathText) : segments (p ++ "/" ++ q) = p.segments ++ q.segments := by
  have characters : (p ++ "/" ++ q).toList = p.toList ++ '/' :: q.toList := by simp
  rw [segments_eq_splitOn, characters, List.splitOn_append_cons_self, List.map_append, ← segments_eq_splitOn,
    ← segments_eq_splitOn]

theorem not_mem_of_mem_splitOn {c : Char} {cs piece : List Char} (h : piece ∈ cs.splitOn c) : c ∉ piece := by
  induction cs generalizing piece with
  | nil =>
    rw [List.splitOn_nil, List.mem_singleton] at h
    simp [h]
  | cons x cs ih =>
    rw [List.splitOn_cons_eq_if_modifyHead] at h
    split at h
    · rcases List.mem_cons.mp h with rfl | h
      · exact List.not_mem_nil
      · exact ih h
    · rename_i hx
      cases hpieces : cs.splitOn c with
      | nil => exact absurd hpieces (List.splitOn_ne_nil c cs)
      | cons first rest =>
        rw [hpieces] at h ih
        rcases List.mem_cons.mp h with rfl | h
        · have hne : c ≠ x := fun h => hx (by simp [h])
          exact List.not_mem_cons_of_ne_of_not_mem hne (ih List.mem_cons_self)
        · exact ih (List.mem_cons_of_mem _ h)

theorem not_mem_of_mem_segments {p : PathText} {s : String} (h : s ∈ p.segments) : '/' ∉ s.toList := by
  rw [segments_eq_splitOn] at h
  obtain ⟨piece, hpiece, rfl⟩ := List.mem_map.mp h
  rw [String.toList_ofList]
  exact not_mem_of_mem_splitOn hpiece

theorem segments_ofSegments {parts : List String} (hne : parts ≠ []) (h : ∀ s ∈ parts, '/' ∉ s.toList) :
    (ofSegments parts).segments = parts := by
  have characters : (ofSegments parts).toList = ['/'].intercalate (parts.map String.toList) := String.toList_intercalate
  have pieces : (['/'].intercalate (parts.map String.toList)).splitOn '/' = parts.map String.toList := by
    refine List.splitOn_intercalate '/' (fun piece hpiece => ?_) (by simpa using hne)
    obtain ⟨s, hs, rfl⟩ := List.mem_map.mp hpiece
    exact h s hs
  have texts : (String.ofList ∘ String.toList : String → String) = id := funext fun _ => String.ofList_toList
  rw [segments_eq_splitOn, characters, pieces, List.map_map, texts, List.map_id]

/-- A path is absolute if its first part is empty and not the last. -/
theorem isAbsolute_iff (p : PathText) : p.isAbsolute = true ↔ ∃ s rest, p.segments = "" :: s :: rest := by
  rw [isAbsolute, segments_eq_splitOn]
  cases h : p.toList with
  | nil => simp
  | cons c cs =>
    rw [List.head?_cons, List.splitOn_cons_eq_if_modifyHead]
    by_cases hc : c = '/'
    · obtain ⟨piece, rest, hpieces⟩ := List.exists_cons_of_ne_nil (List.splitOn_ne_nil '/' cs)
      simp [hc, hpieces]
    · obtain ⟨piece, rest, hpieces⟩ := List.exists_cons_of_ne_nil (List.splitOn_ne_nil '/' cs)
      simp [hc, hpieces]

/-- The parts that say something. -/
def saying (parts : List String) : List String :=
  parts.filter fun s => decide (¬(s = "" ∨ s = "."))

theorem saying_append (parts parts' : List String) : saying (parts ++ parts') = saying parts ++ saying parts' :=
  List.filter_append ..

theorem saying_saying (parts : List String) : saying (saying parts) = saying parts := by
  simp [saying]

end PathText

open PathText

namespace FileSystem

variable {fs fs' : FileSystem}

/-! ### Following parts that say something -/

theorem advance_saying (fs : FileSystem) (here : Location) (parts : List String) :
    (∃ e, fs.advance true here (parts ++ [""]) = .error e ∧ fs.advance true here (saying parts ++ [""]) = .error e) ∨
    (∃ l, fs.advance true here (parts ++ [""]) = .ok (.done l) ∧
      fs.advance true here (saying parts ++ [""]) = .ok (.done l)) ∨
    (∃ d t rest, fs.advance true here (parts ++ [""]) = .ok (.link d t (rest ++ [""])) ∧
      fs.advance true here (saying parts ++ [""]) = .ok (.link d t (saying rest ++ [""]))) := by
  induction parts generalizing here with
  | nil => exact Or.inr (Or.inl ⟨here, advance_silent fs here, advance_silent fs here⟩)
  | cons s parts ih =>
    by_cases hsilent : s = "" ∨ s = "."
    · have hsaying : saying (s :: parts) = saying parts := List.filter_cons_of_neg (by simp [hsilent])
      rw [hsaying, List.cons_append, advance, if_pos hsilent]
      exact ih here
    · have hsaying : saying (s :: parts) = s :: saying parts := List.filter_cons_of_pos (by simp only [hsilent, not_false_iff, decide_true])
      rw [hsaying, List.cons_append, List.cons_append]
      rcases fs.advance_cons here s with ⟨next, hnext⟩ | ⟨target, hlink⟩ | ⟨⟨e, hend⟩, -⟩
      · rw [hnext fs (.refl fs), hnext fs (.refl fs)]
        exact ih next
      · rw [hlink fs (.refl fs), hlink fs (.refl fs)]
        exact Or.inr (Or.inr ⟨here, target, parts, rfl, rfl⟩)
      · rw [hend _ (by simp), hend _ (by simp)]
        exact Or.inl ⟨e, rfl, rfl⟩

/-- Where a path leads on its way to a directory depends on what it says only. -/
theorem follow_saying (fs : FileSystem) (n : Nat) (here : Location) (parts : List String) :
    fs.follow true n here (parts ++ [""]) = fs.follow true n here (saying parts ++ [""]) := by
  induction n generalizing here parts with
  | zero => rfl
  | succ n ih =>
    rw [follow, follow]
    rcases advance_saying fs here parts with ⟨e, h, h'⟩ | ⟨l, h, h'⟩ | ⟨d, t, rest, h, h'⟩
    · rw [h, h']
    · rw [h, h']
    · rw [h, h']
      simp only [← List.append_assoc]
      rw [ih, ih _ (t.segments ++ saying rest), saying_append, saying_append, saying_saying]

theorem locateParts_congr {p q : PathText} {parts parts' : List String} (habsolute : p.isAbsolute = q.isAbsolute)
    (hsaying : saying parts = saying parts') : fs.locateParts p parts = fs.locateParts q parts' := by
  rw [locateParts, locateParts, start, start, habsolute, follow_saying, hsaying, ← follow_saying]

/-! ### Directories -/

theorem advance_concat_silent {here : Location} {parts : List String} {stop : Stop}
    (h : fs.advance true here parts = .ok stop) :
    (∃ l, stop = .done l ∧ (fs.at? l = some .directory → fs.advance true here (parts ++ [""]) = .ok (.done l))) ∨
    (∃ d t rest, stop = .link d t rest ∧ fs.advance true here (parts ++ [""]) = .ok (.link d t (rest ++ [""]))) := by
  induction parts generalizing here with
  | nil =>
    rw [advance] at h
    cases h
    exact Or.inl ⟨here, rfl, fun _ => advance_silent fs here⟩
  | cons s parts ih =>
    rw [List.cons_append]
    rcases fs.advance_cons here s with ⟨next, hnext⟩ | ⟨target, hlink⟩ | ⟨⟨e, hend⟩, hlast⟩
    · rw [hnext fs (.refl fs)] at h ⊢
      exact ih h
    · rw [hlink fs (.refl fs)] at h ⊢
      cases h
      exact Or.inr ⟨here, target, parts, rfl, rfl⟩
    · cases parts with
      | nil =>
        obtain ⟨l, rfl, hl⟩ := hlast stop h
        exact Or.inl ⟨l, rfl, fun hdirectory => absurd hdirectory hl⟩
      | cons s' parts =>
        rw [hend _ (by simp)] at h
        cases h

theorem follow_concat_silent {n : Nat} {here d : Location} {parts : List String}
    (h : fs.follow true n here parts = .ok d) (hd : fs.at? d = some .directory) :
    fs.follow true n here (parts ++ [""]) = .ok d := by
  induction n generalizing here parts with
  | zero => cases h
  | succ n ih =>
    rw [follow] at h
    rw [follow]
    cases hstop : fs.advance true here parts with
    | error e =>
      rw [hstop] at h
      cases h
    | ok stop =>
      rw [hstop] at h
      rcases advance_concat_silent hstop with ⟨l, rfl, hadvance⟩ | ⟨d', t, rest, rfl, hadvance⟩
      · cases h
        rw [hadvance hd]
      · rw [hadvance]
        simp only [← List.append_assoc] at h ⊢
        exact ih h

theorem locateDirectory_ok_iff {p : PathText} {d : Location} : fs.locateDirectory p = .ok d ↔
    pathFault? p = none ∧ fs.locateParts p p.segments = .ok d ∧ fs.at? d = some .directory := by
  constructor
  · intro h
    unfold locateDirectory locate locateWith at h
    cases hfault : pathFault? p with
    | some e =>
      rw [hfault] at h
      nomatch h
    | none =>
      simp only [hfault] at h
      cases hfollow : fs.follow true (maxLinks + 1) (start fs.current p) p.segments with
      | error e =>
        rw [hfollow] at h
        nomatch h
      | ok l =>
        simp only [hfollow] at h
        split at h
        · rename_i hdirectory
          cases h
          exact ⟨rfl, follow_concat_silent hfollow hdirectory, hdirectory⟩
        · nomatch h
  · rintro ⟨hfault, hparts, hdirectory⟩
    have hfollow : fs.follow true (maxLinks + 1) (start fs.current p) (p.segments ++ []) = .ok d :=
      follow_append (KeepsWays.refl fs) rfl hparts
    rw [List.append_nil] at hfollow
    simp only [locateDirectory, locate, locateWith, hfault, hfollow, if_pos hdirectory]

theorem KeepsWays.locateDirectory_eq (keeps : fs.KeepsWays fs') {p : PathText} {d : Location}
    (h : fs.locateDirectory p = .ok d) : fs'.locateDirectory p = .ok d := by
  obtain ⟨hfault, hparts, hdirectory⟩ := locateDirectory_ok_iff.mp h
  exact locateDirectory_ok_iff.mpr
    ⟨hfault, keeps.locateParts_eq hparts, (keeps.leadsOn d (Or.inl hdirectory)).trans hdirectory⟩

/-! ### Names in a directory -/

/-- A name that an entry of a directory can have. -/
structure IsEntryName (name : String) : Prop where
  ne_empty : name ≠ ""
  ne_here : name ≠ "."
  ne_parent : name ≠ ".."
  single : '/' ∉ name.toList
  size : name.utf8ByteSize ≤ maxNameSize

theorem isEntryName_iff {name : String} : IsEntryName name ↔
    name ≠ "" ∧ name ≠ "." ∧ name ≠ ".." ∧ '/' ∉ name.toList ∧ name.utf8ByteSize ≤ maxNameSize :=
  ⟨fun h => ⟨h.ne_empty, h.ne_here, h.ne_parent, h.single, h.size⟩, fun ⟨he, hh, hp, hs, hz⟩ => ⟨he, hh, hp, hs, hz⟩⟩

instance (name : String) : Decidable (IsEntryName name) :=
  decidable_of_iff _ isEntryName_iff.symm

end FileSystem

namespace PathText

theorem isAbsolute_of_not_mem {name : String} (h : '/' ∉ name.toList) : isAbsolute name = false := by
  rw [isAbsolute, decide_eq_false_iff_not]
  intro hhead
  exact h (List.mem_of_head? hhead)

theorem segments_join (p : PathText) {name : String} (h : '/' ∉ name.toList) :
    ∃ parts, (join p name).segments = parts ++ [name] ∧ saying parts = saying p.segments := by
  rw [join, isAbsolute_of_not_mem h, if_neg Bool.false_ne_true]
  by_cases hempty : p = ""
  · subst hempty
    rw [if_pos (Or.inl rfl), String.empty_append]
    exact ⟨[], segments_of_not_mem h, by decide⟩
  · by_cases hlast : p.toList.getLast? = some '/'
    · obtain ⟨before, hbefore⟩ := List.getLast?_eq_some_iff.mp hlast
      have hp : p = String.ofList before ++ "/" ++ "" := by
        apply String.toList_inj.mp
        simp [hbefore]
      have hjoined : p ++ name = String.ofList before ++ "/" ++ name := by rw [hp, String.append_empty]
      rw [if_pos (Or.inr hlast), hjoined, segments_append_slash, segments_of_not_mem h]
      refine ⟨segments (String.ofList before), rfl, ?_⟩
      have hsegments : p.segments = segments (String.ofList before) ++ [""] := by
        rw [hp, segments_append_slash]
        rfl
      rw [hsegments, saying_append]
      exact (List.append_nil _).symm
    · rw [if_neg (not_or.mpr ⟨hempty, hlast⟩), segments_append_slash, segments_of_not_mem h]
      exact ⟨p.segments, rfl, rfl⟩

theorem isAbsolute_join (p : PathText) {name : String} (h : '/' ∉ name.toList) :
    (join p name).isAbsolute = p.isAbsolute := by
  rw [join, isAbsolute_of_not_mem h, if_neg Bool.false_ne_true]
  by_cases hempty : p = ""
  · subst hempty
    rw [if_pos (Or.inl rfl), String.empty_append, isAbsolute_of_not_mem h]
    rfl
  · obtain ⟨c, cs, hp⟩ := List.exists_cons_of_ne_nil (l := p.toList) (by simpa using hempty)
    split <;> simp [isAbsolute, hp]

end PathText

namespace FileSystem

variable {fs : FileSystem}

theorem lastPart_of_segments {p : PathText} {before : List String} {name : String} (hname : IsEntryName name)
    (h : p.segments = before ++ [name]) : lastPart p = .name before name false := by
  have hreverse : p.segments.reverse = name :: before.reverse := by rw [h, List.reverse_concat]
  have hdrop : (name :: before.reverse).dropWhile (fun x => decide (x = "")) = name :: before.reverse :=
    List.dropWhile_cons_of_neg (by simpa using hname.ne_empty)
  simp only [lastPart, hreverse, hdrop, hname.ne_here, hname.ne_parent, or_self, if_false, List.reverse_reverse,
    List.head?_cons, Option.some.injEq, hname.ne_empty, decide_false]

section

variable {name : String} (hname : IsEntryName name)
include hname

/-- A new entry that a path and a name lead to comes to the directory that the path leads to. -/
theorem locateNew_join (fs : FileSystem) (p : PathText) : fs.locateNew (join p name) =
    match pathFault? (join p name) with
    | some e => .error e
    | none => (fs.locateParts p p.segments).map (· ++ [name]) := by
  obtain ⟨parts, hsegments, hsaying⟩ := segments_join p hname.single
  have hparts : fs.locateParts (join p name) parts = fs.locateParts p p.segments :=
    locateParts_congr (isAbsolute_join p hname.single) hsaying
  rw [locateNew, lastPart_of_segments hname hsegments]
  cases pathFault? (join p name) with
  | some e => rfl
  | none =>
    simp only [hparts]
    cases fs.locateParts p p.segments with
    | error e => rfl
    | ok d =>
      simp only [if_neg (Nat.not_lt.mpr hname.size), Bool.false_eq_true, if_false]
      rfl

/-- A path and the name of a file where it leads lead to the file, unless they are too long together. -/
theorem locate_join {p : PathText} {d : Location} {bytes : List UInt8} (hp : fs.locateDirectory p = .ok d)
    (hfile : fs.at? (d ++ [name]) = some (.file bytes)) : fs.locate (join p name) =
    match pathFault? (join p name) with
    | some e => .error e
    | none => .ok (d ++ [name]) := by
  obtain ⟨-, hdirectory, -⟩ := locateDirectory_ok_iff.mp hp
  obtain ⟨parts, hsegments, hsaying⟩ := segments_join p hname.single
  have hparts : fs.locateParts (join p name) parts = .ok d :=
    (locateParts_congr (isAbsolute_join p hname.single) hsaying).trans hdirectory
  have hend : fs.advance true d [name] = .ok (.done (d ++ [name])) := by
    rw [advance_name (not_or.mpr ⟨hname.ne_empty, hname.ne_here⟩) hname.ne_parent hname.size, hfile]
    rfl
  rw [locate, locateWith]
  cases pathFault? (join p name) with
  | some e => rfl
  | none =>
    simp only [hsegments]
    exact follow_append (KeepsWays.refl fs) hend hparts

end

theorem IsEntryName.of_locateTarget {p : PathText} {l : Location} (h : fs.locateTarget p = .ok l) :
    ∃ d name, l = d ++ [name] ∧ IsEntryName name := by
  obtain ⟨before, name, d, -, hlast, -, hsize, rfl, -⟩ := locateTarget_ok_iff.mp h
  obtain ⟨hsegments, hempty, hhere, hparent⟩ := segments_of_lastPart hlast
  have hmem : name ∈ p.segments := hsegments ▸ List.mem_append_right _ List.mem_cons_self
  exact ⟨d, name, rfl, hempty, hhere, hparent, not_mem_of_mem_segments hmem, hsize⟩

end FileSystem

/-! ### Where a file is staged -/

namespace PathText

theorem dropSilent_suffix (parts : List String) : dropSilent parts <:+ parts := by
  fun_induction dropSilent parts with
  | case1 => exact List.suffix_rfl
  | case2 => exact List.nil_suffix
  | case3 => exact List.suffix_rfl
  | case4 s rest _ _ ih => exact ih.trans (List.suffix_cons s rest)
  | case5 => exact List.suffix_rfl

theorem dropSilent_ne_empty (parts : List String) : dropSilent parts ≠ [""] := by
  fun_induction dropSilent parts with
  | case1 => simp
  | case2 => simp
  | case3 s h => simpa using h
  | case4 s rest _ _ ih => exact ih
  | case5 s rest hrest _ =>
    intro h
    exact hrest (List.cons.inj h).2

theorem saying_dropSilent (parts : List String) : saying (dropSilent parts) = saying parts := by
  fun_induction dropSilent parts with
  | case1 => rfl
  | case2 => rfl
  | case3 => rfl
  | case4 s rest _ h ih =>
    have hsilent : s = "" ∨ s = "." := by
      unfold Component.ofSegment? at h
      split at h
      · assumption
      · split at h <;> nomatch h
    rw [ih]
    exact (List.filter_cons_of_neg (by simp [hsilent])).symm
  | case5 => rfl

theorem saying_reverse (parts : List String) : saying parts.reverse = (saying parts).reverse :=
  List.filter_reverse

end PathText

open FileSystem

/-- A file is staged in the directory of the file that it replaces, however its path is spelled. -/
theorem stagingDirectory_of_lastPart {p : PathText} {before : List String} {name : String}
    (h : lastPart p = .name before name false) :
    (stagingDirectory p).isAbsolute = p.isAbsolute ∧ saying (stagingDirectory p).segments = saying before := by
  obtain ⟨hsegments, hempty, hhere, hparent⟩ := segments_of_lastPart h
  have single : ∀ s ∈ before, '/' ∉ s.toList := fun s hs =>
    not_mem_of_mem_segments (hsegments ▸ List.mem_append_left _ hs)
  have hdrop : dropSilent p.segments.reverse = name :: before.reverse := by
    rw [hsegments, List.reverse_concat]
    cases before.reverse with
    | nil => simp [dropSilent, hempty]
    | cons s rest => simp [dropSilent, Component.ofSegment?, hempty, hhere, hparent]
  have habsolute : p.isAbsolute = true ↔ ∃ rest, before = "" :: rest := by
    rw [isAbsolute_iff, hsegments]
    cases before with
    | nil => simp
    | cons s rest =>
      obtain ⟨s', rest', hrest⟩ := List.exists_cons_of_ne_nil (l := rest ++ [name]) (by simp)
      simp [hrest]
  rw [stagingDirectory, parent?, hdrop]
  simp only
  cases hkept : dropSilent before.reverse with
  | nil =>
    have silent : saying before = [] := by
      have := saying_dropSilent before.reverse
      rw [hkept, saying_reverse] at this
      exact List.reverse_eq_nil_iff.mp this.symm
    rw [silent]
    cases p.isAbsolute <;> decide
  | cons last kept =>
    obtain ⟨dropped, hdropped⟩ := dropSilent_suffix before.reverse
    rw [hkept] at hdropped
    have hbefore : before = (last :: kept).reverse ++ dropped.reverse := by
      rw [← List.reverse_append, hdropped, List.reverse_reverse]
    have hround : (ofSegments (last :: kept).reverse).segments = (last :: kept).reverse := by
      refine segments_ofSegments (by simp) fun s hs => single s ?_
      rw [hbefore]
      exact List.mem_append_left _ hs
    have hsaying : saying (last :: kept).reverse = saying before := by
      rw [saying_reverse, ← hkept, saying_dropSilent, saying_reverse, List.reverse_reverse]
    have hsilent : (last :: kept).reverse ≠ [""] := by
      intro hempty
      have hlast : last :: kept = [""] := by rw [← List.reverse_reverse (last :: kept), hempty, List.reverse_singleton]
      exact dropSilent_ne_empty _ (hkept.trans hlast)
    have hne : ofSegments (last :: kept).reverse ≠ "" := by
      intro hempty
      rw [hempty] at hround
      exact hsilent hround.symm
    simp only [if_neg hne, hround, hsaying, and_true]
    rw [Bool.eq_iff_iff, habsolute, isAbsolute_iff, hround, hbefore]
    match hparts : (last :: kept).reverse with
    | [] => simp at hparts
    | [first] =>
      have hfirst : first ≠ "" := fun h => hsilent (by rw [hparts, h])
      simp [hfirst]
    | first :: second :: rest => simp

namespace FileSystem

/-- The contents that replace a file come to its directory, under any name that an entry can have. -/
theorem locateNew_staged {fs : FileSystem} {p : PathText} {before : List String} {name staged : String}
    (hlast : lastPart p = .name before name false) (hstaged : IsEntryName staged) :
    fs.locateNew (join (stagingDirectory p) staged) =
      match pathFault? (join (stagingDirectory p) staged) with
      | some e => .error e
      | none => (fs.locateParts p before).map (· ++ [staged]) := by
  obtain ⟨habsolute, hsaying⟩ := stagingDirectory_of_lastPart hlast
  rw [locateNew_join hstaged, locateParts_congr habsolute hsaying]

end FileSystem

end Switchboard
