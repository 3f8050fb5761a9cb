import Switchboard.Files.Change

/-! # Paths in a file system that changes at one location

A path goes on behind directories and links only. So a change at a location where neither of them stood moves nothing
that was reached through it: where a path led to a directory it still does, and where it leads to the location itself
it finds what is there now. -/

namespace Switchboard.FileSystem

/-- Two file systems are the same but for what stands at a location. -/
structure AgreesBut (fs fs' : FileSystem) (k : Location) : Prop where
  current : fs'.current = fs.current
  others : ∀ m, m ≠ k → fs'.at? m = fs.at? m

/-- What stands at a location lets a path go on. -/
def LeadsOn (fs : FileSystem) (k : Location) : Prop :=
  fs.at? k = some .directory ∨ ∃ target, fs.at? k = some (.link target)

section

variable {fs fs' : FileSystem} {k : Location}

theorem agreesBut_set (hk : k ≠ []) (e : Entry) : fs.AgreesBut (fs.set k e) k :=
  ⟨rfl, fun m hm => by rw [at?_set fs hk, if_neg hm]⟩

theorem AgreesBut.symm (agree : fs.AgreesBut fs' k) : fs'.AgreesBut fs k :=
  ⟨agree.current.symm, fun m hm => (agree.others m hm).symm⟩

/-- What lets a path go on in one file system is the same in another. -/
structure KeepsWays (fs fs' : FileSystem) : Prop where
  current : fs'.current = fs.current
  leadsOn : ∀ m, fs.LeadsOn m → fs'.at? m = fs.at? m

theorem KeepsWays.refl (fs : FileSystem) : fs.KeepsWays fs :=
  ⟨rfl, fun _ _ => rfl⟩

theorem AgreesBut.keepsWays (agree : fs.AgreesBut fs' k) (hk : ¬fs.LeadsOn k) : fs.KeepsWays fs' :=
  ⟨agree.current, fun m hm => agree.others m fun h => hk (h ▸ hm)⟩

/-! ### Following -/

theorem advance_silent (fs : FileSystem) (here : Location) : fs.advance true here [""] = .ok (.done here) := by
  simp [advance]

theorem advance_name {s : String} (hsilent : ¬(s = "" ∨ s = ".")) (hup : s ≠ "..") (hsize : s.utf8ByteSize ≤ maxNameSize)
    (fs : FileSystem) (here : Location) (rest : List String) : fs.advance true here (s :: rest) =
      match fs.at? (here ++ [s]) with
      | none => .error .missing
      | some (.file _) => if rest = [] then .ok (.done (here ++ [s])) else .error .notDirectory
      | some .directory => fs.advance true (here ++ [s]) rest
      | some (.link target) => .ok (.link here target rest) := by
  rw [advance, if_neg hsilent, if_neg hup, if_neg (Nat.not_lt.mpr hsize)]
  cases fs.at? (here ++ [s]) with
  | none => rfl
  | some entry =>
    cases entry with
    | link target => simp
    | _ => rfl

/-- At each of its parts a path goes on from some directory, stops at a link, or can only end. -/
theorem advance_cons (fs : FileSystem) (here : Location) (s : String) :
    (∃ next, ∀ fs', fs.KeepsWays fs' → ∀ rest, fs'.advance true here (s :: rest) = fs'.advance true next rest) ∨
    (∃ target, ∀ fs', fs.KeepsWays fs' → ∀ rest, fs'.advance true here (s :: rest) = .ok (.link here target rest)) ∨
    ((∃ e, ∀ rest, rest ≠ [] → fs.advance true here (s :: rest) = .error e) ∧
      ∀ stop, fs.advance true here [s] = .ok stop → ∃ l, stop = .done l ∧ fs.at? l ≠ some .directory) := by
  by_cases hsilent : s = "" ∨ s = "."
  · exact Or.inl ⟨here, fun fs' _ rest => by rw [advance, if_pos hsilent]⟩
  · by_cases hup : s = ".."
    · exact Or.inl ⟨here.dropLast, fun fs' _ rest => by rw [advance, if_neg hsilent, if_pos hup]⟩
    · by_cases hsize : s.utf8ByteSize > maxNameSize
      · have hlong : ∀ rest, fs.advance true here (s :: rest) = .error .nameTooLong := fun rest => by
          rw [advance, if_neg hsilent, if_neg hup, if_pos hsize]
        refine Or.inr (Or.inr ⟨⟨_, fun rest _ => hlong rest⟩, fun stop h => ?_⟩)
        rw [hlong] at h
        nomatch h
      · have hnamed := advance_name hsilent hup (Nat.not_lt.mp hsize)
        cases hat : fs.at? (here ++ [s]) with
        | none =>
          refine Or.inr (Or.inr ⟨⟨.missing, fun rest _ => by rw [hnamed, hat]⟩, fun stop h => ?_⟩)
          rw [hnamed, hat] at h
          nomatch h
        | some entry =>
          cases entry with
          | file contents =>
            refine Or.inr (Or.inr ⟨⟨.notDirectory, fun rest hrest => by simp only [hnamed, hat, if_neg hrest]⟩, fun stop h => ?_⟩)
            simp only [hnamed, hat, if_true] at h
            exact ⟨here ++ [s], (Except.ok.inj h).symm, by simp [hat]⟩
          | directory =>
            refine Or.inl ⟨here ++ [s], fun fs' keeps rest => ?_⟩
            rw [hnamed, keeps.leadsOn _ (Or.inl hat), hat]
          | link target =>
            refine Or.inr (Or.inl ⟨target, fun fs' keeps rest => ?_⟩)
            rw [hnamed, keeps.leadsOn _ (Or.inr ⟨target, hat⟩), hat]

/-- Where a path stops on its way to a directory, so it does with other parts in place of the silent one. -/
theorem advance_append (keeps : fs.KeepsWays fs') {tail : List String}
    {here : Location} {parts : List String} {stop : Stop} (h : fs.advance true here (parts ++ [""]) = .ok stop) :
    (∃ l, stop = .done l ∧ fs'.advance true here (parts ++ tail) = fs'.advance true l tail) ∨
    (∃ d t rest, stop = .link d t (rest ++ [""]) ∧
      fs'.advance true here (parts ++ tail) = .ok (.link d t (rest ++ tail))) := by
  induction parts generalizing here with
  | nil =>
    rw [List.nil_append, advance_silent] at h
    cases h
    exact Or.inl ⟨here, rfl, rfl⟩
  | cons s parts ih =>
    rw [List.cons_append] at h ⊢
    rcases fs.advance_cons here s with ⟨next, hnext⟩ | ⟨target, hlink⟩ | ⟨⟨e, hend⟩, -⟩
    · rw [hnext fs (.refl fs)] at h
      rw [hnext fs' keeps]
      exact ih h
    · rw [hlink fs (.refl fs)] at h
      rw [hlink fs' keeps]
      cases h
      exact Or.inr ⟨here, target, parts, rfl, rfl⟩
    · rw [hend _ (by simp)] at h
      nomatch h

/-- A path that leads to a directory leads on from there. -/
theorem follow_append (keeps : fs.KeepsWays fs') {tail : List String}
    {l l' : Location} (hend : fs'.advance true l tail = .ok (.done l')) {n : Nat} {here : Location}
    {parts : List String} (h : fs.follow true n here (parts ++ [""]) = .ok l) :
    fs'.follow true n here (parts ++ tail) = .ok l' := by
  induction n generalizing here parts with
  | zero => nomatch h
  | succ n ih =>
    rw [follow] at h
    rw [follow]
    cases hstop : fs.advance true here (parts ++ [""]) with
    | error e =>
      rw [hstop] at h
      nomatch h
    | ok stop =>
      rw [hstop] at h
      rcases advance_append keeps hstop with ⟨d, rfl, hadvance⟩ | ⟨d, t, rest, rfl, hadvance⟩
      · cases h
        rw [hadvance, hend]
      · rw [hadvance]
        simp only [← List.append_assoc] at h ⊢
        exact ih h

theorem KeepsWays.locateParts_eq (keeps : fs.KeepsWays fs') {p : PathText} {parts : List String} {d : Location}
    (h : fs.locateParts p parts = .ok d) : fs'.locateParts p parts = .ok d := by
  rw [locateParts, keeps.current]
  exact follow_append keeps (advance_silent fs' d) h

/-! ### Where a path puts a file -/

theorem segments_of_lastPart {p : PathText} {before : List String} {name : String}
    (h : lastPart p = .name before name false) :
    p.segments = before ++ [name] ∧ name ≠ "" ∧ name ≠ "." ∧ name ≠ ".." := by
  unfold lastPart at h
  cases hparts : p.segments.reverse with
  | nil =>
    rw [hparts] at h
    nomatch h
  | cons s parts =>
    rw [hparts] at h
    have hsegments : p.segments = parts.reverse ++ [s] := by
      rw [← List.reverse_reverse p.segments, hparts, List.reverse_cons]
    by_cases hs : s = ""
    · -- A silent last part is a slash at the end.
      subst hs
      simp only [List.head?_cons, decide_true] at h
      split at h
      · nomatch h
      · split at h <;> nomatch h
    · have hdrop : (s :: parts).dropWhile (fun x => decide (x = "")) = s :: parts := by simp [hs]
      simp only [hdrop] at h
      split at h
      · nomatch h
      · rename_i hdots
        rw [not_or] at hdots
        obtain ⟨rfl, rfl, -⟩ := LastPart.name.inj h
        exact ⟨hsegments, hs, hdots.1, hdots.2⟩

theorem locateTarget_ok_iff {p : PathText} {l : Location} :
    fs.locateTarget p = .ok l ↔ ∃ before name d, pathFault? p = none ∧ lastPart p = .name before name false ∧
      fs.locateParts p before = .ok d ∧ name.utf8ByteSize ≤ maxNameSize ∧ l = d ++ [name] ∧
      fs.at? l ≠ some .directory := by
  constructor
  · intro h
    unfold locateTarget at h
    split at h
    · nomatch h
    · rename_i hfault
      split at h
      · nomatch h
      · rename_i before name slashed hlast
        split at h
        · nomatch h
        · rename_i d hparts
          split at h
          · nomatch h
          · rename_i hsize
            split at h
            · nomatch h
            · rename_i hslashed
              split at h
              · nomatch h
              · rename_i hdirectory
                cases h
                rw [Bool.not_eq_true] at hslashed
                subst hslashed
                exact ⟨before, name, d, hfault, hlast, hparts, by omega, rfl, hdirectory⟩
  · rintro ⟨before, name, d, hfault, hlast, hparts, hsize, rfl, hdirectory⟩
    simp only [locateTarget, hfault, hlast, hparts, if_neg (Nat.not_lt.mpr hsize), Bool.false_eq_true, if_false,
      if_neg hdirectory]

theorem ne_nil_of_locateTarget {p : PathText} {l : Location} (h : fs.locateTarget p = .ok l) : l ≠ [] := by
  obtain ⟨before, name, d, -, -, -, -, rfl, -⟩ := locateTarget_ok_iff.mp h
  simp

theorem locateTarget_eq_of_agreesBut (agree : fs.AgreesBut fs' k) (hk : ¬fs.LeadsOn k)
    (hk' : ¬fs'.LeadsOn k) {p : PathText} {l : Location} (h : fs.locateTarget p = .ok l) :
    fs'.locateTarget p = .ok l := by
  obtain ⟨before, name, d, hfault, hlast, hparts, hsize, rfl, hdirectory⟩ := locateTarget_ok_iff.mp h
  refine locateTarget_ok_iff.mpr
    ⟨before, name, d, hfault, hlast, (agree.keepsWays hk).locateParts_eq hparts, hsize, rfl, fun hdirectory' => ?_⟩
  by_cases htarget : d ++ [name] = k
  · exact hk' (Or.inl (htarget ▸ hdirectory'))
  · rw [agree.others _ htarget] at hdirectory'
    exact hdirectory hdirectory'

/-- A file that has come to stand where a path put it is found by the path. -/
theorem read_of_locateTarget {p : PathText} {bytes : List UInt8} (h : fs.locateTarget p = .ok k)
    (agree : fs.AgreesBut fs' k) (hk : ¬fs.LeadsOn k) (hfile : fs'.at? k = some (.file bytes)) :
    fs'.read p = .ok bytes := by
  obtain ⟨before, name, d, hfault, hlast, hparts, hsize, rfl, -⟩ := locateTarget_ok_iff.mp h
  obtain ⟨hsegments, hname, hdot, hdots⟩ := segments_of_lastPart hlast
  have hend : fs'.advance true d [name] = .ok (.done (d ++ [name])) := by
    rw [advance_name (not_or.mpr ⟨hname, hdot⟩) hdots hsize, hfile]
    rfl
  have hlocate : fs'.locate p = .ok (d ++ [name]) := by
    rw [locate, locateWith, hfault, agree.current, hsegments]
    exact follow_append (agree.keepsWays hk) hend hparts
  rw [read, hlocate]
  simp only [hfile]

end

end Switchboard.FileSystem
