import Switchboard.Dispatch.ImportTable

/-! # The names of a written path

A written path is a text whose names stand between `::`. `pathNames` takes a text apart, and as long as no name has
a colon in it that undoes `ModulePath.render`. An absolute path starts with `::`, so its first name is empty.

The last name of a path is the one by which an import of the path goes; it is read off the same way. -/

namespace Switchboard

/-! ### Taking a text apart -/

/-- What stands between the `::` of a text. -/
def splitAtColons : List Char → List (List Char)
  | [] => [[]]
  | ':' :: ':' :: rest => [] :: splitAtColons rest
  | c :: rest => (splitAtColons rest).modifyHead (c :: ·)

/-- The names of a written path. -/
def pathNames (text : String) : List String :=
  (splitAtColons text.toList).map String.ofList

theorem splitAtColons_cons {c : Char} (h : c ≠ ':') (rest : List Char) :
    splitAtColons (c :: rest) = (splitAtColons rest).modifyHead (c :: ·) := by
  rw [splitAtColons]
  intro _ hc
  exact absurd hc h

theorem splitAtColons_of_not_mem {w : List Char} (h : ':' ∉ w) : splitAtColons w = [w] := by
  induction w with
  | nil => rfl
  | cons c w ih =>
    rw [List.mem_cons, not_or] at h
    rw [splitAtColons_cons (Ne.symm h.1), ih h.2]
    rfl

theorem splitAtColons_append {w : List Char} (h : ':' ∉ w) (rest : List Char) :
    splitAtColons (w ++ ':' :: ':' :: rest) = w :: splitAtColons rest := by
  induction w with
  | nil => rfl
  | cons c w ih =>
    rw [List.mem_cons, not_or] at h
    rw [List.cons_append, splitAtColons_cons (Ne.symm h.1), ih h.2]
    rfl

theorem pathNames_of_not_mem {name : String} (h : ':' ∉ name.toList) : pathNames name = [name] := by
  rw [pathNames, splitAtColons_of_not_mem h]
  simp

theorem pathNames_append {name : String} (h : ':' ∉ name.toList) (text : String) :
    pathNames (name ++ "::" ++ text) = name :: pathNames text := by
  have split : (name ++ "::" ++ text).toList = name.toList ++ ':' :: ':' :: text.toList := by simp
  rw [pathNames, split, splitAtColons_append h]
  simp [pathNames]

/-! ### Writing names out -/

namespace ModulePath

theorem render_cons {n : String} {m : ModulePath} (h : m ≠ []) : render (n :: m) = n ++ "::" ++ render m :=
  String.intercalate_cons_of_ne_nil h

theorem render_concat {m : ModulePath} (h : m ≠ []) (n : String) : render (m ++ [n]) = render m ++ "::" ++ n := by
  rw [render, String.intercalate_append_of_ne_nil h (by simp), String.intercalate_singleton]
  rfl

theorem not_mem_render {m : ModulePath} {c : Char} (hc : c ≠ ':') (h : ∀ n ∈ m, c ∉ n.toList) :
    c ∉ m.render.toList := by
  induction m with
  | nil => simp [render, String.intercalate_nil]
  | cons n m ih =>
    by_cases hm : m = []
    · subst hm
      rw [render, String.intercalate_singleton]
      exact h n List.mem_cons_self
    · rw [render_cons hm]
      have hn := h n List.mem_cons_self
      have hrest := ih fun x hx => h x (List.mem_cons_of_mem _ hx)
      simp [hn, hrest, hc]

/-- Names without colons are read back from the path that they make. -/
theorem pathNames_render {m : ModulePath} (hm : m ≠ []) (h : ∀ n ∈ m, ':' ∉ n.toList) : pathNames m.render = m := by
  induction m with
  | nil => exact absurd rfl hm
  | cons n m ih =>
    have hn : ':' ∉ n.toList := h n List.mem_cons_self
    cases m with
    | nil => rw [render, String.intercalate_singleton, pathNames_of_not_mem hn]
    | cons n' m =>
      rw [render_cons (by simp), pathNames_append hn, ih (by simp) fun x hx => h x (List.mem_cons_of_mem _ hx)]

/-- The same with one more name behind the path. -/
theorem pathNames_render_append {m : ModulePath} (hm : m ≠ []) (h : ∀ n ∈ m, ':' ∉ n.toList) {name : String}
    (hname : ':' ∉ name.toList) : pathNames (m.render ++ "::" ++ name) = m ++ [name] := by
  rw [← render_concat hm]
  refine pathNames_render (by simp) fun n hn => ?_
  rcases List.mem_append.mp hn with hn | hn
  · exact h n hn
  · rw [List.mem_singleton.mp hn]
    exact hname

end ModulePath

/-! ### The last name -/

theorem charsAfterLastColons?_cons_of_some {cs w : List Char} (h : charsAfterLastColons? cs = some w) (c : Char) :
    charsAfterLastColons? (c :: cs) = some w := by
  unfold charsAfterLastColons?
  simp only [h]

/-- Characters that do not start with a colon have none of the `::` begin right before them. -/
theorem charsAfterLastColons?_cons_of_none {cs : List Char} (h : charsAfterLastColons? cs = none)
    (hcs : cs.head? ≠ some ':') (c : Char) : charsAfterLastColons? (c :: cs) = none := by
  unfold charsAfterLastColons?
  simp only [h]
  split
  · exact absurd rfl hcs
  · rfl

theorem charsAfterLastColons?_of_not_mem {w : List Char} (h : ':' ∉ w) : charsAfterLastColons? w = none := by
  induction w with
  | nil => rfl
  | cons c w ih =>
    rw [List.mem_cons, not_or] at h
    exact charsAfterLastColons?_cons_of_none (ih h.2) (fun e => h.2 (List.mem_of_head? e)) c

theorem charsAfterLastColons?_append {w : List Char} (h : ':' ∉ w) (x : List Char) :
    charsAfterLastColons? (x ++ ':' :: ':' :: w) = some w := by
  induction x with
  | nil =>
    have second : charsAfterLastColons? (':' :: w) = none :=
      charsAfterLastColons?_cons_of_none (charsAfterLastColons?_of_not_mem h) (fun e => h (List.mem_of_head? e)) ':'
    rw [List.nil_append]
    unfold charsAfterLastColons?
    simp only [second]
  | cons c x ih => exact charsAfterLastColons?_cons_of_some ih c

theorem lastName_of_not_mem {name : String} (h : ':' ∉ name.toList) : lastName name = name := by
  rw [lastName, charsAfterLastColons?_of_not_mem h]

theorem lastName_append {name : String} (h : ':' ∉ name.toList) (text : String) :
    lastName (text ++ "::" ++ name) = name := by
  have split : (text ++ "::" ++ name).toList = text.toList ++ ':' :: ':' :: name.toList := by simp
  rw [lastName, split, charsAfterLastColons?_append h]
  exact String.ofList_toList

theorem lastName_render_concat (m : ModulePath) {name : String} (h : ':' ∉ name.toList) :
    lastName (ModulePath.render (m ++ [name])) = name := by
  by_cases hm : m = []
  · rw [hm, List.nil_append, ModulePath.render, String.intercalate_singleton, lastName_of_not_mem h]
  · rw [ModulePath.render_concat hm, lastName_append h]

theorem charsAfterLastColons?_subset {cs w : List Char} (h : charsAfterLastColons? cs = some w) : w ⊆ cs := by
  induction cs generalizing w with
  | nil => simp [charsAfterLastColons?] at h
  | cons c cs ih =>
    unfold charsAfterLastColons? at h
    split at h
    · rename_i w' hw'
      rw [Option.some.injEq] at h
      exact h ▸ List.Subset.trans (ih hw') (List.subset_cons_self _ _)
    · split at h
      · rename_i rest _
        rw [Option.some.injEq] at h
        exact h ▸ List.Subset.trans (List.subset_cons_self _ rest) (List.subset_cons_self _ _)
      · simp at h

theorem lastName_subset (path : String) : (lastName path).toList ⊆ path.toList := by
  rw [lastName]
  split
  · rename_i rest h
    rw [String.toList_ofList]
    exact charsAfterLastColons?_subset h
  · exact List.Subset.refl _

/-! ### Paths without the leading `::` -/

theorem relativePathText_of_head {text : String} (h : text.toList.head? ≠ some ':') : relativePathText text = text := by
  rw [relativePathText]
  unfold withoutLeadingColons
  split
  · rename_i rest hrest
    rw [hrest] at h
    exact absurd rfl h
  · exact String.ofList_toList

theorem relativePathText_absolute (text : String) : relativePathText ("::" ++ text) = relativePathText text := by
  have split : ("::" ++ text).toList = ':' :: ':' :: text.toList := by simp
  rw [relativePathText, split, withoutLeadingColons, relativePathText]

/-! ### Names -/

/-- A text that can be a name in a path: not empty, with neither colons nor blanks. -/
structure IsName (name : String) : Prop where
  ne_empty : name ≠ ""
  colon : ':' ∉ name.toList
  blank : ' ' ∉ name.toList

instance (name : String) : Decidable (IsName name) :=
  decidable_of_iff (name ≠ "" ∧ ':' ∉ name.toList ∧ ' ' ∉ name.toList)
    ⟨fun h => ⟨h.1, h.2.1, h.2.2⟩, fun h => ⟨h.ne_empty, h.colon, h.blank⟩⟩

theorem IsName.head_ne {name : String} (h : IsName name) (text : String) :
    (name ++ text).toList.head? ≠ some ':' := by
  rw [String.toList_append]
  cases hc : name.toList with
  | nil => exact absurd (String.toList_eq_nil_iff.mp hc) h.ne_empty
  | cons c cs =>
    intro e
    rw [List.cons_append, List.head?_cons, Option.some.injEq] at e
    exact h.colon (by rw [hc, e]; exact List.mem_cons_self)

end Switchboard
