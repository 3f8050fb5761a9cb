import Mathlib.Data.List.Nodup
import Switchboard.Dispatch.ImportTable

/-! # Fresh names

A taken base is given the least number that makes it free. Numbers are told apart by their digits, so the base and its
numbered names are all distinct (`numberedName_injective`), and among more names than are taken one is free
(`exists_numberedName_not_mem`). This holds whatever the taken names look like, also if some of them end in a number.

The bound is what lets `freshName` look among finitely many numbers. A search that tries one number after another knows no
bound (`Finds`); it ends all the same, with the same name (`finds_iff`). -/

namespace Switchboard

/-! ### Numbered names -/

theorem numberedName_injective (base : String) : Function.Injective (numberedName base) := by
  intro j k h
  rw [numberedName, numberedName, String.append_right_inj] at h
  have digits : Nat.toDigits 10 j = Nat.toDigits 10 k := by
    rwa [Nat.toString_eq_ofList_toDigits, Nat.toString_eq_ofList_toDigits, String.ofList_inj] at h
  have values := congrArg (fun ds => Nat.ofDigitChars 10 ds 0) digits
  simpa only [Nat.ofDigitChars_ten_toDigits] using values

theorem numberedName_ne (base : String) (k : Nat) : numberedName base k ≠ base := by
  intro h
  have lengths := congrArg (fun s : String => s.toList.length) h
  simp [numberedName] at lengths

/-- Of the numbers up to that of the taken names, one makes a taken name free. -/
theorem exists_numberedName_not_mem {taken : List String} {base : String} (h : base ∈ taken) :
    ∃ i < taken.length, numberedName base (i + 1) ∉ taken := by
  by_contra hall
  have all : ∀ i < taken.length, numberedName base (i + 1) ∈ taken := fun i hi =>
    Decidable.not_not.mp fun hn => hall ⟨i, hi, hn⟩
  -- Otherwise the base and its numbered names were more distinct names than are taken.
  let numbered := (List.range taken.length).map fun i => numberedName base (i + 1)
  have nodup : (base :: numbered).Nodup := by
    refine List.nodup_cons.mpr ⟨fun hb => ?_, ?_⟩
    · obtain ⟨i, -, hi⟩ := List.mem_map.mp hb
      exact numberedName_ne base (i + 1) hi
    · exact List.nodup_range.map fun i j hij => Nat.succ.inj (numberedName_injective base hij)
  have subset : base :: numbered ⊆ taken := by
    intro x hx
    rcases List.mem_cons.mp hx with rfl | hx
    · exact h
    · obtain ⟨i, hi, rfl⟩ := List.mem_map.mp hx
      exact all i (List.mem_range.mp hi)
  have := nodup.length_le_of_subset subset
  simp only [numbered, List.length_cons, List.length_map, List.length_range] at this
  omega

/-! ### The least number -/

theorem freshName_of_not_mem {taken : List String} {base : String} (h : base ∉ taken) : freshName taken base = base := by
  simp [freshName, h]

/-- A taken base is given the least number that makes it free. -/
theorem freshName_of_mem {taken : List String} {base : String} (h : base ∈ taken) :
    ∃ k, 1 ≤ k ∧ k ≤ taken.length ∧ freshName taken base = numberedName base k ∧ numberedName base k ∉ taken ∧
      ∀ j, 1 ≤ j → j < k → numberedName base j ∈ taken := by
  obtain ⟨i₀, hi₀, hfree₀⟩ := exists_numberedName_not_mem h
  cases hfind : (List.range taken.length).find? fun i => !taken.contains (numberedName base (i + 1)) with
  | none =>
    have := List.find?_eq_none.mp hfind i₀ (List.mem_range.mpr hi₀)
    simp [hfree₀] at this
  | some i =>
    obtain ⟨hfree, hi, hleast⟩ := List.find?_range_eq_some.mp hfind
    refine ⟨i + 1, by omega, List.mem_range.mp hi, ?_, by simpa using hfree, fun j hj hjk => ?_⟩
    · have hcontains : taken.contains base = true := by simpa using h
      have hcomp : ((fun k => !taken.contains (numberedName base k)) ∘ fun i => i + 1) =
          fun i => !taken.contains (numberedName base (i + 1)) := rfl
      simp only [freshName, hcontains, ↓reduceIte, List.find?_map, hcomp, hfind, Option.map_some]
    · have := hleast (j - 1) (by omega)
      rw [Nat.sub_add_cancel hj] at this
      simpa using this

theorem freshName_not_mem (taken : List String) (base : String) : freshName taken base ∉ taken := by
  by_cases h : base ∈ taken
  · obtain ⟨k, -, -, he, hfree, -⟩ := freshName_of_mem h
    rw [he]
    exact hfree
  · rw [freshName_of_not_mem h]
    exact h

/-- A name that is no base with a number is a fresh name only of itself, as long as it is free. -/
theorem freshName_eq_iff {taken : List String} {base root : String} (hroot : ∀ k, root ≠ numberedName base k) :
    freshName taken base = root ↔ base = root ∧ root ∉ taken := by
  by_cases htaken : base ∈ taken
  · obtain ⟨k, -, -, he, -⟩ := freshName_of_mem htaken
    refine ⟨fun h => absurd (h.symm.trans he) (hroot k), ?_⟩
    rintro ⟨rfl, hfree⟩
    exact absurd htaken hfree
  · rw [freshName_of_not_mem htaken]
    refine ⟨?_, And.left⟩
    rintro rfl
    exact ⟨rfl, htaken⟩

/-! ### Trying one number after another -/

/-- A search that has come to a number ends with a name: a free name ends it, and behind a taken one the next number is
tried. A search that went on forever would have no derivation. -/
inductive FindsFrom (taken : List String) (base : String) : Nat → String → Prop
  | free {number : Nat} (h : numberedName base number ∉ taken) :
    FindsFrom taken base number (numberedName base number)
  | next {number : Nat} {name : String} (h : numberedName base number ∈ taken)
    (rest : FindsFrom taken base (number + 1) name) : FindsFrom taken base number name

/-- A search for a free name ends with a name: the base is tried by itself, then with the numbers from one on. -/
inductive Finds (taken : List String) (base : String) : String → Prop
  | base (h : base ∉ taken) : Finds taken base base
  | numbered {name : String} (h : base ∈ taken) (rest : FindsFrom taken base 1 name) : Finds taken base name

variable {taken : List String} {base name : String}

/-- The search from a number on ends at the least number that is not below it and makes the base free. -/
theorem findsFrom_iff {number : Nat} : FindsFrom taken base number name ↔
    ∃ k, number ≤ k ∧ name = numberedName base k ∧ numberedName base k ∉ taken ∧
      ∀ j, number ≤ j → j < k → numberedName base j ∈ taken := by
  constructor
  · intro h
    induction h with
    | free hfree => exact ⟨_, Nat.le_refl _, rfl, hfree, fun j hj hlt => absurd hlt (Nat.not_lt.mpr hj)⟩
    | @next number name htaken _ ih =>
      obtain ⟨k, hk, hname, hfree, hleast⟩ := ih
      refine ⟨k, Nat.le_of_succ_le hk, hname, hfree, fun j hj hlt => ?_⟩
      rcases Nat.eq_or_lt_of_le hj with rfl | hj
      · exact htaken
      · exact hleast j hj hlt
  · rintro ⟨k, hk, rfl, hfree, hleast⟩
    -- On the distance to the end; each step to the next number makes it less by one.
    obtain ⟨distance, rfl⟩ := Nat.exists_eq_add_of_le hk
    clear hk
    induction distance generalizing number with
    | zero => exact .free hfree
    | succ distance ih =>
      have hstep : number + (distance + 1) = number + 1 + distance := by omega
      rw [hstep] at hfree hleast ⊢
      refine .next (hleast number (Nat.le_refl _) (by omega)) (ih hfree fun j hj hlt => ?_)
      exact hleast j (Nat.le_of_succ_le hj) hlt

/-- The search always ends, and only with the name that `freshName` gives. -/
theorem finds_iff : Finds taken base name ↔ name = freshName taken base := by
  constructor
  · rintro (hfree | ⟨htaken, hrest⟩)
    · exact (freshName_of_not_mem hfree).symm
    · obtain ⟨k, hk, rfl, hfree, hleast⟩ := findsFrom_iff.mp hrest
      obtain ⟨k', hk', -, heq, hfree', hleast'⟩ := freshName_of_mem htaken
      rw [heq]
      rcases Nat.lt_trichotomy k k' with hlt | rfl | hlt
      · exact absurd (hleast' k hk hlt) hfree
      · rfl
      · exact absurd (hleast k' hk' hlt) hfree'
  · rintro rfl
    by_cases htaken : base ∈ taken
    · obtain ⟨k, hk, -, heq, hfree, hleast⟩ := freshName_of_mem htaken
      exact .numbered htaken (findsFrom_iff.mpr ⟨k, hk, heq, hfree, hleast⟩)
    · rw [freshName_of_not_mem htaken]
      exact .base htaken

/-- In every table the search for an alias ends, with one name and no other, which no import has as its alias: the base itself
if it is free, and else the base with the least number from one on that makes it free, which is at most the number of
imports. -/
theorem ImportTable.exists_found_alias (t : ImportTable) (base : String) :
    ∃ name, (∀ found, Finds t.aliases base found ↔ found = name) ∧ freshName t.aliases base = name ∧ name ∉ t.aliases ∧
      (base ∉ t.aliases → name = base) ∧
      (base ∈ t.aliases → ∃ k, 1 ≤ k ∧ k ≤ t.size ∧ name = numberedName base k ∧
        ∀ j, 1 ≤ j → j < k → numberedName base j ∈ t.aliases) := by
  refine ⟨freshName t.aliases base, fun found => finds_iff, rfl, freshName_not_mem _ _, freshName_of_not_mem, fun htaken => ?_⟩
  obtain ⟨k, hone, hk, heq, -, hleast⟩ := freshName_of_mem htaken
  rw [ImportTable.aliases, List.length_map] at hk
  exact ⟨k, hone, hk, heq, hleast⟩

/-- A number that was left out is made use of, and a base that looks numbered is numbered once more. -/
example : freshName ["model", "model_1", "model_3"] "model" = "model_2" ∧
    freshName ["model", "model_1", "model_3"] "model_1" = "model_1_1" := by decide

end Switchboard
