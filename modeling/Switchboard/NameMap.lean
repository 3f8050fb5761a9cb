/-! # Maps from names

A map from names to values that keeps the order in which the names were first set. Setting a name again replaces its
value where it stands. -/

namespace Switchboard

/-- Names with their values, in the order in which the names were first set. -/
abbrev NameMap (α : Type) := List (String × α)

namespace NameMap

variable {α β : Type}

/-- The value of a name. -/
def get? (m : NameMap α) (name : String) : Option α :=
  m.lookup name

/-- Whether a name has a value. -/
def contains (m : NameMap α) (name : String) : Bool :=
  (m.get? name).isSome

/-- Sets a name to a value: in place if the name has one, else at the end. -/
def set : NameMap α → String → α → NameMap α
  | [], name, a => [(name, a)]
  | (n, b) :: m, name, a => if n = name then (n, a) :: m else (n, b) :: set m name a

/-- The names in order. -/
def names (m : NameMap α) : List String :=
  m.map (·.1)

@[simp] theorem get?_nil (name : String) : get? ([] : NameMap α) name = none := rfl

theorem get?_cons (n name : String) (b : α) (m : NameMap α) :
    get? ((n, b) :: m) name = if n = name then some b else get? m name := by
  by_cases h : n = name
  · subst h
    rw [get?, List.lookup_cons_self, if_pos rfl]
  · have hne : (name == n) = false := by simpa using fun e => h e.symm
    rw [get?, List.lookup_cons, hne, if_neg h]
    rfl

theorem get?_set (m : NameMap α) (name other : String) (a : α) :
    get? (m.set name a) other = if name = other then some a else m.get? other := by
  induction m with
  | nil => simp [set, get?_cons]
  | cons p m ih =>
    obtain ⟨n, b⟩ := p
    by_cases h : n = name
    · subst h
      by_cases h' : n = other <;> simp [set, get?_cons, h']
    · by_cases h' : n = other
      · subst h'
        have e : ¬name = n := fun e => h e.symm
        simp [set, get?_cons, h, e]
      · simp [set, get?_cons, h, h', ih]

@[simp] theorem get?_set_self (m : NameMap α) (name : String) (a : α) : get? (m.set name a) name = some a := by
  simp [get?_set]

theorem names_set_of_contains {m : NameMap α} {name : String} (h : name ∈ m.names) (a : α) :
    (m.set name a).names = m.names := by
  induction m with
  | nil => simp [names] at h
  | cons p m ih =>
    obtain ⟨n, b⟩ := p
    by_cases e : n = name
    · simp [set, names, e]
    · have : name ∈ names m := by
        simp only [names, List.map_cons, List.mem_cons] at h
        exact h.resolve_left fun h => e h.symm
      simpa [set, names, e] using ih this

theorem names_set_of_not_contains {m : NameMap α} {name : String} (h : name ∉ m.names) (a : α) :
    (m.set name a).names = m.names ++ [name] := by
  induction m with
  | nil => simp [set, names]
  | cons p m ih =>
    obtain ⟨n, b⟩ := p
    have e : n ≠ name := fun e => h (by simp [names, e])
    have : name ∉ names m := fun h' => h (by simp only [names, List.map_cons]; exact List.mem_cons_of_mem _ h')
    simpa [set, names, e] using ih this

theorem nodup_names_set {m : NameMap α} (h : m.names.Nodup) (name : String) (a : α) : (m.set name a).names.Nodup := by
  by_cases c : name ∈ m.names
  · rwa [names_set_of_contains c]
  · rw [names_set_of_not_contains c]
    exact List.nodup_append.mpr ⟨h, by simp, fun x hx y hy => by
      have : y = name := by simpa using hy
      subst this
      exact fun e => c (e ▸ hx)⟩

theorem contains_iff_mem_names {m : NameMap α} {name : String} :
    m.contains name = true ↔ name ∈ m.names := by
  induction m with
  | nil => simp [contains, names]
  | cons p m ih =>
    obtain ⟨n, a⟩ := p
    rw [contains, get?_cons, names, List.map_cons, List.mem_cons]
    by_cases hn : n = name
    · simp [hn]
    · rw [if_neg hn]
      exact ih.trans ⟨Or.inr, fun h => h.resolve_left fun e => hn e.symm⟩

/-- Of pairs with distinct names, each sets its name for good. -/
theorem get?_foldl_set {pairs : List (String × α)} (h : (pairs.map (·.1)).Nodup) (m : NameMap α) (name : String) :
    get? (pairs.foldl (fun m p => m.set p.1 p.2) m) name = (get? pairs name).or (m.get? name) := by
  induction pairs generalizing m with
  | nil => rfl
  | cons p pairs ih =>
    obtain ⟨n, a⟩ := p
    obtain ⟨hnew, h⟩ := List.nodup_cons.mp h
    rw [List.foldl_cons, ih h, get?_set, get?_cons]
    by_cases hn : n = name
    · subst hn
      have hnone : get? pairs n = none := by
        rw [← Option.not_isSome_iff_eq_none]
        exact fun hsome => hnew (contains_iff_mem_names.mp hsome)
      rw [hnone, if_pos rfl, if_pos rfl]
      rfl
    · rw [if_neg hn, if_neg hn]

end NameMap

end Switchboard
