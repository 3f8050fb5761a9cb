import Switchboard.Proofs.PathText

/-! # What written paths denote

A written path denotes a place of the program: a module or an item, in the crate itself or in another one. Which one
depends on the module that the path is read in. `crate`, `self` and `super` are read by the place of that module; any
other first name stands for what the analysed module has in view under it, or else for a crate. A keyword further back
denotes nothing.

A child of the analysed module that has everything of its parent in view reads all names alike and only `self` and
`super` differently; `ModulePath.fromChild` makes up for exactly that (`readFrom_fromChild`). -/

namespace Switchboard

/-- A module or an item of a program. -/
inductive Place where
  /-- In the crate, by the names from its root on. -/
  | inside (names : List String)
  /-- In another crate, whose own name is the first. -/
  | outside (names : List String)
  deriving DecidableEq, Repr

namespace Place

/-- The place reached by following names from a place. -/
def below : Place → List String → Place
  | inside names, rest => inside (names ++ rest)
  | outside names, rest => outside (names ++ rest)

/-- The same, as long as none of the names is a keyword. -/
def descend? (p : Place) (rest : List String) : Option Place :=
  if ∀ n ∈ rest, n ∉ leadWords then some (p.below rest) else none

@[simp] theorem below_nil (p : Place) : p.below [] = p := by
  cases p <;> simp [below]

theorem below_append (p : Place) (ms ns : List String) : p.below (ms ++ ns) = (p.below ms).below ns := by
  cases p <;> simp [below]

theorem below_injective {p : Place} {ms ns : List String} (h : p.below ms = p.below ns) : ms = ns := by
  cases p <;> simpa [below] using h

@[simp] theorem descend?_nil (p : Place) : p.descend? [] = some p := by
  simp [descend?]

theorem descend?_eq_some_iff {p q : Place} {rest : List String} :
    p.descend? rest = some q ↔ (∀ n ∈ rest, n ∉ leadWords) ∧ q = p.below rest := by
  rw [descend?]
  split
  · rename_i h
    rw [Option.some.injEq]
    exact ⟨fun hq => ⟨h, hq.symm⟩, fun hq => hq.2.symm⟩
  · rename_i h
    exact ⟨fun hq => absurd hq (by simp), fun hq => absurd hq.1 h⟩

theorem below_left_injective {p q : Place} {ms ns : List String} (hlength : ms.length = ns.length)
    (h : p.below ms = q.below ns) : p = q := by
  cases p with
  | inside names =>
    cases q with
    | inside names' => rw [(List.append_inj' (Place.inside.inj h) hlength).1]
    | outside names' => cases h
  | outside names =>
    cases q with
    | inside names' => cases h
    | outside names' => rw [(List.append_inj' (Place.outside.inj h) hlength).1]

theorem descend?_append (p : Place) (ms ns : List String) :
    p.descend? (ms ++ ns) = (p.descend? ms).bind fun q => q.descend? ns := by
  by_cases hm : ∀ n ∈ ms, n ∉ leadWords
  · simp only [descend?, if_pos hm, Option.bind_some, below_append]
    by_cases hn : ∀ n ∈ ns, n ∉ leadWords
    · have hmn : ∀ n ∈ ms ++ ns, n ∉ leadWords := fun n h => (List.mem_append.mp h).elim (hm n) (hn n)
      rw [if_pos hn, if_pos hmn]
    · have hmn : ¬∀ n ∈ ms ++ ns, n ∉ leadWords := fun h => hn fun n h' => h n (List.mem_append_right _ h')
      rw [if_neg hn, if_neg hmn]
  · have hmn : ¬∀ n ∈ ms ++ ns, n ∉ leadWords := fun h => hm fun n h' => h n (List.mem_append_left _ h')
    simp only [descend?, if_neg hm, if_neg hmn, Option.bind_none]

/-- Below one place, two names of which one is no keyword lead to one item only if they are the same. -/
theorem exists_descend?_concat_iff {p : Place} {rest : List String} {name standard : String}
    (hstandard : standard ∉ leadWords) :
    (∃ item, p.descend? (rest ++ [standard]) = some item ∧ p.descend? (rest ++ [name]) = some item) ↔
      name = standard ∧ ∀ n ∈ rest, n ∉ leadWords := by
  simp only [descend?_eq_some_iff, List.forall_mem_append]
  constructor
  · rintro ⟨item, ⟨⟨hrest, -⟩, hitem⟩, -, hitem'⟩
    have names := below_injective (hitem.symm.trans hitem')
    have last : [standard] = [name] := List.append_cancel_left names
    rw [List.cons.injEq] at last
    exact ⟨last.1.symm, hrest⟩
  · rintro ⟨rfl, hrest⟩
    have hlast : ∀ n ∈ [name], n ∉ leadWords := by simpa using hstandard
    exact ⟨_, ⟨⟨hrest, hlast⟩, rfl⟩, ⟨hrest, hlast⟩, rfl⟩

end Place

/-- The place reached from a module of the crate: one up for each leading `super`, and then down. -/
def climb (module : List String) : List String → Option Place
  | [] => some (.inside module)
  | n :: rest =>
    if n = "super" then if module = [] then none else climb module.dropLast rest
    else (Place.inside module).descend? (n :: rest)

theorem climb_super_concat (module : List String) (n : String) (rest : List String) :
    climb (module ++ [n]) ("super" :: rest) = climb module rest := by
  simp [climb]

/-- Behind a name that is not `super` the way only leads down. -/
theorem climb_append {names : List String} (h : ∃ n ∈ names, n ≠ "super") (module rest : List String) :
    climb module (names ++ rest) = (climb module names).bind fun p => p.descend? rest := by
  induction names generalizing module with
  | nil => simp at h
  | cons n names ih =>
    rw [List.cons_append, climb, climb]
    by_cases hn : n = "super"
    · have hrest : ∃ n ∈ names, n ≠ "super" := by
        obtain ⟨m, hm, hne⟩ := h
        rcases List.mem_cons.mp hm with rfl | hm
        · exact absurd hn hne
        · exact ⟨m, hm, hne⟩
      rw [if_pos hn, if_pos hn]
      by_cases hmodule : module = []
      · rw [if_pos hmodule, if_pos hmodule, Option.bind_none]
      · rw [if_neg hmodule, if_neg hmodule, ih hrest]
    · rw [if_neg hn, if_neg hn, ← List.cons_append, Place.descend?_append]

/-- No way up and down leaves the crate. -/
theorem climb_inside {module names : List String} {p : Place} (h : climb module names = some p) :
    ∃ names', p = .inside names' := by
  induction names generalizing module with
  | nil => exact ⟨module, (Option.some.inj h).symm⟩
  | cons n names ih =>
    rw [climb] at h
    split at h
    · split at h
      · cases h
      · exact ih h
    · exact ⟨_, (Place.descend?_eq_some_iff.mp h).2⟩

/-- One name leads down by one at most. -/
theorem climb_single {module : List String} {name : String} {names : List String}
    (h : climb module [name] = some (.inside names)) : names.length ≤ module.length + 1 := by
  rw [climb] at h
  split at h
  · split at h
    · cases h
    · cases h
      rw [List.length_dropLast]
      omega
  · cases (Place.descend?_eq_some_iff.mp h).2
    simp

/-- What is climbed to from a child lies one level deeper than what is climbed to from its parent. -/
theorem climb_concat_ne {module xs : List String} {child name standard : String} {p : Place}
    (hp : climb (module ++ [child]) xs = some p) : climb module (xs ++ [name]) ≠ some (p.below [standard]) := by
  induction xs generalizing module child with
  | nil =>
    intro h
    cases hp
    have hlength := climb_single h
    simp at hlength
  | cons n xs ih =>
    by_cases hn : n = "super"
    · subst hn
      rw [climb_super_concat] at hp
      rcases List.eq_nil_or_concat module with rfl | ⟨module', child', rfl⟩
      · intro h
        simp [climb] at h
      · rw [List.concat_eq_append] at hp ⊢
        rw [List.cons_append, climb_super_concat]
        exact ih hp
    · intro h
      rw [climb, if_neg hn] at hp
      rw [List.cons_append, climb, if_neg hn] at h
      rw [(Place.descend?_eq_some_iff.mp hp).2] at h
      have lengths := congrArg List.length (Place.inside.inj (Place.descend?_eq_some_iff.mp h).2)
      simp at lengths

theorem climb_descend?_ne {module xs : List String} {child name standard : String} {item : Place}
    (h : ((climb (module ++ [child]) xs).bind fun p => p.descend? [standard]) = some item) :
    climb module (xs ++ [name]) ≠ some item := by
  obtain ⟨p, hp, hitem⟩ := Option.bind_eq_some_iff.mp h
  rw [(Place.descend?_eq_some_iff.mp hitem).2]
  exact climb_concat_ne hp

/-- The analysed module as the program around it has it. -/
structure Surroundings where
  /-- The names from the root of the crate to the module. -/
  here : List String
  /-- What the module has in view under a name: what it declares, what it imports and what its globs supply. -/
  inView : String → Option Place

namespace Surroundings

variable (a : Surroundings)

/-- What a bare name denotes: what the analysed module has in view, or else a crate. -/
def named (name : String) : Place :=
  (a.inView name).getD (.outside [name])

/-- What the names of a path denote when they are read in a module of the crate that sees what the analysed module
has in view. -/
def readFrom (module : List String) : List String → Option Place
  | [] => none
  | n :: rest =>
    if n = "" then
      match rest with
      | [] => none
      | root :: rest => (Place.outside [root]).descend? rest
    else if n = "crate" then (Place.inside []).descend? rest
    else if n = "self" then climb module rest
    else if n = "super" then climb module (n :: rest)
    else (a.named n).descend? rest

/-- What a written path denotes in the analysed module. -/
def read (text : String) : Option Place :=
  a.readFrom a.here (pathNames text)

/-- What a resolution denotes. A bare name is one of the analysed module; any other item is read by its full path. -/
def denoted : Resolution → Option Place
  | .localType name => some (a.named name)
  | .glob name => some (a.named name)
  | r => r.fullPath?.bind a.read

@[simp] theorem readFrom_absolute (module : List String) (root : String) (rest : List String) :
    a.readFrom module ("" :: root :: rest) = (Place.outside [root]).descend? rest := rfl

@[simp] theorem readFrom_crate (module rest : List String) :
    a.readFrom module ("crate" :: rest) = (Place.inside []).descend? rest := rfl

@[simp] theorem readFrom_self (module rest : List String) : a.readFrom module ("self" :: rest) = climb module rest := rfl

@[simp] theorem readFrom_super (module rest : List String) :
    a.readFrom module ("super" :: rest) = climb module ("super" :: rest) := rfl

theorem readFrom_named {n : String} (hempty : n ≠ "") (hkey : n ∉ leadWords) (module rest : List String) :
    a.readFrom module (n :: rest) = (a.named n).descend? rest := by
  simp only [leadWords, List.mem_cons, List.not_mem_nil, or_false, not_or] at hkey
  simp only [readFrom, hempty, hkey, ↓reduceIte]

/-- A path through a keyword stays in the crate. -/
theorem readFrom_keyword {n : String} (hn : n ∈ leadWords) {module rest : List String} {p : Place}
    (h : a.readFrom module (n :: rest) = some p) : ∃ names, p = .inside names := by
  simp only [leadWords, List.mem_cons, List.not_mem_nil, or_false] at hn
  rcases hn with rfl | rfl | rfl
  · rw [readFrom_crate] at h
    exact ⟨_, (Place.descend?_eq_some_iff.mp h).2⟩
  · rw [readFrom_self] at h
    exact climb_inside h
  · rw [readFrom_super] at h
    exact climb_inside h

/-- A child of a module reads a rewritten path as the module itself reads the path. -/
theorem readFrom_fromChild (module : List String) (child : String) {m : ModulePath} (hm : m ≠ []) (rest : List String) :
    a.readFrom (module ++ [child]) (m.fromChild ++ rest) = a.readFrom module (m ++ rest) := by
  cases m with
  | nil => exact absurd rfl hm
  | cons n m =>
    by_cases hself : n = "self"
    · subst hself
      exact climb_super_concat module child (m ++ rest)
    · by_cases hsuper : n = "super"
      · subst hsuper
        exact climb_super_concat module child ("super" :: (m ++ rest))
      · have same : ModulePath.fromChild (n :: m) = n :: m := by
          unfold ModulePath.fromChild
          split <;> simp_all
        -- No other first name depends on the module that reads it.
        simp only [same, List.cons_append, readFrom, hself, hsuper, ↓reduceIte]

/-- A path beyond a name that is no keyword leads on from the place of the path up to there. -/
theorem readFrom_append (module : List String) {names : List String} (hnames : "" ∉ names)
    (hkey : ∃ n ∈ names, n ∉ leadWords) (rest : List String) :
    a.readFrom module (names ++ rest) = (a.readFrom module names).bind fun p => p.descend? rest := by
  cases names with
  | nil => simp at hkey
  | cons n names =>
    have hempty : n ≠ "" := fun e => hnames (e ▸ List.mem_cons_self)
    -- Behind `self` and `super` there is a name that is no keyword, so what follows it only leads down.
    have down : n ∈ leadWords → ∃ m ∈ names, m ≠ "super" := by
      intro hn
      obtain ⟨m, hm, hmkey⟩ := hkey
      rcases List.mem_cons.mp hm with rfl | hm
      · exact absurd hn hmkey
      · exact ⟨m, hm, fun e => hmkey (by simp [leadWords, e])⟩
    by_cases hn : n ∈ leadWords
    · have hdown := down hn
      simp only [leadWords, List.mem_cons, List.not_mem_nil, or_false] at hn
      rcases hn with rfl | rfl | rfl
      · exact Place.descend?_append _ names rest
      · exact climb_append hdown module rest
      · obtain ⟨m, hm, hne⟩ := hdown
        have above : ∃ m ∈ "super" :: names, m ≠ "super" := ⟨m, List.mem_cons_of_mem _ hm, hne⟩
        exact climb_append above module rest
    · rw [List.cons_append, a.readFrom_named hempty hn, a.readFrom_named hempty hn, Place.descend?_append]

end Surroundings

end Switchboard
