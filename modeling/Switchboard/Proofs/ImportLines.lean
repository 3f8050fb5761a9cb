import Switchboard.Dispatch.File
import Switchboard.Proofs.ImportTable

/-! # Import lines

The import lines of a dispatch file are read back from their text: a line binds one name, the one behind `as` or else
the last name of its path. The line of an entry binds the alias of the entry to its path (`ofLine?_line`), whether it
says the alias or not; so under the lines of a well-formed table each alias is bound once (`boundImport?_lines`).

The text of a dispatch file is read in a child of the analysed module, with all of its import lines in effect. A bare
name is one that the child sees through `use super::*`. The first name of a longer path is looked up in the import lines.
The path of an import line is no different: its first name may be one that another line binds, whose path may start at a
third line, and lines that run in a circle lead nowhere (`LeadsTo`). Only where no other line binds it, a first name is a
keyword, a name in view of the analysed module, or a crate. So a line can take the path of another line away from where
it led alone (`IsDiverted`), and a path of the file then leads elsewhere (`not_readFrom_of_isDiverted`). -/

namespace Switchboard

/-! ### One line -/

/-- Reads an import line, as the path and the name that it binds. -/
def NamedImport.ofLine? (line : String) : Option NamedImport :=
  match line.toList.splitOn ' ' with
  | [['u', 's', 'e'], path] =>
    if path.getLast? = some ';' then
      some ⟨String.ofList path.dropLast, lastName (String.ofList path.dropLast)⟩
    else none
  | [['u', 's', 'e'], path, ['a', 's'], name] =>
    if name.getLast? = some ';' then some ⟨String.ofList path, String.ofList name.dropLast⟩ else none
  | _ => none

theorem NamedImport.toList_line (e : NamedImport) :
    e.line.toList = 'u' :: 's' :: 'e' :: ' ' :: (e.path.toList ++ (e.asClause.toList ++ [';'])) := by
  have line : e.line = "use " ++ e.path ++ e.asClause ++ ";" := rfl
  simp [line]

/-- The line of an entry says the path and the alias of the entry. -/
theorem NamedImport.ofLine?_line {e : NamedImport} (hpath : ' ' ∉ e.path.toList) (halias : ' ' ∉ e.aliasName.toList) :
    NamedImport.ofLine? e.line = some e := by
  by_cases hr : e.isRenamed = true
  · let words := [['u', 's', 'e'], e.path.toList, ['a', 's'], e.aliasName.toList ++ [';']]
    have joined : e.line.toList = [' '].intercalate words := by
      simp [NamedImport.toList_line, NamedImport.asClause, hr, List.intercalate, words]
    have split : e.line.toList.splitOn ' ' = words := by
      rw [joined]
      exact List.splitOn_intercalate ' ' (by simp [hpath, halias, words]) (by simp [words])
    simp [NamedImport.ofLine?, split, words]
  · have hlast : lastName e.path = e.aliasName := by simpa [NamedImport.isRenamed] using hr
    let words := [['u', 's', 'e'], e.path.toList ++ [';']]
    have joined : e.line.toList = [' '].intercalate words := by
      simp [NamedImport.toList_line, NamedImport.asClause, hr, List.intercalate, words]
    have split : e.line.toList.splitOn ' ' = words := by
      rw [joined]
      exact List.splitOn_intercalate ' ' (by simp [hpath, words]) (by simp [words])
    simp [NamedImport.ofLine?, split, words, hlast]

/-- A character of an alias that is neither a digit nor a low line comes from the last name of the path. -/
theorem NamedImport.IsNamedByPath.not_mem {e : NamedImport} (h : e.IsNamedByPath) {c : Char} (hdigit : c.isDigit = false)
    (hlow : c ≠ '_') (hc : c ∉ (lastName e.path).toList) : c ∉ e.aliasName.toList := by
  rcases h with h | ⟨k, h⟩
  · rwa [h]
  · intro hmem
    rw [h, numberedName, String.toList_append, String.toList_append] at hmem
    rcases List.mem_append.mp hmem with hmem | hmem
    · rcases List.mem_append.mp hmem with hmem | hmem
      · exact hc hmem
      · exact hlow (by simpa using hmem)
    · rw [Nat.toString_eq_ofList_toDigits, String.toList_ofList] at hmem
      rw [Nat.isDigit_of_mem_toDigits (by decide) (by decide) hmem] at hdigit
      exact absurd hdigit (by decide)

theorem NamedImport.IsNamedByPath.ofLine?_line {e : NamedImport} (h : e.IsNamedByPath) (hpath : ' ' ∉ e.path.toList) :
    NamedImport.ofLine? e.line = some e :=
  NamedImport.ofLine?_line hpath (h.not_mem (by decide) (by decide) fun hb => hpath (lastName_subset _ hb))

/-! ### The lines of a table -/

/-- What some lines import. -/
def imported (lines : List String) : List NamedImport :=
  lines.filterMap NamedImport.ofLine?

/-- The import by which some lines bind a name. -/
def boundImport? (lines : List String) (name : String) : Option NamedImport :=
  (imported lines).find? (·.aliasName = name)

theorem boundImport?_cons_of_eq {line : String} {e : NamedImport} (h : NamedImport.ofLine? line = some e)
    (lines : List String) : boundImport? (line :: lines) e.aliasName = some e := by
  simp [boundImport?, imported, h]

/-- The import that the path of another one starts at: it binds the first name of that path, which is no keyword. None
starts at itself. -/
def rootImport? (lines : List String) (e : NamedImport) : Option NamedImport :=
  (imported lines).find? fun other =>
    other ≠ e ∧ other.aliasName ≠ "" ∧ other.aliasName ∉ leadWords ∧ (pathNames e.path).head? = some other.aliasName

theorem rootImport?_eq_some {lines : List String} {e other : NamedImport} (h : rootImport? lines e = some other) :
    other.aliasName ≠ "" ∧ other.aliasName ∉ leadWords ∧
      pathNames e.path = other.aliasName :: (pathNames e.path).tail := by
  have hfound := List.find?_some h
  rw [decide_eq_true_eq] at hfound
  obtain ⟨-, hempty, hkey, hfirst⟩ := hfound
  exact ⟨hempty, hkey, (List.cons_head?_tail (Option.mem_def.mpr hfirst)).symm⟩

namespace ImportTable

variable {t : ImportTable}

/-- The import lines of the entries. -/
def lines (t : ImportTable) : List String :=
  t.entries.map (·.line)

theorem WellFormed.imported_lines (h : t.WellFormed) (hblank : ∀ e ∈ t.entries, ' ' ∉ e.path.toList) :
    imported t.lines = t.entries := by
  have read : ∀ e ∈ t.entries, (NamedImport.ofLine? ∘ NamedImport.line) e = some e := fun e he =>
    (h.named e he).ofLine?_line (hblank e he)
  rw [imported, lines, List.filterMap_map, List.filterMap_congr read, List.filterMap_some]

/-- Each alias is bound by its entry, and by no other. -/
theorem WellFormed.boundImport?_lines (h : t.WellFormed) (hblank : ∀ e ∈ t.entries, ' ' ∉ e.path.toList)
    {e : NamedImport} (he : e ∈ t.entries) : boundImport? t.lines e.aliasName = some e := by
  obtain ⟨e', hfind⟩ : ∃ e', t.entries.find? (·.aliasName = e.aliasName) = some e' :=
    Option.isSome_iff_exists.mp (List.find?_isSome.mpr ⟨e, he, by simp⟩)
  have halias : e'.aliasName = e.aliasName := by simpa using List.find?_some hfind
  rw [boundImport?, h.imported_lines hblank, hfind,
    List.inj_on_of_nodup_map h.aliases_nodup (List.mem_of_find?_eq_some hfind) he halias]

theorem WellFormed.boundImport?_lines_eq_none (h : t.WellFormed) (hblank : ∀ e ∈ t.entries, ' ' ∉ e.path.toList)
    {name : String} (hname : ∀ e ∈ t.entries, e.aliasName ≠ name) : boundImport? t.lines name = none := by
  rw [boundImport?, h.imported_lines hblank]
  exact List.find?_eq_none.mpr fun e he => by simpa using hname e he

end ImportTable

/-! ### Reading below the analysed module -/

namespace Surroundings

/-- Where an import line leads in a child of the analysed module, next to all other lines. If its path starts at
another line, it leads on from there. A first name that has nothing in view stands for a crate besides, and is ambiguous
if the other line leads anywhere but to that crate. -/
inductive LeadsTo (a : Surroundings) (child : String) (lines : List String) : NamedImport → Place → Prop where
  | alone {e : NamedImport} {p : Place} (hroot : rootImport? lines e = none)
      (hread : a.readFrom (a.here ++ [child]) (pathNames e.path) = some p) : LeadsTo a child lines e p
  | onward {e root : NamedImport} {p q : Place} (hroot : rootImport? lines e = some root)
      (hlead : LeadsTo a child lines root p)
      (hcrate : a.inView root.aliasName = none → p = .outside [root.aliasName])
      (hbelow : p.descend? (pathNames e.path).tail = some q) : LeadsTo a child lines e q

/-- What a written path denotes in a child of the analysed module under some import lines. -/
def DenotesBelow (a : Surroundings) (child : String) (lines : List String) (text : String) (p : Place) : Prop :=
  match pathNames text with
  | [] => False
  | [name] => p = a.named name
  | first :: rest =>
    match boundImport? lines first with
    | some e => ∃ q, a.LeadsTo child lines e q ∧ q.descend? rest = some p
    | none => a.readFrom (a.here ++ [child]) (first :: rest) = some p

/-- The path of an import starts at another line, which does not lead to what its first name stands for without it. -/
def IsDiverted (a : Surroundings) (child : String) (lines : List String) (e : NamedImport) : Prop :=
  ∃ root, rootImport? lines e = some root ∧ ¬a.LeadsTo child lines root (a.named root.aliasName)

variable (a : Surroundings) {child : String} {lines : List String} {e : NamedImport} {p q : Place}

variable {a} in
/-- A line leads to one place at most. -/
theorem LeadsTo.unique (hp : a.LeadsTo child lines e p) (hq : a.LeadsTo child lines e q) : p = q := by
  induction hp generalizing q with
  | alone hroot hread =>
    cases hq with
    | alone _ hread' => exact Option.some.inj (hread.symm.trans hread')
    | onward hroot' _ _ _ => cases hroot.symm.trans hroot'
  | onward hroot _ _ hbelow ih =>
    cases hq with
    | alone hroot' _ => cases hroot.symm.trans hroot'
    | onward hroot' hlead' _ hbelow' =>
      cases hroot.symm.trans hroot'
      rw [ih hlead', hbelow'] at hbelow
      exact (Option.some.inj hbelow).symm

/-- What is not diverted leads where it would lead alone. -/
theorem leadsTo_iff (h : ¬a.IsDiverted child lines e) :
    a.LeadsTo child lines e p ↔ a.readFrom (a.here ++ [child]) (pathNames e.path) = some p := by
  cases hroot : rootImport? lines e with
  | none =>
    refine ⟨fun hlead => ?_, .alone hroot⟩
    cases hlead with
    | alone _ hread => exact hread
    | onward hroot' _ _ _ => cases hroot.symm.trans hroot'
  | some root =>
    have hnamed : a.LeadsTo child lines root (a.named root.aliasName) := by
      by_contra hnot
      exact h ⟨root, hroot, hnot⟩
    obtain ⟨hempty, hkey, hnames⟩ := rootImport?_eq_some hroot
    rw [hnames, a.readFrom_named hempty hkey]
    constructor
    · intro hlead
      cases hlead with
      | alone hroot' _ => cases hroot.symm.trans hroot'
      | onward hroot' hlead' _ hbelow =>
        cases hroot.symm.trans hroot'
        rwa [hlead'.unique hnamed] at hbelow
    · intro hbelow
      have hcrate : a.inView root.aliasName = none → a.named root.aliasName = .outside [root.aliasName] := by
        intro hview
        rw [named, hview, Option.getD_none]
      exact .onward hroot hnamed hcrate hbelow

/-- What lies behind a diverted path, if there is anything, is at no place that lies as deep behind the path alone. -/
theorem not_readFrom_of_isDiverted (h : a.IsDiverted child lines e) (hlead : a.LeadsTo child lines e q)
    {module ms ns : List String} (hlength : ms.length = ns.length) (hbelow : q.descend? ms = some p) :
    a.readFrom module (pathNames e.path ++ ns) ≠ some p := by
  obtain ⟨root, hroot, hnot⟩ := h
  intro hread
  cases hlead with
  | alone hroot' _ => cases hroot.symm.trans hroot'
  | onward hroot' hlead' _ hbelow' =>
    cases hroot.symm.trans hroot'
    obtain ⟨hempty, hkey, hnames⟩ := rootImport?_eq_some hroot
    rw [hnames, List.cons_append, a.readFrom_named hempty hkey] at hread
    rw [(Place.descend?_eq_some_iff.mp hbelow').2] at hbelow
    have hplace := (Place.descend?_eq_some_iff.mp hbelow).2.symm.trans (Place.descend?_eq_some_iff.mp hread).2
    rw [← Place.below_append] at hplace
    rw [Place.below_left_injective (by simp [hlength]) hplace] at hlead'
    exact hnot hlead'

/-- Where a diverted path leads on to something, the path alone does as well. -/
theorem exists_readFrom_of_isDiverted (h : a.IsDiverted child lines e) (hlead : a.LeadsTo child lines e q)
    {ns : List String} (hbelow : q.descend? ns = some p) (module : List String) :
    ∃ item, a.readFrom module (pathNames e.path ++ ns) = some item := by
  obtain ⟨root, hroot, -⟩ := h
  cases hlead with
  | alone hroot' _ => cases hroot.symm.trans hroot'
  | onward hroot' _ _ hbelow' =>
    cases hroot.symm.trans hroot'
    obtain ⟨hempty, hkey, hnames⟩ := rootImport?_eq_some hroot
    rw [hnames, List.cons_append, a.readFrom_named hempty hkey]
    have hrest := (Place.descend?_eq_some_iff.mp hbelow').1
    have hns := (Place.descend?_eq_some_iff.mp hbelow).1
    exact ⟨_, Place.descend?_eq_some_iff.mpr ⟨List.forall_mem_append.mpr ⟨hrest, hns⟩, rfl⟩⟩

variable {text first : String} {rest : List String}

theorem denotesBelow_bare (h : pathNames text = [first]) : a.DenotesBelow child lines text p ↔ p = a.named first := by
  rw [DenotesBelow, h]

theorem denotesBelow_bound (h : pathNames text = first :: rest) (hrest : rest ≠ [])
    (hbound : boundImport? lines first = some e) :
    a.DenotesBelow child lines text p ↔ ∃ q, a.LeadsTo child lines e q ∧ q.descend? rest = some p := by
  obtain ⟨n, rest, rfl⟩ := List.exists_cons_of_ne_nil hrest
  simp only [DenotesBelow, h, hbound]

theorem denotesBelow_unbound (h : pathNames text = first :: rest) (hrest : rest ≠ [])
    (hbound : boundImport? lines first = none) :
    a.DenotesBelow child lines text p ↔ a.readFrom (a.here ++ [child]) (first :: rest) = some p := by
  obtain ⟨n, rest, rfl⟩ := List.exists_cons_of_ne_nil hrest
  simp only [DenotesBelow, h, hbound]

end Surroundings

end Switchboard
