import Switchboard.Proofs.ImportLines

/-! # What qualified names denote

A table gives a resolved type its name for a dispatch file, and the file is read in a child of the analysed module
under the import lines of the table as it is in the end. The path behind an alias is the rewritten module path, and the
alias is still bound to it, since a later table only has further entries with other aliases. So the name denotes there
what the resolution denotes in the analysed module, unless the line of the module is diverted by another line, whose
alias is the first name of the path (`isFaithful_qualify_iff`). A name that is an item's only by place needs no line and
cannot be diverted. A whole sequence of calls follows by induction; a later call leaves every name as it is, and changes
what a name denotes exactly if its line diverts the line of that name. -/

namespace Switchboard

/-! ### Module paths -/

/-- The keywords of a module path stand in front of all its other names. -/
def ModulePath.KeywordsLead (m : ModulePath) : Prop :=
  ∃ lead tail : ModulePath, m = lead ++ tail ∧ (∀ n ∈ lead, n ∈ leadWords) ∧ ∀ n ∈ tail, n ∉ leadWords

/-- A resolution to an item whose path could be written. -/
def Resolution.IsNameable : Resolution → Prop
  | .localType name => IsName name
  | .glob name => IsName name
  | .external m name => (∀ n ∈ m, IsName n) ∧ m.KeywordsLead ∧ IsName name
  | .unresolved => False

/-- A path that an import can have: without blanks, and with a last name that can be bound. -/
structure IsImportable (path : String) : Prop where
  blank : ' ' ∉ path.toList
  ne_empty : lastName path ≠ ""
  keyword : lastName path ∉ leadWords

namespace ModulePath

/-- A path whose last name is a name but no keyword can be imported. -/
theorem isImportable_render {m : ModulePath} {last : String} (h : ∀ n ∈ m ++ [last], IsName n) (hkey : last ∉ leadWords) :
    IsImportable (render (m ++ [last])) := by
  have hlast : IsName last := h last (List.mem_append_right _ List.mem_cons_self)
  have hname : lastName (render (m ++ [last])) = last := lastName_render_concat m hlast.colon
  refine ⟨not_mem_render (by decide) fun n hn => (h n hn).blank, ?_, ?_⟩
  · rw [hname]
    exact hlast.ne_empty
  · rw [hname]
    exact hkey

theorem fromChild_append {m : ModulePath} (hm : m ≠ []) (rest : List String) :
    ModulePath.fromChild (m ++ rest) = m.fromChild ++ rest := by
  cases m with
  | nil => exact absurd rfl hm
  | cons n m =>
    rw [List.cons_append]
    unfold ModulePath.fromChild
    split <;> simp_all

theorem fromChild_of_not_mem {m : ModulePath} (h : ∀ n ∈ m, n ∉ leadWords) : m.fromChild = m := by
  unfold ModulePath.fromChild
  split
  · exact absurd (by decide) (h "self" List.mem_cons_self)
  · exact absurd (by decide) (h "super" List.mem_cons_self)
  · rfl

/-- The names of a rewritten path are those of the path, and perhaps `super`. -/
theorem mem_fromChild {m : ModulePath} {n : String} (h : n ∈ m.fromChild) : n ∈ m ∨ n = "super" := by
  unfold ModulePath.fromChild at h
  split at h
  · rcases List.mem_cons.mp h with h | h
    · exact Or.inr h
    · exact Or.inl (List.mem_cons_of_mem _ h)
  · rcases List.mem_cons.mp h with h | h
    · exact Or.inr h
    · exact Or.inl h
  · exact Or.inl h

theorem fromChild_ne_nil {m : ModulePath} (hm : m ≠ []) : m.fromChild ≠ [] := by
  unfold ModulePath.fromChild
  split
  · simp
  · simp
  · exact hm

theorem isName_fromChild {m : ModulePath} (h : ∀ n ∈ m, IsName n) : ∀ n ∈ m.fromChild, IsName n := by
  intro n hn
  rcases mem_fromChild hn with hn | rfl
  · exact h n hn
  · decide

/-- A rewritten path consists of keywords, or its keywords lead to a last name that is none. -/
theorem KeywordsLead.fromChild_cases {m : ModulePath} (h : m.KeywordsLead) :
    (∀ n ∈ m.fromChild, n ∈ leadWords) ∨ ∃ init last, m.fromChild = init ++ [last] ∧ last ∉ leadWords := by
  obtain ⟨lead, tail, rfl, hlead, htail⟩ := h
  rcases List.eq_nil_or_concat tail with rfl | ⟨init, last, rfl⟩
  · refine Or.inl fun n hn => ?_
    rcases mem_fromChild hn with hn | rfl
    · rw [List.append_nil] at hn
      exact hlead n hn
    · decide
  · have hlast : last ∉ leadWords := htail last (by simp)
    refine Or.inr ?_
    by_cases hnil : lead = []
    · subst hnil
      exact ⟨init, last, by rw [List.nil_append, fromChild_of_not_mem htail, List.concat_eq_append], hlast⟩
    · refine ⟨lead.fromChild ++ init, last, ?_, hlast⟩
      rw [fromChild_append hnil, List.concat_eq_append, List.append_assoc]

end ModulePath

/-! ### One call -/

namespace ImportTable

variable {t t' : ImportTable}

/-- A well-formed table whose paths can all be imported. -/
structure Importable (t : ImportTable) : Prop extends t.WellFormed where
  importable : ∀ e ∈ t.entries, IsImportable e.path

theorem Importable.blank (h : t.Importable) : ∀ e ∈ t.entries, ' ' ∉ e.path.toList :=
  fun e he => (h.importable e he).blank

/-- No alias is empty or a keyword. -/
theorem Importable.alias_ne (h : t.Importable) {name : String} (hname : name = "" ∨ name ∈ leadWords) :
    ∀ e ∈ t.entries, e.aliasName ≠ name := by
  intro e he halias
  have hpath := h.importable e he
  have hbase : lastName e.path ≠ name := by
    rcases hname with rfl | hname
    · exact hpath.ne_empty
    · exact fun hl => hpath.keyword (hl ▸ hname)
  rcases h.named e he with hn | ⟨k, hn⟩
  · exact hbase (hn ▸ halias)
  · -- A numbered name has a low line in it.
    have hlow : '_' ∈ name.toList := by simp [← halias, hn, numberedName]
    rcases hname with rfl | hname
    · simp at hlow
    · simp only [leadWords, List.mem_cons, List.not_mem_nil, or_false] at hname
      rcases hname with rfl | rfl | rfl <;> exact absurd hlow (by decide)

theorem Importable.bind (h : t.Importable) {path : String} (hpath : IsImportable path) :
    (t.bind path).2.Importable where
  toWellFormed := h.toWellFormed.bind path
  importable := fun e he => by
    rcases mem_bind he with he | he
    · exact h.importable e he
    · rw [he]
      exact hpath

theorem importable_seeded {transport runtime : String} (ht : IsImportable transport) (hr : IsImportable runtime) :
    (seeded transport runtime).Importable := by
  have hempty : empty.Importable := ⟨wellFormed_empty, by simp [empty]⟩
  exact (hempty.bind ht).bind hr

theorem Importable.qualify (h : t.Importable) {r : Resolution} (hr : r.IsNameable) : (t.qualify r).2.Importable := by
  cases r with
  | localType name => exact h
  | glob name => exact h
  | unresolved => exact h
  | external m name =>
    obtain ⟨hm, hlead, -⟩ := hr
    rcases hlead.fromChild_cases with hkeys | ⟨init, last, hpath, hlast⟩
    · rw [qualify_of_keywords hkeys]
      exact h
    · rw [qualify_of_not_keyword (hpath ▸ List.mem_append_right _ List.mem_cons_self) hlast]
      refine h.bind ?_
      have hnames := ModulePath.isName_fromChild hm
      rw [hpath] at hnames ⊢
      exact ModulePath.isImportable_render hnames hlast

/-- An entry of a table imports a module by its rewritten path, which ends in a name that is no keyword. -/
structure ImportsModule (t : ImportTable) (m : ModulePath) (e : NamedImport) : Prop where
  names : ∀ n ∈ m, IsName n
  ending : ∃ init last, m.fromChild = init ++ [last] ∧ last ∉ leadWords
  mem : e ∈ t.entries
  path : e.path = m.fromChild.render

namespace ImportsModule

variable {m : ModulePath} {e : NamedImport} (h : t.ImportsModule m e)
include h

theorem ne_nil : m ≠ [] := by
  obtain ⟨init, last, hpath, -⟩ := h.ending
  rintro rfl
  simp [ModulePath.fromChild] at hpath

theorem pathNames_path : pathNames e.path = m.fromChild := by
  rw [h.path]
  exact ModulePath.pathNames_render (ModulePath.fromChild_ne_nil h.ne_nil) fun n hn =>
    (ModulePath.isName_fromChild h.names n hn).colon

theorem isName_lastName : IsName (lastName e.path) := by
  obtain ⟨init, last, hpath, -⟩ := h.ending
  have hlast : IsName last :=
    ModulePath.isName_fromChild h.names last (hpath ▸ List.mem_append_right _ List.mem_cons_self)
  rwa [h.path, hpath, lastName_render_concat init hlast.colon]

theorem empty_not_mem : "" ∉ pathNames e.path := by
  rw [h.pathNames_path]
  exact fun hmem => (ModulePath.isName_fromChild h.names "" hmem).ne_empty rfl

theorem exists_not_keyword : ∃ n ∈ pathNames e.path, n ∉ leadWords := by
  obtain ⟨init, last, hpath, hlast⟩ := h.ending
  rw [h.pathNames_path, hpath]
  exact ⟨last, List.mem_append_right _ List.mem_cons_self, hlast⟩

end ImportsModule

end ImportTable

namespace Surroundings

variable (a : Surroundings)

theorem denoted_external {m : ModulePath} (hm : m ≠ []) (hnames : ∀ n ∈ m, IsName n) {name : String}
    (hname : IsName name) : a.denoted (.external m name) = a.readFrom a.here (m ++ [name]) := by
  have hread := ModulePath.pathNames_render_append hm (fun n hn => (hnames n hn).colon) hname.colon
  simp only [denoted, Resolution.fullPath?, Option.bind_some, read, hread]

/-- A text denotes in the child of the analysed module exactly what a resolution denotes in the module itself. -/
def IsFaithful (a : Surroundings) (child : String) (lines : List String) (r : Resolution) (text : String) : Prop :=
  ∀ p, a.DenotesBelow child lines text p ↔ a.denoted r = some p

/-- An item whose module is imported by a diverted line. -/
def IsMisled (a : Surroundings) (child : String) (t : ImportTable) : Resolution → Prop
  | .external m name => (∃ item, a.denoted (.external m name) = some item) ∧
      ∃ e ∈ t.entries, e.path = m.fromChild.render ∧ a.IsDiverted child t.lines e
  | _ => False

variable {t t' : ImportTable} (child : String)

theorem isFaithful_bare {r : Resolution} {name : String} (hname : IsName name) (hr : a.denoted r = some (a.named name)) :
    a.IsFaithful child t'.lines r name := by
  intro p
  rw [a.denotesBelow_bare (pathNames_of_not_mem hname.colon), hr, Option.some.injEq]
  exact eq_comm

/-- An item of a module that is given by its place alone is named by that place, which no import hides. -/
theorem isFaithful_of_keywords (ht' : t'.Importable) {m : ModulePath} {name : String} (hnames : ∀ n ∈ m, IsName n)
    (hname : IsName name) (hkeys : ∀ n ∈ m.fromChild, n ∈ leadWords) :
    a.IsFaithful child t'.lines (.external m name) (m.fromChild.render ++ "::" ++ name) := by
  intro p
  by_cases hm : m = []
  · subst hm
    have names : pathNames (ModulePath.render [] ++ "::" ++ name) = ["", name] := by
      rw [ModulePath.render, String.intercalate_nil, pathNames_append (by decide), pathNames_of_not_mem hname.colon]
    have unbound := ht'.boundImport?_lines_eq_none ht'.blank (ht'.alias_ne (Or.inl rfl))
    simp only [denoted, Resolution.fullPath?, Option.bind_some, read, ModulePath.fromChild, names,
      a.denotesBelow_unbound names (by simp) unbound, readFrom_absolute]
  · obtain ⟨first, rest, hfirst⟩ := List.exists_cons_of_ne_nil (ModulePath.fromChild_ne_nil hm)
    have names : pathNames (m.fromChild.render ++ "::" ++ name) = first :: (rest ++ [name]) := by
      rw [ModulePath.pathNames_render_append (ModulePath.fromChild_ne_nil hm)
        (fun n hn => (ModulePath.isName_fromChild hnames n hn).colon) hname.colon, hfirst, List.cons_append]
    have key : first ∈ leadWords := hkeys first (hfirst ▸ List.mem_cons_self)
    have unbound := ht'.boundImport?_lines_eq_none ht'.blank (ht'.alias_ne (Or.inr key))
    rw [a.denotesBelow_unbound names (by simp) unbound, ← List.cons_append, ← hfirst, a.readFrom_fromChild a.here child hm,
      a.denoted_external hm hnames hname]

/-- No import has the path of a module that is given by its place alone. -/
theorem not_isMisled_of_keywords (ht' : t'.Importable) {m : ModulePath} {name : String}
    (hkeys : ∀ n ∈ m.fromChild, n ∈ leadWords) : ¬a.IsMisled child t' (.external m name) := by
  rintro ⟨-, e, he, hpath, -⟩
  have himportable := ht'.importable e he
  rw [hpath] at himportable
  rcases List.eq_nil_or_concat m.fromChild with hnil | ⟨init, last, hconcat⟩
  · rw [hnil] at himportable
    exact himportable.ne_empty (by decide)
  · rw [List.concat_eq_append] at hconcat
    have hlast : last ∈ leadWords := hkeys last (hconcat ▸ List.mem_append_right _ List.mem_cons_self)
    have hcolon : ':' ∉ last.toList := by
      simp only [leadWords, List.mem_cons, List.not_mem_nil, or_false] at hlast
      rcases hlast with rfl | rfl | rfl <;> decide
    apply himportable.keyword
    rwa [hconcat, lastName_render_concat init hcolon]

section
variable {m : ModulePath} {name : String} {e : NamedImport} (h : t'.ImportsModule m e)
include h

theorem denoted_eq_readFrom_module (hname : IsName name) :
    a.denoted (.external m name) = a.readFrom (a.here ++ [child]) (pathNames e.path ++ [name]) := by
  rw [a.denoted_external h.ne_nil h.names hname, h.pathNames_path, a.readFrom_fromChild a.here child h.ne_nil]

/-- An item of an imported module is misled if the line of the module is diverted. -/
theorem isMisled_iff (ht' : t'.Importable) :
    a.IsMisled child t' (.external m name) ↔
      (∃ item, a.denoted (.external m name) = some item) ∧ a.IsDiverted child t'.lines e := by
  refine and_congr_right fun _ => ⟨?_, fun hdiverted => ⟨e, h.mem, h.path, hdiverted⟩⟩
  rintro ⟨e', he', hpath', hdiverted⟩
  have same : e' = e := List.inj_on_of_nodup_map ht'.paths_nodup he' h.mem (hpath'.trans h.path.symm)
  exact same ▸ hdiverted

/-- An item of an imported module is named by the alias of the module, and denoted by wherever the line of the alias
leads. -/
theorem denotesBelow_module_iff (ht' : t'.Importable) (hname : IsName name) (p : Place) :
    a.DenotesBelow child t'.lines (e.aliasName ++ "::" ++ name) p ↔
      ∃ q, a.LeadsTo child t'.lines e q ∧ q.descend? [name] = some p := by
  -- The alias is made from the last name of the path, so it has no colon in it.
  have halias : ':' ∉ e.aliasName.toList := (ht'.named e h.mem).not_mem (by decide) (by decide) h.isName_lastName.colon
  have names : pathNames (e.aliasName ++ "::" ++ name) = e.aliasName :: [name] := by
    rw [pathNames_append halias, pathNames_of_not_mem hname.colon]
  exact a.denotesBelow_bound names (by simp) (ht'.boundImport?_lines ht'.blank h.mem)

/-- The alias of a module denotes the items of the module, unless its line is diverted; then it denotes none of them. -/
theorem isFaithful_module_iff (ht' : t'.Importable) (hname : IsName name) :
    a.IsFaithful child t'.lines (.external m name) (e.aliasName ++ "::" ++ name) ↔
      ¬a.IsMisled child t' (.external m name) := by
  have hdenoted := a.denoted_eq_readFrom_module child h hname
  simp only [IsFaithful, a.denotesBelow_module_iff child h ht' hname, a.isMisled_iff child h ht']
  by_cases hdiverted : a.IsDiverted child t'.lines e
  · rw [and_iff_left hdiverted]
    constructor
    · rintro hfaithful ⟨item, hitem⟩
      obtain ⟨q, hlead, hbelow⟩ := (hfaithful item).mpr hitem
      exact a.not_readFrom_of_isDiverted hdiverted hlead rfl hbelow (hdenoted ▸ hitem)
    · intro hnone p
      refine iff_of_false ?_ fun hitem => hnone ⟨p, hitem⟩
      rintro ⟨q, hlead, hbelow⟩
      obtain ⟨item, hitem⟩ := a.exists_readFrom_of_isDiverted hdiverted hlead hbelow (a.here ++ [child])
      exact hnone ⟨item, hdenoted.trans hitem⟩
  · refine iff_of_true (fun p => ?_) fun hmisled => hdiverted hmisled.2
    rw [hdenoted, a.readFrom_append _ h.empty_not_mem h.exists_not_keyword, Option.bind_eq_some_iff]
    exact exists_congr fun q => and_congr_left fun _ => a.leadsTo_iff hdiverted

end

/-- Under the import lines of any later table a name denotes exactly what its resolution denotes, unless it is misled. -/
theorem isFaithful_qualify_iff (ht' : t'.Importable) {r : Resolution} (hr : r.IsNameable)
    (hext : t'.Extends (t.qualify r).2) : a.IsFaithful child t'.lines r (t.qualify r).1 ↔ ¬a.IsMisled child t' r := by
  cases r with
  | localType name => exact iff_of_true (a.isFaithful_bare child hr rfl) id
  | glob name => exact iff_of_true (a.isFaithful_bare child hr rfl) id
  | unresolved => exact hr.elim
  | external m name =>
    obtain ⟨hnames, hlead, hname⟩ := hr
    rcases hlead.fromChild_cases with hkeys | ⟨init, last, hpath, hlast⟩
    · rw [ImportTable.qualify_of_keywords hkeys]
      exact iff_of_true (a.isFaithful_of_keywords child ht' hnames hname hkeys)
        (a.not_isMisled_of_keywords child ht' hkeys)
    · have hmem : last ∈ m.fromChild := hpath ▸ List.mem_append_right _ List.mem_cons_self
      rw [ImportTable.qualify_of_not_keyword hmem hlast] at hext ⊢
      obtain ⟨e, he, hepath, halias⟩ := ImportTable.exists_mem_bind t m.fromChild.render
      rw [← halias]
      exact a.isFaithful_module_iff child ⟨hnames, ⟨init, last, hpath, hlast⟩, hext.mem he, hepath⟩ ht' hname

end Surroundings

/-! ### All calls -/

namespace ImportTable

/-- The names of some resolutions, given one after another, and the table in the end. -/
def qualifyAll (t : ImportTable) : List Resolution → List String × ImportTable
  | [] => ([], t)
  | r :: rest =>
    let (name, t') := t.qualify r
    let (names, t'') := qualifyAll t' rest
    (name :: names, t'')

theorem qualifyAll_cons (t : ImportTable) (r : Resolution) (rs : List Resolution) :
    t.qualifyAll (r :: rs) =
      ((t.qualify r).1 :: ((t.qualify r).2.qualifyAll rs).1, ((t.qualify r).2.qualifyAll rs).2) := rfl

variable {t t' : ImportTable}

theorem extends_qualifyAll (t : ImportTable) (rs : List Resolution) : (t.qualifyAll rs).2.Extends t := by
  induction rs generalizing t with
  | nil => exact Extends.refl t
  | cons r rs ih =>
    rw [qualifyAll_cons]
    exact (ih _).trans (extends_qualify t r)

theorem Importable.qualifyAll (h : t.Importable) {rs : List Resolution} (hrs : ∀ r ∈ rs, r.IsNameable) :
    (t.qualifyAll rs).2.Importable := by
  induction rs generalizing t with
  | nil => exact h
  | cons r rs ih =>
    rw [qualifyAll_cons]
    exact ih (h.qualify (hrs r List.mem_cons_self)) fun r' hr' => hrs r' (List.mem_cons_of_mem _ hr')

/-- Under the import lines of any later table, all names that are not misled denote what their resolutions denote. -/
theorem forall₂_isFaithful_qualifyAll_iff (a : Surroundings) (child : String) (ht' : t'.Importable) {rs : List Resolution}
    (hrs : ∀ r ∈ rs, r.IsNameable) (hext : t'.Extends (t.qualifyAll rs).2) :
    List.Forall₂ (fun r name => a.IsFaithful child t'.lines r name ↔ ¬a.IsMisled child t' r) rs (t.qualifyAll rs).1 := by
  induction rs generalizing t with
  | nil => exact .nil
  | cons r rs ih =>
    rw [qualifyAll_cons] at hext ⊢
    have hfirst : t'.Extends (t.qualify r).2 := hext.trans (extends_qualifyAll _ rs)
    have hrest := ih (fun r' hr' => hrs r' (List.mem_cons_of_mem _ hr')) hext
    exact .cons (a.isFaithful_qualify_iff child ht' (hrs r List.mem_cons_self) hfirst) hrest

theorem qualifyAll_append (t : ImportTable) (rs later : List Resolution) :
    t.qualifyAll (rs ++ later) =
      ((t.qualifyAll rs).1 ++ ((t.qualifyAll rs).2.qualifyAll later).1, ((t.qualifyAll rs).2.qualifyAll later).2) := by
  induction rs generalizing t with
  | nil => rfl
  | cons r rs ih => rw [List.cons_append, qualifyAll_cons, qualifyAll_cons, ih, List.cons_append]

/-- From a table with two importable paths on, a name that is given denotes below the analysed module exactly what its
resolution denotes in it, whatever the names of that module stand for, unless the item is misled: the line of its module
starts at the alias of another line, which does not lead to where the name of that alias leads by itself. The rewriting
of paths is exact, modules of keywords alone add no import, and each line binds the alias of its entry. Further calls
leave the names given earlier as they are, and change what a name denotes exactly if the item is misled then. -/
theorem qualifyAll_seeded_denotes_iff (a : Surroundings) (child : String) {transport runtime : String}
    (htransport : IsImportable transport) (hruntime : IsImportable runtime) {rs : List Resolution}
    (hrs : ∀ r ∈ rs, r.IsNameable) :
    let seeds := seeded transport runtime
    let run := seeds.qualifyAll rs
    List.Forall₂ (fun r name => a.IsFaithful child run.2.lines r name ↔ ¬a.IsMisled child run.2 r) rs run.1 ∧
    (∀ m : ModulePath, m ≠ [] → ∀ rest,
      a.readFrom (a.here ++ [child]) (m.fromChild ++ rest) = a.readFrom a.here (m ++ rest)) ∧
    (∀ (t : ImportTable) (m : ModulePath) (name : String), (∀ n ∈ m, n ∈ leadWords) →
      (t.qualify (.external m name)).2 = t) ∧
    (∀ e ∈ run.2.entries, NamedImport.ofLine? e.line = some e ∧ boundImport? run.2.lines e.aliasName = some e) ∧
    ∀ later : List Resolution, (∀ r ∈ later, r.IsNameable) →
      let longer := seeds.qualifyAll (rs ++ later)
      run.1 <+: longer.1 ∧
      List.Forall₂ (fun r name => a.IsFaithful child longer.2.lines r name ↔ ¬a.IsMisled child longer.2 r) rs run.1 := by
  intro seeds run
  have hseeds : seeds.Importable := importable_seeded htransport hruntime
  have hrun : run.2.Importable := hseeds.qualifyAll hrs
  refine ⟨forall₂_isFaithful_qualifyAll_iff a child hrun hrs (Extends.refl _),
    fun m hm rest => a.readFrom_fromChild a.here child hm rest, fun t m name hm => ?_,
    fun e he => ⟨?_, hrun.boundImport?_lines hrun.blank he⟩, fun later hlater => ?_⟩
  · have hkeys : ∀ n ∈ m.fromChild, n ∈ leadWords := by
      intro n hn
      rcases ModulePath.mem_fromChild hn with hn | rfl
      · exact hm n hn
      · decide
    rw [qualify_of_keywords hkeys]
  · exact (hrun.named e he).ofLine?_line (hrun.blank e he)
  · intro longer
    have happend : longer = (run.1 ++ (run.2.qualifyAll later).1, (run.2.qualifyAll later).2) :=
      qualifyAll_append seeds rs later
    rw [happend]
    refine ⟨List.prefix_append _ _, ?_⟩
    exact forall₂_isFaithful_qualifyAll_iff a child (hrun.qualifyAll hlater) hrs (extends_qualifyAll _ later)

/-- The names of a module `handlers::api`. A date from `chrono::utc` has its name, until something is named from
`util::chrono`: the alias `chrono` of that module then diverts the line of the other one. -/
theorem qualifyAll_seeded_denotes_iff_chrono :
    let a : Surroundings := ⟨["handlers", "api"], fun n => if n = "Local" then some (.inside ["handlers", "api", n]) else none⟩
    let date : Resolution := .external ["chrono", "utc"] "Date"
    let rs : List Resolution := [.external ["super", "web"] "User", date, .external ["self"] "Kind", .localType "Local"]
    let seeds := seeded "handlergen::transport" "handlergen::web"
    let run := seeds.qualifyAll rs
    let longer := seeds.qualifyAll (rs ++ [.external ["util", "chrono"] "Stamp"])
    run.1 = ["web_1::User", "utc::Date", "super::Kind", "Local"] ∧
    longer.1 = ["web_1::User", "utc::Date", "super::Kind", "Local", "chrono::Stamp"] ∧
    List.Forall₂ (a.IsFaithful "dispatch" run.2.lines) rs run.1 ∧
    a.denoted date = some (.outside ["chrono", "utc", "Date"]) ∧
    ¬a.IsFaithful "dispatch" longer.2.lines date "utc::Date" := by
  intro a date rs seeds run longer
  have htransport : IsImportable "handlergen::transport" := ⟨by decide, by decide, by decide⟩
  have hruntime : IsImportable "handlergen::web" := ⟨by decide, by decide, by decide⟩
  have hrs : ∀ r ∈ rs, r.IsNameable := by
    simp only [rs, date, List.forall_mem_cons, List.not_mem_nil, false_implies, implies_true, and_true, Resolution.IsNameable]
    refine ⟨⟨by decide, ⟨["super"], ["web"], rfl, by decide, by decide⟩, by decide⟩,
      ⟨by decide, ⟨[], ["chrono", "utc"], rfl, by decide, by decide⟩, by decide⟩,
      ⟨by decide, ⟨["self"], [], rfl, by decide, by decide⟩, by decide⟩, by decide⟩
  have hlater : ∀ r ∈ [Resolution.external ["util", "chrono"] "Stamp"], r.IsNameable := by
    simp only [List.forall_mem_singleton, Resolution.IsNameable]
    exact ⟨by decide, ⟨[], ["util", "chrono"], rfl, by decide, by decide⟩, by decide⟩
  obtain ⟨hnow, -, -, -, hafter⟩ := qualifyAll_seeded_denotes_iff a "dispatch" htransport hruntime hrs
  have hnames : run.1 = ["web_1::User", "utc::Date", "super::Kind", "Local"] := by decide
  have hdate : a.denoted date = some (.outside ["chrono", "utc", "Date"]) := by decide
  have hkept : ∀ r, ¬a.IsMisled "dispatch" run.2 r := by
    -- No line of the first table starts at another one.
    have hroots : ∀ e ∈ run.2.entries, rootImport? run.2.lines e = none := by decide
    intro r hmisled
    cases r with
    | external m name =>
      obtain ⟨-, e, he, -, root, hroot, -⟩ := hmisled
      cases (hroots e he).symm.trans hroot
    | localType | glob | unresolved => exact hmisled
  have hmisled : a.IsMisled "dispatch" longer.2 date := by
    have hroot : rootImport? longer.2.lines ⟨"chrono::utc", "utc"⟩ = some ⟨"util::chrono", "chrono"⟩ := by decide
    refine ⟨⟨_, hdate⟩, ⟨"chrono::utc", "utc"⟩, by decide, by decide, _, hroot, fun hlead => ?_⟩
    cases hlead with
    | alone _ hread => exact absurd hread (by decide)
    | onward hroot' _ _ _ =>
      have hnone : rootImport? longer.2.lines ⟨"util::chrono", "chrono"⟩ = none := by decide
      cases hnone.symm.trans hroot'
  have hlonger := (hafter _ hlater).2
  rw [hnames] at hlonger
  obtain ⟨-, hrest⟩ := List.forall₂_cons.mp hlonger
  have hlost : ¬a.IsFaithful "dispatch" longer.2.lines date "utc::Date" := fun hfaithful =>
    (List.forall₂_cons.mp hrest).1.mp hfaithful hmisled
  exact ⟨hnames, by decide, hnow.imp fun r name hfaithful => hfaithful.mpr (hkept r), hdate, hlost⟩

end ImportTable

end Switchboard
