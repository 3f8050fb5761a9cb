import Switchboard.Proofs.Handlers
import Switchboard.Proofs.ImportLines
import Switchboard.Proofs.Roles
import Switchboard.Proofs.Spine

/-! # The types of what the transport passes

A parameter is the request or the response writer if its type was written by the configured path. A dispatch file writes
the two types by itself: a fixed name behind the alias of the transport module, whose import has the configured path as
it is. So three places name one type, and they do not always agree. `exists_matched_path` says exactly when they do: the
configured name has to be the fixed one, the configured module path has to lead to the same place from the analysed
module and from its child, and no other import may divert the line of the transport module. No path through `self` or
`super` leads to the same place, since the import is read one level further down. -/

namespace Switchboard

open Source

/-- What a dispatch file calls a type behind the alias of the transport module. -/
def Injected.standardName : Injected → String
  | request => "Request"
  | responseWriter => "ResponseWriter"

theorem Injected.isName_standardName (what : Injected) : IsName what.standardName := by
  cases what <;> decide

theorem Injected.standardName_not_mem (what : Injected) : what.standardName ∉ leadWords := by
  cases what <;> decide

/-- The configured name of a type in the transport module. -/
def Conventions.injectedName (o : Conventions) : Injected → String
  | .request => o.requestType
  | .responseWriter => o.responseWriter

/-- The import of the transport module. -/
def Conventions.transportImport (o : Conventions) : NamedImport :=
  ⟨o.transportPath, lastName o.transportPath⟩

theorem Conventions.injectedPaths_of (o : Conventions) (what : Injected) :
    o.injectedPaths.of what = o.transportPath ++ "::" ++ o.injectedName what := by
  cases what <;> rfl

/-- The type of an injected parameter in a dispatch file. -/
def DispatchContext.injectedType (c : DispatchContext) (what : Injected) : String :=
  c.transportAlias ++ "::" ++ what.standardName

/-- The line that opens the closure of a handler, with the types of its two parameters. -/
def closureHead (name writer request : String) : String :=
  s!"        mux.handle_func(route_map.get_route(\"{name}\"), move |w: &mut dyn {writer}, r: &{request}| " ++ openBrace

/-! ### Written module paths -/

/-- A module path as written, an absolute one with `::` in front. -/
def ModulePath.written (absolute : Bool) (m : ModulePath) : String :=
  if absolute then "::" ++ m.render else m.render

/-- The names of a module path as written. -/
def ModulePath.writtenNames (absolute : Bool) (m : ModulePath) : List String :=
  if absolute then "" :: m else m

namespace ModulePath

variable {m : ModulePath} (absolute : Bool)

theorem pathNames_written (hm : m ≠ []) (h : ∀ n ∈ m, IsName n) :
    pathNames (m.written absolute) = m.writtenNames absolute := by
  have names : pathNames m.render = m := pathNames_render hm fun n hn => (h n hn).colon
  cases absolute with
  | false => exact names
  | true =>
    have absent : pathNames ("" ++ "::" ++ m.render) = "" :: pathNames m.render := pathNames_append (by decide) _
    rw [String.empty_append, names] at absent
    exact absent

theorem lastName_written (init : ModulePath) {last : String} (hlast : ':' ∉ last.toList) :
    lastName (written absolute (init ++ [last])) = last := by
  have name := lastName_render_concat init hlast
  cases absolute with
  | false => exact name
  | true =>
    by_cases hinit : init = []
    · subst hinit
      have single : written true ([] ++ [last]) = "" ++ "::" ++ last := by simp [written, render]
      rw [single]
      exact lastName_append hlast ""
    · have long : written true (init ++ [last]) = "::" ++ init.render ++ "::" ++ last := by
        simp [written, render_concat hinit, String.append_assoc]
      rw [long]
      exact lastName_append hlast _

/-- Where the path of an item is compared, a `::` in front of it does not count. -/
theorem relativePathText_written (hm : m ≠ []) (h : ∀ n ∈ m, IsName n) (name : String) :
    relativePathText (m.written absolute ++ "::" ++ name) = (m ++ [name]).render := by
  have relative : relativePathText (m ++ [name]).render = (m ++ [name]).render := by
    obtain ⟨first, rest, rfl⟩ := List.exists_cons_of_ne_nil hm
    rw [List.cons_append, render_cons (by simp), String.append_assoc]
    exact relativePathText_of_head ((h first List.mem_cons_self).head_ne _)
  cases absolute with
  | false => rwa [written, if_neg (by decide), ← render_concat hm]
  | true =>
    rw [written, if_pos rfl, String.append_assoc, String.append_assoc, relativePathText_absolute, ← String.append_assoc,
      ← render_concat hm]
    exact relative

end ModulePath

/-! ### A module read from its child -/

namespace Surroundings

variable (a : Surroundings)

/-- Whether a configured module path leads to the same place from the analysed module and from its child: an absolute
one only if its first name has nothing else in view, and any other one only if it is not relative to the module. -/
def Anchored (absolute : Bool) : ModulePath → Prop
  | [] => False
  | first :: rest =>
    (∀ n ∈ rest, n ∉ leadWords) ∧
      if absolute then a.readFrom a.here [first] = some (.outside [first]) else first ≠ "self" ∧ first ≠ "super"

variable {first : String} {rest : List String} {name standard : String}

/-- An absolute path is read without its `::` in the analysed module, where its first name has to stand for the crate. -/
theorem exists_common_item_absolute_iff (hempty : first ≠ "") (hstandard : standard ∉ leadWords) :
    (∃ item, (Place.outside [first]).descend? (rest ++ [standard]) = some item ∧
      a.readFrom a.here (first :: (rest ++ [name])) = some item) ↔ name = standard ∧ a.Anchored true (first :: rest) := by
  rw [Anchored, if_pos rfl]
  by_cases hkey : first ∈ leadWords
  · refine ⟨fun h => ?_, fun h => ?_⟩
    · obtain ⟨item, houtside, hinside⟩ := h
      rw [(Place.descend?_eq_some_iff.mp houtside).2] at hinside
      obtain ⟨names, hitem⟩ := a.readFrom_keyword hkey hinside
      cases hitem
    · obtain ⟨names, hitem⟩ := a.readFrom_keyword hkey h.2.2
      cases hitem
  · rw [a.readFrom_named hempty hkey, a.readFrom_named hempty hkey, Place.descend?_nil, Option.some.injEq]
    refine ⟨fun h => ?_, fun h => ?_⟩
    · obtain ⟨item, hchild, hparent⟩ := h
      have hplace := (Place.descend?_eq_some_iff.mp hparent).2.symm.trans (Place.descend?_eq_some_iff.mp hchild).2
      have hnamed : a.named first = .outside [first] := Place.below_left_injective (by simp) hplace
      rw [hnamed] at hparent
      obtain ⟨hname, hrest⟩ := (Place.exists_descend?_concat_iff hstandard).mp ⟨item, hchild, hparent⟩
      exact ⟨hname, hrest, hnamed⟩
    · rw [h.2.2]
      exact (Place.exists_descend?_concat_iff hstandard).mpr ⟨h.1, h.2.1⟩

/-- Any other path is read one level deeper in the child if it is relative to the module, and else to the same place. -/
theorem exists_common_item_relative_iff (child : String) (hempty : first ≠ "") (hstandard : standard ∉ leadWords) :
    (∃ item, ((a.readFrom (a.here ++ [child]) (first :: rest)).bind fun p => p.descend? [standard]) = some item ∧
      a.readFrom a.here (first :: (rest ++ [name])) = some item) ↔ name = standard ∧ a.Anchored false (first :: rest) := by
  rw [Anchored, if_neg (by decide)]
  by_cases hrelative : first = "self" ∨ first = "super"
  · refine ⟨fun h => ?_, fun h => ?_⟩
    · obtain ⟨item, hchild, hparent⟩ := h
      rcases hrelative with rfl | rfl
      · rw [readFrom_self] at hchild hparent
        exact absurd hparent (climb_descend?_ne hchild)
      · rw [readFrom_super] at hchild hparent
        exact absurd hparent (climb_descend?_ne hchild)
    · rcases hrelative with rfl | rfl
      · exact absurd rfl h.2.2.1
      · exact absurd rfl h.2.2.2
  · rw [not_or] at hrelative
    -- The place of any other first name does not depend on the module that reads it.
    have place : ∃ p : Place, ∀ module xs, a.readFrom module (first :: xs) = p.descend? xs := by
      by_cases hcrate : first = "crate"
      · subst hcrate
        exact ⟨_, fun module xs => a.readFrom_crate module xs⟩
      · refine ⟨a.named first, fun module xs => a.readFrom_named hempty ?_ module xs⟩
        simp [leadWords, hcrate, hrelative]
    obtain ⟨p, hp⟩ := place
    rw [hp, hp, ← Place.descend?_append, Place.exists_descend?_concat_iff hstandard, and_iff_left hrelative]

/-- The fixed name behind the path as the child reads it, and the configured name behind the path as the classifier has
it, denote one item exactly when the names are the same and the path is anchored. -/
theorem exists_common_item_iff (child : String) {absolute : Bool} {m : ModulePath} (hm : m ≠ [])
    (hnames : ∀ n ∈ m, IsName n) (hstandard : standard ∉ leadWords) :
    (∃ item, ((a.readFrom (a.here ++ [child]) (m.writtenNames absolute)).bind fun p => p.descend? [standard]) = some item ∧
      a.readFrom a.here (m ++ [name]) = some item) ↔ name = standard ∧ a.Anchored absolute m := by
  obtain ⟨first, rest, rfl⟩ := List.exists_cons_of_ne_nil hm
  have hempty : first ≠ "" := (hnames first List.mem_cons_self).ne_empty
  cases absolute with
  | true =>
    have read : a.readFrom (a.here ++ [child]) (ModulePath.writtenNames true (first :: rest)) =
      (Place.outside [first]).descend? rest := rfl
    rw [read, ← Place.descend?_append]
    exact a.exists_common_item_absolute_iff hempty hstandard
  | false => exact a.exists_common_item_relative_iff child hempty hstandard

end Surroundings

/-! ### The closure of a handler -/

/-- The import of the transport module stands first, and its alias is the last name of the configured path. -/
theorem ImportTable.extends_transport (transport runtime : String) :
    (seeded transport runtime).Extends ⟨[⟨transport, lastName transport⟩]⟩ :=
  extends_bind ⟨[⟨transport, lastName transport⟩]⟩ runtime

theorem ImportTable.Extends.get? {t : ImportTable} {e : NamedImport} (h : t.Extends ⟨[e]⟩) :
    t.get? e.path = some e.aliasName := by
  obtain ⟨rest, hentries⟩ := h
  simp [ImportTable.get?, ← hentries]

theorem ImportTable.Extends.boundImport? {t : ImportTable} {e : NamedImport} (h : t.Extends ⟨[e]⟩)
    (hline : NamedImport.ofLine? e.line = some e) : boundImport? t.lines e.aliasName = some e := by
  obtain ⟨rest, hentries⟩ := h
  rw [ImportTable.lines, ← hentries]
  exact boundImport?_cons_of_eq hline _

theorem Registration.closureHead_mem_lines (r : Registration) (a : SupportAliases) :
    closureHead r.name (a.transport ++ "::" ++ "ResponseWriter") (a.transport ++ "::" ++ "Request") ∈ r.lines a := by
  have head : closureHead r.name (a.transport ++ "::" ++ "ResponseWriter") (a.transport ++ "::" ++ "Request") =
      s!"        mux.handle_func(route_map.get_route(\"{r.name}\"), move |w: &mut dyn {a.transport}::ResponseWriter, "
        ++ s!"r: &{a.transport}::Request| " ++ openBrace := by
    -- Both have the same texts in a row, cut into pieces at other places.
    have regroup (front writer sep mid request back colons t : String) :
        front ++ (t ++ colons ++ writer) ++ (sep ++ mid) ++ (t ++ colons ++ request) ++ back ++ openBrace =
          front ++ t ++ (colons ++ (writer ++ sep)) ++ (mid ++ t ++ (colons ++ (request ++ back))) ++ openBrace := by
      simp only [String.append_assoc]
    exact regroup ("        mux.handle_func(route_map.get_route(\"" ++ r.name ++ "\"), move |w: &mut dyn ")
      "ResponseWriter" ", " "r: &" "Request" "| " "::" a.transport
  rw [Registration.lines, head]
  iterate 5 apply List.mem_append_left
  exact List.mem_append_right _ List.mem_cons_self

section
variable {o : Conventions} {files : List ModuleFile} {c : DispatchContext}

theorem transportAlias_of_ok (h : analyze o files = .ok c) : c.transportAlias = lastName o.transportPath := by
  obtain ⟨s, forms, -, -, rfl⟩ := analyze_ok h
  have hget := (ImportTable.extends_transport o.transportPath o.runtimePath).get?
  simp only [contextOf, hget, Option.getD_some]

theorem extends_transport_of_ok (h : analyze o files = .ok c) : c.imports.Extends ⟨[o.transportImport]⟩ := by
  obtain ⟨s, forms, -, -, rfl⟩ := analyze_ok h
  exact (extends_contextOf o forms).trans (ImportTable.extends_transport _ _)

/-- In a dispatch file, what an injected type denotes is found wherever the line of the transport module leads. -/
theorem Surroundings.denotesBelow_injectedType_iff (a : Surroundings) (h : analyze o files = .ok c) {absolute : Bool}
    {m : ModulePath} (hpath : o.transportPath = m.written absolute) (hm : m ≠ []) (hnames : ∀ n ∈ m, IsName n)
    (child : String) (what : Injected) (p : Place) :
    a.DenotesBelow child c.imports.lines (c.injectedType what) p ↔
      ∃ q, a.LeadsTo child c.imports.lines o.transportImport q ∧ q.descend? [what.standardName] = some p := by
  obtain ⟨init, last, rfl⟩ := (List.eq_nil_or_concat m).resolve_left hm
  rw [List.concat_eq_append] at hpath hnames
  have hlast : IsName last := hnames last (by simp)
  have halias : lastName o.transportPath = last := by rw [hpath, ModulePath.lastName_written absolute init hlast.colon]
  have hblank : ' ' ∉ o.transportPath.toList := by
    have hrender : ' ' ∉ (ModulePath.render (init ++ [last])).toList :=
      ModulePath.not_mem_render (by decide) fun n hn => (hnames n hn).blank
    cases absolute <;> simpa [hpath, ModulePath.written] using hrender
  have hline : NamedImport.ofLine? o.transportImport.line = some o.transportImport :=
    NamedImport.IsNamedByPath.ofLine?_line (Or.inl rfl) hblank
  have hbound := (extends_transport_of_ok h).boundImport? hline
  have hnamed : pathNames (c.injectedType what) = lastName o.transportPath :: [what.standardName] := by
    rw [DispatchContext.injectedType, transportAlias_of_ok h, halias, pathNames_append hlast.colon,
      pathNames_of_not_mem what.isName_standardName.colon]
  exact a.denotesBelow_bound hnamed (by simp) hbound

/-- The fixed name in a dispatch file, and a name behind the configured path as the classifier has it, denote one item
exactly when the names are the same, the path is anchored and the line of the transport module is not diverted. -/
theorem Surroundings.exists_injectedType_iff (a : Surroundings) (h : analyze o files = .ok c) {absolute : Bool}
    {m : ModulePath} (hpath : o.transportPath = m.written absolute) (hm : m ≠ []) (hnames : ∀ n ∈ m, IsName n)
    (child : String) (what : Injected) (name : String) :
    (∃ item, a.DenotesBelow child c.imports.lines (c.injectedType what) item ∧
      a.readFrom a.here (m ++ [name]) = some item) ↔
      name = what.standardName ∧ a.Anchored absolute m ∧ ¬a.IsDiverted child c.imports.lines o.transportImport := by
  have start : pathNames o.transportImport.path = m.writtenNames absolute := by
    rw [Conventions.transportImport, hpath, ModulePath.pathNames_written absolute hm hnames]
  simp only [a.denotesBelow_injectedType_iff h hpath hm hnames]
  by_cases hdiverted : a.IsDiverted child c.imports.lines o.transportImport
  · refine iff_of_false ?_ fun hsame => hsame.2.2 hdiverted
    rintro ⟨item, ⟨q, hlead, hbelow⟩, hitem⟩
    cases absolute with
    | true =>
      -- The names of an absolute path start with an empty one, which no line binds.
      obtain ⟨root, hroot, -⟩ := hdiverted
      obtain ⟨hempty, -, hfirst⟩ := rootImport?_eq_some hroot
      rw [start] at hfirst
      exact hempty (List.cons.inj hfirst).1.symm
    | false =>
      have relative : pathNames o.transportImport.path = m := start
      have length : [what.standardName].length = [name].length := rfl
      rw [← relative] at hitem
      exact a.not_readFrom_of_isDiverted hdiverted hlead length hbelow hitem
  · rw [and_iff_left hdiverted, ← a.exists_common_item_iff child hm hnames what.standardName_not_mem]
    simp only [a.leadsTo_iff hdiverted, start, Option.bind_eq_some_iff]

theorem closureHead_mem {d : Descriptor} (hd : d ∈ c.descriptors) :
    closureHead d.name (c.injectedType .responseWriter) (c.injectedType .request) ∈ c.lines := by
  have hregistration := d.registration.closureHead_mem_lines c.supportAliases
  have hlines : d.registration.lines c.supportAliases ⊆ c.registrations.flatMap (·.lines c.supportAliases) :=
    fun line hline => List.mem_flatMap.mpr ⟨d.registration, List.mem_map.mpr ⟨d, hd, rfl⟩, hline⟩
  rw [DispatchContext.lines]
  exact List.mem_append_left _ (List.mem_append_right _ (hlines hregistration))

/-- Whatever a configuration says, the closure of a handler has the fixed types, and a parameter in an injected role was
written by the configured path. The two denote one item exactly when the configured name is the fixed one, the configured
module path is anchored, and no other import diverts the line of the transport module. -/
theorem exists_matched_path (h : analyze o files = .ok c) {absolute : Bool} {m : ModulePath}
    (hpath : o.transportPath = m.written absolute) (hm : m ≠ []) (hnames : ∀ n ∈ m, IsName n) {what : Injected}
    (hname : IsName (o.injectedName what)) {d : Descriptor} (hd : d ∈ c.descriptors) {p : DescribedParameter}
    (hp : p ∈ d.parameters) (hrole : p.role = .injected what) (a : Surroundings) (child : String) :
    closureHead d.name (c.injectedType .responseWriter) (c.injectedType .request) ∈ c.lines ∧
    ∃ s, Scope.ofFiles files = .ok s ∧
      ∃ file ∈ files, ∃ f ∈ file.functions, d.name = f.name ∧
        ∃ mark type, Parameter.typed p.sourceName mark type ∈ f.signature.parameters ∧
          ∃ r, s.shape type = what.shapeOf r ∧
            ∃ path ∈ s.writtenPaths r, path = relativePathText (o.injectedPaths.of what) ∧
              ((∃ item, a.DenotesBelow child c.imports.lines (c.injectedType what) item ∧ a.read path = some item) ↔
                o.injectedName what = what.standardName ∧ a.Anchored absolute m ∧
                  ¬a.IsDiverted child c.imports.lines o.transportImport) := by
  refine ⟨closureHead_mem hd, ?_⟩
  obtain ⟨s, -, hs, -, -⟩ := analyze_ok h
  obtain ⟨file, hfile, f, hf, -, hdname, mark, type, role, t, hparameter, htype, hnamed⟩ :=
    exists_parameter_of_mem h hs hd hp
  rw [Role.named_eq_injected (hnamed.symm.trans hrole)] at htype
  obtain ⟨r, hshape, hmatched⟩ := Scope.roleOf_eq_injected_iff.mp htype
  refine ⟨s, hs, file, hfile, f, hf, hdname, mark, type, hparameter, r, hshape, _, hmatched, rfl, ?_⟩
  have written : relativePathText (o.injectedPaths.of what) = (m ++ [o.injectedName what]).render := by
    rw [o.injectedPaths_of, hpath, ModulePath.relativePathText_written absolute hm hnames]
  have parent : a.read (relativePathText (o.injectedPaths.of what)) = a.readFrom a.here (m ++ [o.injectedName what]) := by
    rw [written, Surroundings.read, ModulePath.pathNames_render (by simp)]
    intro n hn
    rcases List.mem_append.mp hn with hn | hn
    · exact (hnames n hn).colon
    · rw [List.mem_singleton.mp hn]
      exact hname.colon
  rw [parent]
  exact a.exists_injectedType_iff h hpath hm hnames child what _

/-- A request type that is configured under another name is recognised, and still gets the fixed name in the dispatch
file, which is no name of the item. -/
theorem exists_matched_path_renamed :
    let o : Conventions := { Conventions.ofModule "handlers" with transportPath := "my_rt::net", requestType := "Req" }
    let parameter : Parameter := .typed "r" ⟨2, 13⟩ (.reference false (.path ⟨false, [], ⟨"Req", .none⟩⟩))
    let file : ModuleFile := ⟨"h.rs", [.use ⟨1, 1⟩ (.path "my_rt" (.path "net" (.name "Req"))),
      .function ⟨"f", ⟨2, 8⟩, true, ⟨false, false, false, false, false, [parameter], none⟩⟩]⟩
    ∃ c, analyze o [file] = .ok c ∧ closureHead "f" "net::ResponseWriter" "net::Request" ∈ c.lines ∧
      relativePathText (o.injectedPaths.of .request) = "my_rt::net::Req" ∧
      ∀ (a : Surroundings) (child : String),
        ¬∃ item, a.DenotesBelow child c.imports.lines "net::Request" item ∧ a.read "my_rt::net::Req" = some item := by
  intro o parameter file
  let d : Descriptor := ⟨"f", [⟨"r", .injected .request, "r"⟩], [], false, 0, ⟨"h.rs", ⟨2, 8⟩⟩⟩
  let c : DispatchContext := ⟨"handlers", "config_serve_mux_handler", "net", "web",
    ⟨[⟨"my_rt::net", "net"⟩, ⟨"handlergen::web", "web"⟩]⟩, [d]⟩
  let s : Scope := ⟨[], [], [("Req", ⟨["my_rt", "net", "Req"], ⟨"h.rs", ⟨1, 1⟩⟩⟩)], []⟩
  have hs : Scope.ofFiles [file] = .ok s := rfl
  have hnamed : s.IsNamed ⟨false, [], ⟨"Req", .none⟩⟩ (.external ["my_rt", "net"] "Req") := by
    refine ⟨⟨rfl, by decide, trivial, Scope.not_isScalar (by decide) (by decide)⟩, ?_⟩
    rintro ⟨-, hname, -⟩
    exact absurd hname (by decide)
  have hrole : s.roleOf o.injectedPaths (s.shape (.reference false (.path ⟨false, [], ⟨"Req", .none⟩⟩))) =
      .ok (.injected .request) := by
    refine Scope.roleOf_eq_injected_iff.mpr ⟨.external ["my_rt", "net"] "Req", ?_, by decide⟩
    rw [Scope.shape, Scope.shapeWithin, Scope.shapeWithin_named hnamed]
    rfl
  have hforms : handlerForms s o.injectedPaths (declaredFunctions [file]) =
      .ok [⟨"f", ⟨"h.rs", ⟨2, 8⟩⟩, [⟨"r", .injected .request⟩], [], false⟩] := by
    have hparameters : s.parameterForms o.injectedPaths [] [parameter] = .ok [⟨"r", .injected .request⟩] := by
      rw [Scope.parameterForms, hrole]
      rfl
    have hform : s.formOf o.injectedPaths file ⟨"f", ⟨2, 8⟩, true, ⟨false, false, false, false, false, [parameter], none⟩⟩ =
        .ok ⟨"f", ⟨"h.rs", ⟨2, 8⟩⟩, [⟨"r", .injected .request⟩], [], false⟩ := by
      unfold Scope.formOf
      simp only [hparameters]
      rfl
    have hdeclared : declaredFunctions [file] =
      [⟨file, ⟨"f", ⟨2, 8⟩, true, ⟨false, false, false, false, false, [parameter], none⟩⟩⟩] := rfl
    rw [hdeclared, handlerForms, hform]
    rfl
  have h : analyze o [file] = .ok c := by
    have hcontext : contextOf o [⟨"f", ⟨"h.rs", ⟨2, 8⟩⟩, [⟨"r", .injected .request⟩], [], false⟩] = c := by decide
    rw [analyze_of_forms (by simp) hs hforms, hcontext]
  have hpath : o.transportPath = ModulePath.written false ["my_rt", "net"] := by decide
  have matched : relativePathText (o.injectedPaths.of .request) = "my_rt::net::Req" := by decide
  have all := exists_matched_path h hpath (by simp) (by decide) (show IsName (o.injectedName .request) by decide)
    (List.mem_singleton_self d) (List.mem_singleton_self _) rfl
  refine ⟨c, h, (all ⟨[], fun _ => none⟩ "dispatch").1, matched, fun a child hcommon => ?_⟩
  obtain ⟨-, s, -, file', -, f, -, -, mark, type, -, r, -, path, -, rfl, hiff⟩ := all a child
  rw [matched] at hiff
  exact absurd (hiff.mp hcommon).1 (by decide)

end

end Switchboard
