import Switchboard.Proofs.ImportedModules
import Switchboard.Proofs.RegistrationScope

/-! # Names by the finished table

The types of handlers are named one after another while the import table grows. As the table keeps its entries, a name
is also what the finished table gives (`describeAll_eq_map`), so it does not matter for a name when it was given. And what a
name stands for can be told from the table: it is the full name of the type, with an alias in place of the path of its
module if the type needs an import (`Names`). -/

namespace Switchboard

namespace ImportTable

variable {t t' : ImportTable} {path : String}

/-! ### Known names -/

theorem Extends.get?_eq (h : t'.Extends t) {path name : String} (hname : t.get? path = some name) :
    t'.get? path = some name := by
  obtain ⟨later, hlater⟩ := h
  obtain ⟨e, he, halias⟩ := Option.map_eq_some_iff.mp hname
  rw [ImportTable.get?, ← hlater, List.find?_append, he, Option.some_or, Option.map_some, halias]

theorem get?_bind (t : ImportTable) (path : String) : (t.bind path).2.get? path = some (t.bind path).1 := by
  cases hknown : t.get? path with
  | some name => simp only [bind, hknown]
  | none =>
    have hfind : t.entries.find? (·.path = path) = none := by simpa [get?] using hknown
    simp only [bind, hknown]
    rw [get?, List.find?_append, hfind]
    simp

theorem Extends.bind (h : t'.Extends (t.bind path).2) : t'.bind path = ((t.bind path).1, t') := by
  rw [ImportTable.bind, h.get?_eq (t.get?_bind path)]

theorem Extends.qualify {r : Resolution} (h : t'.Extends (t.qualify r).2) : t'.qualify r = ((t.qualify r).1, t') := by
  cases r with
  | localType | glob | unresolved => rfl
  | external m name =>
    by_cases hkey : ∀ n ∈ m.fromChild, n ∈ leadWords
    · rw [qualify_of_keywords hkey, qualify_of_keywords hkey]
    · simp only [not_forall] at hkey
      obtain ⟨n, hn, hkey⟩ := hkey
      rw [qualify_of_not_keyword hn hkey] at h ⊢
      rw [qualify_of_not_keyword hn hkey, Extends.bind h]

theorem Extends.typeName {type : DataType} (h : t'.Extends (t.typeName type).2) :
    t'.typeName type = ((t.typeName type).1, t') := by
  cases type with
  | scalar name => rfl
  | named r => exact Extends.qualify h

theorem Extends.named {role : Role} (h : t'.Extends (role.named t).2) : role.named t' = ((role.named t).1, t') := by
  cases role with
  | byValue type => simp only [Role.named, Extends.typeName h]
  | byPointer type => simp only [Role.named, Extends.typeName h]
  | injected what => rfl

theorem Extends.nameParameters {index : Nat} {forms : List ParameterForm}
    (h : t'.Extends (Switchboard.nameParameters t index forms).2) :
    Switchboard.nameParameters t' index forms = ((Switchboard.nameParameters t index forms).1, t') := by
  induction forms generalizing t index with
  | nil => rfl
  | cons form forms ih =>
    have hrole : t'.Extends (form.role.named t).2 := Extends.trans h (extends_nameParameters _ _ _)
    have hrest : t'.Extends (Switchboard.nameParameters (form.role.named t).2 (index + 1) forms).2 := h
    simp only [Switchboard.nameParameters, hrole.named, ih hrest]

theorem Extends.describe {form : HandlerForm} (h : t'.Extends (form.describe t).2) :
    form.describe t' = ((form.describe t).1, t') := by
  have hparameters : Switchboard.nameParameters t' 0 form.parameters = _ := Extends.nameParameters h
  simp only [HandlerForm.describe, hparameters]

/-- A path has an entry if it was asked for. -/
theorem mem_ofPaths_iff {paths : List String} : path ∈ (ofPaths paths).entries.map (·.path) ↔ path ∈ paths := by
  rw [paths_ofPaths, List.mem_eraseDups]

end ImportTable

open ImportTable

/-- Handlers that are described one after another are described as by the finished table, which knows all their types. -/
theorem describeAll_eq_map {t t' : ImportTable} {forms : List HandlerForm} (h : t'.Extends (describeAll t forms).2) :
    (describeAll t forms).1 = forms.map (fun form => (form.describe t').1) ∧
      ∀ form ∈ forms, (form.describe t').2 = t' := by
  induction forms generalizing t with
  | nil => exact ⟨rfl, by simp⟩
  | cons form forms ih =>
    have hform : t'.Extends (form.describe t).2 := Extends.trans h (extends_describeAll _ forms)
    obtain ⟨hrest, hknown⟩ := ih h
    refine ⟨?_, ?_⟩
    · rw [List.map_cons, hform.describe, ← hrest]
      rfl
    · rintro f (_ | ⟨_, hf⟩)
      · rw [hform.describe]
      · exact hknown f hf

/-! ### What a name stands for -/

/-- What the item of a resolution is called below the module in which it was resolved, without any import. -/
def Resolution.fullName : Resolution → String
  | .localType name => name
  | .external m name => m.fromChild.render ++ "::" ++ name
  | .glob name => name
  | .unresolved => ""

/-- What a data type is called without any import. -/
def DataType.fullName : DataType → String
  | .scalar name => name
  | .named r => r.fullName

namespace ImportTable

/-- The name is the full name of the type, with the table's alias in place of the path of the module that has to be
imported. -/
def Names (t : ImportTable) (type : DataType) (name : String) : Prop :=
  match type.importedModule? with
  | none => name = type.fullName
  | some path => ∃ qualifier item, t.get? path = some qualifier ∧ name = qualifier ++ "::" ++ item ∧
      type.fullName = path ++ "::" ++ item

/-- A role of a type, and that of a name that stands for the type. -/
inductive NamesRole (t : ImportTable) : Role → NamedRole → Prop where
  | byValue {type : DataType} {name : String} (h : t.Names type name) : NamesRole t (.byValue type) (.dataByValue name)
  | byPointer {type : DataType} {name : String} (h : t.Names type name) :
    NamesRole t (.byPointer type) (.dataByPointer name)
  | injected (what : Injected) : NamesRole t (.injected what) (.injected what)

variable {t : ImportTable}

/-- What a type is called by a table that knows it stands for it. -/
theorem names_of_known {type : DataType} (h : (t.typeName type).2 = t) : t.Names type (t.typeName type).1 := by
  cases type with
  | scalar name => rfl
  | named r =>
    cases r with
    | localType | glob | unresolved => rfl
    | external m name =>
      by_cases hkey : m.fromChild.all leadWords.contains = true
      · have hmodule : (DataType.named (.external m name)).importedModule? = none := if_pos hkey
        have hname : t.typeName (.named (.external m name)) = (m.fromChild.render ++ "::" ++ name, t) := if_pos hkey
        rw [Names, hmodule, hname]
        rfl
      · have hmodule : (DataType.named (.external m name)).importedModule? = some m.fromChild.render := if_neg hkey
        have hname : t.typeName (.named (.external m name)) =
            ((t.bind m.fromChild.render).1 ++ "::" ++ name, (t.bind m.fromChild.render).2) := if_neg hkey
        have hget := t.get?_bind m.fromChild.render
        rw [hname] at h
        rw [h] at hget
        rw [Names, hmodule, hname]
        exact ⟨_, name, hget, rfl, rfl⟩

theorem namesRole_of_known {role : Role} (h : (role.named t).2 = t) : t.NamesRole role (role.named t).1 := by
  cases role with
  | byValue type => exact .byValue (names_of_known h)
  | byPointer type => exact .byPointer (names_of_known h)
  | injected what => exact .injected what

theorem nameParameters_cons (t : ImportTable) (index : Nat) (form : ParameterForm) (forms : List ParameterForm) :
    (nameParameters t index (form :: forms)).1 =
      ⟨form.name, (form.role.named t).1, form.role.variableName index⟩ ::
        (nameParameters (form.role.named t).2 (index + 1) forms).1 := rfl

/-- By a table that knows them all, the names of types stand for the types of the parameters. -/
theorem namesRole_nameParameters {index : Nat} {forms : List ParameterForm} (h : (nameParameters t index forms).2 = t) :
    List.Forall₂ (fun (form : ParameterForm) (slot : DescribedParameter) => t.NamesRole form.role slot.role)
      forms (nameParameters t index forms).1 := by
  induction forms generalizing index with
  | nil => exact .nil
  | cons form forms ih =>
    have hextends : t.Extends (form.role.named t).2 := by
      have := extends_nameParameters (form.role.named t).2 (index + 1) forms
      rwa [show (nameParameters (form.role.named t).2 (index + 1) forms).2 = t from h] at this
    have hrole : (form.role.named t).2 = t := by rw [hextends.named]
    have hrest : (nameParameters t (index + 1) forms).2 = t := by
      have hcons : (nameParameters (form.role.named t).2 (index + 1) forms).2 = t := h
      rwa [hrole] at hcons
    rw [nameParameters_cons, hrole]
    exact .cons (namesRole_of_known hrole) (ih hrest)

end ImportTable

/-! ### What does not depend on the table -/

theorem Role.isData_named (role : Role) (t : ImportTable) : (role.named t).1.isData = role.isData := by
  cases role <;> rfl

theorem nameParameters_sourceName (t : ImportTable) (index : Nat) (forms : List ParameterForm) :
    (nameParameters t index forms).1.map (·.sourceName) = forms.map (·.name) := by
  induction forms generalizing t index with
  | nil => rfl
  | cons form forms ih => exact congrArg (form.name :: ·) (ih _ _)

theorem nameParameters_variableName_congr (t t' : ImportTable) (index : Nat) (forms : List ParameterForm) :
    (nameParameters t index forms).1.map (·.variableName) = (nameParameters t' index forms).1.map (·.variableName) := by
  induction forms generalizing t t' index with
  | nil => rfl
  | cons form forms ih => exact congrArg (form.role.variableName index :: ·) (ih _ _ _)

theorem nameParameters_isData (t : ImportTable) (index : Nat) (forms : List ParameterForm) :
    (nameParameters t index forms).1.map (·.role.isData) = forms.map (·.role.isData) := by
  induction forms generalizing t index with
  | nil => rfl
  | cons form forms ih =>
    rw [nameParameters_cons, List.map_cons, List.map_cons, ih, form.role.isData_named]

theorem decodableCount_describe (form : HandlerForm) (t : ImportTable) :
    (form.describe t).1.decodableCount = (form.parameters.filter (·.role.isData)).length := by
  have hdata := congrArg (List.countP id) (nameParameters_isData t 0 form.parameters)
  rw [List.countP_map, List.countP_map, List.countP_eq_length_filter, List.countP_eq_length_filter] at hdata
  exact hdata

end Switchboard
