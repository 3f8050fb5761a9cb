import Switchboard.Dispatch.ImportTable

/-! # Descriptors of handlers

All that a dispatch file needs to know about a handler: for each parameter its role, with the type's name as the file
writes it, and the variable that stands for it; for each result how it is handed on, and its variable. -/

namespace Switchboard

/-- How a parameter is supplied, its type by name. -/
inductive NamedRole where
  | dataByValue (typeName : String)
  | dataByPointer (typeName : String)
  | injected (what : Injected)
  deriving DecidableEq, Repr

namespace NamedRole

/-- Whether the parameter is decoded from the request. -/
def isData : NamedRole → Bool
  | dataByValue _ => true
  | dataByPointer _ => true
  | injected _ => false

/-- The name of the type that is decoded. -/
def typeName? : NamedRole → Option String
  | dataByValue name => some name
  | dataByPointer name => some name
  | injected _ => none

end NamedRole

/-- A parameter of a handler. -/
structure DescribedParameter where
  sourceName : String
  role : NamedRole
  variableName : String
  deriving DecidableEq, Repr

/-- A result of a handler. -/
structure DescribedResult where
  role : Passing
  variableName : String
  deriving DecidableEq, Repr

/-- A handler as its dispatch file sees it. -/
structure Descriptor where
  name : String
  parameters : List DescribedParameter
  results : List DescribedResult
  returnsTuple : Bool
  decodableCount : Nat
  position : Position
  deriving DecidableEq, Repr

/-- The parameters that are decoded from the request. -/
def Descriptor.dataParameters (d : Descriptor) : List DescribedParameter :=
  d.parameters.filter (·.role.isData)

/-- The variable of what the transport passes. -/
def Injected.variableName : Injected → String
  | request => "r"
  | responseWriter => "w"

/-- The variable of the parameter at an index. -/
def parameterVariable (index : Nat) : String :=
  "a" ++ toString index

/-- The variable of the result at an index. -/
def resultVariable (index : Nat) : String :=
  "r" ++ toString index

/-- A role with its type named, and the table with the import that the name needs. -/
def Role.named (t : ImportTable) : Role → NamedRole × ImportTable
  | byValue type =>
    let (name, t') := t.typeName type
    (.dataByValue name, t')
  | byPointer type =>
    let (name, t') := t.typeName type
    (.dataByPointer name, t')
  | injected what => (.injected what, t)

/-- The variable of a parameter with a role at an index. -/
def Role.variableName (index : Nat) : Role → String
  | injected what => what.variableName
  | _ => parameterVariable index

/-- The slots of some parameters from an index on, named one after another. -/
def nameParameters (t : ImportTable) (index : Nat) : List ParameterForm → List DescribedParameter × ImportTable
  | [] => ([], t)
  | p :: rest =>
    let (role, t') := p.role.named t
    let (slots, t'') := nameParameters t' (index + 1) rest
    (⟨p.name, role, p.role.variableName index⟩ :: slots, t'')

/-- The descriptor of a handler, and the table with the imports that it needs. -/
def HandlerForm.describe (t : ImportTable) (h : HandlerForm) : Descriptor × ImportTable :=
  let (parameters, t') := nameParameters t 0 h.parameters
  let results := h.results.mapIdx fun index role => ⟨role, resultVariable index⟩
  (⟨h.name, parameters, results, h.returnsTuple, (parameters.filter (·.role.isData)).length, h.position⟩, t')

/-- The descriptors of some handlers, named one after another. -/
def describeAll (t : ImportTable) : List HandlerForm → List Descriptor × ImportTable
  | [] => ([], t)
  | h :: rest =>
    let (d, t') := h.describe t
    let (ds, t'') := describeAll t' rest
    (d :: ds, t'')

end Switchboard
