import Switchboard.Handler.Descriptor

/-! # Registrations

How a dispatch file serves one handler: what the closure captures, the locals that receive decoded data, what is
passed to decoding, to the handler and to encoding, and how the handler's results are bound. A registration is a plan;
its parts have a written form, and the plan as a whole can also be carried out. -/

namespace Switchboard

/-- What a closure shares with the others. -/
inductive Collaborator where
  | codec
  | requestHook
  | responseHook
  deriving DecidableEq, Repr

/-- The variable of a collaborator. -/
def Collaborator.variableName : Collaborator → String
  | codec => "msg_codec"
  | requestHook => "on_request_error"
  | responseHook => "on_response_error"

/-- A local that receives decoded data, itself or in a box. -/
structure DataLocal where
  variableName : String
  typeName : String
  boxed : Bool
  deriving DecidableEq, Repr

/-- The declaration of a local, which starts from a default value. -/
def DataLocal.render (l : DataLocal) : String :=
  if l.boxed then s!"let mut {l.variableName}: Box<{l.typeName}> = Box::default();"
  else s!"let mut {l.variableName}: {l.typeName} = Default::default();"

/-- A variable that is handed on: itself, or what its box holds. -/
structure Handed where
  variableName : String
  throughBox : Bool
  deriving DecidableEq, Repr

namespace Handed

/-- A variable handed on to be filled. -/
def renderMutable (h : Handed) : String :=
  (if h.throughBox then "&mut *" else "&mut ") ++ h.variableName

/-- A variable handed on to be read. -/
def renderShared (h : Handed) : String :=
  (if h.throughBox then "&*" else "&") ++ h.variableName

end Handed

/-- The variables that a handler's results are bound to. -/
inductive ResultPattern where
  | nothing
  | single (name : String)
  | tuple (names : List String)
  deriving DecidableEq, Repr

namespace ResultPattern

/-- The bound variables in order. -/
def variableNames : ResultPattern → List String
  | nothing => []
  | single name => [name]
  | tuple names => names

/-- The binding in front of a call. A tuple of one has a comma behind its only variable. -/
def render : ResultPattern → String
  | nothing => ""
  | single name => s!"let {name} = "
  | tuple [name] => s!"let ({name},) = "
  | tuple names => "let (" ++ ", ".intercalate names ++ ") = "

end ResultPattern

/-- How one handler is served. -/
structure Registration where
  name : String
  captures : List Collaborator
  locals : List DataLocal
  decoded : List Handed
  arguments : List String
  results : ResultPattern
  encoded : List Handed
  deriving DecidableEq, Repr

namespace DescribedParameter

/-- The local that receives a slot's data. -/
def dataLocal? (p : DescribedParameter) : Option DataLocal :=
  match p.role with
  | .dataByValue typeName => some ⟨p.variableName, typeName, false⟩
  | .dataByPointer typeName => some ⟨p.variableName, typeName, true⟩
  | .injected _ => none

/-- What is handed on to be filled with a slot's data. -/
def decoded? (p : DescribedParameter) : Option Handed :=
  match p.role with
  | .dataByValue _ => some ⟨p.variableName, false⟩
  | .dataByPointer _ => some ⟨p.variableName, true⟩
  | .injected _ => none

end DescribedParameter

/-- What is handed on of a result. -/
def DescribedResult.encoded (r : DescribedResult) : Handed :=
  ⟨r.variableName, r.role = .byPointer⟩

namespace Descriptor

/-- The variables that the handler's results are bound to. -/
def resultPattern (d : Descriptor) : ResultPattern :=
  match d.results with
  | [] => .nothing
  | [r] => if d.returnsTuple then .tuple [r.variableName] else .single r.variableName
  | many => .tuple (many.map (·.variableName))

/-- What the closure shares with the others: the codec and a hook for each direction in which data goes. -/
def captures (d : Descriptor) : List Collaborator :=
  let decodes := d.decodableCount > 0
  let encodes := !d.results.isEmpty
  (if decodes || encodes then [.codec] else []) ++ (if decodes then [.requestHook] else [])
    ++ (if encodes then [.responseHook] else [])

/-- How the handler is served. -/
def registration (d : Descriptor) : Registration where
  name := d.name
  captures := d.captures
  locals := d.parameters.filterMap (·.dataLocal?)
  decoded := d.parameters.filterMap (·.decoded?)
  arguments := d.parameters.map (·.variableName)
  results := d.resultPattern
  encoded := d.results.map (·.encoded)

end Descriptor

namespace Registration

/-- The arguments of the call that decodes. -/
def decodeArguments (r : Registration) : String :=
  ", ".intercalate (r.decoded.map (·.renderMutable))

/-- The arguments of the call that encodes. -/
def encodeArguments (r : Registration) : String :=
  ", ".intercalate (r.encoded.map (·.renderShared))

/-- The call of the handler. It is named through `super`, so that no local can hide it. -/
def call (r : Registration) : String :=
  r.results.render ++ s!"super::{r.name}(" ++ ", ".intercalate r.arguments ++ ");"

end Registration

end Switchboard
