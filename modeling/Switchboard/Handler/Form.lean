import Switchboard.Handler.Shape

/-! # Forms of handlers

A public function is a handler if each of its parameters has a role: data that is decoded from the request, by value
or in a box, or one of the two things the transport passes itself. Which role a parameter has depends on the shape of
its type alone; a role says what a type denotes, but not yet what it is called where the handler is used. -/

namespace Switchboard

open Source

/-- A type of which data can be decoded. -/
inductive DataType where
  | scalar (name : String)
  | named (resolution : Resolution)
  deriving DecidableEq, Repr

/-- How a parameter is supplied. -/
inductive Role where
  | byValue (type : DataType)
  | byPointer (type : DataType)
  | injected (what : Injected)
  deriving DecidableEq, Repr

/-- Whether a role's value is decoded from the request. -/
def Role.isData : Role → Bool
  | byValue _ => true
  | byPointer _ => true
  | injected _ => false

/-- The paths of the two types whose values the transport passes. -/
structure InjectedPaths where
  request : String
  responseWriter : String
  deriving DecidableEq, Repr

/-- A path without the `::` in front of it. -/
def withoutLeadingColons (cs : List Char) : List Char :=
  match cs with
  | ':' :: ':' :: rest => withoutLeadingColons rest
  | _ => cs

/-- A path's text without the `::` in front of it. -/
def relativePathText (path : String) : String :=
  String.ofList (withoutLeadingColons path.toList)

namespace Scope

variable (s : Scope)

/-- Whether a resolved type is the item of a given full path. A name that a glob supplies is, if one of the imported
modules has the path. -/
def isItem (r : Resolution) (path : String) : Bool :=
  match r with
  | .external m name => m.render ++ "::" ++ name == path
  | .glob name => s.globs.any fun m => m.render ++ "::" ++ name == path
  | _ => false

/-- The role of a parameter whose type is a reference. -/
def referenceRole (paths : InjectedPaths) (mutable : Bool) : Shape → Except TypeFault Role
  | .named r =>
    if !mutable && s.isItem r (relativePathText paths.request) then .ok (.injected .request)
    else .error .borrowed
  | .interface (some r) true =>
    if mutable && s.isItem r (relativePathText paths.responseWriter) then .ok (.injected .responseWriter)
    else .error .interface
  | .interface _ _ => .error .interface
  | .unresolved name => .error (.unresolved name)
  | _ => .error .borrowed

/-- The role of a parameter whose type is a box. -/
def boxRole : Shape → Except TypeFault Role
  | .scalar name => .ok (.byPointer (.scalar name))
  | .named r => .ok (.byPointer (.named r))
  | .interface _ _ => .error .interface
  | .unresolved name => .error (.unresolved name)
  | .unsupported form => .error (.unsupported (.boxOf form))
  | .boxed _ => .error (.unsupported .nestedPointer)
  | .reference _ _ => .error (.unsupported .nestedPointer)

/-- The role of a parameter, by the shape of its type. -/
def roleOf (paths : InjectedPaths) : Shape → Except TypeFault Role
  | .reference mutable target => s.referenceRole paths mutable target
  | .interface _ _ => .error .interface
  | .boxed inner => boxRole inner
  | .scalar name => .ok (.byValue (.scalar name))
  | .named r => .ok (.byValue (.named r))
  | .unresolved name => .error (.unresolved name)
  | .unsupported form => .error (.unsupported form)

end Scope

/-- A parameter with its role. -/
structure ParameterForm where
  name : String
  role : Role
  deriving DecidableEq, Repr

/-- How a result is handed on: itself, or what its box holds. -/
inductive Passing where
  | byValue
  | byPointer
  deriving DecidableEq, Repr

/-- A function that can serve as a handler. -/
structure HandlerForm where
  name : String
  position : Position
  parameters : List ParameterForm
  results : List Passing
  /-- Whether the results come as a tuple, also one of a single element. -/
  returnsTuple : Bool
  deriving DecidableEq, Repr

/-- The first property of a signature that no handler can have. -/
def Source.Signature.fault? (g : Signature) : Option SignatureFault :=
  if g.isAsync then some .isAsync
  else if g.isUnsafe then some .isUnsafe
  else if g.isExtern then some .isExtern
  else if g.isVariadic then some .isVariadic
  else if g.isGeneric then some .isGeneric
  else none

/-- A handler candidate is a function that is public without restriction. -/
def Source.Function.isCandidate (f : Function) : Bool :=
  f.isPublic

namespace Scope

variable (s : Scope)

/-- The forms of some parameters, in order; fails at the first that has no role, or whose injected role an earlier one
has (`taken`). -/
def parameterForms (paths : InjectedPaths) (taken : List Injected) :
    List Parameter → Except (Mark × HandlerFault) (List ParameterForm)
  | [] => .ok []
  | .receiver mark :: _ => .error (mark, .signature .takesSelf)
  | .typed name mark type :: rest =>
    match s.roleOf paths (s.shape type) with
    | .error fault => .error (mark, .parameterType name fault)
    | .ok (.injected what) =>
      if taken.contains what then .error (mark, .duplicate name what)
      else match parameterForms paths (what :: taken) rest with
        | .ok forms => .ok (⟨name, .injected what⟩ :: forms)
        | .error e => .error e
    | .ok role =>
      match parameterForms paths taken rest with
      | .ok forms => .ok (⟨name, role⟩ :: forms)
      | .error e => .error e

/-- The results of a function, and whether they come as a tuple. A unit result is none. -/
def resultRoles : Option TypeExpr → List Passing × Bool
  | none => ([], false)
  | some type =>
    let role (t : TypeExpr) : Passing := if s.isBoxed t then .byPointer else .byValue
    match s.expand type with
    | .tuple elements => (elements.map role, !elements.isEmpty)
    | single => ([role single], false)

/-- The form of a function of a file, or why it cannot serve as a handler. A fault of the whole signature comes before
those of its parameters. -/
def formOf (paths : InjectedPaths) (file : ModuleFile) (f : Function) : Except HandlerRejection HandlerForm :=
  match f.signature.fault? with
  | some fault => .error ⟨file.position f.mark, f.name, .signature fault⟩
  | none =>
    match s.parameterForms paths [] f.signature.parameters with
    | .error (mark, fault) => .error ⟨file.position mark, f.name, fault⟩
    | .ok parameters =>
      let (results, returnsTuple) := s.resultRoles f.signature.output
      .ok ⟨f.name, file.position f.mark, parameters, results, returnsTuple⟩

end Scope

end Switchboard
