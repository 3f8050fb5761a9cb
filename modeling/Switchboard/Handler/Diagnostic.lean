import Switchboard.Source.Position

/-! # Why a handler is rejected

The causes for which a function cannot serve as a handler, and their wording. -/

namespace Switchboard

/-- Forms of types of which no value can be decoded. -/
inductive UnsupportedForm where
  | associated
  | slice
  | array
  | unit
  | tuple
  | functionPointer
  | rawPointer
  | never
  | inferred
  | invocation
  /-- A type of no known form, by its tokens. -/
  | verbatim (spelling : String)
  | unsizedText
  | generic (name : String)
  | genericAlias (name : String)
  | recursiveAlias (name : String)
  | boxOf (form : UnsupportedForm)
  | nestedPointer
  deriving DecidableEq, Repr

/-- The wording of an unsupported form. -/
def UnsupportedForm.describe : UnsupportedForm → String
  | associated => "qualified associated type"
  | slice => "slice"
  | array => "array"
  | unit => "unit type"
  | tuple => "tuple"
  | functionPointer => "function pointer"
  | rawPointer => "raw pointer"
  | never => "never type"
  | inferred => "inferred type"
  | invocation => "type macro"
  | verbatim spelling => s!"type `{spelling}`"
  | unsizedText => "unsized `str`"
  | generic name => s!"generic type `{name}`"
  | genericAlias name => s!"generic type alias `{name}`"
  | recursiveAlias name => s!"recursive type alias `{name}`"
  | boxOf form => "Box of " ++ form.describe
  | nestedPointer => "nested pointer"

/-- What the transport itself passes to a handler. -/
inductive Injected where
  | request
  | responseWriter
  deriving DecidableEq, Repr

/-- The wording of an injected role. -/
def Injected.describe : Injected → String
  | request => "request"
  | responseWriter => "response writer"

/-- Properties of a whole signature that a handler cannot have. -/
inductive SignatureFault where
  | isAsync
  | isUnsafe
  | isExtern
  | isVariadic
  | isGeneric
  | takesSelf
  deriving DecidableEq, Repr

/-- The wording of a fault of a signature. -/
def SignatureFault.describe : SignatureFault → String
  | isAsync => "async functions are not supported"
  | isUnsafe => "unsafe functions are not supported"
  | isExtern => "extern functions are not supported"
  | isVariadic => "variadic functions are not supported"
  | isGeneric => "generic functions are not supported"
  | takesSelf => "functions taking `self` are not supported"

/-- Why a type cannot be that of a parameter. -/
inductive TypeFault where
  | unsupported (form : UnsupportedForm)
  /-- A trait object or `impl` type other than the response writer. -/
  | interface
  /-- A reference to anything but the request. -/
  | borrowed
  | unresolved (name : String)
  deriving DecidableEq, Repr

/-- Why a function is rejected. -/
inductive HandlerFault where
  | signature (fault : SignatureFault)
  | parameterType (parameter : String) (fault : TypeFault)
  /-- A second parameter of one injected role. -/
  | duplicate (parameter : String) (role : Injected)
  deriving DecidableEq, Repr

/-- The wording of a rejection, without the function's name. -/
def HandlerFault.describe : HandlerFault → String
  | signature fault => fault.describe
  | parameterType parameter fault =>
    s!"parameter `{parameter}`: " ++ match fault with
      | .unsupported form => form.describe ++ " is not supported"
      | .interface => "interface types are not supported"
      | .borrowed => "borrowed parameters are not supported, take it by value or as a Box"
      | .unresolved name => s!"unresolved type `{name}`"
  | duplicate parameter role => s!"parameter `{parameter}`: duplicate injected " ++ role.describe ++ " parameter"

/-- A rejected function, and the place that is at fault. -/
structure HandlerRejection where
  position : Position
  function : String
  fault : HandlerFault
  deriving DecidableEq, Repr

/-- The wording of a rejection. -/
def HandlerRejection.message (r : HandlerRejection) : String :=
  r.position.render ++ s!": function `{r.function}`: " ++ r.fault.describe

end Switchboard
