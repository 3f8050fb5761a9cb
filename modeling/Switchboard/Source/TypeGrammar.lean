import Switchboard.Source.Reader
import Switchboard.Source.TypeExpr

/-! # The grammar of types

Readers for paths, bounds, generic parameters and types. Types and expressions nest, so every reader takes the
readers for what is nested in it (`Nested`); `Nested.ofDepth` ties the knot, a number of levels deep. As every level
consumes a token, the number of tokens of a text is deep enough for it. -/

namespace Switchboard.Source

/-- The readers for what is nested in a type. -/
structure Nested where
  /-- A type; the argument tells whether it may go on with `+` and further bounds. -/
  typeOf : Bool → Reader TypeExpr
  /-- A bound of a parameter or binding. -/
  bound : Reader Bound
  expression : Reader Unit

/-- A generic argument between angle brackets. -/
inductive GenericArgument where
  | type (t : TypeExpr)
  | lifetime
  | other

/-- A type that can also be the name of a binding or constraint: one segment, without `::` in front and without
arguments in parentheses. -/
def TypeExpr.isBindable : TypeExpr → Bool
  | .path p => p.isBareName && match p.last.arguments with | .call => false | _ => true
  | _ => false

/-- A bound that names a trait. -/
def Bound.isTrait : Bound → Bool
  | .trait _ => true
  | _ => false

/-- A bound that is no lifetime. -/
def Bound.isLifetime : Bound → Bool
  | .lifetime => true
  | _ => false

/-- The path with the given segments. -/
def Path.ofSegments (absolute : Bool) (first : Segment) (others : List Segment) : Path :=
  ⟨absolute, (first :: others).dropLast, others.getLastD first⟩

namespace Ahead

/-- A tree that can start a bound. -/
def boundStart : Ahead :=
  any [word, punct "::", punct "?", lifetime, group .parenthesis]

/-- A parenthesis, or `::` and a parenthesis: the arguments of a callable trait. -/
def callStart : Ahead :=
  or (group .parenthesis) fun ts => punct "::" ts && third (group .parenthesis) ts

/-- `<` that opens generic parameters rather than a qualified path. -/
def parametersStart : Ahead := fun ts =>
  punct "<" ts &&
    (second (any [punct ">", punct "#", keyword "const"]) ts
      || (second (or lifetime identifier) ts && third (any [punct ">", punct ",", loneColon, punct "="]) ts))

end Ahead

namespace Nested

variable (g : Nested)

/-- A type that may go on with `+`. -/
def type : Reader TypeExpr := g.typeOf true

/-- A result type behind an arrow, if one comes. -/
def output (plus : Bool) : Reader (Option TypeExpr) := do
  if ← Reader.punct? "->" then return some (← g.typeOf plus) else return none

/-! ### Attributes -/

/-- A path of plain names, without arguments. -/
def modulePath : Reader Unit := do
  let segment : Ahead := .or .identifier .pathKeyword
  let name : Reader String := do
    if ← Reader.ahead segment then Reader.word else Reader.fail
  let _ ← Reader.punct? "::"
  let _ ← name
  let _ ← Reader.many do
    if ← Reader.punct? "::" then return some (← name) else return none

/-- What stands in an attribute's brackets. -/
def attributeContent : Reader Unit := do
  modulePath
  if ← Reader.ahead (.any [.group .parenthesis, .group .bracket, .group .brace]) then
    let _ ← Reader.anyGroup
  else if ← Reader.punct? "=" then g.expression

/-- One attribute of what follows. -/
def outerAttribute : Reader Unit := do
  Reader.punct "#"
  Reader.inGroup .bracket do
    if ← Reader.keyword? "unsafe" then Reader.inGroup .parenthesis g.attributeContent
    else g.attributeContent

/-- The attributes of what follows. -/
def outerAttributes : Reader Unit := do
  let _ ← Reader.many do
    if ← Reader.ahead (.punct "#") then return some (← g.outerAttribute) else return none

/-- The attributes of what contains them. -/
def innerAttributes : Reader Unit := do
  let _ ← Reader.many do
    if ← Reader.ahead (fun ts => Ahead.punct "#" ts && Ahead.second (.punct "!") ts) then
      Reader.punct "#"
      Reader.punct "!"
      return some (← Reader.inGroup .bracket g.attributeContent)
    else return none

/-! ### Paths -/

/-- A constant that stands for a generic argument: a literal or a block. -/
def constantArgument : Reader Unit := do
  if ← Reader.ahead .literal then Reader.literal else Reader.skipGroup .brace

/-- The constant that a parameter has by default; it may also be a name. -/
def constantDefault : Reader Unit := do
  if ← Reader.ahead .identifier then let _ ← Reader.identifier else constantArgument

/-- A generic argument. A lifetime that `+` follows begins a trait object. -/
def argument : Reader GenericArgument := do
  let constant : Ahead := .or .literal (.group .brace)
  if ← Reader.ahead (fun ts => Ahead.lifetime ts && !Ahead.second (.punct "+") ts) then
    Reader.lifetime
    return .lifetime
  if ← Reader.ahead constant then
    constantArgument
    return .other
  let t ← g.type
  if t.isBindable then
    if ← Reader.punct? "=" then
      if ← Reader.ahead constant then constantArgument else let _ ← g.type
      return .other
    if ← Reader.punct? ":" then
      let _ ← Reader.joinedBy "+" (.or (.punct ",") (.punct ">")) g.bound
      return .other
  return .type t

/-- The arguments in angle brackets. Their spelling puts lifetimes in front of the others. -/
def angleArguments : Reader (List TypeExpr) := do
  let _ ← Reader.punct? "::"
  Reader.punct "<"
  let arguments ← Reader.many do
    if ← Reader.ahead (.punct ">") then return none
    let (a, words) ← Reader.spelled g.argument
    if ← Reader.ahead (.punct ">") then return some (a, words, false)
    let _ ← Reader.spelled (Reader.punct ",")
    return some (a, words, true)
  let isLifetime : GenericArgument × List Word × Bool → Bool := fun (a, _) => match a with
    | .lifetime => true
    | _ => false
  let comma : List Word := [.token "," false]
  let ordered := arguments.filter isLifetime ++ arguments.filter (!isLifetime ·)
  let spelling := ordered.foldl (fun (words, separated) (_, argument, followed) =>
      (words ++ (if separated then [] else comma) ++ argument ++ (if followed then comma else []), followed))
    (([] : List Word), true)
  Reader.write spelling.1
  Reader.punct ">"
  return arguments.filterMap fun (a, _) => match a with
    | .type t => some t
    | _ => none

/-- A path's segment. Behind a path keyword no arguments follow; in an expression they need a `::` in front. -/
def segment (inExpression : Bool) : Reader Segment := do
  if ← Reader.ahead (.keywordOf ["super", "self", "crate", "try"]) then
    return ⟨← Reader.word, .none⟩
  let name ← (do if ← Reader.ahead (.keyword "Self") then Reader.word else Reader.identifier)
  let direct : Ahead := .butNot (.butNot (.punct "<") (.punct "<=")) (.punct "<<=")
  let turbofish : Ahead := fun ts => Ahead.punct "::" ts && Ahead.third (.punct "<") ts
  if (!inExpression && (← Reader.ahead direct)) || (← Reader.ahead turbofish) then
    return ⟨name, .angle (← g.angleArguments)⟩
  return ⟨name, .none⟩

/-- A path. A `::` before a parenthesis does not belong to it. -/
def path (inExpression : Bool) : Reader Path := do
  let absolute ← Reader.punct? "::"
  let first ← g.segment inExpression
  let others ← Reader.many do
    if ← Reader.ahead (fun ts => Ahead.punct "::" ts && !Ahead.third (.group .parenthesis) ts) then
      Reader.punct "::"
      return some (← g.segment inExpression)
    else return none
  return Path.ofSegments absolute first others

/-- `<T as Trait>::` and the segments behind it. -/
def qualifiedPath (inExpression : Bool) : Reader Unit := do
  Reader.punct "<"
  let _ ← g.type
  if ← Reader.keyword? "as" then
    let _ ← g.path false
  Reader.punct ">"
  Reader.punct "::"
  let _ ← g.segment inExpression
  let _ ← Reader.many do
    if ← Reader.punct? "::" then return some (← g.segment inExpression) else return none

/-! ### Generic parameters -/

/-- A generic parameter; answers whether it stands for a type or a constant. -/
def parameter : Reader Bool := do
  g.outerAttributes
  if ← Reader.lifetime? then
    if ← Reader.punct? ":" then
      let _ ← Reader.joinedBy "+" (.or (.punct ",") (.punct ">")) Reader.lifetime
    return false
  else if ← Reader.ahead .identifier then
    let _ ← Reader.identifier
    if ← Reader.punct? ":" then
      let _ ← Reader.joinedBy "+" (.any [.punct ",", .punct ">", .punct "="]) g.bound
    if ← Reader.punct? "=" then
      let _ ← g.type
    return true
  else if ← Reader.keyword? "const" then
    let _ ← Reader.identifier
    Reader.punct ":"
    let _ ← g.type
    if ← Reader.punct? "=" then constantDefault
    return true
  else if ← Reader.keyword? "_" then return true
  else Reader.fail

/-- The generic parameters in angle brackets, if they come; answers whether one of them stands for a type or a
constant. -/
def parameters : Reader Bool := do
  if ← Reader.punct? "<" then
    let kinds ← Reader.separatedBy "," (.punct ">") g.parameter
    Reader.punct ">"
    return kinds.any id
  return false

/-- `for<…>`, if it comes; answers whether it did. -/
def binder : Reader Bool := do
  if ← Reader.keyword? "for" then
    Reader.punct "<"
    let _ ← Reader.separatedBy "," (.punct ">") g.parameter
    Reader.punct ">"
    return true
  return false

/-! ### Bounds -/

/-- Arguments in parentheses, as of `Fn(A) -> B`. -/
def callArguments : Reader Unit := do
  let _ ← Reader.inGroup .parenthesis (Reader.commaSeparated g.type)
  let _ ← g.output false

/-- `const` or `[const]` in front of a bound; answers whether it came. -/
def constness : Reader Bool := do
  if ← Reader.ahead (.group .bracket) then
    Reader.inGroup .bracket (Reader.keyword "const")
    return true
  Reader.keyword? "const"

/-- A bound without surrounding parentheses. Where `constants` says so, `const` may stand in front; the bound is then
none that names a trait. -/
def traitBound (constants : Bool) : Reader Bound := do
  let bindsBefore ← g.binder
  let place ← Reader.mark
  let isConstant ← constness
  if isConstant && !constants then Reader.failAt place
  if ← Reader.punct? "?" then
    if !bindsBefore then
      let _ ← g.binder
  let p ← g.path false
  if p.last.arguments.isNone && (← Reader.ahead .callStart) then
    let _ ← Reader.punct? "::"
    g.callArguments
    return if isConstant then .other else .trait { p with last := { p.last with arguments := .call } }
  return if isConstant then .other else .trait p

/-- A precise-capturing list, `use<…>`. -/
def captureList : Reader Unit := do
  Reader.keyword "use"
  Reader.punct "<"
  let _ ← Reader.separatedBy "," (.punct ">") do
    if ← Reader.ahead .lifetime then Reader.lifetime
    else
      let _ ← Reader.word
  Reader.punct ">"

/-- One bound. `captures` and `constants` tell whether `use<…>` and `const` are allowed. -/
def boundOf (captures constants : Bool) : Reader Bound := do
  if ← Reader.lifetime? then return .lifetime
  let place ← Reader.mark
  if ← Reader.ahead (.keyword "use") then
    captureList
    if captures then return .lifetime else Reader.failAt place
  if ← Reader.ahead (.group .parenthesis) then Reader.inGroup .parenthesis (g.traitBound constants)
  else g.traitBound constants

/-- Bounds joined by `+`, at least one. Behind a `+` they end where no bound can start. -/
def bounds (plus captures constants : Bool) : Reader (List Bound) := do
  let first ← g.boundOf captures constants
  let constantStart : Ahead := .or (.group .bracket) (.keyword "const")
  let others ← Reader.many do
    if !plus then return none
    if !(← Reader.punct? "+") then return none
    if ← Reader.ahead (fun ts => !Ahead.boundStart ts && !(constants && constantStart ts)) then return none
    return some (← g.boundOf captures constants)
  return first :: others

/-! ### Types -/

/-- The bounds of a trait object. One of them has to be a trait; if none is, the object's own place is at fault. -/
def objectBounds (place : Mark) (plus : Bool) : Reader (List Bound) := do
  let bs ← g.bounds plus false false
  if bs.any Bound.isTrait then return bs else Reader.failAt place

/-- A trait object without or with `dyn`, that may go on with `+`. -/
def object : Reader TypeExpr := do
  let place ← Reader.mark
  let _ ← Reader.keyword? "dyn"
  return .object (← g.objectBounds place true)

/-- An application binary interface, `extern "C"`, if it comes. -/
def abi : Reader Bool := do
  if ← Reader.keyword? "extern" then
    if ← Reader.ahead fun ts => (match ts with | .leaf _ (.literal .text _) :: _ => true | _ => false) then
      let _ ← Reader.tree
    return true
  return false

/-- `...` and what may stand around it at the end of a function pointer's parameters. -/
def variadicEnd : Reader Unit := do
  if ← Reader.ahead (.or .identifier (.keyword "_")) then
    let _ ← Reader.word
    Reader.punct ":"
  Reader.punct "..."
  let _ ← Reader.punct? ","

/-- A parameter of a function pointer, with or without a name. The first may be `self`. -/
def pointerParameter (first : Bool) : Reader Unit := do
  let mutableSelf : Ahead := fun ts => first && Ahead.keyword "mut" ts && Ahead.second (.keyword "self") ts
  let named : Ahead := fun ts =>
    Ahead.any [.identifier, .keyword "_", fun ts => first && Ahead.keyword "self" ts] ts
      && Ahead.second .loneColon ts
  if ← Reader.ahead mutableSelf then
    Reader.keyword "mut"
    if ← Reader.ahead named then
      let _ ← Reader.word
      Reader.punct ":"
      let _ ← g.type
    else Reader.keyword "self"
  else
    if ← Reader.ahead named then
      let _ ← Reader.word
      Reader.punct ":"
    let _ ← g.type

/-- The parameters of a function pointer. -/
def pointerParameters : Reader Unit := do
  let variadic : Ahead := .or (.punct "...") fun ts =>
    Ahead.or .identifier (.keyword "_") ts && Ahead.second (.punct ":") ts && Ahead.third (.punct "...") ts
  let one (first : Bool) : Reader Bool := do
    g.outerAttributes
    if ← Reader.ahead variadic then
      variadicEnd
      return false
    else
      g.pointerParameter first
      return true
  if ← Reader.ahead .nothing then return
  if ← one true then
    let _ ← Reader.many do
      if ← Reader.ahead .nothing then return none
      Reader.punct ","
      if ← Reader.ahead .nothing then return none
      return if ← one false then some () else none

/-- A function pointer, from behind its binder on. -/
def functionPointer : Reader TypeExpr := do
  let _ ← Reader.keyword? "unsafe"
  let _ ← abi
  Reader.keyword "fn"
  Reader.inGroup .parenthesis g.pointerParameters
  let _ ← g.output false
  return .function

/-- What a parenthesis in a type can hold. -/
inductive Parenthesized where
  | whole (t : TypeExpr)
  /-- A type that is a bound if `+` follows the parenthesis. -/
  | element (t : TypeExpr) (bound? : Option Bound)
  | relaxed (b : Bound)

/-- The bound that a type in parentheses is when `+` follows it: a path, or a single bound without `dyn`. -/
def asBound? (dynamic : Bool) : TypeExpr → Option Bound
  | .path p => some (.trait p)
  | .object [b] => if dynamic then none else some b
  | _ => none

/-- The content of a parenthesis in a type. -/
def parenthesized : Reader Parenthesized := do
  if ← Reader.ahead .nothing then return .whole (.tuple [])
  if ← Reader.ahead .lifetime then return .whole (.paren (← g.object))
  if ← Reader.ahead (.punct "?") then return .relaxed (← g.traitBound false)
  let dynamic ← Reader.ahead (.keyword "dyn")
  let first ← g.type
  if ← Reader.punct? "," then
    return .whole (.tuple (first :: (← Reader.commaSeparated g.type)))
  return .element first (asBound? dynamic first)

/-- A type that starts with a parenthesis: a tuple, a type in parentheses, or bounds of which the first is. -/
def parenthesizedType (plus : Bool) : Reader TypeExpr := do
  let further : Reader (List Bound) := Reader.many do
    if ← Reader.punct? "+" then return some (← g.boundOf false false) else return none
  match ← Reader.inGroup .parenthesis g.parenthesized with
  | .whole t => return t
  | .relaxed b => return .object (b :: (← further))
  | .element t bound? =>
    if plus && (← Reader.ahead (.punct "+")) then
      if let some b := bound? then return .object (b :: (← further))
    return .paren t

/-- A type that starts with a path: the path itself, an invocation, or bounds of which the path is the first. -/
def pathType (plus binds : Bool) : Reader TypeExpr := do
  if ← Reader.ahead (.punct "<") then
    g.qualifiedPath false
    return .associated
  let p ← g.path false
  if !p.isGeneric && (← Reader.ahead (.butNot (.punct "!") (.punct "!="))) then
    Reader.punct "!"
    let _ ← Reader.anyGroup
    return .invocation
  if binds || (plus && (← Reader.ahead (.punct "+"))) then
    let others ← Reader.many do
      if !plus then return none
      if !(← Reader.punct? "+") then return none
      if ← Reader.ahead .boundStart then return some (← g.boundOf false false) else return none
    return .object (.trait p :: others)
  return .path p

/-- A type that starts with `dyn`. With a star it is of no known form. -/
def dynamicType (plus : Bool) : Reader TypeExpr := do
  let before ← get
  let place ← Reader.mark
  Reader.keyword "dyn"
  let starred ← Reader.punct? "*"
  let bs ← g.objectBounds place plus
  if starred then return .verbatim (← Reader.spellingSince before) else return .object bs

/-- An `impl` type. One of its bounds has to be more than a lifetime. -/
def implType (plus : Bool) : Reader TypeExpr := do
  let place ← Reader.mark
  Reader.keyword "impl"
  let bs ← g.bounds plus true true
  if bs.all Bound.isLifetime then Reader.failAt place else return .abstract bs

/-- A slice or an array. -/
def bracketType : Reader TypeExpr :=
  Reader.inGroup .bracket do
    let _ ← g.type
    if ← Reader.punct? ";" then
      g.expression
      return .array
    return .slice

/-- A type; `plus` tells whether it may go on with `+`. A reference and a pointer bind more tightly than `+`. -/
def typeBody (plus : Bool) : Reader TypeExpr := do
  let functionStart : Ahead := .keywordOf ["fn", "unsafe", "extern"]
  let named : Ahead := .or .identifier .pathKeyword
  let binds ← g.binder
  if binds then
    if ← Reader.ahead functionStart then g.functionPointer
    else if ← Reader.ahead named then g.pathType plus true
    else Reader.fail
  else if ← Reader.ahead (.group .parenthesis) then g.parenthesizedType plus
  else if ← Reader.ahead functionStart then g.functionPointer
  else if ← Reader.ahead (.any [named, .punct "::", .punct "<"]) then g.pathType plus false
  else if ← Reader.ahead (.keyword "dyn") then g.dynamicType plus
  else if ← Reader.ahead (.group .bracket) then g.bracketType
  else if ← Reader.punct? "*" then
    if !(← Reader.keyword? "const") then Reader.keyword "mut"
    let _ ← g.typeOf false
    return .pointer
  else if ← Reader.punct? "&" then
    let _ ← Reader.lifetime?
    let mutable ← Reader.keyword? "mut"
    return .reference mutable (← g.typeOf false)
  else if ← Reader.punct? "!" then return .never
  else if ← Reader.ahead (.keyword "impl") then g.implType plus
  else if ← Reader.keyword? "_" then return .inferred
  else if ← Reader.ahead .lifetime then g.object
  else Reader.fail

/-! ### Expressions -/

/-- The operators between two operands, longer ones in front of their beginnings. -/
def binaryOperators : List String :=
  ["..=", "&&", "||", "<<", ">>", "==", "!=", "<=", ">=", "..", "+", "-", "*", "/", "%", "^", "&", "|", "<", ">"]

/-- What an expression can start with, its signs apart. -/
def operand : Reader Unit := do
  if ← Reader.ahead .plainLiteral then
    let _ ← Reader.tree
  else if ← Reader.ahead (.any [.identifier, .pathKeyword, .punct "::", .punct "<"]) then
    if ← Reader.ahead (.punct "<") then g.qualifiedPath true
    else
      let _ ← g.path true
    if ← Reader.ahead (.butNot (.punct "!") (.punct "!=")) then
      Reader.punct "!"
      let _ ← Reader.anyGroup
    else if ← Reader.ahead (.group .brace) then Reader.skipGroup .brace
  else if ← Reader.ahead (.group .parenthesis) then
    let _ ← Reader.inGroup .parenthesis (Reader.commaSeparated g.expression)
  else if ← Reader.ahead (.group .bracket) then Reader.skipGroup .bracket
  else if ← Reader.ahead (.group .brace) then Reader.skipGroup .brace
  else if ← Reader.ahead (.keywordOf ["const", "unsafe", "loop", "if", "match", "while", "for", "async"]) then
    let _ ← Reader.many do
      if ← Reader.ahead (.or .nothing (.group .brace)) then return none else return some (← Reader.tree)
    Reader.skipGroup .brace
  else Reader.fail

/-- What may follow an operand: a call, an index, a field or method, `?`, and a conversion. -/
def postfixes : Reader Unit := do
  let _ ← Reader.many do
    if ← Reader.ahead (.group .parenthesis) then
      return some (← Reader.inGroup .parenthesis do let _ ← Reader.commaSeparated g.expression)
    if ← Reader.ahead (.group .bracket) then return some (← Reader.inGroup .bracket g.expression)
    if ← Reader.punct? "?" then return some ()
    if ← Reader.keyword? "as" then
      let _ ← g.typeOf false
      return some ()
    if ← Reader.ahead (.butNot (.punct ".") (.punct "..")) then
      Reader.punct "."
      let _ ← Reader.tree
      return some ()
    return none

/-- An operand with its signs and postfixes. -/
def signedOperand : Reader Unit := do
  let _ ← Reader.many do
    if ← Reader.punct? "-" then return some ()
    if ← Reader.punct? "!" then return some ()
    if ← Reader.punct? "*" then return some ()
    if ← Reader.punct? "&" then
      let _ ← Reader.keyword? "mut"
      return some ()
    return none
  g.operand
  g.postfixes

/-- An expression: operands with operators between them. -/
def expressionBody : Reader Unit := do
  g.signedOperand
  let _ ← Reader.many do
    match binaryOperators.find? (Ahead.punct · (← get).rest) with
    | some op =>
      Reader.punct op
      return some (← g.signedOperand)
    | none => return none

/-! ### Nesting -/

/-- The readers for one level of nesting more. -/
def deeper : Nested where
  typeOf := g.typeBody
  bound := g.boundOf false true
  expression := g.expressionBody

/-- The readers for a number of levels. -/
def ofDepth (depth : Nat) : Nested :=
  depth.repeat deeper ⟨fun _ => Reader.fail, Reader.fail, Reader.fail⟩

end Nested

end Switchboard.Source
