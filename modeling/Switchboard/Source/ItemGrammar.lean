import Switchboard.Source.PatternGrammar
import Switchboard.Source.Item
import Switchboard.Source.Lexer

/-! # The grammar of items

Readers for the top-level items of a source file. The bodies of functions, types, traits, implementations and
modules are passed over: they are one group each, and nothing inside them is declared at the top level. -/

namespace Switchboard.Source

/-- The readers that an item is made of. -/
structure Items where
  types : Nested
  pattern : Reader Pattern

/-- How far an item can be seen: everywhere, in some part of the program, or in its own module. -/
inductive Visibility where
  | everywhere
  | restricted
  | inherited
  deriving DecidableEq, Repr

namespace Items

variable (g : Items)

/-! ### What items have in common -/

/-- The parenthesis that restricts `pub`, if it is one: a path keyword alone, or `in` and a path. -/
def restriction : Reader Bool := do
  let content : Reader Bool := do
    if ← Reader.ahead (.keywordOf ["crate", "self", "super"]) then
      let _ ← Reader.word
      Reader.ahead .nothing
    else if ← Reader.keyword? "in" then
      Nested.modulePath
      return true
    else return false
  let before ← get
  match before.rest with
  | .group .parenthesis _ _ trees :: _ =>
    if Ahead.keywordOf ["crate", "self", "super", "in"] trees then
      if ← Reader.inGroup .parenthesis content then return true
      set before
    return false
  | _ => return false

/-- The visibility in front of an item. -/
def visibility : Reader Visibility := do
  if ← Reader.keyword? "pub" then
    if ← restriction then return .restricted else return .everywhere
  return .inherited

/-- One predicate of a `where` clause. -/
def predicate : Reader Unit := do
  let stop : Ahead :=
    .any [.nothing, .group .brace, .punct ",", .punct ";", .loneColon, .punct "="]
  if ← Reader.ahead (fun ts => Ahead.lifetime ts && Ahead.second (.punct ":") ts) then
    Reader.lifetime
    Reader.punct ":"
    let _ ← Reader.joinedBy "+" stop Reader.lifetime
  else
    let _ ← g.types.binder
    let _ ← g.types.type
    Reader.punct ":"
    let _ ← Reader.joinedBy "+" stop (g.types.boundOf false true)

/-- A `where` clause, if it comes. -/
def whereClause : Reader Unit := do
  if ← Reader.keyword? "where" then
    if ← Reader.ahead .parametersStart then Reader.fail
    let stop : Ahead :=
      .any [.nothing, .group .brace, .punct ",", .punct ";", .loneColon, .punct "="]
    let _ ← Reader.joinedBy "," stop g.predicate

/-- Bounds that a separator or one of some stops has to follow. -/
def boundsUntil (constants : Bool) (stop : Ahead) : Reader Unit := do
  let _ ← Reader.separatedBy "+" stop (g.types.boundOf false constants)

/-- Passes over the trees of an expression up to the semicolon behind it. A word that only begins an item cannot be
among them. -/
def skipInitialiser : Reader Unit := do
  let itemWord : Ahead :=
    .keywordOf ["pub", "use", "struct", "enum", "mod", "type", "trait", "static", "fn", "extern", "impl"]
  if ← Reader.ahead (.or .nothing (.punct ";")) then Reader.fail
  let _ ← Reader.many do
    if ← Reader.ahead (.any [.nothing, .punct ";", itemWord]) then return none else return some (← Reader.tree)

/-! ### Functions -/

/-- The receiver `self` in one of its forms; answers the place of `self`. -/
def receiver : Reader Mark := do
  let byReference ← Reader.punct? "&"
  if byReference then
    let _ ← Reader.lifetime?
  let _ ← Reader.keyword? "mut"
  let place ← Reader.mark
  Reader.keyword "self"
  if !byReference then
    if ← Reader.punct? ":" then
      let _ ← g.types.type
  return place

/-- What one entry of a parameter list is. -/
inductive ParameterEntry where
  | parameter (p : Parameter)
  | variadic

/-- One entry of a parameter list; a receiver can only be the first. -/
def parameterEntry (first : Bool) : Reader ParameterEntry := do
  let place ← Reader.mark
  g.types.outerAttributes
  if ← Reader.punct? "..." then return .variadic
  match ← Reader.lookAhead g.receiver with
  | some (selfPlace, behind) =>
    set behind
    if first then return .parameter (.receiver place) else Reader.failAt selfPlace
  | none =>
    if ← Reader.ahead (fun ts => Ahead.identifier ts && Ahead.second (.punct "<") ts) then
      let mark ← Reader.mark
      return .parameter (.typed "_" mark (← g.types.type))
    let name ← Patterns.name g.pattern
    Reader.punct ":"
    if ← Reader.punct? "..." then return .variadic
    let mark ← Reader.mark
    return .parameter (.typed name mark (← g.types.type))

/-- A parameter list with at most a number of entries: its parameters, and whether it ends in `...`. -/
def parameterListUpTo (first : Bool) : Nat → Reader (List Parameter × Bool)
  | 0 => Reader.fail
  | n + 1 => do
    if ← Reader.ahead .nothing then return ([], false)
    match ← g.parameterEntry first with
    | .variadic =>
      if !(← Reader.ahead .nothing) then Reader.punct ","
      return ([], true)
    | .parameter p =>
      if ← Reader.ahead .nothing then return ([p], false)
      Reader.punct ","
      let (ps, isVariadic) ← parameterListUpTo false n
      return (p :: ps, isVariadic)

/-- A parameter list: its parameters, and whether it ends in `...`. Every entry consumes a tree. -/
def parameterList : Reader (List Parameter × Bool) := do
  g.parameterListUpTo true ((← get).rest.length + 1)

/-- The words in front of `fn`. -/
def functionStart : Ahead := fun ts =>
  let optional (k : String) (ts : List TokenTree) := if Ahead.keyword k ts then ts.drop 1 else ts
  let rest := optional "unsafe" (optional "async" (optional "const" ts))
  let rest := if Ahead.keyword "extern" rest then
      match rest.drop 1 with
      | .leaf _ (.literal .text _) :: more => more
      | more => more
    else rest
  Ahead.keyword "fn" rest

/-- A function from its first word on; nothing for a declaration without a body. -/
def function (visibility : Visibility) : Reader Item := do
  let _ ← Reader.keyword? "const"
  let isAsync ← Reader.keyword? "async"
  let isUnsafe ← Reader.keyword? "unsafe"
  let isExtern ← Nested.abi
  Reader.keyword "fn"
  let mark ← Reader.mark
  let name ← Reader.identifier
  let isGeneric ← g.types.parameters
  let (parameters, isVariadic) ← Reader.inGroup .parenthesis g.parameterList
  let output ← g.types.output true
  g.whereClause
  if ← Reader.punct? ";" then return .other
  Reader.skipGroup .brace
  return .function
    { name, mark, isPublic := visibility = .everywhere,
      signature := { isAsync, isUnsafe, isExtern, isVariadic, isGeneric, parameters, output } }

/-! ### Imports -/

/-- The tree of an import, with the readers of trees one level deeper. A group may hold paths that start with `::` as
long as none stands in front of it (`root`); such a group is no tree of this language's present edition, and the
whole import then declares nothing. -/
def useTreeWith (inner : Bool → Reader (Option UseTree)) (root : Bool) : Reader (Option UseTree) := do
  if ← Reader.ahead (.or .identifier (.keywordOf ["self", "super", "crate", "try"])) then
    let name ← Reader.word
    if ← Reader.punct? "::" then return (← inner false).map (.path name)
    if ← Reader.keyword? "as" then
      if ← Reader.ahead (.or .identifier (.keyword "_")) then return some (.rename name (← Reader.word))
      else Reader.fail
    return some (.name name)
  else if ← Reader.punct? "*" then return some .glob
  else
    let trees ← Reader.inGroup .brace (Reader.commaSeparated do
      let fromRoot ← (if root then Reader.punct? "::" else return false)
      let tree ← inner (root && !fromRoot)
      return if fromRoot then none else tree)
    return if trees.all Option.isSome then some (.group (trees.filterMap id)) else none

/-- The tree of an import nested a number of levels. -/
def useTree (depth : Nat) : Bool → Reader (Option UseTree) :=
  depth.repeat useTreeWith fun _ => Reader.fail

/-- An import from `use` on. -/
def useItem (depth : Nat) (start : Mark) : Reader Item := do
  Reader.keyword "use"
  let absolute ← Reader.punct? "::"
  let tree ← useTree depth (!absolute)
  Reader.punct ";"
  return match tree with
    | some t => .use start t
    | none => .other

/-! ### Other items -/

/-- A structure or union from its keyword on. -/
def structItem : Reader Item := do
  Reader.keyword "struct"
  let name ← Reader.identifier
  let _ ← g.types.parameters
  let clauseFirst ← Reader.ahead (.keyword "where")
  g.whereClause
  if !clauseFirst && (← Reader.ahead (.group .parenthesis)) then
    Reader.skipGroup .parenthesis
    g.whereClause
    Reader.punct ";"
  else if ← Reader.ahead (.group .brace) then Reader.skipGroup .brace
  else Reader.punct ";"
  return .declaration .struct name

/-- An enumeration or a union from its keyword on. -/
def bracedItem (keyword : String) (kind : TypeKind) : Reader Item := do
  Reader.keyword keyword
  let name ← Reader.identifier
  let _ ← g.types.parameters
  g.whereClause
  Reader.skipGroup .brace
  return .declaration kind name

/-- A trait or a trait alias from its first word on. An alias declares no type. -/
def traitItem : Reader Item := do
  let isUnsafe ← Reader.keyword? "unsafe"
  let isAuto ← Reader.keyword? "auto"
  Reader.keyword "trait"
  let name ← Reader.identifier
  let _ ← g.types.parameters
  if !isUnsafe && !isAuto && (← Reader.punct? "=") then
    g.boundsUntil false (.or (.keyword "where") (.punct ";"))
    g.whereClause
    Reader.punct ";"
    return .other
  if ← Reader.punct? ":" then g.boundsUntil true (.or (.keyword "where") (.group .brace))
  g.whereClause
  Reader.skipGroup .brace
  return .declaration .trait name

/-- A type alias from `type` on. Without a target, or with bounds, it declares nothing. -/
def aliasItem : Reader Item := do
  Reader.keyword "type"
  let name ← Reader.identifier
  let isGeneric ← typeParameters
  let bounded ← Reader.punct? ":"
  if bounded then g.boundsUntil true (.any [.keyword "where", .punct "=", .punct ";"])
  g.whereClause
  let target ← (do
    if ← Reader.punct? "=" then return some (← Reader.withSpelling g.types.type) else return none)
  Reader.punct ";"
  return match target with
    | some (t, spelling) => if bounded then .other else .typeAlias name t spelling isGeneric
    | none => .other
where
  /-- Whether a parameter for a type is among the generic parameters; constants do not count here. -/
  typeParameters : Reader Bool := do
    if ← Reader.punct? "<" then
      let kinds ← Reader.separatedBy "," (.punct ">") do
        g.types.outerAttributes
        let isType ← Reader.ahead (.or .identifier (.keyword "_"))
        let _ ← g.types.parameter
        return isType
      Reader.punct ">"
      return kinds.any id
    return false

/-- A child module from its first word on. -/
def moduleItem : Reader Item := do
  let _ ← Reader.keyword? "unsafe"
  Reader.keyword "mod"
  let name ← (do if ← Reader.ahead (.keyword "try") then Reader.word else Reader.identifier)
  if !(← Reader.punct? ";") then Reader.skipGroup .brace
  return .module name

/-- An implementation from its first word on. -/
def implItem : Reader Item := do
  let _ ← Reader.keyword? "default"
  let _ ← Reader.keyword? "unsafe"
  Reader.keyword "impl"
  if ← Reader.ahead .parametersStart then
    let _ ← g.types.parameters
  if ← Reader.ahead (fun ts => Ahead.punct "?" ts && Ahead.second (.keyword "const") ts) then Reader.punct "?"
  let _ ← Reader.keyword? "const"
  if ← Reader.ahead (fun ts => Ahead.punct "!" ts && !Ahead.second (.group .brace) ts) then Reader.punct "!"
  let _ ← g.types.type
  if ← Reader.keyword? "for" then
    let _ ← g.types.type
  g.whereClause
  Reader.skipGroup .brace
  return .other

/-- A constant or static variable from its keyword on. -/
def valueItem (keyword : String) : Reader Item := do
  Reader.keyword keyword
  if keyword = "static" then
    let _ ← Reader.keyword? "mut"
    let _ ← Reader.identifier
    if ← Reader.punct? "=" then
      skipInitialiser
      Reader.punct ";"
      return .other
  else
    if ← Reader.ahead (.or .identifier (.keyword "_")) then
      let _ ← Reader.word
    else Reader.fail
    let _ ← g.types.parameters
  Reader.punct ":"
  let _ ← g.types.type
  if ← Reader.punct? "=" then skipInitialiser
  if keyword = "const" then g.whereClause
  Reader.punct ";"
  return .other

/-- `extern crate name;` or a block of foreign declarations. -/
def externItem : Reader Item := do
  let _ ← Reader.keyword? "unsafe"
  Reader.keyword "extern"
  if ← Reader.keyword? "crate" then
    if ← Reader.ahead (.keyword "self") then
      let _ ← Reader.word
    else
      let _ ← Reader.identifier
    if ← Reader.keyword? "as" then
      if !(← Reader.keyword? "_") then
        let _ ← Reader.identifier
    Reader.punct ";"
  else
    if ← Reader.ahead fun ts => (match ts with | .leaf _ (.literal .text _) :: _ => true | _ => false) then
      let _ ← Reader.tree
    Reader.skipGroup .brace
  return .other

/-- A macro definition of the newer form, from its keyword on. -/
def definitionItem : Reader Item := do
  Reader.keyword "macro"
  let _ ← Reader.identifier
  if ← Reader.ahead (.group .parenthesis) then Reader.skipGroup .parenthesis
  Reader.skipGroup .brace
  return .other

/-- An invocation at the top level, of the form `path!{…}`, `path!(…);` or `path! name {…}`. -/
def invocationItem : Reader Item := do
  Nested.modulePath
  Reader.punct "!"
  if ← Reader.ahead (.or .identifier (.keyword "try")) then
    let _ ← Reader.word
  if (← Reader.anyGroup) != .brace then Reader.punct ";"
  return .other

/-- One item. -/
def item (depth : Nat) : Reader Item := do
  let start ← Reader.mark
  g.types.outerAttributes
  let visibility ← visibility
  let next (p : Ahead) : Reader Bool := Reader.ahead p
  let second (k l : String) : Ahead := fun ts => Ahead.keyword k ts && Ahead.second (.keyword l) ts
  if ← next functionStart then g.function visibility
  else if ← next (.keyword "extern") then externItem
  else if ← next (.keyword "use") then useItem depth start
  else if ← next (.keyword "static") then g.valueItem "static"
  else if ← next (.keyword "const") then g.valueItem "const"
  else if ← next (.keyword "unsafe") then
    if ← next (.or (second "unsafe" "trait") (second "unsafe" "auto")) then g.traitItem
    else if ← next (second "unsafe" "impl") then g.implItem
    else if ← next (second "unsafe" "extern") then externItem
    else if ← next (second "unsafe" "mod") then moduleItem
    else
      Reader.keyword "unsafe"
      Reader.fail
  else if ← next (.keyword "mod") then moduleItem
  else if ← next (.keyword "type") then g.aliasItem
  else if ← next (.keyword "struct") then g.structItem
  else if ← next (.keyword "enum") then g.bracedItem "enum" .enum
  else if ← next (fun ts => Ahead.keyword "union" ts && Ahead.second .identifier ts) then g.bracedItem "union" .union
  else if ← next (.or (.keyword "trait") (second "auto" "trait")) then g.traitItem
  else if ← next (fun ts => Ahead.keyword "impl" ts
      || (Ahead.keyword "default" ts && !Ahead.second (.punct "!") ts)) then g.implItem
  else if ← next (.keyword "macro") then definitionItem
  else if visibility = .inherited && (← next (.any [.identifier, .keywordOf ["self", "super", "crate"], .punct "::"]))
    then invocationItem
  else Reader.fail

/-- All items of a file. -/
def items (depth : Nat) : Reader (List Item) := do
  g.types.innerAttributes
  Reader.many do
    if ← Reader.ahead .nothing then return none else return some (← g.item depth)

end Items

/-- The number of tokens and groups in some trees. -/
def TokenTree.count : TokenTree → Nat
  | .leaf _ _ => 1
  | .group _ _ _ content => 1 + countAll content
where
  /-- The number of tokens and groups in a list of trees. -/
  countAll : List TokenTree → Nat
    | [] => 0
    | t :: ts => t.count + countAll ts

/-- A reader of a whole text: it fails also where a group has tokens left over, or the text itself. -/
def readAll {α : Type} (source : String) (reader : Nat → Reader α) : Except Mark α := do
  let trees ← tokenTrees source
  let depth := TokenTree.count.countAll trees + 1
  let (a, c) ← (reader depth).run { rest := trees, close := .start, words := #[], stray := none }
  match (c.withStray (c.rest.head?.map (·.start))).stray with
  | some m => .error m
  | none => .ok a

/-- The top-level items of a source text, or the place of its first error. -/
def parseItems (source : String) : Except Mark (List Item) :=
  readAll source fun depth =>
    let types := Nested.ofDepth depth
    Items.items ⟨types, Patterns.ofDepth types depth⟩ depth

/-- A path on its own. -/
def parsePath? (source : String) : Option Path :=
  (readAll source fun depth => (Nested.ofDepth depth).path false).toOption

end Switchboard.Source
