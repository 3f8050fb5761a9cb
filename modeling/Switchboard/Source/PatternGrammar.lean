import Switchboard.Source.TypeGrammar

/-! # The grammar of patterns

Of a parameter's pattern only its name matters: the bound name if the pattern is a plain one, else the spelling of
the whole pattern. The readers check the form of the pattern and keep its words. -/

namespace Switchboard.Source

/-- What has to be known of a pattern. -/
inductive Pattern where
  /-- A bound name, with `ref`, `mut` or a pattern behind `@` or without them. -/
  | name (name : String)
  /-- A range with an open end, whose dots stand at a place. -/
  | openRange (dots : Mark)
  | other
  deriving Repr

/-- A pattern's reader takes the readers of types and the reader of patterns one level deeper. -/
structure Patterns where
  types : Nested
  inner : Reader Pattern

namespace Patterns

variable (g : Patterns)

/-- Alternatives separated by bars. A bar may stand in front. -/
def alternatives : Reader Pattern := do
  let bar : Ahead := .butNot (.butNot (.punct "|") (.punct "||")) (.punct "|=")
  let leading ← Reader.punct? "|"
  let first ← g.inner
  let others ← Reader.many do
    if ← Reader.ahead bar then
      Reader.punct "|"
      return some (← g.inner)
    else return none
  return if leading || !others.isEmpty then .other else first

/-- What a range's bound can be; nothing where the range is open. -/
def rangeBound? : Reader Bool := do
  if ← Reader.ahead (.any [.nothing, .punct "|", .punct "=", .loneColon, .punct ",", .punct ";", .keyword "if"]) then
    return false
  if ← Reader.ahead .literal then Reader.literal
  else if ← Reader.ahead (.punct "<") then g.types.qualifiedPath true
  else if ← Reader.ahead (.any [.identifier, .pathKeyword, .punct "::"]) then
    let _ ← g.types.path true
  else
    Reader.keyword "const"
    Reader.skipGroup .brace
  return true

/-- The dots and the end of a range. A range that includes its end needs one; three dots are the older spelling of
such a range. -/
def rangeEnd (hasStart : Bool) : Reader Pattern := do
  let dots ← Reader.mark
  let inclusive ← (do
    if ← Reader.punct? "..=" then return true
    if ← Reader.ahead (.punct "...") then
      Reader.consume 3 [.token "..=" false]
      return true
    Reader.punct ".."
    return false)
  let hasEnd ← g.rangeBound?
  if inclusive && !hasEnd then Reader.fail
  if hasStart && hasEnd then return .other
  return if !hasStart && !hasEnd then .other else .openRange dots

/-- One field of a structure pattern. -/
def field : Reader Unit := do
  let boxed ← Reader.keyword? "box"
  let byReference ← Reader.keyword? "ref"
  let mutable ← Reader.keyword? "mut"
  if boxed || byReference || mutable then
    let _ ← Reader.identifier
  else if ← Reader.ahead .identifier then
    let _ ← Reader.identifier
    if ← Reader.punct? ":" then
      let _ ← g.alternatives
  else if ← Reader.ahead fun ts => (match ts with | .leaf _ (.literal .integer _) :: _ => true | _ => false) then
    let _ ← Reader.tree
    Reader.punct ":"
    let _ ← g.alternatives
  else Reader.fail

/-- The fields of a structure pattern. Two dots end them. -/
def fields : Reader Unit := do
  let one : Reader Bool := do
    g.types.outerAttributes
    if ← Reader.punct? ".." then return false
    g.field
    return true
  if ← Reader.ahead .nothing then return
  if ← one then
    let _ ← Reader.many do
      if ← Reader.ahead .nothing then return none
      Reader.punct ","
      if ← Reader.ahead .nothing then return none
      return if ← one then some () else none

/-- A pattern that starts with a path: the path itself, an invocation, a structure, or a range. -/
def pathPattern : Reader Pattern := do
  let plain ← (do
    if ← Reader.ahead (.punct "<") then
      g.types.qualifiedPath true
      return false
    else
      let p ← g.types.path true
      return !p.isGeneric)
  if plain && (← Reader.ahead (.butNot (.punct "!") (.punct "!="))) then
    Reader.punct "!"
    let _ ← Reader.anyGroup
    return .other
  if ← Reader.ahead (.group .brace) then
    Reader.inGroup .brace g.fields
    return .other
  if ← Reader.ahead (.group .parenthesis) then
    let _ ← Reader.inGroup .parenthesis (Reader.commaSeparated g.alternatives)
    return .other
  if ← Reader.ahead (.punct "..") then return (← g.rangeEnd true)
  return .other

/-- A bound name. -/
def namePattern : Reader Pattern := do
  let _ ← Reader.keyword? "ref"
  let _ ← Reader.keyword? "mut"
  let name ← (do if ← Reader.ahead (.keyword "self") then Reader.word else Reader.identifier)
  if ← Reader.punct? "@" then
    let _ ← g.inner
  return .name name

/-- An element of a slice pattern; an open range there needs parentheses. -/
def sliceElement : Reader Unit := do
  match ← g.alternatives with
  | .openRange dots => Reader.failAt dots
  | _ => return

/-- A pattern without alternatives at its top. -/
def body : Reader Pattern := do
  let leadsOn : Ahead :=
    .any [.punct "::", .punct "!", .group .brace, .group .parenthesis, .punct ".."]
  let startsPath : Ahead := fun ts =>
    (Ahead.identifier ts && Ahead.second leadsOn ts)
      || (Ahead.keyword "self" ts && Ahead.second (.punct "::") ts)
      || Ahead.any [.punct "::", .punct "<", .keywordOf ["Self", "super", "crate"]] ts
  if ← Reader.ahead startsPath then g.pathPattern
  else if ← Reader.keyword? "_" then return .other
  else if ← Reader.keyword? "box" then
    let _ ← g.inner
    return .other
  else if ← Reader.ahead (.any [.punct "-", .literal, .keyword "const"]) then
    let _ ← g.rangeBound?
    if ← Reader.ahead (.punct "..") then g.rangeEnd true else return .other
  else if ← Reader.ahead (.or .identifier (.keywordOf ["ref", "mut", "self"])) then g.namePattern
  else if ← Reader.punct? "&" then
    let _ ← Reader.keyword? "mut"
    let _ ← g.inner
    return .other
  else if ← Reader.ahead (.group .parenthesis) then
    let _ ← Reader.inGroup .parenthesis (Reader.commaSeparated g.alternatives)
    return .other
  else if ← Reader.ahead (.group .bracket) then
    let _ ← Reader.inGroup .bracket (Reader.commaSeparated g.sliceElement)
    return .other
  else if ← Reader.ahead (.butNot (.punct "..") (.punct "...")) then g.rangeEnd false
  else Reader.fail

/-- The reader of patterns for a number of levels of nesting. -/
def ofDepth (types : Nested) (depth : Nat) : Reader Pattern :=
  depth.repeat (fun inner => Patterns.body ⟨types, inner⟩) Reader.fail

/-- The name of a pattern: the bound name, or the spelling of a pattern that is no plain name. -/
def name (pattern : Reader Pattern) : Reader String := do
  let (p, spelling) ← Reader.withSpelling pattern
  return match p with
    | .name n => n
    | _ => spelling

end Patterns

end Switchboard.Source
