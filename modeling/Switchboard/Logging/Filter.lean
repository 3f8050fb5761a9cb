import Switchboard.Logging.Directive

/-! # Log filters

A filter is made of directives. The most specific one that is about an event decides whether the event is logged. -/

namespace Switchboard

/-- Directives, no two of which are about the same events. -/
structure LogFilter where
  directives : List Directive
  /-- The most verbose level that any directive ever let through. -/
  ceiling : Threshold
  deriving DecidableEq, Repr

namespace LogFilter

/-- A filter without directives. -/
def empty : LogFilter := ⟨[], none⟩

/-- Whether two directives are about the same events. -/
def sameScope (d e : Directive) : Bool :=
  d.target = e.target && d.span = e.span && d.fields = e.fields

/-- The filter with another directive, which replaces one about the same events. -/
def add (f : LogFilter) (d : Directive) : LogFilter :=
  ⟨f.directives.filter (!sameScope d ·) ++ [d], f.ceiling.max d.threshold⟩

/-- The filter of some directives; of errors only if there are none. -/
def ofDirectives (ds : List Directive) : LogFilter :=
  if ds.isEmpty then empty.add { Directive.blank with threshold := some .error } else ds.foldl add empty

/-- The most verbose level that a filter lets through. Values of fields show late, so a filter that asks for one lets
everything through at first. -/
def maxLevel (f : LogFilter) : Threshold :=
  if f.directives.any (·.asksValue) then some .trace else f.ceiling

/-- Whether a directive is about an event. -/
def concerns (d : Directive) (e : Event) : Bool :=
  d.isStatic
    && (match d.target with
      | none => true
      | some t => t.toList.isPrefixOf e.speaker.path.toList)
    && d.fieldNames.all fun name => name = "message" || e.fields.any (·.1 = name)

/-- The length of a target; no target is shorter than any. -/
def targetSize : Option String → Nat
  | none => 0
  | some t => t.utf8ByteSize + 1

/-- Whether a directive is more specific than another: by the length of its target, then by the number of its fields,
and last by their names. -/
def isMoreSpecific (d e : Directive) : Bool :=
  let sizes (d : Directive) := (targetSize d.target, d.fields.length)
  let (a, b) := sizes d
  let (a', b') := sizes e
  a > a' || (a = a' && (b > b' || (b = b' && decide (d.fieldNames > e.fieldNames))))

/-- The most specific of some directives. -/
def mostSpecific? : List Directive → Option Directive
  | [] => none
  | d :: rest =>
    match mostSpecific? rest with
    | none => some d
    | some e => if isMoreSpecific e d then some e else some d

/-- Whether an event is logged. -/
def admits (f : LogFilter) (e : Event) : Bool :=
  match mostSpecific? (f.directives.filter (concerns · e)) with
  | none => false
  | some d => d.threshold.admits e.level

end LogFilter

end Switchboard
