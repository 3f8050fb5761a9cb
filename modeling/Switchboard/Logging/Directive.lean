import Switchboard.Event
import Switchboard.Files.PathText
import Switchboard.Text.Blank
import Switchboard.Text.Identifier

/-! # Log directives

A directive says up to which level events are logged, of which part of the program and with which fields:
`target[span{field=value}]=level`, where every part may be left out. -/

namespace Switchboard

/-- The most verbose level that is let through; `none` lets nothing through. -/
abbrev Threshold := Option Level

namespace Threshold

/-- How much a threshold lets through. -/
def verbosity (t : Threshold) : Nat :=
  (t.map Level.verbosity).getD 0

/-- Whether a threshold lets a level through. -/
def admits (t : Threshold) (level : Level) : Bool :=
  level.verbosity ≤ verbosity t

/-- The more verbose of two thresholds. -/
def max (t u : Threshold) : Threshold :=
  if verbosity t < verbosity u then u else t

/-- The name of a threshold. -/
def name : Threshold → String
  | none => "OFF"
  | some level => level.name

/-- The threshold with a given verbosity. -/
def ofNumber? : Nat → Option Threshold
  | 0 => some none
  | 1 => some (some .error)
  | 2 => some (some .warn)
  | 3 => some (some .info)
  | 4 => some (some .debug)
  | 5 => some (some .trace)
  | _ => none

/-- The number that some digits write, behind a plus sign perhaps. -/
def number? (cs : List Char) : Option Nat :=
  let digits := match cs with
    | '+' :: rest => rest
    | _ => cs
  if !digits.isEmpty && digits.all Char.isDigit then some (digits.foldl (fun n c => 10 * n + (c.toNat - 48)) 0)
  else none

/-- The threshold of a name, in letters of either case, or of a number. No name stands for errors only. -/
def parse? (s : String) : Option Threshold :=
  match (number? s.toList).bind ofNumber? with
  | some t => some t
  | none =>
    match s.toLower with
    | "" | "error" => some (some .error)
    | "warn" => some (some .warn)
    | "info" => some (some .info)
    | "debug" => some (some .debug)
    | "trace" => some (some .trace)
    | "off" => some none
    | _ => none

end Threshold

/-- A field that a directive asks for. -/
structure FieldPattern where
  name : String
  value : Option String
  deriving DecidableEq, Repr

/-- A directive. -/
structure Directive where
  target : Option String
  span : Option String
  fields : List FieldPattern
  threshold : Threshold
  deriving DecidableEq, Repr

namespace Directive

/-- How far a directive is read, and where the part begins that is being read. -/
inductive Reading where
  | start
  | levelOrTarget (start : Nat)
  | span (start : Nat)
  | field (start : Nat)
  | fieldsDone
  | spanDone
  | level (start : Nat)
  deriving DecidableEq, Repr

/-- The part of a text between two places. -/
def slice (cs : List Char) (start stop : Nat) : String :=
  String.ofList ((cs.take stop).drop start)

/-- A directive that says nothing. -/
def blank : Directive := ⟨none, none, [], some .trace⟩

/-- The field that a text asks for. -/
def fieldOf? (s : String) : Option FieldPattern :=
  if s = "" then none
  else match PathText.pieces '=' s.toList with
    | [] => none
    | name :: values => some ⟨.ofList name, values.head?.map String.ofList⟩

/-- The directive with another field. -/
def addField? (d : Directive) (s : String) : Option Directive :=
  (fieldOf? s).map fun f => { d with fields := d.fields ++ [f] }

/-- The directive with a level. No level stands for all. -/
def setLevel? (d : Directive) (s : String) : Option Directive :=
  if s = "" then some { d with threshold := some .trace }
  else (Threshold.parse? s).map fun t => { d with threshold := t }

/-- The directive that a single word makes: a level, or else a target of which all is logged. -/
def ofWord (d : Directive) (s : String) : Directive :=
  match Threshold.parse? s with
  | some t => { d with threshold := t, target := none }
  | none => { d with threshold := some .trace, target := some s }

/-- Whether a directive can start with a character: what names are made of, a hyphen or a colon. -/
def canStart (c : Char) : Bool :=
  c = '-' || c = ':' || Text.isIdentifierContinue c

/-- Reads the character at a place. -/
def step (cs : List Char) (d : Directive) (r : Reading) (i : Nat) (c : Char) : Option (Directive × Reading) :=
  match r, c with
  | .start, '[' => some (d, .span (i + 1))
  | .start, c => if canStart c then some (d, .levelOrTarget i) else none
  | .levelOrTarget start, '=' => some ({ d with target := some (slice cs start i) }, .level (i + 1))
  | .levelOrTarget start, '[' => some ({ d with target := some (slice cs start i) }, .span (i + 1))
  | .span start, ']' => some ({ d with span := some (slice cs start i) }, .spanDone)
  | .span start, '\x7b' =>
    let name := slice cs start i
    some ({ d with span := if name = "" then none else some name }, .field (i + 1))
  | .field start, '\x7d' => (d.addField? (slice cs start i)).map (·, .fieldsDone)
  | .field start, ',' => (d.addField? (slice cs start i)).map (·, .field (i + 1))
  | .fieldsDone, ']' => some (d, .spanDone)
  | .fieldsDone, _ => none
  | .spanDone, '=' => some (d, .level (i + 1))
  | .spanDone, _ => none
  | r, _ => some (d, r)

/-- Reads characters from a place on. -/
def steps (cs : List Char) (d : Directive) (r : Reading) (i : Nat) : List Char → Option (Directive × Reading)
  | [] => some (d, r)
  | c :: rest =>
    match step cs d r i c with
    | none => none
    | some (d, r) => steps cs d r (i + 1) rest

/-- The directive that a text writes. Blanks at its ends are not read, but they shift no place: what a part begins
with is counted from the first character. -/
def parse? (text : String) : Option Directive :=
  let cs := text.toList
  match steps cs blank .start 0 (Text.trimBlanks text).toList with
  | some (d, .levelOrTarget start) => some (d.ofWord (slice cs start cs.length))
  | some (d, .level start) => d.setLevel? (slice cs start cs.length)
  | some (d, .spanDone) => some d
  | _ => none

/-- Whether a directive is about events by themselves, and not about the spans around them. -/
def isStatic (d : Directive) : Bool :=
  d.span.isNone && d.fields.all (·.value.isNone)

/-- Whether a directive asks for the value of a field. -/
def asksValue (d : Directive) : Bool :=
  d.fields.any (·.value.isSome)

/-- The names of the fields that a directive asks for. -/
def fieldNames (d : Directive) : List String :=
  d.fields.map (·.name)

end Directive

end Switchboard
