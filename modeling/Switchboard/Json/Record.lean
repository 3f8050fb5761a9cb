import Switchboard.Json.Fault
import Switchboard.Numeric.Bounded

/-! # Records in JSON

A record is written as an object with its fields by name, or as an array of its fields in order. -/

namespace Switchboard.Json

open Numeric

/-- What a field of a record holds. -/
inductive FieldKind where
  | integer (kind : IntegerKind)
  | text

/-- A value that is no integer of a kind: one of the wrong size, or something else. -/
def integerFault (kind : IntegerKind) : Json → JsonFault
  | .integer n => .invalidValue (.integer n) kind.name
  | v => .invalidType v.found kind.name

/-- The fault of a value that is no text. -/
def textFault (v : Json) : JsonFault :=
  .invalidType v.found "a string"

/-- The fault of a value that does not fit a field, if it does not. -/
def FieldKind.fault? (kind : FieldKind) (v : Json) : Option JsonFault :=
  match kind, v with
  | integer kind, .integer n => if kind.contains n then none else some (integerFault kind (.integer n))
  | integer kind, v => some (integerFault kind v)
  | text, .string _ => none
  | text, v => some (textFault v)

/-- A record: what is expected where it has to stand, and its fields in order. -/
structure RecordShape where
  expected : String
  fields : List (String × FieldKind)

namespace RecordShape

/-- What is expected where an array stands for a record. -/
def expectedArray (s : RecordShape) : String :=
  s.expected ++ " with " ++ toString s.fields.length ++ " elements"

/-- The first field of a record that has no value. -/
def missing? (s : RecordShape) (known : List (String × Json)) : Option String :=
  (s.fields.find? fun f => (known.lookup f.1).isNone).map (·.1)

/-- The first fault of some fields, in their order. Names that the record does not know are passed over. -/
def fieldFault? (s : RecordShape) (fields : List (String × Json)) : Option JsonFault :=
  fields.findSome? fun (name, v) => (s.fields.lookup name).bind (·.fault? v)

/-- The values of a record that stands in an object, in the order of the fields. -/
def ofObject (s : RecordShape) (fields : List (String × Json)) : Except JsonFault (List Json) :=
  match s.fieldFault? fields, s.missing? fields with
  | some fault, _ => .error fault
  | none, some name => .error (.missingField name)
  | none, none => .ok (s.fields.filterMap fun f => fields.lookup f.1)

/-- The fault of some values that stand for fields in order. -/
def arrayFault? (s : RecordShape) (done : Nat) : List (String × FieldKind) → List Json → Option JsonFault
  | [], [] => none
  | [], rest => some (.invalidLength (done + rest.length) "fewer elements in array")
  | _ :: _, [] => some (.invalidLength done s.expectedArray)
  | (_, kind) :: fields, v :: vs =>
    match kind.fault? v with
    | some fault => some fault
    | none => arrayFault? s (done + 1) fields vs

/-- The values of a record, in the order of its fields. -/
def values (s : RecordShape) : Json → Except JsonFault (List Json)
  | .object fields => s.ofObject fields
  | .array vs =>
    match s.arrayFault? 0 s.fields vs with
    | some fault => .error fault
    | none => .ok vs
  | v => .error (.invalidType v.found s.expected)

end RecordShape

end Switchboard.Json
