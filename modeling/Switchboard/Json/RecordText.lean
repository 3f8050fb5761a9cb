import Switchboard.Json.Record
import Switchboard.Json.Skipped

/-! # Records in JSON text

A record is read straight from text, as an object or as an array of its fields in order, so that a fault has a place.
A fault that concerns the record as a whole is placed behind the record's end. -/

namespace Switchboard.Json

open Reader

/-- Fails at a value of the wrong kind. A value without parts is read first. -/
def wrongKind {α : Type} (expected : String) : Reader α := do
  match ← peek with
  | some 0x5B => failBehind (.invalidType .sequence expected)
  | some 0x7B => failBehind (.invalidType .map expected)
  | _ =>
    let v ← plainValue
    failBehind (.invalidType v.found expected)

/-- The value of a field. -/
def fieldValue (kind : FieldKind) : Reader Json := do
  match ← peekPastBlanks, kind with
  | none, _ => failAt (.ends .value)
  | some b, .integer k =>
    if b == 0x2D || isDigitByte b then
      let v ← number
      match kind.fault? v with
      | some fault => failBehind fault
      | none => return v
    else wrongKind k.name
  | some b, .text => if b == 0x22 then plainValue else wrongKind "a string"

/-- The fields of a record that stand in an object, at most `n` of them, up to the object's end. A second value for a
field is not read. -/
def recordFields (s : RecordShape) (known : List (String × Json)) (first : Bool) :
    Nat → Reader (Except JsonFault (List (String × Json)))
  | 0 => return .ok known
  | n + 1 => do
    if ← nextKey first then
      let name ← key
      match s.fields.lookup name with
      | none =>
        colon
        skipped
        recordFields s known false n
      | some kind =>
        if (known.lookup name).isSome then return .error (.duplicateField name)
        else
          colon
          let v ← fieldValue kind
          recordFields s (known ++ [(name, v)]) false n
    else
      match s.missing? known with
      | some name => return .error (.missingField name)
      | none => return .ok known

/-- The fields of a record that stand in an array, in order. -/
def recordElements (s : RecordShape) (done : List (String × Json)) :
    List (String × FieldKind) → Reader (Except JsonFault (List (String × Json)))
  | [] => return .ok done
  | (name, kind) :: rest => do
    if ← nextElement done.isEmpty then
      let v ← fieldValue kind
      recordElements s (done ++ [(name, v)]) rest
    else return .error (.invalidLength done.length s.expectedArray)

/-- Fails behind the end of a record, if that is where the text stands. -/
def failBehindRecord {α : Type} (fault : JsonFault) (close : UInt8) : Reader α := do
  if (← peekPastBlanks) == some close then skip 1
  failBehind fault

/-- The end of an array that holds a record. -/
def recordArrayEnd : Reader Unit := do
  match ← peekPastBlanks with
  | some 0x5D => skip 1
  | some 0x2C =>
    skip 1
    match ← peekPastBlanks with
    | some 0x5D => failAt .trailingComma
    | _ => failAt .trailingCharacters
  | some _ => failAt .trailingCharacters
  | none => failAt (.ends .list)

/-- The fields of a record, as an object. -/
def record (s : RecordShape) : Reader Json := do
  match ← peekPastBlanks with
  | none => failAt (.ends .value)
  | some 0x7B =>
    skip 1
    match ← recordFields s [] true ((← remaining) + 1) with
    | .ok fields =>
      skip 1
      return .ofFields fields
    | .error fault => failBehindRecord fault 0x7D
  | some 0x5B =>
    skip 1
    match ← recordElements s [] s.fields with
    | .ok fields =>
      recordArrayEnd
      return .ofFields fields
    | .error fault => failBehindRecord fault 0x5D
  | some _ => wrongKind s.expected

/-- The record that some bytes are the text of. -/
def parseRecord (s : RecordShape) (bytes : List UInt8) : Except JsonError Json :=
  runWhole (record s) bytes

end Switchboard.Json
