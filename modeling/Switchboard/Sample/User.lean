import Switchboard.Payload.Basic
import Switchboard.Json.RecordText

/-! # Users

The record that the sample handlers pass around. -/

namespace Switchboard

open Numeric

/-- A user. -/
structure User where
  id : Bounded .natural64
  name : String
  email : String
  deriving DecidableEq, Repr

namespace User

/-- The fields of a user. -/
def shape : Json.RecordShape where
  expected := "struct User"
  fields := [("id", .integer .natural64), ("name", .text), ("email", .text)]

/-- The user with the given fields. -/
def ofValues : List Json → Except JsonFault User
  | [id, name, email] => do
    return ⟨← Payload.ofJson id, ← Payload.ofJson name, ← Payload.ofJson email⟩
  | _ => .error (.invalidType .sequence shape.expected)

instance : Payload User where
  initial := ⟨.zero, "", ""⟩
  toJson u := .ok (.ofFields [("id", .integer u.id.value), ("name", .string u.name), ("email", .string u.email)])
  ofJson v := do ofValues (← shape.values v)

/-- The user that some bytes are the text of. -/
def parse (bytes : List UInt8) : Except JsonError User :=
  match Json.parseRecord shape bytes with
  | .error e => .error e
  | .ok v => (Payload.ofJson v).mapError (⟨·, none⟩)

end User

end Switchboard
