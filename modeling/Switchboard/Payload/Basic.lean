import Switchboard.Json.Record

/-! # Payloads

A payload is a value that a message can carry: it has a value to start from, it can be written as JSON, and it can be
read from JSON. Both directions can fail. -/

namespace Switchboard

open Numeric

/-- Types whose values messages can carry. -/
class Payload (α : Type) where
  /-- The value of a slot that nothing was read into. -/
  initial : α
  /-- A value as JSON. -/
  toJson : α → Except JsonFault Json
  /-- The value that JSON stands for. -/
  ofJson : Json → Except JsonFault α

/-- Every value survives being written and read. -/
class LawfulPayload (α : Type) [Payload α] : Prop where
  ofJson_of_toJson : ∀ {a : α} {v : Json}, Payload.toJson a = .ok v → Payload.ofJson v = .ok a

namespace Payload

/-- Reads the values of a list one after another; fails at the first that cannot be read. -/
def readAll {α β : Type} (read : α → Except JsonFault β) : List α → Except JsonFault (List β)
  | [] => .ok []
  | a :: as =>
    match read a with
    | .error fault => .error fault
    | .ok b => (readAll read as).map (b :: ·)

instance : Payload Bool where
  initial := false
  toJson b := .ok (.bool b)
  ofJson
    | .bool b => .ok b
    | v => .error (.invalidType v.found "a boolean")

instance : LawfulPayload Bool where
  ofJson_of_toJson h := by cases h; rfl

/-- The integers that a JSON integer can be. -/
def fitsJson (n : Int) : Bool :=
  IntegerKind.natural64.contains n || IntegerKind.signed64.contains n

instance {k : IntegerKind} : Payload (Bounded k) where
  initial := .zero
  toJson n := if fitsJson n.value then .ok (.integer n.value) else .error .numberOutOfRange
  ofJson
    | .integer n =>
      match Bounded.ofInt? n with
      | some b => .ok b
      | none => .error (Json.integerFault k (.integer n))
    | v => .error (Json.integerFault k v)

instance {k : IntegerKind} : LawfulPayload (Bounded k) where
  ofJson_of_toJson {a v} h := by
    simp only [toJson] at h
    split at h
    · cases h
      simp [ofJson, Bounded.ofInt?_value]
    · cases h

instance : Payload String where
  initial := ""
  toJson s := .ok (.string s)
  ofJson
    | .string s => .ok s
    | v => .error (Json.textFault v)

instance : LawfulPayload String where
  ofJson_of_toJson h := by cases h; rfl

instance : Payload Char where
  initial := '\x00'
  toJson c := .ok (.string (String.ofList [c]))
  ofJson
    | .string s =>
      match s.toList with
      | [c] => .ok c
      | _ => .error (.invalidValue (.string s) "a character")
    | v => .error (.invalidType v.found "a character")

instance : LawfulPayload Char where
  ofJson_of_toJson h := by cases h; simp [ofJson]

instance : Payload Unit where
  initial := ()
  toJson _ := .ok .null
  ofJson
    | .null => .ok ()
    | v => .error (.invalidType v.found "unit")

instance : LawfulPayload Unit where
  ofJson_of_toJson _ := by simp_all [toJson]; subst_vars; rfl

instance : Payload Json where
  initial := .null
  toJson v := .ok v
  ofJson v := .ok v

instance : LawfulPayload Json where
  ofJson_of_toJson h := by cases h; rfl

end Payload

/-- A number of a binary format. -/
structure Floating (f : BinaryFormat) where
  number : Binary
  deriving DecidableEq, Repr

namespace Floating

/-- The name of a format. -/
def formatName (f : BinaryFormat) : String :=
  if f = .single then "f32" else "f64"

instance {f : BinaryFormat} : Payload (Floating f) where
  initial := ⟨.zero false⟩
  toJson x := .ok (if x.number.isFinite then .float (x.number.convert f .double) else .null)
  ofJson
    | .integer n => .ok ⟨.ofInt f n⟩
    | .float x => .ok ⟨x.convert .double f⟩
    | v => .error (.invalidType v.found (formatName f))

end Floating

end Switchboard
