import Switchboard.Payload.Basic

/-! # Drawings and values that cannot be written

A choice between variants, and two kinds of values that no message can carry. -/

namespace Switchboard

open Numeric

/-- Something to draw. A variant with data is an object whose only field has the variant's name. -/
inductive Drawing where
  | empty
  | circle (radius : Bounded .natural8)
  | rect (width height : Bounded .natural32)
  deriving DecidableEq, Repr

namespace Drawing

/-- The names of the variants. -/
def variants : List String := ["empty", "circle", "rect"]

/-- The sides of a rectangle. -/
def sides : Json.RecordShape where
  expected := "struct variant"
  fields := [("w", .integer .natural32), ("h", .integer .natural32)]

/-- The rectangle of some data, which has to be an object. -/
def rectOf : Json → Except JsonFault Drawing
  | .object fields => do
    match ← sides.ofObject fields with
    | [w, h] => return .rect (← Payload.ofJson w) (← Payload.ofJson h)
    | _ => .error (.invalidType .map sides.expected)
  | v => .error (.invalidType v.found sides.expected)

/-- The drawing of a variant with data, or without any. -/
def ofVariant (name : String) (data : Option Json) : Except JsonFault Drawing :=
  match name, data with
  | "empty", none => .ok .empty
  | "empty", some v => do
    let _ : Unit ← Payload.ofJson v
    return .empty
  | "circle", none => .error (.invalidType .unitVariant "newtype variant")
  | "circle", some v => return .circle (← Payload.ofJson v)
  | "rect", none => .error (.invalidType .unitVariant sides.expected)
  | "rect", some v => rectOf v
  | _, _ => .error (.unknownVariant name variants)

instance : Payload Drawing where
  initial := .empty
  toJson
    | .empty => .ok (.string "empty")
    | .circle r => .ok (.object [("circle", .integer r.value)])
    | .rect w h => .ok (.object [("rect", .object [("h", .integer h.value), ("w", .integer w.value)])])
  ofJson
    | .string name => ofVariant name none
    | .object [(name, v)] => ofVariant name (some v)
    | .object _ => .error (.invalidValue .map "map with a single key")
    | v => .error (.invalidType v.found "string or map")

end Drawing

/-- A value that refuses to be written, for a reason of its own. -/
structure Refusal where
  reason : String
  deriving DecidableEq, Repr

instance : Payload Refusal where
  initial := ⟨""⟩
  toJson r := .error (.refused r.reason)
  ofJson v := .error (.invalidType v.found "a string")

/-- A table whose keys are no texts, which JSON does not have. -/
structure KeylessTable where
  deriving DecidableEq, Repr

instance : Payload KeylessTable where
  initial := ⟨⟩
  toJson _ := .error .expectedKey
  ofJson v := .error (.invalidType v.found "a map")

end Switchboard
