import Switchboard.Codec.Basic
import Switchboard.Payload.Basic

/-! # The JSON codec

One value is a whole message; several values are the elements of an array, in order; no value needs no message. All
values of a response are converted before the response is touched. -/

namespace Switchboard.JsonMessage

variable {Slot Value : Type}

/-- A failure to convert a value, which has no place. -/
def misfit (fault : JsonFault) : CodecFault :=
  .json ⟨fault, none⟩

/-! ### Decoding -/

/-- Fills slots from values in order, up to the first value that does not fit. -/
def fillAll (fill : Slot → Json → Except JsonFault Slot) : List Slot → List Json → List Slot × Option CodecFault
  | slot :: slots, v :: vs =>
    match fill slot v with
    | .error fault => (slot :: slots, some (misfit fault))
    | .ok filled =>
      let (rest, e) := fillAll fill slots vs
      (filled :: rest, e)
  | slots, _ => (slots, none)

/-- Fills slots from the value of a body. -/
def fillFrom (fill : Slot → Json → Except JsonFault Slot) (v : Json) : List Slot → List Slot × Option CodecFault
  | [] => ([], none)
  | [slot] => fillAll fill [slot] [v]
  | slots =>
    match v with
    | .array vs =>
      if vs.length = slots.length then fillAll fill slots vs else (slots, some (.arity slots.length vs.length))
    | _ => (slots, some (.expectedArray slots.length))

/-- Fills slots from a body. Without slots the body does not matter. -/
def decodeBody (fill : Slot → Json → Except JsonFault Slot) (body : List UInt8) (slots : List Slot) :
    List Slot × Option CodecFault :=
  if slots.isEmpty then ([], none)
  else match Json.parse body with
    | .error e => (slots, some (.json e))
    | .ok v => fillFrom fill v slots

/-! ### Encoding -/

/-- The JSON of some values: of one the value itself, of several an array. No values have none. -/
def messageOf (toJson : Value → Except JsonFault Json) : List Value → Except JsonFault (Option Json)
  | [] => .ok none
  | [value] => (toJson value).map some
  | values => (Payload.readAll toJson values).map fun vs => some (.array vs)

/-- Writes the JSON of a message to the response. -/
def writeMessage (v : Json) : Serving (Option CodecFault) := do
  Serving.setHeader contentType jsonContent
  return (← Serving.write (Text.utf8 v.compact)).map .unwritten

/-- Writes values to the response. -/
def encodeValues (toJson : Value → Except JsonFault Json) (values : List Value) : Serving (Option CodecFault) :=
  match messageOf toJson values with
  | .error fault => return some (misfit fault)
  | .ok none => return none
  | .ok (some v) => writeMessage v

end JsonMessage

open JsonMessage in
/-- The JSON codec for slots and values that have JSON. -/
def jsonCodec {Slot Value : Type} (fill : Slot → Json → Except JsonFault Slot)
    (toJson : Value → Except JsonFault Json) : Codec Serving Slot Value where
  decode r slots := return decodeBody fill r.body slots
  encode := encodeValues toJson

end Switchboard
