import Switchboard.Payload.Collection
import Switchboard.Sample.Drawing
import Switchboard.Sample.User

/-! # Data of any kind

The types that messages carry here, as data, so that slots of different types can stand in one list. -/

namespace Switchboard

open Numeric

/-- A type of payloads. -/
inductive PayloadType where
  | bool
  | integer (kind : IntegerKind)
  | floating (format : BinaryFormat)
  | char
  | string
  | unit
  | value
  | user
  | drawing
  | refusal
  | keylessTable
  | list (element : PayloadType)
  | option (content : PayloadType)
  | pair (first second : PayloadType)
  | table (entry : PayloadType)

namespace PayloadType

/-- The values of a type. -/
def Value : PayloadType → Type
  | bool => Bool
  | integer kind => Bounded kind
  | floating format => Floating format
  | char => Char
  | string => String
  | unit => Unit
  | value => Json
  | user => User
  | drawing => Drawing
  | refusal => Refusal
  | keylessTable => KeylessTable
  | list t => List t.Value
  | option t => Option t.Value
  | pair t u => t.Value × u.Value
  | table t => Table t.Value

/-- The values of every type are payloads. -/
@[reducible]
def payload : (t : PayloadType) → Payload t.Value
  | bool => inferInstanceAs (Payload Bool)
  | integer kind => inferInstanceAs (Payload (Bounded kind))
  | floating format => inferInstanceAs (Payload (Floating format))
  | char => inferInstanceAs (Payload Char)
  | string => inferInstanceAs (Payload String)
  | unit => inferInstanceAs (Payload Unit)
  | value => inferInstanceAs (Payload Json)
  | user => inferInstanceAs (Payload User)
  | drawing => inferInstanceAs (Payload Drawing)
  | refusal => inferInstanceAs (Payload Refusal)
  | keylessTable => inferInstanceAs (Payload KeylessTable)
  | list t => have := payload t; inferInstanceAs (Payload (List t.Value))
  | option t => have := payload t; inferInstanceAs (Payload (Option t.Value))
  | pair t u => have := payload t; have := payload u; inferInstanceAs (Payload (t.Value × u.Value))
  | table t => have := payload t; inferInstanceAs (Payload (Table t.Value))

/-- The types with a name of one word. -/
def named : List (String × PayloadType) :=
  ([.natural8, .natural16, .natural32, .natural64, .natural128, .size, .signed8, .signed16, .signed32, .signed64,
      .signed128, .signedSize] : List IntegerKind).map (fun k => (k.name, .integer k))
    ++ [("f32", .floating .single), ("f64", .floating .double), ("bool", .bool), ("char", .char), ("String", .string),
      ("()", .unit)]

/-- The type of a name. -/
def ofName? (name : String) : Option PayloadType :=
  named.lookup name

end PayloadType

/-- A value together with its type. -/
structure Datum where
  type : PayloadType
  value : type.Value

namespace Datum

/-- The value that a slot of a type starts from. -/
def initial (t : PayloadType) : Datum :=
  ⟨t, t.payload.initial⟩

/-- The value as JSON. -/
def toJson (d : Datum) : Except JsonFault Json :=
  d.type.payload.toJson d.value

/-- The value of a type that JSON stands for. -/
def ofJson (t : PayloadType) (v : Json) : Except JsonFault Datum :=
  (t.payload.ofJson v).map (⟨t, ·⟩)

/-- A slot filled with the value of its type that JSON stands for. -/
def fill (d : Datum) (v : Json) : Except JsonFault Datum :=
  ofJson d.type v

/-- A text. -/
def ofString (s : String) : Datum := ⟨.string, s⟩

/-- An integer of a kind. -/
def ofBounded {k : IntegerKind} (n : Bounded k) : Datum := ⟨.integer k, n⟩

/-- A user. -/
def ofUser (u : User) : Datum := ⟨.user, u⟩

end Datum

end Switchboard
