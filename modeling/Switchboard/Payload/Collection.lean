import Switchboard.Payload.Basic

/-! # Collections as payloads

Lists, options, pairs and tables of payloads. -/

namespace Switchboard.Payload

variable {α β : Type} [Payload α] [Payload β]

instance : Payload (List α) where
  initial := []
  toJson as := (readAll toJson as).map .array
  ofJson
    | .array vs => readAll ofJson vs
    | v => .error (.invalidType v.found "a sequence")

instance : Payload (Option α) where
  initial := none
  toJson
    | none => .ok .null
    | some a => toJson a
  ofJson
    | .null => .ok none
    | v => (ofJson v).map some

/-- What is expected where a pair has to stand. -/
def expectedPair : String := "a tuple of size 2"

/-- The values of a pair. The second is read after the first, and what is left over is a fault at last. -/
def ofPair (v w : Json) (surplus : Nat) : Except JsonFault (α × β) := do
  let a ← ofJson v
  let b ← ofJson w
  if surplus = 0 then return (a, b) else .error (.invalidLength (surplus + 2) "fewer elements in array")

instance : Payload (α × β) where
  initial := (initial, initial)
  toJson p := do
    let v ← toJson p.1
    let w ← toJson p.2
    return .array [v, w]
  ofJson
    | .array [] => .error (.invalidLength 0 expectedPair)
    | .array [v] => do
      let _ : α ← ofJson v
      .error (.invalidLength 1 expectedPair)
    | .array (v :: w :: rest) => ofPair v w rest.length
    | v => .error (.invalidType v.found expectedPair)

end Switchboard.Payload

namespace Switchboard

/-- Values by name, in the order of names. -/
structure Table (α : Type) where
  entries : List (String × α)
  deriving DecidableEq, Repr

/-- One entry of a table, as it is read or written. -/
def Table.entry {α β : Type} (convert : α → Except JsonFault β) (e : String × α) : Except JsonFault (String × β) :=
  (convert e.2).map (e.1, ·)

instance {α : Type} [Payload α] : Payload (Table α) where
  initial := ⟨[]⟩
  toJson t := (Payload.readAll (Table.entry Payload.toJson) t.entries).map .ofFields
  ofJson
    | .object fields => (Payload.readAll (Table.entry Payload.ofJson) fields).map .mk
    | v => .error (.invalidType v.found "a map")

end Switchboard
