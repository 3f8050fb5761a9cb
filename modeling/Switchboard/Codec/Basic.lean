import Switchboard.Http.Exchange

/-! # Codecs

A codec fills slots from a request, and writes values to a response. What a slot and a value are is left open. -/

namespace Switchboard

/-- Why a message could not be read or written. -/
inductive CodecFault where
  /-- The body is no JSON, or a value does not fit. -/
  | json (e : JsonError)
  /-- The JSON of a response could not be written. -/
  | unwritten (fault : WriteFault)
  /-- Writing failed for a reason of the codec's own. -/
  | io (reason : String)
  /-- Several slots have to be filled, and the body is no array. -/
  | expectedArray (expected : Nat)
  /-- The body is an array of another length than the slots. -/
  | arity (expected found : Nat)
  deriving DecidableEq, Repr

/-- The wording of a failure. -/
def CodecFault.message : CodecFault → String
  | json e => "invalid JSON: " ++ e.message
  | unwritten fault => "invalid JSON: " ++ fault.describe
  | io reason => "write failed: " ++ reason
  | expectedArray expected => s!"expected a JSON array of {expected} values"
  | arity expected found => s!"expected {expected} values, found {found}"

/-- A codec for slots and values of given types, whose work is done in a monad. -/
structure Codec (m : Type → Type) (Slot Value : Type) where
  /-- The slots filled from a request, and why not all of them were. -/
  decode : Request → List Slot → m (List Slot × Option CodecFault)
  /-- Writes values to the response; says why that failed. -/
  encode : List Value → m (Option CodecFault)

end Switchboard
