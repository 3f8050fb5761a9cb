import Switchboard.Event
import Switchboard.Http.Message

/-! # Exchanges

What serving a request can change: the response, through a writer whose body may have a limit, and the record of what
was reported meanwhile. -/

namespace Switchboard

/-- Why bytes could not be written. -/
inductive WriteFault where
  | closed
  | incomplete
  deriving DecidableEq, Repr

/-- The wording of a fault of writing. -/
def WriteFault.describe : WriteFault → String
  | closed => "sink closed"
  | incomplete => "failed to write whole buffer"

/-- How many more bytes a body takes, and what a writer says when it takes no more. -/
structure Room where
  left : Nat
  fault : WriteFault
  deriving DecidableEq, Repr

/-- A response that is being written, with the room that its body has; without any, it takes all. -/
structure ResponseWriter where
  response : Response
  room : Option Room
  deriving DecidableEq, Repr

namespace ResponseWriter

/-- A writer of a fresh response. -/
def fresh (room : Option Room) : ResponseWriter :=
  ⟨.fresh, room⟩

/-- Writes bytes behind the body, as many as there is room for. -/
def writeAll (w : ResponseWriter) (bytes : List UInt8) : ResponseWriter × Option WriteFault :=
  match w.room with
  | none => ({ w with response := w.response.write bytes }, none)
  | some room =>
    (⟨w.response.write (bytes.take room.left), some { room with left := room.left - bytes.length }⟩,
      if bytes.length ≤ room.left then none else some room.fault)

end ResponseWriter

/-- A response in the making, what was reported meanwhile, and what hooks noted down. -/
structure Exchange where
  writer : ResponseWriter
  events : List Event
  notes : List String
  deriving DecidableEq, Repr

/-- An exchange in which nothing has happened. -/
def Exchange.start (room : Option Room) : Exchange :=
  ⟨.fresh room, [], []⟩

/-- Steps of serving a request. -/
abbrev Serving (α : Type) := StateM Exchange α

namespace Serving

/-- Sets the status of the response. -/
def setStatus (status : Nat) : Serving Unit :=
  modify fun x => { x with writer := { x.writer with response := x.writer.response.setStatus status } }

/-- Gives a header of the response one value. -/
def setHeader (name value : String) : Serving Unit :=
  modify fun x => { x with writer := { x.writer with response := x.writer.response.setHeader name value } }

/-- Writes behind the body of the response. -/
def write (bytes : List UInt8) : Serving (Option WriteFault) := fun x =>
  let (writer, fault) := x.writer.writeAll bytes
  (fault, { x with writer })

/-- Reports an event. -/
def report (e : Event) : Serving Unit :=
  modify fun x => { x with events := x.events ++ [e] }

/-- Notes down a line. -/
def note (line : String) : Serving Unit :=
  modify fun x => { x with notes := x.notes ++ [line] }

end Serving

end Switchboard
