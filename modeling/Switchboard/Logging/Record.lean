import Switchboard.Json.Value
import Switchboard.Logging.Settings

/-! # Log records

What is logged of an event. -/

namespace Switchboard

/-- An event that is logged. -/
structure LogRecord where
  event : Event
  /-- Whether it is said where in the program the event comes from. -/
  located : Bool
  deriving DecidableEq, Repr

/-- The events that are logged, in order. -/
def LogSettings.records (c : LogSettings) (env : Environment) (events : List Event) : List LogRecord :=
  let f := c.filter env
  (events.filter f.admits).map fun e => ⟨e, c.located⟩

/-- A reported value as JSON: counts are numbers. -/
def FieldValue.json : FieldValue → Json
  | text s => .string s
  | count n => .integer n

/-- The message and the values of an event as JSON. -/
def Event.fieldsJson (e : Event) : Json :=
  .ofFields (("message", .string e.message) :: e.fields.map fun (name, v) => (name, v.json))

namespace LogRecord

/-- A record as JSON. -/
def json (r : LogRecord) : Json :=
  .ofFields
    ([("level", .string r.event.level.name), ("target", .string r.event.speaker.path), ("fields", r.event.fieldsJson)]
      ++ if r.located then [("location", .string r.event.speaker.path)] else [])

/-- A record as a line for a reader. -/
def pretty (r : LogRecord) : String :=
  let location := if r.located then r.event.speaker.path ++ ": " else ""
  let fields := r.event.fields.map fun (name, v) => s!" {name}={v.render}"
  r.event.level.name ++ " " ++ location ++ r.event.message ++ String.join fields

/-- A record as a log line. -/
def line (f : LogForm) (r : LogRecord) : String :=
  match f with
  | .json => r.json.compact
  | .pretty => r.pretty

end LogRecord

end Switchboard
