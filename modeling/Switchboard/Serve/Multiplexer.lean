import Switchboard.Http.Exchange
import Switchboard.NameMap
import Switchboard.Text.Quoted

/-! # The multiplexer

Requests go to the handler that was last registered under exactly their path. A path without a handler is answered
with a fixed text. -/

namespace Switchboard

/-- What serves requests. -/
abbrev HandlerFunction := Request → Serving Unit

/-- Handlers by path. -/
structure Multiplexer where
  handlers : NameMap HandlerFunction

namespace Multiplexer

/-- No handlers. -/
def empty : Multiplexer := ⟨[]⟩

/-- The number of handlers. -/
def size (x : Multiplexer) : Nat :=
  x.handlers.length

/-- Whether a path has a handler. -/
def contains (x : Multiplexer) (path : String) : Bool :=
  x.handlers.contains path

/-- The paths that have a handler, in order. -/
def routes (x : Multiplexer) : List String :=
  x.handlers.names.mergeSort (· ≤ ·)

/-- Registers a handler, in place of one that the path may have. -/
def register (x : Multiplexer) (path : String) (h : HandlerFunction) : Multiplexer :=
  ⟨x.handlers.set path h⟩

/-- The report on a registration. -/
def registrationEvent (x : Multiplexer) (path : String) : Event :=
  if x.contains path then ⟨.warn, .mux, "Replaced existing handler", [("path", .text path)]⟩
  else ⟨.info, .mux, "Handler registered", [("path", .text path), ("total_handlers", .count (x.size + 1))]⟩

/-- What a path without a handler is answered with. -/
def missingText : String := "404 page not found"

/-- The method and the path of a request, as reported. -/
def requestFields (r : Request) : List (String × FieldValue) :=
  [("method", .text r.method), ("path", .text r.path)]

/-- Answers a request that no handler serves. -/
def serveMissing (r : Request) : Serving Unit := do
  Serving.report ⟨.warn, .mux, "No handler for path", requestFields r⟩
  Serving.setStatus Status.notFound
  match ← Serving.write (Text.utf8 missingText) with
  | none => return
  | some fault => Serving.report ⟨.warn, .mux, "failed to write 404 body", [("error", .text fault.describe)]⟩

/-- Serves a request. -/
def serve (x : Multiplexer) (r : Request) : Serving Unit :=
  match x.handlers.get? r.path with
  | some h => do
    Serving.report ⟨.debug, .mux, "dispatching request", requestFields r⟩
    h r
  | none => serveMissing r

/-- The multiplexer as it is shown to a developer. -/
def inspect (x : Multiplexer) : String :=
  "ServeMux \x7b routes: [" ++ ", ".intercalate (x.routes.map Text.quoted) ++ "] \x7d"

end Multiplexer

end Switchboard
