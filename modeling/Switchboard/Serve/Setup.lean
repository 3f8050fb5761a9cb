import Switchboard.Codec.Basic
import Switchboard.Dispatch.Registration
import Switchboard.Serve.Multiplexer
import Switchboard.Serve.RouteTable

/-! # Setting up handlers

A registration is carried out: its locals get their initial values, the codec fills them, the handler runs on what the
plan hands to it, and the codec writes the results. A codec's failure goes to a hook; if it is one of decoding, the
handler does not run. -/

namespace Switchboard

/-- What is told of a codec's failures. -/
structure Hooks (m : Type → Type) where
  requestError : Request → CodecFault → m Unit
  responseError : Request → CodecFault → m Unit

/-- An argument of a handler. The response writer is what the steps of the handler themselves write to. -/
inductive Argument (Slot : Type) where
  | data (slot : Slot)
  | request (r : Request)
  | responseWriter

/-- What a handler does with its arguments. Its results come in order. -/
abbrev HandlerBody (m : Type → Type) (Slot Value : Type) := List (Argument Slot) → m (List Value)

/-- All that carrying out a registration takes besides the request. -/
structure Service (m : Type → Type) (Slot Value : Type) where
  /-- The initial value of a local. -/
  initial : DataLocal → Slot
  body : HandlerBody m Slot Value
  codec : Codec m Slot Value
  hooks : Hooks m

namespace Registration

variable {m : Type → Type} {Slot Value : Type}

/-- The locals with their initial values. -/
def initialSlots (p : Registration) (initial : DataLocal → Slot) : NameMap Slot :=
  p.locals.map fun l => (l.variableName, initial l)

/-- The values of the variables that are handed on. -/
def handedValues {α : Type} (values : NameMap α) (handed : List Handed) : List α :=
  handed.filterMap fun h => values.get? h.variableName

/-- Gives the variables that were handed on their new values. -/
def refill (slots : NameMap Slot) (handed : List Handed) (filled : List Slot) : NameMap Slot :=
  (handed.zip filled).foldl (fun slots (h, slot) => slots.set h.variableName slot) slots

/-- What a variable stands for inside the closure. -/
def argument? (slots : NameMap Slot) (r : Request) (name : String) : Option (Argument Slot) :=
  if name = Injected.request.variableName then some (.request r)
  else if name = Injected.responseWriter.variableName then some .responseWriter
  else (slots.get? name).map .data

/-- Runs the handler and writes its results. -/
def finish [Monad m] (p : Registration) (s : Service m Slot Value) (slots : NameMap Slot) (r : Request) : m Unit := do
  let results ← s.body (p.arguments.filterMap (argument? slots r))
  if !p.encoded.isEmpty then
    match ← s.codec.encode (handedValues (p.results.variableNames.zip results) p.encoded) with
    | some e => s.hooks.responseError r e
    | none => return

/-- Serves a request as the registration says. -/
def serve [Monad m] (p : Registration) (s : Service m Slot Value) (r : Request) : m Unit := do
  let slots := p.initialSlots s.initial
  if p.decoded.isEmpty then p.finish s slots r
  else
    let (filled, e?) ← s.codec.decode r (handedValues slots p.decoded)
    match e? with
    | some e => s.hooks.requestError r e
    | none => p.finish s (refill slots p.decoded filled) r

end Registration

/-- What a setup function is given. -/
structure SetupOptions (Slot Value : Type) where
  routes : RouteTable
  codec : Codec Serving Slot Value
  hooks : Hooks Serving

namespace SetupOptions

variable {Slot Value : Type}

/-- The options as they are shown to a developer. -/
def inspect (o : SetupOptions Slot Value) : String :=
  "HandlerSetupOptions \x7b route: " ++ o.routes.inspect ++ ", .. \x7d"

end SetupOptions

/-- The default hook for failures of decoding: the request is at fault, and its sender is told why. -/
def refuseRequest (r : Request) (e : CodecFault) : Serving Unit := do
  Serving.report ⟨.warn, .options, "Failed to decode request", [("path", .text r.path), ("error", .text e.message)]⟩
  Serving.setStatus Status.badRequest
  match ← Serving.write (Text.utf8 e.message) with
  | none => return
  | some fault =>
    Serving.report ⟨.warn, .options, "Failed to write error response",
      [("path", .text r.path), ("error", .text fault.describe)]⟩

/-- The default hook for failures of encoding: the response stays as it is. -/
def reportResponse (r : Request) (e : CodecFault) : Serving Unit :=
  Serving.report ⟨.error, .options, "Failed to encode response", [("path", .text r.path), ("error", .text e.message)]⟩

/-- The hooks that are used when nothing else is said. -/
def defaultHooks : Hooks Serving :=
  ⟨refuseRequest, reportResponse⟩

/-- A module of handlers ready to be served: how each is registered, what each does, and what its locals start
from. -/
structure HandlerModule (Slot Value : Type) where
  registrations : List Registration
  initial : DataLocal → Slot
  body : String → HandlerBody Serving Slot Value

namespace HandlerModule

variable {Slot Value : Type}

/-- The handler function of a registration. -/
def handler (h : HandlerModule Slot Value) (o : SetupOptions Slot Value) (p : Registration) : HandlerFunction :=
  p.serve ⟨h.initial, h.body p.name, o.codec, o.hooks⟩

/-- The paths of the handlers and their functions, in order. -/
def entries (h : HandlerModule Slot Value) (o : SetupOptions Slot Value) : List (String × HandlerFunction) :=
  h.registrations.map fun p => (o.routes.route p.name, h.handler o p)

/-- Registers all handlers in order. -/
def setup (h : HandlerModule Slot Value) (o : SetupOptions Slot Value) (x : Multiplexer) : Multiplexer :=
  (h.entries o).foldl (fun x e => x.register e.1 e.2) x

/-- What the setup reports. -/
def setupEvents (x : Multiplexer) : List (String × HandlerFunction) → List Event
  | [] => []
  | e :: rest => x.registrationEvent e.1 :: setupEvents (x.register e.1 e.2) rest

end HandlerModule

end Switchboard
