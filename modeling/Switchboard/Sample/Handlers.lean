import Switchboard.Codec.JsonMessage
import Switchboard.Analysis
import Switchboard.Sample.Datum
import Switchboard.Serve.Setup
import Switchboard.Text.UpperCase

/-! # The sample handlers

A module of nine handlers that has one of each kind: by value and in a box, with one, several and no results, with
and without what the transport passes. -/

namespace Switchboard.Sample

open Numeric

/-! ### Their forms -/

/-- The user type, as the module names it. -/
def userType : DataType := .named (.external ["crate", "model"] "User")

/-- A parameter of a scalar type. -/
def scalarParameter (name type : String) : ParameterForm := ⟨name, .byValue (.scalar type)⟩

/-- A handler at a line of the module's file. -/
def form (line : Nat) (name : String) (parameters : List ParameterForm) (results : List Passing)
    (returnsTuple : Bool) : HandlerForm :=
  { name, position := ⟨"mod.rs", ⟨line, 8⟩⟩, parameters, results, returnsTuple }

/-- The forms of the handlers. -/
def forms : List HandlerForm :=
  [form 11 "hello" [scalarParameter "name" "String"] [.byValue] false,
    form 15 "add_user" [⟨"user", .byPointer userType⟩] [.byPointer] false,
    form 21 "sum" [scalarParameter "a" "i64", scalarParameter "b" "i64"] [.byValue] false,
    form 25 "split" [scalarParameter "text" "String"] [.byValue, .byValue] true,
    form 29 "echo_header" [⟨"r", .injected .request⟩] [.byValue] false,
    form 33 "health" [⟨"w", .injected .responseWriter⟩, ⟨"r", .injected .request⟩] [] false,
    form 40 "ping" [] [] false,
    form 42 "rename_user" [⟨"user", .byPointer userType⟩] [.byPointer] true,
    form 49 "mux" [] [.byValue] false]

/-- The context of the module. -/
def context : DispatchContext :=
  contextOf (.ofModule "handlers") forms

/-! ### What they do -/

/-- The type of a local. -/
def localType (l : DataLocal) : PayloadType :=
  if l.typeName = "model::User" then .user else (PayloadType.ofName? l.typeName).getD .unit

/-- A greeting. -/
def hello (name : String) : String :=
  "Hello, " ++ name

/-- A user with the first number. -/
def addUser (u : User) : User :=
  { u with id := .wrap 1 }

/-- A sum, modulo the number of integers. -/
def sum (a b : Bounded .signed64) : Bounded .signed64 :=
  .wrap (a.value + b.value)

/-- A text in capitals, and the number of bytes that it had before. -/
def split (text : String) : String × Bounded .size :=
  (Text.upperCase text, .wrap (Text.utf8 text).length)

/-- What a request calls its sender. -/
def echoHeader (r : Request) : String :=
  (r.header "x-name").getD "anonymous"

/-- Says that all is well, unless there is no room to say so. -/
def health (r : Request) : Serving Unit := do
  Serving.setStatus Status.accepted
  match ← Serving.write (Text.utf8 ("ok " ++ r.method)) with
  | none => return
  | some _ => Serving.setStatus Status.internalError

/-- A user with its name in capitals. -/
def renameUser (u : User) : User :=
  { u with name := Text.upperCase u.name }

/-- What the handlers do with their arguments. -/
def body (name : String) (arguments : List (Argument Datum)) : Serving (List Datum) :=
  match name, arguments with
  | "hello", [.data ⟨.string, s⟩] => return [.ofString (hello s)]
  | "add_user", [.data ⟨.user, u⟩] => return [.ofUser (addUser u)]
  | "sum", [.data ⟨.integer _, a⟩, .data ⟨.integer _, b⟩] =>
    return [.ofBounded (sum (.wrap a.value) (.wrap b.value))]
  | "split", [.data ⟨.string, s⟩] => return [.ofString (split s).1, .ofBounded (split s).2]
  | "echo_header", [.request r] => return [.ofString (echoHeader r)]
  | "health", [.responseWriter, .request r] => do
    health r
    return []
  | "rename_user", [.data ⟨.user, u⟩] => return [.ofUser (renameUser u)]
  | "mux", [] => return [.ofString "mux handler"]
  | _, _ => return []

/-- The module, ready to be served. -/
def handlers : HandlerModule Datum Datum where
  registrations := context.descriptors.map (·.registration)
  initial l := .initial (localType l)
  body := body

/-! ### Collaborators -/

/-- The codec of the module. -/
def codec : Codec Serving Datum Datum :=
  jsonCodec Datum.fill Datum.toJson

/-- A codec that fills nothing and writes nothing. -/
def brokenCodec : Codec Serving Datum Datum where
  decode _ slots := return (slots, none)
  encode values := return some (.io s!"broken after {values.length} values")

/-- A hook that notes down failures of decoding, and answers that the request makes no sense. -/
def notingRequestError (r : Request) (e : CodecFault) : Serving Unit := do
  Serving.note s!"request {r.path}: {e.message}"
  Serving.setStatus Status.unprocessable

/-- A hook that notes down failures of encoding. -/
def notingResponseError (r : Request) (e : CodecFault) : Serving Unit :=
  Serving.note s!"response {r.path}: {e.message}"

/-- A handler that sets a status, if it has one, and answers with a text and the body of the request. -/
def echo (reply : String) (status : Option Nat) : HandlerFunction := fun r => do
  if let some status := status then Serving.setStatus status
  discard (Serving.write (Text.utf8 reply))
  discard (Serving.write r.body)

end Switchboard.Sample
