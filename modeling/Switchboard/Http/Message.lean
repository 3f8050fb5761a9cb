import Switchboard.Http.Headers
import Switchboard.Json.Text

/-! # Requests and responses

What goes in and out of a handler. The path of a request alone decides which handler serves it. -/

namespace Switchboard

/-- A request. -/
structure Request where
  method : String
  path : String
  headers : Headers
  body : List UInt8
  deriving DecidableEq, Repr

namespace Request

/-- A request without headers and body. -/
def of (method path : String) : Request :=
  ⟨method, path, .empty, []⟩

/-- Replaces the body. -/
def withBody (r : Request) (body : List UInt8) : Request :=
  { r with body }

/-- Replaces the body by a JSON text, and says so in the headers. -/
def withJsonText (r : Request) (text : List UInt8) : Request :=
  { r with body := text, headers := r.headers.insert contentType jsonContent }

/-- Replaces the body by a JSON value, and says so in the headers. -/
def withJson (r : Request) (v : Json) : Request :=
  r.withJsonText (Text.utf8 v.compact)

/-- Adds a header, unless its name or value is none. -/
def withHeader (r : Request) (name value : String) : Request :=
  { r with headers := r.headers.append name value }

/-- The first value of a header, if it can be read. -/
def header (r : Request) (name : String) : Option String :=
  r.headers.get? name

end Request

/-- A response. -/
structure Response where
  status : Nat
  headers : Headers
  body : List UInt8
  deriving DecidableEq, Repr

namespace Status

/-- Success. -/
def ok : Nat := 200
/-- Success, to be completed later. -/
def accepted : Nat := 202
/-- A request that cannot be understood. -/
def badRequest : Nat := 400
/-- A path that nothing serves. -/
def notFound : Nat := 404
/-- A request that is understood but makes no sense. -/
def unprocessable : Nat := 422
/-- A failure of the server. -/
def internalError : Nat := 500

end Status

namespace Response

/-- A response to which nothing was written. -/
def fresh : Response :=
  ⟨Status.ok, .empty, []⟩

/-- A response with a status and a body. -/
def withStatus (status : Nat) (body : List UInt8) : Response :=
  ⟨status, .empty, body⟩

/-- The body as text. -/
def text (r : Response) : String :=
  Text.decodeUtf8Lossy r.body

/-- The body as JSON. -/
def json (r : Response) : Except JsonError Json :=
  Json.parse r.body

/-- The first value of a header, if it can be read. -/
def header (r : Response) (name : String) : Option String :=
  r.headers.get? name

/-- Writes behind the body. -/
def write (r : Response) (bytes : List UInt8) : Response :=
  { r with body := r.body ++ bytes }

/-- Sets the status. -/
def setStatus (r : Response) (status : Nat) : Response :=
  { r with status }

/-- Gives a header one value. -/
def setHeader (r : Response) (name value : String) : Response :=
  { r with headers := r.headers.insert name value }

end Response

end Switchboard
