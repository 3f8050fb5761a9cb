import Switchboard.Document.Basic
import Switchboard.Json.Value

/-! # Documents as data

The JSON value of a document, in which the order of fields is lost. -/

namespace Switchboard.Document

mutual

/-- The JSON value of a document. -/
def toJson : Document → Json
  | null => .null
  | bool b => .bool b
  | number n => .integer n
  | text s => .string s
  | list ds => .array (elementsToJson ds)
  | record fs => .ofFields (fieldsToJson fs)

/-- The JSON values of some documents. -/
def elementsToJson : List Document → List Json
  | [] => []
  | d :: ds => toJson d :: elementsToJson ds

/-- The JSON values of some fields. -/
def fieldsToJson : List (String × Document) → List (String × Json)
  | [] => []
  | (name, d) :: fs => (name, toJson d) :: fieldsToJson fs

end

end Switchboard.Document
