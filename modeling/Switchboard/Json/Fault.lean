import Switchboard.Json.Value
import Switchboard.Text.Quoted

/-! # Faults of JSON

Why a text is no JSON, and why a JSON value does not fit a type. A fault found while a text is read has a place. -/

namespace Switchboard

open Numeric

/-- What was found where something else was expected. -/
inductive Found where
  | null
  | bool (b : Bool)
  | integer (n : Int)
  | float (x : Binary)
  | string (s : String)
  | sequence
  | map
  | unitVariant
  deriving DecidableEq, Repr

/-- The kind of a value, as faults name it. -/
def Json.found : Json → Found
  | .null => .null
  | .bool b => .bool b
  | .integer n => .integer n
  | .float x => .float x
  | .string s => .string s
  | .array _ => .sequence
  | .object _ => .map

/-- The wording of what was found. -/
def Found.describe : Found → String
  | null => "null"
  | bool b => "boolean `" ++ toString b ++ "`"
  | integer n => "integer `" ++ toString n ++ "`"
  | float x => "floating point `" ++ Json.floatText x ++ "`"
  | string s => "string " ++ Text.quoted s
  | sequence => "sequence"
  | map => "map"
  | unitVariant => "unit variant"

/-- What ends too early. -/
inductive Unfinished where
  | value
  | list
  | object
  | string
  deriving DecidableEq, Repr

/-- Why something is no JSON, or not the JSON that is wanted. -/
inductive JsonFault where
  | ends (inside : Unfinished)
  | expectedValue
  | expectedIdent
  | expectedColon
  | expectedListEnd
  | expectedObjectEnd
  | expectedKey
  | trailingComma
  | trailingCharacters
  | invalidNumber
  | numberOutOfRange
  | invalidEscape
  | endOfHexEscape
  | loneSurrogate
  | invalidCodePoint
  | controlCharacter
  | tooDeep
  | invalidType (found : Found) (expected : String)
  | invalidValue (found : Found) (expected : String)
  | invalidLength (length : Nat) (expected : String)
  | missingField (name : String)
  | duplicateField (name : String)
  | unknownVariant (name : String) (known : List String)
  /-- A value that refuses to be written, with its own reason. -/
  | refused (reason : String)
  deriving DecidableEq, Repr

/-- A name between backticks. -/
def ticked (name : String) : String :=
  "`" ++ name ++ "`"

/-- The wording of a fault. -/
def JsonFault.describe : JsonFault → String
  | ends .value => "EOF while parsing a value"
  | ends .list => "EOF while parsing a list"
  | ends .object => "EOF while parsing an object"
  | ends .string => "EOF while parsing a string"
  | expectedValue => "expected value"
  | expectedIdent => "expected ident"
  | expectedColon => "expected `:`"
  | expectedListEnd => "expected `,` or `]`"
  | expectedObjectEnd => "expected `,` or `\x7d`"
  | expectedKey => "key must be a string"
  | trailingComma => "trailing comma"
  | trailingCharacters => "trailing characters"
  | invalidNumber => "invalid number"
  | numberOutOfRange => "number out of range"
  | invalidEscape => "invalid escape"
  | endOfHexEscape => "unexpected end of hex escape"
  | loneSurrogate => "lone leading surrogate in hex escape"
  | invalidCodePoint => "invalid unicode code point"
  | controlCharacter => "control character (\\u0000-\\u001F) found while parsing a string"
  | tooDeep => "recursion limit exceeded"
  | invalidType found expected => "invalid type: " ++ found.describe ++ ", expected " ++ expected
  | invalidValue found expected => "invalid value: " ++ found.describe ++ ", expected " ++ expected
  | invalidLength length expected => "invalid length " ++ toString length ++ ", expected " ++ expected
  | missingField name => "missing field " ++ ticked name
  | duplicateField name => "duplicate field " ++ ticked name
  | unknownVariant name known =>
    "unknown variant " ++ ticked name ++ ", expected one of " ++ ", ".intercalate (known.map ticked)
  | refused reason => reason

/-- A place in a sequence of bytes: the line, and the bytes of that line that were read. -/
structure BytePlace where
  line : Nat
  column : Nat
  deriving DecidableEq, Repr

/-- A fault, with its place if it was found in a text. -/
structure JsonError where
  fault : JsonFault
  place? : Option BytePlace
  deriving DecidableEq, Repr

/-- The wording of a fault with its place. -/
def JsonError.message (e : JsonError) : String :=
  match e.place? with
  | none => e.fault.describe
  | some p => e.fault.describe ++ " at line " ++ toString p.line ++ " column " ++ toString p.column

end Switchboard
