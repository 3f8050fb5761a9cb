import Switchboard.Numeric.DecimalText

/-! # JSON values

A JSON value is data without places. The fields of an object stand in the order of their names, and a name stands
once. Integers are kept apart from numbers with a fraction or an exponent, which are doubles. -/

namespace Switchboard

open Numeric

/-- A JSON value. -/
inductive Json where
  | null
  | bool (b : Bool)
  | integer (n : Int)
  | float (x : Binary)
  | string (s : String)
  | array (elements : List Json)
  | object (fields : List (String × Json))
  deriving Repr, Inhabited

namespace Json

/-- Sets a field of an object, in the order of names. The last value of a name wins. -/
def setField : List (String × Json) → String → Json → List (String × Json)
  | [], name, value => [(name, value)]
  | (n, v) :: fields, name, value =>
    if name < n then (name, value) :: (n, v) :: fields
    else if name = n then (name, value) :: fields
    else (n, v) :: setField fields name value

/-- The object with some fields, of which the later win. -/
def ofFields (fields : List (String × Json)) : Json :=
  .object (fields.foldl (fun o (name, value) => setField o name value) [])

/-- A field of an object. -/
def field? (name : String) : Json → Option Json
  | object fields => fields.lookup name
  | _ => none

/-- The text of a double. What is no finite number is written as null. -/
def floatText (x : Binary) : String :=
  (x.text? .double plainLayout).getD "null"

/-- A hexadecimal digit. -/
def hexDigit (n : Nat) : Char :=
  (Nat.toDigits 16 n).headD '0'

/-- A character inside a JSON string: quotes, backslashes and controls are escaped, all else stands as it is. -/
def stringChar (c : Char) : List Char :=
  match c with
  | '"' => ['\\', '"']
  | '\\' => ['\\', '\\']
  | '\x08' => ['\\', 'b']
  | '\x0c' => ['\\', 'f']
  | '\n' => ['\\', 'n']
  | '\r' => ['\\', 'r']
  | '\t' => ['\\', 't']
  | _ =>
    if c.toNat < 0x20 then ['\\', 'u', '0', '0', hexDigit (c.toNat / 16), hexDigit (c.toNat % 16)] else [c]

/-- A text as a JSON string. -/
def stringText (s : String) : String :=
  String.ofList (['"'] ++ s.toList.flatMap stringChar ++ ['"'])

mutual

/-- The text of a value without any blanks. -/
def compact : Json → String
  | null => "null"
  | bool b => if b then "true" else "false"
  | integer n => toString n
  | float x => floatText x
  | string s => stringText s
  | array elements => "[" ++ compactElements elements ++ "]"
  | object fields => "\x7b" ++ compactFields fields ++ "\x7d"

/-- The texts of the elements of an array, with commas between them. -/
def compactElements : List Json → String
  | [] => ""
  | [v] => v.compact
  | v :: w :: rest => v.compact ++ "," ++ compactElements (w :: rest)

/-- The texts of the fields of an object, with commas between them. -/
def compactFields : List (String × Json) → String
  | [] => ""
  | [(name, v)] => stringText name ++ ":" ++ v.compact
  | (name, v) :: w :: rest => stringText name ++ ":" ++ v.compact ++ "," ++ compactFields (w :: rest)

end

end Json

end Switchboard
