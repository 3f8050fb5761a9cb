import Switchboard.Document.Basic
import Switchboard.Json.Value

/-! # Documents as JSON

A document as JSON with a field or element on each line, indented by two columns for each level. -/

namespace Switchboard.Document

/-- The text of what stands on one line. -/
def plainText : Document → String
  | null => "null"
  | bool b => if b then "true" else "false"
  | number n => toString n
  | text s => Json.stringText s
  | list _ => "[]"
  | record _ => "\x7b\x7d"

/-- The indentation of a level. -/
def indentation (level : Nat) : String :=
  String.ofList (List.replicate (2 * level) ' ')

mutual

/-- A document at a level. Its first line is not indented. -/
def prettyAt (level : Nat) : Document → String
  | list (d :: ds) => "[\n" ++ prettyElements (level + 1) (d :: ds) ++ "\n" ++ indentation level ++ "]"
  | record (f :: fs) => "\x7b\n" ++ prettyFields (level + 1) (f :: fs) ++ "\n" ++ indentation level ++ "\x7d"
  | d => d.plainText

/-- The elements of a list at a level. -/
def prettyElements (level : Nat) : List Document → String
  | [] => ""
  | [d] => indentation level ++ prettyAt level d
  | d :: e :: ds => indentation level ++ prettyAt level d ++ ",\n" ++ prettyElements level (e :: ds)

/-- The fields of a record at a level. -/
def prettyFields (level : Nat) : List (String × Document) → String
  | [] => ""
  | [(name, d)] => indentation level ++ Json.stringText name ++ ": " ++ prettyAt level d
  | (name, d) :: f :: fs =>
    indentation level ++ Json.stringText name ++ ": " ++ prettyAt level d ++ ",\n" ++ prettyFields level (f :: fs)

end

/-- A document as JSON. -/
def prettyJson (d : Document) : String :=
  prettyAt 0 d

end Switchboard.Document
