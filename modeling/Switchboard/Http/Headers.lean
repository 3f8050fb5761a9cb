import Switchboard.NameMap

/-! # Headers

Header names do not depend on case, and a name can have several values, in the order in which they came. What is no
name, or no value, is never stored. -/

namespace Switchboard

/-- The values of header names. The names are in lower case. -/
structure Headers where
  values : NameMap (List String)
  deriving DecidableEq, Repr

namespace Headers

/-- No headers. -/
def empty : Headers := ⟨[]⟩

/-- A character of a header name. -/
def isNameChar (c : Char) : Bool :=
  c.isAlphanum || "!#$%&'*+-.^_\x60|~".toList.contains c

/-- How many characters a header name can have. -/
def longestName : Nat := 65535

/-- The form in which a name is stored. -/
def storedName? (name : String) : Option String :=
  if !name.isEmpty && name.toList.length ≤ longestName && name.toList.all isNameChar then
    some (String.ofList (name.toList.map Char.toLower))
  else none

/-- A character of a header value: a tab, or anything but a control. -/
def isValueChar (c : Char) : Bool :=
  c == '\t' || (32 ≤ c.toNat && c.toNat ≠ 127)

/-- Whether a text can be a header value. -/
def isValue (value : String) : Bool :=
  value.toList.all isValueChar

/-- Whether a value can be read back as text: it is made of plain characters and tabs. -/
def isReadable (value : String) : Bool :=
  value.toList.all fun c => c == '\t' || (32 ≤ c.toNat && c.toNat < 127)

/-- The values of a name. -/
def all (h : Headers) (name : String) : List String :=
  match storedName? name with
  | some n => (h.values.get? n).getD []
  | none => []

/-- The first value of a name, if it can be read. -/
def get? (h : Headers) (name : String) : Option String :=
  match h.all name with
  | value :: _ => if isReadable value then some value else none
  | [] => none

/-- Adds a value behind those that a name has. -/
def append (h : Headers) (name value : String) : Headers :=
  match storedName? name with
  | some n => if isValue value then ⟨h.values.set n ((h.values.get? n).getD [] ++ [value])⟩ else h
  | none => h

/-- Gives a name one value in place of all others. -/
def insert (h : Headers) (name value : String) : Headers :=
  match storedName? name with
  | some n => if isValue value then ⟨h.values.set n [value]⟩ else h
  | none => h

/-- The headers in the order of their names. -/
def sorted (h : Headers) : NameMap (List String) :=
  h.values.mergeSort fun a b => a.1 ≤ b.1

end Headers

/-- The name of the header that tells the kind of a body. -/
def contentType : String := "content-type"

/-- The kind of a JSON body. -/
def jsonContent : String := "application/json"

end Switchboard
