/-! # Documents

Data as it is shown to a reader: records keep the order of their fields. -/

namespace Switchboard

/-- A document. -/
inductive Document where
  | null
  | bool (b : Bool)
  | number (n : Nat)
  | text (s : String)
  | list (elements : List Document)
  | record (fields : List (String × Document))
  deriving Repr, Inhabited

namespace Document

/-- A text, or nothing. -/
def ofText? : Option String → Document
  | none => null
  | some s => text s

end Document

end Switchboard
