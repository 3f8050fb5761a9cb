/-! # Places in a source text

A `Mark` is a line and a column of one text, both counted from one; columns count characters. A `Position` is a
mark together with the file that holds the text. -/

namespace Switchboard

/-- A line and a column of a text, both counted from one. -/
structure Mark where
  line : Nat
  column : Nat
  deriving DecidableEq, Repr, Inhabited

namespace Mark

/-- The place of a text's first character. -/
def start : Mark := ⟨1, 1⟩

/-- The place after a character: only a line feed starts a new line. -/
def after (m : Mark) (c : Char) : Mark :=
  if c = '\n' then ⟨m.line + 1, 1⟩ else ⟨m.line, m.column + 1⟩

/-- The place after a run of characters. -/
def afterAll (m : Mark) (cs : List Char) : Mark :=
  cs.foldl after m

end Mark

/-- A place in a file. -/
structure Position where
  file : String
  mark : Mark
  deriving DecidableEq, Repr, Inhabited

/-- The written form of a position, `file:line:column`. -/
def Position.render (p : Position) : String :=
  s!"{p.file}:{p.mark.line}:{p.mark.column}"

end Switchboard
