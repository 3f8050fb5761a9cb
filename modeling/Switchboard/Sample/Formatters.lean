import Switchboard.Project.Formatter
import Switchboard.Text.Utf8

/-! # Sample formatters

Programs that stand in for a formatter and behave well or badly. -/

namespace Switchboard.Sample

/-- A formatter that leaves a file as it is. -/
def keepingFormatter : Formatter := fun contents => some ⟨true, contents⟩

/-- A formatter that fails at once. -/
def failingFormatter : Formatter := fun contents => some ⟨false, contents⟩

/-- A formatter that adds a line to a file. -/
def appendingFormatter : Formatter := fun contents =>
  some ⟨true, some (contents.getD [] ++ Text.utf8 "// formatted --edition 2021\n")⟩

/-- A formatter that writes a file anew. -/
def replacingFormatter : Formatter := fun _ => some ⟨true, some (Text.utf8 "replaced\n")⟩

/-- A formatter that leaves a byte that is no text. -/
def binaryFormatter : Formatter := fun _ => some ⟨true, some [0xFF]⟩

/-- A formatter that removes the file, and fails if there is none. -/
def deletingFormatter : Formatter := fun contents => some ⟨contents.isSome, none⟩

/-- A formatter that cannot be started. -/
def missingFormatter : Formatter := fun _ => none

end Switchboard.Sample
