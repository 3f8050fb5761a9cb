import Switchboard.Source.ItemGrammar

/-! # Source files

A source file is its path, as it is shown in messages, and its top-level items. -/

namespace Switchboard

open Source

/-- A parsed source file. -/
structure ModuleFile where
  path : String
  items : List Item

namespace ModuleFile

/-- Parses a text as the file of a given path; fails with the place of the first error. -/
def parse (path source : String) : Except Position ModuleFile :=
  match parseItems source with
  | .ok items => .ok ⟨path, items⟩
  | .error mark => .error ⟨path, mark⟩

/-- The functions among the items, in order. -/
def functions (f : ModuleFile) : List Function :=
  f.items.filterMap fun i => match i with
    | .function g => some g
    | _ => none

/-- The place in the file that a mark stands for. -/
def position (f : ModuleFile) (m : Mark) : Position :=
  ⟨f.path, m⟩

end ModuleFile

end Switchboard
