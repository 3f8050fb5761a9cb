import Switchboard.Document.Basic
import Switchboard.Document.YamlScalar

/-! # Documents as YAML

A document in block style: a field on each line, records indented by two columns, the items of a list at the column of
the key that they belong to. -/

namespace Switchboard.Document

/-- A line one level further in. An empty line stays empty. -/
def indentLine (line : String) : String :=
  if line.isEmpty then line else "  " ++ line

/-- The lines of an item of a list. -/
def itemLines : List String → List String
  | [] => ["-"]
  | first :: rest => ("- " ++ first) :: rest.map indentLine

/-- The lines of a key and what stands behind it on its line. -/
def keyLines (name : String) : String × List String → List String
  | (first, below) => (name ++ ": " ++ first) :: below.map indentLine

mutual

/-- The lines of a document that stands on its own. -/
def yamlLines : Document → List String
  | null => ["null"]
  | bool b => [if b then "true" else "false"]
  | number n => [toString n]
  | text s =>
    let (first, below) := Yaml.scalarLines s
    first :: below.map indentLine
  | list [] => ["[]"]
  | list (d :: ds) => yamlItems (d :: ds)
  | record [] => ["\x7b\x7d"]
  | record (f :: fs) => yamlFields (f :: fs)

/-- The lines of the items of a list. -/
def yamlItems : List Document → List String
  | [] => []
  | d :: ds => itemLines (yamlLines d) ++ yamlItems ds

/-- The lines of the fields of a record. -/
def yamlFields : List (String × Document) → List String
  | [] => []
  | (name, text s) :: fs => keyLines name (Yaml.scalarLines s) ++ yamlFields fs
  | (name, list (d :: ds)) :: fs => (name ++ ":") :: yamlItems (d :: ds) ++ yamlFields fs
  | (name, record (g :: gs)) :: fs => (name ++ ":") :: (yamlFields (g :: gs)).map indentLine ++ yamlFields fs
  | (name, d) :: fs => keyLines name ((yamlLines d).headD "", []) ++ yamlFields fs

end

/-- A document as YAML. -/
def yaml (d : Document) : String :=
  String.join ((yamlLines d).map (· ++ "\n"))

end Switchboard.Document
