import Switchboard.Analysis
import Switchboard.Document.Basic

/-! # Contexts as documents

A context as it is shown to a reader. -/

namespace Switchboard

open Document

/-- A place in a source file. -/
def Position.document (p : Position) : Document :=
  .record [("file", .text p.file), ("line", .number p.mark.line), ("column", .number p.mark.column)]

/-- The role of a parameter. -/
def NamedRole.document : NamedRole → Document
  | dataByValue name => .record [("kind", .text "data_by_value"), ("type_name", .text name)]
  | dataByPointer name => .record [("kind", .text "data_by_pointer"), ("type_name", .text name)]
  | injected .request => .record [("kind", .text "injected_request")]
  | injected .responseWriter => .record [("kind", .text "injected_response_writer")]

/-- A parameter. -/
def DescribedParameter.document (p : DescribedParameter) : Document :=
  .record [("source_name", .text p.sourceName), ("role", p.role.document), ("generated_var_name", .text p.variableName)]

/-- The role of a result. -/
def Passing.document : Passing → Document
  | byValue => .text "by_value"
  | byPointer => .text "by_pointer"

/-- A result. -/
def DescribedResult.document (r : DescribedResult) : Document :=
  .record [("role", r.role.document), ("generated_var_name", .text r.variableName)]

/-- A handler. -/
def Descriptor.document (d : Descriptor) : Document :=
  .record
    [("name", .text d.name), ("parameters", .list (d.parameters.map (·.document))),
      ("results", .list (d.results.map (·.document))), ("returns_tuple", .bool d.returnsTuple),
      ("decodable_parameter_count", .number d.decodableCount), ("position", d.position.document)]

/-- An import. -/
def NamedImport.document (e : NamedImport) : Document :=
  .record [("path", .text e.path), ("alias", .text e.aliasName)]

/-- The imports of a dispatch file. -/
def ImportTable.document (t : ImportTable) : Document :=
  .record [("entries", .list (t.entries.map (·.document)))]

/-- A context. -/
def DispatchContext.document (c : DispatchContext) : Document :=
  .record
    [("module_name", .text c.moduleName), ("setup_fn", .text c.setupFunction),
      ("transport_alias", .text c.transportAlias), ("runtime_alias", .text c.runtimeAlias),
      ("imports", c.imports.document), ("descriptors", .list (c.descriptors.map (·.document)))]

end Switchboard
