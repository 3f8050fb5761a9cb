import Switchboard.Analysis
import Switchboard.Dispatch.Registration

/-! # The dispatch file

The text of a dispatch file: a header, the imports, and one setup function that registers every handler in turn. The
text depends on the context alone. -/

namespace Switchboard

/-- What stands in the whole file for the modules of the transport and of the runtime. -/
structure SupportAliases where
  transport : String
  runtime : String
  deriving DecidableEq, Repr

/-- The opening and closing brace, which a text with interpolations cannot hold as they are. -/
def openBrace : String := "\x7b"

/-- The closing brace. -/
def closeBrace : String := "\x7d"

/-- The import line of an entry. -/
def NamedImport.line (e : NamedImport) : String :=
  s!"use {e.path}{e.asClause};"

namespace Registration

/-- The lines that clone what the closure captures. -/
def captureLines (r : Registration) : List String :=
  r.captures.map fun c => s!"        let {c.variableName} = std::sync::Arc::clone({c.variableName});"

/-- The lines that decode the request, if anything is decoded. -/
def decodeLines (r : Registration) : List String :=
  if r.decoded.isEmpty then []
  else
    [s!"            if let Err(err) = msg_codec.decode(r, &mut [{r.decodeArguments}]) " ++ openBrace,
      "                on_request_error(r, w, &err);",
      "                return;",
      "            " ++ closeBrace]

/-- The lines that encode the results, if there are any. -/
def encodeLines (r : Registration) : List String :=
  if r.encoded.isEmpty then []
  else
    [s!"            if let Err(err) = msg_codec.encode(w, &[{r.encodeArguments}]) " ++ openBrace,
      "                on_response_error(r, &err);",
      "            " ++ closeBrace]

/-- The lines of a whole registration. -/
def lines (a : SupportAliases) (r : Registration) : List String :=
  ["    " ++ openBrace] ++ r.captureLines
    ++ [s!"        mux.handle_func(route_map.get_route(\"{r.name}\"), move |w: &mut dyn {a.transport}::ResponseWriter, "
        ++ s!"r: &{a.transport}::Request| " ++ openBrace]
    ++ r.locals.map (fun l => "            " ++ l.render)
    ++ r.decodeLines ++ ["            " ++ r.call] ++ r.encodeLines
    ++ ["        " ++ closeBrace ++ ");", "    " ++ closeBrace]

end Registration

namespace DispatchContext

/-- The registrations of the handlers, in order. -/
def registrations (c : DispatchContext) : List Registration :=
  c.descriptors.map (·.registration)

/-- The aliases of the two support modules. -/
def supportAliases (c : DispatchContext) : SupportAliases :=
  ⟨c.transportAlias, c.runtimeAlias⟩

/-- The lines of the dispatch file. -/
def lines (c : DispatchContext) : List String :=
  ["// Code generated by handlergen. DO NOT EDIT.",
    "",
    s!"//! Request dispatch for the `{c.moduleName}` module.",
    "",
    "#![allow(unused_variables)]",
    "",
    "use super::*;",
    ""]
    ++ c.imports.entries.map (·.line)
    ++ ["",
      s!"pub fn {c.setupFunction}(mux: &mut {c.transportAlias}::ServeMux, "
        ++ s!"opts: &{c.runtimeAlias}::HandlerSetupOptions) " ++ openBrace,
      "    let route_map = &opts.route;",
      "    let msg_codec = &opts.codec;",
      "    let on_request_error = &opts.on_request_error;",
      "    let on_response_error = &opts.on_response_error;"]
    ++ c.registrations.flatMap (·.lines c.supportAliases)
    ++ [closeBrace]

/-- The text of the dispatch file, without a line feed at its end. -/
def render (c : DispatchContext) : String :=
  "\n".intercalate c.lines

end DispatchContext

end Switchboard
