import Switchboard.NameMap
import Switchboard.Payload.Collection
import Switchboard.Text.Quoted

/-! # Routes

The paths under which handlers are served. A handler without an entry is served under its own name. -/

namespace Switchboard

/-- The paths of handlers by name. -/
structure RouteTable where
  routes : NameMap String
  deriving DecidableEq, Repr

namespace RouteTable

/-- No entries. -/
def empty : RouteTable := ⟨[]⟩

/-- Sets the path of a handler. -/
def insert (m : RouteTable) (name path : String) : RouteTable :=
  ⟨m.routes.set name path⟩

/-- The map of some pairs, of which the later win. -/
def ofPairs (pairs : List (String × String)) : RouteTable :=
  pairs.foldl (fun m (name, path) => m.insert name path) empty

/-- The path of a handler. -/
def route (m : RouteTable) (name : String) : String :=
  (m.routes.get? name).getD ("/" ++ name)

/-- The number of entries. -/
def size (m : RouteTable) : Nat :=
  m.routes.length

/-- The map that JSON stands for: an object whose values are texts. -/
def ofJson (v : Json) : Except JsonFault RouteTable :=
  (Payload.ofJson v).map fun (t : Table String) => ofPairs t.entries

/-- The map as JSON. -/
def toJson (m : RouteTable) : Json :=
  .ofFields (m.routes.map fun (name, path) => (name, .string path))

/-- The map as it is shown to a developer. -/
def inspect (m : RouteTable) : String :=
  "RouteMap(\x7b" ++ ", ".intercalate (m.routes.map fun (name, path) => Text.quoted name ++ ": " ++ Text.quoted path)
    ++ "\x7d)"

end RouteTable

end Switchboard
