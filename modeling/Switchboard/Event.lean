/-! # Events

What the program reports while it works: a level, the part of the program that speaks, a message, and named values. -/

namespace Switchboard

/-- How important an event is. -/
inductive Level where
  | trace
  | debug
  | info
  | warn
  | error
  deriving DecidableEq, Repr, Inhabited

namespace Level

/-- A level's name in capitals. -/
def name : Level → String
  | trace => "TRACE"
  | debug => "DEBUG"
  | info => "INFO"
  | warn => "WARN"
  | error => "ERROR"

/-- How much is reported at a level: the more verbose, the higher. -/
def verbosity : Level → Nat
  | error => 1
  | warn => 2
  | info => 3
  | debug => 4
  | trace => 5

end Level

/-- A value reported with an event. -/
inductive FieldValue where
  | text (s : String)
  | count (n : Nat)
  deriving DecidableEq, Repr

/-- The text of a reported value. -/
def FieldValue.render : FieldValue → String
  | text s => s
  | count n => toString n

/-- The part of the program that reports an event. -/
inductive Speaker where
  | analysis
  | scope
  | project
  | commands
  | mux
  | options
  deriving DecidableEq, Repr

/-- The path under which a part of the program reports. -/
def Speaker.path : Speaker → String
  | analysis => "handlergen::analysis"
  | scope => "handlergen::analysis::scope"
  | project => "handlergen::generator::project"
  | commands => "handlergen::cli::commands"
  | mux => "handlergen::transport::mux"
  | options => "handlergen::web::options"

/-- One reported event. -/
structure Event where
  level : Level
  speaker : Speaker
  message : String
  fields : List (String × FieldValue)
  deriving DecidableEq, Repr

end Switchboard
