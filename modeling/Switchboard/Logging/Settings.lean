import Switchboard.Logging.Filter
import Switchboard.NameMap

/-! # How events are logged

What is logged and in which form is taken from the environment. A word that cannot be understood never stops the
program: it is passed over, and a default or a warning stands in for it. -/

namespace Switchboard

/-- The form of log lines. -/
inductive LogForm where
  | json
  | pretty
  deriving DecidableEq, Repr

/-- The form that a word asks for, in letters of either case. -/
def LogForm.parse (s : String) : LogForm :=
  if s.toLower = "json" then .json else .pretty

/-- The variables of an environment. -/
abbrev Environment := NameMap String

/-- How events are logged. -/
structure LogSettings where
  levelName : String
  format : LogForm
  targetFilter : Option String
  /-- Whether log lines say where in the program they come from. -/
  located : Bool
  deriving DecidableEq, Repr

namespace LogSettings

/-- How events are logged if the environment says nothing. -/
def default : LogSettings := ⟨"info", .pretty, none, false⟩

/-- How events are logged while the program itself is worked on. -/
def verbose : LogSettings := ⟨"debug", .pretty, none, true⟩

/-- A truth value in small letters. -/
def flag? : String → Option Bool
  | "true" => some true
  | "false" => some false
  | _ => none

/-- How an environment asks for events to be logged. -/
def ofEnvironment (env : Environment) : LogSettings where
  levelName := (env.get? "HANDLERGEN_LOG_LEVEL").getD default.levelName
  format := ((env.get? "HANDLERGEN_LOG_FORMAT").map LogForm.parse).getD default.format
  targetFilter := env.get? "HANDLERGEN_LOG_TARGET_FILTER"
  located := ((env.get? "HANDLERGEN_LOG_INCLUDE_LOCATION").bind flag?).getD default.located

/-- The level of a name, in letters of either case. A name of no level stands for information. -/
def levelOf (name : String) : Level :=
  match name.toLower with
  | "trace" => .trace
  | "debug" => .debug
  | "warn" => .warn
  | "error" => .error
  | _ => .info

/-- The level up to which events are logged. -/
def level (c : LogSettings) : Level :=
  levelOf c.levelName

/-- The pieces of a text between commas. -/
def commaPieces (s : String) : List String :=
  (PathText.pieces ',' s.toList).map String.ofList

/-- The filter that the general variable asks for, if all of its directives can be understood. -/
def generalFilter? (text : String) : Option LogFilter :=
  (((commaPieces text).filter (· ≠ "")).mapM Directive.parse?).map LogFilter.ofDirectives

/-- The filter before the directives about targets. -/
def baseFilter (c : LogSettings) (env : Environment) : LogFilter :=
  match (env.get? "RUST_LOG").bind generalFilter? with
  | some f => f
  | none => LogFilter.ofDirectives [{ Directive.blank with threshold := some c.level }]

/-- The directives about targets, as they are written. -/
def targetWords (c : LogSettings) : List String :=
  match c.targetFilter with
  | none => []
  | some s => ((commaPieces s).map Text.trimBlanks).filter (· ≠ "")

/-- The filter for events. -/
def filter (c : LogSettings) (env : Environment) : LogFilter :=
  (c.targetWords.filterMap Directive.parse?).foldl LogFilter.add (c.baseFilter env)

/-- What is told of the directives about targets that cannot be understood. -/
def warnings (c : LogSettings) : List String :=
  (c.targetWords.filter fun w => (Directive.parse? w).isNone).map ("Warning: Invalid log filter directive: " ++ ·)

end LogSettings

end Switchboard
