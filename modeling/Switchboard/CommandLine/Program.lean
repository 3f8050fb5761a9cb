import Switchboard.CommandLine.Execution
import Switchboard.Logging.Record

/-! # The program

A run of the program: from the words of a command line, an environment and a file system to what is printed, what is
logged, and the file system that is left. -/

namespace Switchboard

/-- How the program is used. -/
def usageText : String :=
  "\n".intercalate
    ["Router dispatch generator for plain handler functions",
      "",
      "Usage: handlergen [OPTIONS] <COMMAND>",
      "",
      "Commands:",
      "  generate  Generate the dispatch file of a handler module",
      "  inspect   Print the handler descriptors of a module without generating anything",
      "  help      Print this message",
      "",
      "Options:",
      "  -v, --verbose  Debug-level logs with source locations (ignores HANDLERGEN_LOG_*)",
      "  -h, --help     Print help",
      "  -V, --version  Print version",
      ""]

namespace UsageFault

/-- The exit code of a command line that is not carried out. -/
def exitCode : UsageFault → Nat
  | help | version => 0
  | _ => 2

/-- What is printed of a command line that is not carried out, and is no mistake. -/
def printed : UsageFault → String
  | help => usageText
  | version => versionLine
  | _ => ""

/-- What is told of a mistake. -/
def message : UsageFault → String
  | help | version => ""
  | nothingAsked | missingCommand => "error: a command is needed"
  | unknownCommand => "error: no such command"
  | unknownArgument => "error: unexpected argument"
  | invalidValue => "error: invalid value for an option"
  | unneededValue => "error: value for an option that takes none"
  | repeated => "error: an option cannot be used twice"
  | missingInput => "error: the option --input is needed"

end UsageFault

/-- What a run of the program comes to. -/
structure ProgramRun where
  exitCode : Nat
  printed : String
  /-- What is told of mistakes, in front of the log and behind it. -/
  warnings : List String
  failure : Option String
  logForm : LogForm
  records : List LogRecord
  files : FileSystem

namespace ProgramRun

/-- The lines that tell of mistakes. -/
def complaints (r : ProgramRun) : List String :=
  r.warnings ++ r.failure.toList

end ProgramRun

namespace FileSystem

/-- Runs the program. -/
def runProgram (fs : FileSystem) (tools : Tools) (env : Environment) (words : List String) : ProgramRun :=
  match Invocation.parse words with
  | .error e =>
    { exitCode := e.exitCode
      printed := e.printed
      warnings := []
      failure := if e.exitCode = 0 then none else some e.message
      logForm := .pretty
      records := []
      files := fs }
  | .ok i =>
    let log := i.logSettings env
    let x := fs.execute tools i.command
    { exitCode := if x.fault.isSome then 1 else 0
      printed := x.printed
      warnings := log.warnings
      failure := x.fault.map fun e => "Error: " ++ e.message
      logForm := log.format
      records := log.records env x.events
      files := x.files }

end FileSystem

end Switchboard
