import Switchboard.CommandLine.Word
import Switchboard.Logging.Settings

/-! # Invocations

What a command line asks for. -/

namespace Switchboard

/-- The form in which a module is shown. -/
inductive DocumentForm where
  | json
  | yaml
  deriving DecidableEq, Repr

/-- What `generate` is given. -/
structure GenerateArguments where
  input : PathText
  output : Option PathText
  config : Option PathText
  moduleName : Option String
  setupFunction : Option String
  dryRun : Bool
  formatted : Bool
  deriving DecidableEq, Repr

/-- What `inspect` is given. -/
structure InspectArguments where
  input : PathText
  config : Option PathText
  format : DocumentForm
  deriving DecidableEq, Repr

/-- A command. -/
inductive Command where
  | generate (a : GenerateArguments)
  | inspect (a : InspectArguments)
  deriving DecidableEq, Repr

/-- What a command line asks for. -/
structure Invocation where
  verbose : Bool
  command : Command
  deriving DecidableEq, Repr

/-- The name of the program and its version, as it tells them. -/
def versionLine : String := "handlergen 0.1.0-alpha.1\n"

namespace OptionForm

/-- The directory of the module. -/
def input : OptionForm := ⟨.input, "input", some 'i', .path⟩
/-- The dispatch file. -/
def output : OptionForm := ⟨.output, "output", some 'o', .path⟩
/-- The file with the settings of the module. -/
def config : OptionForm := ⟨.config, "config", some 'c', .path⟩
/-- The name of the module. -/
def moduleName : OptionForm := ⟨.moduleName, "module-name", none, .text⟩
/-- The name of the setup function. -/
def setupFunction : OptionForm := ⟨.setupFunction, "setup-fn", none, .text⟩
/-- Whether the dispatch file is shown instead of written. -/
def dryRun : OptionForm := ⟨.dryRun, "dry-run", none, .flag⟩
/-- Whether the dispatch file is formatted. -/
def formatted : OptionForm := ⟨.formatted, "fmt", none, .flag⟩
/-- The form in which a module is shown. -/
def format : OptionForm := ⟨.format, "format", none, .choice ["json", "yaml"]⟩
/-- Whether all is logged. -/
def verbose : OptionForm := ⟨.verbose, "verbose", some 'v', .flag⟩
/-- How the program is used. -/
def help : OptionForm := ⟨.help, "help", some 'h', .flag⟩
/-- The version of the program. -/
def version : OptionForm := ⟨.version, "version", some 'V', .flag⟩

/-- The options before a command. -/
def general : List OptionForm := [verbose, help, version]

/-- The options of `generate`. -/
def ofGenerate : List OptionForm :=
  [input, output, config, moduleName, setupFunction, dryRun, formatted, verbose, help]

/-- The options of `inspect`. -/
def ofInspect : List OptionForm := [input, config, format, verbose, help]

end OptionForm

namespace GivenOptions

/-- The value of an option. -/
def value? (g : GivenOptions) (name : OptionName) : Option String :=
  g.lookup name

/-- Whether an option is given. -/
def has (g : GivenOptions) (name : OptionName) : Bool :=
  (g.value? name).isSome

end GivenOptions

/-- The words that name a command. -/
def commandWords : List String := ["generate", "inspect", "help"]

namespace Command

/-- The command that some options make. Only the directory of the module is needed. -/
def ofOptions (forms : List OptionForm) (make : PathText → GivenOptions → Command) (words : List String) :
    Except UsageFault (GivenOptions × Command) :=
  match WordReading.start.read forms words with
  | .error e => .error e
  | .ok (_, _ :: _) => .error .unknownArgument
  | .ok (r, []) =>
    match r.given.value? .input with
    | none => .error .missingInput
    | some input => .ok (r.given, make input r.given)

/-- What `generate` makes of its options. -/
def generateOf (input : PathText) (g : GivenOptions) : Command :=
  .generate
    { input
      output := g.value? .output
      config := g.value? .config
      moduleName := g.value? .moduleName
      setupFunction := g.value? .setupFunction
      dryRun := g.has .dryRun
      formatted := g.has .formatted }

/-- What `inspect` makes of its options. -/
def inspectOf (input : PathText) (g : GivenOptions) : Command :=
  .inspect
    { input
      config := g.value? .config
      format := if g.value? .format = some "yaml" then .yaml else .json }

/-- Help on a command: only the commands themselves have it. -/
def helpOn : List String → UsageFault
  | [] => .help
  | [w] => if commandWords.contains w then .help else .unknownCommand
  | _ => .unknownCommand

/-- The command that starts with a word. -/
def ofWords (word : String) (rest : List String) : Except UsageFault (GivenOptions × Command) :=
  match word with
  | "generate" => ofOptions OptionForm.ofGenerate generateOf rest
  | "inspect" => ofOptions OptionForm.ofInspect inspectOf rest
  | "help" => .error (helpOn rest)
  | _ => .error .unknownCommand

end Command

namespace Invocation

/-- What the words of a command line ask for. -/
def parse (words : List String) : Except UsageFault Invocation :=
  match WordReading.start.read OptionForm.general words with
  | .error e => .error e
  | .ok (r, []) => .error (if r.given.isEmpty then .nothingAsked else .missingCommand)
  | .ok (r, word :: rest) =>
    match Command.ofWords word rest with
    | .error e => .error e
    | .ok (given, command) => .ok ⟨r.given.has .verbose || given.has .verbose, command⟩

/-- How an invocation asks for events to be logged. -/
def logSettings (i : Invocation) (env : Environment) : LogSettings :=
  if i.verbose then .verbose else .ofEnvironment env

end Invocation

end Switchboard
