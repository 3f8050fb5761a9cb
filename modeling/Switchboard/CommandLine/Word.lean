import Switchboard.Files.PathText

/-! # Options of a command line

The options of a command, and the words of a command line as options with their values. An option whose value comes
as a word of its own is judged late: when the next option is met, or at the end. So of two mistakes the first is
reported, but a word that fits nowhere counts before the value in front of it. -/

namespace Switchboard

/-- Why a command line is not carried out. The first two are no mistakes. -/
inductive UsageFault where
  | help
  | version
  /-- Nothing is asked for at all. -/
  | nothingAsked
  | missingCommand
  | unknownCommand
  | unknownArgument
  | invalidValue
  /-- A value for an option that takes none. -/
  | unneededValue
  /-- An option that comes twice. -/
  | repeated
  | missingInput
  deriving DecidableEq, Repr

/-- The options of all commands. -/
inductive OptionName where
  | input
  | output
  | config
  | moduleName
  | setupFunction
  | dryRun
  | formatted
  | format
  | verbose
  | help
  | version
  deriving DecidableEq, Repr

/-- What may stand behind an option. -/
inductive OptionValue where
  /-- No value. -/
  | flag
  /-- A path, which is not empty. -/
  | path
  | text
  /-- One of some words. -/
  | choice (words : List String)
  deriving DecidableEq, Repr

/-- How an option is written. -/
structure OptionForm where
  name : OptionName
  long : String
  short : Option Char
  value : OptionValue
  deriving DecidableEq, Repr

namespace OptionForm

/-- Whether an option takes a value. -/
def takesValue (o : OptionForm) : Bool :=
  o.value ≠ .flag

/-- Whether a value may stand behind an option. -/
def accepts (o : OptionForm) (v : String) : Bool :=
  match o.value with
  | .flag => false
  | .path => v ≠ ""
  | .text => true
  | .choice words => words.contains v

end OptionForm

/-- An option as it is given; one that takes no value is given the empty text. -/
abbrev GivenOptions := List (OptionName × String)

/-- An option that is not judged yet, and its value if that has come. -/
structure PendingOption where
  form : OptionForm
  value : Option String
  deriving DecidableEq, Repr

/-- What has been read of a command line. -/
structure WordReading where
  given : GivenOptions
  pending : Option PendingOption
  deriving DecidableEq, Repr

namespace WordReading

/-- Before anything is read. -/
def start : WordReading := ⟨[], none⟩

/-- Judges an option with its value: one that takes a value has to have it, none comes twice, and the value has to be
of its kind. -/
def judge (r : WordReading) (o : OptionForm) (value : Option String) : Except UsageFault WordReading :=
  if o.takesValue && value.isNone then .error .invalidValue
  else if o.name = .help then .error .help
  else if o.name = .version then .error .version
  else if (r.given.map (·.1)).contains o.name then .error .repeated
  else if o.takesValue && !(value.any o.accepts) then .error .invalidValue
  else .ok ⟨r.given ++ [(o.name, value.getD "")], none⟩

/-- Judges the option that is pending. -/
def settle (r : WordReading) : Except UsageFault WordReading :=
  match r.pending with
  | none => .ok r
  | some p => judge { r with pending := none } p.form p.value

/-- Reads an option, with its value if that is part of the same word. -/
def take (r : WordReading) (o : OptionForm) (attached : Option String) : Except UsageFault WordReading :=
  if o.takesValue then do
    let r ← r.settle
    match attached with
    | some v => r.judge o (some v)
    | none => return { r with pending := some ⟨o, none⟩ }
  else match attached with
    | some _ => .error .unneededValue
    | none => do (← r.settle).judge o none

/-- Reads options of one letter. What is behind an option that takes a value is the value, an equals sign in front of
it left out. -/
def takeLetters (forms : List OptionForm) (r : WordReading) : List Char → Except UsageFault WordReading
  | [] => .ok r
  | c :: rest =>
    match forms.find? (·.short = some c) with
    | none => .error .unknownArgument
    | some o =>
      if o.takesValue then
        match rest with
        | [] => r.take o none
        | '=' :: v => r.take o (some (.ofList v))
        | v => r.take o (some (.ofList v))
      else
        match r.take o none with
        | .error e => .error e
        | .ok r => takeLetters forms r rest

/-- Reads an option of several letters, which may have its value behind an equals sign. -/
def takeLong (forms : List OptionForm) (r : WordReading) (cs : List Char) : Except UsageFault WordReading :=
  let name := cs.takeWhile (· ≠ '=')
  match forms.find? (·.long = String.ofList name) with
  | none => .error .unknownArgument
  | some o => r.take o ((cs.drop name.length).tail?.map String.ofList)

/-- What a word is by its look. -/
inductive Look where
  /-- Two hyphens: no options behind them. -/
  | divider
  | long (cs : List Char)
  | letters (cs : List Char)
  | plain
  deriving DecidableEq, Repr

/-- The look of a word. A hyphen by itself is no option. -/
def look (w : String) : Look :=
  match w.toList with
  | ['-', '-'] => .divider
  | '-' :: '-' :: cs => .long cs
  | ['-'] => .plain
  | '-' :: cs => .letters cs
  | _ => .plain

/-- Reads words up to the first that is neither an option nor the value of one, and returns the words from there on. -/
def read (forms : List OptionForm) (r : WordReading) : List String → Except UsageFault (WordReading × List String)
  | [] => r.settle.map (·, [])
  | w :: rest =>
    match look w with
    | .divider => if rest.isEmpty then r.settle.map (·, []) else .error .unknownArgument
    | .long cs =>
      match takeLong forms r cs with
      | .error e => .error e
      | .ok r => read forms r rest
    | .letters cs =>
      match takeLetters forms r cs with
      | .error e => .error e
      | .ok r => read forms r rest
    | .plain =>
      match r.pending with
      | some ⟨o, none⟩ => read forms { r with pending := some ⟨o, some w⟩ } rest
      | _ => .ok (r, w :: rest)

end WordReading

end Switchboard
