/-!
# Command line grammar

How the words of a command line are told apart, and how settings and flags are read
from them one after another. A setting takes one value, which stands behind its name
or in the next word, and may also come from the environment; the command line wins.
-/

set_option autoImplicit false

namespace GpuSharing

inductive CommandLineError where
  | helpAsked
  | versionAsked
  | commandMissing
  | unknownCommand
  | unknownArgument
  | repeatedArgument
  /-- A value is missing, or is none of the values there are. -/
  | invalidValue
  | malformedValue
  /-- A flag was given a value. -/
  | unwantedValue
  deriving DecidableEq, Repr

def CommandLineError.kind : CommandLineError → String
  | helpAsked => "DisplayHelp"
  | versionAsked => "DisplayVersion"
  | commandMissing => "DisplayHelpOnMissingArgumentOrSubcommand"
  | unknownCommand => "InvalidSubcommand"
  | unknownArgument => "UnknownArgument"
  | repeatedArgument => "ArgumentConflict"
  | invalidValue => "InvalidValue"
  | malformedValue => "ValueValidation"
  | unwantedValue => "TooManyValues"

inductive Word where
  /-- Two dashes, after which nothing is a name. -/
  | separator
  | long (name : String) (value : Option String)
  | short (letter : Char)
  | plain (text : String)
  deriving DecidableEq, Repr

def Word.ofText (text : String) : Word :=
  match text.toList with
  | ['-', '-'] => .separator
  | '-' :: '-' :: rest =>
      let name := String.ofList (rest.takeWhile (· ≠ '='))
      match rest.dropWhile (· ≠ '=') with
      | [] => .long name none
      | _ :: value => .long name (some (String.ofList value))
  | '-' :: letter :: _ => .short letter
  | _ => .plain text

structure Setting (σ : Type) where
  name : String
  envName : String
  /-- Whether more values may follow the first. -/
  repeats : Bool := false
  /-- Enters a value; the first argument tells whether another one came before. -/
  enter : Bool → String → σ → Except CommandLineError σ

namespace Setting

def single {σ α : Type} (name envName : String) (read : String → Except CommandLineError α)
    (put : α → σ → σ) : Setting σ :=
  { name, envName, enter := fun _ text options => (read text).map fun value => put value options }

/-- The same setting among the options that hold `σ` as a part. -/
def within {σ τ : Type} (setting : Setting σ) (part : τ → σ) (put : σ → τ → τ) : Setting τ :=
  { name := setting.name
    envName := setting.envName
    repeats := setting.repeats
    enter := fun again text whole =>
      (setting.enter again text (part whole)).map fun changed => put changed whole }

end Setting

structure Flag (σ : Type) where
  name : String
  raise : σ → σ

structure Grammar (σ : Type) where
  settings : List (Setting σ)
  flags : List (Flag σ) := []

/-- How far the words have been read. -/
structure Reading (σ : Type) where
  options : σ
  seen : List String := []
  /-- The setting that was named last, until its value is entered. -/
  waiting : Option (Setting σ × Option String) := none

namespace Reading

variable {σ : Type}

def assign (reading : Reading σ) (setting : Setting σ) (value : String) :
    Except CommandLineError (Reading σ) :=
  let again := reading.seen.contains setting.name
  if again && !setting.repeats then .error .repeatedArgument
  else (setting.enter again value reading.options).map fun options =>
    { reading with options, seen := setting.name :: reading.seen }

def settle (reading : Reading σ) : Except CommandLineError (Reading σ) :=
  match reading.waiting with
  | none => .ok reading
  | some (_, none) => .error .invalidValue
  | some (setting, some value) => { reading with waiting := none }.assign setting value

def raise (reading : Reading σ) (flag : Flag σ) : Except CommandLineError (Reading σ) :=
  if reading.seen.contains flag.name then .error .repeatedArgument
  else .ok { reading with
    options := flag.raise reading.options
    seen := flag.name :: reading.seen }

def askHelp (reading : Reading σ) : Except CommandLineError (Reading σ) := do
  let _ ← reading.settle
  .error .helpAsked

end Reading

namespace Grammar

variable {σ : Type}

def readLong (grammar : Grammar σ) (name : String) (value : Option String)
    (reading : Reading σ) : Except CommandLineError (Reading σ) :=
  match grammar.settings.find? (·.name = name), grammar.flags.find? (·.name = name), value with
  | some setting, _, some value => do (← reading.settle).assign setting value
  | some setting, _, none => do
      pure { (← reading.settle) with waiting := some (setting, none) }
  | none, some flag, none => do (← reading.settle).raise flag
  | none, some _, some _ => .error .unwantedValue
  | none, none, _ =>
      if name ≠ "help" then .error .unknownArgument
      else if value.isSome then .error .unwantedValue
      else reading.askHelp

def readWords (grammar : Grammar σ) : List String → Reading σ →
    Except CommandLineError (Reading σ)
  | [], reading => reading.settle
  | word :: rest, reading =>
      match Word.ofText word, reading.waiting with
      | .separator, _ => if rest.isEmpty then reading.settle else .error .unknownArgument
      | .long name value, _ => do grammar.readWords rest (← grammar.readLong name value reading)
      | .short letter, _ => if letter = 'h' then reading.askHelp else .error .unknownArgument
      | .plain value, some (setting, none) =>
          grammar.readWords rest { reading with waiting := some (setting, some value) }
      | .plain _, _ => .error .unknownArgument

/-- Enters from the environment what no word has set. -/
def readEnvironment (environment : String → Option String) (seen : List String) :
    List (Setting σ) → σ → Except CommandLineError σ
  | [], options => .ok options
  | setting :: rest, options =>
      match environment setting.envName with
      | some value =>
          if seen.contains setting.name then readEnvironment environment seen rest options
          else do readEnvironment environment seen rest (← setting.enter false value options)
      | none => readEnvironment environment seen rest options

/-- Reads options from words and environment, starting from what holds without them. -/
def read (grammar : Grammar σ) (environment : String → Option String) (words : List String)
    (initial : σ) : Except CommandLineError σ := do
  let reading ← grammar.readWords words { options := initial }
  readEnvironment environment reading.seen grammar.settings reading.options

end Grammar

end GpuSharing
