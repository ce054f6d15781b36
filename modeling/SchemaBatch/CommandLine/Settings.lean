import SchemaBatch.CommandLine.Order

/-!
# `CommandLine.Settings` — the values on a command line

Contents: `Scope`, the command that arguments belong to; `Field` and `Switch`, what can be set
there, with their long and short names; `Settings`, the values read so far; `Settings.store`, which
reads one more.
-/

namespace SchemaBatch
namespace CommandLine

/-- The command that arguments belong to: the program as a whole, or one of its subcommands. -/
inductive Scope where
  | program
  | run
  | classify
  deriving DecidableEq, Repr

/-- Something that has a value. -/
inductive Field where
  | level
  | script
  | timeout
  | delay
  | config
  | format
  deriving DecidableEq, Repr

/-- What an option does. -/
inductive Switch where
  | help
  | version
  | verbose
  /-- Gives a value to a field. -/
  | field (field : Field)
  deriving DecidableEq, Repr

namespace Scope

/-- The long and the short names of the options of a command. -/
def options : Scope → List (String × Option Char × Switch)
  | .program =>
    [("log-level", some 'l', .field .level), ("verbose", some 'v', .verbose),
      ("help", some 'h', .help), ("version", some 'V', .version)]
  | .run =>
    [("log-level", some 'l', .field .level), ("verbose", some 'v', .verbose),
      ("help", some 'h', .help), ("timeout-ms", none, .field .timeout),
      ("statement-delay-ms", none, .field .delay), ("config", some 'c', .field .config),
      ("format", some 'f', .field .format)]
  | .classify =>
    [("log-level", some 'l', .field .level), ("verbose", some 'v', .verbose),
      ("help", some 'h', .help), ("format", some 'f', .field .format)]

/-- The option of a long name. -/
def long? (s : Scope) (name : Text) : Option Switch :=
  (s.options.find? fun option => option.1.toList == name).map (·.2.2)

/-- The option of a short name. -/
def short? (s : Scope) (name : Char) : Option Switch :=
  (s.options.find? fun option => option.2.1 == some name).map (·.2.2)

end Scope

/-! ## Settings -/

/-- The values of the fields read so far. -/
structure Settings where
  verbose : Bool
  level : Option LogLevel
  script : Option Text
  timeout : Option Nat
  delay : Option Nat
  config : Option Text
  format : Option OutputFormat
  deriving DecidableEq, Repr

namespace Settings

/-- No values. -/
def empty : Settings := ⟨false, none, none, none, none, none, none⟩

/-- Whether a field has a value. -/
def has (s : Settings) : Field → Bool
  | .level => s.level.isSome
  | .script => s.script.isSome
  | .timeout => s.timeout.isSome
  | .delay => s.delay.isSome
  | .config => s.config.isSome
  | .format => s.format.isSome

/-- Whether nothing was given at all. -/
def isEmpty (s : Settings) : Bool := s == empty

/-- The number of a value of 64 bits, which may have a plus sign. -/
def number? : Text → Option Nat
  | '+' :: digits => Text.word? digits
  | digits => Text.word? digits

/-- What a value is, or why it is refused. -/
def required {α : Type} (fault : UsageFault) : Option α → Except UsageFault α
  | some value => .ok value
  | none => .error fault

/-- A path, which must not be empty. -/
def path? (value : Text) : Option Text := if value.isEmpty then none else some value

/-- Gives a field its value. -/
def put (s : Settings) (value : Text) : Field → Except UsageFault Settings
  | .level =>
    (required .invalidValue (LogLevel.ofText? value)).map fun v => { s with level := some v }
  | .script => (required .invalidValue (path? value)).map fun v => { s with script := some v }
  | .timeout =>
    (required .unreadableValue (number? value)).map fun v => { s with timeout := some v }
  | .delay => (required .unreadableValue (number? value)).map fun v => { s with delay := some v }
  | .config => (required .invalidValue (path? value)).map fun v => { s with config := some v }
  | .format =>
    (required .unreadableValue (OutputFormat.ofText? value)).map
      fun v => { s with format := some v }

/-- Gives a field its value, which may be missing on the command line. No field has two values. -/
def store (s : Settings) (field : Field) : Option Text → Except UsageFault Settings
  | none => .error .invalidValue
  | some value => if s.has field then .error .repeated else s.put value field

/-- Switches the verbose mode on, once. -/
def setVerbose (s : Settings) : Except UsageFault Settings :=
  if s.verbose then .error .repeated else .ok { s with verbose := true }

end Settings
end CommandLine
end SchemaBatch
