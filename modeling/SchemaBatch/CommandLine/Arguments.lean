import SchemaBatch.CommandLine.Settings

/-!
# `CommandLine.Arguments` — the grammar of the command line

Options start with two hyphens or are letters behind one, and their values are attached or follow as
the next argument. A value is looked at only when the next argument does not belong to it, so of two
faults on a command line the one that is found first in this order is reported. After two hyphens
alone nothing is an option any more.

Contents: `Shape`, what an argument looks like; `Reader` and `Reader.step`, which reads one
argument; `readArguments`; `parse`, which reads the whole command line.
-/

namespace SchemaBatch
namespace CommandLine

/-! ## Arguments -/

/-- What an argument looks like. -/
inductive Shape where
  /-- Two hyphens alone. -/
  | separator
  /-- The long name of an option with the value attached to it. -/
  | long (name : Text) (value : Option Text)
  /-- Letters behind one hyphen. -/
  | short (letters : Text)
  | plain
  deriving DecidableEq, Repr

/-- The value attached behind an equals sign. -/
def attachedValue : Text → Option Text
  | '=' :: value => some value
  | _ => none

/-- What an argument looks like. -/
def Shape.of : Text → Shape
  | ['-', '-'] => .separator
  | '-' :: '-' :: rest =>
    .long (rest.takeWhile (· != '=')) (attachedValue (rest.dropWhile (· != '=')))
  | '-' :: c :: rest => .short (c :: rest)
  | _ => .plain

/-- The subcommands of the program. -/
inductive Subcommand where
  | run
  | classify
  | help
  deriving DecidableEq, Repr

/-- The subcommand of a name. -/
def Subcommand.ofText? (name : Text) : Option Subcommand :=
  if name = "run".toList then some .run
  else if name = "classify".toList then some .classify
  else if name = "help".toList then some .help
  else none

/-! ## Reading one argument -/

/-- The reading of the arguments of one command. -/
structure Reader where
  scope : Scope
  settings : Settings
  /-- A field that was named but not yet set, with its value as soon as it was seen. -/
  pending : Option (Field × Option Text)
  /-- Whether the separator was seen. -/
  isTrailing : Bool

namespace Reader

/-- A reader that has seen nothing. -/
def start (scope : Scope) : Reader := ⟨scope, Settings.empty, none, false⟩

/-- Sets the field that was named last. -/
def settle (r : Reader) : Except UsageFault Reader :=
  match r.pending with
  | none => .ok r
  | some (field, value) =>
    (r.settings.store field value).map fun settings => { r with settings, pending := none }

/-- Whether the next argument may be the value of a field. -/
def awaitsValue (r : Reader) : Bool :=
  match r.pending with
  | some (_, none) => true
  | _ => false

/-- Whether the script was given. -/
def hasScript (r : Reader) : Bool :=
  r.settings.has .script || r.pending.any fun item => item.1 == .script

/-- Names a field, with the value attached to it. -/
def name (r : Reader) (field : Field) (value : Option Text) : Except UsageFault Reader :=
  match r.settle with
  | .error fault => .error fault
  | .ok r =>
    match value with
    | none => .ok { r with pending := some (field, none) }
    | some value =>
      (r.settings.store field (some value)).map fun settings => { r with settings }

/-- Does what an option without a value asks for. -/
def flag (r : Reader) (switch : Switch) : Except UsageFault Reader :=
  match r.settle with
  | .error fault => .error fault
  | .ok r =>
    match switch with
    | .help => .error .help
    | .version => .error .version
    | .verbose => r.settings.setVerbose.map fun settings => { r with settings }
    | .field field => .ok { r with pending := some (field, none) }

/-- Reads an option by its long name. -/
def long (r : Reader) (name : Text) (value : Option Text) : Except UsageFault Reader :=
  match r.scope.long? name, value with
  | none, _ => .error .unknownArgument
  | some (.field field), value => r.name field value
  | some switch, none => r.flag switch
  | some _, some _ => .error .flagWithValue

/-- The value in the letters behind the name of an option. An equals sign before it does not count.
-/
def valueOfLetters (letters : Text) : Option Text :=
  match letters with
  | [] => none
  | '=' :: value => some value
  | value => some value

/-- Reads options by their short names. The first that has a value takes the rest of the letters. -/
def short : Text → Reader → Except UsageFault Reader
  | [], r => .ok r
  | c :: letters, r =>
    match r.scope.short? c with
    | none => .error .unknownArgument
    | some (.field field) => r.name field (valueOfLetters letters)
    | some switch =>
      match r.flag switch with
      | .error fault => .error fault
      | .ok r => short letters r

/-- Reads an argument that is no option: the script, if it was not given yet. -/
def positional (r : Reader) (argument : Text) : Except UsageFault Reader :=
  match r.scope with
  | .program =>
    .error (if r.isTrailing && (Subcommand.ofText? argument).isSome then .unknownArgument
      else .unknownSubcommand)
  | _ =>
    if r.hasScript then .error .unknownArgument
    else r.settle.map fun r => { r with pending := some (.script, some argument) }

/-- Reads an argument that looks like no option. -/
def plain (r : Reader) (argument : Text) : Except UsageFault Reader :=
  match r.pending with
  | some (field, none) => .ok { r with pending := some (field, some argument) }
  | _ => r.positional argument

/-- Reads an argument. -/
def step (r : Reader) (argument : Text) : Except UsageFault Reader :=
  if r.isTrailing then r.positional argument
  else match Shape.of argument with
    | .separator => .ok { r with isTrailing := true }
    | .long name value => r.long name value
    | .short letters => r.short letters
    | .plain => r.plain argument

/-- The subcommand that an argument is. -/
def subcommand? (r : Reader) (argument : Text) : Option Subcommand :=
  if r.scope = .program ∧ !r.isTrailing ∧ !r.awaitsValue then Subcommand.ofText? argument
  else none

/-- The values of all fields that were named. -/
def finish (r : Reader) : Except UsageFault Settings := r.settle.map Reader.settings

end Reader

/-! ## Reading the command line -/

/-- Reads arguments up to the first that is a subcommand, which is given back with those after it.
-/
def readArguments : List Text → Reader →
    Except UsageFault (Reader × Option (Subcommand × List Text))
  | [], r => .ok (r, none)
  | argument :: rest, r =>
    match r.subcommand? argument with
    | some subcommand => .ok (r, some (subcommand, rest))
    | none =>
      match r.step argument with
      | .error fault => .error fault
      | .ok r => readArguments rest r

/-- Reads the arguments of a subcommand. -/
def readScope (scope : Scope) (arguments : List Text) : Except UsageFault Settings := do
  let (r, _) ← readArguments arguments (Reader.start scope)
  r.finish

/-- The level that the program as a whole and its subcommand ask for. The subcommand goes first, and
the verbose mode before both. -/
def levelOf (program subcommand : Settings) : LogLevel :=
  if program.verbose || subcommand.verbose then .debug
  else (subcommand.level.or program.level).getD .warn

/-- The order for a script. -/
def orderOf (subcommand : Settings) (order : Settings → Text → Order) : Except UsageFault Order :=
  match subcommand.script with
  | none => .error .noScript
  | some script => .ok (order subcommand script)

/-- The order to run a script. -/
def runOrder (s : Settings) (script : Text) : Order :=
  .run script s.timeout (s.delay.getD 0) s.config (s.format.getD .table)

/-- The order to classify the statements of a script. -/
def classifyOrder (s : Settings) (script : Text) : Order := .classify script (s.format.getD .table)

/-- Reads the arguments of a subcommand and then the fields of the program that are left to set. -/
def readInvocation (r : Reader) (scope : Scope) (order : Settings → Text → Order)
    (arguments : List Text) : Except UsageFault Invocation := do
  let subcommand ← readScope scope arguments
  let order ← orderOf subcommand order
  let program ← r.finish
  .ok ⟨levelOf program subcommand, order⟩

/-- Why a command line that asks for help on something is not carried out. -/
def helpOn : List Text → UsageFault
  | [] => .help
  | [name] => if (Subcommand.ofText? name).isSome then .help else .unknownSubcommand
  | _ => .unknownSubcommand

/-- Why a command line without a subcommand is not carried out. -/
def withoutSubcommand (r : Reader) : UsageFault :=
  match r.finish with
  | .error fault => fault
  | .ok program => if program.isEmpty then .nothing else .noSubcommand

/-- Reads a command line. -/
def parse (arguments : List Text) : Except UsageFault Invocation :=
  match readArguments arguments (Reader.start .program) with
  | .error fault => .error fault
  | .ok (r, none) => .error (withoutSubcommand r)
  | .ok (r, some (.run, rest)) => readInvocation r .run runOrder rest
  | .ok (r, some (.classify, rest)) => readInvocation r .classify classifyOrder rest
  | .ok (_, some (.help, rest)) => .error (helpOn rest)

end CommandLine
end SchemaBatch
