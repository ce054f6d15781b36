import SchemaBatch.OutputFormat

/-!
# `CommandLine.Order` — what the program is asked to do

Contents: `LogLevel`; `Order` and `Invocation`, what an accepted command line asks for;
`UsageFault`, why a command line is not carried out.
-/

namespace SchemaBatch
namespace CommandLine

/-- How much is logged. -/
inductive LogLevel where
  | off
  | error
  | warn
  | info
  | debug
  | trace
  deriving DecidableEq, Repr

namespace LogLevel

/-- The name of the level. -/
def name : LogLevel → String
  | .off => "off"
  | .error => "error"
  | .warn => "warn"
  | .info => "info"
  | .debug => "debug"
  | .trace => "trace"

/-- All levels. -/
def all : List LogLevel := [off, error, warn, info, debug, trace]

/-- The level of a name. -/
def ofText? (text : Text) : Option LogLevel := all.find? fun level => text == level.name.toList

end LogLevel

/-- What the program is asked to do. -/
inductive Order where
  /-- To run a script, with a timeout for its statements and a delay before each of them, and with
  the options of a file. -/
  | run (script : Text) (timeout : Option Nat) (delay : Nat) (config : Option Text)
      (format : OutputFormat)
  /-- To list the statements of a script with their categories. -/
  | classify (script : Text) (format : OutputFormat)
  deriving DecidableEq, Repr

/-- An accepted command line. -/
structure Invocation where
  level : LogLevel
  order : Order
  deriving DecidableEq, Repr

/-- Why a command line is not carried out. -/
inductive UsageFault where
  /-- The help is asked for. -/
  | help
  /-- The version is asked for. -/
  | version
  /-- There is nothing on the command line, so the help is shown. -/
  | nothing
  /-- There is no subcommand. -/
  | noSubcommand
  /-- There is something else where a subcommand belongs. -/
  | unknownSubcommand
  /-- There is an argument that nobody asked for. -/
  | unknownArgument
  /-- The script is missing. -/
  | noScript
  /-- The value of an option is missing or none of those it may have. -/
  | invalidValue
  /-- The value of an option cannot be read. -/
  | unreadableValue
  /-- A flag has a value. -/
  | flagWithValue
  /-- An option is given twice. -/
  | repeated
  deriving DecidableEq, Repr

/-- Whether the user asked for what is shown instead of carrying the command line out. -/
def UsageFault.isWanted : UsageFault → Bool
  | .help | .version => true
  | _ => false

/-- The message of a fault. -/
def UsageFault.message : UsageFault → String
  | .help | .nothing =>
    "Usage: schema-batch [--log-level LEVEL] [--verbose] run SCRIPT [--timeout-ms MS]\n" ++
    "         [--statement-delay-ms MS] [--config FILE] [--format table|json]\n" ++
    "       schema-batch [--log-level LEVEL] [--verbose] classify SCRIPT [--format table|json]"
  | .version => "schema-batch"
  | .noSubcommand => "a subcommand is required"
  | .unknownSubcommand => "there is no such subcommand"
  | .unknownArgument => "unexpected argument"
  | .noScript => "a script is required"
  | .invalidValue => "the value of an option is missing or not one of those allowed"
  | .unreadableValue => "the value of an option cannot be read"
  | .flagWithValue => "a flag takes no value"
  | .repeated => "an option cannot be used more than once"

end CommandLine
end SchemaBatch
