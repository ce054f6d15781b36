import SchemaBatch.CommandLine.Arguments
import SchemaBatch.Script

/-!
# `CommandLine` — what the program does for an order

Contents: `Performance`, what the program prints and how it ends; `runOptions`, the options of a
run; `perform`, which carries out an order.
-/

namespace SchemaBatch
namespace CommandLine

/-- What the program prints, and how it ends. -/
structure Performance where
  output : Text
  result : Except ScriptError Unit

/-- The files of the program by their paths. -/
abbrev Files := Text → Except ReadFault Text

/-- The text of a script. -/
def loadScript (files : Files) (path : Text) : Except ScriptError Text :=
  (files path).mapError (ScriptError.unreadable path)

/-- The options of a file, the standard ones when there is none. -/
def configuredOptions (files : Files) : Option Text → Except Options.Fault Options
  | none => .ok Options.standard
  | some path => Options.ofFile ⟨path, files path⟩

/-- The options of a run. A timeout on the command line goes before that of the file. -/
def runOptions (files : Files) (config : Option Text) (timeout : Option Nat) :
    Except ScriptError Options :=
  ((configuredOptions files config).bind fun o =>
      Options.checked { o with timeout := timeout.or o.timeout }).mapError
    fun fault => .session fault.error

/-- The line before a report in tables. -/
def announcement (script : Text) (options : Options) : OutputFormat → Text
  | .json => []
  | .table =>
    "Running ".toList ++ script ++ " against database '".toList ++ options.database ++ "'\n".toList

/-- How a run ends that gave a report. -/
def resultOf (report : RunReport) : Except ScriptError Unit :=
  match report.error with
  | some message => .error (.batchFailed message)
  | none => .ok ()

/-- Runs a script that was read, against a service with an empty catalog. -/
def performRun (path text : Text) (options : Options) (service : InMemory)
    (format : OutputFormat) : Performance :=
  match (Script.run text options service).1 with
  | .error e => ⟨announcement path options format, .error e⟩
  | .ok report =>
    ⟨announcement path options format ++ report.print format ++ ['\n'], resultOf report⟩

/-- Carries out an order, with the files of the program and with what tells the operations of its
service apart. -/
def perform (files : Files) (identifier : Nat → String) : Order → Performance
  | .run script timeout delay config format =>
    match (loadScript files script), runOptions files config timeout with
    | .error e, _ => ⟨[], .error e⟩
    | .ok _, .error e => ⟨[], .error e⟩
    | .ok text, .ok options =>
      performRun script text options (InMemory.fresh delay identifier) format
  | .classify script format =>
    match (loadScript files script).bind Script.classify with
    | .error e => ⟨[], .error e⟩
    | .ok statements => ⟨Script.printClassified statements format ++ ['\n'], .ok ()⟩

end CommandLine
end SchemaBatch
