import SchemaBatch.CommandLine
import SchemaBatch.Service.Identifier

/-!
# `Main` — the program

Contents: `main`, which reads the command line and the files that it names, carries the order out
and prints the result. The delays of the service pass at once.
-/

namespace SchemaBatch
namespace Main

/-- The text of a file. -/
def readTextFile (path : Text) : IO (Except ReadFault Text) := do
  match ← (IO.FS.readBinFile (Text.string path)).toBaseIO with
  | .ok bytes => return decodeBytes bytes
  | .error _ => return .error .missing

/-- The paths of the files that an order names. -/
def filesOf : CommandLine.Order → List Text
  | .run script _ _ config _ => script :: config.toList
  | .classify script _ => [script]

/-- Files that were read. -/
def lookUp (files : List (Text × Except ReadFault Text)) (path : Text) : Except ReadFault Text :=
  match files.find? fun file => file.1 == path with
  | some file => file.2
  | none => .error .missing

/-- Carries an order out. The program fails when the order does. -/
def carryOut (order : CommandLine.Order) : IO UInt32 := do
  let files ← (filesOf order).mapM fun path => do return (path, ← readTextFile path)
  let bits ← IO.rand 0 ((1 <<< 122) - 1)
  let performance :=
    CommandLine.perform (lookUp files) (fun i => Service.identifierOf (bits + i)) order
  IO.print (Text.string performance.output)
  match performance.result with
  | .ok () => return 0
  | .error e =>
    IO.eprintln ("Error: " ++ e.text)
    return 1

/-- Reads the command line and carries it out. -/
def run (arguments : List String) : IO UInt32 := do
  match CommandLine.parse (arguments.map String.toList) with
  | .ok invocation => carryOut invocation.order
  | .error fault =>
    if fault.isWanted then
      IO.println fault.message
      return 0
    else
      IO.eprintln fault.message
      return 2

end Main
end SchemaBatch

/-- The program. -/
def main (arguments : List String) : IO UInt32 := SchemaBatch.Main.run arguments
