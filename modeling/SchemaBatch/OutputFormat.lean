import SchemaBatch.Text

/-!
# `OutputFormat` — how results are printed

Contents: `OutputFormat` and `OutputFormat.ofText?`, which reads its name.
-/

namespace SchemaBatch

/-- How results are printed. -/
inductive OutputFormat where
  | table
  | json
  deriving DecidableEq, Repr

namespace OutputFormat

/-- The format of a name in any letter case. -/
def ofText? (name : Text) : Option OutputFormat :=
  if Text.sameLetters name "table".toList then some .table
  else if Text.sameLetters name "json".toList then some .json
  else none

/-- The message for a name that no format has. -/
def unknown (name : Text) : String := "Unknown output format: " ++ Text.string name

end OutputFormat
end SchemaBatch
