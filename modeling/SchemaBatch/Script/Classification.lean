import SchemaBatch.Json
import SchemaBatch.OutputFormat
import SchemaBatch.ScriptError
import SchemaBatch.Table

/-!
# `Script.Classification` — what the statements of a script are for

Contents: `classify`, which lists the statements of a script with their categories; the JSON and the
table of the list, and `printClassified`, which prints it in either format.
-/

namespace SchemaBatch
namespace Script

/-- The statements of a list of texts, provided that all of them are statements. -/
def readAll (texts : List Text) : Except SessionError (List Sql.Statement) :=
  texts.mapM readStatement

/-- The statements of a script. -/
def classify (script : Text) : Except ScriptError (List Sql.Statement) :=
  ((readScript script).bind readAll).mapError ScriptError.session

/-- The category and the text of a statement. -/
def classifiedJson (statement : Sql.Statement) : Json :=
  Json.record
    [("statement_type", Json.str statement.category.name), ("statement", Json.text statement.text)]

/-- A table of the statements, numbered from one. -/
def classifiedTable (statements : List Sql.Statement) : Table :=
  ⟨["#", "Type", "Statement"].map String.toList,
    statements.mapIdx fun i statement =>
      [Text.numeral (i + 1), statement.category.name.toList, statement.text]⟩

/-- The categories of statements in a format. -/
def printClassified (statements : List Sql.Statement) : OutputFormat → Text
  | .json => (Json.array (statements.map classifiedJson)).pretty
  | .table => (classifiedTable statements).render

end Script
end SchemaBatch
