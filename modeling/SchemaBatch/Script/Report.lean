import SchemaBatch.Catalog
import SchemaBatch.Json
import SchemaBatch.OutputFormat
import SchemaBatch.Table

/-!
# `Script.Report` — what the run of a script did to the schema

Contents: `StatementOutcome` and `RunReport`; the JSON form (`RunReport.toJson`), the tables
(`RunReport.outcomeTable`, `RunReport.schemaTable`) with the summary, and `RunReport.print`, which
prints the report in either format.
-/

namespace SchemaBatch

/-- A schema change of a script with its update count. -/
structure StatementOutcome where
  statement : Text
  count : Int
  deriving DecidableEq, Repr

/-- Whether the statement was applied. -/
def StatementOutcome.isApplied (o : StatementOutcome) : Bool := decide (0 < o.count)

/-- What the run of a script did. -/
structure RunReport where
  database : Text
  /-- The schema changes in the order of the script. -/
  outcomes : List StatementOutcome
  /-- Why the batch failed, if it did. -/
  error : Option String
  /-- The objects of the schema after the run. -/
  schema : List SchemaObject
  deriving DecidableEq, Repr

namespace RunReport

/-- Whether the batch did not fail. -/
def isSuccess (r : RunReport) : Bool := r.error.isNone

/-- The number of statements that were applied. -/
def applied (r : RunReport) : Nat := (r.outcomes.filter StatementOutcome.isApplied).length

/-! ## JSON -/

/-- The JSON form of an outcome. -/
def outcomeJson (o : StatementOutcome) : Json :=
  Json.record [("statement", Json.text o.statement), ("update_count", Json.int o.count)]

/-- The JSON form of a schema object. -/
def objectJson (o : SchemaObject) : Json :=
  Json.record
    [("kind", Json.str o.kind.title), ("name", Json.text o.name),
      ("parent", (o.parent.map Json.text).getD .null)]

/-- The JSON form of a report. -/
def toJson (r : RunReport) : Json :=
  Json.record
    [("database", Json.text r.database), ("outcomes", .array (r.outcomes.map outcomeJson)),
      ("error", (r.error.map Json.str).getD .null), ("schema", .array (r.schema.map objectJson))]

/-! ## Tables -/

/-- A table of the statements, numbered from one. -/
def outcomeTable (r : RunReport) : Table :=
  ⟨["#", "Statement", "Applied"].map String.toList,
    r.outcomes.mapIdx fun i o =>
      [Text.numeral (i + 1), o.statement, (if o.isApplied then "yes" else "no").toList]⟩

/-- A table of the objects of the schema. -/
def schemaTable (r : RunReport) : Table :=
  ⟨["Kind", "Name", "Table"].map String.toList,
    r.schema.map fun o => [o.kind.keyword.toList, o.name, o.parent.getD []]⟩

/-- How many statements were applied, and why no more. -/
def summary (r : RunReport) : Text :=
  Text.numeral r.applied ++ " of ".toList ++ Text.numeral r.outcomes.length ++
    " statement(s) applied".toList ++
    match r.error with
    | none => []
    | some error => '\n' :: error.toList

/-- The report as text with tables. -/
def render (r : RunReport) : Text :=
  r.outcomeTable.render ++ '\n' :: r.summary ++ "\n\nSchema:\n".toList ++ r.schemaTable.render

/-- The report in a format. -/
def print (r : RunReport) : OutputFormat → Text
  | .json => r.toJson.pretty
  | .table => r.render

end RunReport
end SchemaBatch
