import SchemaBatch.Decimal
import SchemaBatch.Json

/-!
# `Data.Value` — column values and query results

Contents: `Value` with its JSON form, which leaves out the type; `ResultSet`, whose columns are
looked up without regard to letter case.
-/

namespace SchemaBatch

/-- A column value in a result or in a mutation. -/
inductive Value where
  | null
  | bool (value : Bool)
  | int (value : Int)
  | float (value : Float)
  | text (value : Text)
  | bytes (value : List UInt8)
  deriving BEq, Inhabited

/-- The JSON form of a value. Bytes are an array of numbers; a float that is no number is null. -/
def Value.toJson : Value → Json
  | .null => .null
  | .bool b => .bool b
  | .int n => Json.int n
  | .float x => if x.isFinite then .number (Decimal.text x) else .null
  | .text s => Json.text s
  | .bytes content => .array (content.map fun b => Json.nat b.toNat)

/-- The rows that a query produced. -/
structure ResultSet where
  columns : List Text
  rows : List (List Value)
  deriving BEq, Inhabited

namespace ResultSet

/-- The position of the first column of a name. -/
def column? (r : ResultSet) (name : Text) : Option Nat :=
  r.columns.findIdx? fun column => Text.sameLetters column name

/-- The value in a row and a column. -/
def get? (r : ResultSet) (row : Nat) (column : Text) : Option Value := do
  let index ← r.column? column
  (← r.rows[row]?)[index]?

/-- The JSON form of a result. -/
def toJson (r : ResultSet) : Json :=
  Json.record
    [("columns", .array (r.columns.map Json.text)),
      ("rows", .array (r.rows.map fun row => .array (row.map Value.toJson)))]

end ResultSet
end SchemaBatch
