import SchemaBatch.Json
import SchemaBatch.Timestamp

/-!
# `Progress` — how far a schema-change operation has come

A service applies the statements of an operation one at a time and records an instant, the mark, for
each that is committed. The marks may be fewer than the statements or more, and may have gaps.

Contents: `Progress`, `Progress.mark?`, `Progress.record`, the update counts of the statements
(`Progress.counts`), and the JSON form.
-/

namespace SchemaBatch

/-- The statements of an operation and the marks of those that were committed. -/
structure Progress where
  statements : List Text
  marks : List (Option Timestamp)
  deriving DecidableEq, Repr

namespace Progress

/-- The progress of an operation that has not started. -/
def ofStatements (statements : List Text) : Progress := ⟨statements, []⟩

/-- The mark of a statement. -/
def mark? (p : Progress) (index : Nat) : Option Timestamp := (p.marks[index]?).join

/-- Whether a statement was committed. -/
def isMarked (p : Progress) (index : Nat) : Bool := (p.mark? index).isSome

/-- Sets the mark of a position, with gaps before it where there are no marks yet. -/
def markAt (t : Timestamp) : (index : Nat) → List (Option Timestamp) → List (Option Timestamp)
  | 0, [] => [some t]
  | 0, _ :: marks => some t :: marks
  | index + 1, [] => none :: markAt t index []
  | index + 1, m :: marks => m :: markAt t index marks

/-- Records that a statement was committed at an instant. -/
def record (p : Progress) (index : Nat) (t : Timestamp) : Progress :=
  { p with marks := markAt t index p.marks }

/-- The update count of each statement: 1 when it has a mark, 0 otherwise. -/
def counts (p : Progress) : List Int :=
  (List.range p.statements.length).map fun i => if p.isMarked i then 1 else 0

/-! ## JSON -/

/-- A mark: a text in the format of RFC 3339, or null. -/
def readMark (value : Json) : Option (Option Timestamp) :=
  value.asNullable? fun v => v.asText?.bind Timestamp.parse?

/-- The progress of its two members. -/
def ofMembers (statements marks : Json) : Option Progress := do
  let statements ← (← statements.asArray?).mapM Json.asText?
  let marks ← (← marks.asArray?).mapM readMark
  some ⟨statements, marks⟩

/-- The progress that a value describes: an object with both members, or an array of the two. -/
def ofJson? : Json → Option Progress
  | .object members => do
    let fields ← Json.fields? members
    let statements ← (← Json.atMostOnce? "statements" fields)
    let marks ← (← Json.atMostOnce? "commit_timestamps" fields)
    ofMembers statements marks
  | .array [statements, marks] => ofMembers statements marks
  | _ => none

/-- The JSON form. -/
def toJson (p : Progress) : Json :=
  Json.record
    [("statements", .array (p.statements.map Json.text)),
      ("commit_timestamps", .array (p.marks.map fun
        | some t => Json.text t.print
        | none => .null))]

/-- The progress that a JSON text describes. -/
def parse? (s : Text) : Option Progress := (Json.parse s).bind ofJson?

end Progress
end SchemaBatch
