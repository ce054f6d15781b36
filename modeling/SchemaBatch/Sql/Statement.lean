import SchemaBatch.Sql.Scan
import SchemaBatch.Sql.Timeout

/-!
# `Sql.Statement` — what a statement is for

A statement is told by its leading keyword alone: schema changes, queries and updates go to
different services, and a few commands are meant for the session itself.

Contents: `Command`, `Category` and `Statement`; `leadingKeyword` and `categoryOf`;
`commandOf`, which recognises the commands; `Statement.parse` and `Statement.ofScript`.
-/

namespace SchemaBatch
namespace Sql

/-- A statement that the session carries out itself. -/
inductive Command where
  | startBatch
  | runBatch
  | abortBatch
  /-- Sets the statement timeout; `none` clears it. -/
  | setTimeout (timeout : Option Nat)
  deriving DecidableEq, Repr

/-- What a statement is for. -/
inductive Category where
  /-- A change of the schema. -/
  | schemaChange
  | query
  | update
  | command (command : Command)
  | unknown
  deriving DecidableEq, Repr

/-- The name under which the category is listed. -/
def Category.name : Category → String
  | .schemaChange => "DDL"
  | .query => "QUERY"
  | .update => "UPDATE"
  | .command _ => "CLIENT_SIDE"
  | .unknown => "UNKNOWN"

/-- A statement whose comments are taken out and whose category is known. -/
structure Statement where
  /-- The statement as it was given. -/
  source : Text
  /-- The statement without comments and without its terminator. -/
  text : Text
  category : Category
  deriving DecidableEq, Repr

/-- Why a text is no statement. -/
inductive Fault where
  /-- A block comment is left open. -/
  | openComment
  /-- The value of a timeout is refused; the statement without comments is kept for the message. -/
  | timeout (fault : Timeout.Fault) (stripped : Text)
  deriving DecidableEq, Repr

/-- The message for the author of the text. -/
def Fault.message : Fault → String
  | .openComment => "SQL statement contains an unterminated block comment"
  | .timeout .malformed stripped =>
    "Invalid statement timeout: \"" ++ Text.string stripped ++
      "\". Expected '<n>ms', '<n>s', '<n>m' or NULL"
  | .timeout .zero _ => "Statement timeout must be greater than zero, use NULL to clear it"

/-! ## Keywords -/

/-- The keywords that start a schema change. -/
def changeKeywords : List Text :=
  ["CREATE", "ALTER", "DROP", "ANALYZE", "GRANT", "REVOKE", "RENAME"].map String.toList

/-- The keywords that start a query. -/
def queryKeywords : List Text := ["SELECT", "WITH"].map String.toList

/-- The keywords that start an update. -/
def updateKeywords : List Text := ["INSERT", "UPDATE", "DELETE"].map String.toList

/-- The text after a statement hint in at-sign and braces; an open hint takes all of the text. -/
def afterHint : Text → Text
  | '@' :: '\x7b' :: rest => (rest.dropWhile (· != '\x7d')).drop 1
  | s => s

/-- Whether a character may stand before the leading keyword. -/
def isOpening (c : Char) : Bool := c == '(' || isBlank c

/-- The first keyword of a statement, after a hint and opening parentheses. -/
def leadingKeyword (s : Text) : Text :=
  ((afterHint (Text.trimStart s)).dropWhile isOpening).takeWhile Char.isAlpha

/-- The category of a statement that is no command. -/
def categoryOf (s : Text) : Category :=
  let keyword := Text.upper (leadingKeyword s)
  if keyword ∈ changeKeywords then .schemaChange
  else if keyword ∈ queryKeywords then .query
  else if keyword ∈ updateKeywords then .update
  else .unknown

/-! ## Commands -/

/-- The command that a statement without comments is, if it is one. -/
def commandOf (stripped : Text) : Except Fault (Option Command) :=
  let words := (Text.words stripped).map Text.upper
  if words = ["START", "BATCH", "DDL"].map String.toList then .ok (some .startBatch)
  else if words = ["RUN", "BATCH"].map String.toList then .ok (some .runBatch)
  else if words = ["ABORT", "BATCH"].map String.toList then .ok (some .abortBatch)
  else if Timeout.isSetting words then
    match Timeout.read stripped with
    | .ok timeout => .ok (some (.setTimeout timeout))
    | .error fault => .error (.timeout fault stripped)
  else .ok none

/-! ## Statements -/

namespace Statement

/-- The statement of a text that has no comments. -/
def ofStripped (source stripped : Text) : Except Fault Statement :=
  match commandOf stripped with
  | .error fault => .error fault
  | .ok (some command) => .ok ⟨source, stripped, .command command⟩
  | .ok none => .ok ⟨source, stripped, categoryOf stripped⟩

/-- The statement that a text holds. -/
def parse (source : Text) : Except Fault Statement :=
  match strip source with
  | none => .error .openComment
  | some stripped => ofStripped source stripped

/-- The texts of the statements of a script. -/
def ofScript (script : Text) : Except Fault (List Text) :=
  match split script with
  | none => .error .openComment
  | some texts => .ok texts

/-- Whether the statement changes the schema. -/
def isSchemaChange (s : Statement) : Bool := s.category == .schemaChange

/-- Whether the statement is a query. -/
def isQuery (s : Statement) : Bool := s.category == .query

/-- Whether the statement is an update. -/
def isUpdate (s : Statement) : Bool := s.category == .update

/-- The command that the statement is. -/
def command? (s : Statement) : Option Command :=
  match s.category with
  | .command c => some c
  | _ => none

end Statement
end Sql
end SchemaBatch
