import SchemaBatch.Failure
import SchemaBatch.Sql.Statement

/-!
# `SessionError` — the errors a session reports

Contents: `BatchFailure`, the failed run of a batch with the update count of each statement;
`SessionError` with its printed text and its status code; the errors that several operations share.
-/

namespace SchemaBatch

/-- A failed batch run. There is one update count for each statement of the batch: 1 when the
service confirmed that it was applied, 0 otherwise. -/
structure BatchFailure where
  code : StatusCode
  message : String
  counts : List Int
  deriving DecidableEq, Repr

namespace BatchFailure

/-- The failure on one line. -/
def text (f : BatchFailure) : String := f.code.name ++ ": " ++ f.message

/-- Whether the run was cancelled. -/
def isCancelled (f : BatchFailure) : Bool := f.code == .cancelled

/-- The number of statements confirmed as applied. -/
def applied (f : BatchFailure) : Nat := (f.counts.filter fun n => decide (0 < n)).length

end BatchFailure

/-- An error that a session reports to its user. -/
inductive SessionError where
  /-- An operation outside the states in which it is legal. -/
  | invalidState (message : String)
  /-- A statement handed to a batch that is no schema change. -/
  | notSchemaChange (message : String)
  /-- An operation that a batch never accepts. -/
  | notAllowed (message : String)
  /-- A timestamp asked for where there is none. -/
  | noTimestamp (message : String)
  /-- A batch run that failed, perhaps after some of its statements were applied. -/
  | batchFailed (failure : BatchFailure)
  /-- An error of a database service. -/
  | service (status : Status)
  | invalidArgument (message : String)
  | configuration (message : String)
  | unsupported (message : String)
  deriving DecidableEq, Repr

namespace SessionError

/-- The error on one line. -/
def text : SessionError → String
  | .invalidState m => "Invalid batch state: " ++ m
  | .notSchemaChange m => "Not a DDL statement: " ++ m
  | .notAllowed m => "Operation not allowed: " ++ m
  | .noTimestamp m => "No timestamp available: " ++ m
  | .batchFailed f => "Batch update failed: " ++ f.text
  | .service s => "Service error: " ++ s.text
  | .invalidArgument m => "Invalid argument: " ++ m
  | .configuration m => "Configuration error: " ++ m
  | .unsupported m => "Unsupported: " ++ m

/-- The status code of the error. -/
def code : SessionError → StatusCode
  | .invalidState _ | .notAllowed _ | .noTimestamp _ => .failedPrecondition
  | .notSchemaChange _ | .invalidArgument _ | .configuration _ => .invalidArgument
  | .batchFailed f => f.code
  | .service s => s.code
  | .unsupported _ => .unimplemented

/-- The error as the outermost of a chain: a service error names the status behind it, a failed
batch names its failure, which is no status of a service. -/
def accounts : SessionError → List Account
  | .batchFailed f => [.other (text (.batchFailed f)), .other f.text]
  | .service s => [.other (text (.service s)), .status s]
  | e => [.other e.text]

/-- The error for a text that is no statement. -/
def ofFault (fault : Sql.Fault) : SessionError := .invalidArgument fault.message

end SessionError

/-- The statement of a text, or the error that the session reports for it. -/
def readStatement (sql : Text) : Except SessionError Sql.Statement :=
  (Sql.Statement.parse sql).mapError SessionError.ofFault

/-- The statements of a script, or the error that the session reports for it. -/
def readScript (script : Text) : Except SessionError (List Text) :=
  (Sql.Statement.ofScript script).mapError SessionError.ofFault

end SchemaBatch
