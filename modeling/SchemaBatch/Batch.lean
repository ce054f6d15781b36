import SchemaBatch.Activity

/-!
# `Batch` — schema changes that are sent together

A batch takes schema changes only, keeps them, and sends them to the schema service as one operation
when it is run. The operation is not atomic: when it fails, some of its statements may have been
applied, and the update counts of the failure say which.

Contents: `BatchState`, `Batch`, `Reply`; `Batch.add`, `Batch.run`, `Batch.conclude`, `Batch.abort`;
`runStatements`, the activity of a run; the guard of queries (`Batch.admitQuery`) and the operations
that a batch always refuses.
-/

namespace SchemaBatch

/-- Where a batch is in its life. -/
inductive BatchState where
  /-- It takes statements. -/
  | started
  /-- It was run, and all statements were applied. -/
  | ran
  | runFailed
  | aborted
  deriving DecidableEq, Repr

/-- The name of the state. -/
def BatchState.name : BatchState → String
  | .started => "STARTED"
  | .ran => "RAN"
  | .runFailed => "RUN_FAILED"
  | .aborted => "ABORTED"

/-- The reply to a request: a result, or an activity that has to be run in the frame. -/
inductive Reply (α : Type) where
  | answered (result : Except SessionError α)
  /-- The label names the statement in messages about its interruption. -/
  | running (label : Text) (activity : Activity (Except SessionError α))

/-- The reply with its result mapped. -/
def Reply.map {α β : Type} (f : α → β) : Reply α → Reply β
  | .answered result => .answered (result.map f)
  | .running label activity => .running label (activity.map fun result => result.map f)

/-- The error that the reply already is. -/
def Reply.error? {α : Type} : Reply α → Option SessionError
  | .answered (.error e) => some e
  | _ => none

/-! ## The activity of a run -/

/-- The first `n` update counts, filled up with zeros. -/
def fitCounts (n : Nat) (counts : List Int) : List Int :=
  counts.take n ++ List.replicate (n - counts.length) 0

/-- The update counts that an answer about the progress of an operation shows for `n` statements.
None is confirmed when the progress cannot be had. -/
def knownCounts (n : Nat) : Except Failure Progress → List Int
  | .ok progress => fitCounts n progress.counts
  | .error _ => fitCounts n []

/-- Reports an operation of `n` statements that did not end well, with the counts known by now. -/
def reportFailure (operation : Operation) (n : Nat) (code : StatusCode) (message : String) :
    Activity (Except SessionError Unit) :=
  .call (.inspect operation) fun answer =>
    .done (.error (.batchFailed ⟨code, message, knownCounts n answer⟩))

/-- Submits statements as one operation and waits for it, until it is interrupted. After a success
the progress is asked for as well, but does not matter. -/
def runStatements (statements : List Text) : Activity (Except SessionError Unit) :=
  .call (.submit statements) fun
    | .error failure =>
      .done (.error (.batchFailed
        ⟨failure.code, failure.message, List.replicate statements.length 0⟩))
    | .ok operation =>
      .listen (.waitFor operation)
        (fun
          | .ok () => .call (.inspect operation) fun _ => .done (.ok ())
          | .error failure =>
            reportFailure operation statements.length failure.code failure.message)
        (reportFailure operation statements.length .cancelled
          ("Schema-change operation " ++ operation.name ++ " was cancelled"))

/-- Runs one query. -/
def runQuery (sql : Text) (options : List QueryOption) : Activity (Except SessionError ResultSet) :=
  .call (.query sql options) fun answer => .done (answer.mapError QueryFault.error)

/-! ## Batches -/

/-- Schema changes that are sent together. -/
structure Batch where
  /-- The statements so far, without comments, in the order in which they were added. -/
  statements : List Text
  state : BatchState
  deriving DecidableEq, Repr

namespace Batch

/-- A batch without statements. -/
def fresh : Batch := ⟨[], .started⟩

/-- Whether the batch takes statements. -/
def isActive (b : Batch) : Bool := b.state == .started

/-- A batch writes. -/
def isReadOnly (_ : Batch) : Bool := false

/-- The label under which a batch is run. -/
def runLabel : Text := "RUN BATCH".toList

/-- Adds a schema change. -/
def add (b : Batch) (statement : Sql.Statement) : Except SessionError Batch :=
  if !b.isActive then
    .error (.invalidState
      "The batch is no longer active and cannot be used for further statements")
  else if !statement.isSchemaChange then
    .error (.notSchemaChange ("Only DDL statements are allowed. \"" ++
      Text.string statement.text ++ "\" is not a DDL-statement."))
  else .ok { b with statements := b.statements ++ [statement.text] }

/-- One update count of 1 for each statement. -/
def fullCounts (b : Batch) : List Int := List.replicate b.statements.length 1

/-- Runs the batch. Without statements there is nothing to send. -/
def run (b : Batch) : Reply (List Int) × Batch :=
  if !b.isActive then
    (.answered (.error (.invalidState "The batch is no longer active and cannot be ran")), b)
  else if b.statements.isEmpty then (.answered (.ok []), { b with state := .ran })
  else ((Reply.running runLabel (runStatements b.statements)).map fun _ => b.fullCounts, b)

/-- What a batch is after its run has ended. -/
def conclude {α : Type} (b : Batch) : Except SessionError α → Batch
  | .ok _ => { b with state := .ran }
  | .error _ => { b with state := .runFailed }

/-- Gives the batch up. -/
def abort (b : Batch) : Except SessionError Batch :=
  if b.isActive then .ok { b with state := .aborted }
  else .error (.invalidState "The batch is no longer active and cannot be aborted.")

/-! ## Queries -/

/-- The error for a statement that should be a query. -/
def notQuery (statement : Sql.Statement) : SessionError :=
  .invalidArgument ("Statement is not a query: " ++ Text.string statement.text)

/-- The options to send with a query, if a batch lets it through: it has to be marked as a metadata
query and must not be analysed. -/
def admitQuery (statement : Sql.Statement) (analysis : Analysis) (options : List QueryOption) :
    Except SessionError (List QueryOption) :=
  if !options.any QueryOption.isProbe then
    .error (.notAllowed "Executing queries is not allowed for DDL batches.")
  else if !statement.isQuery then .error (notQuery statement)
  else if analysis ≠ .none then .error (.notAllowed "Analyze is not allowed for DDL batches.")
  else .ok (QueryOption.forwarded options)

/-- Runs a query in the frame. -/
def query (statement : Sql.Statement) (analysis : Analysis) (options : List QueryOption) :
    Reply ResultSet :=
  match admitQuery statement analysis options with
  | .error e => .answered (.error e)
  | .ok options => .running statement.text (runQuery statement.text options)

/-- The activity of a query that runs in the background, outside the frame. It needs a place to run,
which the caller may not have. -/
def queryInBackground (statement : Sql.Statement) (analysis : Analysis)
    (options : List QueryOption) (canSpawn : Bool) :
    Except SessionError (Activity (Except SessionError ResultSet)) :=
  match admitQuery statement analysis options with
  | .error e => .error e
  | .ok options =>
    if canSpawn then .ok (runQuery statement.text options)
    else .error (.configuration
      "Asynchronous queries must be started from within a Tokio runtime")

/-! ## What a batch refuses -/

/-- An operation of a unit of work that no batch accepts. -/
inductive Refused where
  | update
  | batchUpdate
  | write
  | commit
  | rollback
  deriving DecidableEq, Repr

/-- The error for a refused operation. -/
def Refused.error : Refused → SessionError
  | .update => .notAllowed "Executing updates is not allowed for DDL batches."
  | .batchUpdate => .notAllowed "Executing batch updates is not allowed for DDL batches."
  | .write => .notAllowed "Writing mutations is not allowed for DDL batches."
  | .commit => .notAllowed "Commit is not allowed for DDL batches."
  | .rollback => .notAllowed "Rollback is not allowed for DDL batches."

/-- A batch has no read timestamp. -/
def readTimestamp : Except SessionError Timestamp :=
  .error (.noTimestamp "There is no read timestamp available for DDL batches.")

/-- A batch has no commit timestamp. -/
def commitTimestamp : Except SessionError Timestamp :=
  .error (.noTimestamp "There is no commit timestamp available for DDL batches.")

end Batch
end SchemaBatch
