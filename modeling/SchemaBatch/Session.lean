import SchemaBatch.Batch
import SchemaBatch.Frame
import SchemaBatch.Options

/-!
# `Session` — statements of all kinds against one database

A session reads each statement and routes it: commands change the session, schema changes go to the
open batch or run as a batch of one, queries go to the data service. What has to be waited for is
handed back as an activity for the frame of the session.

Contents: `StatementResult`, `Session`, `Session.openWith`; `Session.startBatch`,
`Session.runBatch`, `Session.abortBatch`; `Session.query`, `Session.metadataQuery`;
`Session.execute`.
-/

namespace SchemaBatch

/-- What a statement gives. -/
inductive StatementResult where
  | noResult
  /-- The rows of a query. -/
  | rows (result : ResultSet)
  /-- One update count for each statement of a batch. -/
  | counts (counts : List Int)
  /-- The number of rows that an update changed. -/
  | count (count : Int)

/-- A session against one database. -/
structure Session where
  options : Options
  /-- The open batch. -/
  batch : Option Batch
  deriving DecidableEq, Repr

namespace Session

/-- Opens a session with its frame, if the options are valid. -/
def openWith (options : Options) : Except SessionError (Session × Frame) :=
  match options.check with
  | .error fault => .error fault.error
  | .ok () => .ok (⟨options, none⟩, Frame.idle options.timeout options.grace)

/-- Whether schema changes are kept in a batch. -/
def isBatchActive (s : Session) : Bool := s.batch.any Batch.isActive

/-! ## Batches -/

/-- Opens a batch. -/
def startBatch (s : Session) : Except SessionError Session :=
  match s.batch with
  | some _ => .error (.invalidState "Cannot start a DDL batch when a batch is already active")
  | none => .ok { s with batch := some Batch.fresh }

/-- The error for running or aborting a batch when none is open. -/
def noBatchTo (action : String) : SessionError :=
  .invalidState ("This connection has no active batch to " ++ action)

/-- Runs the open batch and lets go of it, whatever comes of the run. -/
def runBatch (s : Session) : Reply (List Int) × Session :=
  match s.batch with
  | none => (.answered (.error (noBatchTo "run")), s)
  | some b => (b.run.1, { s with batch := none })

/-- Aborts the open batch and lets go of it. -/
def abortBatch (s : Session) : Except SessionError Unit × Session :=
  match s.batch with
  | none => (.error (noBatchTo "abort"), s)
  | some b => (b.abort.map fun _ => (), { s with batch := none })

/-! ## Queries -/

/-- Sends a query to the open batch, or to the data service when there is none. -/
def routeQuery (s : Session) (statement : Sql.Statement) (options : List QueryOption) :
    Reply ResultSet :=
  match s.batch with
  | some _ => Batch.query statement .none options
  | none =>
    .running statement.text (runQuery statement.text (QueryOption.forwarded options))

/-- Runs a query with options. -/
def query (s : Session) (sql : Text) (options : List QueryOption) : Reply ResultSet :=
  match readStatement sql with
  | .error e => .answered (.error e)
  | .ok statement =>
    if statement.isQuery then s.routeQuery statement options
    else .answered (.error (Batch.notQuery statement))

/-- Runs a query that inspects the metadata of the database, which an open batch lets through. -/
def metadataQuery (s : Session) (sql : Text) : Reply ResultSet := s.query sql [.metadataProbe]

/-! ## Statements -/

/-- Adds a schema change to the open batch, or runs it as a batch of its own when there is none. -/
def change (s : Session) (statement : Sql.Statement) : Reply StatementResult × Session :=
  match s.batch with
  | some b =>
    match b.add statement with
    | .error e => (.answered (.error e), s)
    | .ok b => (.answered (.ok .noResult), { s with batch := some b })
  | none =>
    match Batch.fresh.add statement with
    | .error e => (.answered (.error e), s)
    | .ok b => (b.run.1.map fun _ => .noResult, s)

/-- Refuses an update. -/
def update (s : Session) (statement : Sql.Statement) : SessionError :=
  match s.batch with
  | some _ => Batch.Refused.update.error
  | none =>
    .unsupported ("Updates require a read/write transaction: " ++ Text.string statement.text)

/-- Carries out a command. -/
def carryOut (s : Session) (f : Frame) : Sql.Command → Reply StatementResult × Session × Frame
  | .startBatch =>
    match s.startBatch with
    | .error e => (.answered (.error e), s, f)
    | .ok s => (.answered (.ok .noResult), s, f)
  | .runBatch =>
    let (reply, s) := s.runBatch
    (reply.map .counts, s, f)
  | .abortBatch =>
    let (result, s) := s.abortBatch
    (.answered (result.map fun _ => .noResult), s, f)
  | .setTimeout timeout => (.answered (.ok .noResult), s, f.setTimeout timeout)

/-- Routes a statement. -/
def route (s : Session) (f : Frame) (statement : Sql.Statement) :
    Reply StatementResult × Session × Frame :=
  match statement.category with
  | .command command => s.carryOut f command
  | .schemaChange =>
    let (reply, s) := s.change statement
    (reply, s, f)
  | .query => ((s.routeQuery statement []).map .rows, s, f)
  | .update => (.answered (.error (s.update statement)), s, f)
  | .unknown =>
    (.answered (.error (.invalidArgument ("Unknown statement: " ++ Text.string statement.text))),
      s, f)

/-- Executes a statement of any kind. -/
def execute (s : Session) (f : Frame) (sql : Text) : Reply StatementResult × Session × Frame :=
  match readStatement sql with
  | .error e => (.answered (.error e), s, f)
  | .ok statement => s.route f statement

end Session
end SchemaBatch
