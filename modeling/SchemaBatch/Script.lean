import SchemaBatch.Script.Classification
import SchemaBatch.Script.Report
import SchemaBatch.Session
import SchemaBatch.World

/-!
# `Script` — the schema changes of a script as one batch

A script is taken statement by statement into a session with an open batch, and nothing is sent
before all of it was taken. Then the batch is run, and a report says what became of each schema
change.

Contents: `Preparation`, a session that takes a script; `Preparation.take` and
`Preparation.takeAll`; `Script.prepare` and `Script.run`.
-/

namespace SchemaBatch
namespace Script

/-- Whether a statement opens or ends a batch. -/
def managesBatch (statement : Sql.Statement) : Bool :=
  match statement.command? with
  | some .startBatch | some .runBatch | some .abortBatch => true
  | _ => false

/-- A session that takes the statements of a script. -/
structure Preparation where
  session : Session
  frame : Frame
  /-- The schema changes taken so far, without comments. -/
  changes : List Text

namespace Preparation

/-- A session with an open batch, if it accepts its options. -/
def openWith (options : Options) : Except SessionError Preparation := do
  let (session, frame) ← Session.openWith options
  let session ← session.startBatch
  .ok ⟨session, frame, []⟩

/-- The preparation after a statement was handed to the session. -/
def pass (p : Preparation) (statement : Sql.Statement) (sql : Text) :
    Except ScriptError Preparation :=
  let (reply, session, frame) := p.session.execute p.frame sql
  match reply.error? with
  | some e => .error (.session e)
  | none =>
    .ok ⟨session, frame,
      if statement.isSchemaChange then p.changes ++ [statement.text] else p.changes⟩

/-- Takes a statement. The batch is opened and ended by the run itself, so statements that do this
are not taken. -/
def take (p : Preparation) (sql : Text) : Except ScriptError Preparation :=
  match readStatement sql with
  | .error e => .error (.session e)
  | .ok statement =>
    if managesBatch statement then .error (.misplaced statement.text) else p.pass statement sql

/-- Takes statements in order, up to the first that is refused. -/
def takeAll : List Text → Preparation → Except ScriptError Preparation
  | [], p => .ok p
  | sql :: rest, p =>
    match p.take sql with
    | .error e => .error e
    | .ok p => takeAll rest p

/-- A report about the schema changes that were taken. -/
def report (p : Preparation) (counts : List Int) (error : Option String) (catalog : Catalog) :
    RunReport :=
  ⟨p.session.options.database, List.zipWith StatementOutcome.mk p.changes counts, error,
    catalog.toList⟩

/-- A report about a run that has ended. A failure of the batch is part of the report. -/
def conclude (p : Preparation) (catalog : Catalog) :
    Except SessionError (List Int) → Except ScriptError RunReport
  | .ok counts => .ok (p.report counts none catalog)
  | .error (.batchFailed f) => .ok (p.report f.counts (some f.text) catalog)
  | .error e => .error (.session e)

/-- The instant at which a service has carried out the batch, whatever comes of it. -/
def deadline (p : Preparation) (service : InMemory) : Nat := p.changes.length * service.delay

/-- Runs the batch against a service that has nothing else to do, and waits for its end. -/
def run (p : Preparation) (service : InMemory) : Except ScriptError RunReport × InMemory :=
  let world : World Unit := World.quiet p.frame ⟨.inMemory service, Database.empty⟩
  let (outcome, world) := world.completeBy (p.deadline service) p.session.runBatch.1
  let service := world.backend.schema.inMemory?.getD service
  (p.conclude service.catalog outcome.result, service)

end Preparation

/-! ## Scripts -/

/-- A session that has taken the whole script. -/
def prepare (script : Text) (options : Options) : Except ScriptError Preparation :=
  match readScript script with
  | .error e => .error (.session e)
  | .ok texts =>
    match Preparation.openWith options with
    | .error e => .error (.session e)
    | .ok p => p.takeAll texts

/-- Runs the schema changes of a script as one batch. -/
def run (script : Text) (options : Options) (service : InMemory) :
    Except ScriptError RunReport × InMemory :=
  match prepare script options with
  | .error e => (.error e, service)
  | .ok p => p.run service

end Script
end SchemaBatch
