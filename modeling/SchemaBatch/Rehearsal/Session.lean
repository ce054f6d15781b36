import SchemaBatch.Session
import SchemaBatch.World

/-!
# `Rehearsal.Session` — a session taken through a list of steps

Contents: `SessionAction`; `SessionAnswer` and `SessionNote`; `SessionRehearsal` with
`SessionRehearsal.openWith` and `SessionRehearsal.play`.
-/

namespace SchemaBatch
namespace Rehearsal

/-- What a step does with a session. -/
inductive SessionAction where
  /-- Executes a statement, with an alarm after some time. -/
  | execute (sql : Text) (alarm : Option Nat)
  /-- Runs a query, with an alarm after some time. -/
  | query (sql : Text) (options : List QueryOption) (alarm : Option Nat)
  /-- Runs a query on metadata, with an alarm after some time. -/
  | metadataQuery (sql : Text) (alarm : Option Nat)
  | startBatch
  /-- Runs the open batch, with an alarm after some time. -/
  | runBatch (alarm : Option Nat)
  | abortBatch
  /-- Cancels what runs in the frame. -/
  | cancel
  /-- Looks for a schema object. -/
  | exists (kind : ObjectKind) (name : Text)
  /-- Lists the schema. -/
  | schema
  | setTimeout (timeout : Option Nat)
  | setGrace (grace : Nat)
  | sleep (duration : Nat)
  /-- Registers the result of a query with the data service. -/
  | register (sql : Text) (result : ResultSet)

/-- What a step gives. -/
inductive SessionAnswer where
  | plain (result : Except SessionError Unit)
  /-- The result of a statement, and whether an alarm had anything to cancel. -/
  | statement (outcome : Outcome StatementResult) (stopped : Option Bool)
  | rows (outcome : Outcome ResultSet) (stopped : Option Bool)
  | counts (outcome : Outcome (List Int)) (stopped : Option Bool)
  | flag (value : Bool)
  /-- Whether an object exists, if the schema service has a catalog. -/
  | exists (kind : ObjectKind) (value : Option Bool)
  /-- The objects of the schema, if the schema service has a catalog. -/
  | schema (objects : Option (List SchemaObject))
  | nothing

/-- What is noted after a step. -/
structure SessionNote where
  answer : SessionAnswer
  isActive : Bool
  /-- The state of the batch, if one is open. -/
  state : Option BatchState
  timeout : Option Nat

/-- A session with its surroundings. -/
structure SessionRehearsal where
  session : Session
  world : World Unit

namespace SessionRehearsal

/-- Opens a session, if its options are valid. -/
def openWith (options : Options) (backend : Backend) : Except SessionError SessionRehearsal :=
  (Session.openWith options).map fun (session, frame) => ⟨session, World.quiet frame backend⟩

/-- Sees to a reply with an alarm set. -/
def complete {α : Type} (r : SessionRehearsal) (reply : Reply α) (alarm : Option Nat) :
    (Outcome α × Option Bool) × SessionRehearsal :=
  let (result, world) := r.world.underAlarm alarm true (·.complete reply)
  (result, { r with world })

/-- Makes a step. -/
def act (r : SessionRehearsal) : SessionAction → SessionAnswer × SessionRehearsal
  | .execute sql alarm =>
    let (reply, session, frame) := r.session.execute r.world.frame sql
    let ((outcome, stopped), r) :=
      complete ⟨session, { r.world with frame }⟩ reply alarm
    (.statement outcome stopped, r)
  | .query sql options alarm =>
    let ((outcome, stopped), r) := r.complete (r.session.query sql options) alarm
    (.rows outcome stopped, r)
  | .metadataQuery sql alarm =>
    let ((outcome, stopped), r) := r.complete (r.session.metadataQuery sql) alarm
    (.rows outcome stopped, r)
  | .startBatch =>
    match r.session.startBatch with
    | .ok session => (.plain (.ok ()), { r with session })
    | .error e => (.plain (.error e), r)
  | .runBatch alarm =>
    let (reply, session) := r.session.runBatch
    let ((outcome, stopped), r) := complete { r with session } reply alarm
    (.counts outcome stopped, r)
  | .abortBatch =>
    let (result, session) := r.session.abortBatch
    (.plain result, { r with session })
  | .cancel =>
    let (stopped, frame) := r.world.frame.cancel
    (.flag stopped, { r with world := { r.world with frame } })
  | .exists kind name =>
    (.exists kind (r.world.backend.schema.catalog?.map fun c => c.contains kind name), r)
  | .schema => (.schema (r.world.backend.schema.catalog?.map Catalog.toList), r)
  | .setTimeout timeout =>
    (.nothing, { r with world := { r.world with frame := r.world.frame.setTimeout timeout } })
  | .setGrace grace =>
    (.nothing, { r with world := { r.world with frame := r.world.frame.setGrace grace } })
  | .sleep duration => (.nothing, { r with world := r.world.sleep duration })
  | .register sql result =>
    let backend := r.world.backend
    let backend := { backend with database := backend.database.register sql result }
    (.nothing, { r with world := { r.world with backend } })

/-- What is noted after a step that gave an answer. -/
def note (r : SessionRehearsal) (answer : SessionAnswer) : SessionNote :=
  ⟨answer, r.session.isBatchActive, r.session.batch.map Batch.state, r.world.frame.timeout⟩

/-- Makes steps one after the other. -/
def play : List SessionAction → SessionRehearsal → List SessionNote × SessionRehearsal
  | [], r => ([], r)
  | action :: actions, r =>
    let (answer, r) := r.act action
    let (notes, last) := play actions r
    (r.note answer :: notes, last)

end SessionRehearsal
end Rehearsal
end SchemaBatch
