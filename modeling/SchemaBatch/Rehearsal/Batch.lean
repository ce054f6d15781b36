import SchemaBatch.World
import SchemaBatch.Options

/-!
# `Rehearsal.Batch` — a batch taken through a list of steps

A rehearsal plays steps against a batch in a world with a clock of its own, and notes what each step
gives and where the batch stands after it.

Contents: `BatchAction` and `BatchStep`; `BatchAnswer` and `BatchNote`; `BatchRehearsal` with
`BatchRehearsal.play`.
-/

namespace SchemaBatch
namespace Rehearsal

/-- What a step does with a batch. -/
inductive BatchAction where
  /-- Adds the statement of the step. -/
  | change
  /-- Tries an operation that no batch accepts. -/
  | refused (operation : Batch.Refused)
  /-- Runs the batch, with an alarm after some time. -/
  | run (alarm : Option Nat)
  | abort
  /-- Runs the statement of the step as a query, with an alarm after some time. -/
  | query (options : List QueryOption) (analysis : Analysis) (alarm : Option Nat)
  /-- Runs the statement of the step as a query in the background, lets some time pass, cancels the
  query or not, and waits for it. -/
  | queryInBackground (options : List QueryOption) (analysis : Analysis) (pause : Nat)
      (cancel : Bool) (canSpawn : Bool)
  | timestamps
  | info
  /-- Sets the timeout of the frame. -/
  | setTimeout (timeout : Option Nat)
  | sleep (duration : Nat)

/-- A step: an action and the statement it is about. -/
structure BatchStep where
  sql : Text
  action : BatchAction

/-- What a step gives. -/
inductive BatchAnswer where
  /-- The statement of the step cannot be read. -/
  | unreadable (error : SessionError)
  | plain (result : Except SessionError Unit)
  /-- The update counts of a run, and whether an alarm had anything to cancel. -/
  | counts (outcome : Outcome (List Int)) (stopped : Option Bool)
  /-- The rows of a query, and whether an alarm had anything to cancel. -/
  | rows (outcome : Outcome ResultSet) (stopped : Option Bool)
  /-- The rows of a query in the background, and whether it had ended before it was waited for. -/
  | backgroundRows (outcome : Outcome ResultSet) (finished : Bool)
  | timestamps (read commit : Except SessionError Timestamp)
  | info (isActive isReadOnly : Bool)
  | nothing

/-- What is noted after a step. -/
structure BatchNote where
  answer : BatchAnswer
  state : BatchState
  /-- The number of statements in the batch. -/
  size : Nat

/-- A batch with its surroundings. -/
structure BatchRehearsal where
  batch : Batch
  world : World ResultSet
  /-- Whether steps can reach the frame of the batch. Otherwise what they do to the frame is lost.
  -/
  reaches : Bool

namespace BatchRehearsal

/-- The error of a background query that was cancelled. -/
def cancelledQuery : SessionError := .service ⟨.cancelled, "Asynchronous query was cancelled"⟩

/-- Runs the batch. A run that is dropped leaves the batch as it was. -/
def run (r : BatchRehearsal) (alarm : Option Nat) : BatchAnswer × BatchRehearsal :=
  let (reply, batch) := r.batch.run
  let ((outcome, stopped), world) := r.world.underAlarm alarm r.reaches (·.complete reply)
  let batch := match reply, outcome with
    | .running _ _, .ended result => batch.conclude result
    | _, _ => batch
  (.counts outcome stopped, { r with batch, world })

/-- Waits until a limit for a query in the background, which may be cancelled before. -/
def finishQuery (r : BatchRehearsal) (limit index : Nat) (cancel : Bool) :
    BatchAnswer × BatchRehearsal :=
  let finished := r.world.isFinished index
  if cancel && !finished then
    (.backgroundRows (.ended (.error cancelledQuery)) finished,
      { r with world := r.world.dropTask index })
  else
    let (outcome, world) := r.world.join limit index
    (.backgroundRows outcome finished, { r with world })

/-- Makes the action of a step. -/
def act (r : BatchRehearsal) (statement : Sql.Statement) :
    BatchAction → BatchAnswer × BatchRehearsal
  | .change =>
    match r.batch.add statement with
    | .ok batch => (.plain (.ok ()), { r with batch })
    | .error e => (.plain (.error e), r)
  | .refused operation => (.plain (.error operation.error), r)
  | .run alarm => r.run alarm
  | .abort =>
    match r.batch.abort with
    | .ok batch => (.plain (.ok ()), { r with batch })
    | .error e => (.plain (.error e), r)
  | .query options analysis alarm =>
    let ((outcome, stopped), world) := r.world.underAlarm alarm r.reaches
      (·.complete (Batch.query statement analysis options))
    (.rows outcome stopped, { r with world })
  | .queryInBackground options analysis pause cancel canSpawn =>
    match Batch.queryInBackground statement analysis options canSpawn with
    | .error e => (.plain (.error e), r)
    | .ok activity =>
      let limit := r.world.now + World.patience
      let (index, world) := r.world.spawn (.free (Engaged.start activity r.world.now))
      let r := { r with world := world.sleep (min pause World.patience) }
      if pause ≤ World.patience then finishQuery r limit index cancel
      else (.backgroundRows .hung false, r)
  | .timestamps => (.timestamps Batch.readTimestamp Batch.commitTimestamp, r)
  | .info => (.info r.batch.isActive r.batch.isReadOnly, r)
  | .setTimeout timeout =>
    if r.reaches then
      (.nothing, { r with world := { r.world with frame := r.world.frame.setTimeout timeout } })
    else (.nothing, r)
  | .sleep duration => (.nothing, { r with world := r.world.sleep duration })

/-- Makes a step. -/
def step (r : BatchRehearsal) (s : BatchStep) : BatchNote × BatchRehearsal :=
  match readStatement s.sql with
  | .error e => (⟨.unreadable e, r.batch.state, r.batch.statements.length⟩, r)
  | .ok statement =>
    let (answer, r) := r.act statement s.action
    (⟨answer, r.batch.state, r.batch.statements.length⟩, r)

/-- Makes steps one after the other. -/
def play : List BatchStep → BatchRehearsal → List BatchNote × BatchRehearsal
  | [], r => ([], r)
  | s :: steps, r =>
    let (note, r) := r.step s
    let (notes, r) := play steps r
    (note :: notes, r)

end BatchRehearsal

/-- What a batch is built from. -/
structure BatchSetup where
  /-- The schema service, if the batch is given one. -/
  schema : Option SchemaService
  /-- The data service, if the batch is given one. -/
  database : Option Database
  /-- The frame that the batch is to share, if it is given one. -/
  frame : Option Frame

/-- Builds a batch, which needs both services. Without a frame it runs in one of its own. -/
def BatchSetup.build (s : BatchSetup) : Except SessionError BatchRehearsal :=
  match s.schema, s.database with
  | none, _ => .error (.configuration "No DdlClient specified")
  | some _, none => .error (.configuration "No DatabaseClient specified")
  | some schema, some database =>
    .ok ⟨Batch.fresh, World.quiet (s.frame.getD (Frame.idle none defaultGrace)) ⟨schema, database⟩,
      s.frame.isSome⟩

end Rehearsal
end SchemaBatch
