import SchemaBatch.Service.InMemory
import SchemaBatch.Service.Scripted
import SchemaBatch.Database

/-!
# `Backend` — the services behind a session

Contents: `SchemaService`, either of the two schema services; `Backend`, a schema service with a
data service; `Backend.remote`, how they answer calls; `Backend.advance` and `Backend.next?`, the
work that goes on in the background.
-/

namespace SchemaBatch

/-- A service that takes schema changes. -/
inductive SchemaService where
  | inMemory (service : InMemory)
  | scripted (service : Scripted)

namespace SchemaService

/-- The statement lists submitted so far. -/
def submissions : SchemaService → List (List Text)
  | .inMemory s => s.submissions
  | .scripted s => s.submissions

/-- The in-memory service, if it is one. -/
def inMemory? : SchemaService → Option InMemory
  | .inMemory s => some s
  | .scripted _ => none

/-- The catalog of the service, if it has one. -/
def catalog? (s : SchemaService) : Option Catalog := s.inMemory?.map InMemory.catalog

end SchemaService

/-- The services behind a session. -/
structure Backend where
  schema : SchemaService
  database : Database

namespace Backend

/-- The instant at which something that takes a time and began at `since` is over. -/
def after (delay : Option Nat) (since : Nat) : Option Nat := delay.map (since + ·)

/-- The instant from which a call can be answered. The in-memory service answers at once, and a wait
as soon as the operation has ended. -/
def due (b : Backend) (since : Nat) : Call → Option Nat
  | .submit _ =>
    match b.schema with
    | .inMemory _ => some since
    | .scripted s => after s.submitDelay since
  | .waitFor operation =>
    match b.schema with
    | .inMemory s => (s.outcome? operation).map fun _ => since
    | .scripted s => after s.waitDelay since
  | .inspect _ =>
    match b.schema with
    | .inMemory _ => some since
    | .scripted s => after s.inspectDelay since
  | .query _ _ => after b.database.delay since
  | .pause duration => after duration since

/-- The answer to a submission. -/
def submit (b : Backend) (statements : List Text) (now : Nat) :
    Except Failure Operation × Backend :=
  match b.schema with
  | .inMemory s =>
    let (operation, s) := s.submit statements now
    (.ok operation, { b with schema := .inMemory s })
  | .scripted s =>
    let (result, s) := s.submit statements
    (result, { b with schema := .scripted s })

/-- The outcome of an operation that has ended. -/
def outcome (b : Backend) (operation : Operation) : Except Failure Unit :=
  match b.schema with
  | .inMemory s => (s.outcome? operation).getD (.error (InMemory.unknownOperation operation))
  | .scripted s => s.outcome

/-- The progress of an operation. -/
def progress (b : Backend) (operation : Operation) : Except Failure Progress :=
  match b.schema with
  | .inMemory s => s.progress operation
  | .scripted s => s.report operation

/-- The answer to a call. -/
def answer (b : Backend) (now : Nat) : (c : Call) → c.Answer × Backend
  | .submit statements => b.submit statements now
  | .waitFor operation => (b.outcome operation, b)
  | .inspect operation => (b.progress operation, b)
  | .query sql options =>
    let (result, database) := b.database.run sql options
    (result, { b with database })
  | .pause _ => ((), b)

/-- How the services answer calls. -/
def remote : Remote Backend where
  due c since b := b.due since c
  answer c now b := b.answer now c

/-- Does the work in the background that is due. -/
def advance (now : Nat) (b : Backend) : Backend :=
  match b.schema with
  | .inMemory s => { b with schema := .inMemory (s.advance now) }
  | .scripted _ => b

/-- The instant of the next work in the background. -/
def next? (b : Backend) : Option Nat :=
  match b.schema with
  | .inMemory s => s.next?
  | .scripted _ => none

end Backend
end SchemaBatch
