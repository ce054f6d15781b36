import SchemaBatch.Service.InMemory

/-!
# `Rehearsal.Service` — the in-memory service on its own

Contents: `OperationNote`, what can be seen of an operation that has ended; `submitAll`, which
submits statement lists one after the other and waits for each; `submitAndKill`, which kills a job
that may not have ended.
-/

namespace SchemaBatch
namespace Rehearsal

/-- What can be seen of an operation that has ended. -/
structure OperationNote where
  name : String
  outcome : Except Failure Unit
  progress : Progress
  /-- The catalog at the end of the operation. -/
  catalog : Catalog

/-- What can be seen of an operation. -/
def observe (s : InMemory) (operation : Operation) : OperationNote :=
  ⟨operation.name,
    (s.outcome? operation).getD (.error (InMemory.unknownOperation operation)),
    (match s.progress operation with
      | .ok progress => progress
      | .error _ => Progress.ofStatements []),
    s.catalog⟩

/-- The instant at which a job that is submitted now has ended, whatever comes of it. -/
def deadline (s : InMemory) (now : Nat) (statements : List Text) : Nat :=
  now + statements.length * s.delay

/-- Submits statements and lets the job run to its end. -/
def submitAndWait (s : InMemory) (now : Nat) (statements : List Text) : OperationNote × InMemory :=
  let (operation, s) := s.submit statements now
  let s := s.advance (deadline s now statements)
  (observe s operation, s)

/-- Submits statement lists from now on, each after the end of the one before it. -/
def submitAll (now : Nat) : List (List Text) → InMemory → List OperationNote × InMemory
  | [], s => ([], s)
  | statements :: rest, s =>
    let (note, next) := submitAndWait s now statements
    let (notes, last) := submitAll (deadline s now statements) rest next
    (note :: notes, last)

/-- Submits statements, lets the job run for some time and kills it. A time of nothing lets nothing
happen. -/
def submitAndKill (s : InMemory) (statements : List Text) (time : Nat) : OperationNote :=
  let (operation, s) := s.submit statements 0
  let s := if time = 0 then s else s.advance time
  observe (s.kill operation.index) operation

end Rehearsal
end SchemaBatch
