import SchemaBatch.Remote

/-!
# `Service.Scripted` — a schema service that follows a script

The service answers each call after a set delay with what its script says, and keeps the submissions
it took. It is for trying out how batches cope with slow, failing and careless services.

Contents: `Scripted`; `Scripted.submit`; `Scripted.report`, the progress it claims for a submission.
-/

namespace SchemaBatch

/-- A schema service that follows a script. A delay that is absent never ends. -/
structure Scripted where
  submitDelay : Option Nat
  waitDelay : Option Nat
  inspectDelay : Option Nat
  /-- The failure of submissions; without one they are taken. -/
  submitFailure : Option Failure
  /-- The failure of operations; without one they succeed. -/
  waitFailure : Option Failure
  /-- Whether the progress of an operation can be had. -/
  reports : Bool
  /-- The number of statements in a report, all of them when absent. -/
  reportedCount : Option Nat
  /-- The positions reported as committed, in the order in which they are recorded. -/
  committed : List Nat
  /-- The name of the n-th operation. -/
  operationName : Nat → String
  /-- The statement lists taken so far. -/
  submissions : List (List Text)

namespace Scripted

/-- The handle of the next operation. Operations are counted from one. -/
def nextOperation (s : Scripted) : Operation :=
  ⟨s.operationName (s.submissions.length + 1), s.submissions.length⟩

/-- Takes or refuses a submission. -/
def submit (s : Scripted) (statements : List Text) : Except Failure Operation × Scripted :=
  match s.submitFailure with
  | some failure => (.error failure, s)
  | none => (.ok s.nextOperation, { s with submissions := s.submissions ++ [statements] })

/-- What waiting for an operation is answered with. -/
def outcome (s : Scripted) : Except Failure Unit :=
  match s.waitFailure with
  | some failure => .error failure
  | none => .ok ()

/-- The statements of a report: cut or filled up to the number that is reported. -/
def reportedStatements (s : Scripted) (statements : List Text) : List Text :=
  match s.reportedCount with
  | none => statements
  | some count => statements.take count ++ List.replicate (count - statements.length) []

/-- The progress that the service claims for an operation. -/
def report (s : Scripted) (operation : Operation) : Except Failure Progress :=
  if s.reports then
    let statements := s.reportedStatements ((s.submissions[operation.index]?).getD [])
    .ok (s.committed.foldl (fun p i => p.record i (Timestamp.ofMillis 0))
      (Progress.ofStatements statements))
  else .error (Failure.ofStatus ⟨.unavailable, "No metadata for " ++ operation.name⟩)

end Scripted
end SchemaBatch
