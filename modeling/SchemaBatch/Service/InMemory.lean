import SchemaBatch.Catalog
import SchemaBatch.Remote

/-!
# `Service.InMemory` — a schema service over a catalog in memory

Each submission becomes a job that applies its statements one at a time, with a delay before each,
and stops at the first that is refused. Jobs work on one catalog and go on whether or not anyone
waits for them; a job can be killed while it waits for its next statement.

What others can see of a job changes in three small effects: the catalog is written, the mark of the
statement is set, and after the last one the outcome is told. Between them a job keeps to itself what
it has not shown yet (`Unshown`). A step of a job is the three in a row, from one wait to the next:
this is what happens where one thread runs everything, since a job gives way to others only when it
waits. `Proofs.Threads` has jobs on threads of their own, between whose effects others go on.

Contents: `Job`, `JobState` and `Unshown`; `Job.applyNext`, `Job.mark`, `Job.report` and `Job.step`;
`InMemory` with `submit`, `step` (one statement of one job), `kill` and `advance` (all steps that are
due); the answers to calls.
-/

namespace SchemaBatch

/-- How a job stands. -/
inductive JobState where
  /-- The statement at a position is to be applied at an instant. -/
  | running (next : Nat) (due : Nat)
  /-- All statements were applied, or one was refused. -/
  | finished (outcome : Except Status Unit)
  /-- The job was killed before its end. -/
  | killed

/-- The work on one submission, as others see it. -/
structure Job where
  operation : Operation
  progress : Progress
  state : JobState

/-- What a job has done and not yet shown. -/
inductive Unshown where
  /-- The statement at a position was applied, and its mark is not set. -/
  | applied (position : Nat)
  /-- There is nothing left to do, and nobody was told. -/
  | ended (outcome : Except Status Unit)

namespace Job

/-- A job that has not begun. Without statements there is nothing to delay. -/
def ofSubmission (operation : Operation) (statements : List Text) (delay now : Nat) : Job :=
  ⟨operation, Progress.ofStatements statements,
    .running 0 (if statements.isEmpty then now else now + delay)⟩

/-- The statements of the job. -/
def statements (j : Job) : List Text := j.progress.statements

/-- The instant at which the job goes on. -/
def due? (j : Job) : Option Nat :=
  match j.state with
  | .running _ due => some due
  | _ => none

/-- The number of steps until the job has ended, at most. -/
def workload (j : Job) : Nat :=
  match j.state with
  | .running next _ => j.statements.length - next + 1
  | _ => 0

/-- Applies the next statement of a job to a catalog. A refused statement leaves the catalog as it is,
and the job has nothing left to do. -/
def applyNext (c : Catalog) (j : Job) : Catalog × Option Unshown :=
  match j.state with
  | .running next _ =>
    match j.statements[next]? with
    | none => (c, some (.ended (.ok ())))
    | some statement =>
      match c.applyText statement with
      | .ok c => (c, some (.applied next))
      | .error status => (c, some (.ended (.error status)))
  | _ => (c, none)

/-- Sets the mark of the statement that was applied. The job waits for the next one, if there is one. -/
def mark (delay now : Nat) (j : Job) : Option Unshown → Job × Option Unshown
  | some (.applied position) =>
    let marked := { j with progress := j.progress.record position (Timestamp.ofMillis now) }
    if position + 1 < j.statements.length then
      ({ marked with state := .running (position + 1) (now + delay) }, none)
    else (marked, some (.ended (.ok ())))
  | unshown => (j, unshown)

/-- Tells the outcome to all who wait for the job. -/
def report (j : Job) : Option Unshown → Job × Option Unshown
  | some (.ended outcome) => ({ j with state := .finished outcome }, none)
  | unshown => (j, unshown)

/-- A step of a job, from one wait to the next: it applies its next statement, sets the mark and, when
there is nothing left to do, tells the outcome. -/
def step (c : Catalog) (delay now : Nat) (j : Job) : Catalog × Job :=
  let (c, unshown) := j.applyNext c
  let (j, unshown) := j.mark delay now unshown
  (c, (j.report unshown).1)

/-- Kills a job. One that has ended stays as it is. -/
def kill (j : Job) : Job :=
  match j.state with
  | .running _ _ => { j with state := .killed }
  | _ => j

/-- What waiting for the job is answered with, once it has ended. -/
def outcome? (j : Job) : Option (Except Failure Unit) :=
  match j.state with
  | .running _ _ => none
  | .finished (.ok ()) => some (.ok ())
  | .finished (.error status) =>
    some (.error (Failure.ofAccounts
      [.other ("Operation " ++ j.operation.name ++ " failed"), .status status]))
  | .killed =>
    some (.error (Failure.ofStatus
      ⟨.internal, "Operation " ++ j.operation.name ++ " was abandoned"⟩))

end Job

/-- A schema service over a catalog in memory. -/
structure InMemory where
  catalog : Catalog
  /-- The jobs, in the order of their submission. -/
  jobs : List Job
  /-- The delay before each statement. -/
  delay : Nat
  /-- What tells the operations apart in their names, by position. -/
  identifier : Nat → String

namespace InMemory

/-- A service with an empty catalog. -/
def fresh (delay : Nat) (identifier : Nat → String) : InMemory :=
  ⟨Catalog.empty, [], delay, identifier⟩

/-- The statement lists submitted so far. -/
def submissions (s : InMemory) : List (List Text) := s.jobs.map Job.statements

/-- The handle of the next operation. -/
def nextOperation (s : InMemory) : Operation :=
  ⟨"operations/ddl-" ++ s.identifier s.jobs.length, s.jobs.length⟩

/-- Takes a submission. -/
def submit (s : InMemory) (statements : List Text) (now : Nat) : Operation × InMemory :=
  (s.nextOperation,
    { s with jobs := s.jobs ++ [Job.ofSubmission s.nextOperation statements s.delay now] })

/-- Applies the next statement of the job at a position. -/
def step (s : InMemory) (index : Nat) (now : Nat) : InMemory :=
  match s.jobs[index]? with
  | none => s
  | some j =>
    let (catalog, j) := j.step s.catalog s.delay now
    { s with catalog, jobs := s.jobs.set index j }

/-- Kills the job at a position. -/
def kill (s : InMemory) (index : Nat) : InMemory :=
  { s with jobs := s.jobs.modify index Job.kill }

/-! ## Passing of time -/

/-- The earlier of two jobs to go on, each by its instant and position; the first of two at the same
instant. -/
def sooner (a b : Nat × Nat) : Nat × Nat := if b.1 < a.1 then b else a

/-- The jobs that go on, each by its instant and position. -/
def agenda (s : InMemory) : List (Nat × Nat) :=
  (s.jobs.mapIdx fun i j => j.due?.map fun due => (due, i)).filterMap id

/-- The job that goes on first. -/
def earliest? (s : InMemory) : Option (Nat × Nat) :=
  match s.agenda with
  | [] => none
  | item :: items => some (items.foldl sooner item)

/-- The number of steps until all jobs have ended, at most. -/
def workload (s : InMemory) : Nat := s.jobs.foldr (fun j n => j.workload + n) 0

/-- Makes at most `fuel` steps that are due, each at its own instant. -/
def advanceFor (now : Nat) : (fuel : Nat) → InMemory → InMemory
  | 0, s => s
  | fuel + 1, s =>
    match s.earliest? with
    | some (due, index) => if due ≤ now then advanceFor now fuel (s.step index due) else s
    | none => s

/-- Makes all steps that are due, earliest first. -/
def advance (now : Nat) (s : InMemory) : InMemory := advanceFor now s.workload s

/-- The instant of the next step. -/
def next? (s : InMemory) : Option Nat := s.earliest?.map Prod.fst

/-! ## Answers -/

/-- What waiting for an operation is answered with, once it has ended. -/
def outcome? (s : InMemory) (operation : Operation) : Option (Except Failure Unit) :=
  (s.jobs[operation.index]?).bind Job.outcome?

/-- The failure of a handle that the service never gave out. -/
def unknownOperation (operation : Operation) : Failure :=
  Failure.ofStatus ⟨.notFound, "Unknown operation: " ++ operation.name⟩

/-- The progress of an operation. -/
def progress (s : InMemory) (operation : Operation) : Except Failure Progress :=
  match s.jobs[operation.index]? with
  | some j => .ok j.progress
  | none => .error (unknownOperation operation)

end InMemory
end SchemaBatch
