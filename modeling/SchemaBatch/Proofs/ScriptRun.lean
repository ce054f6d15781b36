import SchemaBatch.Proofs.InMemoryDeadline
import SchemaBatch.Proofs.ScriptPreparation
import SchemaBatch.Proofs.WorldSchedule

/-!
# `Proofs.ScriptRun` — what becomes of a script

Nothing is sent before a script was taken to its end. Then its schema changes are run as one batch, in a
frame that nobody else holds, and the report puts two lists side by side that were made apart: the changes
that were taken and the counts of the run. `Proofs.ScriptReports` is about what it says of the schema.

A run is followed under every schedule of what the service and its other users do meanwhile. The run in a
world is one of these (`Script.run_follows`).

* `Script.Run`, `Script.runUnder` — the run of a script under a schedule.
* `Preparation.runUnder_sends` — what is sent, and what kind of answer there is.
* `Script.all_or_nothing` — **a script that cannot be run leaves no trace**, wherever the statement stands
  that is in the way; any other is sent at once and answered with a report.
-/

namespace SchemaBatch
namespace Script

variable {script : Text} {options : Options} {statements : List Sql.Statement} {service : InMemory}
  {schedule : List (Happening Deed)}

/-! ## Runs under a schedule -/

/-- What has become of a script that is run. -/
structure Run where
  /-- The answer, once there is one. -/
  answer : Option (Except ScriptError RunReport)
  /-- The time that has passed. -/
  now : Nat
  /-- What happened between the run and the services. -/
  events : List Event
  /-- The interruption of the run, if there was one. -/
  windDown : Option WindDown
  /-- The service at that moment. -/
  service : InMemory

namespace Preparation

/-- The scene in which the batch is run. -/
def scene (p : Preparation) (service : InMemory) : Scene Backend :=
  ⟨0, p.frame, ⟨.inMemory service, Database.empty⟩⟩

/-- The course of the batch against a service, under a schedule. -/
def course (schedule : List (Happening Deed)) (p : Preparation) (service : InMemory) :
    Course Backend (List Int) :=
  p.session.runBatch.1.course Backend.shared schedule (p.scene service)

/-- Runs the batch against a service, under a schedule. -/
def runUnder (schedule : List (Happening Deed)) (p : Preparation) (service : InMemory) : Run :=
  let c := p.course schedule service
  let service := c.scene.state.schema.inMemory?.getD service
  { answer :=
      match c.status with
      | .ready result => some (p.conclude service.catalog result)
      | .pending _ => none
    now := c.scene.now
    events := c.events
    windDown := c.windDown
    service }

end Preparation

/-- Runs the schema changes of a script as one batch, under a schedule. Only the batch has to be waited
for. -/
def runUnder (schedule : List (Happening Deed)) (script : Text) (options : Options)
    (service : InMemory) : Run :=
  match prepare script options with
  | .error e => ⟨some (.error e), 0, [], none, service⟩
  | .ok p => p.runUnder schedule service

theorem runUnder_of_runnable (h : Runnable script options statements) :
    runUnder schedule script options service
      = (Preparation.having options statements).runUnder schedule service := by
  unfold runUnder
  rw [prepare_eq_ok_iff.mpr ⟨statements, h, rfl⟩]

/-- A script that cannot be run is refused at once. -/
theorem runUnder_of_not_runnable (h : ¬ ∃ statements, Runnable script options statements)
    (schedule : List (Happening Deed)) (service : InMemory) :
    ∃ e, prepare script options = .error e ∧
      runUnder schedule script options service = ⟨some (.error e), 0, [], none, service⟩ := by
  cases hp : prepare script options with
  | error e =>
    unfold runUnder
    rw [hp]
    exact ⟨e, rfl, rfl⟩
  | ok p =>
    obtain ⟨statements, hrunnable, _⟩ := prepare_eq_ok_iff.mp hp
    exact absurd ⟨statements, hrunnable⟩ h

/-! ## The batch of a script -/

/-- The batch that a script fills. -/
def batchOf (statements : List Sql.Statement) : Batch := ⟨changesOf statements, .started⟩

/-- What is sent for statements: their schema changes as one list, if there are any. -/
def sentOf (statements : List Sql.Statement) : List (List Text) :=
  if changesOf statements = [] then [] else [changesOf statements]

namespace Preparation

/-- Without changes there is nothing to wait for, -/
theorem runBatch_of_no_changes (hnone : changesOf statements = []) :
    (having options statements).session.runBatch.1 = .answered (.ok []) := by
  show (batchOf statements).run.1 = _
  rw [Batch.run_of_empty rfl hnone]

/-- and with changes there is. -/
theorem runBatch_of_changes (hne : changesOf statements ≠ []) :
    (having options statements).session.runBatch.1
      = .running Batch.runLabel (batchOf statements).body :=
  congrArg Prod.fst (Batch.run_of_started (b := batchOf statements) rfl hne)

/-- A batch without statements is answered without the service. -/
theorem runUnder_of_no_changes (hnone : changesOf statements = []) :
    (having options statements).runUnder schedule service
      = ⟨some (.ok ((having options statements).report [] none service.catalog)), 0, [], none,
          service⟩ := by
  unfold runUnder course
  rw [runBatch_of_no_changes hnone]
  rfl

section Course

variable {p : Preparation} {s : InMemory}
  (hs : (p.course schedule service).scene.state.schema = .inMemory s)
include hs

/-- The service is the one that the course leaves. -/
theorem runUnder_service : (p.runUnder schedule service).service = s := by
  unfold runUnder
  dsimp only
  rw [hs]
  rfl

/-- A run is answered once its course is over. -/
theorem runUnder_answer {answer : Except ScriptError RunReport} :
    (p.runUnder schedule service).answer = some answer ↔
      ∃ result, (p.course schedule service).status = .ready result ∧
        p.conclude s.catalog result = answer := by
  unfold runUnder
  dsimp only
  rw [hs]
  cases (p.course schedule service).status with
  | ready result => simp [SchemaService.inMemory?]
  | pending e => simp

end Course

/-- The course of a batch with changes waits, or has ended with what it read off the service. What the
deeds of the schedule keep of the services is `P`. -/
theorem course_attending (options : Options) {P : Backend → Prop}
    (hmemory : ∀ backend, P backend → ∃ s, backend.schema = .inMemory s)
    (hne : changesOf statements ≠ [])
    (hmove : ∀ d, .move d ∈ schedule → ∀ now backend, P backend → P (Backend.share d now backend))
    (hP : P ⟨.inMemory (service.submit (changesOf statements) 0).2, Database.empty⟩) :
    P ((having options statements).course schedule service).scene.state ∧
      ∃ e, (batchOf statements).Fares service.nextOperation e
        ((having options statements).course schedule service) := by
  have hs : ((having options statements).scene service).state.schema = .inMemory service := rfl
  obtain ⟨hstate, hfares⟩ := Batch.course_attending (b := batchOf statements) hmemory rfl hne schedule
    hmove hs hP
  exact ⟨hstate, _, hfares⟩

/-- A result that was read off the service makes a report, with a count for each statement. -/
theorem conclude_of_readOff {b : Batch} {s : InMemory} {operation : Operation}
    {result : Except SessionError (List Int)} (h : b.ReadOff s operation result) (p : Preparation)
    (catalog : Catalog) :
    ∃ counts error, p.conclude catalog result = .ok (p.report counts error catalog) ∧
      counts.length = b.statements.length := by
  cases h with
  | all _ => exact ⟨b.fullCounts, none, rfl, List.length_replicate⟩
  | @some f _ hf =>
    refine ⟨f.counts, some f.text, rfl, ?_⟩
    rw [hf, knownCounts_eq, length_countsOf]

/-- **What a run sends, and what comes of it**, whatever others do at the same time. The changes are sent
as one list, and others add what they add; an answer is a report, with a count for each change. -/
theorem runUnder_sends (schedule : List (Happening Deed)) (options : Options)
    (statements : List Sql.Statement) (service : InMemory) :
    let r := (having options statements).runUnder schedule service
    submissions r.events = sentOf statements ∧
    (∃ deeds : List Deed, (∀ d ∈ deeds, .move d ∈ schedule) ∧
      r.service.submissions
        = service.submissions ++ sentOf statements ++ deeds.filterMap Deed.submission?) ∧
    ∀ answer, r.answer = some answer → ∃ counts error,
      answer = .ok ((having options statements).report counts error r.service.catalog) ∧
        counts.length = (changesOf statements).length := by
  intro r
  have hevents : submissions r.events = sentOf statements :=
    (Batch.submits_run (b := batchOf statements) rfl).course Backend.shared schedule _
  by_cases hnone : changesOf statements = []
  · -- nothing is sent, and nobody waits
    have hr : r = _ := runUnder_of_no_changes hnone
    refine ⟨hevents, ⟨[], nofun, ?_⟩, ?_⟩
    · rw [hr, sentOf, if_pos hnone, List.append_nil]
      exact (List.append_nil _).symm
    · intro answer hanswer
      rw [hr] at hanswer
      cases hanswer
      exact ⟨[], none, by rw [hr], by rw [hnone]; rfl⟩
  · have hmemory : ∀ backend,
        Backend.GoneOn schedule (service.submit (changesOf statements) 0).2 backend →
        ∃ s, backend.schema = .inMemory s := by
      rintro backend ⟨deeds, _, hs⟩
      exact ⟨_, hs⟩
    obtain ⟨⟨deeds, hdeeds, hs⟩, e, hfares⟩ := course_attending options hmemory hnone
      (fun d hd now _ h => Backend.GoneOn.share h hd now) ⟨[], nofun, rfl⟩
    have hservice : r.service = InMemory.undergo deeds (service.submit (changesOf statements) 0).2 :=
      runUnder_service hs
    refine ⟨hevents, ⟨deeds, hdeeds, ?_⟩, ?_⟩
    · rw [hservice, InMemory.submissions_undergo, sentOf, if_neg hnone]
      exact congrArg (· ++ _) List.map_append
    · intro answer hanswer
      obtain ⟨result, hready, rfl⟩ := (runUnder_answer hs).mp hanswer
      rw [hservice]
      rcases hfares with ⟨hp, _⟩ | ⟨result', s, hready', _, hread⟩
      · cases hp.symm.trans hready
      · cases hready'.symm.trans hready
        exact conclude_of_readOff hread (having options statements) _

/-! ## The run in a world -/

/-- **The run in a world is one under a quiet schedule**, and it ends by its timeout. -/
theorem run_follows (options : Options) (statements : List Sql.Statement) (service : InMemory) :
    ∃ schedule : List (Happening Deed), (∀ h ∈ schedule, h.IsQuiet) ∧
      ((having options statements).runUnder schedule service).answer
        = some ((having options statements).run service).1 ∧
      ((having options statements).runUnder schedule service).service
        = ((having options statements).run service).2 ∧
      ∀ timeout, timeoutOf options.timeout statements = some timeout →
        ((having options statements).runUnder schedule service).now ≤ timeout := by
  by_cases hnone : changesOf statements = []
  · refine ⟨[], nofun, ?_⟩
    rw [runUnder_of_no_changes hnone]
    unfold run
    rw [runBatch_of_no_changes hnone]
    exact ⟨rfl, rfl, fun timeout _ => Nat.zero_le timeout⟩
  · let w : World Unit := World.quiet (having options statements).frame
      ⟨.inMemory service, Database.empty⟩
    have hlimit : w.now + (batchOf statements).statements.length * service.delay
        ≤ (having options statements).deadline service := Nat.le_of_eq (Nat.zero_add _)
    obtain ⟨result, w', hended, ⟨s, hs, _⟩, htimeout⟩ :=
      World.completeBy_ends (b := batchOf statements) (w := w) rfl hnone rfl rfl hlimit
    have hcomplete : w.completeBy ((having options statements).deadline service)
        (having options statements).session.runBatch.1 = (.ended result, w') := hended
    -- the run in the world
    have hworld : (having options statements).run service
        = ((having options statements).conclude s.catalog result, s) := by
      unfold run
      dsimp only
      rw [hcomplete, hs]
      rfl
    -- the same under a schedule
    rw [runBatch_of_changes hnone] at hcomplete
    obtain ⟨schedule, hquiet, hstatus, hscene⟩ := World.execute_follows rfl rfl hcomplete
    rw [← runBatch_of_changes hnone] at hstatus hscene
    have hs' : ((having options statements).course schedule service).scene.state.schema = .inMemory s :=
      (congrArg (fun scene : Scene Backend => scene.state.schema) hscene).trans hs
    refine ⟨schedule, hquiet, ?_, ?_, ?_⟩
    · rw [hworld, runUnder_answer hs']
      exact ⟨result, hstatus, rfl⟩
    · rw [hworld]
      exact runUnder_service hs'
    · intro timeout ht
      have hnow : ((having options statements).runUnder schedule service).now = w'.now :=
        congrArg Scene.now hscene
      rw [hnow, ← Nat.zero_add timeout]
      exact htimeout timeout ht

end Preparation

/-- So is the run of a script. -/
theorem run_follows (script : Text) (options : Options) (service : InMemory) :
    ∃ schedule : List (Happening Deed), (∀ h ∈ schedule, h.IsQuiet) ∧
      (runUnder schedule script options service).answer = some (run script options service).1 ∧
      (runUnder schedule script options service).service = (run script options service).2 ∧
      ∀ statements timeout, Runnable script options statements →
        timeoutOf options.timeout statements = some timeout →
        (runUnder schedule script options service).now ≤ timeout := by
  by_cases h : ∃ statements, Runnable script options statements
  · obtain ⟨statements, hrunnable⟩ := h
    obtain ⟨schedule, hquiet, hanswer, hservice, htimeout⟩ :=
      Preparation.run_follows options statements service
    have hprepare := prepare_eq_ok_iff.mpr ⟨statements, hrunnable, rfl⟩
    refine ⟨schedule, hquiet, ?_⟩
    rw [runUnder_of_runnable hrunnable]
    unfold run
    rw [hprepare]
    refine ⟨hanswer, hservice, ?_⟩
    intro statements' timeout hrunnable' ht
    cases hrunnable.unique hrunnable'
    exact htimeout timeout ht
  · obtain ⟨e, hprepare, hrefused⟩ := runUnder_of_not_runnable h [] service
    refine ⟨[], nofun, ?_⟩
    rw [hrefused]
    unfold run
    rw [hprepare]
    exact ⟨rfl, rfl, fun _ _ _ _ => Nat.zero_le _⟩

/-- **All or nothing.** What a run has come to that others have given some more statement lists to the
service meanwhile. -/
structure Run.AllOrNothing (script : Text) (options : Options) (service : InMemory)
    (others : List (List Text)) (r : Run) : Prop where
  /-- The answer is a report exactly if the script can be run. -/
  report_iff : ∀ answer, r.answer = some answer →
    ((∃ report, answer = .ok report) ↔ ∃ statements, Runnable script options statements)
  /-- The statements of a script that can be run are the ones that are listed for it. -/
  classified : ∀ statements, Runnable script options statements → classify script = .ok statements
  /-- The report is about the schema changes among them, in their order. -/
  reported : ∀ statements report, Runnable script options statements → r.answer = some (.ok report) →
    report.outcomes.map StatementOutcome.statement = changesOf statements
  /-- They are sent as one list, unless there are none. -/
  sends : ∀ statements, Runnable script options statements →
    submissions r.events = sentOf statements ∧
      r.service.submissions = service.submissions ++ sentOf statements ++ others
  /-- A script that cannot be run is answered with an error, and nothing has happened. -/
  refused : (¬ ∃ statements, Runnable script options statements) →
    (∃ e, r.answer = some (.error e)) ∧ r.events = [] ∧ r.service = service

/-- The statements of a report are those that were taken, if there is a count for each. -/
theorem Preparation.map_statement_report {p : Preparation} {counts : List Int} {error : Option String}
    {catalog : Catalog} (h : counts.length = p.changes.length) :
    (p.report counts error catalog).outcomes.map StatementOutcome.statement = p.changes := by
  show (List.zipWith StatementOutcome.mk p.changes counts).map StatementOutcome.statement = p.changes
  rw [List.map_zipWith]
  generalize p.changes = changes at h
  induction changes generalizing counts with
  | nil => rfl
  | cons change changes ih =>
    cases counts with
    | nil => cases h
    | cons count counts => exact congrArg (change :: ·) (ih (Nat.succ.inj h))

theorem runUnder_allOrNothing (schedule : List (Happening Deed)) (script : Text) (options : Options)
    (service : InMemory) :
    ∃ deeds : List Deed, (∀ d ∈ deeds, .move d ∈ schedule) ∧
      (runUnder schedule script options service).AllOrNothing script options service
        (deeds.filterMap Deed.submission?) := by
  by_cases h : ∃ statements, Runnable script options statements
  · obtain ⟨statements, hrunnable⟩ := h
    obtain ⟨hevents, ⟨deeds, hdeeds, hsubmissions⟩, hanswers⟩ :=
      Preparation.runUnder_sends schedule options statements service
    refine ⟨deeds, hdeeds, ?_⟩
    rw [runUnder_of_runnable hrunnable]
    exact
      { report_iff := by
          intro answer hanswer
          obtain ⟨counts, error, hreport, _⟩ := hanswers answer hanswer
          exact ⟨fun _ => ⟨statements, hrunnable⟩, fun _ => ⟨_, hreport⟩⟩
        classified := fun statements hrunnable => classify_eq_ok_iff.mpr hrunnable.spells
        reported := by
          intro statements' report hrunnable' hanswer
          cases hrunnable.unique hrunnable'
          obtain ⟨counts, error, hreport, hlength⟩ := hanswers _ hanswer
          rw [Except.ok.inj hreport]
          exact Preparation.map_statement_report hlength
        sends := by
          intro statements' hrunnable'
          cases hrunnable.unique hrunnable'
          exact ⟨hevents, hsubmissions⟩
        refused := fun hnot => absurd ⟨statements, hrunnable⟩ hnot }
  · obtain ⟨e, _, hrefused⟩ :=
      runUnder_of_not_runnable h schedule service
    refine ⟨[], nofun, ?_⟩
    rw [hrefused]
    exact
      { report_iff := by
          intro answer hanswer
          cases hanswer
          exact ⟨nofun, fun hrunnable => absurd hrunnable h⟩
        classified := fun statements hrunnable => absurd ⟨statements, hrunnable⟩ h
        reported := fun statements _ hrunnable => absurd ⟨statements, hrunnable⟩ h
        sends := fun statements hrunnable => absurd ⟨statements, hrunnable⟩ h
        refused := fun _ => ⟨⟨e, rfl⟩, rfl, rfl⟩ }

/-- **A script is run as a whole or leaves no trace.** Under every schedule, and whoever else uses the
service or the frame: a script that cannot be run is refused before anything is sent, and one that can be
run is sent at once, and answered with a report when it is answered. In a world in which nobody else does
anything, the answer comes. -/
theorem all_or_nothing (script : Text) (options : Options) (service : InMemory) :
    (∀ schedule : List (Happening Deed), ∃ deeds : List Deed, (∀ d ∈ deeds, .move d ∈ schedule) ∧
      (runUnder schedule script options service).AllOrNothing script options service
        (deeds.filterMap Deed.submission?)) ∧
    ∃ r : Run, r.answer = some (run script options service).1 ∧
      r.service = (run script options service).2 ∧ r.AllOrNothing script options service [] := by
  refine ⟨fun schedule => runUnder_allOrNothing schedule script options service, ?_⟩
  obtain ⟨schedule, hquiet, hanswer, hservice, _⟩ := run_follows script options service
  obtain ⟨deeds, hdeeds, hall⟩ := runUnder_allOrNothing schedule script options service
  refine ⟨_, hanswer, hservice, ?_⟩
  -- a quiet schedule submits nothing
  have hnone : deeds.filterMap Deed.submission? = [] := by
    rw [List.filterMap_eq_nil_iff]
    intro d hd
    have hwork := hquiet _ (hdeeds d hd)
    cases d with
    | work index now => rfl
    | submit statements now => cases hwork
    | kill index => cases hwork
  rwa [hnone] at hall

end Script
end SchemaBatch
