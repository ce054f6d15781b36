import SchemaBatch.Proofs.MappedReplies
import SchemaBatch.Proofs.SessionHistory

/-!
# `Proofs.ImmediateChange` — a schema change on its own is a batch of one

Without an open batch a session runs a schema change at once, in a batch that it makes for it and never
holds. The other way to have one change made is to open a batch, execute the change and run the batch. To
the services, to the frame and to the one who waits there is no difference.

* `Batch.single` — a batch that holds one change; `Session.execute_of_closed`, `Session.execute_of_fresh`
  say what becomes of a change without an open batch and in one that was just opened.
* `EndsAs` — how the two ways end. Only what they say of a success differs.
* `Session.change_alone` — **they do the same**, whatever the services do and whatever happens meanwhile.
-/

namespace SchemaBatch

/-! ## A batch that holds one change -/

/-- A batch to which one change was added. -/
def Batch.single (text : Text) : Batch := ⟨[text], .started⟩

theorem Batch.run_single (text : Text) :
    (Batch.single text).run.1
      = (Reply.running runLabel (runStatements [text])).map fun _ => [1] := rfl

theorem Batch.add_fresh {statement : Sql.Statement} (hchange : statement.isSchemaChange = true) :
    Batch.fresh.add statement = .ok (.single statement.text) := by
  have hstarted : Batch.fresh.state = .started := rfl
  exact add_of_started hstarted hchange

namespace Session

variable {s : Session} {sql : Text} {statement : Sql.Statement}

/-- A text that is read as a schema change goes to the batches. -/
theorem execute_of_change (hparse : Sql.Statement.parse sql = .ok statement)
    (hchange : statement.isSchemaChange = true) (f : Frame) :
    s.execute f sql = ((s.change statement).1, (s.change statement).2, f) := by
  have hcategory : statement.category = .schemaChange := eq_of_beq hchange
  rw [execute, readStatement, hparse]
  show s.route f statement = _
  rw [route, hcategory]

/-- Without an open batch the change is run, and the session holds nothing afterwards. -/
theorem execute_of_closed (hnone : s.batch = none) (hparse : Sql.Statement.parse sql = .ok statement)
    (hchange : statement.isSchemaChange = true) (f : Frame) :
    s.execute f sql = ((Batch.single statement.text).run.1.map fun _ => .noResult, s, f) := by
  rw [execute_of_change hparse hchange]
  simp only [change, hnone, Batch.add_fresh hchange]

/-- A batch that was just opened takes the change. -/
theorem execute_of_fresh (hfresh : s.batch = some Batch.fresh)
    (hparse : Sql.Statement.parse sql = .ok statement) (hchange : statement.isSchemaChange = true)
    (f : Frame) :
    s.execute f sql
      = (.answered (.ok .noResult), { s with batch := some (.single statement.text) }, f) := by
  rw [execute_of_change hparse hchange]
  simp only [change, hfresh, Batch.add_fresh hchange]

end Session

/-! ## The two ways -/

/-- How a change on its own ends, and how the batch of one ends: a success is told in two ways, an error in
one. -/
inductive EndsAs : Outcome StatementResult → Outcome (List Int) → Prop where
  | applied : EndsAs (.ended (.ok .noResult)) (.ended (.ok [1]))
  | failed (e : SessionError) : EndsAs (.ended (.error e)) (.ended (.error e))
  /-- The schedule was over before either of them had ended. -/
  | hung : EndsAs .hung .hung

/-- Two results that are made of one. -/
theorem EndsAs.of_map (outcome : Outcome Unit) :
    EndsAs ((outcome.map fun _ => [1]).map fun (_ : List Int) => .noResult)
      (outcome.map fun _ => [1]) := by
  cases outcome with
  | ended result =>
    cases result with
    | ok => exact .applied
    | error e => exact .failed e
  | hung => exact .hung

namespace Session

variable {σ μ : Type}

/-- A request that was carried out, and requests that were carried out one after the other, did the same
with a schema change. -/
structure SameChange (text : Text) (alone : Note μ × Holding σ)
    (batch : List (Note μ) × Holding σ) : Prop where
  /-- The change is all that was submitted, once, -/
  submitted : submissions alone.1.events = [[text]]
  /-- and the same passed between the session and the services. -/
  events : batch.1.flatMap Note.events = alone.1.events
  /-- The services, the frame with its timeout and the session are left in the same state, -/
  left : batch.2 = alone.2
  /-- which holds no batch. -/
  closed : alone.2.session.batch = none
  /-- Opening the batch and adding the change succeeds, and then both end alike. -/
  answers : ∃ outcome counts, alone.1.answer = .statement outcome ∧
    batch.1.map Note.answer
      = [.plain (.ok ()), .statement (.ended (.ok .noResult)), .counts counts] ∧
    EndsAs outcome counts

/-- The run of a batch of one. -/
def runOfOne (services : Services σ μ) (schedule : List (Happening μ)) (text : Text)
    (scene : Scene σ) : Course σ (List Int) :=
  (Batch.single text).run.1.course services schedule scene

variable {services : Services σ μ} {sql : Text} {schedule between : List (Happening μ)}
  {statement : Sql.Statement} {options : Options} {scene : Scene σ}

/-- A change on its own is that run, with another result. -/
theorem perform_change (hparse : Sql.Statement.parse sql = .ok statement)
    (hchange : statement.isSchemaChange = true) :
    perform services (.execute sql schedule) ⟨⟨options, none⟩, scene⟩ =
      let c := runOfOne services schedule statement.text scene
      (⟨.execute sql schedule, ⟨options, none⟩, .statement (c.outcome.map fun _ => .noResult),
        c.events, ⟨options, none⟩⟩, ⟨⟨options, none⟩, c.aftermath⟩) := by
  simp only [perform, execute_of_closed (s := ⟨options, none⟩) rfl hparse hchange, Reply.course_map,
    Course.map_outcome, Course.map_events, Course.map_aftermath]
  rfl

/-- A batch that is opened for one change is that run. -/
theorem play_batchOfOne (hparse : Sql.Statement.parse sql = .ok statement)
    (hchange : statement.isSchemaChange = true) :
    play services [.startBatch, .execute sql between, .runBatch schedule] ⟨⟨options, none⟩, scene⟩ =
      let c := runOfOne services schedule statement.text scene
      ([⟨.startBatch, ⟨options, none⟩, .plain (.ok ()), [], ⟨options, some .fresh⟩⟩,
        ⟨.execute sql between, ⟨options, some .fresh⟩, .statement (.ended (.ok .noResult)), [],
          ⟨options, some (.single statement.text)⟩⟩,
        ⟨.runBatch schedule, ⟨options, some (.single statement.text)⟩, .counts c.outcome, c.events,
          ⟨options, none⟩⟩],
        ⟨⟨options, none⟩, c.aftermath⟩) := by
  have hopen : perform services .startBatch ⟨⟨options, none⟩, scene⟩
      = (⟨.startBatch, ⟨options, none⟩, .plain (.ok ()), [], ⟨options, some .fresh⟩⟩,
        ⟨⟨options, some .fresh⟩, scene⟩) := rfl
  have hadd : perform services (.execute sql between) ⟨⟨options, some .fresh⟩, scene⟩
      = (⟨.execute sql between, ⟨options, some .fresh⟩, .statement (.ended (.ok .noResult)), [],
          ⟨options, some (.single statement.text)⟩⟩,
        ⟨⟨options, some (.single statement.text)⟩, scene⟩) := by
    simp only [perform, execute_of_fresh (s := ⟨options, some .fresh⟩) rfl hparse hchange]
    rfl
  rw [play_cons, hopen, play_cons, hadd]
  rfl

theorem runOfOne_outcome :
    EndsAs ((runOfOne services schedule statement.text scene).outcome.map fun _ => .noResult)
      (runOfOne services schedule statement.text scene).outcome := by
  rw [runOfOne, Batch.run_single, Reply.course_map, Course.map_outcome]
  exact EndsAs.of_map _

theorem runOfOne_submissions :
    submissions (runOfOne services schedule statement.text scene).events = [[statement.text]] := by
  have hstarted : (Batch.single statement.text).state = .started := rfl
  exact (Batch.submits_run hstarted).course services schedule scene

/-- **A schema change on its own is a batch of one**: whatever the services do, whatever the timeout and the
grace period are and whatever happens meanwhile, a cancellation for example. -/
theorem change_alone (services : Services σ μ) (sql : Text) (schedule between : List (Happening μ))
    {h : Holding σ} {statement : Sql.Statement} (hnone : h.session.batch = none)
    (hparse : Sql.Statement.parse sql = .ok statement) (hchange : statement.isSchemaChange = true) :
    SameChange statement.text (perform services (.execute sql schedule) h)
      (play services [.startBatch, .execute sql between, .runBatch schedule] h) := by
  obtain ⟨⟨options, batch⟩, scene⟩ := h
  obtain rfl : batch = none := hnone
  rw [perform_change hparse hchange, play_batchOfOne hparse hchange]
  exact
    { submitted := runOfOne_submissions
      events := by simp
      left := rfl
      closed := rfl
      answers := ⟨_, _, rfl, rfl, runOfOne_outcome⟩ }

/-- Against a service whose operations never finish, and under a timeout: the change is submitted once, and
both ways end with the same failure, which confirms it. -/
theorem change_alone_stalled :
    let sql : Text := "DROP TABLE T".toList
    let h : Holding Backend := ⟨⟨Options.standard, none⟩,
      ⟨0, Frame.idle (some 5) 10, ⟨.scripted Scripted.stalled, Database.empty⟩⟩⟩
    let schedule : List (Happening Backend.Move) := [.pass 5, .look]
    (perform Backend.services (.execute sql schedule) h).1.answer = .statement (.ended (.error
      (.batchFailed ⟨.deadlineExceeded, Interruption.timeoutMessage Batch.runLabel 5, [1]⟩))) ∧
    SameChange sql (perform Backend.services (.execute sql schedule) h)
      (play Backend.services [.startBatch, .execute sql [], .runBatch schedule] h) := by
  intro sql h schedule
  have hparse : Sql.Statement.parse sql = .ok ⟨sql, sql, .schemaChange⟩ := rfl
  exact ⟨rfl, change_alone Backend.services sql schedule [] rfl hparse rfl⟩

end Session
end SchemaBatch
