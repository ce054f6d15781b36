import SchemaBatch.Proofs.Interruptions

/-!
# `Proofs.UpdateCounts` — a run reports what the services told it

The counts of a failed run go through several hands: the service marks statements, the report is read
as counts, these are fitted to the statements of the batch, and the frame may recast the error they
stand in. None of this loses or shifts a count.

* `fitCounts_counts` — **fitting is a reading**: statement `i` counts as confirmed exactly when the
  report knows of it and has a mark at `i`.
* `Mishap` — the ways in which an operation falls short, with all that the services said on the way.
* `runStatements_ended` — the body of a run ends well after a wait that ended well, and after a
  mishap with the failure that the mishap calls for.
* `Batch.run_verdict` — what a run ends with under every schedule and all services.
-/

namespace SchemaBatch

/-! ## Counts -/

/-- The update counts of `n` statements, of which some are confirmed. -/
def countsOf (n : Nat) (confirmed : Nat → Bool) : List Int :=
  (List.range n).map fun i => if confirmed i then 1 else 0

@[simp] theorem length_countsOf (n : Nat) (confirmed : Nat → Bool) :
    (countsOf n confirmed).length = n := by
  simp [countsOf]

theorem getElem?_countsOf (n : Nat) (confirmed : Nat → Bool) (i : Nat) :
    (countsOf n confirmed)[i]? = if i < n then some (if confirmed i then 1 else 0) else none := by
  by_cases h : i < n
  · rw [if_pos h]; simp [countsOf, h]
  · rw [if_neg h]; simp [countsOf, h]

theorem countsOf_false (n : Nat) : countsOf n (fun _ => false) = List.replicate n 0 := by
  simp [countsOf, List.map_const']

theorem Progress.counts_eq (p : Progress) : p.counts = countsOf p.statements.length p.isMarked :=
  rfl

/-- Whether a report confirms the statement at a position: it has to know of the statement and to
have a mark for it. -/
def Progress.confirms (p : Progress) (i : Nat) : Bool :=
  decide (i < p.statements.length) && p.isMarked i

/-- **Fitting counts to a number of statements** neither shifts nor changes a count. -/
theorem fitCounts_counts (n : Nat) (p : Progress) :
    fitCounts n p.counts = countsOf n p.confirms := by
  rw [p.counts_eq]
  apply List.ext_getElem?
  intro i
  unfold fitCounts
  rw [List.getElem?_append, List.getElem?_take, List.getElem?_replicate, List.length_take,
    length_countsOf, getElem?_countsOf, getElem?_countsOf]
  -- position `i` lies in the counts of the report, in the padding, or behind both
  by_cases hi : i < n
  · by_cases hp : i < p.statements.length
    · have hlt : i < min n p.statements.length := by omega
      simp [hi, hp, hlt, Progress.confirms]
    · have hge : ¬ i < min n p.statements.length := by omega
      have hpad : i - min n p.statements.length < n - p.statements.length := by omega
      simp [hi, hp, hge, hpad, Progress.confirms]
  · have hge : ¬ i < min n p.statements.length := by omega
    have hpad : ¬ i - min n p.statements.length < n - p.statements.length := by omega
    simp [hi, hge, hpad]

/-- The statements that an answer about the progress of an operation confirms. -/
def confirmedBy : Except Failure Progress → Nat → Bool
  | .ok progress => progress.confirms
  | .error _ => fun _ => false

theorem knownCounts_eq (n : Nat) (report : Except Failure Progress) :
    knownCounts n report = countsOf n (confirmedBy report) := by
  cases report with
  | ok progress => exact fitCounts_counts n progress
  | error failure =>
    change fitCounts n [] = countsOf n fun _ => false
    rw [countsOf_false]
    simp [fitCounts]

/-- The failure that is reported with the counts known by then. -/
theorem reportedFailure (n : Nat) (code : StatusCode) (message : String)
    (report : Except Failure Progress) :
    (.error (.batchFailed ⟨code, message, knownCounts n report⟩) : Except SessionError Unit)
      = .error (.batchFailed ⟨code, message, countsOf n (confirmedBy report)⟩) := by
  rw [knownCounts_eq]

/-! ## How an operation ends -/

/-- What happens in a run whose operation ends well. -/
def successEvents (statements : List Text) (operation : Operation)
    (report : Except Failure Progress) : List Event :=
  [.made (.submit statements), .answered (.submit statements) (.ok operation),
    .made (.waitFor operation), .answered (.waitFor operation) (.ok ()),
    .made (.inspect operation), .answered (.inspect operation) report]

/-- A way in which an operation falls short, with what the services said. -/
inductive Mishap where
  /-- The submission was refused. -/
  | rejected (failure : Failure)
  /-- The operation failed; the report was read afterwards. -/
  | failed (operation : Operation) (failure : Failure) (report : Except Failure Progress)
  /-- The wait was interrupted; the report was read afterwards. -/
  | interrupted (operation : Operation) (report : Except Failure Progress)

namespace Mishap

/-- What happens in a run with the mishap. -/
def events (statements : List Text) : Mishap → List Event
  | rejected failure =>
    [.made (.submit statements), .answered (.submit statements) (.error failure)]
  | failed operation failure report =>
    [.made (.submit statements), .answered (.submit statements) (.ok operation),
      .made (.waitFor operation), .answered (.waitFor operation) (.error failure),
      .made (.inspect operation), .answered (.inspect operation) report]
  | interrupted operation report =>
    [.made (.submit statements), .answered (.submit statements) (.ok operation),
      .made (.waitFor operation), .abandoned (.waitFor operation),
      .made (.inspect operation), .answered (.inspect operation) report]

/-- The code is the one of the first failure that was met; an interrupted wait is a cancellation. -/
def code : Mishap → StatusCode
  | rejected failure | failed _ failure _ => failure.code
  | interrupted _ _ => .cancelled

def message : Mishap → String
  | rejected failure | failed _ failure _ => failure.message
  | interrupted operation _ => "Schema-change operation " ++ operation.name ++ " was cancelled"

/-- The statements that are confirmed nevertheless: none when the submission was refused or the
report cannot be had. -/
def confirmed : Mishap → Nat → Bool
  | rejected _ => fun _ => false
  | failed _ _ report | interrupted _ report => confirmedBy report

/-- The failure of a batch of `n` statements. -/
def failure (n : Nat) (m : Mishap) : BatchFailure := ⟨m.code, m.message, countsOf n m.confirmed⟩

end Mishap

/-- What a run does once its operation has ended. -/
def afterWait (statements : List Text) (operation : Operation) :
    Except Failure Unit → Activity (Except SessionError Unit)
  | .ok () => .call (.inspect operation) fun _ => .done (.ok ())
  | .error failure => reportFailure operation statements.length failure.code failure.message

/-- What a run does once its wait is interrupted. -/
def afterInterruption (statements : List Text) (operation : Operation) :
    Activity (Except SessionError Unit) :=
  reportFailure operation statements.length .cancelled
    ("Schema-change operation " ++ operation.name ++ " was cancelled")

/-- What a run does once its submission is answered. -/
def afterSubmission (statements : List Text) :
    Except Failure Operation → Activity (Except SessionError Unit)
  | .error failure =>
    .done (.error (.batchFailed
      ⟨failure.code, failure.message, List.replicate statements.length 0⟩))
  | .ok operation =>
    .listen (.waitFor operation) (afterWait statements operation)
      (afterInterruption statements operation)

/-- A run is a submission and what follows it. -/
theorem runStatements_eq (statements : List Text) :
    runStatements statements = .call (.submit statements) (afterSubmission statements) := by
  unfold runStatements
  -- both branch on the answer to the submission, and then on the answer to the wait
  congr
  funext submitted
  cases submitted with
  | error failure => rfl
  | ok operation =>
    show Activity.listen _ _ _ = Activity.listen _ _ _
    congr
    funext waited
    cases waited <;> rfl

/-- **How the body of a run ends.** The events tell whether all went well, and otherwise what the
failure of the run is. -/
theorem runStatements_ended {statements : List Text} {l : List Event}
    {result : Except SessionError Unit}
    (h : (runStatements statements).Reaches l (.done result)) :
    (∃ operation report, result = .ok () ∧
      (runStatements statements).arrival ++ l = successEvents statements operation report) ∨
    (∃ m : Mishap, result = .error (.batchFailed (m.failure statements.length)) ∧
      (runStatements statements).arrival ++ l = m.events statements) := by
  -- every way through the activity is taken to its end, one call after the other
  cases h with
  | answer submitted h =>
    cases submitted with
    | error failure =>
      cases h with
      | refl =>
        refine .inr ⟨.rejected failure, ?_, rfl⟩
        rw [Mishap.failure, ← countsOf_false]; rfl
    | ok operation =>
      cases h with
      | hear waited h =>
        cases waited with
        | ok =>
          cases h with
          | answer report h =>
            cases h with
            | refl => exact .inl ⟨operation, report, rfl, rfl⟩
        | error failure =>
          cases h with
          | answer report h =>
            cases h with
            | refl =>
              refine .inr ⟨.failed operation failure report, ?_, rfl⟩
              exact reportedFailure _ _ _ report
      | abandon h =>
        cases h with
        | answer report h =>
          cases h with
          | refl =>
            refine .inr ⟨.interrupted operation report, ?_, rfl⟩
            exact reportedFailure _ _ _ report

/-! ## How a run ends -/

/-- A schema service whose operations never finish. It reports the first statement as committed. -/
def Scripted.stalled : Scripted :=
  ⟨some 0, none, some 0, none, none, true, none, [0], fun _ => "operations/stalled", []⟩

/-- The failure of a run as the frame hands it on: under a timeout, "cancelled" becomes an error about
the timeout. The counts stay as they are. -/
def BatchFailure.recast (label : Text) (cause : Option Interruption) (f : BatchFailure) :
    BatchFailure :=
  match cause with
  | some (.timedOut timeout) =>
    if f.code = .cancelled then
      { f with code := .deadlineExceeded, message := Interruption.timeoutMessage label timeout }
    else f
  | _ => f

theorem Interruption.recast_batchFailed (label : Text) (cause : Interruption) (f : BatchFailure) :
    cause.recast label (.batchFailed f) = .batchFailed (f.recast label (some cause)) := by
  cases cause with
  | cancelled => rfl
  | timedOut timeout =>
    simp only [Interruption.recast, BatchFailure.recast]
    split <;> rfl

theorem BatchFailure.counts_recast (label : Text) (cause : Option Interruption) (f : BatchFailure) :
    (f.recast label cause).counts = f.counts := by
  unfold recast
  split
  · split <;> rfl
  · rfl

namespace Batch

/-- A run of statements under a schedule took the given course and ended with a result. -/
inductive Verdict {σ : Type} (statements : List Text) (c : Course σ (List Int)) :
    Except SessionError (List Int) → Prop where
  /-- The wait for the operation ended well. -/
  | applied (operation : Operation) (report : Except Failure Progress)
      (events : c.events = successEvents statements operation report) :
      Verdict statements c (.ok (List.replicate statements.length 1))
  /-- The operation fell short, and the counts are those of the report, if there is one. -/
  | fellShort (m : Mishap) (events : c.events = m.events statements) :
      Verdict statements c (.error (.batchFailed
        ((m.failure statements.length).recast runLabel (c.windDown.map WindDown.cause))))
  /-- The run was interrupted, and its body had not ended when the grace period was over. -/
  | givenUp (w : WindDown) (windDown : c.windDown = some w) (late : w.giveUp ≤ c.scene.now)
      (a : Activity (Except SessionError Unit)) (l : List Event)
      (way : (runStatements statements).Reaches l a) (unfinished : ¬ a.IsOver)
      (events : c.events = (runStatements statements).arrival ++ l) :
      Verdict statements c (.error (w.cause.giveUpError runLabel))

/-- A run that ends well has a count of 1 for each statement. -/
theorem Verdict.counts_of_ok {σ : Type} {statements : List Text} {c : Course σ (List Int)}
    {counts : List Int} (h : Verdict statements c (.ok counts)) :
    counts = List.replicate statements.length 1 := by
  cases h
  rfl

/-- The activity of a run, with the counts of a success as its result. -/
def body (b : Batch) : Activity (Except SessionError (List Int)) :=
  (runStatements b.statements).map fun result => result.map fun _ => b.fullCounts

/-- A batch with statements that has not been run sends them when it is run. -/
theorem run_of_started {b : Batch} (hb : b.state = .started) (hne : b.statements ≠ []) :
    b.run = (.running runLabel b.body, b) := by
  have hactive : b.isActive = true := by rw [isActive, hb]; rfl
  have hempty : b.statements.isEmpty = false := by simpa using hne
  unfold run
  rw [hactive, hempty]
  rfl

/-- What a run ends with and what happened in it, up to what the frame makes of it. -/
theorem ended_of_run {b : Batch} {l : List Event} {result : Except SessionError (List Int)}
    (h : b.body.Reaches l (.done result)) :
    (∃ operation report, result = .ok b.fullCounts ∧
      (runStatements b.statements).arrival ++ l
        = successEvents b.statements operation report) ∨
    (∃ m : Mishap, result = .error (.batchFailed (m.failure b.statements.length)) ∧
      (runStatements b.statements).arrival ++ l = m.events b.statements) := by
  obtain ⟨a₀, ha, hr⟩ := h.of_map
  obtain ⟨r₀, rfl, hres⟩ := Activity.map_eq_done ha.symm
  rcases runStatements_ended hr with ⟨operation, report, rfl, hl⟩ | ⟨m, rfl, hl⟩
  · exact .inl ⟨operation, report, hres.symm, hl⟩
  · exact .inr ⟨m, hres.symm, hl⟩

variable {σ μ : Type}

/-- A run that comes to an end has applied all statements, or reports a failure with the counts that
the services confirmed, or was given up by the frame. -/
theorem course_verdict (services : Services σ μ) (schedule : List (Happening μ)) {b : Batch}
    (scene : Scene σ) (hb : b.state = .started) (hne : b.statements ≠ [])
    {result : Except SessionError (List Int)}
    (hr : (b.run.1.course services schedule scene).status = .ready result) :
    Verdict b.statements (b.run.1.course services schedule scene) result := by
  rw [run_of_started hb hne] at hr ⊢
  obtain ⟨c, hx, hc⟩ := Reply.course_explained services schedule runLabel b.body scene
  dsimp only at hr ⊢
  rw [hc] at hr ⊢
  -- the course is explained by the body, and the body of a run ends in few ways
  cases hx with
  | waits => cases hr
  | ended hreach =>
    cases hr
    rcases ended_of_run hreach with ⟨operation, report, rfl, hl⟩ | ⟨m, rfl, hl⟩
    · exact .applied operation report hl
    · exact .fellShort m hl
  | @woundDown w result _ l hreach =>
    cases hr
    rcases ended_of_run hreach with ⟨operation, report, rfl, hl⟩ | ⟨m, rfl, hl⟩
    · exact .applied operation report hl
    · -- the frame recasts the failure that the body reports
      have hrecast := w.cause.recast_batchFailed runLabel (m.failure b.statements.length)
      change Verdict _ _ (.error (w.cause.recast runLabel _))
      rw [hrecast]
      exact .fellShort m hl
  | @givenUp w a _ l hreach hover hdue =>
    cases hr
    -- the body had not ended, so nor had the statements inside it
    obtain ⟨a₀, rfl, hway⟩ := Activity.Reaches.of_map hreach
    have hunfinished : ¬ a₀.IsOver := by
      rintro ⟨r₀, rfl⟩
      exact hover ⟨_, rfl⟩
    exact .givenUp w rfl hdue a₀ l hway hunfinished rfl

/-- **The verdict on a run.** For all services and under every schedule, a run of a batch with
statements that comes to an end has applied them all, or reports a failure with the counts that the
services confirmed, or was given up by the frame. What interrupted it comes from the schedule, and
without an interruption no call is given up. -/
theorem run_verdict (services : Services σ μ) (schedule : List (Happening μ)) (b : Batch)
    (scene : Scene σ) (hb : b.state = .started) (hne : b.statements ≠ [])
    {result : Except SessionError (List Int)}
    (hr : (b.run.1.course services schedule scene).status = .ready result) :
    Verdict b.statements (b.run.1.course services schedule scene) result ∧
    (∀ w, (b.run.1.course services schedule scene).windDown = some w →
      w.ComesFrom scene schedule) ∧
    (∀ c, .abandoned c ∈ (b.run.1.course services schedule scene).events →
      .act .cancel ∈ schedule ∨ (b.run.1.course services schedule scene).windDown ≠ none) := by
  refine ⟨course_verdict services schedule scene hb hne hr, ?_, ?_⟩
  · intro w hw
    rw [run_of_started hb hne] at hw
    exact Reply.course_windDown hw
  · intro c hc
    rw [run_of_started hb hne] at hc ⊢
    exact Reply.course_abandoned hc

/-- Against a service whose operations never finish, a run of two statements under a timeout ends
with the first one confirmed. -/
theorem run_verdict_stalled :
    let b : Batch := ⟨[['A'], ['B']], .started⟩
    let scene : Scene Backend :=
      ⟨0, Frame.idle (some 5) 10, ⟨.scripted Scripted.stalled, Database.empty⟩⟩
    let schedule : List (Happening Backend.Move) := [.pass 5, .look]
    let c := b.run.1.course Backend.services schedule scene
    let result : Except SessionError (List Int) :=
      .error (.batchFailed ⟨.deadlineExceeded, Interruption.timeoutMessage runLabel 5, [1, 0]⟩)
    c.status = .ready result ∧ Verdict b.statements c result :=
  ⟨rfl, (run_verdict Backend.services [.pass 5, .look] ⟨[['A'], ['B']], .started⟩
    ⟨0, Frame.idle (some 5) 10, ⟨.scripted Scripted.stalled, Database.empty⟩⟩ rfl
    (List.cons_ne_nil _ _) rfl).1⟩

end Batch
end SchemaBatch
