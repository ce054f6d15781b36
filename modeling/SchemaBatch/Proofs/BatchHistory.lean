import SchemaBatch.Proofs.UpdateCounts

/-!
# `Proofs.BatchHistory` — a batch under any requests, and what one request does

A history is a list of requests to one batch, in any order and with any arguments, each with a
schedule of what others do while it is seen to. `Holding.play` carries it out and notes for each
request what the batch was before, what was answered, what passed between the batch and the services,
and what the batch is afterwards. A run or a query whose schedule is over before it has ended is
dropped: its answer is `hung`.

* `Request`, `Answer`, `Note`, `Holding.perform`, `Holding.play` — histories and their notes. The
  notes are about the requests in order, and each begins where the one before has led (`play_chain`).
* `Note.Effect` — **all that one request can do**, by cases. `Holding.perform_effect` proves it of
  every request in every state, whatever the services do; what is said about histories follows from
  the cases and never opens the operations again.
-/

namespace SchemaBatch

/-! ## Histories -/

/-- A request to a batch, with what others do while it is seen to. -/
inductive Request (μ : Type) where
  /-- Adds a statement. -/
  | add (statement : Sql.Statement)
  /-- Runs the batch under a schedule. -/
  | run (schedule : List (Happening μ))
  | abort
  | query (statement : Sql.Statement) (analysis : Analysis) (options : List QueryOption)
      (schedule : List (Happening μ))
  | queryInBackground (statement : Sql.Statement) (analysis : Analysis)
      (options : List QueryOption) (canSpawn : Bool)
  /-- Tries an operation that no batch accepts. -/
  | refused (operation : Batch.Refused)
  | readTimestamp
  | commitTimestamp
  /-- Something happens between the requests. -/
  | meanwhile (happening : Happening μ)

/-- Whether a request is for a batch that has not ended. -/
def Request.IsForActive {μ : Type} : Request μ → Prop
  | .add _ | .run _ | .abort => True
  | _ => False

/-- What a request is answered with. -/
inductive Answer where
  | plain (result : Except SessionError Unit)
  /-- The update counts of a run. -/
  | counts (outcome : Outcome (List Int))
  | rows (outcome : Outcome ResultSet)
  /-- What is left to do in the background. -/
  | background (result : Except SessionError (Activity (Except SessionError ResultSet)))
  | timestamp (result : Except SessionError Timestamp)
  | nothing

/-- The error in an answer about the batch itself. -/
def Answer.error? : Answer → Option SessionError
  | .plain (.error e) | .counts (.ended (.error e)) => some e
  | _ => none

/-- What is noted about a request. -/
structure Note (μ : Type) where
  request : Request μ
  before : Batch
  answer : Answer
  /-- What passed between the batch and the services. -/
  events : List Event
  after : Batch

/-- The notes lead from one batch to another, each from where the one before has led. -/
def Note.Chain {μ : Type} : Batch → List (Note μ) → Batch → Prop
  | b, [], last => last = b
  | b, n :: notes, last => n.before = b ∧ Chain n.after notes last

/-- A batch with its surroundings. -/
structure Holding (σ : Type) where
  batch : Batch
  scene : Scene σ

/-- What a batch is after a run that was answered at once, has ended or was dropped. -/
def Batch.settled (b : Batch) (reply : Reply (List Int)) (outcome : Outcome (List Int)) : Batch :=
  match reply, outcome with
  | .running _ _, .ended result => b.conclude result
  | _, _ => b

namespace Holding

variable {σ μ : Type}

/-- Carries out a request. -/
def perform (services : Services σ μ) (request : Request μ) (h : Holding σ) :
    Note μ × Holding σ :=
  let note (answer : Answer) (events : List Event) (batch : Batch) (scene : Scene σ) :=
    ((⟨request, h.batch, answer, events, batch⟩, ⟨batch, scene⟩) : Note μ × Holding σ)
  match request with
  -- a batch that refuses a request stays as it is
  | .add statement =>
    match h.batch.add statement with
    | .ok batch => note (.plain (.ok ())) [] batch h.scene
    | .error e => note (.plain (.error e)) [] h.batch h.scene
  | .run schedule =>
    let (reply, batch) := h.batch.run
    let c := reply.course services schedule h.scene
    note (.counts c.outcome) c.events (batch.settled reply c.outcome) c.aftermath
  | .abort =>
    match h.batch.abort with
    | .ok batch => note (.plain (.ok ())) [] batch h.scene
    | .error e => note (.plain (.error e)) [] h.batch h.scene
  | .query statement analysis options schedule =>
    let c := (Batch.query statement analysis options).course services schedule h.scene
    note (.rows c.outcome) c.events h.batch c.aftermath
  | .queryInBackground statement analysis options canSpawn =>
    note (.background (Batch.queryInBackground statement analysis options canSpawn)) [] h.batch
      h.scene
  | .refused operation => note (.plain (.error operation.error)) [] h.batch h.scene
  | .readTimestamp => note (.timestamp Batch.readTimestamp) [] h.batch h.scene
  | .commitTimestamp => note (.timestamp Batch.commitTimestamp) [] h.batch h.scene
  | .meanwhile happening =>
    -- no statement of the batch is running, so no ticket in use is its own
    note .nothing [] h.batch (h.scene.after services h.scene.frame.nextTicket happening)

/-- Carries out requests one after the other. -/
def play (services : Services σ μ) : List (Request μ) → Holding σ → List (Note μ) × Holding σ
  | [], h => ([], h)
  | request :: requests, h =>
    let (note, h) := h.perform services request
    let (notes, h) := play services requests h
    (note :: notes, h)

@[simp] theorem play_nil (services : Services σ μ) (h : Holding σ) :
    play services [] h = ([], h) := rfl

@[simp] theorem play_cons (services : Services σ μ) (request : Request μ)
    (requests : List (Request μ)) (h : Holding σ) :
    play services (request :: requests) h
      = ((h.perform services request).1 ::
          (play services requests (h.perform services request).2).1,
        (play services requests (h.perform services request).2).2) := rfl

/-- A history can be cut anywhere. -/
theorem play_append (services : Services σ μ) (earlier later : List (Request μ)) (h : Holding σ) :
    play services (earlier ++ later) h
      = ((play services earlier h).1 ++ (play services later (play services earlier h).2).1,
        (play services later (play services earlier h).2).2) := by
  induction earlier generalizing h with
  | nil => rfl
  | cons request earlier ih =>
    rw [List.cons_append, play_cons, play_cons, ih]
    rfl

@[simp] theorem perform_request (services : Services σ μ) (request : Request μ) (h : Holding σ) :
    (h.perform services request).1.request = request := by
  cases request <;> simp only [perform] <;> try rfl
  all_goals split <;> rfl

@[simp] theorem perform_before (services : Services σ μ) (request : Request μ) (h : Holding σ) :
    (h.perform services request).1.before = h.batch := by
  cases request <;> simp only [perform] <;> try rfl
  all_goals split <;> rfl

@[simp] theorem perform_batch (services : Services σ μ) (request : Request μ) (h : Holding σ) :
    (h.perform services request).2.batch = (h.perform services request).1.after := by
  cases request <;> simp only [perform] <;> try rfl
  all_goals split <;> rfl

/-- The notes of a history are about its requests, in order. -/
theorem play_requests (services : Services σ μ) (requests : List (Request μ)) (h : Holding σ) :
    (play services requests h).1.map Note.request = requests := by
  induction requests generalizing h with
  | nil => rfl
  | cons request requests ih =>
    rw [play_cons, List.map_cons, perform_request]
    exact congrArg _ (ih _)

/-- Each request finds the batch as the one before has left it. -/
theorem play_chain (services : Services σ μ) (requests : List (Request μ)) (h : Holding σ) :
    Note.Chain h.batch (play services requests h).1 (play services requests h).2.batch := by
  induction requests generalizing h with
  | nil => rfl
  | cons request requests ih =>
    rw [play_cons]
    refine ⟨perform_before services request h, ?_⟩
    have hrest := ih (h.perform services request).2
    rwa [perform_batch] at hrest

end Holding

/-! ## What one request can do -/

/-- All that a request can do, by cases: the note of a request is one of these. -/
inductive Note.Effect {μ : Type} : Note μ → Prop where
  /-- The batch takes a statement. -/
  | taken {b : Batch} {statement : Sql.Statement} (hb : b.state = .started)
      (hs : statement.isSchemaChange = true) :
      Effect ⟨.add statement, b, .plain (.ok ()), [],
        { b with statements := b.statements ++ [statement.text] }⟩
  /-- The statement is no schema change. -/
  | notTaken {b : Batch} {statement : Sql.Statement} {message : String} (hb : b.state = .started)
      (hs : statement.isSchemaChange = false) :
      Effect ⟨.add statement, b, .plain (.error (.notSchemaChange message)), [], b⟩
  /-- There is nothing to send. -/
  | ranEmpty {b : Batch} {schedule : List (Happening μ)} (hb : b.state = .started)
      (he : b.statements = []) :
      Effect ⟨.run schedule, b, .counts (.ended (.ok [])), [], { b with state := .ran }⟩
  /-- The statements are sent, and all are applied. -/
  | ran {b : Batch} {schedule : List (Happening μ)} {l : List Event} (hb : b.state = .started)
      (hne : b.statements ≠ []) (hs : submissions l = [b.statements]) :
      Effect ⟨.run schedule, b, .counts (.ended (.ok b.fullCounts)), l, { b with state := .ran }⟩
  /-- The statements are sent, and the run fails. -/
  | runFailed {b : Batch} {schedule : List (Happening μ)} {l : List Event} {e : SessionError}
      (hb : b.state = .started) (hne : b.statements ≠ []) (hs : submissions l = [b.statements]) :
      Effect ⟨.run schedule, b, .counts (.ended (.error e)), l, { b with state := .runFailed }⟩
  /-- The statements are sent, and the run is dropped before it has ended. -/
  | dropped {b : Batch} {schedule : List (Happening μ)} {l : List Event} (hb : b.state = .started)
      (hne : b.statements ≠ []) (hs : submissions l = [b.statements]) :
      Effect ⟨.run schedule, b, .counts .hung, l, b⟩
  | aborted {b : Batch} (hb : b.state = .started) :
      Effect ⟨.abort, b, .plain (.ok ()), [], { b with state := .aborted }⟩
  /-- The batch has ended. -/
  | shut {b : Batch} {request : Request μ} {answer : Answer} {message : String}
      (hb : b.state ≠ .started) (hr : request.IsForActive)
      (ha : answer.error? = some (.invalidState message)) :
      Effect ⟨request, b, answer, [], b⟩
  /-- Whatever the answer to a query is, the query submits nothing. -/
  | query {b : Batch} {statement : Sql.Statement} {analysis : Analysis}
      {options : List QueryOption} {schedule : List (Happening μ)} {outcome : Outcome ResultSet}
      {l : List Event} (hs : submissions l = []) :
      Effect ⟨.query statement analysis options schedule, b, .rows outcome, l, b⟩
  /-- What is left to do in the background submits nothing. -/
  | background {b : Batch} {statement : Sql.Statement} {analysis : Analysis}
      {options : List QueryOption} {canSpawn : Bool}
      {result : Except SessionError (Activity (Except SessionError ResultSet))}
      (hq : ∀ activity, result = .ok activity → activity.Quiet) :
      Effect ⟨.queryInBackground statement analysis options canSpawn, b, .background result, [], b⟩
  | refused {b : Batch} {operation : Batch.Refused} {message : String}
      (ha : operation.error = .notAllowed message) :
      Effect ⟨.refused operation, b, .plain (.error operation.error), [], b⟩
  | timestamp {b : Batch} {request : Request μ} {message : String}
      (hr : request = .readTimestamp ∨ request = .commitTimestamp) :
      Effect ⟨request, b, .timestamp (.error (.noTimestamp message)), [], b⟩
  | meanwhile {b : Batch} {happening : Happening μ} :
      Effect ⟨.meanwhile happening, b, .nothing, [], b⟩

/-! ### The operations of a batch -/

namespace Batch

variable {σ μ : Type}

theorem isActive_iff {b : Batch} : b.isActive = true ↔ b.state = .started := by
  simp [isActive]

theorem not_isActive {b : Batch} (hb : b.state ≠ .started) : b.isActive = false := by
  simpa [isActive] using hb

/-- Everything that `add` can give. -/
theorem add_cases (b : Batch) (statement : Sql.Statement) :
    (b.state ≠ .started ∧ ∃ message, b.add statement = .error (.invalidState message)) ∨
    (b.state = .started ∧ statement.isSchemaChange = false ∧
      ∃ message, b.add statement = .error (.notSchemaChange message)) ∨
    (b.state = .started ∧ statement.isSchemaChange = true ∧
      b.add statement = .ok { b with statements := b.statements ++ [statement.text] }) := by
  unfold add
  by_cases hb : b.state = .started
  · rw [isActive_iff.mpr hb]
    cases hs : statement.isSchemaChange with
    | false => exact .inr (.inl ⟨hb, rfl, _, rfl⟩)
    | true => exact .inr (.inr ⟨hb, rfl, rfl⟩)
  · rw [not_isActive hb]
    exact .inl ⟨hb, _, rfl⟩

theorem abort_of_started {b : Batch} (hb : b.state = .started) :
    b.abort = .ok { b with state := .aborted } := by
  rw [abort, isActive_iff.mpr hb]
  rfl

theorem abort_of_ended {b : Batch} (hb : b.state ≠ .started) :
    ∃ message, b.abort = .error (.invalidState message) := by
  rw [abort, not_isActive hb]
  exact ⟨_, rfl⟩

theorem run_of_ended {b : Batch} (hb : b.state ≠ .started) :
    ∃ message, b.run = (.answered (.error (.invalidState message)), b) := by
  rw [run, not_isActive hb]
  exact ⟨_, rfl⟩

theorem run_of_empty {b : Batch} (hb : b.state = .started) (he : b.statements = []) :
    b.run = (.answered (.ok []), { b with state := .ran }) := by
  rw [run, isActive_iff.mpr hb, he]
  rfl

theorem Refused.error_eq (operation : Refused) :
    ∃ message, operation.error = .notAllowed message := by
  cases operation <;> exact ⟨_, rfl⟩

theorem quiet_reportFailure (operation : Operation) (n : Nat) (code : StatusCode)
    (message : String) : (reportFailure operation n code message).Quiet :=
  ⟨nofun, fun _ => trivial⟩

theorem quiet_runQuery (sql : Text) (options : List QueryOption) :
    (runQuery sql options).Quiet :=
  ⟨nofun, fun _ => trivial⟩

/-- What follows a submission submits nothing more. -/
theorem quiet_afterSubmission (statements : List Text) (answer : Except Failure Operation) :
    (afterSubmission statements answer).Quiet := by
  cases answer with
  | error failure => exact trivial
  | ok operation =>
    refine ⟨nofun, ?_, quiet_reportFailure _ _ _ _⟩
    intro waited
    cases waited with
    | ok => exact ⟨nofun, fun _ => trivial⟩
    | error failure => exact quiet_reportFailure _ _ _ _

/-- The body of a run submits its statements once, however far it gets. -/
theorem submissions_runStatements {statements : List Text} {l : List Event}
    {a : Activity (Except SessionError Unit)} (h : (runStatements statements).Reaches l a) :
    submissions ((runStatements statements).arrival ++ l) = [statements] := by
  rw [runStatements_eq] at h ⊢
  cases h with
  | refl => rfl
  | answer submitted h =>
    -- the submission is the first call, and what follows it is quiet
    have hq := quiet_afterSubmission statements submitted
    change statements :: submissions ((afterSubmission statements submitted).arrival ++ _) = _
    rw [Activity.submissions_arrival_append hq, hq.submissions_eq_nil h]

/-- However far a run gets, it submits its statements once, -/
theorem always_run {b : Batch} (hb : b.state = .started) (hne : b.statements ≠ []) :
    b.run.1.Always fun l => submissions l = [b.statements] := by
  have hbody : (Reply.running runLabel (runStatements b.statements)).Always
      fun l => submissions l = [b.statements] := fun l a hway => submissions_runStatements hway
  rw [run_of_started hb hne]
  exact hbody.map _

/-- so it does under every schedule. -/
theorem submissions_run (services : Services σ μ) (schedule : List (Happening μ)) {b : Batch}
    (scene : Scene σ) (hb : b.state = .started) (hne : b.statements ≠ []) :
    submissions (b.run.1.course services schedule scene).events = [b.statements] :=
  (always_run hb hne).course services schedule scene

/-- A query submits nothing, -/
theorem always_query (statement : Sql.Statement) (analysis : Analysis)
    (options : List QueryOption) :
    (query statement analysis options).Always fun l => submissions l = [] := by
  unfold query
  split
  · rfl
  · exact Reply.always_of_quiet _ (quiet_runQuery _ _)

/-- under every schedule. -/
theorem submissions_query (services : Services σ μ) (schedule : List (Happening μ))
    (statement : Sql.Statement) (analysis : Analysis) (options : List QueryOption)
    (scene : Scene σ) :
    submissions ((query statement analysis options).course services schedule scene).events
      = [] :=
  (always_query statement analysis options).course services schedule scene

/-- What a query leaves to do in the background submits nothing. -/
theorem quiet_queryInBackground {statement : Sql.Statement} {analysis : Analysis}
    {options : List QueryOption} {canSpawn : Bool}
    {activity : Activity (Except SessionError ResultSet)}
    (h : queryInBackground statement analysis options canSpawn = .ok activity) :
    activity.Quiet := by
  unfold queryInBackground at h
  split at h
  · cases h
  · split at h
    · cases h
      exact quiet_runQuery _ _
    · cases h

end Batch

/-! ### Every request -/

namespace Holding

variable {σ μ : Type} (services : Services σ μ)

/-- What a run does, by the state of the batch and by how the run ends. -/
theorem perform_run_effect (schedule : List (Happening μ)) (h : Holding σ) :
    (h.perform services (.run schedule)).1.Effect := by
  obtain ⟨b, scene⟩ := h
  by_cases hb : b.state = .started
  · by_cases he : b.statements = []
    · simp only [perform, Batch.run_of_empty hb he]
      exact .ranEmpty hb he
    · have hs := Batch.submissions_run services schedule scene hb he
      have hv : ∀ counts,
          (b.run.1.course services schedule scene).status = .ready (.ok counts) →
          counts = b.fullCounts :=
        fun counts hr => (Batch.course_verdict services schedule scene hb he hr).counts_of_ok
      simp only [perform, Batch.settled]
      rw [Batch.run_of_started hb he] at hs hv ⊢
      dsimp only at hs hv ⊢
      -- of the course only its outcome and its submissions matter
      generalize (Reply.running Batch.runLabel _).course services schedule scene = c at hs hv ⊢
      obtain ⟨status, after, events, windDown⟩ := c
      cases status with
      | pending e => exact .dropped hb he hs
      | ready result =>
        cases result with
        | ok counts =>
          obtain rfl := hv counts rfl
          exact .ran hb he hs
        | error e => exact .runFailed hb he hs
  · obtain ⟨message, hrun⟩ := Batch.run_of_ended hb
    simp only [perform, hrun]
    exact .shut hb trivial rfl

/-- **Every request has one of the effects**, whatever the services do and whatever happens while it
is seen to. -/
theorem perform_effect (request : Request μ) (h : Holding σ) :
    (h.perform services request).1.Effect := by
  cases request with
  | add statement =>
    unfold perform
    rcases h.batch.add_cases statement with
      ⟨hb, message, ha⟩ | ⟨hb, hs, message, ha⟩ | ⟨hb, hs, ha⟩
    · simp only [ha]; exact .shut hb trivial rfl
    · simp only [ha]; exact .notTaken hb hs
    · simp only [ha]; exact .taken hb hs
  | run schedule => exact perform_run_effect services schedule h
  | abort =>
    unfold perform
    by_cases hb : h.batch.state = .started
    · simp only [Batch.abort_of_started hb]; exact .aborted hb
    · obtain ⟨message, ha⟩ := Batch.abort_of_ended hb
      simp only [ha]; exact .shut hb trivial rfl
  | query statement analysis options schedule =>
    exact .query (Batch.submissions_query services schedule statement analysis options h.scene)
  | queryInBackground statement analysis options canSpawn =>
    exact .background fun activity ha => Batch.quiet_queryInBackground ha
  | refused operation =>
    obtain ⟨message, ha⟩ := operation.error_eq
    exact .refused ha
  | readTimestamp => exact .timestamp (.inl rfl)
  | commitTimestamp => exact .timestamp (.inr rfl)
  | meanwhile happening => exact .meanwhile

end Holding
end SchemaBatch
