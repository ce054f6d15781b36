import SchemaBatch.Proofs.QueryTraffic
import SchemaBatch.Proofs.SessionTraffic

/-!
# `Proofs.RefusedStatements` — a statement that fails leaves the session intact

A statement may fail when it is read, when it is routed, in the open batch, in a batch of its own or in a
service. Whatever the way, a session that does not give its batch away by a run keeps everything as it was.

* `Happening.Undisturbed` — a timeout that stays, but for what others set while a statement is seen to;
  `Reply.course_undisturbed`, so does the timeout in every course.
* `Session.execute_harmless` — **a statement is carried out at once, or it leaves the session as it is**, and
  with a batch open it is refused at once then. `Session.execute_of_run` — a run of the batch.
* `Session.Intact`, `Session.LetGo` — what is kept when a statement fails.
  `Session.refused_intact` — **it is kept in every state that a session can reach.**
-/

namespace SchemaBatch

/-! ## The timeout in a course -/

namespace Happening

variable {μ : Type}

/-- The timeout that is set after something has happened. -/
def timeoutAfter (timeout : Option Nat) : Happening μ → Option Nat
  | .act (.setTimeout timeout) => timeout
  | _ => timeout

/-- The timeout that is set after several things have happened. -/
def timeoutThrough (timeout : Option Nat) (seen : List (Happening μ)) : Option Nat :=
  seen.foldl timeoutAfter timeout

/-- Nobody sets the timeout. -/
def SetsNone (schedule : List (Happening μ)) : Prop :=
  ∀ timeout, .act (.setTimeout timeout) ∉ schedule

/-- A timeout afterwards is the one before, but for what others set meanwhile. -/
structure Undisturbed (schedule : List (Happening μ)) (before after : Option Nat) : Prop where
  /-- They set it while the statement was seen to, which need not be up to the end of the schedule. -/
  others : ∃ seen, seen <+: schedule ∧ after = timeoutThrough before seen
  alone : SetsNone schedule → after = before

theorem timeoutThrough_of_setsNone {schedule seen : List (Happening μ)} (h : SetsNone schedule)
    (hseen : seen <+: schedule) (timeout : Option Nat) : timeoutThrough timeout seen = timeout := by
  have hnone : ∀ happening ∈ seen, ∀ t : Option Nat, timeoutAfter t happening = t := by
    intro happening hmem t
    cases happening with
    | act act =>
      cases act with
      | setTimeout timeout => exact absurd (hseen.mem hmem) (h timeout)
      | _ => rfl
    | _ => rfl
  clear hseen
  induction seen with
  | nil => rfl
  | cons happening seen ih =>
    rw [timeoutThrough, List.foldl_cons, hnone happening List.mem_cons_self]
    exact ih fun other hmem => hnone other (List.mem_cons_of_mem happening hmem)

theorem undisturbed_of_seen {schedule : List (Happening μ)} {before after : Option Nat}
    (h : ∃ seen, seen <+: schedule ∧ after = timeoutThrough before seen) :
    Undisturbed schedule before after := by
  refine ⟨h, fun hnone => ?_⟩
  obtain ⟨seen, hseen, rfl⟩ := h
  exact timeoutThrough_of_setsNone hnone hseen before

end Happening

open Happening (timeoutThrough Undisturbed undisturbed_of_seen)

variable {σ μ α : Type}

namespace Execution

theorem timeout_step (services : Services σ μ) (h : Happening μ) (e : Execution α) (scene : Scene σ) :
    (e.step services h scene).scene.frame.timeout = h.timeoutAfter scene.frame.timeout := by
  cases h with
  | look =>
    show (e.look services scene).scene.frame.timeout = scene.frame.timeout
    rcases e.look_effect services scene with ⟨_, _, hf⟩ | ⟨_, _, _, hf⟩ | ⟨_, _, _, _, hf⟩ <;> rw [hf]
    all_goals rfl
  | act act =>
    cases act with
    | leave ticket | tell ticket =>
      simp only [step, Scene.after, Frame.act]
      split <;> rfl
    | _ => rfl
  | pass duration | move m => rfl

/-- An execution sets no timeout; others may, until it has ended. -/
theorem timeout_follow (services : Services σ μ) (schedule : List (Happening μ)) (e : Execution α)
    (scene : Scene σ) : ∃ seen, seen <+: schedule ∧
      (e.follow services schedule scene).scene.frame.timeout
        = timeoutThrough scene.frame.timeout seen := by
  induction schedule generalizing e scene with
  | nil => exact ⟨[], List.prefix_refl _, rfl⟩
  | cons h schedule ih =>
    have hstep := timeout_step services h e scene
    unfold follow
    dsimp only
    split
    · exact ⟨[h], ⟨schedule, rfl⟩, hstep⟩
    · rename_i e' _
      obtain ⟨seen, hseen, htimeout⟩ := ih e' (e.step services h scene).scene
      refine ⟨h :: seen, List.prefix_cons_inj h |>.mpr hseen, ?_⟩
      rw [timeoutThrough, List.foldl_cons, ← hstep]
      exact htimeout

end Execution

/-- A reply that is seen to sets no timeout; others may. -/
theorem Reply.course_undisturbed (services : Services σ μ) (schedule : List (Happening μ)) (reply : Reply α)
    (scene : Scene σ) : Undisturbed schedule scene.frame.timeout
      (reply.course services schedule scene).aftermath.frame.timeout := by
  apply undisturbed_of_seen
  have hdropped : ∀ c : Course σ α, c.aftermath.frame.timeout = c.scene.frame.timeout := by
    intro c
    unfold Course.aftermath
    split <;> rfl
  rw [hdropped]
  cases reply with
  | answered result => exact ⟨[], List.nil_prefix, rfl⟩
  | running label activity =>
    obtain ⟨seen, hseen, htimeout⟩ := Execution.timeout_follow services (.look :: schedule)
      (Execution.start label activity scene.now scene.frame).1
      { scene with frame := (Execution.start label activity scene.now scene.frame).2 }
    cases seen with
    | nil => exact ⟨[], List.nil_prefix, htimeout⟩
    | cons first seen =>
      obtain ⟨rfl, hrest⟩ := List.cons_prefix_cons.mp hseen
      exact ⟨seen, hrest, htimeout⟩

namespace Session

/-! ## How a session answers -/

/-- A text is the command to run the batch. -/
def RunsBatch (sql : Text) : Prop :=
  ∃ source text, Sql.Statement.parse sql = .ok ⟨source, text, .command .runBatch⟩

/-- **How a session answers without giving its batch to a run**: what is asked for is done at once, or the
session and its frame are left as they are; with a batch open it is refused at once then. -/
def Harmless (s : Session) (f : Frame) (answer : Reply StatementResult × Session × Frame) : Prop :=
  (∃ result, answer.1 = .answered (.ok result)) ∨
  answer.2 = (s, f) ∧ (s.batch ≠ none → ∃ e, answer.1 = .answered (.error e))

variable {s : Session} {f : Frame}

/-- What is refused changes nothing. -/
theorem harmless_error (e : SessionError) : s.Harmless f (.answered (.error e), s, f) :=
  .inr ⟨rfl, fun _ => ⟨e, rfl⟩⟩

/-- Without a batch open it may take its time. -/
theorem harmless_of_none (h : s.batch = none) (reply : Reply StatementResult) : s.Harmless f (reply, s, f) :=
  .inr ⟨rfl, fun hbatch => absurd h hbatch⟩

theorem change_harmless (statement : Sql.Statement) :
    s.Harmless f ((s.change statement).1, (s.change statement).2, f) := by
  cases hbatch : s.batch with
  | some b =>
    simp only [change, hbatch]
    cases b.add statement with
    | error e => exact harmless_error e
    | ok b' => exact .inl ⟨.noResult, rfl⟩
  | none =>
    simp only [change, hbatch]
    cases Batch.fresh.add statement with
    | error e => exact harmless_error e
    | ok b' => exact harmless_of_none hbatch _

/-- A query that is not marked is refused by an open batch. -/
theorem routeQuery_harmless (statement : Sql.Statement) :
    s.Harmless f ((s.routeQuery statement []).map .rows, s, f) := by
  cases hbatch : s.batch with
  | none => exact harmless_of_none hbatch _
  | some b =>
    have hnot : ¬ Batch.Admits statement .none [] := fun h => nomatch h.1
    obtain ⟨e, he⟩ := Batch.query_of_not_admits hnot
    simp only [routeQuery, hbatch, he]
    exact harmless_error e

/-- A batch that is held can be aborted. -/
theorem abortBatch_harmless (hs : s.Settled) :
    s.Harmless f (.answered (s.abortBatch.1.map fun _ => .noResult), s.abortBatch.2, f) := by
  unfold abortBatch
  cases hbatch : s.batch with
  | none => exact harmless_error _
  | some b =>
    have hactive : b.isActive = true := Batch.isActive_iff.mpr (hs b hbatch)
    refine .inl ⟨.noResult, ?_⟩
    simp [Batch.abort, hactive, Except.map]

theorem carryOut_harmless (hs : s.Settled) {command : Sql.Command} (hnot : command ≠ .runBatch) :
    s.Harmless f (s.carryOut f command) := by
  cases command with
  | startBatch =>
    simp only [carryOut]
    cases s.startBatch with
    | error e => exact harmless_error e
    | ok s' => exact .inl ⟨.noResult, rfl⟩
  | runBatch => exact absurd rfl hnot
  | abortBatch => exact abortBatch_harmless hs
  | setTimeout timeout => exact .inl ⟨.noResult, rfl⟩

theorem route_harmless (hs : s.Settled) {statement : Sql.Statement}
    (hnot : statement.category ≠ .command .runBatch) : s.Harmless f (s.route f statement) := by
  obtain ⟨source, text, category⟩ := statement
  cases category with
  | command command =>
    have hcommand : command ≠ .runBatch := fun h => hnot (congrArg Sql.Category.command h)
    exact carryOut_harmless hs hcommand
  | schemaChange => exact change_harmless _
  | query => exact routeQuery_harmless _
  | update => exact harmless_error _
  | unknown => exact harmless_error _

/-- **Every text but the command to run the batch is answered so**, one that is no statement too. -/
theorem execute_harmless (hs : s.Settled) {sql : Text} (hnot : ¬ RunsBatch sql) :
    s.Harmless f (s.execute f sql) := by
  unfold execute readStatement
  cases hparse : Sql.Statement.parse sql with
  | error fault => exact harmless_error _
  | ok statement =>
    refine route_harmless hs fun hcategory => hnot ⟨statement.source, statement.text, ?_⟩
    rw [hparse, ← hcategory]

/-- The command to run the batch gives the batch away, and is refused when there is none. -/
theorem execute_of_run {sql : Text} (h : RunsBatch sql) (s : Session) (f : Frame) :
    s.execute f sql = (s.runBatch.1.map .counts, { s with batch := none }, f) := by
  obtain ⟨source, text, hparse⟩ := h
  have hrun : s.runBatch.2 = { s with batch := none } := by
    obtain ⟨options, batch⟩ := s
    cases batch <;> rfl
  rw [← hrun]
  unfold execute readStatement
  rw [hparse]
  rfl

/-! ## What is kept -/

/-- Sessions that are reached from one that was just opened hold a batch only as long as it takes
statements. -/
theorem settled_play (services : Services σ μ) (requests : List (Request μ)) {h : Holding σ}
    (hs : h.session.Settled) : (play services requests h).2.session.Settled := by
  induction requests generalizing h with
  | nil => exact hs
  | cons request requests ih => exact ih (perform_effect services request hs).1

/-- What is kept when a statement fails that does not run the batch. -/
structure Intact (h : Holding σ) (schedule : List (Happening μ)) (events : List Event)
    (after : Holding σ) : Prop where
  /-- The batch with its state and its statements, and the options, are as before. -/
  session : after.session = h.session
  timeout : Undisturbed schedule h.scene.frame.timeout after.scene.frame.timeout
  /-- With a batch open the statement fails at once: nothing passes between the session and the services,
  and all is as before. -/
  silent : h.session.isBatchActive = true → events = [] ∧ after = h

/-- What is kept when a run of the batch fails. -/
structure LetGo (h : Holding σ) (schedule : List (Happening μ)) (events : List Event)
    (after : Holding σ) : Prop where
  /-- No batch is held any more, and the options are as before. -/
  session : after.session = { h.session with batch := none }
  timeout : Undisturbed schedule h.scene.frame.timeout after.scene.frame.timeout
  /-- Without a batch nothing happens. -/
  bare : h.session.batch = none → events = [] ∧ after = h

/-- A reply that fails, where the session and its frame were left as they are. -/
theorem Harmless.intact {h : Holding σ} {answer : Reply StatementResult × Session × Frame}
    (hharmless : h.session.Harmless h.scene.frame answer) {services : Services σ μ}
    {schedule : List (Happening μ)} {course : Course σ StatementResult} {e : SessionError}
    (hcourse : answer.1.course services schedule { h.scene with frame := answer.2.2 } = course)
    (herror : course.outcome = .ended (.error e)) :
    Intact h schedule course.events ⟨answer.2.1, course.aftermath⟩ := by
  obtain ⟨reply, s', f'⟩ := answer
  subst hcourse
  rcases hharmless with ⟨done, rfl⟩ | ⟨hkept, hrefused⟩
  · -- what is done at once is no failure
    cases herror
  · cases hkept
    refine ⟨rfl, Reply.course_undisturbed services schedule reply h.scene, fun hactive => ?_⟩
    have hheld : h.session.batch ≠ none := by
      intro hnone
      rw [isBatchActive, hnone] at hactive
      cases hactive
    obtain ⟨e', rfl⟩ := hrefused hheld
    exact ⟨rfl, rfl⟩

/-- A run of the batch that fails. -/
theorem letGo_of_run {h : Holding σ} (services : Services σ μ) (schedule : List (Happening μ)) :
    let course := (h.session.runBatch.1.map StatementResult.counts).course services schedule h.scene
    LetGo h schedule course.events ⟨{ h.session with batch := none }, course.aftermath⟩ := by
  intro course
  refine ⟨rfl, Reply.course_undisturbed services schedule _ h.scene, fun hnone => ?_⟩
  have hreply : h.session.runBatch.1 = .answered (.error (noBatchTo "run")) := by
    rw [runBatch, hnone]
  have hsession : { h.session with batch := none } = h.session := by rw [← hnone]
  have hrefused : course = ⟨.ready (.error (noBatchTo "run")), h.scene, [], none⟩ := by
    show ((h.session.runBatch.1.map StatementResult.counts).course services schedule h.scene) = _
    rw [hreply]
    rfl
  rw [hrefused, hsession]
  exact ⟨rfl, rfl⟩

/-- **A statement that fails leaves the session intact**, in every state that a session can reach, whatever
others do meanwhile; and a run of the batch that fails lets go of the batch and of nothing else. -/
theorem refused_intact (services : Services σ μ) (options : Options) (scene : Scene σ)
    (requests : List (Request μ)) (sql : Text) (schedule : List (Happening μ)) (e : SessionError) :
    let h := (play services requests ⟨⟨options, none⟩, scene⟩).2
    let result := perform services (.execute sql schedule) h
    result.1.answer = .statement (.ended (.error e)) →
      (¬ RunsBatch sql → Intact h schedule result.1.events result.2) ∧
      (RunsBatch sql → LetGo h schedule result.1.events result.2) := by
  intro h result herror
  have hs : h.session.Settled := settled_play services requests nofun
  constructor
  · intro hnot
    exact (execute_harmless hs hnot).intact rfl (Answer.statement.inj herror)
  · intro hrun
    have hletGo := letGo_of_run (h := h) services schedule
    have hexecute := execute_of_run hrun h.session h.scene.frame
    have hresult : result = perform services (.execute sql schedule) h := rfl
    simp only [perform, hexecute] at hresult
    rw [hresult]
    exact hletGo

/-- With a batch open a query is refused at once, and nothing is touched. The run of the batch fails in the
service, and the session has no batch afterwards. -/
theorem refused_intact_opened :
    let services := Backend.services
    let scene : Scene Backend :=
      ⟨0, Frame.idle (some 40) 10, ⟨.inMemory (InMemory.fresh 0 fun _ => "0"), Database.empty⟩⟩
    let requests : List (Request Backend.Move) :=
      ["START BATCH DDL", "CREATE INDEX I ON T(Id)"].map fun sql => .execute sql.toList []
    let h := (play services requests ⟨⟨Options.standard, none⟩, scene⟩).2
    let query := "SELECT 1".toList
    let run := "run batch -- now".toList
    let schedule : List (Happening Backend.Move) := [.move (.work 0), .look]
    let refused := perform services (.execute query schedule) h
    let failed := perform services (.execute run schedule) h
    h.session.batch = some ⟨["CREATE INDEX I ON T(Id)".toList], .started⟩ ∧
    (∃ e, refused.1.answer = .statement (.ended (.error e))) ∧
    Intact h schedule refused.1.events refused.2 ∧
    (∃ e, failed.1.answer = .statement (.ended (.error e))) ∧
    LetGo h schedule failed.1.events failed.2 := by
  intro services scene requests h query run schedule refused failed
  have hnot : ¬ RunsBatch query := by
    rintro ⟨source, text, hparse⟩
    have hcategory : (Sql.Statement.parse query).toOption.map Sql.Statement.category = some .query := by
      decide
    rw [hparse] at hcategory
    cases hcategory
  have hrun : RunsBatch run := ⟨run, "run batch".toList, by decide⟩
  refine ⟨rfl, ⟨_, rfl⟩, ?_, ⟨_, rfl⟩, ?_⟩
  · exact (refused_intact services _ scene requests query schedule _ rfl).1 hnot
  · exact (refused_intact services _ scene requests run schedule _ rfl).2 hrun

end Session
end SchemaBatch
