import SchemaBatch.Proofs.InMemoryJob
import SchemaBatch.Proofs.UpdateCounts

/-!
# `Proofs.InMemoryRun` — runs against the service in memory

A run against the service in memory is put together by four: the job in the background, the body of
the run that waits for it, the frame that may interrupt the body, and the progress that is read at
the end. The service answers at once, so whatever comes first, the run ends with what the service
says at that moment.

The body submits at once and then waits for its operation. While it waits nothing else happens to it:
this is `Attends`, the invariant of the run. One look at such a run (`poll_attending`) leaves it as it is
or ends it, and when it ends, with what it reads off the service (`Batch.ReadOff`).

* `Execution.follow_attending` — under every schedule, whatever the services do by themselves or for
  others, a run that ends has read its result off the service.
* `Execution.poll_start`, `Batch.course_submitted` — polled for the first time, a run is as if it had been
  waiting already.
* `Batch.course_attending` — so what is said of a run that waits holds from the start.
* `Batch.Underway`, `Execution.poll_underway` — on a service on which nothing else goes on, the counts tell
  how far the catalog has come.
-/

namespace SchemaBatch

/-! ## Counts of a prefix -/

theorem countsOf_congr {n : Nat} {f g : Nat → Bool} (h : ∀ i < n, f i = g i) :
    countsOf n f = countsOf n g := by
  unfold countsOf
  apply List.map_congr_left
  intro i hi
  rw [h i (List.mem_range.mp hi)]

theorem countsOf_lt {n k : Nat} (hk : k ≤ n) :
    countsOf n (fun i => decide (i < k)) = List.replicate k 1 ++ List.replicate (n - k) 0 := by
  apply List.ext_getElem?
  intro i
  -- position `i` lies among the ones, among the zeros, or behind both
  rw [getElem?_countsOf, List.getElem?_append, List.getElem?_replicate, List.getElem?_replicate,
    List.length_replicate]
  by_cases hik : i < k
  · have hin : i < n := by omega
    simp [hik, hin]
  · by_cases hin : i < n
    · have hrest : i - k < n - k := by omega
      simp [hik, hin, hrest]
    · have hrest : ¬ i - k < n - k := by omega
      simp [hik, hin, hrest]

/-- A job that shows its first `k` statements as applied is read as `k` ones and zeros after them. -/
theorem Job.counts_of_marks {statements : List Text} {k : Nat} {j : Job}
    (hstatements : j.statements = statements) (hmarks : ∀ i, j.progress.isMarked i = decide (i < k))
    (hk : k ≤ statements.length) :
    countsOf statements.length (confirmedBy (.ok j.progress))
      = List.replicate k 1 ++ List.replicate (statements.length - k) 0 := by
  rw [← countsOf_lt hk]
  apply countsOf_congr
  intro i hi
  have hlen : j.progress.statements.length = statements.length := congrArg List.length hstatements
  show (decide (i < j.progress.statements.length) && j.progress.isMarked i) = decide (i < k)
  rw [hlen, hmarks, decide_eq_true hi, Bool.true_and]

theorem Job.Stands.counts {before c : Catalog} {statements : List Text} {k : Nat} {j : Job}
    (h : j.Stands before statements k c) :
    countsOf statements.length (confirmedBy (.ok j.progress))
      = List.replicate k 1 ++ List.replicate (statements.length - k) 0 :=
  counts_of_marks h.statements_eq h.marks h.le_length

namespace Batch

/-! ## What a result says -/

/-- The result of a run says that the first `k` statements were applied, and the batch is in the
state for it. -/
inductive Accounted (b : Batch) (k : Nat) :
    Except SessionError (List Int) → BatchState → Prop where
  | all (hk : k = b.statements.length) :
      Accounted b k (.ok (List.replicate b.statements.length 1)) .ran
  | some {f : BatchFailure} (hk : k < b.statements.length)
      (hf : f.counts
        = List.replicate k 1 ++ List.replicate (b.statements.length - k) 0) :
      Accounted b k (.error (.batchFailed f)) .runFailed

/-! ## What is read off the service -/

/-- The result of a run is what the service says of its operation: that it has ended well, or how far it
has come. -/
inductive ReadOff (b : Batch) (s : InMemory) (operation : Operation) :
    Except SessionError (List Int) → Prop where
  | all (h : s.outcome? operation = some (.ok ())) : ReadOff b s operation (.ok b.fullCounts)
  | some {f : BatchFailure} (h : s.outcome? operation ≠ some (.ok ()))
      (hf : f.counts = knownCounts b.statements.length (s.progress operation)) :
      ReadOff b s operation (.error (.batchFailed f))

/-- The frame does not change what a result says. -/
theorem ReadOff.recast {b : Batch} {s : InMemory} {operation : Operation}
    {result : Except SessionError (List Int)} (h : b.ReadOff s operation result) (label : Text)
    (cause : Interruption) : b.ReadOff s operation (result.mapError (cause.recast label)) := by
  cases h with
  | all h => exact .all h
  | @some f h hf =>
    show b.ReadOff s operation (.error (cause.recast label (.batchFailed f)))
    rw [Interruption.recast_batchFailed]
    exact .some h ((BatchFailure.counts_recast _ _ _).trans hf)

section Carried

variable {b : Batch} {before : Catalog} {old : List Job} {k : Nat} {j : Job} {s : InMemory}
  {operation : Operation}

theorem progress_of_carries (hc : s.Carries before b.statements old k j)
    (ho : operation.index = old.length) : s.progress operation = .ok j.progress := by
  have hget : s.jobs[operation.index]? = some j := by rw [hc.jobs, ho]; simp
  simp only [InMemory.progress, hget]

theorem outcome_of_carries (hc : s.Carries before b.statements old k j)
    (ho : operation.index = old.length) : s.outcome? operation = j.outcome? := by
  have hget : s.jobs[operation.index]? = some j := by rw [hc.jobs, ho]; simp
  simp only [InMemory.outcome?, hget, Option.bind_some]

/-- What is read off a service that works on the job alone agrees with the catalog. -/
theorem ReadOff.accounted (hc : s.Carries before b.statements old k j)
    (ho : operation.index = old.length) {result : Except SessionError (List Int)}
    (h : b.ReadOff s operation result) : b.Accounted k result (b.conclude result).state := by
  cases h with
  | all h =>
    rw [outcome_of_carries hc ho] at h
    rcases hc.stands.state with ⟨_, due, hs⟩ | ⟨hk, _⟩ | ⟨_, status, hs⟩
    · rw [Job.outcome?, hs] at h
      cases h
    · exact .all hk
    · rw [Job.outcome?, hs] at h
      cases h
  | @some f h hf =>
    rw [outcome_of_carries hc ho] at h
    rw [progress_of_carries hc ho, knownCounts_eq, hc.stands.counts] at hf
    rcases hc.stands.state with ⟨hk, _⟩ | ⟨_, hs⟩ | ⟨hk, _⟩
    · exact .some hk hf
    · rw [Job.outcome?, hs] at h
      exact absurd rfl h
    · exact .some hk hf

end Carried

/-! ## One look -/

/-- The result of a run with its counts. -/
def withCounts (b : Batch) (result : Except SessionError Unit) : Except SessionError (List Int) :=
  result.map fun _ => b.fullCounts

/-- What is left of a run that waits for its operation. -/
def awaiting (b : Batch) (operation : Operation) : Activity (Except SessionError (List Int)) :=
  (afterSubmission b.statements (.ok operation)).map b.withCounts

/-- A run submits its statements, and then waits for its operation. -/
theorem body_eq (b : Batch) :
    b.body = .call (.submit b.statements) fun answer =>
      (afterSubmission b.statements answer).map b.withCounts := by
  unfold body
  rw [runStatements_eq]
  rfl

section Look

variable {b : Batch} {s : InMemory} {backend : Backend} {operation : Operation}

/-- The service in memory takes a submission at once. -/
theorem isReady_submit (hb : backend.schema = .inMemory s) (statements : List Text) {since now : Nat}
    (h : since ≤ now) : Backend.remote.isReady (.submit statements) since now backend = true := by
  simpa [Remote.isReady, Backend.remote, Backend.due, hb] using h

theorem submit_eq (hb : backend.schema = .inMemory s) (statements : List Text) (now : Nat) :
    backend.submit statements now
      = (.ok s.nextOperation,
          { backend with schema := .inMemory (s.submit statements now).2 }) := by
  simp only [Backend.submit, hb]
  rfl

/-- The service in memory answers at once how far an operation has come. -/
theorem isReady_inspect (hb : backend.schema = .inMemory s) (now : Nat) :
    Backend.remote.isReady (.inspect operation) now now backend = true := by
  simp [Remote.isReady, Backend.remote, Backend.due, hb]

/-- It answers a wait as soon as the operation has ended. -/
theorem isReady_waitFor (hb : backend.schema = .inMemory s) {since now : Nat} (h : since ≤ now) :
    Backend.remote.isReady (.waitFor operation) since now backend
      = (s.outcome? operation).isSome := by
  simp only [Remote.isReady, Backend.remote, Backend.due, hb]
  cases s.outcome? operation with
  | none => rfl
  | some outcome => simpa using h

/-- A failure is reported at once, with the counts of the progress. -/
theorem advance_reportFailure (hb : backend.schema = .inMemory s) (signalled : Bool) (now : Nat)
    (code : StatusCode) (message : String) :
    Engaged.advanceFrom Backend.remote signalled now
      ((reportFailure operation b.statements.length code message).map b.withCounts) now backend
      = (⟨.done (.error (.batchFailed
          ⟨code, message, knownCounts b.statements.length (s.progress operation)⟩)), now⟩,
        backend) := by
  show (if Backend.remote.isReady (.inspect operation) now now backend then
      Engaged.advanceFrom Backend.remote signalled now (Activity.done (Except.error
        (SessionError.batchFailed ⟨code, message,
          knownCounts b.statements.length (backend.progress operation)⟩))) now backend
    else _) = _
  rw [if_pos (isReady_inspect hb now), Backend.progress, hb]
  rfl

/-- **One look at a run that waits for its operation.** The run goes on waiting as long as the operation
goes on and nobody tells the run to stop; otherwise it ends, and its result is read off the service. -/
theorem advance_awaiting (hb : backend.schema = .inMemory s) (signalled : Bool) {since now : Nat}
    (hsince : since ≤ now) :
    (signalled = false ∧ s.outcome? operation = none ∧
      Engaged.advanceFrom Backend.remote signalled now (b.awaiting operation) since backend
        = (⟨b.awaiting operation, since⟩, backend)) ∨
    ∃ result, Engaged.advanceFrom Backend.remote signalled now (b.awaiting operation) since backend
        = (⟨.done result, now⟩, backend) ∧ b.ReadOff s operation result := by
  have hunfold : Engaged.advanceFrom Backend.remote signalled now (b.awaiting operation) since
      backend = if Backend.remote.isReady (.waitFor operation) since now backend then
        Engaged.advanceFrom Backend.remote signalled now
          ((afterWait b.statements operation (backend.outcome operation)).map b.withCounts) now
          backend
      else if signalled then Engaged.advanceFrom Backend.remote signalled now
        ((afterInterruption b.statements operation).map b.withCounts) now backend
      else (⟨b.awaiting operation, since⟩, backend) := rfl
  have houtcome : backend.outcome operation
      = (s.outcome? operation).getD (.error (InMemory.unknownOperation operation)) := by
    simp only [Backend.outcome, hb]
  rw [hunfold, isReady_waitFor hb hsince, houtcome]
  -- whether the wait is over is up to the operation
  cases hover : s.outcome? operation with
  | none =>
    -- it goes on, so only an interruption ends the wait
    cases signalled with
    | false => exact .inl ⟨rfl, rfl, rfl⟩
    | true =>
      have hnot : s.outcome? operation ≠ some (.ok ()) := by rw [hover]; nofun
      exact .inr ⟨_, advance_reportFailure hb true now _ _, .some hnot rfl⟩
  | some outcome =>
    right
    cases outcome with
    | ok _ =>
      -- it has ended well; what the progress says does not matter
      refine ⟨.ok b.fullCounts, ?_, .all hover⟩
      show (if Backend.remote.isReady (.inspect operation) now now backend then
        Engaged.advanceFrom Backend.remote signalled now (Activity.done (Except.ok b.fullCounts)) now
          backend
      else _) = _
      rw [if_pos (isReady_inspect hb now)]
      rfl
    | error failure =>
      have hnot : s.outcome? operation ≠ some (.ok ()) := by rw [hover]; nofun
      exact ⟨_, advance_reportFailure hb signalled now _ _, .some hnot rfl⟩

end Look

/-- **A run that waits** for its operation: nothing has interrupted it, and the frame can reach it. -/
structure Attends (b : Batch) (operation : Operation) (now : Nat) (e : Execution (List Int))
    (f : Frame) : Prop where
  body : ∃ since ≤ now, e.body = ⟨b.awaiting operation, since⟩
  windDown : e.windDown = none
  ticket : e.ticket ∈ f.tickets

theorem Attends.later {b : Batch} {operation : Operation} {now now' : Nat}
    {e : Execution (List Int)} {f : Frame} (h : b.Attends operation now e f) (hle : now ≤ now') :
    b.Attends operation now' e f := by
  obtain ⟨⟨since, hsince, hbody⟩, hw, ht⟩ := h
  exact ⟨⟨since, Nat.le_trans hsince hle, hbody⟩, hw, ht⟩

end Batch

namespace Execution

variable {b : Batch} {s : InMemory} {backend : Backend} {operation : Operation} {now : Nat}
  {e : Execution (List Int)} {f : Frame}

/-- **A run that waits, polled.** It goes on as it is while its operation goes on, or ends with what it
reads off the service. Also when the frame interrupts it, it ends at once: the body reports what it
knows, so the frame never has to give up. -/
theorem poll_attending (ha : b.Attends operation now e f) (hb : backend.schema = .inMemory s) :
    (s.outcome? operation = none ∧ e.interruptedBy now f = none ∧
      e.poll Backend.remote now f backend = (.pending e, f, backend)) ∨
    ∃ result, e.poll Backend.remote now f backend
        = (.ready result, f.release e.ticket, backend) ∧ b.ReadOff s operation result := by
  obtain ⟨⟨since, hsince, hbody⟩, hw, ht⟩ := ha
  have hadvance : ∀ f : Frame, e.advance Backend.remote now f backend
      = ({ e with body := (Engaged.advanceFrom Backend.remote (f.isSignalled e.ticket) now
            (b.awaiting operation) since backend).1 },
          (Engaged.advanceFrom Backend.remote (f.isSignalled e.ticket) now
            (b.awaiting operation) since backend).2) := by
    intro f
    unfold advance Engaged.advance
    rw [hbody]
  rcases Batch.advance_awaiting hb (f.isSignalled e.ticket) hsince with
    ⟨hs, hgoes, hadv⟩ | ⟨result, hadv, hread⟩
  · -- the body goes on waiting, and the frame may interrupt it
    have hsame : e.advance Backend.remote now f backend = (e, backend) := by
      rw [hadvance, hadv, ← hbody]
    have hres : (e.advance Backend.remote now f backend).1.body.result? = none := by
      rw [hsame, hbody]
      rfl
    cases hi : e.interruptedBy now f with
    | none =>
      left
      rw [poll_of_waiting hw hres hi, hsame]
      exact ⟨hgoes, rfl, rfl⟩
    | some cause =>
      -- the body is told, stops waiting and reports
      right
      rw [poll_of_interrupted hw hres hi, hsame]
      have hsig := Frame.isSignalled_signal ht
      rcases Batch.advance_awaiting hb true hsince with ⟨hs', _⟩ | ⟨result, hadv', hread⟩
      · cases hs'
      · refine ⟨result.mapError (cause.recast e.label), ?_, hread.recast e.label cause⟩
        unfold pollWindDown
        rw [hadvance, hsig, hadv', ← f.release_signal]
        rfl
  · -- the body has ended
    right
    have hres : (e.advance Backend.remote now f backend).1.body.result? = some result := by
      rw [hadvance, hadv]
      rfl
    refine ⟨result, ?_, hread⟩
    rw [poll_of_done hw hres, hadvance, hadv]

end Execution

/-! ## Under every schedule -/

/-- The services of a session, which move as `move` says. -/
def Backend.moved {μ : Type} (move : μ → (now : Nat) → Backend → Backend) : Services Backend μ :=
  { remote with move }

/-- How a run that waits fares: it goes on waiting as it is, or it has ended with what it read off the
service. -/
def Batch.Fares (b : Batch) (operation : Operation) (e : Execution (List Int))
    (c : Course Backend (List Int)) : Prop :=
  (c.status = .pending e ∧ b.Attends operation c.scene.now e c.scene.frame) ∨
    ∃ result s, c.status = .ready result ∧ c.scene.state.schema = .inMemory s ∧
      b.ReadOff s operation result

namespace Execution

variable {μ : Type} {move : μ → (now : Nat) → Backend → Backend} {P : Backend → Prop} {b : Batch}
  {operation : Operation}

/-- What happens while a run waits leaves it waiting or ends it. What the moves keep of the services, and
that the run relies on a service in memory, is `P`. -/
theorem step_attending (hmemory : ∀ backend, P backend → ∃ s, backend.schema = .inMemory s)
    {h : Happening μ} (hmove : ∀ m, h = .move m → ∀ now backend, P backend → P (move m now backend))
    {e : Execution (List Int)} {scene : Scene Backend}
    (ha : b.Attends operation scene.now e scene.frame) (hP : P scene.state) :
    P (e.step (Backend.moved move) h scene).scene.state ∧
      b.Fares operation e (e.step (Backend.moved move) h scene) := by
  cases h with
  | look =>
    obtain ⟨s, hs⟩ := hmemory _ hP
    have hstatus : (e.step (Backend.moved move) .look scene).status
        = (e.poll Backend.remote scene.now scene.frame scene.state).1 := rfl
    have hscene : (e.step (Backend.moved move) .look scene).scene
        = ⟨scene.now, (e.poll Backend.remote scene.now scene.frame scene.state).2.1,
            (e.poll Backend.remote scene.now scene.frame scene.state).2.2⟩ := rfl
    unfold Batch.Fares
    rw [hstatus, hscene]
    rcases poll_attending ha hs with ⟨_, _, hpoll⟩ | ⟨result, hpoll, hread⟩
    · rw [hpoll]
      exact ⟨hP, .inl ⟨rfl, ha⟩⟩
    · rw [hpoll]
      exact ⟨hP, .inr ⟨result, s, rfl, hs, hread⟩⟩
  | pass duration => exact ⟨hP, .inl ⟨rfl, ha.later (Nat.le_add_right _ _)⟩⟩
  | act act =>
    exact ⟨hP, .inl ⟨rfl, ha.body, ha.windDown, Frame.mem_tickets_act ha.ticket act⟩⟩
  | move m => exact ⟨hmove m rfl scene.now scene.state hP, .inl ⟨rfl, ha⟩⟩

/-- **Under every schedule**, a run that waits and comes to an end has read its result off the service. -/
theorem follow_attending (hmemory : ∀ backend, P backend → ∃ s, backend.schema = .inMemory s)
    (schedule : List (Happening μ))
    (hmove : ∀ m, .move m ∈ schedule → ∀ now backend, P backend → P (move m now backend))
    {e : Execution (List Int)} {scene : Scene Backend}
    (ha : b.Attends operation scene.now e scene.frame) (hP : P scene.state) :
    P (e.follow (Backend.moved move) schedule scene).scene.state ∧
      b.Fares operation e (e.follow (Backend.moved move) schedule scene) := by
  -- to wait is the invariant; the step that ends the run reads the result off the service
  induction schedule generalizing scene with
  | nil => exact ⟨hP, .inl ⟨rfl, ha⟩⟩
  | cons h schedule ih =>
    obtain ⟨hP', hstep⟩ := step_attending hmemory
      (fun m hm => hmove m (hm ▸ List.mem_cons_self)) ha hP
    rcases hstep with ⟨hp, ha'⟩ | ⟨result, s, hp, hs, hread⟩
    · rw [follow_of_pending hp]
      exact ih (fun m hm => hmove m (List.mem_cons_of_mem _ hm)) ha' hP'
    · rw [follow_of_ready hp]
      exact ⟨hP', .inr ⟨result, s, hp, hs, hread⟩⟩

/-! ## The start -/

/-- A run submits at once: polled for the first time, it is as if it had been waiting already, with
its job on the service. -/
theorem poll_start {e : Execution (List Int)} {now : Nat} {f : Frame} {backend : Backend}
    {s : InMemory} (hb : backend.schema = .inMemory s) (hbody : e.body = ⟨b.body, now⟩) :
    e.poll Backend.remote now f backend
      = { e with body := ⟨b.awaiting s.nextOperation, now⟩ }.poll Backend.remote now f
          { backend with schema := .inMemory (s.submit b.statements now).2 } := by
  -- the service takes a submission at once, also when the run is told to stop
  have hsubmit : ∀ signalled, Engaged.advanceFrom Backend.remote signalled now b.body now backend
      = Engaged.advanceFrom Backend.remote signalled now (b.awaiting s.nextOperation) now
          { backend with schema := .inMemory (s.submit b.statements now).2 } := by
    intro signalled
    have hready := Batch.isReady_submit hb b.statements (Nat.le_refl now)
    have hanswer := Batch.submit_eq hb b.statements now
    have hunfold : Engaged.advanceFrom Backend.remote signalled now b.body now backend
        = if Backend.remote.isReady (.submit b.statements) now now backend then
            Engaged.advanceFrom Backend.remote signalled now
              ((afterSubmission b.statements (backend.submit b.statements now).1).map
                b.withCounts) now (backend.submit b.statements now).2
          else (⟨b.body, now⟩, backend) := by
      rw [b.body_eq]
      rfl
    rw [hunfold, if_pos hready, hanswer]
    rfl
  have hadvance : e.advance Backend.remote now f backend
      = { e with body := ⟨b.awaiting s.nextOperation, now⟩ }.advance Backend.remote now f
          { backend with schema := .inMemory (s.submit b.statements now).2 } := by
    unfold advance Engaged.advance
    rw [hbody]
    dsimp only
    rw [hsubmit]
  unfold poll pollWindDown
  rw [hadvance]

/-- A run that starts waits once it has submitted. -/
theorem start_attends (b : Batch) (s : InMemory) (now : Nat) (f : Frame) :
    b.Attends s.nextOperation now
      { (start Batch.runLabel b.body now f).1 with body := ⟨b.awaiting s.nextOperation, now⟩ }
      (start Batch.runLabel b.body now f).2 where
  body := ⟨now, Nat.le_refl _, rfl⟩
  windDown := rfl
  ticket := by
    show f.nextTicket ∈ (f.running ++ [Running.mk f.nextTicket false]).map Running.ticket
    rw [List.map_append]
    exact List.mem_append_right _ (List.mem_singleton.mpr rfl)

/-- What becomes of an execution and of its surroundings is settled by its next step. -/
theorem follow_congr {μ α : Type} {services : Services Backend μ} {h : Happening μ}
    {e e' : Execution α} {scene scene' : Scene Backend} (schedule : List (Happening μ))
    (hstatus : (e.step services h scene).status = (e'.step services h scene').status)
    (hscene : (e.step services h scene).scene = (e'.step services h scene').scene) :
    (e.follow services (h :: schedule) scene).status
        = (e'.follow services (h :: schedule) scene').status ∧
      (e.follow services (h :: schedule) scene).scene
        = (e'.follow services (h :: schedule) scene').scene := by
  cases hp : (e'.step services h scene').status with
  | ready result =>
    rw [follow_of_ready hp, follow_of_ready (hstatus.trans hp)]
    exact ⟨hstatus, hscene⟩
  | pending e₁ =>
    rw [follow_of_pending hp, follow_of_pending (hstatus.trans hp), hscene]
    exact ⟨rfl, rfl⟩

end Execution

/-- A run that has submitted its statements to a service, and the scene that it has made of another. -/
def Batch.submitted (b : Batch) (s : InMemory) (scene : Scene Backend) :
    Execution (List Int) × Scene Backend :=
  ({ (Execution.start runLabel b.body scene.now scene.frame).1 with
      body := ⟨b.awaiting s.nextOperation, scene.now⟩ },
    { scene with
      frame := (Execution.start runLabel b.body scene.now scene.frame).2
      state := { scene.state with schema := .inMemory (s.submit b.statements scene.now).2 } })

/-- **A run against the service in memory submits at once.** Looked at when it starts, it is as if it had
submitted already. -/
theorem Batch.course_submitted {μ : Type} (move : μ → (now : Nat) → Backend → Backend) {b : Batch}
    (hb : b.state = .started) (hne : b.statements ≠ []) {s : InMemory}
    (schedule : List (Happening μ)) {scene : Scene Backend}
    (hs : scene.state.schema = .inMemory s) :
    (b.run.1.course (Backend.moved move) schedule scene).status
        = ((b.submitted s scene).1.follow (Backend.moved move) (.look :: schedule)
            (b.submitted s scene).2).status ∧
      (b.run.1.course (Backend.moved move) schedule scene).scene
        = ((b.submitted s scene).1.follow (Backend.moved move) (.look :: schedule)
            (b.submitted s scene).2).scene := by
  rw [run_of_started hb hne]
  obtain ⟨now, f, backend⟩ := scene
  let e := (Execution.start runLabel b.body now f).1
  let frame := (Execution.start runLabel b.body now f).2
  have hpoll := Execution.poll_start (b := b) (e := e) (f := frame) hs rfl
  have hstatus : (e.step (Backend.moved move) .look ⟨now, frame, backend⟩).status
      = ((b.submitted s ⟨now, f, backend⟩).1.step (Backend.moved move) .look
          (b.submitted s ⟨now, f, backend⟩).2).status := congrArg Prod.fst hpoll
  have hscene : (e.step (Backend.moved move) .look ⟨now, frame, backend⟩).scene
      = ((b.submitted s ⟨now, f, backend⟩).1.step (Backend.moved move) .look
          (b.submitted s ⟨now, f, backend⟩).2).scene :=
    congrArg (fun p => Scene.mk now p.2.1 p.2.2) hpoll
  exact Execution.follow_congr schedule hstatus hscene

/-- **Under every schedule**, a run against the service in memory waits or ends with what it reads off
the service. -/
theorem Batch.course_attending {μ : Type} {move : μ → (now : Nat) → Backend → Backend}
    {P : Backend → Prop} (hmemory : ∀ backend, P backend → ∃ s, backend.schema = .inMemory s)
    {b : Batch} (hb : b.state = .started) (hne : b.statements ≠ []) {s : InMemory}
    (schedule : List (Happening μ))
    (hmove : ∀ m, .move m ∈ schedule → ∀ now backend, P backend → P (move m now backend))
    {scene : Scene Backend} (hs : scene.state.schema = .inMemory s)
    (hP : P { scene.state with schema := .inMemory (s.submit b.statements scene.now).2 }) :
    P (b.run.1.course (Backend.moved move) schedule scene).scene.state ∧
      b.Fares s.nextOperation (b.submitted s scene).1
        (b.run.1.course (Backend.moved move) schedule scene) := by
  obtain ⟨hstatus, hscene⟩ := course_submitted move hb hne schedule hs
  unfold Fares
  rw [hstatus, hscene]
  refine Execution.follow_attending hmemory (.look :: schedule) ?_
    (Execution.start_attends b s scene.now scene.frame) hP
  intro m hm
  exact hmove m ((List.mem_cons.mp hm).resolve_left nofun)

/-! ## A service that works on nothing else -/

namespace Batch

/-- **A run under way**: it waits for the job behind the old ones, nothing has interrupted it, and the
frame can reach it. -/
structure Underway (b : Batch) (old : List Job) (now : Nat) (e : Execution (List Int)) (f : Frame) :
    Prop where
  body : ∃ operation since, operation.index = old.length ∧ since ≤ now ∧
    e.body = ⟨b.awaiting operation, since⟩
  windDown : e.windDown = none
  ticket : e.ticket ∈ f.tickets

theorem Underway.later {b : Batch} {old : List Job} {now now' : Nat} {e : Execution (List Int)}
    {f : Frame} (h : b.Underway old now e f) (hle : now ≤ now') : b.Underway old now' e f := by
  obtain ⟨⟨operation, since, ho, hsince, hbody⟩, hw, ht⟩ := h
  exact ⟨⟨operation, since, ho, Nat.le_trans hsince hle, hbody⟩, hw, ht⟩

end Batch

/-- A run under way, polled: it goes on while its job goes on, or ends with a result that agrees with
the job. -/
theorem Execution.poll_underway {b : Batch} {before : Catalog} {old : List Job} {k : Nat} {j : Job}
    {s : InMemory} {backend : Backend} {now : Nat} {e : Execution (List Int)} {f : Frame}
    (hu : b.Underway old now e f) (hb : backend.schema = .inMemory s)
    (hc : s.Carries before b.statements old k j) :
    ((∃ due, j.due? = some due) ∧
      e.poll Backend.remote now f backend = (.pending e, f, backend)) ∨
    ∃ result, e.poll Backend.remote now f backend
        = (.ready result, f.release e.ticket, backend) ∧
      b.Accounted k result (b.conclude result).state := by
  obtain ⟨⟨operation, since, ho, hsince, hbody⟩, hw, ht⟩ := hu
  rcases poll_attending ⟨⟨since, hsince, hbody⟩, hw, ht⟩ hb with
    ⟨hgoes, _, hpoll⟩ | ⟨result, hpoll, hread⟩
  · -- an operation that goes on is one whose job is due again
    rw [Batch.outcome_of_carries hc ho] at hgoes
    rcases hc.stands.state with ⟨_, due, hs⟩ | ⟨_, hs⟩ | ⟨_, status, hs⟩
    · exact .inl ⟨⟨due, by rw [Job.due?, hs]⟩, hpoll⟩
    · rw [Job.outcome?, hs] at hgoes
      cases hgoes
    · rw [Job.outcome?, hs] at hgoes
      cases hgoes
  · exact .inr ⟨result, hpoll, hread.accounted hc ho⟩

namespace Batch

/-- The service in memory works on the job of the run, and on nothing else. -/
def Served (b : Batch) (before : Catalog) (old : List Job) (backend : Backend) : Prop :=
  ∃ s k j, backend.schema = .inMemory s ∧ s.Carries before b.statements old k j

/-- The run has ended with a result that agrees with the catalog: the result says that the first `k`
statements were applied, and the catalog is the one that they lead to. -/
def SettledWith (b : Batch) (before : Catalog) (backend : Backend)
    (result : Except SessionError (List Int)) : Prop :=
  ∃ k catalog, backend.schema.catalog? = some catalog ∧
    before.applyAll (b.statements.take k) = .ok catalog ∧
    b.Accounted k result (b.conclude result).state

variable {b : Batch} {before : Catalog} {old : List Job} {k : Nat} {j : Job} {s : InMemory}
  {backend : Backend} {result : Except SessionError (List Int)}

theorem settledWith_of_carries (hb : backend.schema = .inMemory s)
    (hc : s.Carries before b.statements old k j)
    (hacc : b.Accounted k result (b.conclude result).state) :
    b.SettledWith before backend result := by
  refine ⟨k, s.catalog, ?_, hc.stands.catalog, hacc⟩
  rw [hb]
  rfl

end Batch

end SchemaBatch
