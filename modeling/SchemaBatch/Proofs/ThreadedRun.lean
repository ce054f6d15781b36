import SchemaBatch.Proofs.InMemoryRun
import SchemaBatch.Proofs.Threads

/-!
# `Proofs.ThreadedRun` — a run and its job on threads of their own

A statement is applied before its mark is set, and the last mark is set before the outcome is told. What
a run reads off a job in between is behind the catalog, and it may be behind what the job shows by the
time at which the run ends. It is never ahead: marks are not taken back.

* `Job.Works` — the invariant of a job on its own thread, with the statements that are marked and those
  that were applied; `Job.Works.exert`, one effect keeps it.
* `Batch.Follows` — the invariant of the run, by what its thread does next; `Batch.Follows.access`,
  one access keeps it.
* `Batch.Runs.follow` — both together, along a schedule, and with them whether one thread runs everything.
* `Batch.threaded_accounted` — **what a run reports as applied was applied**, on whatever threads, and on
  one thread nothing else was; `Batch.course_accounted` — the same where each look is taken in one go.
-/

namespace SchemaBatch

/-! ## A job on its own thread -/

namespace Job

/-- Where a job of `n` statements stands that has set `k` marks and applied `m` statements, with what
others see of it and what it keeps to itself. -/
inductive Standing (n : Nat) : (k m : Nat) → JobState → Option Unshown → Prop where
  | waits {k due : Nat} (hk : k < n) : Standing n k k (.running k due) none
  /-- A statement was applied, and is not marked. -/
  | applied {k due : Nat} (hk : k < n) : Standing n k (k + 1) (.running k due) (some (.applied k))
  /-- All were applied and are marked, and nobody was told. -/
  | complete {next due : Nat} : Standing n n n (.running next due) (some (.ended (.ok ())))
  | refused {k due : Nat} {status : Status} (hk : k < n) :
      Standing n k k (.running k due) (some (.ended (.error status)))
  | done : Standing n n n (.finished (.ok ())) none
  | failed {k : Nat} {status : Status} (hk : k < n) :
      Standing n k k (.finished (.error status)) none

/-- What a job shows of its work and keeps to itself, after its first `m` statements were applied to a
catalog that was `before` when the job began and is `c` now, and the first `k` were marked. -/
structure Works (before : Catalog) (statements : List Text) (k m : Nat) (c : Catalog) (j : Job)
    (unshown : Option Unshown) : Prop where
  statements_eq : j.statements = statements
  marks : ∀ i, j.progress.isMarked i = decide (i < k)
  catalog : before.applyAll (statements.take m) = .ok c
  standing : Standing statements.length k m j.state unshown

variable {before c : Catalog} {statements : List Text} {k m : Nat} {j : Job}
  {unshown : Option Unshown}

theorem ofSubmission_works (operation : Operation) (hne : statements ≠ []) (delay now : Nat) :
    (ofSubmission operation statements delay now).Works before statements 0 0 before none where
  statements_eq := rfl
  marks i := by
    rw [decide_eq_false (Nat.not_lt_zero i)]
    rfl
  catalog := rfl
  standing := .waits (List.length_pos_iff.mpr hne)

/-- Marks are behind the catalog. -/
theorem Standing.le {n : Nat} {state : JobState} (h : Standing n k m state unshown) :
    k ≤ m ∧ m ≤ n := by
  cases h with
  | waits hk => exact ⟨Nat.le_refl _, Nat.le_of_lt hk⟩
  | applied hk => exact ⟨Nat.le_succ _, hk⟩
  | complete => exact ⟨Nat.le_refl _, Nat.le_refl _⟩
  | refused hk => exact ⟨Nat.le_refl _, Nat.le_of_lt hk⟩
  | done => exact ⟨Nat.le_refl _, Nat.le_refl _⟩
  | failed hk => exact ⟨Nat.le_refl _, Nat.le_of_lt hk⟩

/-- A job that keeps nothing to itself has marked what it has applied, -/
theorem Works.at_rest (h : j.Works before statements k m c none) :
    m = k ∧ j.Stands before statements k c := by
  obtain ⟨hstatements, hmarks, hcatalog, hstanding⟩ := h
  generalize hs : j.state = state at hstanding
  cases hstanding with
  | waits hk => exact ⟨rfl, hstatements, hmarks, hcatalog, .inl ⟨hk, _, hs⟩⟩
  | done => exact ⟨rfl, hstatements, hmarks, hcatalog, .inr (.inl ⟨rfl, hs⟩)⟩
  | failed hk => exact ⟨rfl, hstatements, hmarks, hcatalog, .inr (.inr ⟨hk, _, hs⟩)⟩

/-- and one that has told that it has ended well has applied all. -/
theorem Works.of_done (h : j.Works before statements k m c unshown)
    (hover : j.outcome? = some (.ok ())) : k = statements.length ∧ m = statements.length := by
  obtain ⟨_, _, _, hstanding⟩ := h
  unfold outcome? at hover
  generalize j.state = state at hstanding hover
  cases hstanding with
  | waits hk => cases hover
  | applied hk => cases hover
  | complete => cases hover
  | refused hk => cases hover
  | done => exact ⟨rfl, rfl⟩
  | failed hk => cases hover

/-- A job goes on with its next statement once it has shown all that it has done. -/
theorem Works.applyNext (h : j.Works before statements k m c none) :
    ∃ m', m ≤ m' ∧
      j.Works before statements k m' (j.applyNext c).1 (j.applyNext c).2 := by
  obtain ⟨hstatements, hmarks, hcatalog, hstanding⟩ := h
  generalize hs : j.state = state at hstanding
  cases hstanding with
  | @waits k due hk =>
    have hnext : j.statements[k]? = some statements[k] := by
      rw [hstatements]
      exact List.getElem?_eq_getElem hk
    have happly := Catalog.applyAll_take_succ (List.getElem?_eq_getElem hk) hcatalog
    cases ha : c.applyText statements[k] with
    | error status =>
      simp only [Job.applyNext, hs, hnext, ha]
      exact ⟨k, Nat.le_refl _, hstatements, hmarks, hcatalog, hs ▸ .refused hk⟩
    | ok c' =>
      simp only [Job.applyNext, hs, hnext, ha]
      exact ⟨k + 1, Nat.le_succ _, hstatements, hmarks, happly.trans ha, hs ▸ .applied hk⟩
  | done =>
    simp only [Job.applyNext, hs]
    exact ⟨_, Nat.le_refl _, hstatements, hmarks, hcatalog, hs ▸ .done⟩
  | failed hk =>
    simp only [Job.applyNext, hs]
    exact ⟨_, Nat.le_refl _, hstatements, hmarks, hcatalog, hs ▸ .failed hk⟩

/-- The mark catches up with the catalog. -/
theorem Works.mark (h : j.Works before statements k m c unshown) (delay now : Nat) :
    ∃ k', k ≤ k' ∧
      (j.mark delay now unshown).1.Works before statements k' m c (j.mark delay now unshown).2 := by
  obtain ⟨hstatements, hmarks, hcatalog, hstanding⟩ := h
  generalize hs : j.state = state at hstanding
  cases hstanding with
  | @applied k due hk =>
    have hmarks' := Progress.isMarked_record_next hmarks (Timestamp.ofMillis now)
    have hlength : j.statements.length = statements.length := congrArg List.length hstatements
    simp only [Job.mark, hlength]
    -- the job waits again, or it has marked the last statement
    by_cases hlast : k + 1 < statements.length
    · rw [if_pos hlast]
      exact ⟨k + 1, Nat.le_succ _, hstatements, hmarks', hcatalog, .waits hlast⟩
    · rw [if_neg hlast]
      have hall : k + 1 = statements.length := by omega
      refine ⟨k + 1, Nat.le_succ _, hstatements, hmarks', hcatalog, ?_⟩
      rw [hs, hall]
      exact .complete
  | waits hk => exact ⟨_, Nat.le_refl _, hstatements, hmarks, hcatalog, hs ▸ .waits hk⟩
  | complete => exact ⟨_, Nat.le_refl _, hstatements, hmarks, hcatalog, hs ▸ .complete⟩
  | refused hk => exact ⟨_, Nat.le_refl _, hstatements, hmarks, hcatalog, hs ▸ .refused hk⟩
  | done => exact ⟨_, Nat.le_refl _, hstatements, hmarks, hcatalog, hs ▸ .done⟩
  | failed hk => exact ⟨_, Nat.le_refl _, hstatements, hmarks, hcatalog, hs ▸ .failed hk⟩

/-- To tell the outcome changes nothing of the account. -/
theorem Works.report (h : j.Works before statements k m c unshown) :
    (j.report unshown).1.Works before statements k m c (j.report unshown).2 := by
  obtain ⟨hstatements, hmarks, hcatalog, hstanding⟩ := h
  generalize hs : j.state = state at hstanding
  cases hstanding with
  | complete => exact ⟨hstatements, hmarks, hcatalog, .done⟩
  | refused hk => exact ⟨hstatements, hmarks, hcatalog, .failed hk⟩
  | waits hk => exact ⟨hstatements, hmarks, hcatalog, hs ▸ .waits hk⟩
  | applied hk => exact ⟨hstatements, hmarks, hcatalog, hs ▸ .applied hk⟩
  | done => exact ⟨hstatements, hmarks, hcatalog, hs ▸ .done⟩
  | failed hk => exact ⟨hstatements, hmarks, hcatalog, hs ▸ .failed hk⟩

/-- **One effect of a step** keeps the account. What was marked stays marked. -/
theorem Works.exert (h : j.Works before statements k m c unshown) (effect : Job.Effect)
    (delay now : Nat) :
    ∃ k' m', k ≤ k' ∧ m ≤ m' ∧
      (j.exert effect delay now c unshown).2.1.Works before statements k' m'
        (j.exert effect delay now c unshown).1 (j.exert effect delay now c unshown).2.2 := by
  cases effect with
  | apply =>
    cases unshown with
    | some unshown => exact ⟨k, m, Nat.le_refl _, Nat.le_refl _, h⟩
    | none =>
      obtain ⟨m', hm, h'⟩ := h.applyNext
      exact ⟨k, m', Nat.le_refl _, hm, h'⟩
  | mark =>
    obtain ⟨k', hk, h'⟩ := h.mark delay now
    exact ⟨k', m, hk, Nat.le_refl _, h'⟩
  | report => exact ⟨k, m, Nat.le_refl _, Nat.le_refl _, h.report⟩

/-- A job that has told its outcome is at its end. -/
theorem Works.exert_of_over (h : j.Works before statements k m c unshown)
    (hover : j.outcome?.isSome) (effect : Job.Effect) (delay now : Nat) :
    j.exert effect delay now c unshown = (c, j, unshown) := by
  obtain ⟨_, _, _, hstanding⟩ := h
  unfold outcome? at hover
  generalize hs : j.state = state at hstanding hover
  cases hstanding with
  | waits hk => cases hover
  | applied hk => cases hover
  | complete => cases hover
  | refused hk => cases hover
  | done => cases effect <;> simp only [Job.exert, Job.applyNext, hs, Job.mark, Job.report]
  | failed hk => cases effect <;> simp only [Job.exert, Job.applyNext, hs, Job.mark, Job.report]

/-- One that does not go on has nothing to do. -/
theorem exert_of_idle (hd : j.due? = none) (effect : Job.Effect) (delay now : Nat) :
    j.exert effect delay now c none = (c, j, none) := by
  have happly : j.applyNext c = (c, none) := by
    unfold due? at hd
    unfold Job.applyNext
    cases hs : j.state with
    | running next due => rw [hs] at hd; cases hd
    | finished outcome => rfl
    | killed => rfl
  cases effect with
  | apply => simp only [Job.exert, happly]
  | mark => rfl
  | report => rfl

end Job

/-! ## A service that works on one job only -/

/-- What comes to nothing on the job comes to nothing on the service. -/
theorem InMemory.exert_of_same {s : InMemory} {effect : Job.Effect} {index now : Nat}
    (h : ∀ j, s.jobs[index]? = some j →
      j.exert effect s.delay now s.catalog none = (s.catalog, j, none)) :
    s.exert effect index now none = (s, none) := by
  cases hj : s.jobs[index]? with
  | none => exact exert_of_none hj effect now none
  | some j =>
    obtain ⟨hlt, hget⟩ := List.getElem?_eq_some_iff.mp hj
    have hset : s.jobs.set index j = s.jobs := by rw [← hget]; exact List.set_getElem_self hlt
    rw [exert_of_some hj, h j hj, hset]

theorem InMemory.exert_of_idle {s : InMemory} {index : Nat}
    (h : ∀ j, s.jobs[index]? = some j → j.due? = none) (effect : Job.Effect) (now : Nat) :
    s.exert effect index now none = (s, none) :=
  exert_of_same fun j hj => Job.exert_of_idle (h j hj) effect s.delay now

/-- Where no job is in the middle of a step, there is nothing to show. -/
theorem InMemory.exert_of_shown (s : InMemory) {effect : Job.Effect} (he : effect ≠ .apply)
    (index now : Nat) : s.exert effect index now none = (s, none) := by
  apply exert_of_same
  intro j _
  cases effect with
  | apply => exact absurd rfl he
  | mark => rfl
  | report => rfl

namespace Threads

variable {before : Catalog} {statements : List Text} {old : List Job} {k m : Nat} {j : Job}
  {s : InMemory} {t : Threads}

/-- An effect on the service in memory. -/
theorem move_work (hs : t.backend.schema = .inMemory s) (index : Nat) (effect : Job.Effect)
    (now : Nat) :
    move (.work index effect) now t
      = ⟨{ t.backend with schema := .inMemory (s.exert effect index now (t.unshown index)).1 },
          Function.update t.unshown index (s.exert effect index now (t.unshown index)).2⟩ := by
  simp only [move, hs]

/-- An effect that comes to nothing. -/
theorem move_work_of_same (hs : t.backend.schema = .inMemory s) {index : Nat} {effect : Job.Effect}
    {now : Nat} (h : s.exert effect index now (t.unshown index) = (s, t.unshown index)) :
    move (.work index effect) now t = t := by
  rw [move_work hs, h, ← hs, Function.update_eq_self]

/-- The services work on the last of their jobs, which has a thread of its own, and nothing else goes
on. -/
structure Carries (before : Catalog) (statements : List Text) (old : List Job) (k m : Nat) (j : Job)
    (s : InMemory) (t : Threads) : Prop where
  schema : t.backend.schema = .inMemory s
  jobs : s.jobs = old ++ [j]
  idle : ∀ j ∈ old, j.due? = none
  others : ∀ index, index ≠ old.length → t.unshown index = none
  works : j.Works before statements k m s.catalog (t.unshown old.length)

/-- A submission to services on which nothing goes on. -/
theorem submit_carries (hs : t.backend.schema = .inMemory s) (hrest : t.unshown = fun _ => none)
    (hidle : ∀ j ∈ s.jobs, j.due? = none) (hne : statements ≠ []) (now : Nat) :
    Carries s.catalog statements s.jobs 0 0 (Job.ofSubmission s.nextOperation statements s.delay now)
      (s.submit statements now).2 { t with backend := (t.backend.submit statements now).2 } where
  schema := by rw [Batch.submit_eq hs]
  jobs := rfl
  idle := hidle
  others index _ := congrFun hrest index
  works := by
    have hlast : t.unshown s.jobs.length = none := congrFun hrest _
    show Job.Works _ _ _ _ _ _ (t.unshown s.jobs.length)
    rw [hlast]
    exact Job.ofSubmission_works s.nextOperation hne s.delay now

/-- Before a submission the services have nothing to do. -/
theorem move_of_idle (hs : t.backend.schema = .inMemory s) (hrest : t.unshown = fun _ => none)
    (hidle : ∀ j ∈ s.jobs, j.due? = none) (move : Move) (now : Nat) :
    (Threads.move move now t).backend.schema = .inMemory s ∧
      (Threads.move move now t).unshown = fun _ => none := by
  cases move with
  | data database => exact ⟨hs, hrest⟩
  | work index effect =>
    have hsame : Threads.move (.work index effect) now t = t := by
      apply move_work_of_same hs
      rw [hrest]
      exact InMemory.exert_of_idle (fun j hj => hidle j (List.mem_of_getElem? hj)) effect now
    rw [hsame]
    exact ⟨hs, hrest⟩

theorem Carries.getElem?_jobs (h : t.Carries before statements old k m j s) :
    s.jobs[old.length]? = some j := by
  rw [h.jobs]
  exact List.getElem?_concat_length

/-- One effect on the job itself. -/
theorem Carries.work (h : t.Carries before statements old k m j s) (effect : Job.Effect)
    (now : Nat) :
    ∃ k' m' j' s', (move (.work old.length effect) now t).Carries before statements old k' m' j' s' ∧
      k ≤ k' ∧ (j.outcome? = some (.ok ()) → j'.outcome? = some (.ok ())) := by
  obtain ⟨k', m', hk, _, hworks⟩ := h.works.exert effect s.delay now
  have hover : j.outcome? = some (.ok ()) →
      (j.exert effect s.delay now s.catalog (t.unshown old.length)).2.1.outcome? = some (.ok ()) := by
    intro hover
    rw [h.works.exert_of_over (by rw [hover]; rfl)]
    exact hover
  rw [move_work h.schema, InMemory.exert_of_some h.getElem?_jobs]
  refine ⟨k', m', _, _, ⟨rfl, ?_, h.idle, ?_, ?_⟩, hk, hover⟩
  · show s.jobs.set old.length _ = _
    rw [h.jobs]
    simp
  · intro index hindex
    show Function.update t.unshown old.length _ index = none
    rw [Function.update_of_ne hindex]
    exact h.others index hindex
  · show Job.Works _ _ _ _ _ _ (Function.update t.unshown old.length _ old.length)
    rw [Function.update_self]
    exact hworks

/-- What the services do besides goes without effect. -/
theorem Carries.work_of_ne (h : t.Carries before statements old k m j s) {index : Nat}
    (hindex : index ≠ old.length) (effect : Job.Effect) (now : Nat) :
    move (.work index effect) now t = t := by
  apply move_work_of_same h.schema
  rw [h.others index hindex]
  apply InMemory.exert_of_idle
  intro j' hj'
  -- the jobs before the last have ended, and there are none behind it
  rw [h.jobs, List.getElem?_append] at hj'
  split at hj'
  · exact h.idle j' (List.mem_of_getElem? hj')
  · rw [List.getElem?_singleton, if_neg (by omega)] at hj'
    cases hj'

/-- **Whatever the services do**, they go on with the one job. What it shows is not taken back, and where no
job is in the middle of a step, it is the same until one begins. -/
theorem Carries.move (h : t.Carries before statements old k m j s) (move : Move) (now : Nat) :
    ∃ k' m' j' s', (Threads.move move now t).Carries before statements old k' m' j' s' ∧
      k ≤ k' ∧ (j.outcome? = some (.ok ()) → j'.outcome? = some (.ok ())) ∧
      ((∀ index, move ≠ .work index .apply) → (t.unshown = fun _ => none) →
        k' = k ∧ j'.outcome? = j.outcome? ∧ (Threads.move move now t).unshown = fun _ => none) := by
  cases move with
  | data database =>
    exact ⟨k, m, j, s, ⟨h.schema, h.jobs, h.idle, h.others, h.works⟩, Nat.le_refl _, id,
      fun _ hrest => ⟨rfl, rfl, hrest⟩⟩
  | work index effect =>
    by_cases hsame : Threads.move (.work index effect) now t = t
    · rw [hsame]
      exact ⟨k, m, j, s, h, Nat.le_refl _, id, fun _ hrest => ⟨rfl, rfl, hrest⟩⟩
    · -- something happens, so it is the one job, and it has something to show or begins a step
      have hindex : index = old.length := not_not.mp fun hne => hsame (h.work_of_ne hne effect now)
      subst hindex
      obtain ⟨k', m', j', s', h', hk, hover⟩ := h.work effect now
      refine ⟨k', m', j', s', h', hk, hover, ?_⟩
      intro hquiet hrest
      have heffect : effect ≠ .apply := fun he => hquiet old.length (congrArg _ he)
      refine absurd (move_work_of_same h.schema ?_) hsame
      rw [hrest]
      exact s.exert_of_shown heffect old.length now

section Operation

variable {service : InMemory} (h : t.Carries before statements service.jobs k m j s)
include h

/-- What the one job shows is what the service says of its operation. -/
theorem Carries.outcome?_eq : s.outcome? service.nextOperation = j.outcome? := by
  have hget : s.jobs[service.nextOperation.index]? = some j := h.getElem?_jobs
  simp only [InMemory.outcome?, hget, Option.bind_some]

theorem Carries.knownCounts_eq :
    knownCounts statements.length (s.progress service.nextOperation)
      = List.replicate k 1 ++ List.replicate (statements.length - k) 0 := by
  have hget : s.jobs[service.nextOperation.index]? = some j := h.getElem?_jobs
  have hprogress : s.progress service.nextOperation = .ok j.progress := by
    simp only [InMemory.progress, hget]
  obtain ⟨hkm, hm⟩ := h.works.standing.le
  rw [hprogress, SchemaBatch.knownCounts_eq]
  exact Job.counts_of_marks h.works.statements_eq h.works.marks (Nat.le_trans hkm hm)

end Operation

end Threads

/-! ## The thread of a run -/

namespace Batch

/-- What a run may report of a service that shows the first `k` statements as applied, and the outcome if
the operation is over. It was read at some time before, and if the run is `alone`, nothing has happened
since. -/
inductive Told (b : Batch) (alone : Prop) (k : Nat) (outcome : Option (Except Failure Unit)) :
    Except SessionError (List Int) → Prop where
  | whole (hover : outcome = some (.ok ())) : Told b alone k outcome (.ok b.fullCounts)
  | part {f : BatchFailure} {shown : Nat} (hshown : shown ≤ k)
      (hf : f.counts = List.replicate shown 1 ++ List.replicate (b.statements.length - shown) 0)
      (halone : alone → shown = k ∧ outcome ≠ some (.ok ())) :
      Told b alone k outcome (.error (.batchFailed f))

/-- A run that waits for its operation. If it was interrupted, it has been told. -/
structure Awaits (b : Batch) (operation : Operation) (now : Nat) (f : Frame)
    (e : Execution (List Int)) : Prop where
  body : ∃ since ≤ now, e.body = ⟨b.awaiting operation, since⟩
  ticket : e.ticket ∈ f.tickets
  told : e.windDown = none ∨ f.isSignalled e.ticket = true

/-- **Where a run is**, by what its thread does next, and what it knows by then of the operation. -/
inductive Follows (b : Batch) (operation : Operation) (alone : Prop) (now : Nat) (f : Frame) (k : Nat)
    (outcome : Option (Except Failure Unit)) : Caller (List Int) → Prop where
  | waits {e : Execution (List Int)} {next : Access (List Int)} (h : b.Awaits operation now f e)
      (hnext : next = .resume ∨ next = .ask) : Follows b operation alone now f k outcome ⟨e, next⟩
  /-- The operation was not over when it was asked for. -/
  | senses {e : Execution (List Int)} (h : b.Awaits operation now f e)
      (hover : alone → outcome ≠ some (.ok ())) :
      Follows b operation alone now f k outcome
        ⟨e, .sense ((afterInterruption b.statements operation).map b.withCounts)⟩
  | checks {e : Execution (List Int)} (h : b.Attends operation now e f) :
      Follows b operation alone now f k outcome ⟨e, .check⟩
  /-- The operation has ended well, and the progress is asked for. -/
  | confirms {e : Execution (List Int)} (hbody : ∃ since ≤ now,
        e.body = ⟨(afterWait b.statements operation (.ok ())).map b.withCounts, since⟩)
      (hover : outcome = some (.ok ())) : Follows b operation alone now f k outcome ⟨e, .ask⟩
  /-- It has not, and the progress is asked for to report it. -/
  | reports {e : Execution (List Int)} {code : StatusCode} {message : String} (hbody : ∃ since ≤ now,
        e.body = ⟨(reportFailure operation b.statements.length code message).map b.withCounts, since⟩)
      (hover : alone → outcome ≠ some (.ok ())) : Follows b operation alone now f k outcome ⟨e, .ask⟩
  | ends {e : Execution (List Int)} {result : Except SessionError (List Int)}
      (hbody : e.body.activity = .done result) (h : b.Told alone k outcome result) :
      Follows b operation alone now f k outcome ⟨e, .ask⟩
  | ended {e : Execution (List Int)} {result : Except SessionError (List Int)}
      (h : b.Told alone k outcome result) : Follows b operation alone now f k outcome ⟨e, .nothing result⟩

variable {b : Batch} {operation : Operation} {alone : Prop} {now : Nat} {f : Frame} {k : Nat}
  {outcome : Option (Except Failure Unit)}

/-- The frame does not change what is told. -/
theorem Told.recast {result : Except SessionError (List Int)} (h : b.Told alone k outcome result)
    (e : Execution (List Int)) : b.Told alone k outcome (e.recast result) := by
  unfold Execution.recast
  cases e.windDown with
  | none => exact h
  | some w =>
    cases h with
    | whole hover => exact .whole hover
    | @part failure shown hshown hf halone =>
      show b.Told alone k outcome (.error (w.cause.recast e.label (.batchFailed failure)))
      rw [Interruption.recast_batchFailed]
      exact .part hshown ((BatchFailure.counts_recast _ _ _).trans hf) halone

/-- What was told stays true as long as nothing is taken back; on a single thread, as long as nothing
happens. -/
theorem Told.later {alone' : Prop} {k' : Nat} {outcome' : Option (Except Failure Unit)}
    {result : Except SessionError (List Int)} (h : b.Told alone k outcome result) (hk : k ≤ k')
    (hover : outcome = some (.ok ()) → outcome' = some (.ok ()))
    (halone : alone' → alone ∧ k' = k ∧ outcome' = outcome) : b.Told alone' k' outcome' result := by
  cases h with
  | whole h => exact .whole (hover h)
  | part hshown hf h =>
    refine .part (Nat.le_trans hshown hk) hf ?_
    intro hthen
    obtain ⟨ha, rfl, rfl⟩ := halone hthen
    exact h ha

theorem Awaits.later {now' : Nat} {f' : Frame} {e : Execution (List Int)}
    (h : b.Awaits operation now f e) (hnow : now ≤ now')
    (hticket : e.ticket ∈ f.tickets → e.ticket ∈ f'.tickets)
    (hsignal : f.isSignalled e.ticket = true → f'.isSignalled e.ticket = true) :
    b.Awaits operation now' f' e := by
  obtain ⟨⟨since, hsince, hbody⟩, ht, htold⟩ := h
  exact ⟨⟨since, Nat.le_trans hsince hnow, hbody⟩, hticket ht, htold.imp_right hsignal⟩

/-- **What others do** leaves a run where it is. -/
theorem Follows.later {alone' : Prop} {now' : Nat} {f' : Frame} {k' : Nat}
    {outcome' : Option (Except Failure Unit)} {c : Caller (List Int)}
    (h : b.Follows operation alone now f k outcome c) (hnow : now ≤ now')
    (hticket : c.execution.ticket ∈ f.tickets → c.execution.ticket ∈ f'.tickets)
    (hsignal : f.isSignalled c.execution.ticket = true →
      f'.isSignalled c.execution.ticket = true)
    (hk : k ≤ k') (hover : outcome = some (.ok ()) → outcome' = some (.ok ()))
    (halone : alone' → alone ∧ (c.next = .resume ∨ k' = k ∧ outcome' = outcome)) :
    b.Follows operation alone' now' f' k' outcome' c := by
  have hunder : ∀ {since : Nat}, since ≤ now → since ≤ now' := fun h => Nat.le_trans h hnow
  cases h with
  | waits h hnext => exact .waits (h.later hnow hticket hsignal) hnext
  | senses h hgoes =>
    refine .senses (h.later hnow hticket hsignal) ?_
    intro hthen
    obtain ⟨ha, hnext | ⟨_, rfl⟩⟩ := halone hthen
    · cases hnext
    · exact hgoes ha
  | checks h =>
    obtain ⟨⟨since, hsince, hbody⟩, hw, ht⟩ := h
    exact .checks ⟨⟨since, hunder hsince, hbody⟩, hw, hticket ht⟩
  | confirms hbody h =>
    obtain ⟨since, hsince, hbody⟩ := hbody
    exact .confirms ⟨since, hunder hsince, hbody⟩ (hover h)
  | reports hbody hgoes =>
    obtain ⟨since, hsince, hbody⟩ := hbody
    refine .reports ⟨since, hunder hsince, hbody⟩ ?_
    intro hthen
    obtain ⟨ha, hnext | ⟨_, rfl⟩⟩ := halone hthen
    · cases hnext
    · exact hgoes ha
  | ends hbody h =>
    refine .ends hbody (h.later hk hover ?_)
    intro hthen
    obtain ⟨ha, hnext | hsame⟩ := halone hthen
    · cases hnext
    · exact ⟨ha, hsame⟩
  | ended h =>
    refine .ended (h.later hk hover ?_)
    intro hthen
    obtain ⟨ha, hnext | hsame⟩ := halone hthen
    · cases hnext
    · exact ⟨ha, hsame⟩

/-- In particular if the services stand still. -/
theorem Follows.still {alone' : Prop} {now' : Nat} {f' : Frame} {c : Caller (List Int)}
    (h : b.Follows operation alone now f k outcome c) (hnow : now ≤ now')
    (hticket : c.execution.ticket ∈ f.tickets → c.execution.ticket ∈ f'.tickets)
    (hsignal : f.isSignalled c.execution.ticket = true → f'.isSignalled c.execution.ticket = true)
    (halone : alone' → alone) : b.Follows operation alone' now' f' k outcome c :=
  h.later hnow hticket hsignal (Nat.le_refl _) id fun ha => ⟨halone ha, .inr ⟨rfl, rfl⟩⟩

section Access

variable {backend : Backend} {s : InMemory} (hb : backend.schema = .inMemory s)
include hb

/-- What a run that waits is told when it asks. -/
theorem Awaits.ask {e : Execution (List Int)} {next : Access (List Int)}
    (h : b.Awaits operation now f e) :
    ∃ c : Caller (List Int),
      Caller.ask Backend.remote now ⟨e, next⟩ f backend = (c, f, backend) ∧
      b.Follows operation alone now f k (s.outcome? operation) c := by
  obtain ⟨since, hsince, hbody⟩ := h.body
  have hactivity : e.body.activity = b.awaiting operation := congrArg Engaged.activity hbody
  have hready : Backend.remote.isReady (.waitFor operation) e.body.since now backend
      = (s.outcome? operation).isSome := by
    rw [hbody]
    exact isReady_waitFor hb hsince
  cases hover : s.outcome? operation with
  | none =>
    rw [hover] at hready
    have hwaiting : ¬ Backend.remote.isReady (.waitFor operation) e.body.since now backend = true := by
      rw [hready]
      exact Bool.false_ne_true
    refine ⟨_, Caller.ask_listen_of_waiting hactivity hwaiting, .senses h ?_⟩
    intro _ hok
    cases hok
  | some outcome =>
    rw [hover] at hready
    have houtcome : backend.outcome operation = outcome := by
      simp only [Backend.outcome, hb, hover, Option.getD_some]
    have hask : Caller.ask Backend.remote now ⟨e, next⟩ f backend
        = (⟨{ e with body := ⟨(afterWait b.statements operation (backend.outcome operation)).map
            b.withCounts, now⟩ }, .ask⟩, f, backend) :=
      Caller.ask_listen_of_ready (c := ⟨e, next⟩) hactivity hready
    rw [houtcome] at hask
    refine ⟨_, hask, ?_⟩
    cases outcome with
    | ok _ => exact .confirms ⟨now, Nat.le_refl _, rfl⟩ rfl
    | error failure =>
      refine .reports ⟨now, Nat.le_refl _, rfl⟩ ?_
      intro _ hok
      cases hok

/-- The service in memory tells at once how far an operation has come. -/
theorem ask_inspect {e : Execution (List Int)} {since : Nat} (hsince : since ≤ now)
    {next : Except Failure Progress → Activity (Except SessionError (List Int))}
    (hbody : e.body = ⟨.call (.inspect operation) next, since⟩) :
    Caller.ask Backend.remote now ⟨e, .ask⟩ f backend
      = (⟨{ e with body := ⟨next (s.progress operation), now⟩ }, .ask⟩, f, backend) := by
  have hready : Backend.remote.isReady (.inspect operation) e.body.since now backend = true := by
    simp [Remote.isReady, Backend.remote, Backend.due, hb, hbody, hsince]
  have hprogress : backend.progress operation = s.progress operation := by
    simp only [Backend.progress, hb]
  rw [← hprogress]
  have hactivity : e.body.activity = .call (.inspect operation) next :=
    congrArg Engaged.activity hbody
  exact Caller.ask_call_of_ready (c := ⟨e, .ask⟩) hactivity hready

/-- **One access** of a run keeps it on its way, and leaves the services as they are. -/
theorem Follows.access
    (hknown : knownCounts b.statements.length (s.progress operation)
      = List.replicate k 1 ++ List.replicate (b.statements.length - k) 0)
    {c : Caller (List Int)} (h : b.Follows operation alone now f k (s.outcome? operation) c) :
    ∃ c' f', c.access Backend.remote now f backend = (c', f', backend) ∧
      b.Follows operation alone now f' k (s.outcome? operation) c' := by
  cases h with
  | waits h hnext =>
    obtain ⟨c, hc, hfollows⟩ := h.ask hb
    refine ⟨c, f, ?_, hfollows⟩
    rcases hnext with rfl | rfl
    · exact hc
    · exact hc
  | @senses e h hgoes =>
    obtain ⟨since, hsince, hbody⟩ := h.body
    by_cases hsignal : f.isSignalled e.ticket = true
    · refine ⟨_, f, congrArg (·, f, backend) (if_pos hsignal), ?_⟩
      exact .reports ⟨now, Nat.le_refl _, rfl⟩ hgoes
    · refine ⟨_, f, congrArg (·, f, backend) (if_neg hsignal), ?_⟩
      exact .checks ⟨⟨since, hsince, hbody⟩, h.told.resolve_right hsignal, h.ticket⟩
  | @checks e h =>
    have hcheck : ∀ {c' : Caller (List Int)} {f' : Frame}, Caller.check now ⟨e, .check⟩ f = (c', f') →
        Caller.access Backend.remote now ⟨e, .check⟩ f backend = (c', f', backend) := by
      intro c' f' h
      exact congrArg (fun p : Caller (List Int) × Frame => (p.1, p.2, backend)) h
    cases hi : e.interruptedBy now f with
    | none =>
      exact ⟨_, f, hcheck (Caller.check_of_waiting h.windDown hi),
        .waits ⟨h.body, h.ticket, .inl h.windDown⟩ (.inl rfl)⟩
    | some cause =>
      refine ⟨_, _, hcheck (Caller.check_of_interrupted h.windDown hi), ?_⟩
      refine .waits ⟨h.body, ?_, .inr (Frame.isSignalled_signal h.ticket)⟩ (.inr rfl)
      rw [Frame.tickets_signal]
      exact h.ticket
  | confirms hbody hover =>
    obtain ⟨since, hsince, hbody⟩ := hbody
    exact ⟨_, f, ask_inspect hb hsince hbody, .ends rfl (.whole hover)⟩
  | reports hbody hgoes =>
    obtain ⟨since, hsince, hbody⟩ := hbody
    refine ⟨_, f, ask_inspect hb hsince hbody, .ends rfl ?_⟩
    exact .part (Nat.le_refl _) hknown fun ha => ⟨rfl, hgoes ha⟩
  | @ends e result hbody h =>
    exact ⟨_, _, Caller.ask_done hbody, .ended (h.recast e)⟩
  | ended h => exact ⟨_, f, rfl, .ended h⟩

end Access

/-! ## A run and its job -/

/-- **A run and its job**: it has not submitted anything yet, or it waits for the one job of the service or
has reported it. If the run is `alone`, a job is in the middle of a step only while the run has given
way. -/
inductive Runs (b : Batch) (before : InMemory) (alone : Prop) :
    Caller (List Int) → Scene Threads → Prop where
  | begins {e : Execution (List Int)} {scene : Scene Threads}
      (hschema : scene.state.backend.schema = .inMemory before)
      (hrest : scene.state.unshown = fun _ => none)
      (hbody : ∃ since ≤ scene.now, e.body = ⟨b.body, since⟩) (hw : e.windDown = none)
      (hticket : e.ticket ∈ scene.frame.tickets) : Runs b before alone ⟨e, .resume⟩ scene
  | underway {c : Caller (List Int)} {scene : Scene Threads} {k m : Nat} {j : Job} {s : InMemory}
      (hc : scene.state.Carries before.catalog b.statements before.jobs k m j s)
      (hf : b.Follows before.nextOperation alone scene.now scene.frame k
        (s.outcome? before.nextOperation) c)
      (hrest : alone → c.next ≠ .resume → scene.state.unshown = fun _ => none) :
      Runs b before alone c scene

section Run

variable {before s : InMemory} {t : Threads} {m : Nat} {j : Job} {c : Caller (List Int)}
  {scene : Scene Threads}

/-- **What a run does next** leaves it under way. -/
theorem Runs.look (hne : b.statements ≠ []) (hidle : ∀ j ∈ before.jobs, j.due? = none)
    (h : b.Runs before alone c scene) :
    b.Runs before (alone ∧ c.InTurn scene.state .look) (c.step Threads.services .look scene).1
      (c.step Threads.services .look scene).2 := by
  have hstep : c.step Threads.services .look scene
      = ((c.access Threads.remote scene.now scene.frame scene.state).1,
          { scene with
            frame := (c.access Threads.remote scene.now scene.frame scene.state).2.1
            state := (c.access Threads.remote scene.now scene.frame scene.state).2.2 }) := rfl
  rw [hstep, Caller.access_threads]
  cases h with
  | @begins e _ hschema hrest hbody hw hticket =>
    obtain ⟨since, hsince, hbody⟩ := hbody
    have hactivity : e.body.activity = _ := (congrArg Engaged.activity hbody).trans b.body_eq
    have hready : Backend.remote.isReady (.submit b.statements) e.body.since scene.now
        scene.state.backend = true := by
      rw [hbody]
      exact isReady_submit hschema b.statements hsince
    have hask : Caller.access Backend.remote scene.now ⟨e, .resume⟩ scene.frame scene.state.backend = _ :=
      Caller.ask_call_of_ready (c := ⟨e, .resume⟩) hactivity hready
    rw [hask]
    have hcarries := Threads.submit_carries hschema hrest hidle hne scene.now
    refine .underway hcarries ?_ fun _ _ => hrest
    show b.Follows before.nextOperation _ scene.now scene.frame 0 _
      ⟨{ e with body := ⟨(afterSubmission b.statements
        (scene.state.backend.submit b.statements scene.now).1).map b.withCounts, scene.now⟩ }, .ask⟩
    rw [submit_eq hschema]
    exact .waits ⟨⟨scene.now, Nat.le_refl _, rfl⟩, hticket, .inl hw⟩ (.inr rfl)
  | @underway _ _ k m j s hc hf hrest =>
    obtain ⟨c', f', haccess, hf'⟩ := hf.access hc.schema hc.knownCounts_eq
    rw [haccess]
    exact .underway hc (hf'.still (Nat.le_refl _) id id And.left) fun ha _ => ha.2

/-- **So does what others do.** -/
theorem Runs.others (hidle : ∀ j ∈ before.jobs, j.due? = none) (h : b.Runs before alone c scene)
    {happening : Happening Threads.Move} (hlook : happening ≠ .look) :
    b.Runs before (alone ∧ c.InTurn scene.state happening) c
      (scene.after Threads.services c.execution.ticket happening) := by
  cases h with
  | @begins e _ hschema hrest hbody hw hticket =>
    obtain ⟨since, hsince, hbody⟩ := hbody
    cases happening with
    | look => exact absurd rfl hlook
    | pass duration =>
      exact .begins hschema hrest ⟨since, Nat.le_trans hsince (Nat.le_add_right _ _), hbody⟩ hw hticket
    | act act => exact .begins hschema hrest ⟨since, hsince, hbody⟩ hw (Frame.mem_tickets_act hticket act)
    | move move =>
      obtain ⟨hschema', hrest'⟩ := Threads.move_of_idle hschema hrest hidle move scene.now
      exact .begins hschema' hrest' ⟨since, hsince, hbody⟩ hw hticket
  | @underway _ _ k m j s hc hf hrest =>
    cases happening with
    | look => exact absurd rfl hlook
    | pass duration =>
      exact .underway hc (hf.still (Nat.le_add_right _ _) id id And.left) fun ha => hrest ha.1
    | act act =>
      exact .underway hc (hf.still (Nat.le_refl _) (Frame.mem_tickets_act · act)
        (Frame.isSignalled_act_of_isSignalled · act) And.left) fun ha => hrest ha.1
    | move move =>
      obtain ⟨k', m', j', s', hc', hk, hover, hsame⟩ := hc.move move scene.now
      -- on a single thread, a job begins a step only while the run has given way
      have hquiet : (alone ∧ c.InTurn scene.state (.move move)) → c.next ≠ .resume →
          ∀ index, move ≠ .work index .apply := by
        rintro ⟨_, hturn⟩ hnext index rfl
        obtain ⟨⟨e, rfl⟩, _⟩ := hturn
        exact hnext rfl
      refine .underway hc' (hf.later (Nat.le_refl _) id id hk ?_ ?_) ?_
      · rw [hc.outcome?_eq, hc'.outcome?_eq]
        exact hover
      · intro ha
        refine ⟨ha.1, ?_⟩
        rw [hc.outcome?_eq, hc'.outcome?_eq]
        by_cases hnext : c.next = .resume
        · exact .inl hnext
        · obtain ⟨hk', hover', _⟩ := hsame (hquiet ha hnext) (hrest ha.1 hnext)
          exact .inr ⟨hk', hover'⟩
      · intro ha hnext
        obtain ⟨_, _, hrest'⟩ := hsame (hquiet ha hnext) (hrest ha.1 hnext)
        exact hrest'

/-- **Along a schedule.** -/
theorem Runs.follow (hne : b.statements ≠ []) (hidle : ∀ j ∈ before.jobs, j.due? = none)
    (schedule : List (Happening Threads.Move)) (h : b.Runs before alone c scene) :
    b.Runs before (alone ∧ c.OneThread schedule scene)
      (c.follow Threads.services schedule scene).1
      (c.follow Threads.services schedule scene).2 := by
  induction schedule generalizing alone c scene with
  | nil =>
    have hsame : (alone ∧ c.OneThread [] scene) = alone := and_true _
    rw [hsame]
    exact h
  | cons happening schedule ih =>
    have hstep : b.Runs before (alone ∧ c.InTurn scene.state happening)
        (c.step Threads.services happening scene).1 (c.step Threads.services happening scene).2 := by
      cases happening with
      | look => exact h.look hne hidle
      | pass duration => exact h.others hidle nofun
      | act act => exact h.others hidle nofun
      | move move => exact h.others hidle nofun
    have hsame : (alone ∧ c.OneThread (happening :: schedule) scene)
        = ((alone ∧ c.InTurn scene.state happening) ∧ Caller.OneThread schedule
            (c.step Threads.services happening scene).1
            (c.step Threads.services happening scene).2) := and_assoc.symm.eq
    rw [hsame]
    exact ih hstep

end Run

/-! ## What a run says -/

/-- The result of a run vouches for its first `k` statements. An error may vouch for all of them: all are
marked, and the run has not heard that its operation is over. -/
inductive Vouches (b : Batch) (k : Nat) :
    Except SessionError (List Int) → BatchState → Prop where
  | whole (hk : k = b.statements.length) :
      Vouches b k (.ok (List.replicate b.statements.length 1)) .ran
  | part {f : BatchFailure} (hk : k ≤ b.statements.length)
      (hf : f.counts = List.replicate k 1 ++ List.replicate (b.statements.length - k) 0) :
      Vouches b k (.error (.batchFailed f)) .runFailed

/-- What the result of a run vouches for was applied, in order, and perhaps more. -/
def VouchedBy (b : Batch) (before : Catalog) (backend : Backend)
    (result : Except SessionError (List Int)) : Prop :=
  ∃ k m catalog, k ≤ m ∧ m ≤ b.statements.length ∧ backend.schema.catalog? = some catalog ∧
    before.applyAll (b.statements.take m) = .ok catalog ∧
    b.Vouches k result (b.conclude result).state

section Result

variable {before s : InMemory} {t : Threads} {m : Nat} {j : Job}
  {result : Except SessionError (List Int)}

/-- What a run was told, it vouches for. -/
theorem Told.vouched (h : b.Told alone k (s.outcome? before.nextOperation) result)
    (hc : t.Carries before.catalog b.statements before.jobs k m j s) :
    b.VouchedBy before.catalog t.backend result := by
  obtain ⟨hkm, hm⟩ := hc.works.standing.le
  have hcatalog : t.backend.schema.catalog? = some s.catalog := by
    rw [hc.schema]
    rfl
  cases h with
  | whole hover =>
    rw [hc.outcome?_eq] at hover
    obtain ⟨hk, _⟩ := hc.works.of_done hover
    exact ⟨k, m, s.catalog, hkm, hm, hcatalog, hc.works.catalog, .whole hk⟩
  | @part f shown hshown hf _ =>
    exact ⟨shown, m, s.catalog, Nat.le_trans hshown hkm, hm, hcatalog, hc.works.catalog,
      .part (Nat.le_trans hshown (Nat.le_trans hkm hm)) hf⟩

/-- Where nothing has happened since and no job is in the middle of a step, nothing else was applied. -/
theorem Told.settled (h : b.Told True k (s.outcome? before.nextOperation) result)
    (hc : t.Carries before.catalog b.statements before.jobs k m j s)
    (hrest : t.unshown = fun _ => none) : b.SettledWith before.catalog t.backend result := by
  have hworks := hc.works
  rw [hrest] at hworks
  obtain ⟨rfl, hstands⟩ := hworks.at_rest
  have hcatalog : t.backend.schema.catalog? = some s.catalog := by
    rw [hc.schema]
    rfl
  cases h with
  | whole hover =>
    rw [hc.outcome?_eq] at hover
    obtain ⟨hk, _⟩ := hc.works.of_done hover
    exact ⟨m, s.catalog, hcatalog, hstands.catalog, .all hk⟩
  | @part f shown _ hf halone =>
    obtain ⟨rfl, hover⟩ := halone trivial
    rw [hc.outcome?_eq] at hover
    refine ⟨shown, s.catalog, hcatalog, hstands.catalog, .some ?_ hf⟩
    rcases hstands.state with ⟨hk, _⟩ | ⟨_, hs⟩ | ⟨hk, _⟩
    · exact hk
    · exact absurd (by rw [Job.outcome?, hs]) hover
    · exact hk

/-- A run that has ended says what it was told. -/
theorem Runs.accounted {c : Caller (List Int)} {scene : Scene Threads}
    (h : b.Runs before alone c scene) (hr : c.result? = some result) :
    b.VouchedBy before.catalog scene.state.backend result ∧
      (alone → b.SettledWith before.catalog scene.state.backend result) := by
  cases h with
  | begins => cases hr
  | underway hc hf hrest =>
    cases hf with
    | waits _ hnext =>
      rcases hnext with rfl | rfl
      · cases hr
      · cases hr
    | senses => cases hr
    | checks => cases hr
    | confirms => cases hr
    | reports => cases hr
    | ends => cases hr
    | ended htold =>
      cases hr
      refine ⟨htold.vouched hc, ?_⟩
      intro ha
      exact (htold.later (Nat.le_refl _) id fun _ => ⟨ha, rfl, rfl⟩).settled hc (hrest ha nofun)

end Result

end Batch

end SchemaBatch
