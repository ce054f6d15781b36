import SchemaBatch.Service.InMemory

/-!
# `Proofs.InMemoryJob` — a job and the catalog it works on

While a job works on a catalog alone, its marks say how far the catalog has come: with `k` statements
marked, the catalog is the one that the first `k` statements lead to. This holds before, between and
after the steps of the job, also after the one that is refused.

* `Progress.isMarked_record` — a recorded statement is marked, and no other changes.
* `Catalog.applyAll` — statements applied in order, up to the first that is refused.
* `Job.step_eq` — a step of a job, with its three effects taken together.
* `Job.Stands` — the invariant of a job; `Job.Stands.step`, **a step keeps it**.
* `InMemory.Carries` — a service that works on one job only; `InMemory.Carries.step_any` and
  `InMemory.Carries.advance`, which makes all steps that are due.
-/

namespace SchemaBatch

/-! ## Marks -/

namespace Progress

theorem getElem?_markAt (t : Timestamp) (index : Nat) (marks : List (Option Timestamp)) (i : Nat) :
    ((markAt t index marks)[i]?).join = if i = index then some t else (marks[i]?).join := by
  -- by induction on the position, as `markAt` goes through the marks
  induction index generalizing marks i with
  | zero =>
    cases marks with
    | nil => cases i <;> simp [markAt]
    | cons m marks => cases i <;> simp [markAt]
  | succ index ih =>
    cases marks with
    | nil =>
      cases i with
      | zero => simp [markAt]
      | succ i => simpa [markAt] using ih [] i
    | cons m marks =>
      cases i with
      | zero => simp [markAt]
      | succ i => simpa [markAt] using ih marks i

theorem mark?_record (p : Progress) (index : Nat) (t : Timestamp) (i : Nat) :
    (p.record index t).mark? i = if i = index then some t else p.mark? i :=
  getElem?_markAt t index p.marks i

/-- **Recording marks one statement**, and the marks of the others stay as they are. -/
theorem isMarked_record (p : Progress) (index : Nat) (t : Timestamp) (i : Nat) :
    (p.record index t).isMarked i = (decide (i = index) || p.isMarked i) := by
  unfold isMarked
  rw [mark?_record]
  by_cases h : i = index
  · simp [h]
  · simp [h]

/-- With the first `k` statements marked, the next one makes it one more. -/
theorem isMarked_record_next {p : Progress} {k : Nat}
    (h : ∀ i, p.isMarked i = decide (i < k)) (t : Timestamp) (i : Nat) :
    (p.record k t).isMarked i = decide (i < k + 1) := by
  rw [isMarked_record, h i, ← Bool.decide_or]
  exact decide_eq_decide.mpr (by omega)

end Progress

/-! ## Catalogs -/

namespace Catalog

/-- Applies statements in order, up to the first that is refused. -/
def applyAll (c : Catalog) (statements : List Text) : Except Status Catalog :=
  statements.foldlM applyText c

theorem applyAll_append (c : Catalog) (s₁ s₂ : List Text) :
    c.applyAll (s₁ ++ s₂) = (c.applyAll s₁).bind fun c => c.applyAll s₂ :=
  List.foldlM_append

/-- One more statement is applied to what the first ones lead to. -/
theorem applyAll_take_succ {c c₁ : Catalog} {statements : List Text} {k : Nat} {statement : Text}
    (hk : statements[k]? = some statement) (h : c.applyAll (statements.take k) = .ok c₁) :
    c.applyAll (statements.take (k + 1)) = c₁.applyText statement := by
  rw [List.take_add_one, hk, Option.toList_some, applyAll_append, h]
  change (c₁.applyText statement).bind _ = _
  cases c₁.applyText statement <;> rfl

end Catalog

/-! ## Jobs -/

namespace Job

/-- What a job is after the step that applies its statement at `next`. The last one ends the job. -/
def applied (j : Job) (next : Nat) (delay now : Nat) : Job :=
  { j with
    progress := j.progress.record next (Timestamp.ofMillis now)
    state :=
      if next + 1 < j.statements.length then .running (next + 1) (now + delay)
      else .finished (.ok ()) }

/-- **A step of a job, with its three effects taken together.** -/
theorem step_eq (c : Catalog) (delay now : Nat) (j : Job) :
    j.step c delay now =
      match j.state with
      | .running next _ =>
        match j.statements[next]? with
        | none => (c, { j with state := .finished (.ok ()) })
        | some statement =>
          match c.applyText statement with
          | .ok c => (c, j.applied next delay now)
          | .error status => (c, { j with state := .finished (.error status) })
      | _ => (c, j) := by
  cases hs : j.state with
  | running next due =>
    cases ht : j.statements[next]? with
    | none => simp only [step, applyNext, hs, ht, mark, report]
    | some statement =>
      cases hc : c.applyText statement with
      | error status => simp only [step, applyNext, hs, ht, hc, mark, report]
      | ok after =>
        -- the mark comes first, whether the job waits again or ends
        simp only [step, applyNext, hs, ht, hc, mark, applied]
        split <;> rfl
  | finished outcome => simp only [step, applyNext, hs, mark, report]
  | killed => simp only [step, applyNext, hs, mark, report]

/-- What a job shows of its work so far, after its first `k` statements were applied to a catalog that
was `before` when the job began and is `c` now. -/
structure Stands (before : Catalog) (statements : List Text) (k : Nat) (c : Catalog) (j : Job) :
    Prop where
  statements_eq : j.statements = statements
  /-- The statements that were applied are marked, and no others. -/
  marks : ∀ i, j.progress.isMarked i = decide (i < k)
  /-- The catalog is the one that they lead to. -/
  catalog : before.applyAll (statements.take k) = .ok c
  /-- The job goes on with the next statement, or has ended: well after the last one, and with an
  error before that. -/
  state : (k < statements.length ∧ ∃ due, j.state = .running k due) ∨
    (k = statements.length ∧ j.state = .finished (.ok ())) ∨
    (k < statements.length ∧ ∃ status, j.state = .finished (.error status))

variable {before c : Catalog} {statements : List Text} {k : Nat} {j : Job}

theorem ofSubmission_stands (operation : Operation) (hne : statements ≠ []) (delay now : Nat) :
    (ofSubmission operation statements delay now).Stands before statements 0 before where
  statements_eq := rfl
  marks i := by
    rw [decide_eq_false (Nat.not_lt_zero i)]
    rfl
  catalog := rfl
  state := .inl ⟨List.length_pos_iff.mpr hne, _, rfl⟩

theorem Stands.le_length (h : j.Stands before statements k c) : k ≤ statements.length := by
  rcases h.state with ⟨hk, _⟩ | ⟨rfl, _⟩ | ⟨hk, _⟩
  · exact Nat.le_of_lt hk
  · exact Nat.le_refl _
  · exact Nat.le_of_lt hk

/-- A job that goes on goes on with its next statement. -/
theorem Stands.running (h : j.Stands before statements k c) {due : Nat} (hd : j.due? = some due) :
    k < statements.length ∧ j.state = .running k due := by
  unfold due? at hd
  rcases h.state with ⟨hk, due', hs⟩ | ⟨_, hs⟩ | ⟨_, status, hs⟩
  · rw [hs] at hd
    cases hd
    exact ⟨hk, hs⟩
  · rw [hs] at hd; cases hd
  · rw [hs] at hd; cases hd

/-- A job that does not go on is left alone by a step. -/
theorem step_of_idle (hd : j.due? = none) (delay now : Nat) : j.step c delay now = (c, j) := by
  unfold due? at hd
  rw [step_eq]
  cases hs : j.state with
  | running next due => rw [hs] at hd; cases hd
  | finished outcome => rfl
  | killed => rfl

/-- **A step of a job.** A job that goes on gets on by one statement and comes back after a delay or
has ended; the catalog follows. -/
theorem Stands.step (h : j.Stands before statements k c) {due : Nat} (hd : j.due? = some due)
    (delay now : Nat) :
    ∃ k', (j.step c delay now).2.Stands before statements k' (j.step c delay now).1 ∧
      ((j.step c delay now).2.due? = none ∨
        (k' = k + 1 ∧ (j.step c delay now).2.due? = some (now + delay))) := by
  obtain ⟨hk, hstate⟩ := h.running hd
  have hlen : j.statements[k]? = some statements[k] := by
    rw [h.statements_eq]
    exact List.getElem?_eq_getElem hk
  have hnext := Catalog.applyAll_take_succ (List.getElem?_eq_getElem hk) h.catalog
  cases ha : c.applyText statements[k] with
  | error status =>
    -- the refused statement leaves the catalog and the marks as they are
    have hstep : j.step c delay now = (c, { j with state := .finished (.error status) }) := by
      simp only [step_eq, hstate, hlen, ha]
    rw [hstep]
    refine ⟨k, ⟨h.statements_eq, h.marks, h.catalog, ?_⟩, .inl rfl⟩
    exact .inr (.inr ⟨hk, status, rfl⟩)
  | ok c' =>
    -- the statement is marked, and the job ends if it was the last
    have hstep : j.step c delay now = (c', j.applied k delay now) := by
      simp only [step_eq, hstate, hlen, ha]
    rw [hstep]
    have hmarks : ∀ i, (j.applied k delay now).progress.isMarked i = decide (i < k + 1) :=
      Progress.isMarked_record_next h.marks (Timestamp.ofMillis now)
    have hafter : (j.applied k delay now).state =
        if k + 1 < statements.length then .running (k + 1) (now + delay)
        else .finished (.ok ()) := by
      rw [← h.statements_eq]
      rfl
    refine ⟨k + 1, ⟨h.statements_eq, hmarks, hnext.trans ha, ?_⟩, ?_⟩
    · by_cases hlast : k + 1 < statements.length
      · rw [if_pos hlast] at hafter
        exact .inl ⟨hlast, _, hafter⟩
      · rw [if_neg hlast] at hafter
        exact .inr (.inl ⟨by omega, hafter⟩)
    · dsimp only
      unfold due?
      rw [hafter]
      by_cases hlast : k + 1 < statements.length
      · rw [if_pos hlast]; exact .inr ⟨rfl, rfl⟩
      · rw [if_neg hlast]; exact .inl rfl

/-- A job that is due at its pace ends by the limit: after the next statement each of the others takes
one delay. -/
def InTime (limit delay : Nat) (statements : List Text) (k : Nat) (j : Job) : Prop :=
  ∀ due, j.due? = some due → due + (statements.length - (k + 1)) * delay ≤ limit

theorem inTime_of_idle {limit delay : Nat} (hd : j.due? = none) :
    j.InTime limit delay statements k := by
  intro due hdue
  cases hd.symm.trans hdue

/-- The first statement of a new job is due after one delay, and each of the others takes one more. -/
theorem ofSubmission_inTime (operation : Operation) (hne : statements ≠ [])
    {limit delay now : Nat} (hlimit : now + statements.length * delay ≤ limit) :
    (ofSubmission operation statements delay now).InTime limit delay statements 0 := by
  intro due hd
  have hdue : now + delay = due := by
    have hempty : statements.isEmpty = false := by simpa using hne
    simpa [ofSubmission, due?, hempty] using hd
  obtain ⟨m, hm⟩ := Nat.exists_eq_add_of_lt (List.length_pos_iff.mpr hne)
  rw [hm] at hlimit ⊢
  show due + (0 + m + 1 - (0 + 1)) * delay ≤ limit
  rw [Nat.succ_mul] at hlimit
  rw [Nat.add_sub_cancel, ← hdue]
  omega

/-- A step that is made when it is due keeps the time. -/
theorem InTime.step {limit delay due : Nat} {j' : Job} (ht : j.InTime limit delay statements k)
    (hd : j.due? = some due) (hk : k + 1 < statements.length) (hd' : j'.due? = some (due + delay)) :
    j'.InTime limit delay statements (k + 1) := by
  intro due' hdue'
  obtain rfl : due + delay = due' := Option.some.inj (hd'.symm.trans hdue')
  have hlimit := ht due hd
  -- one statement less is left, and one delay later
  have hrest : statements.length - (k + 1) = statements.length - (k + 1 + 1) + 1 := by omega
  rw [hrest, Nat.succ_mul] at hlimit
  omega

theorem Stands.workload (h : j.Stands before statements k c) {due : Nat}
    (hd : j.due? = some due) : j.workload = statements.length - k + 1 := by
  obtain ⟨_, hs⟩ := h.running hd
  unfold Job.workload
  rw [hs, ← h.statements_eq]

theorem workload_of_idle (hd : j.due? = none) : j.workload = 0 := by
  unfold due? at hd
  unfold Job.workload
  cases hs : j.state with
  | running next due => rw [hs] at hd; cases hd
  | finished outcome => rfl
  | killed => rfl

end Job

/-! ## A service that works on one job only -/

namespace InMemory

/-- The service works on the last of its jobs, and nothing else goes on. -/
structure Carries (before : Catalog) (statements : List Text) (old : List Job) (k : Nat) (j : Job)
    (s : InMemory) : Prop where
  jobs : s.jobs = old ++ [j]
  idle : ∀ j ∈ old, j.due? = none
  stands : j.Stands before statements k s.catalog

variable {before : Catalog} {statements : List Text} {old : List Job} {k : Nat} {j : Job}
  {s : InMemory}

/-- A submission to a service on which nothing goes on. -/
theorem submit_carries (hidle : ∀ j ∈ s.jobs, j.due? = none) (hne : statements ≠ []) (now : Nat) :
    (s.submit statements now).2.Carries s.catalog statements s.jobs 0
      (Job.ofSubmission s.nextOperation statements s.delay now) where
  jobs := rfl
  idle := hidle
  stands := Job.ofSubmission_stands s.nextOperation hne s.delay now

theorem step_of_idle {index : Nat} (h : ∀ j, s.jobs[index]? = some j → j.due? = none) (now : Nat) :
    s.step index now = s := by
  unfold step
  split
  · rfl
  · rename_i j hj
    rw [Job.step_of_idle (h j hj)]
    obtain ⟨hlt, hget⟩ := List.getElem?_eq_some_iff.mp hj
    have hset : s.jobs.set index j = s.jobs := by rw [← hget]; exact List.set_getElem_self hlt
    simp only [hset]

theorem step_last (hjobs : s.jobs = old ++ [j]) (now : Nat) :
    s.step old.length now = { s with
      catalog := (j.step s.catalog s.delay now).1
      jobs := old ++ [(j.step s.catalog s.delay now).2] } := by
  have hget : s.jobs[old.length]? = some j := by rw [hjobs]; simp
  have hset : ∀ j', s.jobs.set old.length j' = old ++ [j'] := by
    intro j'
    rw [hjobs]
    simp
  simp only [step, hget, hset]

/-- A step of the job itself. -/
theorem Carries.step (h : s.Carries before statements old k j) {due : Nat}
    (hd : j.due? = some due) (now : Nat) :
    ∃ k' j', (s.step old.length now).Carries before statements old k' j' ∧
      (j'.due? = none ∨ (k' = k + 1 ∧ j'.due? = some (now + s.delay))) := by
  obtain ⟨k', hstands, hdue⟩ := h.stands.step hd s.delay now
  rw [step_last h.jobs]
  exact ⟨k', _, ⟨rfl, h.idle, hstands⟩, hdue⟩

/-- **A step of whatever job** leaves the service at work on the one job only. -/
theorem Carries.step_any (h : s.Carries before statements old k j) (index now : Nat) :
    ∃ k' j', (s.step index now).Carries before statements old k' j' := by
  by_cases hi : index = old.length
  · subst hi
    cases hd : j.due? with
    | none =>
      have hstep : s.step old.length now = s := by
        apply step_of_idle
        intro j' hj'
        rw [h.jobs, List.getElem?_concat_length] at hj'
        obtain rfl := Option.some.inj hj'
        exact hd
      exact ⟨k, j, hstep.symm ▸ h⟩
    | some due =>
      obtain ⟨k', j', h', _⟩ := h.step hd now
      exact ⟨k', j', h'⟩
  · -- the jobs before the last have ended, and there are none behind it
    have hstep : s.step index now = s := by
      apply step_of_idle
      intro j' hj'
      rw [h.jobs, List.getElem?_append] at hj'
      split at hj'
      · exact h.idle j' (List.mem_of_getElem? hj')
      · rw [List.getElem?_singleton, if_neg (by omega)] at hj'
        cases hj'
    exact ⟨k, j, hstep.symm ▸ h⟩

theorem step_delay (s : InMemory) (index now : Nat) : (s.step index now).delay = s.delay := by
  unfold step
  split <;> rfl

/-! ### All steps that are due -/

/-- The job is the only one on the agenda. -/
theorem Carries.earliest?_eq (h : s.Carries before statements old k j) :
    s.earliest? = j.due?.map fun due => (due, old.length) := by
  -- the jobs before it have ended, so they are not on the agenda
  have hold : (old.mapIdx fun i j => j.due?.map fun due => (due, i)).filterMap id = [] := by
    rw [List.filterMap_eq_nil_iff]
    intro item hitem
    obtain ⟨i, hi, rfl⟩ := List.mem_mapIdx.mp hitem
    rw [h.idle _ (List.getElem_mem hi)]
    rfl
  have hagenda : s.agenda = (j.due?.map fun due => (due, old.length)).toList := by
    unfold agenda
    rw [h.jobs, List.mapIdx_concat, List.filterMap_append, hold]
    cases j.due? <;> rfl
  unfold earliest?
  rw [hagenda]
  cases j.due? <;> rfl

theorem Carries.workload_eq (h : s.Carries before statements old k j) :
    s.workload = j.workload := by
  have hold : ∀ (jobs : List Job) (n : Nat), (∀ j ∈ jobs, j.due? = none) →
      jobs.foldr (fun j n => j.workload + n) n = n := by
    intro jobs n hjobs
    induction jobs with
    | nil => rfl
    | cons j jobs ih =>
      rw [List.foldr_cons, Job.workload_of_idle (hjobs j List.mem_cons_self),
        ih fun j hj => hjobs j (List.mem_cons_of_mem _ hj), Nat.zero_add]
  unfold workload
  rw [h.jobs, List.foldr_append, hold old _ h.idle]
  rfl

/-- With steps enough for what is left of the job, all that is due gets done, and in time. -/
theorem Carries.advanceFor (now : Nat) {limit : Nat} (fuel : Nat)
    (h : s.Carries before statements old k j) (ht : j.InTime limit s.delay statements k)
    (hfuel : j.workload ≤ fuel) :
    ∃ k' j', (s.advanceFor now fuel).Carries before statements old k' j' ∧
      j'.InTime limit (s.advanceFor now fuel).delay statements k' ∧
      ∀ due, j'.due? = some due → now < due := by
  -- each step that is due costs one unit, and a job has no more steps than its workload
  induction fuel generalizing s k j with
  | zero =>
    refine ⟨k, j, h, ht, ?_⟩
    intro due hd
    have hwork := h.stands.workload hd
    omega
  | succ fuel ih =>
    unfold InMemory.advanceFor
    rw [h.earliest?_eq]
    cases hd : j.due? with
    | none =>
      refine ⟨k, j, h, ht, ?_⟩
      intro due hdue
      cases hd.symm.trans hdue
    | some due =>
      dsimp only [Option.map_some]
      by_cases hnow : due ≤ now
      · rw [if_pos hnow]
        have hwork := h.stands.workload hd
        obtain ⟨hk, _⟩ := h.stands.running hd
        obtain ⟨k', j', h', hdue'⟩ := h.step hd due
        -- the job has ended, or has one statement less to go
        rcases hdue' with hdue' | ⟨rfl, hdue'⟩
        · refine ih h' (Job.inTime_of_idle hdue') ?_
          rw [Job.workload_of_idle hdue']
          exact Nat.zero_le _
        · obtain ⟨hk', _⟩ := h'.stands.running hdue'
          refine ih h' ?_ ?_
          · rw [step_delay]
            exact ht.step hd hk' hdue'
          · rw [h'.stands.workload hdue']
            omega
      · rw [if_neg hnow]
        refine ⟨k, j, h, ht, ?_⟩
        intro due' hdue'
        cases hd.symm.trans hdue'
        exact Nat.lt_of_not_le hnow

/-- **All steps that are due**: the job keeps its pace, and what it has left is still to come. -/
theorem Carries.advance (h : s.Carries before statements old k j) {limit : Nat}
    (ht : j.InTime limit s.delay statements k) (now : Nat) :
    ∃ k' j', (s.advance now).Carries before statements old k' j' ∧
      j'.InTime limit (s.advance now).delay statements k' ∧
      ∀ due, j'.due? = some due → now < due :=
  h.advanceFor now s.workload ht (Nat.le_of_eq h.workload_eq.symm)

end InMemory
end SchemaBatch
