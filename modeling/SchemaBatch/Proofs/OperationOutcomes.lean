import SchemaBatch.Proofs.ServiceHistory
import SchemaBatch.Backend

/-!
# `Proofs.OperationOutcomes` — how the operations of a service end

An operation ends in one of three ways: its statements are applied, one of them is refused, or its job
is killed. Each of them can be told from the history of the service, and once it has come about it stays
and is what every wait is answered with.

* `Operation.refusal`, `Operation.abandonment` — what a wait is told of an operation that failed.
* `InMemory.Refuses`, `InMemory.Stops`, `InMemory.Concludes` — the moments at which a job ends other
  than with its last statement. `InMemory.came_about` — a job is what only such a moment makes of it
  exactly if there was one.
* `InMemory.undergo_of_ended` — **a job that has ended stays as it is**, and logs nothing more.
  `InMemory.Chronicle.mark_stays` — **marks never disappear**. `InMemory.opened` — every job was
  submitted, and its handle given out.
* `InMemory.waitFor_of_ended`, `InMemory.waitFor_of_running` — what a wait is answered with, and when.
* `InMemory.Accounted` — all that a history says of one operation; `InMemory.accounted`, **it holds of
  every operation in every history**.
-/

namespace SchemaBatch

/-! ## Answers to a wait -/

namespace Operation

/-- What waiting is answered with after a statement was refused. -/
def refusal (operation : Operation) (status : Status) : Failure :=
  Failure.ofAccounts [.other ("Operation " ++ operation.name ++ " failed"), .status status]

/-- What waiting is answered with after the job was killed. -/
def abandonment (operation : Operation) : Failure :=
  Failure.ofStatus ⟨.internal, "Operation " ++ operation.name ++ " was abandoned"⟩

/-- A refusal reports the error of the statement. -/
theorem status?_refusal (operation : Operation) (status : Status) :
    (operation.refusal status).status? = some status := rfl

theorem code_abandonment (operation : Operation) : operation.abandonment.code = .internal := rfl

end Operation

namespace Job

variable {j : Job}

theorem outcome?_eq_ok : j.outcome? = some (.ok ()) ↔ j.state = .finished (.ok ()) := by
  unfold outcome?
  cases j.state with
  | running next due => simp
  | finished outcome => cases outcome <;> simp
  | killed => simp

theorem outcome?_eq_refusal {status : Status} :
    j.outcome? = some (.error (j.operation.refusal status)) ↔
      j.state = .finished (.error status) := by
  unfold outcome?
  cases j.state with
  | running next due => simp
  | finished outcome =>
    cases outcome <;> simp [Operation.refusal, Failure.ofAccounts]
  | killed => simp [Operation.refusal, Failure.ofAccounts, Failure.ofStatus]

theorem outcome?_eq_abandonment :
    j.outcome? = some (.error j.operation.abandonment) ↔ j.state = .killed := by
  unfold outcome?
  cases j.state with
  | running next due => simp
  | finished outcome =>
    cases outcome <;> simp [Operation.abandonment, Failure.ofAccounts, Failure.ofStatus]
  | killed => simp [Operation.abandonment]

theorem outcome?_eq_none : j.outcome? = none ↔ ∃ k due, j.state = .running k due := by
  unfold outcome?
  cases j.state with
  | running next due => simp
  | finished outcome => cases outcome <;> simp
  | killed => simp

/-- A job goes on just as long as its end is not known. -/
theorem due?_eq_none : j.due? = none ↔ j.outcome? ≠ none := by
  rw [Ne, outcome?_eq_none]
  constructor
  · rintro hd ⟨k, due, hs⟩
    cases (due?_of_running hs).symm.trans hd
  · intro hno
    cases hs : j.state with
    | running k due => exact absurd ⟨k, due, hs⟩ hno
    | finished outcome => rw [due?, hs]
    | killed => rw [due?, hs]

end Job

namespace InMemory

variable {s : InMemory} {i : Nat} {j : Job}

/-! ## The ways to end -/

/-- The job at a position is refused its statement at `k`, by the catalog as it stands. -/
def Refuses (i k : Nat) (status : Status) (s : InMemory) (d : Deed) : Prop :=
  ∃ j, s.jobs[i]? = some j ∧ ∃ due statement now, j.state = .running k due ∧
    j.statements[k]? = some statement ∧ s.catalog.applyText statement = .error status ∧
    d = .work i now

/-- The job at a position is killed while it goes on. -/
def Stops (i : Nat) (s : InMemory) (d : Deed) : Prop :=
  ∃ j, s.jobs[i]? = some j ∧ j.outcome? = none ∧ d = .kill i

/-- The job at a position, which has no statements, finds that it is at its end. -/
def Concludes (i : Nat) (s : InMemory) (d : Deed) : Prop :=
  ∃ j, s.jobs[i]? = some j ∧ j.outcome? = none ∧ j.statements = [] ∧ ∃ now, d = .work i now

/-- The deed is about the job at a position, while it goes on. -/
def Strikes (i : Nat) (s : InMemory) (d : Deed) : Prop :=
  d.target? = some i ∧ ∃ j, s.jobs[i]? = some j ∧ j.outcome? = none

/-- **What one way only makes of a job.** Let no job be so from its submission on, and let the moments of
`P` be among the deeds that strike the job at `i`. If such a deed makes the job so exactly if `P` holds of
it, then the job is so after a history exactly if there was such a moment. -/
theorem came_about {R : Job → Prop} {P : InMemory → Deed → Prop}
    (hnew : ∀ operation statements delay now,
      ¬ R (Job.ofSubmission operation statements delay now))
    (hmoment : ∀ s d, P s d → Strikes i s d)
    (hstrike : ∀ (s : InMemory) d j logged j', d.target? = some i → s.jobs[i]? = some j →
      j.outcome? = none → s.Touch i j d logged j' → (R j' ↔ R j ∨ P s d))
    (deeds : List Deed) (hempty : s.jobs = []) (hj : (undergo deeds s).jobs[i]? = some j) :
    R j ↔ Occurs P deeds s := by
  have hstep : ∀ (s : InMemory) (d : Deed), (∃ j, (s.perform d).jobs[i]? = some j ∧ R j) ↔
      (∃ j, s.jobs[i]? = some j ∧ R j) ∨ P s d := by
    intro s d
    cases hj : s.jobs[i]? with
    | none =>
      have hnot : ¬ ∃ j, (s.perform d).jobs[i]? = some j ∧ R j := by
        rintro ⟨j, hj', hR⟩
        obtain ⟨_, hnone | ⟨statements, now, _, _, hsome⟩⟩ := perform_absent hj d
        · cases hnone.symm.trans hj'
        · obtain rfl := Option.some.inj (hsome.symm.trans hj')
          exact hnew _ _ _ _ hR
      have hnotP : ¬ P s d := by
        intro hP
        obtain ⟨_, j, hsome, _⟩ := hmoment s d hP
        cases hj.symm.trans hsome
      simp [hnot, hnotP]
    | some j =>
      obtain ⟨logged, j', ht, hj', _⟩ := perform_touch hj d
      have htouched : R j' ↔ R j ∨ P s d := by
        by_cases hstruck : Strikes i s d
        · obtain ⟨htarget, j₁, hj₁, hgoes⟩ := hstruck
          obtain rfl := Option.some.inj (hj.symm.trans hj₁)
          exact hstrike s d j logged j' htarget hj hgoes ht
        · -- a deed that does not strike the job leaves it as it is, and is no moment
          have hquiet : d.target? = some i → j.due? = none :=
            fun htarget => Job.due?_eq_none.mpr fun hgoes => hstruck ⟨htarget, j, hj, hgoes⟩
          rw [(ht.of_quiet hquiet).2]
          exact (or_iff_left fun hP => hstruck (hmoment s d hP)).symm
      simpa [hj'] using htouched
  have hrun := undergo_iff_occurs (Q := fun s => ∃ j, s.jobs[i]? = some j ∧ R j) hstep deeds s
  rw [hempty] at hrun
  simpa [hj] using hrun

section Strike

variable {d : Deed} {logged : Option Text} {j' : Job}

/-- A deed makes a job end with an error exactly if it makes a statement refused. -/
theorem Touch.refused_iff {status : Status} (ht : s.Touch i j d logged j')
    (htarget : d.target? = some i) (hj : s.jobs[i]? = some j) (hgoes : j.outcome? = none) :
    j'.state = .finished (.error status) ↔
      j.state = .finished (.error status) ∨ ∃ k, Refuses i k status s d := by
  have hmoment : (∃ k, Refuses i k status s d) ↔ ∃ k due statement now,
      j.state = .running k due ∧ j.statements[k]? = some statement ∧
        s.catalog.applyText statement = .error status ∧ d = .work i now := by
    simp only [Refuses, hj, Option.some.injEq, exists_eq_left']
  rw [hmoment]
  cases ht with
  | aside hd => exact absurd htarget hd
  | idle _ ho => exact absurd hgoes (Job.due?_eq_none.mp ho)
  | @applied now k due statement c hs ht hc =>
    unfold Job.applied
    split <;> simp [hs, ht, hc]
  | refused hs ht hc => simp [hs, ht, hc]
  | ended hs ht => simp [hs, ht]
  | killed hs => simp [hs]

/-- A deed makes a job killed exactly if it stops it. -/
theorem Touch.killed_iff (ht : s.Touch i j d logged j') (htarget : d.target? = some i)
    (hj : s.jobs[i]? = some j) (hgoes : j.outcome? = none) :
    j'.state = .killed ↔ j.state = .killed ∨ Stops i s d := by
  have hmoment : Stops i s d ↔ (∃ k due, j.state = .running k due) ∧ d = .kill i := by
    simp only [Stops, hj, Option.some.injEq, exists_eq_left', Job.outcome?_eq_none]
  rw [hmoment]
  cases ht with
  | aside hd => exact absurd htarget hd
  | idle _ ho => exact absurd hgoes (Job.due?_eq_none.mp ho)
  | @applied now k due statement c hs ht hc =>
    unfold Job.applied
    split <;> simp [hs]
  | refused hs => simp [hs]
  | ended hs => simp [hs]
  | killed hs => simp [hs]

/-- A deed makes a job without statements end well exactly if it lets it find so. -/
theorem Touch.concluded_iff (ht : s.Touch i j d logged j') (htarget : d.target? = some i)
    (hj : s.jobs[i]? = some j) (hgoes : j.outcome? = none) :
    j'.state = .finished (.ok ()) ∧ j'.statements = [] ↔
      (j.state = .finished (.ok ()) ∧ j.statements = []) ∨ Concludes i s d := by
  have hmoment : Concludes i s d ↔
      (∃ k due, j.state = .running k due) ∧ j.statements = [] ∧ ∃ now, d = .work i now := by
    simp only [Concludes, hj, Option.some.injEq, exists_eq_left', Job.outcome?_eq_none]
  -- a job that tries a statement has one
  have hne : ∀ {k : Nat} {statement : Text}, j.statements[k]? = some statement →
      j.statements ≠ [] := by
    intro k statement hk hnil
    simp [hnil] at hk
  rw [hmoment, ht.same.2]
  cases ht with
  | aside hd => exact absurd htarget hd
  | idle _ ho => exact absurd hgoes (Job.due?_eq_none.mp ho)
  | applied hs hk => simp [hne hk]
  | refused hs hk => simp [hne hk]
  | ended hs => simp [hs]
  | killed hs => simp [hs]

end Strike

/-- **A job ends with an error exactly if a statement of it is refused with this error.** -/
theorem refused_iff {status : Status} {deeds : List Deed} (hempty : s.jobs = [])
    (hj : (undergo deeds s).jobs[i]? = some j) :
    j.state = .finished (.error status) ↔ ∃ k, Occurs (Refuses i k status) deeds s := by
  have hoccurs : (∃ k, Occurs (Refuses i k status) deeds s) ↔
      Occurs (fun s d => ∃ k, Refuses i k status s d) deeds s := by
    constructor
    · rintro ⟨k, earlier, d, later, hsplit, hmoment⟩
      exact ⟨earlier, d, later, hsplit, k, hmoment⟩
    · rintro ⟨earlier, d, later, hsplit, k, hmoment⟩
      exact ⟨k, earlier, d, later, hsplit, hmoment⟩
  rw [hoccurs]
  apply came_about (R := fun j => j.state = .finished (.error status)) _ _ _ deeds hempty hj
  · rintro operation statements delay now ⟨⟩
  · rintro s d ⟨k, j, hj, due, statement, now, hs, _, _, rfl⟩
    exact ⟨rfl, j, hj, Job.outcome?_eq_none.mpr ⟨k, due, hs⟩⟩
  · intro s d j logged j' htarget hj hgoes ht
    exact ht.refused_iff htarget hj hgoes

/-- **A job is killed exactly if it is stopped.** -/
theorem killed_iff {deeds : List Deed} (hempty : s.jobs = [])
    (hj : (undergo deeds s).jobs[i]? = some j) :
    j.state = .killed ↔ Occurs (Stops i) deeds s := by
  apply came_about (R := fun j => j.state = .killed) _ _ _ deeds hempty hj
  · rintro operation statements delay now ⟨⟩
  · rintro s d ⟨j, hj, hgoes, rfl⟩
    exact ⟨rfl, j, hj, hgoes⟩
  · intro s d j logged j' htarget hj hgoes ht
    exact ht.killed_iff htarget hj hgoes

/-- **A job without statements ends well exactly if it comes to find so.** -/
theorem concluded_iff {deeds : List Deed} (hempty : s.jobs = [])
    (hj : (undergo deeds s).jobs[i]? = some j) :
    j.state = .finished (.ok ()) ∧ j.statements = [] ↔ Occurs (Concludes i) deeds s := by
  apply came_about (R := fun j => j.state = .finished (.ok ()) ∧ j.statements = []) _ _ _ deeds
    hempty hj
  · rintro operation statements delay now ⟨⟨⟩, _⟩
  · rintro s d ⟨j, hj, hgoes, _, now, rfl⟩
    exact ⟨rfl, j, hj, hgoes⟩
  · intro s d j logged j' htarget hj hgoes ht
    exact ht.concluded_iff htarget hj hgoes

/-! ## What stays -/

/-- **A job that has ended stays as it is**, and no statement of it is applied any more. -/
theorem undergo_of_ended (hj : s.jobs[i]? = some j) (hd : j.due? = none) (deeds : List Deed) :
    (undergo deeds s).jobs[i]? = some j ∧ own i (log deeds s) = [] := by
  induction deeds generalizing s with
  | nil => exact ⟨hj, rfl⟩
  | cons d deeds ih =>
    obtain ⟨logged, j', ht, hj', hown⟩ := perform_touch hj d
    obtain ⟨rfl, rfl⟩ := ht.of_quiet fun _ => hd
    obtain ⟨hlast, hrest⟩ := ih hj'
    refine ⟨hlast, ?_⟩
    rw [log, own_append, hown, hrest]
    rfl

/-- A mark that a job has is left as it is by each deed. -/
theorem Touch.mark? {d : Deed} {logged : Option Text} {j' : Job} {entries : List Text} {m : Nat}
    {t : Timestamp} (ht : s.Touch i j d logged j') (h : j.Shows i entries)
    (hm : j.progress.mark? m = some t) : j'.progress.mark? m = some t := by
  cases ht with
  | aside => exact hm
  | idle => exact hm
  | @applied now k due statement c hs =>
    -- the statement that is marked now has no mark yet
    obtain ⟨rfl, _⟩ := h.running hs
    have hmarked : j.progress.isMarked m = true := by
      rw [Progress.isMarked, hm]
      rfl
    rw [h.marks m, decide_eq_true_iff] at hmarked
    show (j.progress.record entries.length (Timestamp.ofMillis now)).mark? m = some t
    rw [Progress.mark?_record, if_neg (Nat.ne_of_lt hmarked), hm]
  | refused => exact hm
  | ended => exact hm
  | killed => exact hm

/-- **Marks never disappear.** -/
theorem Chronicle.mark_stays {before : Catalog} {entries : List (Nat × Text)} {m : Nat}
    {t : Timestamp} (h : Chronicle before entries s) (hj : s.jobs[i]? = some j)
    (hm : j.progress.mark? m = some t) (deeds : List Deed) :
    ∃ j', (undergo deeds s).jobs[i]? = some j' ∧ j'.progress.mark? m = some t := by
  induction deeds generalizing entries s j with
  | nil => exact ⟨j, hj, hm⟩
  | cons d deeds ih =>
    obtain ⟨logged, j', ht, hj', _⟩ := perform_touch hj d
    exact ih (h.step d) hj' (ht.mark? (h.jobs i j hj) hm)

/-- What was applied of a job when a statement of it was refused is all that was ever applied. -/
theorem Chronicle.length_of_refused {before : Catalog} {entries : List (Nat × Text)} {k : Nat}
    {status : Status} {deeds : List Deed} (h : Chronicle before entries s)
    (hrefused : Occurs (Refuses i k status) deeds s) :
    (own i (entries ++ log deeds s)).length = k := by
  obtain ⟨earlier, d, later, rfl, j, hj, due, statement, now, hs, ht, hc, rfl⟩ := hrefused
  obtain ⟨hk, _⟩ := ((h.history earlier).jobs i j hj).running hs
  -- the moment itself logs nothing, and the job has ended with it
  have hnone : own i ((undergo earlier s).applied? (.work i now)).toList = [] := by
    simp [applied?, hj, Job.next?, hs, ht, hc]
  have hended := perform_work hj now
  simp only [Job.step_eq, hs, ht, hc] at hended
  have hrest := (undergo_of_ended hended rfl later).2
  rw [log_append, log, ← List.append_assoc, own_append, own_append _ (applied? _ _).toList, hnone,
    hrest, List.append_nil, List.append_nil, hk]

/-! ## Submissions -/

/-- A deed that submits nothing leaves the submissions as they are. -/
theorem submissions_perform_of_none {d : Deed} (hd : d.submission? = none) :
    (s.perform d).submissions = s.submissions := by
  apply List.ext_getElem?
  intro i
  rw [submissions, submissions, List.getElem?_map, List.getElem?_map]
  cases hj : s.jobs[i]? with
  | none =>
    obtain ⟨_, hnone | ⟨statements, now, rfl, _⟩⟩ := perform_absent hj d
    · rw [hnone]
    · cases hd
  | some j =>
    obtain ⟨_, j', ht, hj', _⟩ := perform_touch hj d
    rw [hj', Option.map_some, Option.map_some, ht.same.2]

/-- **The submissions** are those of the history, in order. -/
theorem submissions_undergo (deeds : List Deed) (s : InMemory) :
    (undergo deeds s).submissions = s.submissions ++ deeds.filterMap Deed.submission? := by
  induction deeds generalizing s with
  | nil => exact (List.append_nil _).symm
  | cons d deeds ih =>
    rw [undergo, ih]
    cases hd : d.submission? with
    | none => rw [List.filterMap_cons_none hd, submissions_perform_of_none hd]
    | some statements =>
      obtain ⟨now, rfl⟩ : ∃ now, d = .submit statements now := by
        cases d with
        | submit statements' now => exact ⟨now, by rw [Option.some.inj hd]⟩
        | work index now => cases hd
        | kill index => cases hd
      have hsubmitted : (s.perform (.submit statements now)).submissions
          = s.submissions ++ [statements] := List.map_append
      rw [List.filterMap_cons_some hd, hsubmitted, List.append_assoc]
      rfl

/-- A job stays where it is, with its handle and its statements. -/
theorem undergo_same (hj : s.jobs[i]? = some j) (deeds : List Deed) :
    ∃ j', (undergo deeds s).jobs[i]? = some j' ∧ j'.operation = j.operation ∧
      j'.statements = j.statements := by
  induction deeds generalizing s j with
  | nil => exact ⟨j, hj, rfl, rfl⟩
  | cons d deeds ih =>
    obtain ⟨_, j₁, ht, hj₁, _⟩ := perform_touch hj d
    obtain ⟨j', hj', hoperation, hstatements⟩ := ih hj₁
    exact ⟨j', hj', hoperation.trans ht.same.1, hstatements.trans ht.same.2⟩

/-- The deed submits these statements, and is answered with this handle. -/
def Opens (operation : Operation) (statements : List Text) (s : InMemory) (d : Deed) : Prop :=
  ∃ now, d = .submit statements now ∧ (s.submit statements now).1 = operation

/-- **A job that was not there before** was submitted with its statements, and its handle was given
out. -/
theorem opened {deeds : List Deed} (hj₀ : s.jobs[i]? = none)
    (hj : (undergo deeds s).jobs[i]? = some j) :
    Occurs (Opens j.operation j.statements) deeds s := by
  induction deeds generalizing s with
  | nil => cases hj₀.symm.trans hj
  | cons d deeds ih =>
    rw [occurs_cons]
    obtain ⟨_, hnone | ⟨statements, now, rfl, _, hnew⟩⟩ := perform_absent hj₀ d
    · exact .inr (ih hnone hj)
    · left
      obtain ⟨j', hj', hoperation, hstatements⟩ := undergo_same hnew deeds
      obtain rfl := Option.some.inj (hj.symm.trans hj')
      have hgiven : j.statements = statements := hstatements
      exact ⟨now, by rw [hgiven], hoperation.symm⟩

/-! ## Waits -/

section Waits

variable {operation : Operation}

/-- What a handle finds in a service. -/
theorem outcome?_of_handle (hj : s.jobs[i]? = some j) (hhandle : operation.index = i) :
    s.outcome? operation = j.outcome? := by
  rw [InMemory.outcome?, hhandle, hj]
  rfl

/-- A wait for an operation that has ended is over, and finds its outcome. -/
theorem waitFor_of_ended {outcome : Except Failure Unit} (ho : s.outcome? operation = some outcome)
    (database : Database) (since now : Nat) :
    let b : Backend := ⟨.inMemory s, database⟩
    Backend.remote.isReady (.waitFor operation) since now b = decide (since ≤ now) ∧
      Backend.remote.answer (.waitFor operation) now b = (outcome, b) := by
  constructor
  · simp only [Remote.isReady, Backend.remote, Backend.due, ho, Option.map_some]
  · show ((s.outcome? operation).getD _, _) = _
    rw [ho]
    rfl

/-- A wait for one that goes on is not over. -/
theorem waitFor_of_running (ho : s.outcome? operation = none) (database : Database)
    (since now : Nat) :
    Backend.remote.isReady (.waitFor operation) since now ⟨.inMemory s, database⟩ = false := by
  simp only [Remote.isReady, Backend.remote, Backend.due, ho, Option.map_none]

end Waits

/-! ## The operations of a history -/

/-- **All that a history says of one operation**: of the job `j` at position `i`, after the deeds on a
service that was `s` before them. -/
structure Accounted (s : InMemory) (deeds : List Deed) (i : Nat) (j : Job) : Prop where
  /-- The job was submitted with these statements, and its handle was given out. -/
  opened : Occurs (Opens j.operation j.statements) deeds s
  /-- The statements that were applied for it are its first ones, in order. -/
  applied : own i (log deeds s) <+: j.statements
  /-- They are marked, and no others, -/
  marks : ∀ m, j.progress.isMarked m = decide (m < (own i (log deeds s)).length)
  /-- which is what its progress is reported as. -/
  reported : ∀ now database, let b : Backend := ⟨.inMemory (undergo deeds s), database⟩
    Backend.remote.answer (.inspect j.operation) now b = (.ok j.progress, b)
  /-- A mark is the same for ever. -/
  marksStay : ∀ m t, j.progress.mark? m = some t → ∀ later,
    ∃ j', (undergo (deeds ++ later) s).jobs[i]? = some j' ∧ j'.progress.mark? m = some t
  /-- It has succeeded exactly if all its statements were applied. If there are none, it has when its
  job found so. -/
  succeeded : j.outcome? = some (.ok ()) ↔
    own i (log deeds s) = j.statements ∧ (j.statements = [] → Occurs (Concludes i) deeds s)
  /-- It has failed with the error of a statement exactly if this statement was refused by the catalog
  as it stood then, after all before it were applied. -/
  failed : ∀ status, j.outcome? = some (.error (j.operation.refusal status)) ↔
    Occurs (Refuses i (own i (log deeds s)).length status) deeds s
  /-- No other statement of it was ever refused. -/
  refusedOnce : ∀ k status, Occurs (Refuses i k status) deeds s →
    k = (own i (log deeds s)).length
  /-- It was abandoned exactly if its job was killed before it had ended. -/
  abandoned : j.outcome? = some (.error j.operation.abandonment) ↔ Occurs (Stops i) deeds s
  /-- There are no other ways to end. A refusal reports the error of the statement, and an abandonment
  is internal. -/
  exhaustive : ∀ outcome, j.outcome? = some outcome → outcome = .ok () ∨
    (∃ status, outcome = .error (j.operation.refusal status) ∧
      (j.operation.refusal status).status? = some status) ∨
    (outcome = .error j.operation.abandonment ∧ j.operation.abandonment.code = .internal)
  /-- When it has ended, nothing of it is applied any more, -/
  halted : ∀ outcome, j.outcome? = some outcome → ∀ later,
    (undergo (deeds ++ later) s).jobs[i]? = some j ∧
      own i (log (deeds ++ later) s) = own i (log deeds s)
  /-- and a wait, whenever it began and however often it is repeated, is answered with its outcome, -/
  answered : ∀ outcome, j.outcome? = some outcome → ∀ later database since now,
    let b : Backend := ⟨.inMemory (undergo (deeds ++ later) s), database⟩
    Backend.remote.isReady (.waitFor j.operation) since now b = decide (since ≤ now) ∧
      Backend.remote.answer (.waitFor j.operation) now b = (outcome, b)
  /-- but not before. -/
  pending : j.outcome? = none → ∀ database since now,
    Backend.remote.isReady (.waitFor j.operation) since now
      ⟨.inMemory (undergo deeds s), database⟩ = false

/-- A job that ends well has all its statements applied, and has found so if there are none. -/
theorem succeeded_iff {before : Catalog} {deeds : List Deed} (h : Chronicle before [] s)
    (hempty : s.jobs = []) (hj : (undergo deeds s).jobs[i]? = some j) :
    j.state = .finished (.ok ()) ↔
      own i (log deeds s) = j.statements ∧ (j.statements = [] → Occurs (Concludes i) deeds s) := by
  have hshows : j.Shows i (own i (log deeds s)) := (h.history deeds).jobs i j hj
  have hconcluded := concluded_iff hempty hj
  have hstate := hshows.state
  constructor
  · intro hs
    rw [hs] at hstate
    exact ⟨hstate, fun hnil => hconcluded.mp ⟨hs, hnil⟩⟩
  · rintro ⟨hall, hnone⟩
    cases hs : j.state with
    | finished outcome =>
      cases outcome with
      | ok => rfl
      | error status =>
        rw [hs, hall] at hstate
        exact absurd hstate (Nat.lt_irrefl _)
    | running k due =>
      -- the job is at the statement after the last, so there are none
      rw [hs, hall] at hstate
      obtain ⟨rfl, hlt | hnil⟩ := hstate
      · exact absurd hlt (Nat.lt_irrefl _)
      · exact hs.symm.trans (hconcluded.mpr (hnone hnil)).1
    | killed =>
      rw [hs, hall] at hstate
      rcases hstate with hlt | hnil
      · exact absurd hlt (Nat.lt_irrefl _)
      · exact hs.symm.trans (hconcluded.mpr (hnone hnil)).1

/-- **Every operation of every history is accounted for.** -/
theorem accounted {before : Catalog} {deeds : List Deed} (h : Chronicle before [] s)
    (hempty : s.jobs = []) (hj : (undergo deeds s).jobs[i]? = some j) : Accounted s deeds i j := by
  have hchronicle : Chronicle before (log deeds s) (undergo deeds s) := h.history deeds
  have hshows := hchronicle.jobs i j hj
  have hlater : ∀ outcome, j.outcome? = some outcome → ∀ later,
      (undergo (deeds ++ later) s).jobs[i]? = some j ∧
        own i (log (deeds ++ later) s) = own i (log deeds s) := by
    intro outcome ho later
    have hended : j.due? = none := Job.due?_eq_none.mpr (by simp [ho])
    obtain ⟨hsame, hnothing⟩ := undergo_of_ended hj hended later
    rw [undergo_append, log_append, own_append, hnothing, List.append_nil]
    exact ⟨hsame, rfl⟩
  have honce : ∀ k status, Occurs (Refuses i k status) deeds s →
      k = (own i (log deeds s)).length := by
    intro k status hrefused
    exact (h.length_of_refused hrefused).symm
  refine
    { opened := ?opened
      applied := hshows.applied
      marks := hshows.marks
      reported := ?reported
      marksStay := ?marksStay
      succeeded := Job.outcome?_eq_ok.trans (succeeded_iff h hempty hj)
      failed := ?failed
      refusedOnce := honce
      abandoned := Job.outcome?_eq_abandonment.trans (killed_iff hempty hj)
      exhaustive := ?exhaustive
      halted := hlater
      answered := ?answered
      pending := ?pending }
  case opened => exact opened (by simp [hempty]) hj
  case reported =>
    intro now database
    show ((undergo deeds s).progress j.operation, _) = _
    rw [InMemory.progress, hshows.handle, hj]
    rfl
  case marksStay =>
    intro m t hm later
    rw [undergo_append]
    exact hchronicle.mark_stays hj hm later
  case failed =>
    intro status
    rw [Job.outcome?_eq_refusal, refused_iff hempty hj]
    constructor
    · rintro ⟨k, hrefused⟩
      exact honce k status hrefused ▸ hrefused
    · intro hrefused
      exact ⟨_, hrefused⟩
  case exhaustive =>
    intro outcome ho
    cases hs : j.state with
    | running k due => cases (Job.outcome?_eq_none.mpr ⟨k, due, hs⟩).symm.trans ho
    | killed =>
      have hsame := ho.symm.trans (Job.outcome?_eq_abandonment.mpr hs)
      exact .inr (.inr ⟨Option.some.inj hsame, j.operation.code_abandonment⟩)
    | finished result =>
      cases result with
      | ok => exact .inl (Option.some.inj (ho.symm.trans (Job.outcome?_eq_ok.mpr hs)))
      | error status =>
        have hsame := ho.symm.trans (Job.outcome?_eq_refusal.mpr hs)
        exact .inr (.inl ⟨status, Option.some.inj hsame, j.operation.status?_refusal status⟩)
  case answered =>
    intro outcome ho later database since now
    have hfound := outcome?_of_handle (hlater outcome ho later).1 hshows.handle
    exact waitFor_of_ended (hfound.trans ho) database since now
  case pending =>
    intro ho database since now
    have hfound := outcome?_of_handle hj hshows.handle
    exact waitFor_of_running (hfound.trans ho) database since now

end InMemory
end SchemaBatch
