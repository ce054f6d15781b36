import SchemaBatch.Proofs.InMemoryJob

/-!
# `Proofs.ServiceHistory` — many jobs on one catalog

The jobs of a service share its catalog and know nothing of each other. A **history** is a list of
deeds in any order: statements are submitted, a job makes its next step, a job is killed. Nothing is
said of when a job steps, nor of how the steps of several jobs follow each other, so to say something
of every history is to say it of every interleaving.

* `Deed`, `InMemory.perform`, `InMemory.undergo` — histories.
* `InMemory.log` — the statements that were applied, in their common order, each with the position of
  its job; `own` picks those of one job.
* `InMemory.Touch` — **all that a deed can do to one job**, by cases. `InMemory.perform_touch` proves
  it of every deed; what is said about histories follows from the cases.
* `InMemory.Chronicle` — the invariant of a history: the catalog is what the log leads to, and each job
  shows what the log says of it.
* `InMemory.undergo_iff_occurs` — what comes about in one way and then stays has come about exactly if
  that way was taken at some moment of the history.
-/

namespace SchemaBatch

/-! ## Histories -/

/-- Something that is done to a service, or by one of its jobs. -/
inductive Deed where
  | submit (statements : List Text) (now : Nat)
  /-- The job at a position makes its next step. -/
  | work (index now : Nat)
  /-- The job at a position is killed. -/
  | kill (index : Nat)

namespace Deed

/-- The position of the job that the deed is about. -/
def target? : Deed → Option Nat
  | submit _ _ => none
  | work index _ | kill index => some index

/-- The statements that the deed submits. -/
def submission? : Deed → Option (List Text)
  | submit statements _ => some statements
  | _ => none

end Deed

/-- The statement that a job which goes on is at. -/
def Job.next? (j : Job) : Option Text :=
  match j.state with
  | .running next _ => j.statements[next]?
  | _ => none

theorem Job.due?_of_running {j : Job} {k due : Nat} (hs : j.state = .running k due) :
    j.due? = some due := by
  rw [due?, hs]

namespace InMemory

/-- The service after a deed. -/
def perform (s : InMemory) : Deed → InMemory
  | .submit statements now => (s.submit statements now).2
  | .work index now => s.step index now
  | .kill index => s.kill index

/-- The service after a history. -/
def undergo : List Deed → InMemory → InMemory
  | [], s => s
  | d :: deeds, s => undergo deeds (s.perform d)

/-- The statement that a deed applies, with the position of its job. -/
def applied? (s : InMemory) : Deed → Option (Nat × Text)
  | .work index _ =>
    match (s.jobs[index]?).bind Job.next? with
    | none => none
    | some statement =>
      match s.catalog.applyText statement with
      | .ok _ => some (index, statement)
      | .error _ => none
  | _ => none

/-- The statements that a history applies, in order. -/
def log : List Deed → InMemory → List (Nat × Text)
  | [], _ => []
  | d :: deeds, s => (s.applied? d).toList ++ log deeds (s.perform d)

/-- The statements of a log that belong to the job at a position. -/
def own (index : Nat) (log : List (Nat × Text)) : List Text :=
  log.filterMap fun entry => if entry.1 = index then some entry.2 else none

@[simp] theorem own_nil (index : Nat) : own index [] = [] := by
  rw [own, List.filterMap_nil]

@[simp] theorem own_append (index : Nat) (l₁ l₂ : List (Nat × Text)) :
    own index (l₁ ++ l₂) = own index l₁ ++ own index l₂ := by
  simp [own]

theorem undergo_append (earlier later : List Deed) (s : InMemory) :
    undergo (earlier ++ later) s = undergo later (undergo earlier s) := by
  induction earlier generalizing s with
  | nil => rfl
  | cons d earlier ih => exact ih (s.perform d)

theorem log_append (earlier later : List Deed) (s : InMemory) :
    log (earlier ++ later) s = log earlier s ++ log later (undergo earlier s) := by
  induction earlier generalizing s with
  | nil => rfl
  | cons d earlier ih =>
    rw [List.cons_append, log, log, ih, List.append_assoc]
    rfl

/-! ## What a deed does to one job -/

/-- All that a deed can do to the job at a position: from what the job was, over the deed and the
statement that it logs for the job, to what the job is. -/
inductive Touch (s : InMemory) (i : Nat) : Job → Deed → Option Text → Job → Prop where
  /-- The deed is about another job, or about none. -/
  | aside {j : Job} {d : Deed} (hd : d.target? ≠ some i) : Touch s i j d none j
  /-- The job has ended. -/
  | idle {j : Job} {d : Deed} (hd : d.target? = some i) (ho : j.due? = none) : Touch s i j d none j
  /-- The next statement of the job is applied. -/
  | applied {j : Job} {now k due : Nat} {statement : Text} {c : Catalog}
      (hs : j.state = .running k due) (ht : j.statements[k]? = some statement)
      (hc : s.catalog.applyText statement = .ok c) :
      Touch s i j (.work i now) (some statement) (j.applied k s.delay now)
  /-- The next statement of the job is refused. -/
  | refused {j : Job} {now k due : Nat} {statement : Text} {status : Status}
      (hs : j.state = .running k due) (ht : j.statements[k]? = some statement)
      (hc : s.catalog.applyText statement = .error status) :
      Touch s i j (.work i now) none { j with state := .finished (.error status) }
  /-- The job finds that there is nothing to do. -/
  | ended {j : Job} {now k due : Nat} (hs : j.state = .running k due)
      (ht : j.statements[k]? = none) :
      Touch s i j (.work i now) none { j with state := .finished (.ok ()) }
  | killed {j : Job} {k due : Nat} (hs : j.state = .running k due) :
      Touch s i j (.kill i) none { j with state := .killed }

/-- Nothing happens to a job that a deed is not about or that has ended. -/
theorem Touch.of_quiet {s : InMemory} {i : Nat} {j j' : Job} {d : Deed} {logged : Option Text}
    (ht : s.Touch i j d logged j') (hquiet : d.target? = some i → j.due? = none) :
    logged = none ∧ j' = j := by
  cases ht with
  | aside => exact ⟨rfl, rfl⟩
  | idle => exact ⟨rfl, rfl⟩
  | applied hs => cases (Job.due?_of_running hs).symm.trans (hquiet rfl)
  | refused hs => cases (Job.due?_of_running hs).symm.trans (hquiet rfl)
  | ended hs => cases (Job.due?_of_running hs).symm.trans (hquiet rfl)
  | killed hs => cases (Job.due?_of_running hs).symm.trans (hquiet rfl)

/-- A job keeps its handle and its statements. -/
theorem Touch.same {s : InMemory} {i : Nat} {j j' : Job} {d : Deed} {logged : Option Text}
    (ht : s.Touch i j d logged j') : j'.operation = j.operation ∧ j'.statements = j.statements := by
  cases ht <;> exact ⟨rfl, rfl⟩

/-- A deed logs nothing for a job that it is not about. -/
theorem own_applied? {s : InMemory} {d : Deed} {i : Nat} (hd : d.target? ≠ some i) :
    own i (s.applied? d).toList = [] := by
  cases d with
  | submit statements now => rfl
  | kill index => rfl
  | work index now =>
    have hne : index ≠ i := fun h => hd (congrArg some h)
    simp only [applied?]
    split
    · rfl
    · split
      · simp [own, hne]
      · rfl

theorem perform_of_aside {s : InMemory} {d : Deed} {i : Nat} {j : Job} (hj : s.jobs[i]? = some j)
    (hd : d.target? ≠ some i) : (s.perform d).jobs[i]? = some j := by
  have hlt := (List.getElem?_eq_some_iff.mp hj).1
  cases d with
  | submit statements now =>
    show (s.jobs ++ _)[i]? = some j
    rw [List.getElem?_append_left hlt, hj]
  | kill index =>
    have hne : index ≠ i := fun h => hd (congrArg some h)
    show (s.jobs.modify index Job.kill)[i]? = some j
    rw [List.getElem?_modify, hj]
    simp [hne]
  | work index now =>
    have hne : index ≠ i := fun h => hd (congrArg some h)
    show (s.step index now).jobs[i]? = some j
    unfold step
    split
    · exact hj
    · show (s.jobs.set index _)[i]? = some j
      rw [List.getElem?_set_ne hne, hj]

theorem perform_work {s : InMemory} {i : Nat} {j : Job} (hj : s.jobs[i]? = some j) (now : Nat) :
    (s.perform (.work i now)).jobs[i]? = some (j.step s.catalog s.delay now).2 := by
  have hlt := (List.getElem?_eq_some_iff.mp hj).1
  simp only [perform, step, hj]
  exact List.getElem?_set_self hlt

theorem perform_kill {s : InMemory} {i : Nat} {j : Job} (hj : s.jobs[i]? = some j) :
    (s.perform (.kill i)).jobs[i]? = some j.kill := by
  show (s.jobs.modify i Job.kill)[i]? = some j.kill
  rw [List.getElem?_modify, hj]
  simp

/-- A job that is killed has ended before, or goes on no more. -/
theorem kill_touch {s : InMemory} {i : Nat} {j : Job} (hj : s.jobs[i]? = some j) :
    ∃ j', s.Touch i j (.kill i) none j' ∧ (s.perform (.kill i)).jobs[i]? = some j' := by
  have hkill := perform_kill hj
  cases hs : j.state with
  | running k due =>
    simp only [Job.kill, hs] at hkill
    exact ⟨_, .killed hs, hkill⟩
  | finished outcome =>
    simp only [Job.kill, hs] at hkill
    exact ⟨j, .idle rfl (by simp [Job.due?, hs]), hkill⟩
  | killed =>
    simp only [Job.kill, hs] at hkill
    exact ⟨j, .idle rfl (by simp [Job.due?, hs]), hkill⟩

/-- A job that works has ended before, or has nothing to do, or tries its next statement. -/
theorem work_touch {s : InMemory} {i : Nat} {j : Job} (hj : s.jobs[i]? = some j) (now : Nat) :
    ∃ logged j', s.Touch i j (.work i now) logged j' ∧
      (s.perform (.work i now)).jobs[i]? = some j' ∧
      own i (s.applied? (.work i now)).toList = logged.toList := by
  have hwork := perform_work hj now
  cases hs : j.state with
  | running k due =>
    cases ht : j.statements[k]? with
    | none =>
      simp only [Job.step_eq, hs, ht] at hwork
      exact ⟨none, _, .ended hs ht, hwork, by simp [applied?, hj, Job.next?, hs, ht]⟩
    | some statement =>
      cases hc : s.catalog.applyText statement with
      | error status =>
        simp only [Job.step_eq, hs, ht, hc] at hwork
        exact ⟨none, _, .refused hs ht hc, hwork, by simp [applied?, hj, Job.next?, hs, ht, hc]⟩
      | ok c =>
        simp only [Job.step_eq, hs, ht, hc] at hwork
        exact ⟨some statement, _, .applied hs ht hc, hwork,
          by simp [applied?, hj, Job.next?, hs, ht, hc, own]⟩
  | finished outcome =>
    simp only [Job.step_eq, hs] at hwork
    exact ⟨none, j, .idle rfl (by simp [Job.due?, hs]), hwork, by simp [applied?, hj, Job.next?, hs]⟩
  | killed =>
    simp only [Job.step_eq, hs] at hwork
    exact ⟨none, j, .idle rfl (by simp [Job.due?, hs]), hwork, by simp [applied?, hj, Job.next?, hs]⟩

/-- **Every deed** does one of these things to a job. -/
theorem perform_touch {s : InMemory} {i : Nat} {j : Job} (hj : s.jobs[i]? = some j) (d : Deed) :
    ∃ logged j', s.Touch i j d logged j' ∧ (s.perform d).jobs[i]? = some j' ∧
      own i (s.applied? d).toList = logged.toList := by
  by_cases hd : d.target? = some i
  · cases d with
    | submit statements now => cases hd
    | kill index =>
      cases hd
      obtain ⟨j', ht, hj'⟩ := kill_touch hj
      exact ⟨none, j', ht, hj', rfl⟩
    | work index now =>
      cases hd
      exact work_touch hj now
  · exact ⟨none, j, .aside hd, perform_of_aside hj hd, own_applied? hd⟩

/-- A job that is not there stays away or is submitted. -/
theorem perform_absent {s : InMemory} {i : Nat} (hj : s.jobs[i]? = none) (d : Deed) :
    own i (s.applied? d).toList = [] ∧
      ((s.perform d).jobs[i]? = none ∨
        ∃ statements now, d = .submit statements now ∧ i = s.jobs.length ∧
          (s.perform d).jobs[i]?
            = some (Job.ofSubmission s.nextOperation statements s.delay now)) := by
  have hle := List.getElem?_eq_none_iff.mp hj
  cases d with
  | submit statements now =>
    refine ⟨rfl, ?_⟩
    show (s.jobs ++ [_])[i]? = none ∨ _
    rw [List.getElem?_append_right hle]
    by_cases hi : i = s.jobs.length
    · right
      refine ⟨statements, now, rfl, hi, ?_⟩
      show (s.jobs ++ [_])[i]? = _
      rw [List.getElem?_append_right hle, hi, Nat.sub_self]
      rfl
    · left
      exact List.getElem?_eq_none_iff.mpr (by simp; omega)
  | kill index =>
    refine ⟨rfl, .inl ?_⟩
    show (s.jobs.modify index Job.kill)[i]? = none
    rw [List.getElem?_eq_none_iff, List.length_modify]
    exact hle
  | work index now =>
    have hne : ∀ j, s.jobs[index]? = some j → index ≠ i := by
      rintro j hsome rfl
      cases hj.symm.trans hsome
    refine ⟨?_, .inl ?_⟩
    · cases hs : s.jobs[index]? with
      | none => simp [applied?, hs]
      | some j =>
        apply own_applied?
        intro h
        exact hne j hs (Option.some.inj h)
    · show (s.step index now).jobs[i]? = none
      unfold step
      split
      · exact hj
      · show (s.jobs.set index _)[i]? = none
        rw [List.getElem?_eq_none_iff, List.length_set]
        exact hle

/-! ## The chronicle of a history -/

end InMemory

/-- What a job shows of its work, when the log has the statements `own` for it. -/
structure Job.Shows (index : Nat) (own : List Text) (j : Job) : Prop where
  handle : j.operation.index = index
  /-- Its first statements were applied, in order, -/
  applied : own <+: j.statements
  /-- and they are marked, and no others. -/
  marks : ∀ m, j.progress.isMarked m = decide (m < own.length)
  /-- It is at the statement after them, or has ended: well after the last, and with an error or by
  being killed before that. A job without statements is at its end from the start. -/
  state : match j.state with
    | .running next _ => next = own.length ∧ (next < j.statements.length ∨ j.statements = [])
    | .finished (.ok ()) => own = j.statements
    | .finished (.error _) => own.length < j.statements.length
    | .killed => own.length < j.statements.length ∨ j.statements = []

theorem Job.ofSubmission_shows (operation : Operation) (statements : List Text) (delay now : Nat) :
    (ofSubmission operation statements delay now).Shows operation.index [] where
  handle := rfl
  applied := List.nil_prefix
  marks m := by
    rw [List.length_nil, decide_eq_false (Nat.not_lt_zero m)]
    rfl
  state := by
    refine ⟨rfl, ?_⟩
    cases statements with
    | nil => exact .inr rfl
    | cons statement statements => exact .inl (Nat.zero_lt_succ _)

theorem Job.Shows.running {index : Nat} {own : List Text} {j : Job} (h : j.Shows index own)
    {k due : Nat} (hs : j.state = .running k due) :
    k = own.length ∧ (k < j.statements.length ∨ j.statements = []) := by
  have hstate := h.state
  rw [hs] at hstate
  exact hstate

namespace InMemory

/-- **A deed keeps what a job shows** in step with the log. -/
theorem Touch.shows {s : InMemory} {i : Nat} {j j' : Job} {d : Deed} {logged : Option Text}
    {own : List Text} (ht : s.Touch i j d logged j') (h : j.Shows i own) :
    j'.Shows i (own ++ logged.toList) := by
  cases ht with
  | aside => simpa using h
  | idle => simpa using h
  | @applied now k due statement c hs hk hc =>
    obtain ⟨rfl, _⟩ := h.running hs
    have hlt := (List.getElem?_eq_some_iff.mp hk).1
    have htake : own ++ [statement] = j.statements.take (own.length + 1) := by
      rw [List.take_add_one, hk, ← List.prefix_iff_eq_take.mp h.applied]
      rfl
    refine ⟨h.handle, ?_, ?_, ?_⟩
    · show own ++ [statement] <+: j.statements
      rw [htake]
      exact List.take_prefix _ _
    · intro m
      show (j.progress.record own.length (Timestamp.ofMillis now)).isMarked m = _
      rw [Progress.isMarked_record, h.marks m, ← Bool.decide_or]
      exact decide_eq_decide.mpr (by simp; omega)
    · by_cases hlast : own.length + 1 < j.statements.length
      · simp only [Job.applied, if_pos hlast]
        exact ⟨by simp, .inl hlast⟩
      · simp only [Job.applied, if_neg hlast]
        show own ++ [statement] = j.statements
        rw [htake]
        exact List.take_of_length_le (Nat.le_of_not_lt hlast)
  | @refused now k due statement status hs hk hc =>
    obtain ⟨rfl, _⟩ := h.running hs
    rw [Option.toList_none, List.append_nil]
    exact ⟨h.handle, h.applied, h.marks, (List.getElem?_eq_some_iff.mp hk).1⟩
  | @ended now k due hs hk =>
    obtain ⟨rfl, _⟩ := h.running hs
    rw [Option.toList_none, List.append_nil]
    exact ⟨h.handle, h.applied, h.marks,
      h.applied.eq_of_length_le (List.getElem?_eq_none_iff.mp hk)⟩
  | @killed k due hs =>
    obtain ⟨rfl, hlt⟩ := h.running hs
    rw [Option.toList_none, List.append_nil]
    exact ⟨h.handle, h.applied, h.marks, hlt⟩

/-- What a deed logs leads from the catalog before it to the catalog after it. -/
theorem perform_catalog (s : InMemory) (d : Deed) :
    s.catalog.applyAll ((s.applied? d).toList.map Prod.snd) = .ok (s.perform d).catalog := by
  cases d with
  | submit statements now => rfl
  | kill index => rfl
  | work index now =>
    cases hj : s.jobs[index]? with
    | none => simp only [applied?, perform, step, hj]; rfl
    | some j =>
      cases hs : j.state with
      | finished outcome =>
        simp only [applied?, perform, step, hj, Job.step_eq, hs, Option.bind_some, Job.next?]; rfl
      | killed => simp only [applied?, perform, step, hj, Job.step_eq, hs, Option.bind_some, Job.next?]; rfl
      | running k due =>
        cases ht : j.statements[k]? with
        | none =>
          simp only [applied?, perform, step, hj, Job.step_eq, hs, Option.bind_some, Job.next?, ht]; rfl
        | some statement =>
          cases hc : s.catalog.applyText statement with
          | error status =>
            simp only [applied?, perform, step, hj, Job.step_eq, hs, Option.bind_some, Job.next?, ht,
              hc]
            rfl
          | ok c =>
            simp only [applied?, perform, step, hj, Job.step_eq, hs, Option.bind_some, Job.next?, ht,
              hc]
            show (s.catalog.applyText statement).bind _ = .ok c
            rw [hc]
            rfl

/-- **The chronicle of a history**: what the log says of the service as it is now. -/
structure Chronicle (before : Catalog) (entries : List (Nat × Text)) (s : InMemory) : Prop where
  /-- The catalog is the one that the applied statements lead to, in their common order. -/
  catalog : before.applyAll (entries.map Prod.snd) = .ok s.catalog
  /-- Each job shows what was applied for it. -/
  jobs : ∀ (i : Nat) (j : Job), s.jobs[i]? = some j → j.Shows i (own i entries)
  absent : ∀ i : Nat, s.jobs[i]? = none → own i entries = []

theorem Chronicle.opened (before : Catalog) (delay : Nat) (identifier : Nat → String) :
    Chronicle before [] ⟨before, [], delay, identifier⟩ := ⟨rfl, nofun, fun _ _ => rfl⟩

/-- **A deed keeps the chronicle.** -/
theorem Chronicle.step {before : Catalog} {entries : List (Nat × Text)} {s : InMemory}
    (h : Chronicle before entries s) (d : Deed) :
    Chronicle before (entries ++ (s.applied? d).toList) (s.perform d) where
  catalog := by
    rw [List.map_append, Catalog.applyAll_append, h.catalog]
    exact s.perform_catalog d
  jobs i j' hj' := by
    rw [own_append]
    cases hj : s.jobs[i]? with
    | none =>
      obtain ⟨hown, hnone | ⟨statements, now, rfl, hi, hnew⟩⟩ := perform_absent hj d
      · cases hnone.symm.trans hj'
      · obtain rfl := Option.some.inj (hnew.symm.trans hj')
        rw [h.absent i hj, hown, hi]
        exact Job.ofSubmission_shows s.nextOperation statements s.delay now
    | some j =>
      obtain ⟨logged, j₁, ht, hj₁, hown⟩ := perform_touch hj d
      obtain rfl := Option.some.inj (hj₁.symm.trans hj')
      rw [hown]
      exact ht.shows (h.jobs i j hj)
  absent i hi := by
    rw [own_append]
    cases hj : s.jobs[i]? with
    | none => rw [h.absent i hj, (perform_absent hj d).1, List.append_nil]
    | some j =>
      obtain ⟨_, j₁, _, hj₁, _⟩ := perform_touch hj d
      cases hj₁.symm.trans hi

/-- **So does a history.** -/
theorem Chronicle.history {before : Catalog} {entries : List (Nat × Text)} {s : InMemory}
    (h : Chronicle before entries s) (deeds : List Deed) :
    Chronicle before (entries ++ log deeds s) (undergo deeds s) := by
  induction deeds generalizing entries s with
  | nil => rwa [log, List.append_nil]
  | cons d deeds ih =>
    rw [log, ← List.append_assoc]
    exact ih (h.step d)

/-! ## Moments of a history -/

/-- At some moment of a history a deed was done of which `P` holds. -/
def Occurs (P : InMemory → Deed → Prop) (deeds : List Deed) (s : InMemory) : Prop :=
  ∃ earlier d later, deeds = earlier ++ d :: later ∧ P (undergo earlier s) d

theorem occurs_cons {P : InMemory → Deed → Prop} {d : Deed} {deeds : List Deed} {s : InMemory} :
    Occurs P (d :: deeds) s ↔ P s d ∨ Occurs P deeds (s.perform d) := by
  constructor
  · rintro ⟨earlier, d', later, hsplit, hP⟩
    cases earlier with
    | nil =>
      obtain ⟨rfl, rfl⟩ := List.cons.inj hsplit
      exact .inl hP
    | cons first earlier =>
      obtain ⟨rfl, rfl⟩ := List.cons.inj hsplit
      exact .inr ⟨earlier, d', later, rfl, hP⟩
  · rintro (hP | ⟨earlier, d', later, rfl, hP⟩)
    · exact ⟨[], d, deeds, rfl, hP⟩
    · exact ⟨d :: earlier, d', later, rfl, hP⟩

/-- **What comes about in one way only and then stays** has come about exactly if that way was taken at
some moment. -/
theorem undergo_iff_occurs {P : InMemory → Deed → Prop} {Q : InMemory → Prop}
    (hstep : ∀ s d, Q (s.perform d) ↔ Q s ∨ P s d) (deeds : List Deed) (s : InMemory) :
    Q (undergo deeds s) ↔ Q s ∨ Occurs P deeds s := by
  induction deeds generalizing s with
  | nil =>
    have hno : ¬ Occurs P [] s := by
      rintro ⟨earlier, d, later, hsplit, _⟩
      cases earlier <;> cases hsplit
    exact ⟨.inl, fun h => h.resolve_right hno⟩
  | cons d deeds ih =>
    rw [undergo, ih, hstep, occurs_cons, or_assoc]

end InMemory
end SchemaBatch
