import SchemaBatch.Proofs.FrameTraffic

/-!
# `Proofs.FrameCalls` — the calls that the statements of a frame wait for

What passes between the statements of a frame and the services is recorded turn by turn, each entry under
the position of its statement. Which calls are outstanding can be read off the records alone: those that
were made, and neither answered, nor given up, nor let go of together with their statement.

* `Activity.Reaches.outstanding` — a way through an activity leads from the calls that it waits for at first
  to those that it waits for in the end.
* `Record`, `Record.outstanding`, `Traffic.log` — the records of a history, and what is outstanding.
* `Traffic.outstanding_log` — **what is outstanding is what the statements in progress wait for**, each for
  its own call.
-/

namespace SchemaBatch

/-! ## Activities -/

/-- The outstanding calls after an event. -/
def Event.outstandingAfter (calls : List Call) : Event → List Call
  | made c => calls.concat c
  | answered c _ => calls.erase c
  | abandoned c => calls.erase c

namespace Activity

variable {α : Type}

/-- The calls that an activity waits for. It never waits for more than one. -/
def waitsFor : Activity α → List Call
  | call c _ | listen c _ _ => [c]
  | _ => []

theorem waitsFor_of_mem {a : Activity α} {c : Call} (h : c ∈ a.waitsFor) : a.waitsFor = [c] := by
  cases a with
  | call c' next => rw [List.mem_singleton.mp h, waitsFor]
  | listen c' next react => rw [List.mem_singleton.mp h, waitsFor]
  | done result => cases h
  | sense next => cases h

theorem outstanding_arrival (a : Activity α) :
    a.arrival.foldl Event.outstandingAfter [] = a.waitsFor := by
  cases a <;> rfl

/-- The way through an activity leads from the calls that it waits for to those that it then waits for. -/
theorem Reaches.outstanding {a b : Activity α} {l : List Event} (h : a.Reaches l b) :
    l.foldl Event.outstandingAfter a.waitsFor = b.waitsFor := by
  -- whatever becomes of a call, nothing is outstanding until the next activity is arrived at
  have hgone : ∀ c : Call, [c].erase c = [] := fun c => List.erase_cons_head c []
  have honward : ∀ {a : Activity α} {l : List Event},
      l.foldl Event.outstandingAfter a.waitsFor = b.waitsFor →
      (a.arrival ++ l).foldl Event.outstandingAfter [] = b.waitsFor := by
    intro a l ih
    rw [List.foldl_append, outstanding_arrival, ih]
  induction h with
  | refl a => rfl
  | @answer c next x l b h ih =>
    show List.foldl _ ([c].erase c) _ = _
    rw [hgone]
    exact honward (ih honward)
  | @hear c next react x l b h ih =>
    show List.foldl _ ([c].erase c) _ = _
    rw [hgone]
    exact honward (ih honward)
  | @abandon c next react l b h ih =>
    show List.foldl _ ([c].erase c) _ = _
    rw [hgone]
    exact honward (ih honward)
  | sense s h ih => exact honward (ih honward)

end Activity

/-! ## Records -/

/-- Something that happens between a statement and the services. -/
inductive Record where
  /-- An event of the statement at a position. -/
  | event (index : Nat) (event : Event)
  /-- The statement at a position is over. What it waited for is no longer waited for. -/
  | letGo (index : Nat)

namespace Record

/-- The outstanding calls of a statement after something. -/
def outstandingAfter (index : Nat) (calls : List Call) : Record → List Call
  | event j e => if j = index then e.outstandingAfter calls else calls
  | letGo j => if j = index then [] else calls

/-- The calls of a statement that were made, and neither answered nor given up nor let go of. -/
def outstanding (records : List Record) (index : Nat) : List Call :=
  records.foldl (outstandingAfter index) []

/-- The events of a statement are what counts for it, -/
theorem foldl_own (index : Nat) (events : List Event) (calls : List Call) :
    (events.map (event index)).foldl (outstandingAfter index) calls
      = events.foldl Event.outstandingAfter calls := by
  rw [List.foldl_map]
  simp only [outstandingAfter, if_true]

/-- and those of the others do not. -/
theorem foldl_other {index j : Nat} (hne : j ≠ index) (events : List Event) (calls : List Call) :
    (events.map (event j)).foldl (outstandingAfter index) calls = calls := by
  induction events with
  | nil => rfl
  | cons e events ih =>
    rw [List.map_cons, List.foldl_cons]
    simp only [outstandingAfter, if_neg hne]
    exact ih

end Record

/-! ## The records of a history -/

/-- The calls that a statement waits for. -/
def Stage.waitsFor : Stage → List Call
  | live e => e.body.activity.waitsFor
  | _ => []

namespace Traffic

variable {σ μ : Type}

/-- What is recorded of a look at a statement. One that is over is let go of. -/
def lookRecords {α : Type} (index : Nat) (c : Course σ α) : List Record :=
  c.events.map (.event index) ++
    match c.status with
    | .ready _ => [.letGo index]
    | .pending _ => []

/-- What is recorded of a turn. -/
def records (services : Services σ μ) (t : Traffic σ) : Turn μ → List Record
  | .start _ activity => activity.arrival.map (.event t.stages.length)
  | .look index => t.onLive index [] fun e => lookRecords index (e.look services t.scene)
  | .drop index => t.onLive index [] fun _ => [.letGo index]
  | _ => []

/-- The records of a history. -/
def log (services : Services σ μ) : List (Turn μ) → Traffic σ → List Record
  | [], _ => []
  | turn :: history, t => t.records services turn ++ log services history (t.perform services turn)

/-- The calls that the statement at a position waits for. -/
def waitsFor (t : Traffic σ) (index : Nat) : List Call :=
  (t.stages[index]?.map Stage.waitsFor).getD []

variable {services : Services σ μ} {t : Traffic σ}

/-- A statement that waits for a call is in progress, and waits for no other. -/
theorem live_of_waitsFor {index : Nat} {c : Call} (h : c ∈ t.waitsFor index) :
    ∃ α, ∃ e : Execution α,
      t.stages[index]? = some (.live e) ∧ e.body.activity.waitsFor = [c] := by
  unfold waitsFor at h
  cases hstage : t.stages[index]? with
  | none =>
    rw [hstage] at h
    cases h
  | some stage =>
    rw [hstage] at h
    cases stage with
    | live e => exact ⟨_, e, rfl, Activity.waitsFor_of_mem h⟩
    | ended result windDown => cases h
    | dropped => cases h

theorem log_append (services : Services σ μ) (history history' : List (Turn μ)) (t : Traffic σ) :
    log services (history ++ history') t
      = log services history t ++ log services history' (t.play services history) := by
  induction history generalizing t with
  | nil => rfl
  | cons turn history ih =>
    rw [List.cons_append, log, log, ih, List.append_assoc]
    rfl

/-- A look leads from what a statement waits for to what it then waits for. -/
theorem outstanding_look {α : Type} (e : Execution α) (index : Nat) :
    (lookRecords index (e.look services t.scene)).foldl (Record.outstandingAfter index)
      e.body.activity.waitsFor = (Stage.ofCourse (e.look services t.scene)).waitsFor := by
  have hx := Execution.look_explained services e t.scene
  generalize e.look services t.scene = c at hx
  unfold lookRecords Stage.ofCourse
  rw [List.foldl_append, Record.foldl_own]
  cases hx with
  | waits hr => exact hr.outstanding
  | ended _ => simp [Record.outstandingAfter, Stage.waitsFor]
  | woundDown _ => simp [Record.outstandingAfter, Stage.waitsFor]
  | givenUp _ _ _ => simp [Record.outstandingAfter, Stage.waitsFor]

/-- Others' looks do not count. -/
theorem outstanding_look_other {α : Type} {index j : Nat} (hne : j ≠ index) (c : Course σ α)
    (calls : List Call) :
    (lookRecords j c).foldl (Record.outstandingAfter index) calls = calls := by
  unfold lookRecords
  rw [List.foldl_append, Record.foldl_other hne]
  cases c.status with
  | ready result => exact if_neg hne
  | pending e => rfl

/-- The records of a turn tell what a statement waits for after it. -/
theorem outstanding_records (turn : Turn μ) (index : Nat) :
    (t.records services turn).foldl (Record.outstandingAfter index) (t.waitsFor index)
      = (t.perform services turn).waitsFor index := by
  cases turn with
  | start label activity =>
    unfold waitsFor
    simp only [records, perform]
    by_cases hnew : t.stages.length = index
    · subst hnew
      rw [Record.foldl_own, List.getElem?_eq_none (Nat.le_refl _), List.getElem?_concat_length]
      exact Activity.outstanding_arrival activity
    · rw [Record.foldl_other hnew, List.getElem?_append]
      split
      · rfl
      · -- beyond the new statement there is none
        rename_i hge
        rw [List.getElem?_eq_none (Nat.le_of_not_lt hge), List.getElem?_singleton,
          if_neg (by omega)]
  | look j =>
    by_cases hmem : j ∈ t.inProgress
    · obtain ⟨α, e, he⟩ := mem_inProgress.mp hmem
      simp only [records, perform, onLive_of_live he]
      by_cases hj : j = index
      · subst hj
        have hlt := (List.getElem?_eq_some_iff.mp he).1
        unfold waitsFor
        rw [he, List.getElem?_set_self hlt]
        exact outstanding_look e j
      · rw [outstanding_look_other hj]
        unfold waitsFor
        rw [List.getElem?_set_ne hj]
    · simp only [records, perform, onLive_of_not_mem hmem]
      rfl
  | drop j =>
    by_cases hmem : j ∈ t.inProgress
    · obtain ⟨α, e, he⟩ := mem_inProgress.mp hmem
      simp only [records, perform, onLive_of_live he]
      by_cases hj : j = index
      · subst hj
        have hlt := (List.getElem?_eq_some_iff.mp he).1
        unfold waitsFor
        rw [List.getElem?_set_self hlt]
        exact if_pos rfl
      · unfold waitsFor
        rw [List.getElem?_set_ne hj]
        exact if_neg hj
    · simp only [records, perform, onLive_of_not_mem hmem]
      rfl
  | _ => rfl

/-- **What is outstanding is what the statements in progress wait for.** -/
theorem outstanding_log (services : Services σ μ) (timeout : Option Nat) (grace now : Nat) (state : σ)
    (history : List (Turn μ)) (index : Nat) :
    Record.outstanding (log services history (opened timeout grace now state)) index
      = ((opened timeout grace now state).play services history).waitsFor index := by
  induction history using List.reverseRecOn with
  | nil => rfl
  | append_singleton history turn ih =>
    rw [log_append, Record.outstanding, List.foldl_append, play_concat, ← outstanding_records, ← ih]
    simp only [log, List.append_nil]
    rfl

end Traffic
end SchemaBatch
