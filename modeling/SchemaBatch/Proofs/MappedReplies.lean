import SchemaBatch.Proofs.Course

/-!
# `Proofs.MappedReplies` — a mapped reply runs as the reply does

Nothing looks at what a statement gives before it has ended: not the services, not the frame and not the
one who waits. So if something else is made of its result in the end, everything else stays the same, under
every schedule.

* `Poll.map`, `Execution.map`, `Course.map`, `Outcome.map` — the results are mapped, what else there is stays.
* `Engaged.advanceFrom_map`, `Engaged.eventsFrom_map` — an activity makes the same calls.
* `Execution.poll_map` — a look finds and makes the same interruptions.
* `Execution.follow_map`, `Reply.course_map` — **a mapped reply has the course of the reply, mapped**.
-/

namespace SchemaBatch

/-! ## Mapped results -/

/-- What has ended or has to wait, with both mapped. -/
def Poll.map {ρ ρ' κ κ' : Type} (f : ρ → ρ') (g : κ → κ') : Poll ρ κ → Poll ρ' κ'
  | .ready result => .ready (f result)
  | .pending rest => .pending (g rest)

/-- The activity under way with its result mapped. -/
def Engaged.map {α β : Type} (f : α → β) (e : Engaged α) : Engaged β := ⟨e.activity.map f, e.since⟩

/-- The execution with its result mapped. -/
def Execution.map {α β : Type} (f : α → β) (e : Execution α) : Execution β :=
  { e with body := e.body.map (Except.map f) }

/-- The course with its result mapped. -/
def Course.map {σ α β : Type} (f : α → β) (c : Course σ α) : Course σ β :=
  { c with status := c.status.map (Except.map f) (Execution.map f) }

/-- What the caller sees, with the result mapped. -/
def Outcome.map {α β : Type} (f : α → β) : Outcome α → Outcome β
  | .ended result => .ended (result.map f)
  | .hung => .hung

/-- What is made of an error does not see what is made of a result. -/
theorem mapError_map {ε ε' α β : Type} (f : α → β) (g : ε → ε') (r : Except ε α) :
    (r.map f).mapError g = (r.mapError g).map f := by
  cases r <;> rfl

/-! ## Activities under way -/

namespace Engaged

variable {σ α β : Type}

@[simp] theorem result?_map (f : α → β) (e : Engaged α) : (e.map f).result? = e.result?.map f := by
  obtain ⟨activity, since⟩ := e
  cases activity <;> rfl

/-- A mapped activity gets as far as the activity. -/
theorem advanceFrom_map (f : α → β) (remote : Remote σ) (signalled : Bool) (now : Nat)
    (a : Activity α) (since : Nat) (s : σ) :
    advanceFrom remote signalled now (a.map f) since s
      = ((advanceFrom remote signalled now a since s).1.map f,
        (advanceFrom remote signalled now a since s).2) := by
  -- the cases are those in which `advanceFrom` goes on or stops
  induction a generalizing since s with
  | done result => rfl
  | call c next ih =>
    simp only [Activity.map, advanceFrom]
    split
    · exact ih _ _ _
    · rfl
  | listen c next react ih ihr =>
    simp only [Activity.map, advanceFrom]
    split
    · exact ih _ _ _
    · split
      · exact ihr _ _
      · rfl
  | sense next ih => exact ih _ _ _

/-- On the way there the same happens. -/
theorem eventsFrom_map (f : α → β) (remote : Remote σ) (signalled : Bool) (now : Nat)
    (a : Activity α) (since : Nat) (s : σ) :
    eventsFrom remote signalled now (a.map f) since s
      = eventsFrom remote signalled now a since s := by
  induction a generalizing since s with
  | done result => rfl
  | call c next ih => simp only [Activity.map, eventsFrom, Activity.arrival_map, ih]
  | listen c next react ih ihr =>
    simp only [Activity.map, eventsFrom, Activity.arrival_map, ih, ihr]
  | sense next ih => simp only [Activity.map, eventsFrom, Activity.arrival_map, ih]

theorem advance_map (f : α → β) (remote : Remote σ) (signalled : Bool) (now : Nat) (e : Engaged α)
    (s : σ) :
    (e.map f).advance remote signalled now s
      = ((e.advance remote signalled now s).1.map f, (e.advance remote signalled now s).2) :=
  advanceFrom_map f remote signalled now e.activity e.since s

theorem events_map (f : α → β) (remote : Remote σ) (signalled : Bool) (now : Nat) (e : Engaged α)
    (s : σ) : (e.map f).events remote signalled now s = e.events remote signalled now s :=
  eventsFrom_map f remote signalled now e.activity e.since s

end Engaged

/-! ## Executions -/

namespace Execution

variable {σ μ α β : Type} {f : α → β}

@[simp] theorem map_body (e : Execution α) : (e.map f).body = e.body.map (Except.map f) := rfl

@[simp] theorem map_label (e : Execution α) : (e.map f).label = e.label := rfl

@[simp] theorem map_ticket (e : Execution α) : (e.map f).ticket = e.ticket := rfl

@[simp] theorem map_windDown (e : Execution α) : (e.map f).windDown = e.windDown := rfl

section Poll

variable {remote : Remote σ} {now : Nat} {e : Execution α} {frame : Frame} {s : σ}

theorem advance_map :
    (e.map f).advance remote now frame s
      = ((e.advance remote now frame s).1.map f, (e.advance remote now frame s).2) := by
  simp only [advance, map_body, map_ticket, Engaged.advance_map]
  rfl

theorem map_result? {r : Option (Except SessionError α)}
    (h : (e.advance remote now frame s).1.body.result? = r) :
    ((e.map f).advance remote now frame s).1.body.result? = r.map (Except.map f) := by
  rw [advance_map, map_body, Engaged.result?_map, h]

/-- An interrupted execution winds down in the same way. -/
theorem pollWindDown_map (w : WindDown) :
    (e.map f).pollWindDown remote now w frame s
      = ((e.pollWindDown remote now w frame s).1.map (Except.map f) (map f),
        (e.pollWindDown remote now w frame s).2) := by
  simp only [pollWindDown, advance_map, map_body, map_label, map_ticket, Engaged.result?_map]
  cases (e.advance remote now frame s).1.body.result? with
  | some result =>
    simp only [Option.map_some, Poll.map, mapError_map]
  | none =>
    simp only [Option.map_none]
    split <;> rfl

/-- **A look finds the same**, and makes of it the same up to the result. -/
theorem poll_map :
    (e.map f).poll remote now frame s
      = ((e.poll remote now frame s).1.map (Except.map f) (map f),
        (e.poll remote now frame s).2) := by
  cases hw : e.windDown with
  | some w => rw [poll_of_windDown hw, poll_of_windDown (e := e.map f) hw, pollWindDown_map]
  | none =>
    cases hres : (e.advance remote now frame s).1.body.result? with
    | some result =>
      rw [poll_of_done hw hres, poll_of_done (e := e.map f) hw (map_result? hres), advance_map]
      rfl
    | none =>
      -- what interrupts an execution does not depend on its body
      cases hc : e.interruptedBy now frame with
      | none =>
        rw [poll_of_waiting hw hres hc,
          poll_of_waiting (e := e.map f) hw (map_result? hres) hc, advance_map]
        rfl
      | some cause =>
        rw [poll_of_interrupted hw hres hc,
          poll_of_interrupted (e := e.map f) hw (map_result? hres) hc, advance_map]
        exact pollWindDown_map _

theorem windDownAt_map :
    (e.map f).windDownAt remote now frame s = e.windDownAt remote now frame s := by
  simp only [windDownAt, map_windDown, advance_map, map_body, Engaged.result?_map, Option.isSome_map]
  rfl

theorem eventsAt_map : (e.map f).eventsAt remote now frame s = e.eventsAt remote now frame s := by
  simp only [eventsAt, map_windDown, map_ticket, windDownAt_map, advance_map, map_body,
    Engaged.events_map]

end Poll

variable (services : Services σ μ)

theorem look_map (e : Execution α) (scene : Scene σ) :
    (e.map f).look services scene = (e.look services scene).map f := by
  simp only [look, poll_map, eventsAt_map, windDownAt_map]
  rfl

theorem step_map (h : Happening μ) (e : Execution α) (scene : Scene σ) :
    (e.map f).step services h scene = (e.step services h scene).map f := by
  cases h with
  | look => exact look_map services e scene
  | pass duration => rfl
  | act act => rfl
  | move m => rfl

/-- **Whatever the schedule**, a mapped execution has the course of the execution, mapped. -/
theorem follow_map (schedule : List (Happening μ)) (e : Execution α) (scene : Scene σ) :
    (e.map f).follow services schedule scene = (e.follow services schedule scene).map f := by
  induction schedule generalizing e scene with
  | nil => rfl
  | cons h schedule ih =>
    have hstep := step_map (f := f) services h e scene
    cases hs : (e.step services h scene).status with
    | ready result =>
      rw [follow_of_ready hs, follow_of_ready (by rw [hstep, Course.map, hs]; rfl), hstep]
    | pending e' =>
      rw [follow_of_pending hs, follow_of_pending (by rw [hstep, Course.map, hs]; rfl), ih, hstep]
      rfl

end Execution

/-! ## Replies -/

namespace Course

variable {σ α β : Type} (f : α → β) (c : Course σ α)

@[simp] theorem map_events : (c.map f).events = c.events := rfl

theorem map_outcome : (c.map f).outcome = c.outcome.map f := by
  obtain ⟨status, scene, events, windDown⟩ := c
  cases status <;> rfl

theorem map_aftermath : (c.map f).aftermath = c.aftermath := by
  obtain ⟨status, scene, events, windDown⟩ := c
  cases status <;> rfl

end Course

/-- **A mapped reply has the course of the reply, mapped.** -/
theorem Reply.course_map {σ μ α β : Type} (f : α → β) (services : Services σ μ)
    (schedule : List (Happening μ)) (reply : Reply α) (scene : Scene σ) :
    (reply.map f).course services schedule scene = (reply.course services schedule scene).map f := by
  cases reply with
  | answered result => rfl
  | running label activity =>
    show ((Execution.map f (Execution.start label activity scene.now scene.frame).1).follow services
      (.look :: schedule) _).since (activity.map (Except.map f)).arrival = _
    rw [Execution.follow_map, Activity.arrival_map]
    rfl

end SchemaBatch
