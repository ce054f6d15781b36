import SchemaBatch.Backend
import SchemaBatch.Batch
import SchemaBatch.Execution

/-!
# `World` — a session's surroundings, and the passing of time

A world holds all that can change while a session waits: the frame, the services, tasks in the
background and an alarm that cancels the frame. Nothing in the background moves until someone waits.
Then everything that is due happens, and if that does not end the wait the clock goes straight to
the next instant at which something is due. There the one who waits goes first.

Contents: `Outcome`, `Task`, `Alarm` and `World`; `World.settle`, what happens at one instant;
`ask`, `drive` and `World.wait`, which let time pass until a `Waiter` is content; `World.complete`,
`World.sleep`, `World.underAlarm` and the background tasks.
-/

namespace SchemaBatch

/-- What became of something that was waited for. -/
inductive Outcome (α : Type) where
  | ended (result : Except SessionError α)
  /-- It did not end within the time that it was given. -/
  | hung

/-- The result of something that was waited for. To give up waiting is a failure. -/
def Outcome.result {α : Type} : Outcome α → Except SessionError α
  | .ended result => result
  | .hung => .error (.service ⟨.unavailable, "No result came in time"⟩)

/-- Something that runs in the background. -/
inductive Task (β : Type) where
  /-- A statement in the frame. If it has not ended by the instant `expiry`, it is dropped then. -/
  | framed (execution : Execution β) (expiry : Nat)
  /-- An activity outside the frame, which nothing interrupts. -/
  | free (body : Engaged (Except SessionError β))
  | over (outcome : Outcome β)
  /-- The task was dropped before its end. -/
  | dropped

/-- Something that cancels the frame at an instant. -/
inductive Alarm where
  /-- It is to ring at an instant. One that does not reach the frame rings for nothing. -/
  | set (instant : Nat) (reaches : Bool)
  /-- It rang, and there was something to cancel or not. -/
  | rang (stopped : Bool)
  deriving DecidableEq, Repr

/-- What surrounds a session. -/
structure World (β : Type) where
  now : Nat
  frame : Frame
  backend : Backend
  /-- The background tasks, in the order in which they were started. -/
  tasks : List (Task β)
  alarm : Option Alarm

namespace World

variable {β : Type}

/-- The time that a statement is given to end: a day. -/
def patience : Nat := 86400000

/-- A world in which nothing happens yet. -/
def quiet (frame : Frame) (backend : Backend) : World β := ⟨0, frame, backend, [], none⟩

/-! ## One instant -/

/-- Rings the alarm if it is time. -/
def ring (now : Nat) (w : World β) : World β :=
  match w.alarm with
  | some (.set instant reaches) =>
    if now < instant then w
    else if reaches then
      let (stopped, frame) := w.frame.cancel
      { w with frame, alarm := some (.rang stopped) }
    else { w with alarm := some (.rang false) }
  | _ => w

/-- Brings one task up to date. -/
def pollTask (now : Nat) (task : Task β) (f : Frame) (b : Backend) : Task β × Frame × Backend :=
  match task with
  | .framed e expiry =>
    match e.poll Backend.remote now f b with
    | (.ready result, f, b) => (.over (.ended result), f, b)
    | (.pending e, f, b) =>
      if expiry ≤ now then (.over .hung, f.release e.ticket, b) else (.framed e expiry, f, b)
  | .free body =>
    let (body, b) := body.advance Backend.remote false now b
    match body.result? with
    | some result => (.over (.ended result), f, b)
    | none => (.free body, f, b)
  | task => (task, f, b)

/-- Brings tasks up to date, one after the other. -/
def pollTasks (now : Nat) : List (Task β) → Frame → Backend → List (Task β) × Frame × Backend
  | [], f, b => ([], f, b)
  | task :: tasks, f, b =>
    let (task, f, b) := pollTask now task f b
    let (tasks, f, b) := pollTasks now tasks f b
    (task :: tasks, f, b)

/-- Lets everything in the background happen that is due at an instant. -/
def settle (now : Nat) (w : World β) : World β :=
  let w := w.ring now
  let (tasks, frame, backend) := pollTasks now w.tasks w.frame (w.backend.advance now)
  { w with now, tasks, frame, backend }

/-- The instants at which a task may go on. -/
def taskAlarms (b : Backend) : Task β → List Nat
  | .framed e expiry => expiry :: e.alarms Backend.remote b
  | .free body => (body.due Backend.remote b).toList
  | _ => []

/-- The instants at which something in the background is due. -/
def alarms (w : World β) : List Nat :=
  (match w.alarm with
    | some (.set instant _) => [instant]
    | _ => []) ++ w.backend.next?.toList ++ w.tasks.flatMap (taskAlarms w.backend)

end World

/-! ## Waiting -/

/-- Someone who waits for a result of type `ρ`, in a state of type `κ`. -/
structure Waiter (β κ ρ : Type) where
  /-- Whether the wait is over. -/
  poll : Nat → κ → World β → Poll ρ κ × World β
  /-- The instants at which it may be over. -/
  alarms : κ → World β → List Nat

/-- The earliest of some instants that lies after now. -/
def soonest (now : Nat) (instants : List Nat) : Option Nat :=
  (instants.filter (now < ·)).min?

theorem lt_of_soonest_eq_some {now t : Nat} {instants : List Nat}
    (h : soonest now instants = some t) : now < t := by
  have hm := List.min?_mem h
  simpa using (List.mem_filter.mp hm).2

/-- Asks a waiter at one instant: before anything else happens at it, and once more after everything
in the background has happened that is due. -/
def ask {β κ ρ : Type} (waiter : Waiter β κ ρ) (now : Nat) (k : κ) (w : World β) :
    Poll ρ κ × World β :=
  match waiter.poll now k { w with now } with
  | (.ready result, w) => (.ready result, w)
  | (.pending k, w) => waiter.poll now k (w.settle now)

/-- Lets time pass from now on until the wait is over, but not beyond a limit. -/
def drive {β κ ρ : Type} (waiter : Waiter β κ ρ) (limit now : Nat) (k : κ) (w : World β) :
    Poll ρ κ × World β :=
  match ask waiter now k w with
  | (.ready result, w) => (.ready result, w)
  | (.pending k, w) =>
    match _h : soonest now (waiter.alarms k w ++ w.alarms) with
    | none => (.pending k, { w with now := max now limit })
    | some t =>
      if _hl : t ≤ limit then drive waiter limit t k w
      else (.pending k, { w with now := max now limit })
termination_by limit - now
decreasing_by
  have hlt : now < t := lt_of_soonest_eq_some _h
  omega

namespace World

variable {β : Type}

/-- Waits, for a limited time. One who need not wait at all lets nothing else happen. -/
def wait {κ ρ : Type} (waiter : Waiter β κ ρ) (limit : Nat) (k : κ) (w : World β) :
    Poll ρ κ × World β :=
  drive waiter limit w.now k w

/-! ## Sleeping -/

/-- Someone who waits for an instant. -/
def sleeper : Waiter β Nat Unit where
  poll now instant w := if instant ≤ now then (.ready (), w) else (.pending instant, w)
  alarms instant _ := [instant]

/-- Lets time pass. -/
def sleep (duration : Nat) (w : World β) : World β :=
  (w.wait sleeper (w.now + duration) (w.now + duration)).2

/-! ## Statements -/

/-- Someone who waits for a statement in the frame. -/
def statement {α : Type} : Waiter β (Execution α) (Except SessionError α) where
  poll now e w :=
    match e.poll Backend.remote now w.frame w.backend with
    | (result, frame, backend) => (result, { w with frame, backend })
  alarms e w := e.alarms Backend.remote w.backend

/-- Starts a statement in the frame and waits for it until a limit. One that has not ended by then
is dropped. -/
def execute {α : Type} (limit : Nat) (label : Text) (activity : Activity (Except SessionError α))
    (w : World β) : Outcome α × World β :=
  let (e, frame) := Execution.start label activity w.now w.frame
  match World.wait statement limit e { w with frame } with
  | (.ready result, w) => (.ended result, w)
  | (.pending e, w) => (.hung, { w with frame := w.frame.release e.ticket })

/-- Sees to a reply: an activity is run in the frame. -/
def completeBy {α : Type} (limit : Nat) (reply : Reply α) (w : World β) : Outcome α × World β :=
  match reply with
  | .answered result => (.ended result, w)
  | .running label activity => w.execute limit label activity

/-- Sees to a reply, for as long as a statement is given. -/
def complete {α : Type} (reply : Reply α) (w : World β) : Outcome α × World β :=
  w.completeBy (w.now + patience) reply

/-! ## Alarms -/

/-- Someone who waits for the alarm. -/
def alarmWaiter : Waiter β Unit Bool where
  poll _ _ w :=
    match w.alarm with
    | some (.rang stopped) => (.ready stopped, w)
    | _ => (.pending (), w)
  alarms _ _ := []

/-- The instant at which the alarm rings. -/
def alarmInstant (w : World β) : Nat :=
  match w.alarm with
  | some (.set instant _) => instant
  | _ => w.now

/-- Does something with an alarm set, if one is asked for, waits for the alarm afterwards, and tells
whether the alarm had anything to cancel. -/
def underAlarm {ρ : Type} (delay : Option Nat) (reaches : Bool) (act : World β → ρ × World β)
    (w : World β) : (ρ × Option Bool) × World β :=
  match delay with
  | none =>
    let (result, w) := act w
    ((result, none), w)
  | some delay =>
    let (result, w) := act { w with alarm := some (.set (w.now + delay) reaches) }
    match w.wait alarmWaiter w.alarmInstant () with
    | (.ready stopped, w) => ((result, some stopped), { w with alarm := none })
    | (.pending _, w) => ((result, some false), { w with alarm := none })

/-! ## Background tasks -/

/-- Adds a task, which is found by its position. -/
def spawn (task : Task β) (w : World β) : Nat × World β :=
  (w.tasks.length, { w with tasks := w.tasks ++ [task] })

/-- What became of the task at a position, if it is over. -/
def taskOutcome? (index : Nat) (w : World β) : Option (Outcome β) :=
  match w.tasks[index]? with
  | some (.over outcome) => some outcome
  | _ => none

/-- Whether the task at a position is over. -/
def isFinished (index : Nat) (w : World β) : Bool := (w.taskOutcome? index).isSome

/-- Drops the task at a position where it stands, unless it is over, and lets the others go on. -/
def dropTask (index : Nat) (w : World β) : World β :=
  match w.tasks[index]? with
  | some (.framed e _) =>
    settle w.now { w with
      frame := w.frame.release e.ticket
      tasks := w.tasks.set index .dropped }
  | some (.free _) => settle w.now { w with tasks := w.tasks.set index .dropped }
  | _ => w

/-- Someone who waits for the task at a position. -/
def taskWaiter : Waiter β Nat (Outcome β) where
  poll _ index w :=
    match w.taskOutcome? index with
    | some outcome => (.ready outcome, w)
    | none => (.pending index, w)
  alarms _ _ := []

/-- Waits for the task at a position until a limit. It goes on in the background when it takes
longer. -/
def join (limit index : Nat) (w : World β) : Outcome β × World β :=
  match w.wait taskWaiter limit index with
  | (.ready outcome, w) => (outcome, w)
  | (.pending _, w) => (.hung, w)

end World
end SchemaBatch
