import SchemaBatch.World
import SchemaBatch.Proofs.Events

/-!
# `Proofs.Schedule` — executions under every schedule

`Execution.poll` says what one look at an execution gives. What it gives in the end depends on when
the one who waits looks, on what the services do between the looks, and on what others do to the
frame. A **schedule** is a list of such happenings; an execution is followed through it step by step
until it ends. To say something of every schedule is to say it of every order and every timing.

A look is in one go, and so is a step of a job: from where it has to wait to where it has to wait again.
Others come in between, as they do where one thread runs everything. `Proofs.Threads` takes both apart, for
threads that run at the same time.

* `Services`, `Scene`, `Frame.Act`, `Happening` — what surrounds an execution and can change.
* `Backend.services` — the services of a session, which work while others wait.
* `Execution.step`, `Execution.follow` — one happening, and a schedule of them. A **course** is what
  became of the execution, with the events on the way and the interruption, if there was one.
* `Reply.course` — a reply seen to under a schedule. If the schedule is over before the statement has
  ended, the statement is dropped where it stands.
-/

namespace SchemaBatch

/-! ## What surrounds an execution -/

/-- Services with what they do by themselves, or for others: a move changes their state. -/
structure Services (σ μ : Type) extends Remote σ where
  move : μ → (now : Nat) → σ → σ

namespace Backend

/-- What the services of a session do by themselves, or for others. -/
inductive Move where
  /-- The job at a position makes its next step, the whole of it. Nothing is said of how soon. -/
  | work (index : Nat)
  /-- Others use the data service. -/
  | data (database : Database)

/-- The services after a move. -/
def move : Move → (now : Nat) → Backend → Backend
  | .work index, now, b =>
    match b.schema with
    | .inMemory s => { b with schema := .inMemory (s.step index now) }
    | .scripted _ => b
  | .data database, _, b => { b with database }

/-- The services of a session, with the work that goes on in the background. -/
def services : Services Backend Move := { remote with move }

end Backend

/-- The surroundings of an execution. -/
structure Scene (σ : Type) where
  now : Nat
  frame : Frame
  /-- The state of the services. -/
  state : σ

/-- What others can do to a frame. -/
inductive Frame.Act where
  | cancel
  | setTimeout (timeout : Option Nat)
  | setGrace (grace : Nat)
  /-- Another statement starts. -/
  | enter
  /-- Another statement ends or is dropped. -/
  | leave (ticket : Nat)
  /-- Another statement has run into its timeout and is told to stop. -/
  | tell (ticket : Nat)

/-- The frame after an act. What others do to a single statement never hits the one with the ticket
`own`. -/
def Frame.act (own : Nat) (f : Frame) : Frame.Act → Frame
  | .cancel => f.cancel.2
  | .setTimeout timeout => f.setTimeout timeout
  | .setGrace grace => f.setGrace grace
  | .enter => f.register.2
  | .leave ticket => if ticket = own then f else f.release ticket
  | .tell ticket => if ticket = own then f else f.signal ticket

/-- Something that happens while an execution waits. -/
inductive Happening (μ : Type) where
  /-- The one who waits looks. -/
  | look
  /-- Time passes. -/
  | pass (duration : Nat)
  | act (act : Frame.Act)
  /-- The services move. -/
  | move (m : μ)

/-- The scene after something that the one who waits has no part in. -/
def Scene.after {σ μ : Type} (services : Services σ μ) (own : Nat) (scene : Scene σ) :
    Happening μ → Scene σ
  | .look => scene
  | .pass duration => { scene with now := scene.now + duration }
  | .act act => { scene with frame := scene.frame.act own act }
  | .move m => { scene with state := services.move m scene.now scene.state }

/-! ## Courses -/

/-- What became of an execution. -/
structure Course (σ α : Type) where
  /-- The result, or the execution that still waits. -/
  status : Poll (Except SessionError α) (Execution α)
  /-- The scene at that moment. -/
  scene : Scene σ
  /-- What happened between the body of the execution and the services. -/
  events : List Event
  /-- The interruption by the frame, if there was one. -/
  windDown : Option WindDown

namespace Course

variable {σ α : Type}

/-- The course with what happened before it. -/
def since (events : List Event) (c : Course σ α) : Course σ α :=
  { c with events := events ++ c.events }

/-- What the caller sees. -/
def outcome (c : Course σ α) : Outcome α :=
  match c.status with
  | .ready result => .ended result
  | .pending _ => .hung

/-- The scene that the execution leaves behind. One that still waits is dropped. -/
def aftermath (c : Course σ α) : Scene σ :=
  match c.status with
  | .ready _ => c.scene
  | .pending e => { c.scene with frame := c.scene.frame.release e.ticket }

end Course

namespace Execution

variable {σ μ α : Type}

/-- The interruption that a look finds or makes. The body comes first: one that ends at the look is
not interrupted by it. -/
def windDownAt (remote : Remote σ) (now : Nat) (e : Execution α) (f : Frame) (s : σ) :
    Option WindDown :=
  match e.windDown with
  | some w => some w
  | none =>
    if (e.advance remote now f s).1.body.result?.isSome then none
    else (e.interruptedBy now f).map fun cause => ⟨cause, now + f.grace⟩

/-- What happens at a look between the body and the services. A body that is interrupted at the look
is told so and gets one more chance at once. -/
def eventsAt (remote : Remote σ) (now : Nat) (e : Execution α) (f : Frame) (s : σ) :
    List Event :=
  e.body.events remote (f.isSignalled e.ticket) now s ++
    match e.windDown, e.windDownAt remote now f s with
    -- interrupted at this look
    | none, some _ =>
      (e.advance remote now f s).1.body.events remote
        ((f.signal e.ticket).isSignalled e.ticket) now (e.advance remote now f s).2
    | _, _ => []

/-- A look at an execution, which asks all that there is to ask before others go on. -/
def look (services : Services σ μ) (e : Execution α) (scene : Scene σ) : Course σ α :=
  let (status, frame, state) := e.poll services.toRemote scene.now scene.frame scene.state
  ⟨status, { scene with frame, state },
    e.eventsAt services.toRemote scene.now scene.frame scene.state,
    e.windDownAt services.toRemote scene.now scene.frame scene.state⟩

/-- One happening. -/
def step (services : Services σ μ) (h : Happening μ) (e : Execution α) (scene : Scene σ) :
    Course σ α :=
  match h with
  | .look => e.look services scene
  -- nothing but a look brings an execution up to date
  | h => ⟨.pending e, scene.after services e.ticket h, [], e.windDown⟩

/-- A schedule, up to the end of the execution. -/
def follow (services : Services σ μ) :
    List (Happening μ) → Execution α → Scene σ → Course σ α
  | [], e, scene => ⟨.pending e, scene, [], e.windDown⟩
  | h :: schedule, e, scene =>
    let c := e.step services h scene
    match c.status with
    | .ready _ => c
    | .pending e => (e.follow services schedule c.scene).since c.events

end Execution

/-- A reply seen to under a schedule. A statement that has to be run in the frame is looked at as soon
as it has started. -/
def Reply.course {σ μ α : Type} (services : Services σ μ) (schedule : List (Happening μ))
    (reply : Reply α) (scene : Scene σ) : Course σ α :=
  match reply with
  | .answered result => ⟨.ready result, scene, [], none⟩
  | .running label activity =>
    let (e, frame) := Execution.start label activity scene.now scene.frame
    (e.follow services (.look :: schedule) { scene with frame }).since activity.arrival

end SchemaBatch
