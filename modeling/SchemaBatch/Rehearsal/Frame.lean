import SchemaBatch.World

/-!
# `Rehearsal.Frame` — a frame taken through a list of steps

The statements of such a rehearsal have bodies that do nothing but wait, heed a cancellation or not,
and end as they are told.

Contents: `Ending`, `BodyPlan` and its activity; `FrameAction`; `FrameAnswer` and `FrameNote`;
`FrameRehearsal` with `FrameRehearsal.play`.
-/

namespace SchemaBatch
namespace Rehearsal

/-- The result of a body: the value it was given, and whether it was told to stop by then. -/
structure BodyResult where
  value : Json
  signalled : Bool

/-- How a body ends. -/
inductive Ending where
  | value (value : Json)
  | error (error : SessionError)

/-- The last part of a body. -/
def Ending.activity : Ending → Activity (Except SessionError BodyResult)
  | .value v => .sense fun signalled => .done (.ok ⟨v, signalled⟩)
  | .error e => .done (.error e)

/-- What a body does when it is told to stop. -/
structure Reaction where
  /-- A time to wait first. -/
  delay : Option Nat
  ending : Ending

/-- The reaction as an activity. -/
def Reaction.activity (r : Reaction) : Activity (Except SessionError BodyResult) :=
  match r.delay with
  | none => r.ending.activity
  | some delay => .call (.pause (some delay)) fun _ => r.ending.activity

/-- What a body does. -/
structure BodyPlan where
  /-- The time it takes; for ever when absent. -/
  delay : Option Nat
  ending : Ending
  /-- What it does when it is told to stop; it goes on without a reaction. -/
  reaction : Option Reaction

/-- The body of a plan. -/
def BodyPlan.activity (p : BodyPlan) : Activity (Except SessionError BodyResult) :=
  match p.reaction with
  | none => .call (.pause p.delay) fun _ => p.ending.activity
  | some reaction => .listen (.pause p.delay) (fun _ => p.ending.activity) reaction.activity

/-- What a step does with a frame. -/
inductive FrameAction where
  /-- Executes a statement, with an alarm after some time. -/
  | execute (sql : Text) (body : BodyPlan) (alarm : Option Nat)
  /-- Executes a statement in the background, under a name. -/
  | start (name sql : Text) (body : BodyPlan)
  /-- Waits for a background statement. -/
  | join (name : Text)
  /-- Drops a background statement where it stands. -/
  | drop (name : Text)
  | cancel
  | setTimeout (timeout : Option Nat)
  | setGrace (grace : Nat)
  | sleep (duration : Nat)

/-- What a step gives. -/
inductive FrameAnswer where
  | outcome (outcome : Outcome BodyResult) (stopped : Option Bool)
  | flag (value : Bool)
  /-- There is no background statement of the name. -/
  | unknownTask
  | nothing

/-- What is noted after a step. -/
structure FrameNote where
  answer : FrameAnswer
  isRunning : Bool
  timeout : Option Nat
  grace : Nat

/-- A frame with its surroundings. -/
structure FrameRehearsal where
  world : World BodyResult
  /-- The positions of the background statements, by name. -/
  names : List (Text × Nat)

namespace FrameRehearsal

/-- The position of a background statement. -/
def position? (r : FrameRehearsal) (name : Text) : Option Nat :=
  (r.names.find? fun entry => entry.1 == name).map Prod.snd

/-- The rehearsal without a name. -/
def forget (r : FrameRehearsal) (name : Text) : FrameRehearsal :=
  { r with names := r.names.filter fun entry => entry.1 != name }

/-- The reply to a statement with a body. -/
def reply (sql : Text) (body : BodyPlan) : Reply BodyResult :=
  match readStatement sql with
  | .error e => .answered (.error e)
  | .ok statement => .running statement.text body.activity

/-- The background task of a statement with a body. -/
def task (sql : Text) (body : BodyPlan) (w : World BodyResult) :
    Task BodyResult × World BodyResult :=
  match reply sql body with
  | .answered result => (.over (.ended result), w)
  | .running label activity =>
    let (e, frame) := Execution.start label activity w.now w.frame
    (.framed e (w.now + World.patience), { w with frame })

/-- Makes a step. -/
def act (r : FrameRehearsal) : FrameAction → FrameAnswer × FrameRehearsal
  | .execute sql body alarm =>
    let ((outcome, stopped), world) := r.world.underAlarm alarm true (·.complete (reply sql body))
    (.outcome outcome stopped, { r with world })
  | .start name sql body =>
    let (task, world) := task sql body r.world
    let (index, world) := world.spawn task
    (.nothing, ⟨world.settle world.now, (name, index) :: (r.forget name).names⟩)
  | .join name =>
    match r.position? name with
    | none => (.unknownTask, r)
    | some index =>
      let (outcome, world) := r.world.join (r.world.now + World.patience) index
      (.outcome outcome none, { r.forget name with world })
  | .drop name =>
    match r.position? name with
    | none => (.nothing, r)
    | some index => (.nothing, { r.forget name with world := r.world.dropTask index })
  | .cancel =>
    let (stopped, frame) := r.world.frame.cancel
    (.flag stopped, { r with world := { r.world with frame } })
  | .setTimeout timeout =>
    (.nothing, { r with world := { r.world with frame := r.world.frame.setTimeout timeout } })
  | .setGrace grace =>
    (.nothing, { r with world := { r.world with frame := r.world.frame.setGrace grace } })
  | .sleep duration => (.nothing, { r with world := r.world.sleep duration })

/-- What is noted after a step that gave an answer. -/
def note (r : FrameRehearsal) (answer : FrameAnswer) : FrameNote :=
  ⟨answer, r.world.frame.isRunning, r.world.frame.timeout, r.world.frame.grace⟩

/-- Makes steps one after the other. -/
def play : List FrameAction → FrameRehearsal → List FrameNote × FrameRehearsal
  | [], r => ([], r)
  | action :: actions, r =>
    let (answer, r) := r.act action
    let (notes, last) := play actions r
    (r.note answer :: notes, last)

end FrameRehearsal
end Rehearsal
end SchemaBatch
