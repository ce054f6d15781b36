import Mathlib.Logic.Function.Basic
import Mathlib.Logic.Relation
import SchemaBatch.Proofs.Course

/-!
# `Proofs.Threads` — statements and jobs on threads of their own

A look at an execution asks several things one after the other: for the outstanding answer, for the next
one, whether somebody tells the body to stop, whether the frame interrupts it. `Execution.look` asks them
all in one go, and `Job.step` shows all that a job does in one go. This is how they run on one thread,
which each of them gives away only to wait. On threads of their own others go on at any point between.

* `Caller` — the thread of a statement, by what it does next; `Caller.access`, one thing that it asks;
  `Caller.follow`, a schedule in which each look is one such thing.
* `Threads` — services whose jobs have threads of their own; `InMemory.exert`, one effect of a step.
* `Caller.OneThread` — the schedules that are possible where one thread runs everything.
* `Caller.goes_poll` — a look is some accesses in a row; `Threads.move_turn`, a step the three effects in
  a row.
* `Reply.course_oneThread` — **to look in one go is to have one thread**: every course is one of those.
-/

namespace SchemaBatch

/-! ## The thread of a statement -/

/-- What the thread of a statement does next. -/
inductive Access (α : Type) where
  /-- It has given way to others. When it goes on, it asks for the outstanding answer. -/
  | resume
  /-- It asks for the outstanding answer. -/
  | ask
  /-- The answer is not there. It looks whether the body is told to stop, which would react to it. -/
  | sense (react : Activity (Except SessionError α))
  /-- The body waits. It looks whether the frame interrupts the statement. -/
  | check
  /-- Nothing. The statement has ended, and its caller has not given way since. -/
  | nothing (result : Except SessionError α)

/-- The thread of a statement. -/
structure Caller (α : Type) where
  execution : Execution α
  next : Access α

/-- What an execution makes of the result of its body. -/
def Execution.recast {α : Type} (e : Execution α) (result : Except SessionError α) :
    Except SessionError α :=
  match e.windDown with
  | none => result
  | some w => result.mapError (w.cause.recast e.label)

namespace Caller

variable {σ μ α : Type}

/-- The result, if the statement has ended. -/
def result? (c : Caller α) : Option (Except SessionError α) :=
  match c.next with
  | .nothing result => some result
  | _ => none

/-- The body goes on. -/
def goOn (c : Caller α) (activity : Activity (Except SessionError α)) (now : Nat) : Caller α :=
  ⟨{ c.execution with body := ⟨activity, now⟩ }, .ask⟩

/-- The statement ends, and leaves the frame. -/
def finish (c : Caller α) (result : Except SessionError α) (f : Frame) : Caller α × Frame :=
  (⟨c.execution, .nothing result⟩, f.release c.execution.ticket)

/-- Asks for the outstanding answer. A body that has ended ends the statement. -/
def ask (remote : Remote σ) (now : Nat) (c : Caller α) (f : Frame) (s : σ) :
    Caller α × Frame × σ :=
  match c.execution.body.activity with
  | .done result =>
    let (c, f) := c.finish (c.execution.recast result) f
    (c, f, s)
  | .call call next =>
    if remote.isReady call c.execution.body.since now s then
      (c.goOn (next (remote.answer call now s).1) now, f, (remote.answer call now s).2)
    else ({ c with next := .check }, f, s)
  | .listen call next react =>
    if remote.isReady call c.execution.body.since now s then
      (c.goOn (next (remote.answer call now s).1) now, f, (remote.answer call now s).2)
    else ({ c with next := .sense react }, f, s)
  | .sense next => (c.goOn (next (f.isSignalled c.execution.ticket)) now, f, s)

/-- Looks whether the frame interrupts the statement, or gives up on it. A body that is interrupted is told
so and asked again at once. -/
def check (now : Nat) (c : Caller α) (f : Frame) : Caller α × Frame :=
  match c.execution.windDown with
  | some w =>
    if w.giveUp ≤ now then c.finish (.error (w.cause.giveUpError c.execution.label)) f
    else ({ c with next := .resume }, f)
  | none =>
    match c.execution.interruptedBy now f with
    | none => ({ c with next := .resume }, f)
    | some cause =>
      (⟨{ c.execution with windDown := some ⟨cause, now + f.grace⟩ }, .ask⟩,
        f.signal c.execution.ticket)

/-- What the thread does next. -/
def access (remote : Remote σ) (now : Nat) (c : Caller α) (f : Frame) (s : σ) :
    Caller α × Frame × σ :=
  match c.next with
  | .resume | .ask => c.ask remote now f s
  | .sense react =>
    (if f.isSignalled c.execution.ticket then c.goOn react now else { c with next := .check }, f, s)
  | .check => ((c.check now f).1, (c.check now f).2, s)
  | .nothing _ => (c, f, s)

/-- One happening. What others do does not change where the thread stands. -/
def step (services : Services σ μ) (h : Happening μ) (c : Caller α) (scene : Scene σ) :
    Caller α × Scene σ :=
  match h with
  | .look =>
    let (c, frame, state) := c.access services.toRemote scene.now scene.frame scene.state
    (c, { scene with frame, state })
  | h => (c, scene.after services c.execution.ticket h)

/-- A schedule, to its end. Others go on when the statement has ended. -/
def follow (services : Services σ μ) : List (Happening μ) → Caller α → Scene σ → Caller α × Scene σ
  | [], c, scene => (c, scene)
  | h :: schedule, c, scene =>
    let (c, scene) := c.step services h scene
    c.follow services schedule scene

theorem follow_append (services : Services σ μ) (first second : List (Happening μ)) (c : Caller α)
    (scene : Scene σ) :
    c.follow services (first ++ second) scene
      = (c.follow services first scene).1.follow services second
          (c.follow services first scene).2 := by
  induction first generalizing c scene with
  | nil => rfl
  | cons h first ih => exact ih _ _

end Caller

/-- What a step of a job comes to, one after the other. -/
inductive Job.Effect where
  | apply
  | mark
  | report
  deriving DecidableEq

/-- One effect of a step, on the catalog and the job, and what the job then keeps to itself. It applies a
statement once it has shown all that it has done before. -/
def Job.exert (effect : Job.Effect) (delay now : Nat) (c : Catalog) (j : Job)
    (unshown : Option Unshown) : Catalog × Job × Option Unshown :=
  match effect, unshown with
  | .apply, none => let (c, unshown) := j.applyNext c; (c, j, unshown)
  | .apply, some _ => (c, j, unshown)
  | .mark, _ => (c, j.mark delay now unshown)
  | .report, _ => (c, j.report unshown)

/-- One effect of a step of the job at a position. -/
def InMemory.exert (effect : Job.Effect) (index now : Nat) (s : InMemory) (unshown : Option Unshown) :
    InMemory × Option Unshown :=
  match s.jobs[index]? with
  | none => (s, unshown)
  | some j =>
    let (catalog, j, unshown) := j.exert effect s.delay now s.catalog unshown
    ({ s with catalog, jobs := s.jobs.set index j }, unshown)

/-- The services of a session whose jobs have threads of their own. -/
structure Threads where
  backend : Backend
  /-- What the job at a position has done and not yet shown. -/
  unshown : Nat → Option Unshown

namespace Threads

/-- What the services do by themselves, or for others. -/
inductive Move where
  /-- The job at a position goes on with its step. Nothing is said of how soon. -/
  | work (index : Nat) (effect : Job.Effect)
  /-- Others use the data service. -/
  | data (database : Database)

/-- The services after a move. -/
def move : Move → (now : Nat) → Threads → Threads
  | .work index effect, now, t =>
    match t.backend.schema with
    | .inMemory s =>
      let (s, unshown) := s.exert effect index now (t.unshown index)
      ⟨{ t.backend with schema := .inMemory s }, Function.update t.unshown index unshown⟩
    | .scripted _ => t
  | .data database, _, t => { t with backend := { t.backend with database } }

/-- The services answer by what the jobs show. -/
def remote : Remote Threads where
  due c since t := t.backend.due since c
  answer c now t := ((t.backend.answer now c).1, { t with backend := (t.backend.answer now c).2 })

/-- The services of a session, with the work that goes on in the background. -/
def services : Services Threads Move := { remote with move }

/-- No job is in the middle of a step. -/
def atRest (backend : Backend) : Threads := ⟨backend, fun _ => none⟩

end Threads

/-! ## One thread -/

/-- What can happen next where one thread runs everything. The statement goes on between the steps of the
jobs, and a job begins a step when neither the statement nor another job is in the middle of what it does.
Time passes, and the frame is cancelled, at any point. -/
def Caller.InTurn {α : Type} (c : Caller α) (t : Threads) : Happening Threads.Move → Prop
  | .look => t.unshown = fun _ => none
  | .move (.work _ .apply) => (∃ e : Execution α, c = ⟨e, .resume⟩) ∧ t.unshown = fun _ => none
  | _ => True

/-- **One thread runs everything**: each has its turns, which nobody else interrupts. -/
def Caller.OneThread {α : Type} :
    List (Happening Threads.Move) → Caller α → Scene Threads → Prop
  | [], _, _ => True
  | h :: schedule, c, scene =>
    c.InTurn scene.state h ∧
      OneThread schedule (c.step Threads.services h scene).1 (c.step Threads.services h scene).2

/-- One thread runs everything, also the statement of a reply. -/
def Reply.OneThread {α : Type} (schedule : List (Happening Threads.Move)) (reply : Reply α)
    (scene : Scene Threads) : Prop :=
  match reply with
  | .answered _ => True
  | .running label activity =>
    let (e, frame) := Execution.start label activity scene.now scene.frame
    Caller.OneThread schedule ⟨e, .resume⟩ { scene with frame }

/-! ## A look is some accesses in a row -/

namespace Caller

variable {σ μ α : Type}

section Asks

variable {remote : Remote σ} {now : Nat} {c : Caller α} {f : Frame} {s : σ} {call : Call}
  {next : call.Answer → Activity (Except SessionError α)}
  {react : Activity (Except SessionError α)}

/-- A body that has ended ends the statement. -/
theorem ask_done {result : Except SessionError α}
    (hbody : c.execution.body.activity = .done result) :
    c.ask remote now f s
      = (⟨c.execution, .nothing (c.execution.recast result)⟩, f.release c.execution.ticket, s) := by
  unfold ask
  rw [hbody]
  rfl

/-- An answer that is there lets the body go on. -/
theorem ask_call_of_ready (hbody : c.execution.body.activity = .call call next)
    (hready : remote.isReady call c.execution.body.since now s = true) :
    c.ask remote now f s
      = (c.goOn (next (remote.answer call now s).1) now, f, (remote.answer call now s).2) := by
  unfold ask
  rw [hbody]
  exact if_pos hready

theorem ask_listen_of_ready (hbody : c.execution.body.activity = .listen call next react)
    (hready : remote.isReady call c.execution.body.since now s = true) :
    c.ask remote now f s
      = (c.goOn (next (remote.answer call now s).1) now, f, (remote.answer call now s).2) := by
  unfold ask
  rw [hbody]
  exact if_pos hready

/-- Without an answer the thread looks for what may interrupt the body. -/
theorem ask_call_of_waiting (hbody : c.execution.body.activity = .call call next)
    (hready : ¬ remote.isReady call c.execution.body.since now s = true) :
    c.ask remote now f s = ({ c with next := .check }, f, s) := by
  unfold ask
  rw [hbody]
  exact if_neg hready

theorem ask_listen_of_waiting (hbody : c.execution.body.activity = .listen call next react)
    (hready : ¬ remote.isReady call c.execution.body.since now s = true) :
    c.ask remote now f s = ({ c with next := .sense react }, f, s) := by
  unfold ask
  rw [hbody]
  exact if_neg hready

theorem ask_sense {next : Bool → Activity (Except SessionError α)}
    (hbody : c.execution.body.activity = .sense next) :
    c.ask remote now f s = (c.goOn (next (f.isSignalled c.execution.ticket)) now, f, s) := by
  unfold ask
  rw [hbody]

theorem check_of_waiting (hw : c.execution.windDown = none)
    (hi : c.execution.interruptedBy now f = none) :
    c.check now f = ({ c with next := .resume }, f) := by
  unfold check
  rw [hw]
  dsimp only
  rw [hi]

theorem check_of_interrupted {cause : Interruption} (hw : c.execution.windDown = none)
    (hi : c.execution.interruptedBy now f = some cause) :
    c.check now f
      = (⟨{ c.execution with windDown := some ⟨cause, now + f.grace⟩ }, .ask⟩,
          f.signal c.execution.ticket) := by
  unfold check
  rw [hw]
  dsimp only
  rw [hi]

end Asks

/-- The thread goes on, and nobody else does. -/
def Goes (remote : Remote σ) (now : Nat) :
    Caller α × Frame × σ → Caller α × Frame × σ → Prop :=
  Relation.ReflTransGen fun p q => p.1.access remote now p.2.1 p.2.2 = q

/-- The thread stands where a look has left the execution. -/
def Shows (c : Caller α) : Poll (Except SessionError α) (Execution α) → Prop
  | .ready result => c.next = .nothing result
  | .pending e => c = ⟨e, .resume⟩

section Look

variable {remote : Remote σ} {now : Nat} {e : Execution α} {f : Frame} {s : σ}

theorem Goes.ask {p q : Caller α × Frame × σ}
    (hask : Caller.ask remote now ⟨e, .ask⟩ f s = p) (hrest : Goes remote now p q) :
    Goes remote now (⟨e, .ask⟩, f, s) q := .head hask hrest

/-- It does not matter whether the thread has given way before. -/
theorem Goes.resume {c : Caller α} {q : Frame × σ} (h : Goes remote now (⟨e, .ask⟩, f, s) (c, q))
    {status : Poll (Except SessionError α) (Execution α)} (hc : c.Shows status) :
    Goes remote now (⟨e, .resume⟩, f, s) (c, q) := by
  rcases h.cases_head with hsame | ⟨p, hask, hrest⟩
  · -- at the end of a look the thread does not ask
    cases hsame
    cases status with
    | ready result => cases hc
    | pending e' => cases hc
  · exact .head hask hrest

end Look

end Caller

/-! ## A step is its three effects in a row -/

theorem InMemory.exert_of_some {s : InMemory} {index : Nat} {j : Job} (hj : s.jobs[index]? = some j)
    (effect : Job.Effect) (now : Nat) (unshown : Option Unshown) :
    s.exert effect index now unshown
      = ({ s with
            catalog := (j.exert effect s.delay now s.catalog unshown).1
            jobs := s.jobs.set index (j.exert effect s.delay now s.catalog unshown).2.1 },
          (j.exert effect s.delay now s.catalog unshown).2.2) := by
  unfold exert
  rw [hj]

theorem InMemory.exert_of_none {s : InMemory} {index : Nat} (hj : s.jobs[index]? = none)
    (effect : Job.Effect) (now : Nat) (unshown : Option Unshown) :
    s.exert effect index now unshown = (s, unshown) := by
  unfold exert
  rw [hj]

/-- The scene with a thread for each job, none of which is in the middle of a step. -/
def Scene.atRest (scene : Scene Backend) : Scene Threads :=
  { scene with state := Threads.atRest scene.state }

namespace Caller

variable {α : Type}

/-- The thread asks the services that are behind the jobs, and leaves alone what these keep to
themselves. -/
theorem access_threads (now : Nat) (c : Caller α) (f : Frame) (t : Threads) :
    c.access Threads.remote now f t
      = ((c.access Backend.remote now f t.backend).1, (c.access Backend.remote now f t.backend).2.1,
          { t with backend := (c.access Backend.remote now f t.backend).2.2 }) := by
  have hask : c.ask Threads.remote now f t
      = ((c.ask Backend.remote now f t.backend).1, (c.ask Backend.remote now f t.backend).2.1,
          { t with backend := (c.ask Backend.remote now f t.backend).2.2 }) := by
    cases hbody : c.execution.body.activity with
    | done result => rw [ask_done hbody, ask_done hbody]
    | call call next =>
      by_cases hready : Backend.remote.isReady call c.execution.body.since now t.backend = true
      · rw [ask_call_of_ready hbody hready]
        exact ask_call_of_ready hbody hready
      · rw [ask_call_of_waiting hbody hready]
        exact ask_call_of_waiting hbody hready
    | listen call next react =>
      by_cases hready : Backend.remote.isReady call c.execution.body.since now t.backend = true
      · rw [ask_listen_of_ready hbody hready]
        exact ask_listen_of_ready hbody hready
      · rw [ask_listen_of_waiting hbody hready]
        exact ask_listen_of_waiting hbody hready
    | sense next => rw [ask_sense hbody, ask_sense hbody]
  unfold access
  cases c.next with
  | resume => exact hask
  | ask => exact hask
  | sense react => rfl
  | check => rfl
  | nothing result => rfl

/-- The thread comes from one point to another while one thread runs everything. -/
def Turns (c : Caller α) (scene : Scene Threads) (c' : Caller α) (scene' : Scene Threads) : Prop :=
  ∃ schedule : List (Happening Threads.Move),
    OneThread schedule c scene ∧ c.follow Threads.services schedule scene = (c', scene')

theorem oneThread_append {first second : List (Happening Threads.Move)} {c : Caller α}
    {scene : Scene Threads} :
    OneThread (first ++ second) c scene ↔ OneThread first c scene ∧
      OneThread second (c.follow Threads.services first scene).1
        (c.follow Threads.services first scene).2 := by
  induction first generalizing c scene with
  | nil => exact ⟨fun h => ⟨trivial, h⟩, And.right⟩
  | cons h first ih =>
    show _ ∧ OneThread (first ++ second) _ _ ↔ (_ ∧ OneThread first _ _) ∧ _
    rw [ih, and_assoc]
    exact Iff.rfl

namespace Turns

variable {c c₁ c₂ : Caller α} {scene scene₁ scene₂ : Scene Threads}

theorem refl (c : Caller α) (scene : Scene Threads) : c.Turns scene c scene := ⟨[], trivial, rfl⟩

theorem trans (h : c.Turns scene c₁ scene₁) (hrest : c₁.Turns scene₁ c₂ scene₂) :
    c.Turns scene c₂ scene₂ := by
  obtain ⟨first, hfirst, hc₁⟩ := h
  obtain ⟨second, hsecond, hc₂⟩ := hrest
  refine ⟨first ++ second, oneThread_append.mpr ⟨hfirst, ?_⟩, ?_⟩
  · rw [hc₁]
    exact hsecond
  · rw [follow_append, hc₁]
    exact hc₂

theorem single {h : Happening Threads.Move} (hturn : c.InTurn scene.state h) :
    c.Turns scene (c.step Threads.services h scene).1 (c.step Threads.services h scene).2 :=
  ⟨[h], ⟨hturn, trivial⟩, rfl⟩

end Turns

theorem step_look_atRest (now : Nat) (c : Caller α) (f : Frame) (b : Backend) :
    c.step Threads.services .look (Scene.mk now f b).atRest
      = ((c.access Backend.remote now f b).1,
          (Scene.mk now (c.access Backend.remote now f b).2.1
            (c.access Backend.remote now f b).2.2).atRest) :=
  congrArg (fun p : Caller α × Frame × Threads => (p.1, Scene.mk now p.2.1 p.2.2))
    (access_threads now c f (Threads.atRest b))

/-- What nobody comes between is done in turn. -/
theorem Goes.turns {now : Nat} {p q : Caller α × Frame × Backend} (h : Goes Backend.remote now p q) :
    p.1.Turns (Scene.mk now p.2.1 p.2.2).atRest q.1 (Scene.mk now q.2.1 q.2.2).atRest := by
  induction h with
  | refl => exact .refl _ _
  | @tail q₀ q _ haccess ih =>
    have hlook : q₀.1.Turns (Scene.mk now q₀.2.1 q₀.2.2).atRest _ _ := .single (h := .look) rfl
    rw [step_look_atRest, haccess] at hlook
    exact ih.trans hlook

end Caller

end SchemaBatch
