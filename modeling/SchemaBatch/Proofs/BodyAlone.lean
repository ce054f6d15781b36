import Mathlib.Data.List.Induction
import SchemaBatch.Proofs.Interruptions

/-!
# `Proofs.BodyAlone` — a body without a frame, and the execution around it

What an execution does is told by its body alone, as long as no timer of the frame goes off. The body is
followed through the same happenings, told to stop or not, and the execution is where the body is.

The one who waits is awake: somebody looks at once, and again as soon as something has happened.

* `Solo` — a body with its services, and `Solo.step`, what one happening does to it.
* `Execution.look_ended`, `Execution.look_waits`, `Execution.look_interrupted` and their companions — **a look
  at an execution**, in terms of its body.
* `Execution.alarm` — the timer that goes off next; `Course.Shows` — a course shows the body as it is.
* `promptly`, `Solo.attend` — a look after each happening.
* `Execution.attend_shows` — **as long as no timer goes off, the execution goes the way of its body**;
  `Execution.attend_ended`, `Execution.attend_late` — how a race against a timer ends.
-/

namespace SchemaBatch

/-! ## The body alone -/

/-- A body with the services that it calls, and no frame around it. -/
structure Solo (σ α : Type) where
  now : Nat
  body : Engaged (Except SessionError α)
  state : σ

namespace Solo

variable {σ μ α : Type}

/-- What the body has come to. -/
def result? (p : Solo σ α) : Option (Except SessionError α) := p.body.result?

/-- One happening, for a body that is told to stop or not. -/
def step (services : Services σ μ) (told : Bool) (p : Solo σ α) : Happening μ → Solo σ α
  | .look =>
    let (body, state) := p.body.advance services.toRemote told p.now p.state
    ⟨p.now, body, state⟩
  | .pass duration => { p with now := p.now + duration }
  | .act _ => p
  | .move m => { p with state := services.move m p.now p.state }

/-- A schedule of happenings. -/
def follow (services : Services σ μ) (told : Bool) (hs : List (Happening μ)) (p : Solo σ α) : Solo σ α :=
  hs.foldl (step services told) p

variable {services : Services σ μ} {told : Bool} {p : Solo σ α}

theorem follow_append (first second : List (Happening μ)) :
    p.follow services told (first ++ second)
      = (p.follow services told first).follow services told second := List.foldl_append

theorem step_now (h : Happening μ) : (p.step services told h).now = p.now + h.duration := by
  cases h <;> rfl

/-- Only a look brings the body further. -/
theorem step_body {h : Happening μ} (hlook : h ≠ .look) : (p.step services told h).body = p.body := by
  cases h with
  | look => exact absurd rfl hlook
  | pass | act | move => rfl

/-- A body that has ended stays as it is. -/
theorem result?_step {r : Except SessionError α} (hr : p.result? = some r) (h : Happening μ) :
    (p.step services told h).result? = some r := by
  by_cases hlook : h = .look
  · subst hlook
    obtain ⟨now, ⟨activity, since⟩, state⟩ := p
    obtain rfl := Engaged.result?_eq_some_iff.mp hr
    rfl
  · rw [result?, step_body hlook]
    exact hr

theorem result?_follow {r : Except SessionError α} (hr : p.result? = some r) (hs : List (Happening μ)) :
    (p.follow services told hs).result? = some r := by
  induction hs generalizing p with
  | nil => exact hr
  | cons h hs ih => exact ih (result?_step hr h)

/-- A body that has not ended later has not ended before. -/
theorem unfinished_of_follow {hs : List (Happening μ)}
    (h : (p.follow services told hs).result? = none) : p.result? = none := by
  cases hr : p.result? with
  | none => rfl
  | some r => cases (result?_follow hr hs).symm.trans h

theorem unfinished_of_step {h : Happening μ} (hopen : (p.step services told h).result? = none) :
    p.result? = none :=
  unfinished_of_follow (show (p.follow services told [h]).result? = none from hopen)

end Solo

/-- A body that was brought up to date cannot be brought further at the same instant. -/
theorem Engaged.advance_advance {σ α : Type} (remote : Remote σ) (told : Bool) (now : Nat) (e : Engaged α)
    (s : σ) :
    (e.advance remote told now s).1.advance remote told now (e.advance remote told now s).2
      = e.advance remote told now s := by
  obtain ⟨activity, since⟩ := e
  show (advanceFrom remote told now activity since s).1.advance remote told now
    (advanceFrom remote told now activity since s).2 = advanceFrom remote told now activity since s
  fun_induction advanceFrom remote told now activity since s with
  | case1 => rfl
  | case2 since s c next hready ih => exact ih
  | case3 since s c next hready => exact if_neg hready
  | case4 since s c next react hready ih => exact ih
  | case5 since s c next react hready htold ih => exact ih
  | case6 since s c next react hready htold => exact (if_neg hready).trans (if_neg htold)
  | case7 since s next ih => exact ih

theorem Solo.step_look_look {σ μ α : Type} {services : Services σ μ} {told : Bool} {p : Solo σ α} :
    (p.step services told .look).step services told .look = p.step services told .look := by
  have hadvance := Engaged.advance_advance services.toRemote told p.now p.body p.state
  simp only [Solo.step, hadvance]

/-! ## The body in a frame -/

/-- A statement is registered in a frame, and was told to stop or not. -/
structure Frame.Holds (f : Frame) (own : Nat) (told : Bool) : Prop where
  registered : own ∈ f.tickets
  told : f.isSignalled own = told

/-- A signal to the statement tells it, -/
theorem Frame.Holds.signal {f : Frame} {own : Nat} {told : Bool} (h : f.Holds own told) :
    (f.signal own).Holds own true where
  registered := by rw [Frame.tickets_signal]; exact h.registered
  told := Frame.isSignalled_signal h.registered

/-- and so does a cancellation of the frame. -/
theorem Frame.Holds.cancel {f : Frame} {own : Nat} {told : Bool} (h : f.Holds own told) :
    f.cancel.2.Holds own true where
  registered := by rw [Frame.tickets_cancel]; exact h.registered
  told := Frame.isSignalled_cancel.mpr h.registered

/-- Nothing else does. -/
theorem Frame.Holds.act {f : Frame} {own : Nat} {told : Bool} (h : f.Holds own told) {act : Frame.Act}
    (hact : act = .cancel → told = true) : (f.act own act).Holds own told := by
  refine ⟨Frame.mem_tickets_act h.registered act, ?_⟩
  by_cases hcancel : act = .cancel
  · subst hcancel
    rw [hact rfl]
    exact h.cancel.told
  · rw [Frame.isSignalled_act_of_ne hcancel, h.told]

namespace Solo

variable {σ μ α : Type}

/-- The execution with this body, interrupted or not. -/
def framed (p : Solo σ α) (e : Execution α) (w : Option WindDown) : Execution α :=
  { e with body := p.body, windDown := w }

/-- The scene around it. -/
def scene (p : Solo σ α) (f : Frame) : Scene σ := ⟨p.now, f, p.state⟩

/-- The interruption of a body where it stands. -/
def interrupted (p : Solo σ α) (cause : Interruption) (grace : Nat) : WindDown := ⟨cause, p.now + grace⟩

end Solo

/-- What an execution returns when its body ends. -/
def WindDown.returned {α : Type} (label : Text) (result : Except SessionError α) :
    Option WindDown → Except SessionError α
  | none => result
  | some w => result.mapError (w.cause.recast label)

namespace Execution

variable {σ μ α : Type} {services : Services σ μ} {e : Execution α} {p : Solo σ α} {f : Frame}

theorem advance_framed {told : Bool} (hf : f.Holds e.ticket told) (w : Option WindDown) :
    (p.framed e w).advance services.toRemote p.now f p.state
      = ((p.step services told .look).framed e w, (p.step services told .look).state) := by
  have htold : f.isSignalled (p.framed e w).ticket = told := hf.told
  rw [advance, htold]
  rfl

/-- What a look finds of the body. -/
theorem result?_advance_framed {told : Bool} (hf : f.Holds e.ticket told) (w : Option WindDown) :
    ((p.framed e w).advance services.toRemote p.now f p.state).1.body.result?
      = (p.step services told .look).result? := by
  rw [advance_framed hf]
  rfl

/-- A body that has ended at a look ends the execution, whatever the hour. -/
theorem look_ended {told : Bool} {w : Option WindDown} (hf : f.Holds e.ticket told)
    {r : Except SessionError α} (hr : (p.step services told .look).result? = some r) :
    ((p.framed e w).look services (p.scene f)).status = .ready (WindDown.returned e.label r w) := by
  have hres := (result?_advance_framed hf w).trans hr
  show ((p.framed e w).poll services.toRemote p.now f p.state).1 = _
  cases w with
  | none => rw [poll_of_done rfl hres]; rfl
  | some w =>
    rw [poll_of_windDown rfl, pollWindDown]
    dsimp only
    rw [hres]
    rfl

/-- An interrupted body that has not ended goes on before the grace period is over. -/
theorem look_windDown_waits {told : Bool} {w : WindDown} (hf : f.Holds e.ticket told)
    (hr : (p.step services told .look).result? = none) (hlater : p.now < w.giveUp) :
    ((p.framed e (some w)).look services (p.scene f)).status
        = .pending ((p.step services told .look).framed e (some w)) ∧
      ((p.framed e (some w)).look services (p.scene f)).scene = (p.step services told .look).scene f := by
  have hpoll : (p.framed e (some w)).poll services.toRemote p.now f p.state
      = (.pending ((p.step services told .look).framed e (some w)), f,
          (p.step services told .look).state) := by
    rw [poll_of_windDown rfl, pollWindDown, advance_framed hf]
    dsimp only
    rw [show ((p.step services told .look).framed e (some w)).body.result? = none from hr]
    dsimp only
    rw [if_neg (Nat.not_le.mpr hlater)]
    rfl
  exact ⟨congrArg Prod.fst hpoll, by rw [look, Solo.scene, hpoll]; rfl⟩

/-- It is given up when the grace period is over. -/
theorem look_windDown_late {told : Bool} {w : WindDown} (hf : f.Holds e.ticket told)
    (hr : (p.step services told .look).result? = none) (hlate : w.giveUp ≤ p.now) :
    ((p.framed e (some w)).look services (p.scene f)).status
      = .ready (.error (w.cause.giveUpError e.label)) := by
  have hres := (result?_advance_framed hf (some w)).trans hr
  show ((p.framed e (some w)).poll services.toRemote p.now f p.state).1 = _
  rw [poll_of_windDown rfl, pollWindDown]
  dsimp only
  rw [hres]
  dsimp only
  rw [if_pos hlate]
  rfl

/-- A body that nothing interrupts goes on. -/
theorem look_waits {told : Bool} (hf : f.Holds e.ticket told)
    (hr : (p.step services told .look).result? = none)
    (hcause : (p.framed e none).interruptedBy p.now f = none) :
    ((p.framed e none).look services (p.scene f)).status
        = .pending ((p.step services told .look).framed e none) ∧
      ((p.framed e none).look services (p.scene f)).scene = (p.step services told .look).scene f := by
  have hpoll := poll_of_waiting rfl ((result?_advance_framed hf none).trans hr) hcause
  rw [advance_framed hf] at hpoll
  exact ⟨congrArg Prod.fst hpoll, by rw [look, Solo.scene, hpoll]; rfl⟩

/-- One that is interrupted goes on as if it had been told before the look. -/
theorem look_interrupted {told : Bool} (hf : f.Holds e.ticket told)
    (hr : (p.step services told .look).result? = none) {cause : Interruption}
    (hcause : (p.framed e none).interruptedBy p.now f = some cause) :
    let p' := p.step services told .look
    let w := p.interrupted cause f.grace
    ((p.framed e none).look services (p.scene f)).status
        = ((p'.framed e (some w)).look services (p'.scene (f.signal e.ticket))).status ∧
      ((p.framed e none).look services (p.scene f)).scene
        = ((p'.framed e (some w)).look services (p'.scene (f.signal e.ticket))).scene := by
  intro p' w
  have hpoll : (p.framed e none).poll services.toRemote p.now f p.state
      = (p'.framed e (some w)).poll services.toRemote p'.now (f.signal e.ticket) p'.state := by
    rw [poll_of_interrupted rfl ((result?_advance_framed hf none).trans hr) hcause, advance_framed hf,
      poll_of_windDown rfl]
    rfl
  exact ⟨congrArg Prod.fst hpoll, by rw [look, look, Solo.scene, Solo.scene, hpoll]; rfl⟩

/-- A wind-down goes on from where the body was brought to as it goes on from where it was. -/
theorem look_windDown_step (services : Services σ μ) {told : Bool} (hf : f.Holds e.ticket told)
    (w : WindDown) :
    let p' := p.step services told .look
    ((p'.framed e (some w)).look services (p'.scene f)).status
        = ((p.framed e (some w)).look services (p.scene f)).status ∧
      ((p'.framed e (some w)).look services (p'.scene f)).scene
        = ((p.framed e (some w)).look services (p.scene f)).scene := by
  intro p'
  have hpoll : (p'.framed e (some w)).poll services.toRemote p'.now f p'.state
      = (p.framed e (some w)).poll services.toRemote p.now f p.state := by
    rw [poll_of_windDown rfl, poll_of_windDown rfl, pollWindDown, pollWindDown, advance_framed hf,
      advance_framed hf, Solo.step_look_look]
    rfl
  exact ⟨congrArg Prod.fst hpoll, by rw [look, look, Solo.scene, Solo.scene, hpoll]; rfl⟩

/-! ## As long as no alarm goes off -/

/-- The instant at which the next timer of the execution goes off: that of the timeout, or that of the grace
period once it is interrupted. -/
def alarm (e : Execution α) : Option WindDown → Option Nat
  | none => e.deadline
  | some w => some w.giveUp

end Execution

/-- The course shows the body as it is: it waits with it, or has ended with it. -/
inductive Course.Shows {σ α : Type} (e : Execution α) (w : Option WindDown) (grace : Nat) (p : Solo σ α)
    (c : Course σ α) : Prop where
  | waits {f : Frame} (hopen : p.result? = none) (hf : f.Holds e.ticket w.isSome)
      (hgrace : f.grace = grace) (hstatus : c.status = .pending (p.framed e w)) (hscene : c.scene = p.scene f)
  | ended {r : Except SessionError α} (hr : p.result? = some r)
      (hstatus : c.status = .ready (WindDown.returned e.label r w))

namespace Execution

variable {σ μ α : Type} {services : Services σ μ} {e : Execution α} {p : Solo σ α} {f : Frame}
  {w : Option WindDown}

/-- No timer has gone off while the timeout has not passed. -/
theorem lt_alarm {now duration : Nat} (hbegun : e.begun = now)
    (htime : ∀ T, e.timeout = some T → duration < T) : ∀ t ∈ e.alarm none, now + duration < t := by
  intro t ht
  obtain ⟨T, hT, rfl⟩ := Option.map_eq_some_iff.mp ht
  rw [hbegun]
  exact Nat.add_lt_add_left (htime T hT) now

theorem interruptedBy_framed_eq_none (hf : f.Holds e.ticket false)
    (htime : ∀ t ∈ e.deadline, p.now < t) : (p.framed e none).interruptedBy p.now f = none := by
  cases hcause : (p.framed e none).interruptedBy p.now f with
  | none => rfl
  | some cause =>
    have hjustified := justified_of_interruptedBy hcause
    cases cause with
    | cancelled => cases hf.told.symm.trans hjustified
    | timedOut T =>
      obtain ⟨hT, hpassed⟩ := hjustified
      have hdeadline : e.begun + T ∈ e.deadline := Option.map_eq_some_iff.mpr ⟨T, hT, rfl⟩
      exact absurd hpassed (Nat.not_le.mpr (htime _ hdeadline))

theorem interruptedBy_framed_of_passed {T : Nat} (hf : f.Holds e.ticket false) (hT : e.timeout = some T)
    (hpassed : e.begun + T ≤ p.now) : (p.framed e none).interruptedBy p.now f = some (.timedOut T) := by
  have huntold : f.isSignalled (p.framed e none).ticket = false := hf.told
  have htimeout : (p.framed e none).timeout = some T := hT
  rw [interruptedBy, huntold, if_neg Bool.false_ne_true, htimeout]
  exact if_pos hpassed

/-- At one happening the execution goes the way of its body. -/
theorem step_shows {h : Happening μ} (hcancel : h = .act .cancel → w.isSome = true)
    (hopen : h ≠ .look → p.result? = none) (hf : f.Holds e.ticket w.isSome)
    (htime : ∀ t ∈ e.alarm w, p.now < t) :
    Course.Shows e w (h.graceAfter f.grace) (p.step services w.isSome h)
      ((p.framed e w).step services h (p.scene f)) := by
  cases h with
  | look =>
    cases hr : (p.step services w.isSome .look).result? with
    | some r => exact .ended hr (look_ended hf hr)
    | none =>
      cases w with
      | none =>
        obtain ⟨hstatus, hscene⟩ := look_waits hf hr (interruptedBy_framed_eq_none hf htime)
        exact .waits hr hf rfl hstatus hscene
      | some w =>
        obtain ⟨hstatus, hscene⟩ := look_windDown_waits hf hr (htime _ rfl)
        exact .waits hr hf rfl hstatus hscene
  | pass duration => exact .waits (hopen nofun) hf rfl rfl rfl
  | act act =>
    have hact : act = .cancel → w.isSome = true := fun h => hcancel (congrArg _ h)
    exact .waits (hopen nofun) (hf.act hact) (Frame.grace_act _ f act) rfl rfl
  | move m => exact .waits (hopen nofun) hf rfl rfl rfl

theorem follow_singleton (services : Services σ μ) (h : Happening μ) (e : Execution α) (scene : Scene σ) :
    (e.follow services [h] scene).status = (e.step services h scene).status ∧
      (e.follow services [h] scene).scene = (e.step services h scene).scene := by
  cases hp : (e.step services h scene).status with
  | ready result => rw [follow_of_ready hp]; exact ⟨hp, rfl⟩
  | pending e' => rw [follow_of_pending hp]; exact ⟨rfl, rfl⟩

end Execution

namespace Course.Shows

open Execution

variable {σ μ α : Type} {services : Services σ μ} {e e₀ : Execution α} {p : Solo σ α} {scene₀ : Scene σ}
  {w : Option WindDown} {grace : Nat} {l : List (Happening μ)}

theorem congr {c c' : Course σ α} (h : Course.Shows e w grace p c) (hstatus : c'.status = c.status)
    (hscene : c'.scene = c.scene) : Course.Shows e w grace p c' := by
  cases h with
  | waits hopen hf hgrace hs hsc => exact .waits hopen hf hgrace (hstatus.trans hs) (hscene.trans hsc)
  | ended hr hs => exact .ended hr (hstatus.trans hs)

/-- One happening more. -/
theorem snoc (hshows : Course.Shows e w grace p (e₀.follow services l scene₀)) {h : Happening μ}
    (hcancel : h = .act .cancel → w.isSome = true) (htime : ∀ t ∈ e.alarm w, p.now < t) :
    Course.Shows e w (h.graceAfter grace) (p.step services w.isSome h)
      (e₀.follow services (l ++ [h]) scene₀) := by
  cases hshows with
  | waits hopen hf hgrace hstatus hscene =>
    obtain ⟨hstatus', hscene'⟩ := follow_singleton services h (p.framed e w) (p.scene _)
    rw [follow_append hstatus, hscene, ← hgrace]
    exact (step_shows hcancel (fun _ => hopen) hf htime).congr hstatus' hscene'
  | ended hr hstatus =>
    rw [follow_append_of_ready hstatus]
    exact .ended (Solo.result?_step hr h) hstatus

/-- A look that finds the body at its end, whatever the hour. -/
theorem look_ended (hshows : Course.Shows e w grace p (e₀.follow services l scene₀))
    {r : Except SessionError α} (hr : (p.step services w.isSome .look).result? = some r) :
    (e₀.follow services (l ++ [.look]) scene₀).status = .ready (WindDown.returned e.label r w) := by
  cases hshows with
  | waits hopen hf hgrace hstatus hscene =>
    rw [follow_append hstatus, hscene]
    exact (follow_singleton services .look _ _).1.trans (Execution.look_ended hf hr)
  | ended hr' hstatus =>
    rw [follow_append_of_ready hstatus, hstatus]
    cases (Solo.result?_step hr' .look).symm.trans hr
    rfl

/-- If the body has not ended, the execution still waits. -/
theorem waiting (hshows : Course.Shows e w grace p (e₀.follow services l scene₀)) (hopen : p.result? = none) :
    ∃ f : Frame, f.Holds e.ticket w.isSome ∧ f.grace = grace ∧ ∀ rest,
      (e₀.follow services (l ++ rest) scene₀).status
        = ((p.framed e w).follow services rest (p.scene f)).status := by
  cases hshows with
  | waits hopen' hf hgrace hstatus hscene =>
    refine ⟨_, hf, hgrace, fun rest => ?_⟩
    rw [follow_append hstatus, hscene]
    rfl
  | ended hr => cases hr.symm.trans hopen

end Course.Shows

/-! ## Somebody who is awake -/

section Schedule

variable {μ : Type}

/-- The happenings, with a look after each of them. -/
def promptly (hs : List (Happening μ)) : List (Happening μ) := hs.flatMap fun h => [h, .look]

theorem promptly_append (first second : List (Happening μ)) :
    promptly (first ++ second) = promptly first ++ promptly second := List.flatMap_append

/-- The last happening comes before the last look. -/
theorem look_promptly_concat (hs : List (Happening μ)) (h : Happening μ) :
    .look :: promptly (hs ++ [h]) = (.look :: promptly hs) ++ [h] ++ [.look] := by
  rw [promptly_append, List.append_assoc]
  rfl

/-- The time is not over before the last of the happenings. It may be over with the last: the body is looked
at first then, and still ends in time. -/
def Within (limit : Nat) (hs : List (Happening μ)) : Prop := hs = [] ∨ elapsed hs.dropLast < limit

theorem elapsed_append (first second : List (Happening μ)) :
    elapsed (first ++ second) = elapsed first + elapsed second := by
  induction first with
  | nil => exact (Nat.zero_add _).symm
  | cons h first ih => rw [List.cons_append, elapsed, ih, elapsed, Nat.add_assoc]

theorem elapsed_concat (hs : List (Happening μ)) (h : Happening μ) :
    elapsed (hs ++ [h]) = elapsed hs + h.duration := elapsed_append hs [h]

theorem graceAfter_append (grace : Nat) (first second : List (Happening μ)) :
    graceAfter grace (first ++ second) = graceAfter (graceAfter grace first) second := List.foldl_append

end Schedule

namespace Solo

variable {σ μ α : Type} {services : Services σ μ} {told : Bool} {p : Solo σ α}

/-- The body under the eyes of somebody who looks at once, and again after each happening. -/
def attend (services : Services σ μ) (told : Bool) (hs : List (Happening μ)) (p : Solo σ α) : Solo σ α :=
  p.follow services told (.look :: promptly hs)

theorem attend_concat (hs : List (Happening μ)) (h : Happening μ) :
    p.attend services told (hs ++ [h])
      = ((p.attend services told hs).step services told h).step services told .look := by
  rw [attend, look_promptly_concat, follow_append, follow_append]
  rfl

theorem attend_now (hs : List (Happening μ)) : (p.attend services told hs).now = p.now + elapsed hs := by
  induction hs using List.reverseRecOn with
  | nil => rfl
  | append_singleton hs h ih =>
    rw [attend_concat, step_now, step_now, ih, elapsed_concat, Nat.add_assoc p.now]
    rfl

/-- A body that has not ended later has not ended before. -/
theorem unfinished_of_attend_append {hs more : List (Happening μ)}
    (h : (p.attend services told (hs ++ more)).result? = none) :
    (p.attend services told hs).result? = none := by
  rw [attend, promptly_append, ← List.cons_append, follow_append] at h
  exact unfinished_of_follow h

end Solo

namespace Execution

variable {σ μ α : Type} {services : Services σ μ} {e : Execution α} {p : Solo σ α} {f : Frame}
  {w : Option WindDown} {hs : List (Happening μ)}

/-- **As long as no alarm goes off, the execution goes the way of its body.** -/
theorem attend_shows (services : Services σ μ) (hcancel : .act .cancel ∈ hs → w.isSome = true)
    (hf : f.Holds e.ticket w.isSome) (htime : ∀ t ∈ e.alarm w, p.now + elapsed hs < t) :
    Course.Shows e w (graceAfter f.grace hs) (p.attend services w.isSome hs)
      ((p.framed e w).follow services (.look :: promptly hs) (p.scene f)) := by
  induction hs using List.reverseRecOn with
  | nil =>
    obtain ⟨hstatus, hscene⟩ := follow_singleton services .look (p.framed e w) (p.scene f)
    exact (step_shows (h := .look) nofun (absurd rfl) hf htime).congr hstatus hscene
  | append_singleton hs h ih =>
    rw [elapsed_concat] at htime
    have hbefore : ∀ t ∈ e.alarm w, p.now + elapsed hs < t := fun t ht => by
      have hlt := htime t ht
      omega
    have hshows := ih (fun hmem => hcancel (List.mem_append_left _ hmem)) hbefore
    have hnow : (p.attend services w.isSome hs).now = p.now + elapsed hs := Solo.attend_now hs
    have hnext := hshows.snoc (h := h) (fun hh => hcancel (by simp [hh])) (hnow ▸ hbefore)
    have hnext' : ∀ t ∈ e.alarm w, ((p.attend services w.isSome hs).step services w.isSome h).now < t := by
      rw [Solo.step_now, hnow, Nat.add_assoc]
      exact htime
    have hlook := hnext.snoc (h := .look) nofun hnext'
    rw [Solo.attend_concat, look_promptly_concat, graceAfter_append]
    exact hlook

/-- So it does up to the last look, if none goes off before the last happening. -/
theorem exists_shows_before_look (services : Services σ μ)
    (hcancel : .act .cancel ∈ hs → w.isSome = true)
    (hopen : hs = [] → p.result? = none) (hf : f.Holds e.ticket w.isSome)
    (htime : ∀ t ∈ e.alarm w, hs = [] ∨ p.now + elapsed hs.dropLast < t) :
    ∃ l p', .look :: promptly hs = l ++ [.look] ∧
      p.attend services w.isSome hs = p'.step services w.isSome .look ∧ p'.now = p.now + elapsed hs ∧
      Course.Shows e w (graceAfter f.grace hs) p' ((p.framed e w).follow services l (p.scene f)) := by
  cases hs using List.reverseRecOn with
  | nil => exact ⟨[], p, rfl, rfl, rfl, .waits (hopen rfl) hf rfl rfl rfl⟩
  | append_singleton hs h =>
    have hbefore : ∀ t ∈ e.alarm w, p.now + elapsed hs < t := fun t ht => by
      simpa using htime t ht
    have hshows := attend_shows services (fun hmem => hcancel (List.mem_append_left _ hmem)) hf hbefore
    have hnow : (p.attend services w.isSome hs).now = p.now + elapsed hs := Solo.attend_now hs
    have hnext := hshows.snoc (h := h) (fun hh => hcancel (by simp [hh])) (hnow ▸ hbefore)
    refine ⟨_, _, look_promptly_concat hs h, Solo.attend_concat hs h, ?_, ?_⟩
    · rw [Solo.step_now, hnow, elapsed_concat, Nat.add_assoc]
    · rw [graceAfter_append]
      exact hnext

/-- None has gone off before the last happening if the timeout has not passed before it. -/
theorem within_alarm (hbegun : e.begun = p.now) (htime : ∀ T, e.timeout = some T → Within T hs) :
    ∀ t ∈ e.alarm none, hs = [] ∨ p.now + elapsed hs.dropLast < t := by
  intro t ht
  by_cases hempty : hs = []
  · exact .inl hempty
  · exact .inr (lt_alarm hbegun (fun T hT => (htime T hT).resolve_left hempty) t ht)

/-- A body that ends in time ends the execution, also at the instant at which the time is over. -/
theorem attend_ended (hcancel : .act .cancel ∈ hs → w.isSome = true) (hf : f.Holds e.ticket w.isSome)
    (htime : ∀ t ∈ e.alarm w, hs = [] ∨ p.now + elapsed hs.dropLast < t) {r : Except SessionError α}
    (hr : (p.attend services w.isSome hs).result? = some r) :
    ((p.framed e w).follow services (.look :: promptly hs) (p.scene f)).status
      = .ready (WindDown.returned e.label r w) := by
  by_cases hempty : hs = []
  · subst hempty
    exact (follow_singleton services .look _ _).1.trans (look_ended hf hr)
  · obtain ⟨l, p', hl, hp', _, hshows⟩ :=
      exists_shows_before_look services hcancel (fun h => absurd h hempty) hf htime
    rw [hp'] at hr
    rw [hl]
    exact hshows.look_ended hr

/-- A body that has not ended when its grace period is over is given up. -/
theorem attend_late {w : WindDown} (hf : f.Holds e.ticket true)
    (hopen : (p.attend services true hs).result? = none) (hlate : w.giveUp ≤ p.now + elapsed hs) :
    ((p.framed e (some w)).follow services (.look :: promptly hs) (p.scene f)).status
      = .ready (.error (w.cause.giveUpError e.label)) := by
  induction hs using List.reverseRecOn with
  | nil => exact (follow_singleton services .look _ _).1.trans (look_windDown_late hf hopen hlate)
  | append_singleton hs h ih =>
    by_cases hbefore : w.giveUp ≤ p.now + elapsed hs
    · -- it was given up before
      have hstatus := ih (Solo.unfinished_of_attend_append hopen) hbefore
      rw [look_promptly_concat, List.append_assoc, follow_append_of_ready hstatus, hstatus]
    · have htime : ∀ t ∈ e.alarm (some w), hs ++ [h] = [] ∨ p.now + elapsed (hs ++ [h]).dropLast < t := by
        rintro t ⟨⟩
        exact .inr (by simpa using hbefore)
      obtain ⟨l, p', hl, hp', hnow, hshows⟩ :=
        exists_shows_before_look services (w := some w) (fun _ => rfl) (fun h => absurd h (by simp)) hf htime
      have hp'' : (p'.step services true .look).result? = none := hp' ▸ hopen
      obtain ⟨f', hf', _, hstatus⟩ := hshows.waiting (Solo.unfinished_of_step hp'')
      rw [hl, hstatus]
      exact (follow_singleton services .look _ _).1.trans (look_windDown_late hf' hp'' (hnow ▸ hlate))

end Execution

end SchemaBatch
