import Mathlib.Data.List.Induction
import SchemaBatch.Proofs.Interruptions

/-!
# `Proofs.FrameTraffic` — many statements in one frame

Whoever holds a frame can start statements in it, drop them, cancel and set the timeout, at any time and
in any order. A **traffic** is a frame with all statements that were ever started in it, and a history of
turns is carried out on it one after the other. To say something of every history is to say it of every
interleaving, at every moment.

* `Stage`, `Traffic`, `Turn`, `Traffic.perform`, `Traffic.play` — histories.
* `Execution.look_effect` — what one look does to the frame, by cases.
* `Traffic.Sound` — the invariant: the statements in progress are those that the frame has registered,
  each under its own position. `Traffic.Sound.perform` proves it of one turn.
* `Traffic.Account` — what a history says of one statement: the timeout that it is under, who told it to
  stop, and why it was interrupted. `Traffic.Account.perform` takes it through one turn.
* `Traffic.orderly` — **every history is orderly**: the frame has registered the statements in progress,
  a cancellation reaches them, and no others, and each is under the timeout of its start.
-/

universe u

namespace SchemaBatch

/-! ## Histories -/

/-- What has become of a statement that was started. -/
inductive Stage : Type 1 where
  /-- It is in progress. -/
  | live {α : Type} (e : Execution α)
  /-- It has ended, after an interruption by the frame or without one. -/
  | ended {α : Type} (result : Except SessionError α) (windDown : Option WindDown)
  /-- It was dropped where it stood. -/
  | dropped

namespace Stage

/-- Whether the statement is in progress. -/
def isLive : Stage → Bool
  | live _ => true
  | _ => false

/-- The interruption by the frame, if there was one. -/
def windDown? : Stage → Option WindDown
  | live e => e.windDown
  | ended _ windDown => windDown
  | dropped => none

/-- What a look makes of a statement. -/
def ofCourse {σ α : Type} (c : Course σ α) : Stage :=
  match c.status with
  | .ready result => ended result c.windDown
  | .pending e => live e

/-- The positions of the statements that are in progress. -/
def positions (stages : List Stage) : List Nat :=
  (List.range stages.length).filter fun i => stages[i]?.any isLive

theorem mem_positions {stages : List Stage} {i : Nat} :
    i ∈ positions stages ↔ ∃ stage, stages[i]? = some stage ∧ stage.isLive = true := by
  unfold positions
  rw [List.mem_filter, List.mem_range, Option.any_eq_true]
  constructor
  · exact fun h => h.2
  · rintro ⟨stage, hstage, hlive⟩
    exact ⟨(List.getElem?_eq_some_iff.mp hstage).1, stage, hstage, hlive⟩

theorem isLive_iff {stage : Stage} :
    stage.isLive = true ↔ ∃ (α : Type) (e : Execution α), stage = live e := by
  cases stage with
  | live e => exact ⟨fun _ => ⟨_, e, rfl⟩, fun _ => rfl⟩
  | ended result windDown => exact ⟨nofun, nofun⟩
  | dropped => exact ⟨nofun, nofun⟩

theorem positions_concat {stages : List Stage} {stage : Stage} (hlive : stage.isLive = true) :
    positions (stages ++ [stage]) = positions stages ++ [stages.length] := by
  unfold positions
  rw [List.length_append, List.length_singleton, List.range_succ, List.filter_append]
  congr 1
  · -- the statements before are where they were
    apply List.filter_congr
    intro i hi
    rw [List.getElem?_append_left (List.mem_range.mp hi)]
  · simp [hlive]

/-- A statement that goes on keeps its position. -/
theorem positions_set_live {stages : List Stage} {i : Nat} {stage stage' : Stage}
    (hstage : stages[i]? = some stage) (hlive : stage.isLive = true) (hlive' : stage'.isLive = true) :
    positions (stages.set i stage') = positions stages := by
  have hlt := (List.getElem?_eq_some_iff.mp hstage).1
  unfold positions
  rw [List.length_set]
  apply List.filter_congr
  intro j _
  by_cases hj : i = j
  · subst hj
    rw [List.getElem?_set_self hlt, hstage, Option.any_some, Option.any_some, hlive, hlive']
  · rw [List.getElem?_set_ne hj]

/-- One that does not leaves it, and the others stay. -/
theorem positions_set_over {stages : List Stage} {i : Nat} {stage' : Stage}
    (hover : stage'.isLive = false) :
    positions (stages.set i stage') = (positions stages).filter (· != i) := by
  unfold positions
  rw [List.length_set, List.filter_filter]
  apply List.filter_congr
  intro j hj
  by_cases hij : i = j
  · subst hij
    rw [List.getElem?_set_self (List.mem_range.mp hj)]
    simp [hover]
  · rw [List.getElem?_set_ne hij]
    simp [Ne.symm hij]

end Stage

/-- A frame with its surroundings, and all statements that were started in it. -/
structure Traffic (σ : Type) where
  scene : Scene σ
  /-- The statements, in the order in which they were started. -/
  stages : List Stage

/-- Something that happens in a traffic. -/
inductive Turn (μ : Type) : Type 1 where
  /-- A statement starts. -/
  | start {α : Type} (label : Text) (activity : Activity (Except SessionError α))
  /-- The one who waits for the statement at a position looks. -/
  | look (index : Nat)
  /-- The statement at a position is dropped where it stands. -/
  | drop (index : Nat)
  | cancel
  | setTimeout (timeout : Option Nat)
  | setGrace (grace : Nat)
  /-- Time passes. -/
  | pass (duration : Nat)
  /-- The services move. -/
  | move (m : μ)

namespace Turn

variable {μ : Type}

/-- Whether a statement starts. -/
def isStart : Turn μ → Bool
  | start _ _ => true
  | _ => false

/-- The position of the statement that a turn is about. -/
def target? : Turn μ → Option Nat
  | look index | drop index => some index
  | _ => none

/-- The time that a turn takes. -/
def duration : Turn μ → Nat
  | pass duration => duration
  | _ => 0

/-- The timeout that is set after a turn. -/
def timeoutAfter (timeout : Option Nat) : Turn μ → Option Nat
  | setTimeout timeout => timeout
  | _ => timeout

end Turn

namespace Traffic

variable {σ μ : Type}

/-- What `act` makes of the statement at a position, if it is in progress. -/
def onLive {β : Type u} (t : Traffic σ) (index : Nat) (otherwise : β)
    (act : {α : Type} → Execution α → β) : β :=
  match t.stages[index]? with
  | some (.live e) => act e
  | _ => otherwise

/-- The traffic after a turn. -/
def perform (services : Services σ μ) (t : Traffic σ) : Turn μ → Traffic σ
  | .start label activity =>
    let (e, frame) := Execution.start label activity t.scene.now t.scene.frame
    ⟨{ t.scene with frame }, t.stages ++ [.live e]⟩
  | .look index => t.onLive index t fun e =>
    let c := e.look services t.scene
    ⟨c.scene, t.stages.set index (.ofCourse c)⟩
  | .drop index => t.onLive index t fun e =>
    ⟨{ t.scene with frame := t.scene.frame.release e.ticket }, t.stages.set index .dropped⟩
  | .cancel => { t with scene.frame := t.scene.frame.cancel.2 }
  | .setTimeout timeout => { t with scene.frame := t.scene.frame.setTimeout timeout }
  | .setGrace grace => { t with scene.frame := t.scene.frame.setGrace grace }
  | .pass duration => { t with scene.now := t.scene.now + duration }
  | .move m => { t with scene.state := services.move m t.scene.now t.scene.state }

/-- The traffic after a history. -/
def play (services : Services σ μ) (history : List (Turn μ)) (t : Traffic σ) : Traffic σ :=
  history.foldl (perform services) t

/-- A frame in which nothing has started yet. -/
def opened (timeout : Option Nat) (grace now : Nat) (state : σ) : Traffic σ :=
  ⟨⟨now, Frame.idle timeout grace, state⟩, []⟩

/-- The positions of the statements that were started and have neither ended nor been dropped. -/
def inProgress (t : Traffic σ) : List Nat := Stage.positions t.stages

/-! ### What a history says -/

/-- The number of statements that were started. -/
def starts (history : List (Turn μ)) : Nat := history.countP Turn.isStart

/-- The time that a history takes. -/
def elapsed (history : List (Turn μ)) : Nat :=
  history.foldl (fun time turn => time + turn.duration) 0

/-- The timeout that is set after a history. -/
def timeoutIn (timeout : Option Nat) (history : List (Turn μ)) : Option Nat :=
  history.foldl Turn.timeoutAfter timeout

theorem play_append (services : Services σ μ) (history history' : List (Turn μ)) (t : Traffic σ) :
    play services (history ++ history') t = play services history' (play services history t) :=
  List.foldl_append

theorem play_concat (services : Services σ μ) (history : List (Turn μ)) (turn : Turn μ)
    (t : Traffic σ) :
    play services (history ++ [turn]) t = (play services history t).perform services turn :=
  play_append services history [turn] t

theorem starts_concat (history : List (Turn μ)) (turn : Turn μ) :
    starts (history ++ [turn]) = starts history + if turn.isStart then 1 else 0 := by
  unfold starts
  rw [List.countP_append, List.countP_singleton]

theorem elapsed_concat (history : List (Turn μ)) (turn : Turn μ) :
    elapsed (history ++ [turn]) = elapsed history + turn.duration := by
  unfold elapsed
  rw [List.foldl_append]
  rfl

theorem timeoutIn_concat (timeout : Option Nat) (history : List (Turn μ)) (turn : Turn μ) :
    timeoutIn timeout (history ++ [turn]) = turn.timeoutAfter (timeoutIn timeout history) := by
  unfold timeoutIn
  rw [List.foldl_append]
  rfl

end Traffic

/-! ## One look -/

namespace Execution

variable {σ μ α : Type}

theorem pollWindDown_frame (remote : Remote σ) (now : Nat) (w : WindDown) (e : Execution α)
    (f : Frame) (s : σ) :
    (∃ result, (e.pollWindDown remote now w f s).1 = .ready result ∧
      (e.pollWindDown remote now w f s).2.1 = f.release e.ticket) ∨
    (∃ e', (e.pollWindDown remote now w f s).1 = .pending e' ∧ e'.windDown = some w ∧
      (e.pollWindDown remote now w f s).2.1 = f) := by
  unfold pollWindDown
  dsimp only
  split
  · exact .inl ⟨_, rfl, rfl⟩
  · split
    · exact .inl ⟨_, rfl, rfl⟩
    · exact .inr ⟨_, rfl, rfl, rfl⟩

/-- **What a look does to the frame.** It takes an execution that ends out of the frame, leaves the frame
alone, or tells an execution to stop that it interrupts. -/
theorem look_effect (services : Services σ μ) (e : Execution α) (scene : Scene σ) :
    (∃ result, (e.look services scene).status = .ready result ∧
      (e.look services scene).scene.frame = scene.frame.release e.ticket) ∨
    (∃ e', (e.look services scene).status = .pending e' ∧ e'.windDown = e.windDown ∧
      (e.look services scene).scene.frame = scene.frame) ∨
    (∃ e', (e.look services scene).status = .pending e' ∧ e.windDown = none ∧ e'.windDown ≠ none ∧
      (e.look services scene).scene.frame = scene.frame.signal e.ticket) := by
  obtain ⟨now, f, s⟩ := scene
  have hstatus : (e.look services ⟨now, f, s⟩).status = (e.poll services.toRemote now f s).1 := rfl
  have hframe : (e.look services ⟨now, f, s⟩).scene.frame
      = (e.poll services.toRemote now f s).2.1 := rfl
  rw [hstatus, hframe]
  cases hw : e.windDown with
  | some w =>
    rw [poll_of_windDown hw]
    exact (pollWindDown_frame services.toRemote now w e f s).imp_right .inl
  | none =>
    cases hres : (e.advance services.toRemote now f s).1.body.result? with
    | some result =>
      rw [poll_of_done hw hres]
      exact .inl ⟨result, rfl, rfl⟩
    | none =>
      cases hc : e.interruptedBy now f with
      | none =>
        rw [poll_of_waiting hw hres hc]
        exact .inr (.inl ⟨_, rfl, hw, rfl⟩)
      | some cause =>
        rw [poll_of_interrupted hw hres hc]
        rcases pollWindDown_frame services.toRemote now ⟨cause, now + f.grace⟩
            (e.advance services.toRemote now f s).1 (f.signal e.ticket)
            (e.advance services.toRemote now f s).2 with ⟨result, hp, hf⟩ | ⟨e', hp, hw', hf⟩
        · -- told to stop and taken out of the frame at once
          exact .inl ⟨result, hp, hf.trans (f.release_signal e.ticket)⟩
        · exact .inr (.inr ⟨e', hp, rfl, by simp [hw'], hf⟩)

end Execution

namespace Traffic

variable {σ μ : Type} {services : Services σ μ} {t : Traffic σ}

theorem mem_inProgress {i : Nat} :
    i ∈ t.inProgress ↔ ∃ (α : Type) (e : Execution α), t.stages[i]? = some (.live e) := by
  unfold inProgress
  rw [Stage.mem_positions]
  constructor
  · rintro ⟨stage, hstage, hlive⟩
    obtain ⟨α, e, rfl⟩ := Stage.isLive_iff.mp hlive
    exact ⟨α, e, hstage⟩
  · rintro ⟨α, e, hstage⟩
    exact ⟨_, hstage, rfl⟩

theorem onLive_of_live {β : Type u} {index : Nat} {α : Type} {e : Execution α}
    (hlive : t.stages[index]? = some (.live e)) (otherwise : β)
    (act : {α : Type} → Execution α → β) : t.onLive index otherwise act = act e := by
  unfold onLive
  rw [hlive]

theorem onLive_of_not_mem {β : Type u} {index : Nat} (hover : index ∉ t.inProgress) (otherwise : β)
    (act : {α : Type} → Execution α → β) : t.onLive index otherwise act = otherwise := by
  unfold onLive
  split
  · rename_i e hlive
    exact absurd (mem_inProgress.mpr ⟨_, e, hlive⟩) hover
  · rfl

/-! ## The frame and the statements in progress -/

/-- **The invariant of a traffic**: the frame has the statements in progress registered, and no others,
each under its own position. -/
structure Sound (t : Traffic σ) : Prop where
  registered : t.scene.frame.tickets = t.inProgress
  own : ∀ {i : Nat} {α : Type} {e : Execution α}, t.stages[i]? = some (.live e) → e.ticket = i
  next : t.scene.frame.nextTicket = t.stages.length

theorem Sound.opened (timeout : Option Nat) (grace now : Nat) (state : σ) :
    (opened timeout grace now state).Sound := ⟨rfl, nofun, rfl⟩

/-- A frame with the same tickets leaves a traffic sound. -/
theorem Sound.of_frame (h : t.Sound) {scene : Scene σ}
    (htickets : scene.frame.tickets = t.scene.frame.tickets)
    (hnext : scene.frame.nextTicket = t.scene.frame.nextTicket) :
    Sound ⟨scene, t.stages⟩ where
  registered := htickets.trans h.registered
  own := h.own
  next := hnext.trans h.next

theorem Sound.start (h : t.Sound) {α : Type} (label : Text)
    (activity : Activity (Except SessionError α)) :
    (t.perform services (.start label activity)).Sound where
  registered := by
    show t.scene.frame.register.2.tickets = Stage.positions (t.stages ++ [.live _])
    rw [Stage.positions_concat rfl, Frame.tickets_register, h.registered, h.next]
    rfl
  own := by
    intro i α' e he
    change (t.stages ++ [_])[i]? = _ at he
    rcases Nat.lt_or_ge i t.stages.length with hi | hi
    · rw [List.getElem?_append_left hi] at he
      exact h.own he
    · -- the new statement has the next ticket, which is its position
      rw [List.getElem?_append_right hi, List.getElem?_singleton] at he
      split at he
      · rename_i hlast
        cases he
        show t.scene.frame.nextTicket = i
        rw [h.next]
        omega
      · cases he
  next := by
    show t.scene.frame.nextTicket + 1 = (t.stages ++ [_]).length
    rw [List.length_append]
    exact congrArg (· + 1) h.next

/-- A statement that goes on leaves the traffic sound, -/
theorem Sound.set_live (h : t.Sound) {i : Nat} {α : Type} {e e' : Execution α}
    (he : t.stages[i]? = some (.live e)) (hsame : e'.ticket = e.ticket) {scene : Scene σ}
    (htickets : scene.frame.tickets = t.scene.frame.tickets)
    (hnext : scene.frame.nextTicket = t.scene.frame.nextTicket) :
    Sound ⟨scene, t.stages.set i (.live e')⟩ where
  registered := by
    rw [htickets, h.registered]
    exact (Stage.positions_set_live he rfl rfl).symm
  own := by
    intro j α' e₁ hj
    by_cases hij : i = j
    · subst hij
      rw [List.getElem?_set_self (List.getElem?_eq_some_iff.mp he).1] at hj
      cases hj
      exact hsame.trans (h.own he)
    · rw [List.getElem?_set_ne hij] at hj
      exact h.own hj
  next := by
    rw [hnext, h.next, List.length_set]

/-- and so does one that is over, when the frame has let go of it. -/
theorem Sound.set_over (h : t.Sound) {i : Nat} {stage : Stage} (hover : stage.isLive = false)
    {scene : Scene σ} (hframe : scene.frame = t.scene.frame.release i) :
    Sound ⟨scene, t.stages.set i stage⟩ where
  registered := by
    rw [hframe, Frame.tickets_release, h.registered]
    exact (Stage.positions_set_over hover).symm
  own := by
    intro j α' e hj
    by_cases hij : i = j
    · subst hij
      rw [List.getElem?_set] at hj
      simp only [if_true] at hj
      split at hj
      · cases hj
        cases hover
      · cases hj
    · rw [List.getElem?_set_ne hij] at hj
      exact h.own hj
  next := by
    rw [hframe, List.length_set]
    exact h.next

theorem Sound.look (h : t.Sound) (index : Nat) : (t.perform services (.look index)).Sound := by
  by_cases hmem : index ∈ t.inProgress
  · obtain ⟨α, e, he⟩ := mem_inProgress.mp hmem
    simp only [perform, onLive_of_live he, Stage.ofCourse]
    rcases e.look_effect services t.scene with
      ⟨result, hp, hf⟩ | ⟨e', hp, _, hf⟩ | ⟨e', hp, _, _, hf⟩
    · rw [hp]
      exact h.set_over rfl (h.own he ▸ hf)
    · rw [hp]
      obtain ⟨hsame, _⟩ := Execution.same_of_pending services .look hp
      exact h.set_live he hsame (by rw [hf]) (by rw [hf])
    · rw [hp]
      obtain ⟨hsame, _⟩ := Execution.same_of_pending services .look hp
      exact h.set_live he hsame (by rw [hf, Frame.tickets_signal]) (by rw [hf]; rfl)
  · simp only [perform, onLive_of_not_mem hmem]
    exact h

theorem Sound.drop (h : t.Sound) (index : Nat) : (t.perform services (.drop index)).Sound := by
  by_cases hmem : index ∈ t.inProgress
  · obtain ⟨α, e, he⟩ := mem_inProgress.mp hmem
    simp only [perform, onLive_of_live he]
    exact h.set_over rfl (by rw [h.own he])
  · simp only [perform, onLive_of_not_mem hmem]
    exact h

/-- **Every turn keeps a traffic sound.** -/
theorem Sound.perform (h : t.Sound) (turn : Turn μ) : (t.perform services turn).Sound := by
  cases turn with
  | start label activity => exact h.start label activity
  | look index => exact h.look index
  | drop index => exact h.drop index
  | cancel => exact h.of_frame t.scene.frame.tickets_cancel rfl
  | setTimeout timeout => exact h.of_frame rfl rfl
  | setGrace grace => exact h.of_frame rfl rfl
  | pass duration => exact h.of_frame rfl rfl
  | move m => exact h.of_frame rfl rfl

theorem Sound.play (services : Services σ μ) (history : List (Turn μ)) {t : Traffic σ}
    (h : t.Sound) : (t.play services history).Sound := by
  induction history generalizing t with
  | nil => exact h
  | cons turn history ih => exact ih (h.perform turn)

/-! ## What a turn leaves alone -/

theorem perform_now (turn : Turn μ) :
    (t.perform services turn).scene.now = t.scene.now + turn.duration := by
  cases turn with
  | look index => simp only [perform, onLive]; split <;> rfl
  | drop index => simp only [perform, onLive]; split <;> rfl
  | _ => rfl

/-- Nobody but the one who sets it changes the timeout of the frame. -/
theorem perform_timeout (turn : Turn μ) :
    (t.perform services turn).scene.frame.timeout = turn.timeoutAfter t.scene.frame.timeout := by
  cases turn with
  | look index =>
    simp only [perform, onLive]
    split
    · rename_i e _
      rcases e.look_effect services t.scene with ⟨_, _, hf⟩ | ⟨_, _, _, hf⟩ | ⟨_, _, _, _, hf⟩
      · rw [hf]; rfl
      · rw [hf]; rfl
      · rw [hf]; rfl
    · rfl
  | drop index => simp only [perform, onLive]; split <;> rfl
  | _ => rfl

theorem length_perform (turn : Turn μ) :
    (t.perform services turn).stages.length = t.stages.length + if turn.isStart then 1 else 0 := by
  cases turn with
  | start label activity => exact List.length_append
  | look index => simp only [perform, onLive]; split <;> simp [Turn.isStart]
  | drop index => simp only [perform, onLive]; split <;> simp [Turn.isStart]
  | _ => rfl

/-- A turn leaves the statements alone that it is not about, -/
theorem stage_perform {turn : Turn μ} {i : Nat} (hi : i < t.stages.length)
    (haside : turn.target? ≠ some i) :
    (t.perform services turn).stages[i]? = t.stages[i]? := by
  cases turn with
  | start label activity => exact List.getElem?_append_left hi
  | look index =>
    have hne : index ≠ i := fun h => haside (congrArg some h)
    simp only [perform, onLive]
    split
    · exact List.getElem?_set_ne hne
    · rfl
  | drop index =>
    have hne : index ≠ i := fun h => haside (congrArg some h)
    simp only [perform, onLive]
    split
    · exact List.getElem?_set_ne hne
    · rfl
  | _ => rfl

/-- and unless it cancels them all, it tells none of them to stop. -/
theorem Sound.signalled_perform (h : t.Sound) {turn : Turn μ} {i : Nat} (hi : i < t.stages.length)
    (haside : turn.target? ≠ some i) (hcancel : turn ≠ .cancel) :
    (t.perform services turn).scene.frame.isSignalled i = t.scene.frame.isSignalled i := by
  cases turn with
  | start label activity =>
    exact Frame.isSignalled_register_of_ne (by rw [h.next]; exact Nat.ne_of_lt hi)
  | look index =>
    have hne : i ≠ index := fun h => haside (congrArg some h.symm)
    simp only [Traffic.perform, onLive]
    split
    · rename_i e he
      rw [← h.own he] at hne
      rcases e.look_effect services t.scene with ⟨_, _, hf⟩ | ⟨_, _, _, hf⟩ | ⟨_, _, _, _, hf⟩
      · rw [hf, Frame.isSignalled_release_of_ne hne]
      · rw [hf]
      · rw [hf, Frame.isSignalled_signal_of_ne hne]
    · rfl
  | drop index =>
    have hne : i ≠ index := fun h => haside (congrArg some h.symm)
    simp only [Traffic.perform, onLive]
    split
    · rename_i e he
      rw [← h.own he] at hne
      exact Frame.isSignalled_release_of_ne hne
    · rfl
  | cancel => exact absurd rfl hcancel
  | _ => rfl

/-! ## What a history says of one statement -/

/-- What a history says of an interruption: the frame was cancelled after the statement had started, or
the timeout that was set before has passed. -/
def DueTo (timeout : Option Nat) (before after : List (Turn μ)) : Interruption → Prop
  | .cancelled => .cancel ∈ after
  | .timedOut d => timeoutIn timeout before = some d ∧ d ≤ elapsed after

theorem DueTo.later {timeout : Option Nat} {before after : List (Turn μ)} {cause : Interruption}
    (h : DueTo timeout before after cause) (turn : Turn μ) :
    DueTo timeout before (after ++ [turn]) cause := by
  cases cause with
  | cancelled => exact List.mem_append_left _ h
  | timedOut d =>
    refine ⟨h.1, ?_⟩
    rw [elapsed_concat]
    exact Nat.le_add_right_of_le h.2

/-- What a history says of the statement that was started between `before` and `after`. -/
structure Account (timeout : Option Nat) (before after : List (Turn μ)) (t : Traffic σ) (i : Nat) :
    Prop where
  /-- Its position counts the statements that started before it. -/
  place : starts before = i
  /-- It is under the timeout that was set when it started, and counts the time since then. -/
  timed : ∀ {α : Type} {e : Execution α}, t.stages[i]? = some (.live e) →
    e.timeout = timeoutIn timeout before ∧ e.begun + elapsed after = t.scene.now
  /-- While it is in progress, it is told to stop exactly if the frame was cancelled since it started,
  or if its own timeout has interrupted it. -/
  signalled : ∀ {α : Type} {e : Execution α}, t.stages[i]? = some (.live e) →
    (t.scene.frame.isSignalled i = true ↔ .cancel ∈ after ∨ e.windDown ≠ none)
  /-- It is interrupted by a cancellation since it started, or by its own timeout. -/
  interrupted : ∀ {stage : Stage} {w : WindDown}, t.stages[i]? = some stage →
    stage.windDown? = some w → DueTo timeout before after w.cause

namespace Account

variable {timeout : Option Nat} {before after : List (Turn μ)} {i : Nat}

/-- The account of a statement that has just started. -/
theorem started (h : t.Sound) {history : List (Turn μ)}
    (hlength : t.stages.length = starts history)
    (htimeout : t.scene.frame.timeout = timeoutIn timeout history) {α : Type} (label : Text)
    (activity : Activity (Except SessionError α)) :
    Account timeout history [] (t.perform services (.start label activity)) t.stages.length := by
  have hstage : (t.perform services (.start label activity)).stages[t.stages.length]?
      = some (.live (Execution.start label activity t.scene.now t.scene.frame).1) := by
    show (t.stages ++ [_])[t.stages.length]? = _
    rw [List.getElem?_append_right (Nat.le_refl _), Nat.sub_self]
    rfl
  have hquiet := t.scene.frame.isSignalled_register
  rw [h.next] at hquiet
  refine ⟨hlength.symm, ?_, ?_, ?_⟩
  · intro _ e he
    cases hstage.symm.trans he
    exact ⟨htimeout, rfl⟩
  · intro _ e he
    cases hstage.symm.trans he
    constructor
    · intro hs
      cases hquiet.symm.trans hs
    · rintro (hmem | hw)
      · cases hmem
      · exact absurd rfl hw
  · intro stage w hs hw
    cases hstage.symm.trans hs
    cases hw

/-- A turn that leaves a statement alone, and does not cancel the frame, leaves its account. -/
theorem aside (ha : Account timeout before after t i) {turn : Turn μ} (hcancel : turn ≠ .cancel)
    (hstage : (t.perform services turn).stages[i]? = t.stages[i]?)
    (hsignalled : (t.perform services turn).scene.frame.isSignalled i
      = t.scene.frame.isSignalled i) :
    Account timeout before (after ++ [turn]) (t.perform services turn) i where
  place := ha.place
  timed := by
    intro _ e he
    rw [hstage] at he
    obtain ⟨ht, hb⟩ := ha.timed he
    exact ⟨ht, by rw [perform_now, elapsed_concat, ← hb, Nat.add_assoc]⟩
  signalled := by
    intro _ e he
    rw [hstage] at he
    rw [hsignalled, ha.signalled he, List.mem_append, List.mem_singleton]
    simp only [hcancel.symm, or_false]
  interrupted := by
    intro stage w hs hw
    rw [hstage] at hs
    exact (ha.interrupted hs hw).later _

/-- A cancellation tells a statement that is in progress. -/
theorem cancel (h : t.Sound) (ha : Account timeout before after t i) :
    Account timeout before (after ++ [.cancel]) (t.perform services .cancel) i where
  place := ha.place
  timed := by
    intro _ e he
    obtain ⟨ht, hb⟩ := ha.timed he
    exact ⟨ht, by rw [elapsed_concat]; exact hb⟩
  signalled := by
    intro _ e he
    have hmem : i ∈ t.scene.frame.tickets := by
      rw [h.registered]
      exact mem_inProgress.mpr ⟨_, e, he⟩
    exact ⟨fun _ => .inl (List.mem_append_right _ List.mem_cons_self),
      fun _ => Frame.isSignalled_cancel.mpr hmem⟩
  interrupted := by
    intro stage w hs hw
    exact (ha.interrupted hs hw).later _

/-- A statement that is over has nothing more to account for. -/
theorem ended (ha : Account timeout before after t i) {after' : List (Turn μ)} {t' : Traffic σ}
    {stage : Stage} (hstage : t'.stages[i]? = some stage) (hover : stage.isLive = false)
    (hinterrupted : ∀ w, stage.windDown? = some w → DueTo timeout before after' w.cause) :
    Account timeout before after' t' i where
  place := ha.place
  timed := by
    intro _ e he
    cases hstage.symm.trans he
    cases hover
  signalled := by
    intro _ e he
    cases hstage.symm.trans he
    cases hover
  interrupted := by
    intro stage' w hs hw
    cases hstage.symm.trans hs
    exact hinterrupted w hw

/-- What a look finds to be interrupted is accounted for, be it over or not. -/
theorem look_interrupted (h : t.Sound) (ha : Account timeout before after t i) {α : Type}
    {e : Execution α} (he : t.stages[i]? = some (.live e)) {w : WindDown}
    (hw : (e.look services t.scene).windDown = some w) : DueTo timeout before after w.cause := by
  cases hwas : e.windDown with
  | some w' =>
    -- it was interrupted before, and an interruption stays
    have hstays : (e.look services t.scene).windDown = some w' := by
      simp only [Execution.look, Execution.windDownAt, hwas]
    cases hstays.symm.trans hw
    exact ha.interrupted he hwas
  | none =>
    rcases Execution.step_windDown services .look e t.scene with hs | ⟨_, cause, hc, hs⟩
    · cases (hs.trans hwas).symm.trans hw
    · cases hs.symm.trans hw
      have hj := Execution.justified_of_interruptedBy hc
      obtain ⟨ht, hb⟩ := ha.timed he
      cases cause with
      | cancelled =>
        have hsignalled : t.scene.frame.isSignalled i = true := h.own he ▸ hj
        exact ((ha.signalled he).mp hsignalled).resolve_right (absurd hwas)
      | timedOut d =>
        refine ⟨ht.symm.trans hj.1, ?_⟩
        have hpassed : e.begun + d ≤ t.scene.now := hj.2
        rw [← hb] at hpassed
        exact Nat.le_of_add_le_add_left hpassed

/-- The account of a statement through a look at it. -/
theorem look (h : t.Sound) (ha : Account timeout before after t i) :
    Account timeout before (after ++ [.look i]) (t.perform services (.look i)) i := by
  by_cases hmem : i ∈ t.inProgress
  · obtain ⟨α, e, he⟩ := mem_inProgress.mp hmem
    have hlt := (List.getElem?_eq_some_iff.mp he).1
    have hstage : (t.perform services (.look i)).stages[i]?
        = some (.ofCourse (e.look services t.scene)) := by
      simp only [Traffic.perform, onLive_of_live he]
      exact List.getElem?_set_self hlt
    have hframe : (t.perform services (.look i)).scene.frame
        = (e.look services t.scene).scene.frame := by
      simp only [Traffic.perform, onLive_of_live he]
    have hdue : ∀ w, (e.look services t.scene).windDown = some w →
        DueTo timeout before (after ++ [.look i]) w.cause :=
      fun w hw => (ha.look_interrupted h he hw).later _
    unfold Stage.ofCourse at hstage
    rcases e.look_effect services t.scene with ⟨result, hp, _⟩ | hwaits
    · rw [hp] at hstage
      exact ha.ended hstage rfl hdue
    · have hwaits : ∃ e', (e.look services t.scene).status = .pending e' ∧
          ((t.perform services (.look i)).scene.frame.isSignalled i = true ↔
            .cancel ∈ after ∨ e'.windDown ≠ none) := by
        rcases hwaits with ⟨e', hp, hw, hf⟩ | ⟨e', hp, _, hw, hf⟩
        · exact ⟨e', hp, by rw [hframe, hf, hw]; exact ha.signalled he⟩
        · -- the frame tells a statement to stop that it interrupts
          refine ⟨e', hp, fun _ => .inr hw, fun _ => ?_⟩
          rw [hframe, hf, h.own he]
          exact Frame.isSignalled_signal (h.registered ▸ hmem)
      obtain ⟨e', hp, hsignalled⟩ := hwaits
      obtain ⟨_, ho, hb⟩ := Execution.same_of_pending services .look hp
      have hw' := Execution.windDown_of_pending services .look hp
      rw [hp] at hstage
      refine ⟨ha.place, ?_, ?_, ?_⟩
      · intro _ e₁ he₁
        cases hstage.symm.trans he₁
        obtain ⟨ht, hbegun⟩ := ha.timed he
        refine ⟨ho.trans ht, ?_⟩
        rw [perform_now, elapsed_concat, hb, ← Nat.add_assoc, hbegun]
      · intro _ e₁ he₁
        cases hstage.symm.trans he₁
        rw [hsignalled, List.mem_append, List.mem_singleton]
        simp only [reduceCtorEq, or_false]
      · intro stage w hs hw
        cases hstage.symm.trans hs
        exact hdue w (hw'.symm.trans hw)
  · have hsame : t.perform services (.look i) = t := by
      simp only [Traffic.perform, onLive_of_not_mem hmem]
    exact ha.aside nofun (by rw [hsame]) (by rw [hsame])

/-- The account of a statement through its drop. -/
theorem drop (ha : Account timeout before after t i) :
    Account timeout before (after ++ [.drop i]) (t.perform services (.drop i)) i := by
  by_cases hmem : i ∈ t.inProgress
  · obtain ⟨α, e, he⟩ := mem_inProgress.mp hmem
    have hstage : (t.perform services (.drop i)).stages[i]? = some .dropped := by
      simp only [Traffic.perform, onLive_of_live he]
      exact List.getElem?_set_self (List.getElem?_eq_some_iff.mp he).1
    exact ha.ended hstage rfl nofun
  · have hsame : t.perform services (.drop i) = t := by
      simp only [Traffic.perform, onLive_of_not_mem hmem]
    exact ha.aside nofun (by rw [hsame]) (by rw [hsame])

/-- **Every turn keeps the account of a statement.** -/
theorem perform (h : t.Sound) (hi : i < t.stages.length) (ha : Account timeout before after t i)
    (turn : Turn μ) : Account timeout before (after ++ [turn]) (t.perform services turn) i := by
  by_cases htarget : turn.target? = some i
  · cases turn with
    | look index => cases htarget; exact ha.look h
    | drop index => cases htarget; exact ha.drop
    | _ => cases htarget
  · cases turn with
    | cancel => exact ha.cancel h
    | _ => exact ha.aside nofun (stage_perform hi htarget) (h.signalled_perform hi htarget nofun)

theorem play (h : t.Sound) (hi : i < t.stages.length) (ha : Account timeout before after t i)
    (turns : List (Turn μ)) :
    Account timeout before (after ++ turns) (t.play services turns) i := by
  induction turns generalizing t after with
  | nil => rwa [List.append_nil]
  | cons turn turns ih =>
    rw [List.append_cons]
    exact ih (h.perform turn) (by rw [length_perform]; omega) (ha.perform h hi turn)

end Account

/-! ## Every history -/

theorem length_play (services : Services σ μ) (history : List (Turn μ)) (t : Traffic σ) :
    (t.play services history).stages.length = t.stages.length + starts history := by
  induction history using List.reverseRecOn with
  | nil => rfl
  | append_singleton history turn ih =>
    rw [play_concat, length_perform, ih, starts_concat, Nat.add_assoc]

theorem timeout_play (services : Services σ μ) (history : List (Turn μ)) (t : Traffic σ) :
    (t.play services history).scene.frame.timeout = timeoutIn t.scene.frame.timeout history := by
  induction history using List.reverseRecOn with
  | nil => rfl
  | append_singleton history turn ih => rw [play_concat, perform_timeout, ih, timeoutIn_concat]

/-- The history has an account of every statement that was ever started. -/
theorem accounts (services : Services σ μ) (timeout : Option Nat) (grace now : Nat) (state : σ)
    (history : List (Turn μ)) {i : Nat}
    (hi : i < ((opened timeout grace now state).play services history).stages.length) :
    ∃ before start after, history = before ++ start :: after ∧ start.isStart = true ∧
      Account timeout before after ((opened timeout grace now state).play services history) i := by
  induction history using List.reverseRecOn with
  | nil => cases hi
  | append_singleton history turn ih =>
    have hsound := (Sound.opened timeout grace now state).play services history
    have hlength := length_play services history (opened timeout grace now state)
    have htimeout := timeout_play services history (opened timeout grace now state)
    rw [play_concat] at hi ⊢
    generalize (opened timeout grace now state).play services history = t at *
    by_cases hold : i < t.stages.length
    · obtain ⟨before, start, after, rfl, hstart, ha⟩ := ih hold
      exact ⟨before, start, after ++ [turn], by simp, hstart, ha.perform hsound hold turn⟩
    · -- the turn has started it
      rw [length_perform] at hi
      cases turn with
      | start label activity =>
        have hlast : i = t.stages.length := by
          simp only [Turn.isStart, if_true] at hi
          omega
        subst hlast
        exact ⟨history, _, [], rfl, rfl, .started hsound (hlength.trans (Nat.zero_add _)) htimeout ..⟩
      | _ => exact absurd hi hold

/-- A statement that has a reason to stop is over after the next look, or interrupted. -/
theorem Sound.heeded (h : t.Sound) {i : Nat} {α : Type} {e : Execution α}
    (he : t.stages[i]? = some (.live e))
    (hc : t.scene.frame.isSignalled i = true ∨
      ∃ d, e.timeout = some d ∧ e.begun + d ≤ t.scene.now) :
    ∃ stage, (t.perform services (.look i)).stages[i]? = some stage ∧
      (stage.isLive = false ∨ stage.windDown? ≠ none) := by
  have hstage : (t.perform services (.look i)).stages[i]?
      = some (.ofCourse (e.look services t.scene)) := by
    simp only [Traffic.perform, onLive_of_live he]
    exact List.getElem?_set_self (List.getElem?_eq_some_iff.mp he).1
  refine ⟨_, hstage, ?_⟩
  unfold Stage.ofCourse
  cases hp : (e.look services t.scene).status with
  | ready result => exact .inl rfl
  | pending e' =>
    right
    rcases Execution.look_heeds services (h.own he ▸ hc) with ⟨result, hready⟩ | hw
    · cases hp.symm.trans hready
    · have hw' : e'.windDown = (e.look services t.scene).windDown :=
        Execution.windDown_of_pending services .look hp
      exact hw' ▸ hw

/-- A statement stays as it is through every turn that is not about it, and for good when it is over. -/
theorem stage_stays {turn : Turn μ} {i : Nat} (hi : i < t.stages.length)
    (haside : turn.target? ≠ some i ∨ i ∉ t.inProgress) :
    (t.perform services turn).stages[i]? = t.stages[i]? := by
  by_cases htarget : turn.target? = some i
  · have hover := haside.resolve_left (not_not_intro htarget)
    cases turn with
    | look index => cases htarget; simp only [perform, onLive_of_not_mem hover]
    | drop index => cases htarget; simp only [perform, onLive_of_not_mem hover]
    | _ => cases htarget
  · exact stage_perform hi htarget

/-- What is to be said of a traffic after a history that began with an idle frame. -/
structure Orderly (services : Services σ μ) (timeout : Option Nat) (history : List (Turn μ))
    (t : Traffic σ) : Prop where
  started : t.stages.length = starts history
  /-- The frame has one entry for each statement in progress, and no others. -/
  registered : t.scene.frame.tickets = t.inProgress
  once : t.inProgress.Nodup
  running : t.scene.frame.isRunning = true ↔ ∃ i, i ∈ t.inProgress
  cancels : t.scene.frame.cancel.1 = true ↔ ∃ i, i ∈ t.inProgress
  /-- Who cancels the frame now tells the statements in progress to stop, and no others. -/
  reached : ∀ i, t.scene.frame.cancel.2.isSignalled i = true ↔ i ∈ t.inProgress
  /-- Of each statement that was started, the history says under which timeout it is, whether it was told
  to stop, and why it was interrupted. -/
  accounted : ∀ i < t.stages.length, ∃ before start after,
    history = before ++ start :: after ∧ start.isStart = true ∧ Account timeout before after t i
  /-- What happens to others changes nothing for a statement, and nothing more happens to one that is
  over. -/
  stays : ∀ turn, ∀ i < t.stages.length, turn.target? ≠ some i ∨ i ∉ t.inProgress →
    (t.perform services turn).stages[i]? = t.stages[i]?
  /-- A statement that was told to stop, or whose timeout has passed, is over after the next look, or
  interrupted. -/
  heeded : ∀ (i : Nat) {α : Type} (e : Execution α), t.stages[i]? = some (.live e) →
    (t.scene.frame.isSignalled i = true ∨ ∃ d, e.timeout = some d ∧ e.begun + d ≤ t.scene.now) →
    ∃ stage, (t.perform services (.look i)).stages[i]? = some stage ∧
      (stage.isLive = false ∨ stage.windDown? ≠ none)

theorem Sound.isRunning_iff (h : t.Sound) :
    t.scene.frame.isRunning = true ↔ ∃ i, i ∈ t.inProgress := by
  rw [Frame.isRunning_iff, h.registered, ← List.length_pos_iff, List.length_pos_iff_exists_mem]

theorem nodup_inProgress : t.inProgress.Nodup := List.Pairwise.filter _ List.nodup_range

/-- **Every history is orderly**, whatever is started, seen to, dropped, cancelled and set in it. -/
theorem orderly (services : Services σ μ) (timeout : Option Nat) (grace now : Nat) (state : σ)
    (history : List (Turn μ)) :
    Orderly services timeout history ((opened timeout grace now state).play services history) := by
  have hsound := (Sound.opened timeout grace now state).play services history
  exact {
    started := (length_play services history _).trans (Nat.zero_add _)
    registered := hsound.registered
    once := nodup_inProgress
    running := hsound.isRunning_iff
    cancels := hsound.isRunning_iff
    reached := fun i => by rw [Frame.isSignalled_cancel, hsound.registered]
    accounted := fun i hi => accounts services timeout grace now state history hi
    stays := fun turn i hi haside => stage_stays hi haside
    heeded := fun i _ e he hc => hsound.heeded he hc }

end Traffic
end SchemaBatch
