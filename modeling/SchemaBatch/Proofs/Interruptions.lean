import SchemaBatch.Proofs.Course
import SchemaBatch.Proofs.Frames

/-!
# `Proofs.Interruptions` — when and why an execution is interrupted

What the schedule did before a look tells all that the frame goes by there: how much time has passed
(`elapsed`), how long the grace period is (`graceAfter`), and whether the frame was cancelled. So an
interruption can be read off the schedule.

* `Execution.follow_interrupted` — **an interruption is justified** by a cancellation before the look
  that made it, or by the timeout that was set at the start; the grace period is counted from there.
* `Execution.look_heeds` — an execution that has a reason to be interrupted has ended after a look, or is
  interrupted.
* `Execution.follow_abandoned` — a call is given up under an interruption only.
* `Reply.course_windDown`, `Reply.course_timedOut`, `Reply.course_abandoned` — the same of a reply that is
  seen to in a frame.
-/

namespace SchemaBatch

/-! ## What a schedule says of time and of the frame -/

section Schedule

variable {μ : Type}

/-- The time that something takes. -/
def Happening.duration : Happening μ → Nat
  | .pass duration => duration
  | _ => 0

/-- The time that a schedule takes. -/
def elapsed : List (Happening μ) → Nat
  | [] => 0
  | h :: schedule => h.duration + elapsed schedule

/-- The grace period of the frame after something. -/
def Happening.graceAfter (grace : Nat) : Happening μ → Nat
  | .act (.setGrace grace) => grace
  | _ => grace

/-- The grace period of the frame after a schedule. -/
def graceAfter (grace : Nat) (schedule : List (Happening μ)) : Nat :=
  schedule.foldl Happening.graceAfter grace

end Schedule

/-! ## One step -/

/-- Others change the grace period by setting it. -/
theorem Frame.grace_act {μ : Type} (own : Nat) (f : Frame) (act : Frame.Act) :
    (f.act own act).grace = (Happening.act act : Happening μ).graceAfter f.grace := by
  cases act with
  | cancel => rfl
  | setTimeout t => rfl
  | setGrace g => rfl
  | enter => rfl
  | leave ticket =>
    change (if ticket = own then f else f.release ticket).grace = f.grace
    split <;> rfl
  | tell ticket =>
    change (if ticket = own then f else f.signal ticket).grace = f.grace
    split <;> rfl

/-- What justifies an interruption by now: the statement was told to stop from outside, or the
timeout that was set when it started has passed. -/
def Interruption.Justified {α : Type} (told : Prop) (e : Execution α) (now : Nat) :
    Interruption → Prop
  | .cancelled => told
  | .timedOut timeout => e.timeout = some timeout ∧ e.begun + timeout ≤ now

/-- What is justified for a later stage of a statement is justified for an earlier one. -/
theorem Interruption.Justified.mono {α : Type} {told told' : Prop} {e e' : Execution α}
    {now : Nat} {cause : Interruption} (h : cause.Justified told e now) (htold : told → told')
    (ho : e.timeout = e'.timeout) (hb : e.begun = e'.begun) : cause.Justified told' e' now := by
  cases cause with
  | cancelled => exact htold h
  | timedOut timeout => exact ⟨ho ▸ h.1, hb ▸ h.2⟩

namespace Execution

variable {σ μ α : Type}

theorem step_now (services : Services σ μ) (h : Happening μ) (e : Execution α) (scene : Scene σ) :
    (e.step services h scene).scene.now = scene.now + h.duration := by
  cases h <;> rfl

/-- It never goes back. -/
theorem le_follow_now (services : Services σ μ) (schedule : List (Happening μ)) (e : Execution α)
    (scene : Scene σ) : scene.now ≤ (e.follow services schedule scene).scene.now := by
  induction schedule generalizing e scene with
  | nil => exact Nat.le_refl _
  | cons h schedule ih =>
    have hstep : scene.now ≤ (e.step services h scene).scene.now := by
      rw [step_now]
      exact Nat.le_add_right _ _
    cases hp : (e.step services h scene).status with
    | ready result =>
      rw [follow_of_ready hp]
      exact hstep
    | pending e' =>
      rw [follow_of_pending hp]
      exact Nat.le_trans hstep (ih e' _)

/-- What interrupts an execution is justified at that moment. -/
theorem justified_of_interruptedBy {e : Execution α} {now : Nat} {f : Frame}
    {cause : Interruption} (h : e.interruptedBy now f = some cause) :
    cause.Justified (f.isSignalled e.ticket = true) e now := by
  unfold interruptedBy at h
  split at h
  · rename_i hs
    cases h
    exact hs
  · split at h
    · rename_i timeout ht
      split at h
      · rename_i hle
        cases h
        exact ⟨ht, hle⟩
      · cases h
    · cases h

/-- An execution has a reason to be interrupted when it was told to stop, or its timeout has passed. -/
theorem interruptedBy_ne_none_iff {e : Execution α} {now : Nat} {f : Frame} :
    e.interruptedBy now f ≠ none ↔
      f.isSignalled e.ticket = true ∨ ∃ d, e.timeout = some d ∧ e.begun + d ≤ now := by
  unfold interruptedBy
  cases hs : f.isSignalled e.ticket with
  | true => simp
  | false =>
    cases ht : e.timeout with
    | none => simp
    | some d => simp

/-- **A look heeds an interruption**: an execution that has a reason to be interrupted has ended after
the look, or is interrupted. -/
theorem look_heeds (services : Services σ μ) {e : Execution α} {scene : Scene σ}
    (hc : scene.frame.isSignalled e.ticket = true ∨
      ∃ d, e.timeout = some d ∧ e.begun + d ≤ scene.now) :
    (∃ result, (e.look services scene).status = .ready result) ∨
      (e.look services scene).windDown ≠ none := by
  rw [← interruptedBy_ne_none_iff] at hc
  obtain ⟨now, f, s⟩ := scene
  simp only [look, windDownAt]
  cases hw : e.windDown with
  | some w => exact .inr (by simp)
  | none =>
    cases hres : (e.advance services.toRemote now f s).1.body.result? with
    | some result => exact .inl ⟨result, by rw [poll_of_done hw hres]⟩
    | none =>
      obtain ⟨cause, hcause⟩ := Option.ne_none_iff_exists'.mp hc
      exact .inr (by simp [hcause])

/-- An execution is interrupted by one look, and the interruption stays as it is. -/
theorem step_windDown (services : Services σ μ) (h : Happening μ) (e : Execution α)
    (scene : Scene σ) :
    (e.step services h scene).windDown = e.windDown ∨
    (h = .look ∧ ∃ cause, e.interruptedBy scene.now scene.frame = some cause ∧
      (e.step services h scene).windDown = some ⟨cause, scene.now + scene.frame.grace⟩) := by
  cases h with
  | look =>
    simp only [step, look, windDownAt]
    -- only a look at a body that was not interrupted before can make an interruption
    cases hw : e.windDown with
    | some w => exact .inl rfl
    | none =>
      dsimp only
      split
      · exact .inl rfl
      · cases hc : e.interruptedBy scene.now scene.frame with
        | none => exact .inl rfl
        | some cause => exact .inr ⟨trivial, cause, rfl, rfl⟩
  | pass _ => exact .inl rfl
  | act _ => exact .inl rfl
  | move _ => exact .inl rfl

theorem windDown_of_pending (services : Services σ μ) (h : Happening μ) {e e' : Execution α}
    {scene : Scene σ} (hp : (e.step services h scene).status = .pending e') :
    e'.windDown = (e.step services h scene).windDown := by
  have hs := step_explained services h e scene
  generalize e.step services h scene = c at hp hs
  cases hs <;> cases hp
  rfl

theorem follow_windDown_of_some (services : Services σ μ) (schedule : List (Happening μ))
    {e : Execution α} (scene : Scene σ) {w : WindDown} (hw : e.windDown = some w) :
    (e.follow services schedule scene).windDown = some w := by
  -- a later look finds the interruption and makes none of its own
  induction schedule generalizing e scene with
  | nil => exact hw
  | cons h schedule ih =>
    have hs : (e.step services h scene).windDown = some w := by
      rcases step_windDown services h e scene with hs | ⟨rfl, cause, hc, hs⟩
      · rw [hs, hw]
      · simp only [step, look, windDownAt, hw]
    cases hp : (e.step services h scene).status with
    | ready result => rw [follow_of_ready hp]; exact hs
    | pending e' =>
      rw [follow_of_pending hp]
      exact ih _ ((windDown_of_pending services h hp).trans hs)

/-- A look that neither ends an execution nor interrupts it leaves the frame alone. -/
theorem look_frame (services : Services σ μ) {e e' : Execution α} {scene : Scene σ}
    (hp : (e.look services scene).status = .pending e')
    (hw : (e.look services scene).windDown = none) :
    (e.look services scene).scene.frame = scene.frame := by
  obtain ⟨now, f, s⟩ := scene
  -- it had not been interrupted before, since an interruption stays
  have hn : e.windDown = none := by
    rcases step_windDown services .look e ⟨now, f, s⟩ with h | ⟨_, cause, _, h⟩
    · exact h.symm.trans hw
    · cases h.symm.trans hw
  cases hres : (e.advance services.toRemote now f s).1.body.result? with
  | some result =>
    simp only [look, poll_of_done hn hres] at hp
    cases hp
  | none =>
    cases hc : e.interruptedBy now f with
    | none => simp only [look, poll_of_waiting hn hres hc]
    | some cause =>
      simp only [look, windDownAt, hn, hres, hc] at hw
      cases hw

/-- Until it is interrupted, an execution is told to stop by a cancellation of the frame alone. -/
theorem step_isSignalled (services : Services σ μ) {h : Happening μ} {e e' : Execution α}
    {scene : Scene σ} (hp : (e.step services h scene).status = .pending e')
    (hw : (e.step services h scene).windDown = none)
    (hs : (e.step services h scene).scene.frame.isSignalled e.ticket = true) :
    h = .act .cancel ∨ scene.frame.isSignalled e.ticket = true := by
  cases h with
  | look => exact .inr (look_frame services hp hw ▸ hs)
  | pass _ => exact .inr hs
  | act act => exact (Frame.isSignalled_act hs).imp (congrArg _) id
  | move _ => exact .inr hs

/-- Until it is interrupted, an execution finds the grace period as others set it. -/
theorem step_grace (services : Services σ μ) {h : Happening μ} {e e' : Execution α}
    {scene : Scene σ} (hp : (e.step services h scene).status = .pending e')
    (hw : (e.step services h scene).windDown = none) :
    (e.step services h scene).scene.frame.grace = h.graceAfter scene.frame.grace := by
  cases h with
  | look => exact congrArg Frame.grace (look_frame services hp hw)
  | pass _ => rfl
  | act act => exact Frame.grace_act _ _ act
  | move _ => rfl

/-- An execution that still waits after a step is the same statement as before. -/
theorem same_of_pending (services : Services σ μ) (h : Happening μ) {e e' : Execution α}
    {scene : Scene σ} (hp : (e.step services h scene).status = .pending e') :
    e'.ticket = e.ticket ∧ e'.timeout = e.timeout ∧ e'.begun = e.begun := by
  have hs := step_explained services h e scene
  generalize e.step services h scene = c at hp hs
  cases hs with
  | waits _ _ ht ho hb => cases hp; exact ⟨ht, ho, hb⟩
  | ended _ => cases hp
  | woundDown _ => cases hp
  | givenUp _ _ _ => cases hp

/-! ## The whole schedule -/

/-- **An interruption is justified** at the look that made it, before the end of the course, and the grace
period is counted from there. -/
theorem follow_interrupted (services : Services σ μ) (schedule : List (Happening μ))
    {e : Execution α} {scene : Scene σ} {w : WindDown} (hn : e.windDown = none)
    (hw : (e.follow services schedule scene).windDown = some w) :
    ∃ before after, schedule = before ++ .look :: after ∧
      w.cause.Justified
        (scene.frame.isSignalled e.ticket = true ∨ .act .cancel ∈ before) e
        (scene.now + elapsed before) ∧
      w.giveUp = scene.now + elapsed before + graceAfter scene.frame.grace before ∧
      scene.now + elapsed before ≤ (e.follow services schedule scene).scene.now := by
  -- the first look that interrupts splits the schedule; up to it the frame is as others left it
  induction schedule generalizing e scene with
  | nil => rw [follow, hn] at hw; cases hw
  | cons h schedule ih =>
    rcases step_windDown services h e scene with hs | ⟨rfl, cause, hc, hs⟩
    · -- nothing interrupts yet, so something in the rest of the schedule does
      rw [hn] at hs
      cases hp : (e.step services h scene).status with
      | ready result => rw [follow_of_ready hp, hs] at hw; cases hw
      | pending e' =>
        rw [follow_of_pending hp] at hw
        obtain ⟨ht, ho, hb⟩ := same_of_pending services h hp
        have hn' := (windDown_of_pending services h hp).trans hs
        obtain ⟨before, after, rfl, hj, hg, hnow⟩ := ih hn' hw
        rw [step_now, step_grace services hp hs, Nat.add_assoc scene.now] at hg
        rw [step_now, Nat.add_assoc] at hj hnow
        have hpassed : scene.now + elapsed (h :: before)
            ≤ (e.follow services (h :: (before ++ .look :: after)) scene).scene.now := by
          rw [follow_of_pending hp]
          exact hnow
        refine ⟨h :: before, after, rfl, hj.mono ?_ ho hb, hg, hpassed⟩
        rintro (hsig | hmem)
        · rcases step_isSignalled services hp hs (ht ▸ hsig) with rfl | hsig
          · exact .inr List.mem_cons_self
          · exact .inl hsig
        · exact .inr (List.mem_cons_of_mem _ hmem)
    · -- the look itself interrupts, and the interruption stays
      have hwd : w = ⟨cause, scene.now + scene.frame.grace⟩ := by
        cases hp : (e.step services .look scene).status with
        | ready result => rw [follow_of_ready hp, hs] at hw; cases hw; rfl
        | pending e' =>
          rw [follow_of_pending hp] at hw
          have hw' := follow_windDown_of_some services schedule (e.step services .look scene).scene
            ((windDown_of_pending services .look hp).trans hs)
          cases hw'.symm.trans hw; rfl
      subst hwd
      exact ⟨[], schedule, rfl, (justified_of_interruptedBy hc).mono .inl rfl rfl, rfl,
        le_follow_now services (.look :: schedule) e scene⟩

/-- A call that is given up at a step is given up because the execution is told to stop. -/
theorem step_abandoned (services : Services σ μ) {h : Happening μ} {e : Execution α}
    {scene : Scene σ} {c : Call} (hn : e.windDown = none)
    (hc : .abandoned c ∈ (e.step services h scene).events) :
    scene.frame.isSignalled e.ticket = true ∨ (e.step services h scene).windDown ≠ none := by
  cases h with
  | look =>
    simp only [step, look, eventsAt, hn] at hc ⊢
    -- given up by the body as it stands, or by the body that the look interrupts
    rcases List.mem_append.mp hc with hc | hc
    · exact .inl (Engaged.signalled_of_abandoned hc)
    · right
      intro hw
      rw [hw] at hc
      cases hc
  | pass _ => cases hc
  | act _ => cases hc
  | move _ => cases hc

/-- **A call is given up only under an interruption**: the frame was cancelled on the way, or it
interrupted the execution. -/
theorem follow_abandoned (services : Services σ μ) (schedule : List (Happening μ))
    {e : Execution α} {scene : Scene σ} {c : Call} (hn : e.windDown = none)
    (hc : .abandoned c ∈ (e.follow services schedule scene).events) :
    (scene.frame.isSignalled e.ticket = true ∨ .act .cancel ∈ schedule) ∨
      (e.follow services schedule scene).windDown ≠ none := by
  induction schedule generalizing e scene with
  | nil => cases hc
  | cons h schedule ih =>
    cases hp : (e.step services h scene).status with
    | ready result =>
      rw [follow_of_ready hp] at hc ⊢
      exact (step_abandoned services hn hc).imp .inl id
    | pending e' =>
      have hn' := windDown_of_pending services h hp
      rw [follow_of_pending hp] at hc ⊢
      by_cases hw : (e.step services h scene).windDown = none
      · -- not interrupted yet, so it was told from outside or the rest of the schedule says why
        rcases List.mem_append.mp hc with hc | hc
        · exact (step_abandoned services hn hc).imp .inl (absurd hw)
        · rw [hw] at hn'
          refine (ih hn' hc).imp_left ?_
          rintro (hsig | hmem)
          · obtain ⟨ht, _⟩ := same_of_pending services h hp
            rcases step_isSignalled services hp hw (ht ▸ hsig) with rfl | hsig
            · exact .inr List.mem_cons_self
            · exact .inl hsig
          · exact .inr (List.mem_cons_of_mem _ hmem)
      · -- interrupted here, and so it stays
        right
        obtain ⟨w, hw⟩ := Option.ne_none_iff_exists'.mp hw
        have hs := follow_windDown_of_some services schedule (e.step services h scene).scene
          (hn'.trans hw)
        intro hnone
        cases hs.symm.trans hnone

end Execution

/-! ## Replies -/

/-- An interruption of a statement that starts in a scene comes at a look of the schedule, after a
cancellation or after the timeout of the frame in that scene, and the grace period of the frame is
counted from there. The statement is looked at first when it starts. -/
def WindDown.ComesFrom {σ μ : Type} (scene : Scene σ) (schedule : List (Happening μ))
    (w : WindDown) : Prop :=
  ∃ before after, .look :: schedule = before ++ .look :: after ∧
    (match w.cause with
      | .cancelled => .act .cancel ∈ before
      | .timedOut timeout => scene.frame.timeout = some timeout ∧ timeout ≤ elapsed before) ∧
    w.giveUp = scene.now + elapsed before + graceAfter scene.frame.grace before

namespace Reply

variable {σ μ α : Type} {services : Services σ μ} {schedule : List (Happening μ)} {label : Text}
  {activity : Activity (Except SessionError α)} {scene : Scene σ}

/-- **An interruption comes from the schedule.** -/
theorem course_windDown {w : WindDown}
    (hw : ((Reply.running label activity).course services schedule scene).windDown = some w) :
    w.ComesFrom scene schedule := by
  obtain ⟨before, after, hsplit, hj, hg, _⟩ :=
    Execution.follow_interrupted services (.look :: schedule) rfl hw
  -- a statement that has just started is not told to stop, so somebody cancelled later
  have hquiet := scene.frame.isSignalled_register
  refine ⟨before, after, hsplit, ?_, hg⟩
  obtain ⟨cause, giveUp⟩ := w
  cases cause with
  | cancelled =>
    rcases hj with hs | hmem
    · cases hquiet.symm.trans hs
    · exact hmem
  | timedOut timeout => exact ⟨hj.1, Nat.le_of_add_le_add_left hj.2⟩

/-- A statement gives a call up only under an interruption. -/
theorem course_abandoned {c : Call}
    (hc : .abandoned c ∈ ((Reply.running label activity).course services schedule scene).events) :
    .act .cancel ∈ schedule ∨
      ((Reply.running label activity).course services schedule scene).windDown ≠ none := by
  have hquiet := scene.frame.isSignalled_register
  rcases Execution.follow_abandoned services (.look :: schedule) rfl (Engaged.of_mem_arrival hc)
    with (hs | hmem) | hw
  · cases hquiet.symm.trans hs
  · exact .inl (by simpa using hmem)
  · exact .inr hw

end Reply
end SchemaBatch
