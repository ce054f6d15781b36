import SchemaBatch.Proofs.Schedule

/-!
# `Proofs.Course` — what every course of an execution is like

Nothing is said here about a particular body, service or schedule. **The body explains the course**
(`Execution.follow_explained`): the events on the way lead the body to where it stands, and the result
of the execution is what the body gave, recast by the interruption if there was one, or the error of
a frame that gave up.

This is proved for one look first, then for one step, and for a schedule by induction on it. What is said of
every way through the activity of a reply (`Reply.Always`) so holds of its course, `Reply.Always.course`.
-/

namespace SchemaBatch

theorem Engaged.result?_eq_some_iff {α : Type} {e : Engaged α} {r : α} :
    e.result? = some r ↔ e.activity = .done r := by
  obtain ⟨a, since⟩ := e
  cases a <;> simp [Engaged.result?]

theorem Engaged.result?_eq_none_iff {α : Type} {e : Engaged α} :
    e.result? = none ↔ ¬ e.activity.IsOver := by
  obtain ⟨a, since⟩ := e
  cases a <;> simp [Engaged.result?, Activity.IsOver]

/-! ## One look, by cases -/

namespace Execution

section Poll

variable {σ α : Type} {remote : Remote σ} {now : Nat} {e : Execution α} {f : Frame} {s : σ}

/-- A body that ends before it is interrupted ends the execution. -/
theorem poll_of_done {result : Except SessionError α} (hw : e.windDown = none)
    (hres : (e.advance remote now f s).1.body.result? = some result) :
    e.poll remote now f s
      = (.ready result, f.release e.ticket, (e.advance remote now f s).2) := by
  unfold poll
  rw [hw]
  dsimp only
  rw [hres]
  rfl

/-- A body that has not ended goes on as long as nothing interrupts it. -/
theorem poll_of_waiting (hw : e.windDown = none)
    (hres : (e.advance remote now f s).1.body.result? = none)
    (hc : e.interruptedBy now f = none) :
    e.poll remote now f s
      = (.pending (e.advance remote now f s).1, f, (e.advance remote now f s).2) := by
  -- what interrupts an execution does not depend on its body
  have hc' : (e.advance remote now f s).1.interruptedBy now f = none := hc
  unfold poll
  rw [hw]
  dsimp only
  rw [hres]
  dsimp only
  rw [hc']

/-- A body that is interrupted is told so and winds down. -/
theorem poll_of_interrupted {cause : Interruption} (hw : e.windDown = none)
    (hres : (e.advance remote now f s).1.body.result? = none)
    (hc : e.interruptedBy now f = some cause) :
    e.poll remote now f s
      = (e.advance remote now f s).1.pollWindDown remote now ⟨cause, now + f.grace⟩
          (f.signal e.ticket) (e.advance remote now f s).2 := by
  have hc' : (e.advance remote now f s).1.interruptedBy now f = some cause := hc
  unfold poll
  rw [hw]
  dsimp only
  rw [hres]
  dsimp only
  rw [hc']
  rfl

/-- An execution that was interrupted before winds down. -/
theorem poll_of_windDown {w : WindDown} (hw : e.windDown = some w) :
    e.poll remote now f s = e.pollWindDown remote now w f s := by
  unfold poll
  rw [hw]

end Poll

end Execution

/-! ## The body explains the course -/

/-- The course is explained by the body of the execution: the events lead the body to where it
stands, and the result is what the body or the frame says. -/
inductive Course.Explained {σ α : Type} (e : Execution α) : Course σ α → Prop where
  /-- The execution still waits, for the same statement. -/
  | waits {e' : Execution α} {scene : Scene σ} {l : List Event}
      (hr : e.body.activity.Reaches l e'.body.activity) (hl : e'.label = e.label)
      (ht : e'.ticket = e.ticket) (ho : e'.timeout = e.timeout) (hb : e'.begun = e.begun) :
      Explained e ⟨.pending e', scene, l, e'.windDown⟩
  /-- The body ended before it was interrupted. -/
  | ended {result : Except SessionError α} {scene : Scene σ} {l : List Event}
      (hr : e.body.activity.Reaches l (.done result)) :
      Explained e ⟨.ready result, scene, l, none⟩
  /-- The body ended after it was interrupted. -/
  | woundDown {w : WindDown} {result : Except SessionError α} {scene : Scene σ} {l : List Event}
      (hr : e.body.activity.Reaches l (.done result)) :
      Explained e ⟨.ready (result.mapError (w.cause.recast e.label)), scene, l, some w⟩
  /-- The body had not ended when its grace period was over. -/
  | givenUp {w : WindDown} {a : Activity (Except SessionError α)} {scene : Scene σ}
      {l : List Event} (hr : e.body.activity.Reaches l a) (ha : ¬ a.IsOver)
      (hw : w.giveUp ≤ scene.now) :
      Explained e ⟨.ready (.error (w.cause.giveUpError e.label)), scene, l, some w⟩

/-- What is explained from a later stage of an execution is explained from an earlier one. -/
theorem Course.Explained.since {σ α : Type} {e e' : Execution α} {c : Course σ α} {l : List Event}
    (h : c.Explained e') (hr : e.body.activity.Reaches l e'.body.activity)
    (hl : e'.label = e.label) (ht : e'.ticket = e.ticket) (ho : e'.timeout = e.timeout)
    (hb : e'.begun = e.begun) : (c.since l).Explained e := by
  cases h with
  | waits hr' hl' ht' ho' hb' =>
    exact .waits (hr.trans hr') (hl'.trans hl) (ht'.trans ht) (ho'.trans ho) (hb'.trans hb)
  | ended hr' => exact .ended (hr.trans hr')
  | woundDown hr' => rw [hl]; exact .woundDown (hr.trans hr')
  | givenUp hr' ha hw => rw [hl]; exact .givenUp (hr.trans hr') ha hw

/-- The events of an explained course are a way through the body. -/
theorem Course.Explained.reaches {σ α : Type} {e : Execution α} {c : Course σ α}
    (h : c.Explained e) : ∃ a, e.body.activity.Reaches c.events a := by
  cases h with
  | waits hr => exact ⟨_, hr⟩
  | ended hr => exact ⟨_, hr⟩
  | woundDown hr => exact ⟨_, hr⟩
  | givenUp hr => exact ⟨_, hr⟩

namespace Execution

variable {σ μ α : Type}

theorem follow_of_ready {services : Services σ μ} {h : Happening μ}
    {schedule : List (Happening μ)} {e : Execution α} {scene : Scene σ}
    {result : Except SessionError α} (hp : (e.step services h scene).status = .ready result) :
    e.follow services (h :: schedule) scene = e.step services h scene := by
  simp only [follow, hp]

theorem follow_of_pending {services : Services σ μ} {h : Happening μ}
    {schedule : List (Happening μ)} {e e' : Execution α} {scene : Scene σ}
    (hp : (e.step services h scene).status = .pending e') :
    e.follow services (h :: schedule) scene
      = (e'.follow services schedule (e.step services h scene).scene).since
          (e.step services h scene).events := by
  simp only [follow, hp]

/-- An execution that still waits after a schedule goes on with the next. -/
theorem follow_append {services : Services σ μ} {first : List (Happening μ)} {e e' : Execution α}
    {scene : Scene σ} (hp : (e.follow services first scene).status = .pending e')
    (second : List (Happening μ)) :
    e.follow services (first ++ second) scene
      = (e'.follow services second (e.follow services first scene).scene).since
          (e.follow services first scene).events := by
  induction first generalizing e scene with
  | nil =>
    cases hp
    rfl
  | cons h first ih =>
    rw [List.cons_append]
    cases hstep : (e.step services h scene).status with
    | ready result =>
      rw [follow_of_ready hstep, hstep] at hp
      cases hp
    | pending e₁ =>
      rw [follow_of_pending hstep] at hp ⊢
      rw [follow_of_pending hstep, ih hp]
      simp only [Course.since, List.append_assoc]

/-- One that has ended does not. -/
theorem follow_append_of_ready {services : Services σ μ} {first : List (Happening μ)}
    {e : Execution α} {scene : Scene σ} {result : Except SessionError α}
    (hr : (e.follow services first scene).status = .ready result) (second : List (Happening μ)) :
    e.follow services (first ++ second) scene = e.follow services first scene := by
  induction first generalizing e scene with
  | nil => cases hr
  | cons h first ih =>
    rw [List.cons_append]
    cases hstep : (e.step services h scene).status with
    | ready result => rw [follow_of_ready hstep, follow_of_ready hstep]
    | pending e₁ =>
      rw [follow_of_pending hstep] at hr ⊢
      rw [follow_of_pending hstep, ih hr]

/-- A look at an interrupted execution is explained by its body. -/
theorem pollWindDown_explained (remote : Remote σ) (now : Nat) (w : WindDown) (e : Execution α)
    (f : Frame) (s : σ) :
    Course.Explained e ⟨(e.pollWindDown remote now w f s).1,
      ⟨now, (e.pollWindDown remote now w f s).2.1, (e.pollWindDown remote now w f s).2.2⟩,
      e.body.events remote (f.isSignalled e.ticket) now s, some w⟩ := by
  have hr := Engaged.advance_reaches remote (f.isSignalled e.ticket) now e.body s
  unfold pollWindDown
  simp only [advance]
  -- the body has ended, or the grace period has, or neither
  split
  · rename_i result hres
    rw [Engaged.result?_eq_some_iff] at hres
    rw [hres] at hr
    exact .woundDown hr
  · rename_i hres
    rw [Engaged.result?_eq_none_iff] at hres
    split
    · rename_i hg
      exact .givenUp hr hres hg
    · exact .waits hr rfl rfl rfl rfl

/-- A look is explained by the body of the execution. -/
theorem look_explained (services : Services σ μ) (e : Execution α) (scene : Scene σ) :
    (e.look services scene).Explained e := by
  obtain ⟨now, f, s⟩ := scene
  have hr := Engaged.advance_reaches services.toRemote (f.isSignalled e.ticket) now e.body s
  cases hw : e.windDown with
  | some w =>
    have h := pollWindDown_explained services.toRemote now w e f s
    simpa only [look, poll_of_windDown hw, hw, eventsAt, windDownAt, List.append_nil] using h
  | none =>
    cases hres : (e.advance services.toRemote now f s).1.body.result? with
    | some result =>
      simp only [look, poll_of_done hw hres, eventsAt, windDownAt, hw, hres, Option.isSome_some,
        if_true, List.append_nil]
      rw [Engaged.result?_eq_some_iff] at hres
      exact .ended (hres ▸ hr)
    | none =>
      cases hc : e.interruptedBy now f with
      | none =>
        simp only [look, poll_of_waiting hw hres hc, eventsAt, windDownAt, hw, hres, hc,
          Option.isSome_none, Bool.false_eq_true, if_false, Option.map_none, List.append_nil]
        have hn : e.windDown = (e.advance services.toRemote now f s).1.windDown := rfl
        rw [← hw, hn]
        exact .waits hr rfl rfl rfl rfl
      | some cause =>
        -- the body is told at once, so the events of two advances are joined
        have h := pollWindDown_explained services.toRemote now ⟨cause, now + f.grace⟩
          (e.advance services.toRemote now f s).1 (f.signal e.ticket)
          (e.advance services.toRemote now f s).2
        simp only [look, poll_of_interrupted hw hres hc, eventsAt, windDownAt, hw, hres, hc,
          Option.isSome_none, Bool.false_eq_true, if_false, Option.map_some]
        exact h.since hr rfl rfl rfl rfl

/-- A happening is explained by the body of the execution. -/
theorem step_explained (services : Services σ μ) (h : Happening μ) (e : Execution α)
    (scene : Scene σ) : (e.step services h scene).Explained e := by
  cases h with
  | look => exact look_explained services e scene
  | pass _ => exact .waits (.refl _) rfl rfl rfl rfl
  | act _ => exact .waits (.refl _) rfl rfl rfl rfl
  | move _ => exact .waits (.refl _) rfl rfl rfl rfl

/-- **Whatever the schedule**, what becomes of an execution is explained by its body. -/
theorem follow_explained (services : Services σ μ) (schedule : List (Happening μ))
    (e : Execution α) (scene : Scene σ) : (e.follow services schedule scene).Explained e := by
  -- a step that does not end the execution leaves a later stage of it
  induction schedule generalizing e scene with
  | nil => exact .waits (.refl _) rfl rfl rfl rfl
  | cons h schedule ih =>
    have hs := step_explained services h e scene
    unfold follow
    generalize e.step services h scene = c at hs
    cases hs with
    | waits hr hl ht ho hb => exact (ih _ _).since hr hl ht ho hb
    | ended hr => exact .ended hr
    | woundDown hr => exact .woundDown hr
    | givenUp hr ha hw => exact .givenUp hr ha hw

end Execution

/-! ## Replies -/

namespace Reply

variable {σ μ α : Type} (services : Services σ μ) (schedule : List (Happening μ)) (label : Text)
  (activity : Activity (Except SessionError α)) (scene : Scene σ)

/-- The course of a statement is explained by its activity. -/
theorem course_explained :
    ∃ c, Course.Explained (Execution.start label activity scene.now scene.frame).1 c ∧
      (running label activity).course services schedule scene = c.since activity.arrival :=
  ⟨_, Execution.follow_explained services (.look :: schedule) _ _, rfl⟩

/-- What happens in the course of a statement is a way through its activity. -/
theorem course_reaches :
    ∃ l a, ((running label activity).course services schedule scene).events
        = activity.arrival ++ l ∧ activity.Reaches l a := by
  obtain ⟨c, hx, hc⟩ := course_explained services schedule label activity scene
  obtain ⟨a, ha⟩ := hx.reaches
  exact ⟨c.events, a, by rw [hc]; rfl, ha⟩

/-- Whatever becomes of a reply, and however far it gets, what happens has the property. -/
def Always (P : List Event → Prop) : Reply α → Prop
  | .answered _ => P []
  | .running _ activity => ∀ l a, activity.Reaches l a → P (activity.arrival ++ l)

variable {P : List Event → Prop} {reply : Reply α}

theorem Always.map {β : Type} (h : reply.Always P) (f : α → β) : (reply.map f).Always P := by
  cases reply with
  | answered result => exact h
  | running label activity =>
    intro l a hway
    obtain ⟨a₀, rfl, hr⟩ := Activity.Reaches.of_map hway
    rw [Activity.arrival_map]
    exact h l a₀ hr

/-- So it has under every schedule. -/
theorem Always.course (h : reply.Always P) (services : Services σ μ)
    (schedule : List (Happening μ)) (scene : Scene σ) :
    P (reply.course services schedule scene).events := by
  cases reply with
  | answered result => exact h
  | running label activity =>
    obtain ⟨l, a, hl, hway⟩ := course_reaches services schedule label activity scene
    rw [hl]
    exact h l a hway

/-- A quiet activity never submits anything. -/
theorem always_of_quiet {activity : Activity (Except SessionError α)} (hq : activity.Quiet) :
    (running label activity).Always fun l => submissions l = [] := by
  intro l a hway
  rw [Activity.submissions_arrival_append hq]
  exact hq.submissions_eq_nil hway

end Reply
end SchemaBatch
