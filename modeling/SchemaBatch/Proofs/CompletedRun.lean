import SchemaBatch.Proofs.BatchHistory

/-!
# `Proofs.CompletedRun` — a run whose operation is complete

When the wait for an operation has ended well, all of its statements are applied. The body of the run
then asks how far the operation has come and throws the answer away. It asks inside the frame, though,
so the frame goes on racing it, and a run that is complete may still be given up.

* `Engaged.answered_of_made` — a call that the services answer at once is answered by the advance that
  makes it; `Execution.follow_answered_of_made` — so under every schedule.
* `Execution.follow_unfinished` — an execution that still waits has a body that has not ended.
* `runStatements_completed` — what is left of a run after a wait that ended well.
* `Batch.completed_run_iff` — such a run **is reported as a success exactly when the services answered
  the question in time**, which they always do if they answer it at once.
-/

namespace SchemaBatch

/-! ## Calls that are answered at once -/

namespace Engaged

variable {σ α : Type} {remote : Remote σ} {signalled : Bool} {now : Nat} {c : Call}

/-- A call that is made on arrival is answered there, if it is answered at once. -/
theorem answered_of_mem_arrival (hprompt : ∀ s, remote.isReady c now now s = true)
    {a : Activity α} (h : .made c ∈ a.arrival) (s : σ) :
    ∃ answer, .answered c answer ∈ eventsFrom remote signalled now a now s := by
  cases a with
  | done result => cases h
  | call c' next =>
    cases List.mem_singleton.mp h
    unfold eventsFrom
    rw [if_pos (hprompt s)]
    exact ⟨_, List.mem_cons_self⟩
  | listen c' next react =>
    cases List.mem_singleton.mp h
    unfold eventsFrom
    rw [if_pos (hprompt s)]
    exact ⟨_, List.mem_cons_self⟩
  | sense next => cases h

/-- What holds of the events after an arrival holds of the arrival together with them. -/
theorem answered_of_onward (hprompt : ∀ s, remote.isReady c now now s = true)
    {a : Activity α} {s : σ}
    (ih : .made c ∈ eventsFrom remote signalled now a now s →
      ∃ answer, .answered c answer ∈ eventsFrom remote signalled now a now s)
    (h : .made c ∈ a.arrival ++ eventsFrom remote signalled now a now s) :
    ∃ answer, .answered c answer ∈ a.arrival ++ eventsFrom remote signalled now a now s := by
  have hrest : ∃ answer, .answered c answer ∈ eventsFrom remote signalled now a now s := by
    rcases List.mem_append.mp h with h | h
    · exact answered_of_mem_arrival hprompt h s
    · exact ih h
  obtain ⟨answer, hanswer⟩ := hrest
  exact ⟨answer, List.mem_append_right _ hanswer⟩

/-- **A call that is answered at once** is answered by the advance that makes it. -/
theorem answered_of_made (hprompt : ∀ s, remote.isReady c now now s = true) {a : Activity α}
    {since : Nat} {s : σ} (h : .made c ∈ eventsFrom remote signalled now a since s) :
    ∃ answer, .answered c answer ∈ eventsFrom remote signalled now a since s := by
  -- wherever the advance arrives, it arrives now, so the call made there need not wait
  induction a generalizing since s with
  | done result => cases h
  | call c' next ih =>
    unfold eventsFrom at h ⊢
    split at h
    · rename_i hready
      rw [if_pos hready]
      have hrest := (List.mem_cons.mp h).resolve_left (by rintro ⟨⟩)
      obtain ⟨answer, hanswer⟩ := answered_of_onward hprompt (ih _) hrest
      exact ⟨answer, List.mem_cons_of_mem _ hanswer⟩
    · cases h
  | listen c' next react ih ihr =>
    unfold eventsFrom at h ⊢
    split at h
    · rename_i hready
      rw [if_pos hready]
      have hrest := (List.mem_cons.mp h).resolve_left (by rintro ⟨⟩)
      obtain ⟨answer, hanswer⟩ := answered_of_onward hprompt (ih _) hrest
      exact ⟨answer, List.mem_cons_of_mem _ hanswer⟩
    · rename_i hready
      rw [if_neg hready]
      split at h
      · rename_i hs
        rw [if_pos hs]
        have hrest := (List.mem_cons.mp h).resolve_left (by rintro ⟨⟩)
        obtain ⟨answer, hanswer⟩ := answered_of_onward hprompt ihr hrest
        exact ⟨answer, List.mem_cons_of_mem _ hanswer⟩
      · cases h
  | sense next ih =>
    unfold eventsFrom at h ⊢
    exact answered_of_onward hprompt (ih _) h

end Engaged

namespace Execution

variable {σ μ α : Type}

theorem step_answered_of_made {services : Services σ μ} {c : Call}
    (hprompt : ∀ now s, services.isReady c now now s = true) {h : Happening μ} {e : Execution α}
    {scene : Scene σ} (hmade : .made c ∈ (e.step services h scene).events) :
    ∃ answer, .answered c answer ∈ (e.step services h scene).events := by
  cases h with
  | look =>
    simp only [step, look, eventsAt] at hmade ⊢
    -- made by the body as it stands, or by the body that the look interrupts
    rcases List.mem_append.mp hmade with hmade | hmade
    · obtain ⟨answer, hanswer⟩ := Engaged.answered_of_made (hprompt scene.now) hmade
      exact ⟨answer, List.mem_append_left _ hanswer⟩
    · split at hmade
      · obtain ⟨answer, hanswer⟩ := Engaged.answered_of_made (hprompt scene.now) hmade
        exact ⟨answer, List.mem_append_right _ hanswer⟩
      · cases hmade
  | pass _ => cases hmade
  | act _ => cases hmade
  | move _ => cases hmade

/-- **Under every schedule** a call that the services answer at once is answered when it is made. -/
theorem follow_answered_of_made {services : Services σ μ} {c : Call}
    (hprompt : ∀ now s, services.isReady c now now s = true) (schedule : List (Happening μ))
    {e : Execution α} {scene : Scene σ} (hmade : .made c ∈ (e.follow services schedule scene).events) :
    ∃ answer, .answered c answer ∈ (e.follow services schedule scene).events := by
  induction schedule generalizing e scene with
  | nil => cases hmade
  | cons h schedule ih =>
    cases hp : (e.step services h scene).status with
    | ready result =>
      rw [follow_of_ready hp] at hmade ⊢
      exact step_answered_of_made hprompt hmade
    | pending e' =>
      rw [follow_of_pending hp] at hmade ⊢
      rcases List.mem_append.mp hmade with hmade | hmade
      · obtain ⟨answer, hanswer⟩ := step_answered_of_made hprompt hmade
        exact ⟨answer, List.mem_append_left _ hanswer⟩
      · obtain ⟨answer, hanswer⟩ := ih hmade
        exact ⟨answer, List.mem_append_right _ hanswer⟩

/-- What happens at the first step of a schedule happens in the course of it. -/
theorem mem_follow_of_mem_step {services : Services σ μ} {h : Happening μ}
    {schedule : List (Happening μ)} {e : Execution α} {scene : Scene σ} {event : Event}
    (hmem : event ∈ (e.step services h scene).events) :
    event ∈ (e.follow services (h :: schedule) scene).events := by
  cases hp : (e.step services h scene).status with
  | ready result => rwa [follow_of_ready hp]
  | pending e' =>
    rw [follow_of_pending hp]
    exact List.mem_append_left _ hmem

end Execution

/-- **Under every schedule** a statement gets an answer to each call that is answered at once. -/
theorem Reply.course_answered_of_made {σ μ α : Type} {services : Services σ μ} {c : Call}
    (hprompt : ∀ now s, services.isReady c now now s = true) {schedule : List (Happening μ)}
    {label : Text} {activity : Activity (Except SessionError α)} {scene : Scene σ}
    (hmade : .made c ∈ ((running label activity).course services schedule scene).events) :
    ∃ answer, .answered c answer
      ∈ ((running label activity).course services schedule scene).events := by
  let e := (Execution.start label activity scene.now scene.frame).1
  let frame := (Execution.start label activity scene.now scene.frame).2
  have hcourse : ∃ answer, .answered c answer
      ∈ (e.follow services (.look :: schedule) { scene with frame }).events := by
    rcases List.mem_append.mp hmade with hmade | hmade
    · -- the statement makes its first call when it starts, and is looked at right then
      have hstart : ∃ answer, .answered c answer ∈
          e.body.events services.toRemote (frame.isSignalled e.ticket) scene.now scene.state :=
        Engaged.answered_of_mem_arrival (hprompt scene.now) hmade scene.state
      obtain ⟨answer, hanswer⟩ := hstart
      exact ⟨answer, Execution.mem_follow_of_mem_step (List.mem_append_left _ hanswer)⟩
    · exact Execution.follow_answered_of_made hprompt _ hmade
  obtain ⟨answer, hanswer⟩ := hcourse
  exact ⟨answer, List.mem_append_right _ hanswer⟩

/-! ## Statements that still wait -/

namespace Execution

variable {σ μ α : Type}

theorem pollWindDown_unfinished {remote : Remote σ} {now : Nat} {w : WindDown} {e e' : Execution α}
    {f : Frame} {s : σ} (hp : (e.pollWindDown remote now w f s).1 = .pending e') :
    ¬ e'.body.activity.IsOver := by
  unfold pollWindDown at hp
  dsimp only at hp
  split at hp
  · cases hp
  · rename_i hres
    split at hp
    · cases hp
    · cases hp
      exact Engaged.result?_eq_none_iff.mp hres

theorem look_unfinished {services : Services σ μ} {e e' : Execution α} {scene : Scene σ}
    (hp : (e.look services scene).status = .pending e') : ¬ e'.body.activity.IsOver := by
  obtain ⟨now, f, s⟩ := scene
  change (e.poll services.toRemote now f s).1 = .pending e' at hp
  cases hw : e.windDown with
  | some w =>
    rw [poll_of_windDown hw] at hp
    exact pollWindDown_unfinished hp
  | none =>
    cases hres : (e.advance services.toRemote now f s).1.body.result? with
    | some result =>
      rw [poll_of_done hw hres] at hp
      cases hp
    | none =>
      cases hc : e.interruptedBy now f with
      | none =>
        rw [poll_of_waiting hw hres hc] at hp
        cases hp
        exact Engaged.result?_eq_none_iff.mp hres
      | some cause =>
        rw [poll_of_interrupted hw hres hc] at hp
        exact pollWindDown_unfinished hp

/-- **An execution that still waits** after a schedule has a body that has not ended. -/
theorem follow_unfinished {services : Services σ μ} (schedule : List (Happening μ))
    {e e' : Execution α} {scene : Scene σ} (hb : ¬ e.body.activity.IsOver)
    (hp : (e.follow services schedule scene).status = .pending e') :
    ¬ e'.body.activity.IsOver := by
  -- a look finds the body unfinished, and nothing else touches it
  induction schedule generalizing e scene with
  | nil => cases hp; exact hb
  | cons h schedule ih =>
    cases hs : (e.step services h scene).status with
    | ready result =>
      rw [follow_of_ready hs, hs] at hp
      cases hp
    | pending e₁ =>
      rw [follow_of_pending hs] at hp
      have hb₁ : ¬ e₁.body.activity.IsOver := by
        cases h with
        | look => exact look_unfinished hs
        | pass _ => cases hs; exact hb
        | act _ => cases hs; exact hb
        | move _ => cases hs; exact hb
      exact ih hb₁ hp

end Execution

/-- A statement that still waits has an activity that has not ended. -/
theorem Reply.course_unfinished {σ μ α : Type} {services : Services σ μ}
    {schedule : List (Happening μ)} {label : Text} {activity : Activity (Except SessionError α)}
    {scene : Scene σ} {e : Execution α} (ha : ¬ activity.IsOver)
    (hp : ((running label activity).course services schedule scene).status = .pending e) :
    ¬ e.body.activity.IsOver :=
  Execution.follow_unfinished (.look :: schedule) ha hp

/-! ## After a wait that ended well -/

namespace Activity

variable {α : Type}

theorem answered_not_mem_arrival {a : Activity α} {c : Call} {answer : c.Answer} :
    .answered c answer ∉ a.arrival := by
  cases a <;> simp [arrival]

/-- An answer that is not the first event comes after the arrival that follows the first event. -/
theorem mem_of_answered_later {a : Activity α} {c : Call} {answer : c.Answer} {first : Event}
    {l : List Event} (h : .answered c answer ∈ first :: (a.arrival ++ l))
    (hne : .answered c answer ≠ first) : .answered c answer ∈ l :=
  (List.mem_append.mp (List.mem_of_ne_of_mem hne h)).resolve_left answered_not_mem_arrival

/-- An activity that asks for the progress of an operation and then ends hears of no wait. -/
theorem Reaches.not_mem_waitFor {asked waited : Operation}
    {next : (Call.inspect asked).Answer → Activity α} {l : List Event} {a : Activity α}
    (h : (call (.inspect asked) next).Reaches l a) (hnext : ∀ report, (next report).IsOver)
    {answer : (Call.waitFor waited).Answer} : .answered (.waitFor waited) answer ∉ l := by
  intro hw
  cases h with
  | refl => cases hw
  | answer report h =>
    have hrest := mem_of_answered_later hw (by rintro ⟨⟩)
    obtain ⟨result, hresult⟩ := hnext report
    rw [hresult] at h
    cases h
    cases hrest

end Activity

/-- **What is left of a run** after a wait that ended well: the question how far the operation has
come, or nothing, once that is answered. -/
theorem runStatements_completed {statements : List Text} {l : List Event}
    {a : Activity (Except SessionError Unit)} {operation : Operation}
    (h : (runStatements statements).Reaches l a)
    (hw : .answered (.waitFor operation) (.ok ()) ∈ l) :
    .made (.inspect operation) ∈ l ∧
      ((¬ a.IsOver ∧ ∀ report, .answered (.inspect operation) report ∉ l) ∨
        (a = .done (.ok ()) ∧ ∃ report, .answered (.inspect operation) report ∈ l)) := by
  rw [runStatements_eq] at h
  -- the wait is the second call; what comes after it, or in its place, waits for nothing more
  cases h with
  | refl => cases hw
  | answer submitted h =>
    have hw₁ := Activity.mem_of_answered_later hw (by rintro ⟨⟩)
    cases submitted with
    | error failure =>
      cases h
      cases hw₁
    | ok opened =>
      cases h with
      | refl => cases hw₁
      | abandon h =>
        have hw₂ := Activity.mem_of_answered_later hw₁ (by rintro ⟨⟩)
        exact absurd hw₂ (h.not_mem_waitFor fun _ => ⟨_, rfl⟩)
      | hear waited h =>
        cases waited with
        | error failure =>
          have hw₂ := Activity.mem_of_answered_later hw₁ (by rintro ⟨⟩)
          exact absurd hw₂ (h.not_mem_waitFor fun _ => ⟨_, rfl⟩)
        | ok =>
          have hsame : operation = opened := by
            rcases List.mem_cons.mp hw₁ with heq | hw₂
            · cases heq
              rfl
            · have hw₃ := (List.mem_append.mp hw₂).resolve_left Activity.answered_not_mem_arrival
              exact absurd hw₃ (h.not_mem_waitFor fun _ => ⟨_, rfl⟩)
          subst hsame
          cases h with
          | refl =>
            refine ⟨by simp [afterWait, Activity.arrival], .inl ⟨by rintro ⟨_, ⟨⟩⟩, ?_⟩⟩
            intro report hr
            have hr₁ := Activity.mem_of_answered_later hr (by rintro ⟨⟩)
            have hr₂ := Activity.mem_of_answered_later hr₁ (by rintro ⟨⟩)
            cases hr₂
          | answer report h =>
            cases h
            refine ⟨by simp [afterWait, Activity.arrival], .inr ⟨rfl, report, ?_⟩⟩
            simp [afterWait, Activity.arrival]

namespace Batch

variable {σ μ : Type}

/-- How a run stands whose wait has ended well: it has ended well itself once the progress was read;
otherwise it still waits, or the frame has given it up. -/
inductive Completed (b : Batch) (operation : Operation) (c : Course σ (List Int)) : Prop where
  | read {report : Except Failure Progress}
      (answered : .answered (.inspect operation) report ∈ c.events)
      (status : c.status = .ready (.ok b.fullCounts))
  | waits {e : Execution (List Int)}
      (unread : ∀ report, .answered (.inspect operation) report ∉ c.events)
      (status : c.status = .pending e)
  | givenUp {w : WindDown} (unread : ∀ report, .answered (.inspect operation) report ∉ c.events)
      (status : c.status = .ready (.error (w.cause.giveUpError runLabel)))
      (windDown : c.windDown = some w) (late : w.giveUp ≤ c.scene.now)

/-- The body of a run after a wait that ended well. -/
theorem body_completed {b : Batch} {l : List Event} {a : Activity (Except SessionError (List Int))}
    {operation : Operation} (h : b.body.Reaches l a)
    (hw : .answered (.waitFor operation) (.ok ()) ∈ l) :
    .made (.inspect operation) ∈ l ∧
      ((¬ a.IsOver ∧ ∀ report, .answered (.inspect operation) report ∉ l) ∨
        (a = .done (.ok b.fullCounts) ∧ ∃ report, .answered (.inspect operation) report ∈ l)) := by
  obtain ⟨a₀, rfl, hway⟩ := Activity.Reaches.of_map h
  obtain ⟨hmade, ⟨hover, hunread⟩ | ⟨rfl, hread⟩⟩ := runStatements_completed hway hw
  · refine ⟨hmade, .inl ⟨?_, hunread⟩⟩
    rintro ⟨result, hresult⟩
    obtain ⟨result₀, rfl, _⟩ := Activity.map_eq_done hresult
    exact hover ⟨result₀, rfl⟩
  · exact ⟨hmade, .inr ⟨rfl, hread⟩⟩

/-- What comes before the answers does not matter for how a run stands. -/
theorem Completed.since {b : Batch} {operation : Operation} {c : Course σ (List Int)}
    (h : b.Completed operation c) (a : Activity (Except SessionError (List Int))) :
    b.Completed operation (c.since a.arrival) := by
  have hunread : (∀ report, .answered (.inspect operation) report ∉ c.events) →
      ∀ report, .answered (.inspect operation) report ∉ (c.since a.arrival).events := by
    intro hno report hr
    exact hno report ((List.mem_append.mp hr).resolve_left Activity.answered_not_mem_arrival)
  cases h with
  | read answered status => exact .read (List.mem_append_right _ answered) status
  | waits unread status => exact .waits (hunread unread) status
  | givenUp unread status windDown late => exact .givenUp (hunread unread) status windDown late

/-- A run that got its answer is a success. -/
theorem Completed.status_of_read {b : Batch} {operation : Operation} {c : Course σ (List Int)}
    (h : b.Completed operation c) (hread : ∃ report, .answered (.inspect operation) report ∈ c.events) :
    c.status = .ready (.ok b.fullCounts) := by
  obtain ⟨report, hreport⟩ := hread
  cases h with
  | read _ status => exact status
  | waits unread => exact absurd hreport (unread report)
  | givenUp unread => exact absurd hreport (unread report)

/-- **A run whose wait has ended well**, under every schedule: it asks how far the operation has come,
and all depends on whether it gets an answer. -/
theorem course_completed (services : Services σ μ) (schedule : List (Happening μ)) {b : Batch}
    (scene : Scene σ) (hb : b.state = .started) (hne : b.statements ≠ []) {operation : Operation}
    (hw : .answered (.waitFor operation) (.ok ())
      ∈ (b.run.1.course services schedule scene).events) :
    .made (.inspect operation) ∈ (b.run.1.course services schedule scene).events ∧
      b.Completed operation (b.run.1.course services schedule scene) := by
  rw [run_of_started hb hne] at hw ⊢
  dsimp only at hw ⊢
  have hstart : ¬ b.body.IsOver := by
    rintro ⟨result, hresult⟩
    obtain ⟨result₀, hdone, _⟩ := Activity.map_eq_done hresult
    rw [runStatements_eq] at hdone
    cases hdone
  have hpending : ∀ e, ((Reply.running runLabel b.body).course services schedule scene).status
      = .pending e → ¬ e.body.activity.IsOver := fun e => Reply.course_unfinished hstart
  obtain ⟨c, hx, hc⟩ := Reply.course_explained services schedule runLabel b.body scene
  rw [hc] at hw hpending ⊢
  have hw₁ := (List.mem_append.mp hw).resolve_left Activity.answered_not_mem_arrival
  obtain ⟨a, hway⟩ := hx.reaches
  refine ⟨List.mem_append_right _ (body_completed hway hw₁).1, Completed.since ?_ _⟩
  -- the body has come to the question, or has ended with the answer to it
  cases hx with
  | waits hr =>
    rcases (body_completed hr hw₁).2 with ⟨_, hunread⟩ | ⟨hdone, _⟩
    · exact .waits hunread rfl
    · exact absurd ⟨_, hdone⟩ (hpending _ rfl)
  | ended hr =>
    rcases (body_completed hr hw₁).2 with ⟨hover, _⟩ | ⟨hdone, report, hread⟩
    · exact absurd ⟨_, rfl⟩ hover
    · cases hdone
      exact .read hread rfl
  | woundDown hr =>
    rcases (body_completed hr hw₁).2 with ⟨hover, _⟩ | ⟨hdone, report, hread⟩
    · exact absurd ⟨_, rfl⟩ hover
    · cases hdone
      exact .read hread rfl
  | givenUp hr hover hlate =>
    rcases (body_completed hr hw₁).2 with ⟨_, hunread⟩ | ⟨hdone, _⟩
    · exact .givenUp hunread rfl rfl hlate
    · exact absurd ⟨_, hdone⟩ hover

/-- **When a complete run is reported as a success.** Let the wait of a run have ended well, so that
all statements are applied. For all services and under every schedule the run is then reported as a
success exactly when the services have answered how far the operation has come, whatever the answer
says. Without an answer the run waits, or it was interrupted and the frame has given it up: then it
is reported as failed although nothing has failed. Services that answer the question at once never
let that happen. -/
theorem completed_run_iff (services : Services σ μ) (schedule : List (Happening μ)) (b : Batch)
    (scene : Scene σ) (hb : b.state = .started) (hne : b.statements ≠ [])
    {operation : Operation}
    (hw : .answered (.waitFor operation) (.ok ())
      ∈ (b.run.1.course services schedule scene).events) :
    let c := b.run.1.course services schedule scene
    (c.status = .ready (.ok (List.replicate b.statements.length 1)) ∧
        (b.settled b.run.1 c.outcome).state = .ran ↔
      ∃ report, .answered (.inspect operation) report ∈ c.events) ∧
    (∀ e, c.status = .ready (.error e) →
      (b.settled b.run.1 c.outcome).state = .runFailed ∧
      ∃ w, c.windDown = some w ∧ w.ComesFrom scene schedule ∧ w.giveUp ≤ c.scene.now ∧
        e = w.cause.giveUpError runLabel) ∧
    ((∀ now s, services.isReady (.inspect operation) now now s = true) →
      c.status = .ready (.ok (List.replicate b.statements.length 1))) := by
  intro c
  obtain ⟨hmade, hc⟩ := course_completed services schedule scene hb hne hw
  have hwindDown : ∀ w, c.windDown = some w → w.ComesFrom scene schedule := by
    intro w hwd
    change (b.run.1.course services schedule scene).windDown = some w at hwd
    rw [run_of_started hb hne] at hwd
    exact Reply.course_windDown hwd
  have hsettled : ∀ result, c.status = .ready result →
      b.settled b.run.1 c.outcome = b.conclude result := by
    intro result hs
    unfold Course.outcome
    rw [hs, run_of_started hb hne]
    rfl
  have hprompt : (∀ now s, services.isReady (.inspect operation) now now s = true) →
      ∃ report, .answered (.inspect operation) report ∈ c.events := by
    intro hready
    change ∃ report, .answered (.inspect operation) report
      ∈ (b.run.1.course services schedule scene).events
    rw [run_of_started hb hne] at hmade ⊢
    exact Reply.course_answered_of_made hready hmade
  refine ⟨⟨?_, ?_⟩, ?_, ?_⟩
  · rintro ⟨hok, _⟩
    cases hc with
    | read answered => exact ⟨_, answered⟩
    | waits _ status => cases hok.symm.trans status
    | givenUp _ status => cases hok.symm.trans status
  · intro hread
    have hstatus := hc.status_of_read hread
    exact ⟨hstatus, by rw [hsettled _ hstatus]; rfl⟩
  · intro e he
    rw [hsettled _ he]
    cases hc with
    | read _ status => cases he.symm.trans status
    | waits _ status => cases he.symm.trans status
    | @givenUp w _ status windDown late =>
      cases he.symm.trans status
      exact ⟨rfl, w, windDown, hwindDown w windDown, late, rfl⟩
  · intro hready
    exact hc.status_of_read (hprompt hready)

/-- A schema service that is done with an operation at once but slow to say how far it has come. -/
def reticentService (inspectDelay : Option Nat) : Backend :=
  ⟨.scripted ⟨some 0, some 0, inspectDelay, none, none, true, none, [],
    fun _ => "operations/reticent", []⟩, Database.empty⟩

/-- An answer that comes after the timeout but within the grace period makes the run a success. -/
theorem completed_run_in_grace :
    let b : Batch := ⟨[['A'], ['B']], .started⟩
    let scene : Scene Backend := ⟨0, Frame.idle (some 5) 10, reticentService (some 12)⟩
    let c := b.run.1.course Backend.services [.pass 5, .look, .pass 7, .look] scene
    .answered (.waitFor ⟨"operations/reticent", 0⟩) (.ok ()) ∈ c.events ∧
    (∃ report, .answered (.inspect ⟨"operations/reticent", 0⟩) report ∈ c.events) ∧
    c.status = .ready (.ok [1, 1]) := by
  intro b scene c
  have hw : .answered (.waitFor ⟨"operations/reticent", 0⟩) (.ok ()) ∈ c.events :=
    List.mem_of_getElem? (i := 3) rfl
  have hstatus : c.status = .ready (.ok [1, 1]) := rfl
  have hiff := (completed_run_iff Backend.services [.pass 5, .look, .pass 7, .look] b scene rfl
    (List.cons_ne_nil _ _) hw).1
  exact ⟨hw, hiff.mp ⟨hstatus, rfl⟩, hstatus⟩

/-- A run whose wait ends well at once, before its timeout and without a cancellation, is given up
after the timeout and reported as failed, because the answer to its question never comes. -/
theorem completed_run_given_up :
    let b : Batch := ⟨["CREATE TABLE T (Id INT64) PRIMARY KEY (Id)".toList], .started⟩
    let scene : Scene Backend := ⟨0, Frame.idle (some 100) 10, reticentService none⟩
    let course := fun schedule => b.run.1.course Backend.services schedule scene
    let late := course [.pass 100, .look, .pass 10, .look]
    .answered (.waitFor ⟨"operations/reticent", 0⟩) (.ok ()) ∈ (course []).events ∧
    late.status = .ready (.error
      (.service ⟨.deadlineExceeded, Interruption.timeoutMessage runLabel 100⟩)) ∧
    (b.settled b.run.1 late.outcome).state = .runFailed :=
  ⟨List.mem_of_getElem? (i := 3) rfl, rfl, rfl⟩

end Batch
end SchemaBatch
