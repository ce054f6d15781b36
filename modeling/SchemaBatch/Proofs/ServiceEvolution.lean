import SchemaBatch.Proofs.Course
import SchemaBatch.Proofs.OperationOutcomes

/-!
# `Proofs.ServiceEvolution` — what a service goes through is a history

Histories of deeds are said apart from batches, frames and clocks. This module says that they are what a
service really goes through: whatever is called, whatever the jobs do meanwhile and whatever becomes of
the statement that waits for them, the service is afterwards what some history makes of it.

* `Backend.Evolves` — the service has gone through a history. Answers and moves are such
  (`Backend.answer_evolves`, `Backend.move_evolves`); `InMemory.advance_works` is about the passing of time.
* `Execution.follow_evolves` — **so is every schedule**, by one look, one step and induction.
* `InMemory.concurrent_operations` — **every operation is accounted for**, and operations outlive the
  statements that submitted them: also a statement that was cancelled, timed out or dropped leaves a history
  behind that goes on.
* `InMemory.unstarted_operation_abandoned` — an operation without statements that is killed before its
  job begins is reported as abandoned, although nothing of it is missing.
-/

namespace SchemaBatch

namespace Backend

/-- The schema service of the second is that of the first after some history. -/
def Evolves (b b' : Backend) : Prop :=
  ∀ s, b.schema = .inMemory s → ∃ deeds, b'.schema = .inMemory (InMemory.undergo deeds s)

theorem Evolves.refl (b : Backend) : b.Evolves b := by
  intro s hs
  exact ⟨[], hs⟩

theorem Evolves.trans {b₁ b₂ b₃ : Backend} (h₁ : b₁.Evolves b₂) (h₂ : b₂.Evolves b₃) :
    b₁.Evolves b₃ := by
  intro s hs
  obtain ⟨earlier, hs₂⟩ := h₁ s hs
  obtain ⟨later, hs₃⟩ := h₂ _ hs₂
  refine ⟨earlier ++ later, ?_⟩
  rw [hs₃, InMemory.undergo_append]

/-- An answer to a call is at most one deed. -/
theorem answer_evolves (c : Call) (now : Nat) (b : Backend) :
    b.Evolves (remote.answer c now b).2 := by
  intro s hs
  cases c with
  | submit statements =>
    refine ⟨[.submit statements now], ?_⟩
    show (b.submit statements now).2.schema = _
    simp only [Backend.submit, hs]
    rfl
  | waitFor operation => exact ⟨[], hs⟩
  | inspect operation => exact ⟨[], hs⟩
  | query sql options => exact ⟨[], hs⟩
  | pause duration => exact ⟨[], hs⟩

theorem move_evolves (m : Move) (now : Nat) (b : Backend) : b.Evolves (b.move m now) := by
  intro s hs
  cases m with
  | work index =>
    refine ⟨[.work index now], ?_⟩
    simp only [move, hs]
    rfl
  | data database => exact ⟨[], hs⟩

end Backend

/-- The deed is the work of a job. -/
def Deed.IsWork : Deed → Prop
  | work _ _ => True
  | _ => False

/-- What a service does by itself as time passes is the work of its jobs. -/
theorem InMemory.advance_works (now : Nat) (s : InMemory) :
    ∃ deeds, (∀ d ∈ deeds, d.IsWork) ∧ s.advance now = undergo deeds s := by
  unfold advance
  generalize s.workload = fuel
  induction fuel generalizing s with
  | zero => exact ⟨[], nofun, rfl⟩
  | succ fuel ih =>
    unfold advanceFor
    split
    · rename_i due index _
      split
      · obtain ⟨deeds, hworks, h⟩ := ih (s.step index due)
        exact ⟨.work index due :: deeds, List.forall_mem_cons.mpr ⟨trivial, hworks⟩, h⟩
      · exact ⟨[], nofun, rfl⟩
    · exact ⟨[], nofun, rfl⟩

/-! ## Statements -/

/-- Calls that are answered one after the other are a history. -/
theorem Engaged.advanceFrom_evolves {α : Type} (signalled : Bool) (now : Nat) (a : Activity α)
    (since : Nat) (b : Backend) :
    b.Evolves (advanceFrom Backend.remote signalled now a since b).2 := by
  induction a generalizing since b with
  | done result => exact .refl b
  | call c next ih =>
    unfold advanceFrom
    split
    · exact (Backend.answer_evolves c now b).trans (ih _ _ _)
    · exact .refl b
  | listen c next react ih ihr =>
    unfold advanceFrom
    split
    · exact (Backend.answer_evolves c now b).trans (ih _ _ _)
    · split
      · exact ihr _ _
      · exact .refl b
  | sense next ih =>
    unfold advanceFrom
    exact ih _ _ _

namespace Execution

variable {α : Type}

theorem pollWindDown_evolves (now : Nat) (w : WindDown) (e : Execution α) (f : Frame)
    (b : Backend) : b.Evolves (e.pollWindDown Backend.remote now w f b).2.2 := by
  have hadvance : b.Evolves (e.advance Backend.remote now f b).2 :=
    Engaged.advanceFrom_evolves _ now e.body.activity e.body.since b
  unfold pollWindDown
  dsimp only
  split
  · exact hadvance
  · split
    · exact hadvance
    · exact hadvance

theorem poll_evolves (now : Nat) (e : Execution α) (f : Frame) (b : Backend) :
    b.Evolves (e.poll Backend.remote now f b).2.2 := by
  have hadvance : b.Evolves (e.advance Backend.remote now f b).2 :=
    Engaged.advanceFrom_evolves _ now e.body.activity e.body.since b
  unfold poll
  split
  · exact pollWindDown_evolves now _ e f b
  · dsimp only
    split
    · exact hadvance
    · split
      · exact hadvance
      · exact hadvance.trans (pollWindDown_evolves now _ _ _ _)

theorem step_evolves (h : Happening Backend.Move) (e : Execution α) (scene : Scene Backend) :
    scene.state.Evolves (e.step Backend.services h scene).scene.state := by
  cases h with
  | look => exact poll_evolves scene.now e scene.frame scene.state
  | pass duration => exact .refl scene.state
  | act act => exact .refl scene.state
  | move m => exact Backend.move_evolves m scene.now scene.state

/-- **Under every schedule** the service goes through a history. -/
theorem follow_evolves (schedule : List (Happening Backend.Move)) (e : Execution α)
    (scene : Scene Backend) :
    scene.state.Evolves (e.follow Backend.services schedule scene).scene.state := by
  induction schedule generalizing e scene with
  | nil => exact .refl scene.state
  | cons h schedule ih =>
    have hstep := step_evolves h e scene
    cases hp : (e.step Backend.services h scene).status with
    | ready result =>
      rw [follow_of_ready hp]
      exact hstep
    | pending e' =>
      rw [follow_of_pending hp]
      exact hstep.trans (ih e' _)

end Execution

/-- The service that a statement leaves behind has gone through a history. -/
theorem Reply.course_evolves {α : Type} (schedule : List (Happening Backend.Move))
    (reply : Reply α) (scene : Scene Backend) :
    scene.state.Evolves (reply.course Backend.services schedule scene).aftermath.state := by
  have hkept : ∀ c : Course Backend α, c.aftermath.state = c.scene.state := by
    intro c
    unfold Course.aftermath
    split <;> rfl
  rw [hkept]
  cases reply with
  | answered result => exact .refl scene.state
  | running label activity =>
    exact Execution.follow_evolves (.look :: schedule) _
      { scene with frame := (Execution.start label activity scene.now scene.frame).2 }

/-! ## Operations -/

namespace InMemory

/-- **Many operations on one service.** From any catalog on and in every history: the catalog is what
the applied statements lead to in their common order, the submissions are listed in their order, and
every operation is accounted for. Operations outlive the statements that submitted them: also what the
service goes through while a statement runs, and whatever becomes of the statement, is a history, which goes
on from the one before. -/
theorem concurrent_operations (before : Catalog) (delay : Nat) (identifier : Nat → String)
    (deeds : List Deed) :
    let s : InMemory := ⟨before, [], delay, identifier⟩
    (before.applyAll ((log deeds s).map Prod.snd) = .ok (undergo deeds s).catalog ∧
      (undergo deeds s).submissions = deeds.filterMap Deed.submission? ∧
      ∀ i j, (undergo deeds s).jobs[i]? = some j → Accounted s deeds i j) ∧
    ∀ {α : Type} (reply : Reply α) (schedule : List (Happening Backend.Move)) (database : Database)
        (now : Nat) (f : Frame),
      let scene : Scene Backend := ⟨now, f, ⟨.inMemory (undergo deeds s), database⟩⟩
      ∃ later, (reply.course Backend.services schedule scene).aftermath.state.schema
        = .inMemory (undergo (deeds ++ later) s) := by
  intro s
  have hopened : Chronicle before [] s := Chronicle.opened before delay identifier
  refine ⟨⟨(hopened.history deeds).catalog, submissions_undergo deeds s, ?_⟩, ?_⟩
  · intro i j hj
    exact accounted hopened rfl hj
  · intro α reply schedule database now f scene
    obtain ⟨later, hlater⟩ := reply.course_evolves schedule scene _ rfl
    refine ⟨later, ?_⟩
    rw [hlater, undergo_append]

/-- An operation without statements that is killed before its job begins: all its statements were
applied, since there are none, and yet it has not succeeded. -/
theorem unstarted_operation_abandoned :
    let s := fresh 0 fun _ => ""
    let deeds := [Deed.submit [] 0, .kill 0]
    ∃ j, (undergo deeds s).jobs[0]? = some j ∧
      j.outcome? = some (.error j.operation.abandonment) ∧
      ¬ (j.outcome? = some (.ok ()) ↔ own 0 (log deeds s) = j.statements) := by
  refine ⟨_, rfl, rfl, ?_⟩
  intro h
  cases h.mpr rfl

end InMemory

end SchemaBatch
