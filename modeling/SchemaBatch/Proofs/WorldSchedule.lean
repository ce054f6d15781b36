import SchemaBatch.Proofs.InMemoryWorld
import SchemaBatch.Proofs.ServiceEvolution

/-!
# `Proofs.WorldSchedule` — a wait in a world is a schedule

A world has a clock of its own, which goes from one instant to the next at which something is due.
Schedules know nothing of this: they say in which order things happen, and when. What is said of every
schedule holds of a wait in a world, since the wait is one of them.

* `Backend.shared` — the services of a session whose schema service others use as well: they move by
  deeds, each with an instant of its own.
* `Happening.IsQuiet` — what happens to a statement that nobody else has to do with.
* `Backend.GoneOn.share`, `Batch.Served.share` — what such deeds keep of the services.
* `World.drive_follows` — **a wait in a world without tasks is a quiet schedule**.
* `World.execute_follows` — what a statement ends with there is what it ends with under such a schedule.
-/

namespace SchemaBatch

/-! ## Services that others use as well -/

namespace Backend

/-- The services after a deed at the service in memory. -/
def share (d : Deed) (_now : Nat) (b : Backend) : Backend :=
  match b.schema with
  | .inMemory s => { b with schema := .inMemory (s.perform d) }
  | .scripted _ => b

/-- The services of a session whose schema service others use as well. -/
def shared : Services Backend Deed := moved share

end Backend

/-- What happens to a statement that nobody else has to do with: the one who waits looks, time passes, and
jobs work. -/
def Happening.IsQuiet : Happening Deed → Prop
  | look | pass _ => True
  | act _ => False
  | move d => d.IsWork

/-- The schema service has gone on with deeds of a schedule. -/
def Backend.GoneOn (schedule : List (Happening Deed)) (s : InMemory) (b : Backend) : Prop :=
  ∃ deeds, (∀ d ∈ deeds, .move d ∈ schedule) ∧ b.schema = .inMemory (InMemory.undergo deeds s)

theorem Backend.GoneOn.share {schedule : List (Happening Deed)} {s : InMemory} {b : Backend}
    (h : GoneOn schedule s b) {d : Deed} (hd : .move d ∈ schedule) (now : Nat) :
    GoneOn schedule s (Backend.share d now b) := by
  obtain ⟨deeds, hdeeds, hs⟩ := h
  refine ⟨deeds ++ [d], ?_, ?_⟩
  · intro d' hd'
    rcases List.mem_append.mp hd' with hd' | hd'
    · exact hdeeds d' hd'
    · cases List.mem_singleton.mp hd'
      exact hd
  · simp only [Backend.share, hs, InMemory.undergo_append]
    rfl

/-- Where nothing but the job of a run goes on, the work of the jobs is that of this one. -/
theorem Batch.Served.share {b : Batch} {before : Catalog} {old : List Job} {backend : Backend}
    (h : b.Served before old backend) {d : Deed} (hd : d.IsWork) (now : Nat) :
    b.Served before old (Backend.share d now backend) := by
  obtain ⟨s, k, j, hs, hc⟩ := h
  cases d with
  | work index due =>
    obtain ⟨k', j', hc'⟩ := hc.step_any index due
    refine ⟨s.step index due, k', j', ?_, hc'⟩
    simp only [Backend.share, hs]
    rfl
  | submit statements now => cases hd
  | kill index => cases hd

/-! ## Schedules, piece by piece -/

namespace Execution

variable {α : Type}

/-- Deeds are made one after the other while the execution waits. -/
theorem follow_deeds (deeds : List Deed) (e : Execution α) {now : Nat} {f : Frame} {s : InMemory}
    {database : Database} :
    (e.follow Backend.shared (deeds.map .move) ⟨now, f, ⟨.inMemory s, database⟩⟩).status
        = .pending e ∧
      (e.follow Backend.shared (deeds.map .move) ⟨now, f, ⟨.inMemory s, database⟩⟩).scene
        = ⟨now, f, ⟨.inMemory (InMemory.undergo deeds s), database⟩⟩ := by
  induction deeds generalizing s with
  | nil => exact ⟨rfl, rfl⟩
  | cons d deeds ih => exact ih

/-- What the services do as time passes is the work of their jobs. -/
theorem follow_advance (now : Nat) (backend : Backend) :
    ∃ schedule : List (Happening Deed), (∀ h ∈ schedule, h.IsQuiet) ∧
      ∀ (e : Execution α) (f : Frame),
        (e.follow Backend.shared schedule ⟨now, f, backend⟩).status = .pending e ∧
        (e.follow Backend.shared schedule ⟨now, f, backend⟩).scene
          = ⟨now, f, backend.advance now⟩ := by
  obtain ⟨schema, database⟩ := backend
  cases schema with
  | inMemory s =>
    obtain ⟨deeds, hworks, hadvance⟩ := s.advance_works now
    refine ⟨deeds.map .move, List.forall_mem_map.mpr hworks, ?_⟩
    intro e f
    simp only [Backend.advance, hadvance]
    exact follow_deeds deeds e
  | scripted s => exact ⟨[], List.forall_mem_nil _, fun e f => ⟨rfl, rfl⟩⟩

end Execution

/-! ## Waits in a world -/

/-- The scene of a world. -/
def World.scene {β : Type} (w : World β) : Scene Backend := ⟨w.now, w.frame, w.backend⟩

namespace Execution

variable {α β : Type}

/-- What a wait came to is what becomes of the execution under some schedule that goes on quietly after
its opening. -/
def Follows (opening : List (Happening Deed)) (e : Execution α) (scene : Scene Backend)
    (came : Poll (Except SessionError α) (Execution α) × World β) : Prop :=
  ∃ schedule : List (Happening Deed), (∀ h ∈ schedule, h.IsQuiet) ∧
    (e.follow Backend.shared (opening ++ schedule) scene).status = came.1 ∧
    (e.follow Backend.shared (opening ++ schedule) scene).scene = came.2.scene

section Follows

variable {opening first : List (Happening Deed)} {e e' : Execution α} {scene : Scene Backend}
  {came : Poll (Except SessionError α) (Execution α) × World β}

/-- What comes after a quiet piece of the schedule comes after the opening. -/
theorem Follows.after (hquiet : ∀ h ∈ first, h.IsQuiet)
    (hp : (e.follow Backend.shared (opening ++ first) scene).status = .pending e')
    (h : e'.Follows [] (e.follow Backend.shared (opening ++ first) scene).scene came) :
    e.Follows opening scene came := by
  obtain ⟨schedule, hquiet', hstatus, hscene⟩ := h
  have happend := follow_append hp schedule
  rw [List.append_assoc] at happend
  refine ⟨first ++ schedule, ?_, (congrArg Course.status happend).trans hstatus,
    (congrArg Course.scene happend).trans hscene⟩
  intro h hmem
  exact (List.mem_append.mp hmem).elim (hquiet h) (hquiet' h)

/-- The opening may be quiet itself. -/
theorem Follows.of_opening (h : e.Follows opening scene came) (hquiet : ∀ h ∈ opening, h.IsQuiet) :
    e.Follows [] scene came := by
  obtain ⟨schedule, hquiet', hstatus, hscene⟩ := h
  refine ⟨opening ++ schedule, ?_, hstatus, hscene⟩
  intro h hmem
  exact (List.mem_append.mp hmem).elim (hquiet h) (hquiet' h)

/-- Time may pass, and the execution goes on after that. -/
theorem Follows.later {w : World β} {t : Nat} (h : e.Follows opening scene (.pending e', w))
    (hle : w.now ≤ t) (hgoes : e'.Follows [] ⟨t, w.frame, w.backend⟩ came) :
    e.Follows opening scene came := by
  obtain ⟨schedule, hquiet, hstatus, hscene⟩ := h
  apply Follows.after hquiet hstatus
  rw [hscene]
  have hpass : ∀ h ∈ ([.pass (t - w.now)] : List (Happening Deed)), h.IsQuiet := by
    intro h hmem
    cases List.mem_singleton.mp hmem
    trivial
  apply Follows.after hpass rfl
  show e'.Follows [] ⟨w.now + (t - w.now), w.frame, w.backend⟩ came
  rwa [Nat.add_sub_cancel' hle]

end Follows

/-- A look is a schedule. -/
theorem follow_look (e : Execution α) (scene : Scene Backend) :
    (e.follow Backend.shared [.look] scene).status = (e.look Backend.shared scene).status ∧
      (e.follow Backend.shared [.look] scene).scene = (e.look Backend.shared scene).scene := by
  cases hp : (e.step Backend.shared .look scene).status with
  | ready result =>
    rw [follow_of_ready hp]
    exact ⟨rfl, rfl⟩
  | pending e' =>
    rw [follow_of_pending hp]
    exact ⟨hp.symm, rfl⟩

theorem isQuiet_look : ∀ h ∈ ([.look] : List (Happening Deed)), h.IsQuiet := by
  intro h hmem
  cases List.mem_singleton.mp hmem
  trivial

end Execution

namespace World

variable {α β : Type}

/-- What a statement gives when it is asked for is what a look gives. -/
theorem statement_poll (now : Nat) (e : Execution α) (w : World β) :
    statement.poll now e w
      = ((e.look Backend.shared ⟨now, w.frame, w.backend⟩).status,
          { w with
            frame := (e.look Backend.shared ⟨now, w.frame, w.backend⟩).scene.frame
            backend := (e.look Backend.shared ⟨now, w.frame, w.backend⟩).scene.state }) := rfl

theorem settle_of_no_alarm (w : World β) (htasks : w.tasks = []) (halarm : w.alarm = none)
    (now : Nat) : w.settle now = { w with now, tasks := [], backend := w.backend.advance now } := by
  have hring : w.ring now = w := by
    unfold ring
    rw [halarm]
  rw [settle_of_no_tasks htasks, hring]

/-- **One instant of a wait** is a quiet schedule. -/
theorem ask_follows (now : Nat) (e : Execution α) {w : World β} (htasks : w.tasks = [])
    (halarm : w.alarm = none) :
    e.Follows [.look] ⟨now, w.frame, w.backend⟩ (ask statement now e w) ∧
      (ask statement now e w).2.now = now ∧ (ask statement now e w).2.tasks = [] ∧
      (ask statement now e w).2.alarm = none := by
  obtain ⟨hstatus, hscene⟩ := e.follow_look ⟨now, w.frame, w.backend⟩
  have hnow : (e.look Backend.shared ⟨now, w.frame, w.backend⟩).scene.now = now := rfl
  unfold ask
  rw [statement_poll]
  dsimp only
  generalize e.look Backend.shared ⟨now, w.frame, w.backend⟩ = c at *
  obtain ⟨status, ⟨instant, f, backend⟩, events, windDown⟩ := c
  change instant = now at hnow
  subst instant
  cases status with
  | ready result =>
    exact ⟨⟨[], List.forall_mem_nil _, hstatus, hscene⟩, rfl, htasks, halarm⟩
  | pending e' =>
    -- the services work, and the statement is asked for again
    have hsettle := settle_of_no_alarm { w with now, frame := f, backend } htasks halarm now
    dsimp only at hsettle hstatus hscene ⊢
    rw [hsettle, statement_poll]
    refine ⟨?_, rfl, rfl, halarm⟩
    obtain ⟨works, hquiet, hworks⟩ := Execution.follow_advance (α := α) now backend
    obtain ⟨hpending, hadvanced⟩ := hworks e' f
    obtain ⟨hstatus', hscene'⟩ := e'.follow_look ⟨now, f, backend.advance now⟩
    have hfirst : (e.follow Backend.shared ([.look] ++ []) ⟨now, w.frame, w.backend⟩).status
        = .pending e' := hstatus
    refine Execution.Follows.after (List.forall_mem_nil _) hfirst ?_
    rw [List.append_nil, hscene]
    rw [← List.nil_append works] at hpending hadvanced
    apply Execution.Follows.after hquiet hpending
    rw [hadvanced]
    exact ⟨[.look], Execution.isQuiet_look, hstatus', hscene'⟩

/-- **A wait in a world without tasks is a quiet schedule**, if no alarm is set. It begins with a look. -/
theorem drive_follows (limit now : Nat) (e : Execution α) {w : World β} (htasks : w.tasks = [])
    (halarm : w.alarm = none) :
    e.Follows [.look] ⟨now, w.frame, w.backend⟩ (drive statement limit now e w) := by
  -- by induction on the time that is left; each instant adds its piece to the schedule
  generalize hleft : limit - now = left
  induction left using Nat.strongRecOn generalizing now e w with
  | ind left ih =>
    obtain ⟨hask, hnow, htasks', halarm'⟩ := ask_follows now e htasks halarm
    rw [drive]
    generalize ask statement now e w = came at *
    obtain ⟨status, w'⟩ := came
    cases status with
    | ready result => exact hask
    | pending e' =>
      have hstop : e.Follows [.look] ⟨now, w.frame, w.backend⟩
          (.pending e', { w' with now := max now limit }) :=
        hask.later (hnow ▸ Nat.le_max_left now limit) ⟨[], List.forall_mem_nil _, rfl, rfl⟩
      dsimp only
      split
      · exact hstop
      · rename_i t ht
        have hlt := lt_of_soonest_eq_some ht
        split
        · -- the clock goes on to the next instant
          have hgoes := ih (limit - t) (by omega) t e' htasks' halarm' rfl
          exact hask.later (hnow ▸ Nat.le_of_lt hlt) (hgoes.of_opening Execution.isQuiet_look)
        · exact hstop

/-- So what a statement ends with in such a world is what it ends with under some quiet schedule. -/
theorem execute_follows {limit : Nat} {label : Text} {activity : Activity (Except SessionError α)}
    {w w' : World β} {result : Except SessionError α} (htasks : w.tasks = []) (halarm : w.alarm = none)
    (h : w.execute limit label activity = (.ended result, w')) :
    ∃ schedule : List (Happening Deed), (∀ h ∈ schedule, h.IsQuiet) ∧
      ((Reply.running label activity).course Backend.shared schedule w.scene).status = .ready result ∧
      ((Reply.running label activity).course Backend.shared schedule w.scene).scene = w'.scene := by
  unfold execute World.wait at h
  simp only [Reply.course, scene]
  generalize Execution.start label activity w.now w.frame = started at h ⊢
  obtain ⟨e, frame⟩ := started
  dsimp only at h ⊢
  obtain ⟨schedule, hquiet, hstatus, hscene⟩ :=
    drive_follows limit w.now e (w := { w with frame }) htasks halarm
  generalize drive statement limit w.now e { w with frame } = came at h hstatus hscene
  obtain ⟨status, w₁⟩ := came
  cases status with
  | pending e' => cases h
  | ready result' =>
    cases h
    exact ⟨schedule, hquiet, hstatus, hscene⟩

end World
end SchemaBatch
