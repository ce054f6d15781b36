import SchemaBatch.Proofs.Schedule

/-!
# `Proofs.Frames` — what a frame keeps of its statements

A frame finds its statements by their tickets. What is said here of the tickets holds for every order
of operations: telling a statement to stop changes no ticket, and what others do never takes a
statement away or tells it alone to stop.

* `Frame.tickets_signal`, `Frame.tickets_cancel`, `Frame.tickets_register`,
  `Frame.mem_tickets_release` — the tickets after each operation.
* `Frame.isSignalled_cancel` — **who cancels the frame reaches every statement in it**, and no other;
  `Frame.isSignalled_signal_of_ne` and its companions: nothing that is done to one tells another to stop.
* `Frame.isSignalled_act` — **nobody else stops a statement** except by cancelling the whole frame.
-/

namespace SchemaBatch
namespace Frame

/-! ## Tickets -/

@[simp] theorem tickets_signal (f : Frame) (ticket : Nat) :
    (f.signal ticket).tickets = f.tickets := by
  unfold tickets signal
  rw [List.map_map]
  apply List.map_congr_left
  intro r hr
  show (if r.ticket == ticket then { r with signalled := true } else r).ticket = r.ticket
  split <;> rfl

@[simp] theorem tickets_cancel (f : Frame) : f.cancel.2.tickets = f.tickets := by
  unfold tickets cancel
  rw [List.map_map]
  rfl

@[simp] theorem tickets_register (f : Frame) :
    f.register.2.tickets = f.tickets ++ [f.nextTicket] := by
  unfold tickets register
  rw [List.map_append]
  rfl

@[simp] theorem tickets_release (f : Frame) (ticket : Nat) :
    (f.release ticket).tickets = f.tickets.filter (· != ticket) := by
  unfold tickets release
  rw [List.filter_map]
  rfl

theorem mem_tickets_release {f : Frame} {ticket own : Nat} :
    own ∈ (f.release ticket).tickets ↔ own ∈ f.tickets ∧ own ≠ ticket := by
  rw [tickets_release, List.mem_filter]
  simp

/-- Something runs in a frame exactly if it has a ticket. -/
theorem isRunning_iff {f : Frame} : f.isRunning = true ↔ f.tickets ≠ [] := by
  unfold isRunning tickets
  cases f.running <;> simp

/-- It does not matter for those that stay whether a statement was told to stop before it went. -/
theorem release_signal (f : Frame) (ticket : Nat) :
    (f.signal ticket).release ticket = f.release ticket := by
  -- the statements that `signal` changes are those that `release` takes away
  have hrunning : ∀ running : List Running,
      (running.map fun r => if r.ticket == ticket then { r with signalled := true } else r).filter
        (fun r => r.ticket != ticket) = running.filter fun r => r.ticket != ticket := by
    intro running
    induction running with
    | nil => rfl
    | cons r running ih =>
      rw [List.map_cons, List.filter_cons, List.filter_cons, ih]
      by_cases hr : r.ticket = ticket
      · simp [hr]
      · simp [hr]
  exact Frame.ext rfl rfl rfl (hrunning f.running)

/-- What others do to a frame leaves a statement registered. -/
theorem mem_tickets_act {own : Nat} {f : Frame} (h : own ∈ f.tickets) (act : Act) :
    own ∈ (f.act own act).tickets := by
  cases act with
  | cancel => exact f.tickets_cancel.symm ▸ h
  | setTimeout timeout => exact h
  | setGrace grace => exact h
  | enter => exact f.tickets_register.symm ▸ List.mem_append_left _ h
  | leave ticket =>
    show own ∈ (if ticket = own then f else f.release ticket).tickets
    split
    · exact h
    · rename_i hne
      exact mem_tickets_release.mpr ⟨h, Ne.symm hne⟩
  | tell ticket =>
    show own ∈ (if ticket = own then f else f.signal ticket).tickets
    split
    · exact h
    · rw [tickets_signal]
      exact h

/-! ## Who is told to stop -/

theorem isSignalled_iff {f : Frame} {own : Nat} :
    f.isSignalled own = true ↔ ∃ r ∈ f.running, r.ticket = own ∧ r.signalled = true := by
  simp [isSignalled]

/-- A statement that is not registered is not told anything. -/
theorem mem_of_isSignalled {f : Frame} {own : Nat} (h : f.isSignalled own = true) :
    own ∈ f.tickets := by
  obtain ⟨r, hr, ht, _⟩ := isSignalled_iff.mp h
  exact List.mem_map.mpr ⟨r, hr, ht⟩

/-- Who cancels the frame reaches every statement that is registered, and no other. -/
theorem isSignalled_cancel {f : Frame} {own : Nat} :
    f.cancel.2.isSignalled own = true ↔ own ∈ f.tickets := by
  constructor
  · intro h
    rw [← f.tickets_cancel]
    exact mem_of_isSignalled h
  · intro h
    obtain ⟨r, hr, ht⟩ := List.mem_map.mp h
    exact isSignalled_iff.mpr ⟨{ r with signalled := true }, List.mem_map.mpr ⟨r, hr, rfl⟩, ht, rfl⟩

/-- To tell one statement to stop tells no other, -/
theorem isSignalled_signal_of_ne {f : Frame} {own ticket : Nat} (hne : own ≠ ticket) :
    (f.signal ticket).isSignalled own = f.isSignalled own := by
  rw [Bool.eq_iff_iff, isSignalled_iff, isSignalled_iff]
  constructor
  · rintro ⟨_, hmem, ht, hs⟩
    obtain ⟨r, hr, rfl⟩ := List.mem_map.mp hmem
    -- only the statement with the other ticket was told
    have hother : ¬ r.ticket = ticket := by
      intro hrt
      rw [if_pos (beq_iff_eq.mpr hrt)] at ht
      exact hne (ht.symm.trans hrt)
    rw [if_neg (by simpa using hother)] at ht hs
    exact ⟨r, hr, ht, hs⟩
  · rintro ⟨r, hr, ht, hs⟩
    have hother : ¬ r.ticket = ticket := fun hrt => hne (ht.symm.trans hrt)
    exact ⟨r, List.mem_map.mpr ⟨r, hr, if_neg (by simpa using hother)⟩, ht, hs⟩

/-- and neither does its end, -/
theorem isSignalled_release_of_ne {f : Frame} {own ticket : Nat} (hne : own ≠ ticket) :
    (f.release ticket).isSignalled own = f.isSignalled own := by
  rw [Bool.eq_iff_iff, isSignalled_iff, isSignalled_iff]
  constructor
  · rintro ⟨r, hr, hrest⟩
    exact ⟨r, (List.mem_filter.mp hr).1, hrest⟩
  · rintro ⟨r, hr, ht, hs⟩
    have hother : ¬ r.ticket = ticket := fun hrt => hne (ht.symm.trans hrt)
    exact ⟨r, List.mem_filter.mpr ⟨hr, by simpa using hother⟩, ht, hs⟩

/-- nor the start of another. -/
theorem isSignalled_register_of_ne {f : Frame} {own : Nat} (hne : own ≠ f.nextTicket) :
    f.register.2.isSignalled own = f.isSignalled own := by
  rw [Bool.eq_iff_iff, isSignalled_iff, isSignalled_iff]
  constructor
  · rintro ⟨r, hr, ht, hs⟩
    rcases List.mem_append.mp hr with hr | hr
    · exact ⟨r, hr, ht, hs⟩
    · rw [List.mem_singleton.mp hr] at ht
      exact absurd ht.symm hne
  · rintro ⟨r, hr, hrest⟩
    exact ⟨r, List.mem_append_left _ hr, hrest⟩

/-- The frame reaches every statement that is registered. -/
theorem isSignalled_signal {f : Frame} {ticket : Nat} (h : ticket ∈ f.tickets) :
    (f.signal ticket).isSignalled ticket = true := by
  obtain ⟨r, hr, ht⟩ := List.mem_map.mp h
  refine isSignalled_iff.mpr ⟨{ r with signalled := true }, ?_, ht, rfl⟩
  exact List.mem_map.mpr ⟨r, hr, by simp [ht]⟩

/-- A statement that has just started is not told to stop. -/
theorem isSignalled_register (f : Frame) : f.register.2.isSignalled f.nextTicket = false := by
  rw [← Bool.not_eq_true]
  intro h
  obtain ⟨r, hr, ht, hs⟩ := isSignalled_iff.mp h
  -- the statements before are older, and the new one is not told yet
  rcases List.mem_append.mp hr with hr | hr
  · have hlt := f.sound r hr
    rw [ht] at hlt
    exact Nat.lt_irrefl _ hlt
  · rw [List.mem_singleton.mp hr] at hs
    cases hs

/-- What others do to a frame, short of cancelling it, does not change what a statement was told. -/
theorem isSignalled_act_of_ne {own : Nat} {f : Frame} {act : Act} (hne : act ≠ .cancel) :
    (f.act own act).isSignalled own = f.isSignalled own := by
  cases act with
  | cancel => exact absurd rfl hne
  | setTimeout timeout => rfl
  | setGrace grace => rfl
  | enter =>
    -- the one that starts is not told to stop
    simp [Frame.act, register, isSignalled]
  | leave ticket =>
    show (if ticket = own then f else f.release ticket).isSignalled own = f.isSignalled own
    split
    · rfl
    · rename_i hne
      exact isSignalled_release_of_ne (Ne.symm hne)
  | tell ticket =>
    show (if ticket = own then f else f.signal ticket).isSignalled own = f.isSignalled own
    split
    · rfl
    · rename_i hne
      exact isSignalled_signal_of_ne (Ne.symm hne)

/-- A statement that was told to stop stays told. -/
theorem isSignalled_act_of_isSignalled {own : Nat} {f : Frame} (h : f.isSignalled own = true)
    (act : Act) : (f.act own act).isSignalled own = true := by
  by_cases hact : act = .cancel
  · subst hact
    exact isSignalled_cancel.mpr (mem_of_isSignalled h)
  · rw [isSignalled_act_of_ne hact]
    exact h

/-- A statement is told to stop by nobody else than one who cancels the whole frame. -/
theorem isSignalled_act {own : Nat} {f : Frame} {act : Act}
    (h : (f.act own act).isSignalled own = true) :
    act = .cancel ∨ f.isSignalled own = true := by
  by_cases hact : act = .cancel
  · exact .inl hact
  · exact .inr (isSignalled_act_of_ne hact ▸ h)

end Frame

end SchemaBatch
