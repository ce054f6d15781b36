import SchemaBatch.Text

/-!
# `Frame` — the statements that run, and how to stop them

All statements of a session run in one frame. The frame knows which run, passes a cancellation on to
each of them, and holds the timeout for the statements to come. A ticket is given out once. Spans of
time are in milliseconds.

Contents: `Frame`; `Frame.register`, `Frame.release`, `Frame.cancel`, `Frame.signal` and the views
`Frame.tickets`, `Frame.isRunning`, `Frame.isSignalled`.
-/

namespace SchemaBatch

/-- A statement that runs. -/
structure Running where
  /-- What tells it from all others that ever ran in the frame. -/
  ticket : Nat
  /-- Whether it was told to stop. -/
  signalled : Bool
  deriving DecidableEq, Repr

/-- The statements that run, and the settings for those to come. -/
@[ext] structure Frame where
  /-- The timeout of statements that start from now on. -/
  timeout : Option Nat
  /-- The time a statement that was told to stop gets to wind down. -/
  grace : Nat
  /-- The ticket of the next statement. -/
  nextTicket : Nat
  /-- The statements that run, in the order in which they started. -/
  running : List Running
  /-- No ticket is in use that is still to be given out. -/
  sound : ∀ r ∈ running, r.ticket < nextTicket
  deriving DecidableEq, Repr

namespace Frame

/-- A frame in which nothing runs. -/
def idle (timeout : Option Nat) (grace : Nat) : Frame := ⟨timeout, grace, 0, [], nofun⟩

/-- The tickets of the statements that run. -/
def tickets (f : Frame) : List Nat := f.running.map Running.ticket

/-- Whether a statement runs. -/
def isRunning (f : Frame) : Bool := !f.running.isEmpty

/-- Whether the statement with a ticket was told to stop. -/
def isSignalled (f : Frame) (ticket : Nat) : Bool :=
  f.running.any fun r => r.ticket == ticket && r.signalled

/-- Adds a statement, which gets a ticket of its own. -/
def register (f : Frame) : Nat × Frame :=
  (f.nextTicket,
    { f with
      nextTicket := f.nextTicket + 1
      running := f.running ++ [⟨f.nextTicket, false⟩]
      sound := by
        intro r hr
        rcases List.mem_append.mp hr with hr | hr
        · exact Nat.lt_succ_of_lt (f.sound r hr)
        · rw [List.mem_singleton.mp hr]
          exact Nat.lt_succ_self f.nextTicket })

/-- Removes the statement with a ticket. -/
def release (f : Frame) (ticket : Nat) : Frame :=
  { f with
    running := f.running.filter fun r => r.ticket != ticket
    sound := fun r hr => f.sound r (List.mem_filter.mp hr).1 }

/-- Tells the statement with a ticket to stop. -/
def signal (f : Frame) (ticket : Nat) : Frame :=
  { f with
    running := f.running.map fun r =>
      if r.ticket == ticket then { r with signalled := true } else r
    sound := by
      intro _ hmem
      obtain ⟨r, hr, rfl⟩ := List.mem_map.mp hmem
      split <;> exact f.sound r hr }

/-- Tells every statement that runs to stop, and whether there was one. -/
def cancel (f : Frame) : Bool × Frame :=
  (f.isRunning,
    { f with
      running := f.running.map fun r => { r with signalled := true }
      sound := by
        intro _ hmem
        obtain ⟨r, hr, rfl⟩ := List.mem_map.mp hmem
        exact f.sound r hr })

/-- Sets the timeout of statements that start from now on. -/
def setTimeout (f : Frame) (timeout : Option Nat) : Frame := { f with timeout }

/-- Sets the time to wind down. -/
def setGrace (f : Frame) (grace : Nat) : Frame := { f with grace }

end Frame
end SchemaBatch
