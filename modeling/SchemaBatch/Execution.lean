import SchemaBatch.Activity
import SchemaBatch.Frame

/-!
# `Execution` — a statement in its frame

An execution runs an activity until it ends, the statement timeout passes or the frame is cancelled.
In the last two cases the activity is signalled and gets the grace period to report what it knows;
after that the frame gives up on it.

Contents: `Interruption` with the errors it leads to; `Execution`, `Execution.start` and
`Execution.poll`, which brings an execution up to date; `durationText`, the text of a timeout.
-/

namespace SchemaBatch

/-- A timeout in messages: milliseconds below one second, then seconds with up to three decimals. -/
def durationText (n : Nat) : Text :=
  if n = 0 then "0ns".toList
  else if n < 1000 then Text.numeral n ++ ['m', 's']
  else
    let decimals := ((Text.padded 3 (n % 1000)).reverse.dropWhile (· == '0')).reverse
    Text.numeral (n / 1000) ++ (if decimals.isEmpty then [] else '.' :: decimals) ++ ['s']

/-! ## Interruptions -/

/-- Why an execution was interrupted. -/
inductive Interruption where
  | cancelled
  /-- The statement timeout passed. -/
  | timedOut (timeout : Nat)
  deriving DecidableEq, Repr

namespace Interruption

/-- The message about a statement that ran into its timeout. -/
def timeoutMessage (label : Text) (timeout : Nat) : String :=
  "Statement execution timeout occurred for " ++ Text.string label ++ " after " ++
    Text.string (durationText timeout)

/-- The error of a statement that did not wind down in time. -/
def giveUpError (label : Text) : Interruption → SessionError
  | .cancelled => .service ⟨.cancelled, "Statement execution was cancelled: " ++ Text.string label⟩
  | .timedOut timeout => .service ⟨.deadlineExceeded, timeoutMessage label timeout⟩

/-- The error of a statement that wound down. After a timeout, one that says "cancelled" becomes one
about the timeout; update counts stay as they are. -/
def recast (label : Text) : Interruption → SessionError → SessionError
  | .timedOut timeout, .batchFailed f =>
    if f.code = .cancelled then
      .batchFailed { f with code := .deadlineExceeded, message := timeoutMessage label timeout }
    else .batchFailed f
  | .timedOut timeout, .service s =>
    if s.code = .cancelled then .service ⟨.deadlineExceeded, timeoutMessage label timeout⟩
    else .service s
  | _, e => e

end Interruption

/-! ## Executions -/

/-- How far something that may have to wait has come. -/
inductive Poll (ρ κ : Type) where
  /-- It ended. -/
  | ready (result : ρ)
  /-- It has to wait. -/
  | pending (rest : κ)

/-- The grace period of an interrupted execution. -/
structure WindDown where
  cause : Interruption
  /-- The instant at which the frame gives up. -/
  giveUp : Nat
  deriving DecidableEq, Repr

/-- A statement that runs in a frame. -/
structure Execution (α : Type) where
  /-- The text of the statement, for messages. -/
  label : Text
  ticket : Nat
  /-- The timeout that was set when the statement started. -/
  timeout : Option Nat
  /-- The instant at which the statement started. -/
  begun : Nat
  body : Engaged (Except SessionError α)
  /-- The grace period, once the execution is interrupted. -/
  windDown : Option WindDown

namespace Execution

/-- Starts a statement in a frame. -/
def start {α : Type} (label : Text) (activity : Activity (Except SessionError α)) (now : Nat)
    (f : Frame) : Execution α × Frame :=
  let (ticket, f) := f.register
  (⟨label, ticket, f.timeout, now, Engaged.start activity now, none⟩, f)

/-- The instant at which the timeout passes. -/
def deadline {α : Type} (e : Execution α) : Option Nat := e.timeout.map (e.begun + ·)

/-- What interrupts the execution now. A cancellation comes before the timeout. -/
def interruptedBy {α : Type} (e : Execution α) (now : Nat) (f : Frame) : Option Interruption :=
  if f.isSignalled e.ticket then some .cancelled
  else match e.timeout with
    | some timeout => if e.begun + timeout ≤ now then some (.timedOut timeout) else none
    | none => none

/-- Brings the body up to date. -/
def advance {σ α : Type} (remote : Remote σ) (now : Nat) (e : Execution α) (f : Frame) (s : σ) :
    Execution α × σ :=
  let (body, s) := e.body.advance remote (f.isSignalled e.ticket) now s
  ({ e with body }, s)

/-- Brings an interrupted execution up to date: its body may end within the grace period. -/
def pollWindDown {σ α : Type} (remote : Remote σ) (now : Nat) (w : WindDown) (e : Execution α)
    (f : Frame) (s : σ) : Poll (Except SessionError α) (Execution α) × Frame × σ :=
  let (e, s) := e.advance remote now f s
  match e.body.result? with
  | some result => (.ready (result.mapError (w.cause.recast e.label)), f.release e.ticket, s)
  | none =>
    if w.giveUp ≤ now then (.ready (.error (w.cause.giveUpError e.label)), f.release e.ticket, s)
    else (.pending { e with windDown := some w }, f, s)

/-- Brings an execution up to date. The body comes first, so one that ends at the instant of an
interruption is not interrupted. -/
def poll {σ α : Type} (remote : Remote σ) (now : Nat) (e : Execution α) (f : Frame) (s : σ) :
    Poll (Except SessionError α) (Execution α) × Frame × σ :=
  match e.windDown with
  | some w => e.pollWindDown remote now w f s
  | none =>
    let (e, s) := e.advance remote now f s
    match e.body.result? with
    | some result => (.ready result, f.release e.ticket, s)
    | none =>
      match e.interruptedBy now f with
      | none => (.pending e, f, s)
      | some cause => e.pollWindDown remote now ⟨cause, now + f.grace⟩ (f.signal e.ticket) s

/-- The instants at which the execution may have to be brought up to date. -/
def alarms {σ α : Type} (remote : Remote σ) (e : Execution α) (s : σ) : List Nat :=
  (e.body.due remote s).toList ++
    match e.windDown with
    | some w => [w.giveUp]
    | none => e.deadline.toList

end Execution
end SchemaBatch
