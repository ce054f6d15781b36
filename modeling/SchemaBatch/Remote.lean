import SchemaBatch.Data.Request
import SchemaBatch.Progress
import SchemaBatch.SessionError
import SchemaBatch.Text.Quoted

/-!
# `Remote` — calls to the services and their answers

The session and its batches reach the services by calls alone. A call is made at some instant and is
answered at that instant or later, or never. `Remote σ` says for services in a state of type `σ`
when an outstanding call can be answered and what the answer is. Here and in all that follows,
instants are counted from the start of the clock, and they and spans of time are whole milliseconds.

Contents: `Operation`, the handle of a schema-change operation; `Call` and `Call.Answer`;
`QueryFault`; `Remote`.
-/

namespace SchemaBatch

/-- The handle of a schema-change operation. -/
structure Operation where
  /-- The name that the service gave it. -/
  name : String
  /-- Its position among the operations of the service. -/
  index : Nat
  deriving DecidableEq, Repr

/-- A call to a collaborator. -/
inductive Call where
  /-- Submit statements as one operation, to be applied in order. -/
  | submit (statements : List Text)
  /-- Wait until an operation has finished. -/
  | waitFor (operation : Operation)
  /-- Ask for the progress of an operation, which may still be running. -/
  | inspect (operation : Operation)
  /-- Run a query in a read-only transaction of its own. -/
  | query (sql : Text) (options : List QueryOption)
  /-- Let time pass: a number of milliseconds, or for ever. -/
  | pause (duration : Option Nat)
  deriving DecidableEq, Repr

/-- Why a query has no result. -/
inductive QueryFault where
  /-- The service reports an error. -/
  | refused (error : SessionError)
  /-- The client broke down with a message. -/
  | crashed (message : String)
  deriving DecidableEq, Repr

/-- The error that a query reports. A client that breaks down is an internal error. -/
def QueryFault.error : QueryFault → SessionError
  | .refused e => e
  | .crashed message =>
    .service ⟨.internal,
      "Asynchronous query failed: task <id> panicked with message " ++ Text.quoted message⟩

/-- What a call is answered with. -/
def Call.Answer : Call → Type
  | .submit _ => Except Failure Operation
  | .waitFor _ => Except Failure Unit
  | .inspect _ => Except Failure Progress
  | .query _ _ => Except QueryFault ResultSet
  | .pause _ => Unit

/-- How services in a state of type `σ` answer calls. -/
structure Remote (σ : Type) where
  /-- The instant from which a call made at `since` can be answered, as far as the present state
  tells; `none` while nothing is known. -/
  due : (c : Call) → (since : Nat) → σ → Option Nat
  /-- The answer to a call, and the state after it. -/
  answer : (c : Call) → (now : Nat) → σ → c.Answer × σ

/-- Whether a call made at `since` can be answered now. -/
def Remote.isReady {σ : Type} (remote : Remote σ) (c : Call) (since now : Nat) (s : σ) : Bool :=
  match remote.due c since s with
  | some instant => instant ≤ now
  | none => false

end SchemaBatch
