import SchemaBatch.Remote

/-!
# `Activity` — programs that call services and can be interrupted

An activity is a tree of calls: each is answered before the next is made. While it waits for an
answer it may listen for an interruption and react to it instead.

Contents: `Activity`, `Activity.map`; `Engaged`, an activity with the instant of its outstanding
call, and `Engaged.advance`, which runs it as far as the answers allow.
-/

namespace SchemaBatch

/-- A program that ends with a result of type `α`. -/
inductive Activity (α : Type) : Type where
  /-- The end. -/
  | done (result : α)
  /-- A call whose answer is waited for, whatever happens. -/
  | call (c : Call) (next : c.Answer → Activity α)
  /-- A call whose answer is waited for until an interruption is signalled. When both are there, the
  answer counts. -/
  | listen (c : Call) (next : c.Answer → Activity α) (react : Activity α)
  /-- Looks whether an interruption is signalled. -/
  | sense (next : Bool → Activity α)

namespace Activity

/-- The activity with its result mapped. -/
def map {α β : Type} (f : α → β) : Activity α → Activity β
  | done result => done (f result)
  | call c next => call c fun answer => (next answer).map f
  | listen c next react => listen c (fun answer => (next answer).map f) (react.map f)
  | sense next => sense fun signalled => (next signalled).map f

end Activity

/-- An activity under way: what is left of it, and when its outstanding call was made. -/
structure Engaged (α : Type) where
  activity : Activity α
  since : Nat

namespace Engaged

/-- An activity that begins now. -/
def start {α : Type} (activity : Activity α) (now : Nat) : Engaged α := ⟨activity, now⟩

/-- The result, if the activity has ended. -/
def result? {α : Type} (e : Engaged α) : Option α :=
  match e.activity with
  | .done result => some result
  | _ => none

/-- The instant at which the outstanding call can be answered, as far as is known. -/
def due {σ α : Type} (remote : Remote σ) (e : Engaged α) (s : σ) : Option Nat :=
  match e.activity with
  | .call c _ | .listen c _ _ => remote.due c e.since s
  | _ => none

/-- Runs an activity whose outstanding call was made at `since`, up to a call that cannot be
answered yet. The next call is made at the instant at which the one before it was answered. -/
def advanceFrom {σ α : Type} (remote : Remote σ) (signalled : Bool) (now : Nat) :
    Activity α → (since : Nat) → σ → Engaged α × σ
  | .done result, since, s => (⟨.done result, since⟩, s)
  | .call c next, since, s =>
    if remote.isReady c since now s then
      advanceFrom remote signalled now (next (remote.answer c now s).1) now
        (remote.answer c now s).2
    else (⟨.call c next, since⟩, s)
  | .listen c next react, since, s =>
    if remote.isReady c since now s then
      advanceFrom remote signalled now (next (remote.answer c now s).1) now
        (remote.answer c now s).2
    else if signalled then advanceFrom remote signalled now react now s
    else (⟨.listen c next react, since⟩, s)
  | .sense next, _, s => advanceFrom remote signalled now (next signalled) now s

/-- Runs an activity as far as the answers allow. -/
def advance {σ α : Type} (remote : Remote σ) (signalled : Bool) (now : Nat) (e : Engaged α)
    (s : σ) : Engaged α × σ :=
  advanceFrom remote signalled now e.activity e.since s

end Engaged
end SchemaBatch
