import SchemaBatch.Status

/-!
# `Failure` — an error and the causes behind it

A collaborator reports a failure as an error that may name its cause, which may name its own, and so
on. The causes form a graph that can run back into itself, so the walk along it remembers where it
has been.

Contents: `Cause` and `Failure`; `Failure.trail`, the causes met on the walk; `Failure.status?`, the
first status among them, `Failure.code` and `Failure.message`.
-/

namespace SchemaBatch

/-- What one error in a chain says. -/
inductive Account where
  /-- A status that a service reported. -/
  | status (status : Status)
  /-- An error of another type, by its message. -/
  | other (message : String)
  deriving DecidableEq, Repr

/-- The account on one line. -/
def Account.text : Account → String
  | .status s => s.text
  | .other message => message

/-- The status that the account carries. -/
def Account.status? : Account → Option Status
  | .status s => some s
  | .other _ => none

/-- One error of a chain and the position of its cause. -/
structure Cause where
  account : Account
  source : Option Nat
  deriving DecidableEq, Repr

/-- A failure: the errors that can be reached from it, the outermost at position zero. -/
structure Failure where
  causes : List Cause
  deriving DecidableEq, Repr

namespace Failure

/-- A failure that is a status and nothing else. -/
def ofStatus (status : Status) : Failure := ⟨[⟨.status status, none⟩]⟩

/-- The failure whose accounts follow each other, outermost first. -/
def ofAccounts (accounts : List Account) : Failure :=
  ⟨accounts.mapIdx fun i account =>
    ⟨account, if i + 1 < accounts.length then some (i + 1) else none⟩⟩

/-- The accounts met from a position on, up to the first position that was visited before or holds
no error. Each step visits a new position, so the number of errors is fuel enough. -/
def trailFrom (causes : List Cause) :
    (fuel : Nat) → (visited : List Nat) → (position : Option Nat) → List Account
  | 0, _, _ => []
  | _ + 1, _, none => []
  | fuel + 1, visited, some i =>
    if i ∈ visited then []
    else match causes[i]? with
      | none => []
      | some cause => cause.account :: trailFrom causes fuel (i :: visited) cause.source

/-- The accounts of the failure and its causes, each once and in order. -/
def trail (f : Failure) : List Account := trailFrom f.causes f.causes.length [] (some 0)

/-- The first status in the chain. -/
def status? (f : Failure) : Option Status := f.trail.findSome? Account.status?

/-- The code of the first status in the chain, unknown when there is none. -/
def code (f : Failure) : StatusCode := (f.status?.map Status.code).getD .unknown

/-- All messages of the chain on one line. -/
def message (f : Failure) : String := ": ".intercalate (f.trail.map Account.text)

end Failure
end SchemaBatch
