import SchemaBatch.Remote

/-!
# `Database` — a data service that answers from registered results

Contents: `Database`; `Database.register`; `Database.run`, which records a query and answers it.
-/

namespace SchemaBatch

/-- A query as the service received it. -/
structure RecordedQuery where
  sql : Text
  options : List QueryOption
  deriving DecidableEq, Repr

/-- A data service that answers from registered results. -/
structure Database where
  /-- The registered results by the text of their queries, the latest first. -/
  results : List (Text × ResultSet)
  /-- The time a query takes; when absent it never ends. -/
  delay : Option Nat
  /-- The message with which the client breaks down on each query, if it does. -/
  crash : Option String
  /-- The queries received so far. -/
  queries : List RecordedQuery

namespace Database

/-- A service without results that answers at once. -/
def empty : Database := ⟨[], some 0, none, []⟩

/-- Answers a query with a result from now on. Blanks around the query do not matter. -/
def register (d : Database) (sql : Text) (result : ResultSet) : Database :=
  { d with results := (Text.trim sql, result) :: d.results }

/-- The result registered for a query. -/
def result? (d : Database) (sql : Text) : Option ResultSet :=
  (d.results.find? fun entry => entry.1 == Text.trim sql).map Prod.snd

/-- The answer to a query. -/
def respond (d : Database) (sql : Text) : Except QueryFault ResultSet :=
  match d.result? sql with
  | some result => .ok result
  | none =>
    .error (.refused (.service
      ⟨.notFound, "No result registered for query: " ++ Text.string sql⟩))

/-- Records a query and answers it. A client that breaks down records nothing. -/
def run (d : Database) (sql : Text) (options : List QueryOption) :
    Except QueryFault ResultSet × Database :=
  match d.crash with
  | some message => (.error (.crashed message), d)
  | none => (d.respond sql, { d with queries := d.queries ++ [⟨sql, options⟩] })

end Database
end SchemaBatch
