import SchemaBatch.Data.Value

/-!
# `Data.Request` — what is asked of the data service

Contents: `QueryOption`, with the tag of the queries that the library makes on its own behalf; the
`Analysis` that may be asked for with a query; `Mutation`, a write of one row.
-/

namespace SchemaBatch

/-- An option that travels with a query. -/
inductive QueryOption where
  /-- The number of partial results to fetch ahead. -/
  | prefetch (chunks : Nat)
  /-- A tag for the statistics of the service. -/
  | requestTag (tag : Text)
  /-- Marks a query that inspects the metadata of the database. It is for the library's own use and
  is never sent. -/
  | metadataProbe
  deriving DecidableEq, Repr

/-- Whether the option is the mark of a metadata query. -/
def QueryOption.isProbe : QueryOption → Bool
  | .metadataProbe => true
  | _ => false

/-- The options that are sent: all but the mark of a metadata query. -/
def QueryOption.forwarded (options : List QueryOption) : List QueryOption :=
  options.filter (!·.isProbe)

/-- What is to be learned about a query instead of, or besides, its rows. -/
inductive Analysis where
  | none
  | plan
  | profile
  deriving DecidableEq, Repr

/-- How a mutation writes its row. -/
inductive Mutation.Kind where
  | insert
  | update
  | insertOrUpdate
  | replace
  | delete
  deriving DecidableEq, Repr

/-- A write of one row of a table. -/
structure Mutation where
  kind : Mutation.Kind
  table : Text
  columns : List Text
  values : List Value

namespace Mutation

/-- A write that sets no column yet. -/
def ofTable (kind : Kind) (table : Text) : Mutation := ⟨kind, table, [], []⟩

/-- The write with one more column. -/
def set (m : Mutation) (column : Text) (value : Value) : Mutation :=
  { m with columns := m.columns ++ [column], values := m.values ++ [value] }

end Mutation
end SchemaBatch
