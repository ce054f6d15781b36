import SchemaBatch.Catalog.Change
import SchemaBatch.Status
import Std.Data.ExtTreeMap

/-!
# `Catalog` — the objects of a schema and their changes

A catalog maps a kind and a name in upper case to the object of that name, so names are compared
without regard to ASCII letter case. No object is held under a key that is not its own. Objects are listed by kind, then by name.

Contents: `ObjectKey` and its order; `SchemaObject` and `Catalog`; `Catalog.apply`, which makes one
change, with the ways in which it fails (`ChangeFault`); `Catalog.applyText`, which reads a
statement and applies it.
-/

namespace SchemaBatch

/-! ## Keys -/

/-- What an object is found by: its kind and its name in upper case. -/
structure ObjectKey where
  kind : ObjectKind
  name : Text
  deriving DecidableEq, Repr

namespace ObjectKey

/-- The key of an object. -/
def of (kind : ObjectKind) (name : Text) : ObjectKey := ⟨kind, Text.upper name⟩

/-- Catalog order: by kind, then by name. -/
def cmp : ObjectKey → ObjectKey → Ordering :=
  compareLex (compareOn fun key => key.kind.rank) (compareOn ObjectKey.name)

theorem rank_injective {a b : ObjectKind} (h : a.rank = b.rank) : a = b := by
  cases a <;> cases b <;> simp_all [ObjectKind.rank]

instance : Std.TransCmp cmp := inferInstanceAs (Std.TransCmp (compareLex _ _))

instance : Std.LawfulEqCmp cmp where
  eq_of_compare := by
    intro a b h
    simp only [cmp, compareLex_eq_eq, compareOn, Std.compare_eq_iff_eq] at h
    obtain ⟨hk, hn⟩ := h
    cases a; cases b
    simp only [ObjectKey.mk.injEq]
    exact ⟨rank_injective hk, hn⟩

end ObjectKey

/-! ## Objects -/

/-- An object of a schema. -/
structure SchemaObject where
  kind : ObjectKind
  /-- The name as it was written when the object was created. -/
  name : Text
  /-- The table that an index is on. -/
  parent : Option Text
  deriving DecidableEq, Repr

/-- The objects of a schema by their keys. -/
@[ext] structure Catalog where
  objects : Std.ExtTreeMap ObjectKey SchemaObject ObjectKey.cmp
  /-- Each object is held under its own key. -/
  keyed : ∀ (key : ObjectKey) (object : SchemaObject), objects[key]? = some object →
    ObjectKey.of object.kind object.name = key

namespace Catalog

/-- The catalog of an empty schema. -/
def empty : Catalog where
  objects := ∅
  keyed key object h := by simp at h

instance : Inhabited Catalog := ⟨empty⟩

/-- The object of a kind and a name in any letter case. -/
def find? (c : Catalog) (kind : ObjectKind) (name : Text) : Option SchemaObject :=
  c.objects[ObjectKey.of kind name]?

/-- Whether there is an object of a kind and a name in any letter case. -/
def contains (c : Catalog) (kind : ObjectKind) (name : Text) : Bool :=
  c.objects.contains (ObjectKey.of kind name)

/-- The catalog with an object added, or put in the place of another of its kind and name. -/
def insert (c : Catalog) (object : SchemaObject) : Catalog where
  objects := c.objects.insert (ObjectKey.of object.kind object.name) object
  keyed key object' h := by
    rw [Std.ExtTreeMap.getElem?_insert] at h
    split at h
    · rename_i hkey
      cases h
      exact Std.LawfulEqCmp.eq_of_compare hkey
    · exact c.keyed key object' h

/-- The catalog without the object of a kind and a name. -/
def erase (c : Catalog) (kind : ObjectKind) (name : Text) : Catalog where
  objects := c.objects.erase (ObjectKey.of kind name)
  keyed key object h := by
    rw [Std.ExtTreeMap.getElem?_erase] at h
    split at h
    · cases h
    · exact c.keyed key object h

/-- The objects in catalog order. -/
def toList (c : Catalog) : List SchemaObject := c.objects.toList.map Prod.snd

/-- Whether an object is an index on a table. -/
def isIndexOn (table : Text) (object : SchemaObject) : Bool :=
  object.kind == .index && object.parent.any fun parent => Text.sameLetters parent table

/-- The names of the indexes on a table, in catalog order. -/
def indexesOn (c : Catalog) (table : Text) : List Text :=
  (c.toList.filter (isIndexOn table)).map SchemaObject.name

/-! ## Changes -/

/-- Why a change is refused. -/
inductive ChangeFault where
  /-- The statement cannot be read. -/
  | unreadable
  /-- There is an object of the name already. -/
  | duplicate (name : Text)
  /-- The table that an index is to be on is missing. -/
  | missingTable (table : Text)
  /-- The object to be changed is missing. -/
  | missing (kind : ObjectKind) (name : Text)
  /-- The table to be dropped has indexes. -/
  | tableInUse (table : Text) (indexes : List Text)
  deriving DecidableEq, Repr

/-- The status that the service reports for a refused statement. -/
def ChangeFault.status (statement : Text) : ChangeFault → Status
  | .unreadable => ⟨.invalidArgument, "Error parsing DDL statement: " ++ Text.string statement⟩
  | .duplicate name =>
    ⟨.alreadyExists, "Duplicate name in schema: " ++ Text.string name ++ "."⟩
  | .missingTable table => ⟨.notFound, "Table not found: " ++ Text.string table⟩
  | .missing kind name => ⟨.notFound, kind.keyword ++ " not found: " ++ Text.string name⟩
  | .tableInUse table indexes =>
    ⟨.failedPrecondition, "Cannot drop table " ++ Text.string table ++ " with indices: " ++
      ", ".intercalate (indexes.map Text.string) ++ "."⟩

/-- Adds an object. An index needs a table to be on, which it keeps as its parent. -/
def add (c : Catalog) (kind : ObjectKind) (name : Text) (on : Option Text) :
    Except ChangeFault Catalog :=
  match kind, on with
  | .index, none => .error .unreadable
  | .index, some table =>
    if c.contains .table table then .ok (c.insert ⟨.index, name, some table⟩)
    else .error (.missingTable table)
  | kind, _ => .ok (c.insert ⟨kind, name, none⟩)

/-- Makes a change, or says why it is refused. -/
def apply (c : Catalog) : Change → Except ChangeFault Catalog
  | .create kind name orReplace ifNotExists on =>
    if c.contains kind name && ifNotExists then .ok c
    else if c.contains kind name && !orReplace then .error (.duplicate name)
    else c.add kind name on
  | .drop kind name ifExists =>
    if !c.contains kind name then
      if ifExists then .ok c else .error (.missing kind name)
    else if kind = .table ∧ c.indexesOn name ≠ [] then
      .error (.tableInUse name (c.indexesOn name))
    else .ok (c.erase kind name)
  | .alter kind name => if c.contains kind name then .ok c else .error (.missing kind name)
  | .other => .ok c

/-- Reads a statement and makes the change it asks for. -/
def applyText (c : Catalog) (statement : Text) : Except Status Catalog :=
  match Change.read? statement with
  | none => .error (ChangeFault.unreadable.status statement)
  | some change => (c.apply change).mapError (·.status statement)

end Catalog
end SchemaBatch
