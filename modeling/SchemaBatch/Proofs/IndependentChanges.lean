import SchemaBatch.Proofs.ChangeWrites
import SchemaBatch.Proofs.SingleObject

/-!
# `Proofs.IndependentChanges` — changes that have nothing to do with each other

What a change writes depends on whether the objects that it names are there, and for a table that is to be
removed on the indexes on it. So changes that name different objects do not notice each other, unless one
removes a table and the other makes or removes an index.

* `Change.named` — the objects that a change names; `Catalog.verdict_congr`, **the verdict on it depends on no
  more than what it looks at.**
* `Catalog.indexesOn_on` — what is written elsewhere than under the key of an index changes the indexes on no
  table.
* `Catalog.Independent` — two statements that have nothing to do with each other; `Catalog.edit_comm`,
  **either order leads to the same catalog, with the same answers.**
-/

namespace SchemaBatch.Catalog

/-! ## What a change looks at -/

/-- The objects that a change names: what it is about, and the table of an index that is to be created. -/
def Change.named : Change → List ObjectKey
  | .create .index name _ _ on => ObjectKey.of .index name :: (on.map (ObjectKey.of .table)).toList
  | .create kind name _ _ _ => [ObjectKey.of kind name]
  | .drop kind name _ => [ObjectKey.of kind name]
  | .alter kind name => [ObjectKey.of kind name]
  | .other => []

theorem Change.mem_named_create (kind : ObjectKind) (name : Text) (orReplace ifNotExists : Bool)
    (on : Option Text) : ObjectKey.of kind name ∈ (create kind name orReplace ifNotExists on).named := by
  cases kind <;> exact List.mem_cons_self

variable {c c' : Catalog} {change : Change}

theorem parentFor_congr {kind : ObjectKind} {on : Option Text}
    (h : kind = .index → ∀ table ∈ on, c.contains .table table = c'.contains .table table) :
    c.parentFor kind on = c'.parentFor kind on := by
  unfold parentFor
  cases kind with
  | table | view | role => rfl
  | index =>
    cases on with
    | none => rfl
    | some table => simp only [h rfl table rfl]

/-- **The verdict depends on no more than what is looked at**: whether the named objects are there, and the
indexes on a table that is to be removed. -/
theorem verdict_congr
    (hhas : ∀ kind name, ObjectKey.of kind name ∈ change.named → c.contains kind name = c'.contains kind name)
    (huse : ∀ name ifExists, change = .drop .table name ifExists → c.indexesOn name = c'.indexesOn name) :
    c.verdict change = c'.verdict change := by
  cases change with
  | create kind name orReplace ifNotExists on =>
    have hself := Change.mem_named_create kind name orReplace ifNotExists on
    have hparent : c.parentFor kind on = c'.parentFor kind on := by
      refine parentFor_congr ?_
      rintro rfl table htable
      refine hhas .table table (List.mem_cons_of_mem _ ?_)
      rw [Option.mem_toList, htable]
      rfl
    simp only [verdict, hhas kind name hself, hparent]
  | drop kind name ifExists =>
    simp only [verdict, hhas kind name List.mem_cons_self]
    split
    · rfl
    · by_cases hkind : kind = .table
      · subst hkind
        rw [huse name ifExists rfl]
      · simp only [hkind, false_and, if_false]
  | alter kind name => simp only [verdict, hhas kind name List.mem_cons_self]
  | other => rfl

/-! ## The indexes on a table -/

/-- The indexes on a table are those that are left if all else is taken away. -/
theorem indexesOn_eq (c : Catalog) (table : Text) : c.indexesOn table =
    ((c.objects.filter fun _ object => isIndexOn table object).toList.map Prod.snd).map SchemaObject.name := by
  rw [Std.ExtTreeMap.toList_filter, indexesOn, toList, List.filter_map]
  rfl

theorem filter_isIndexOn {table : Text} {found : Option SchemaObject}
    (h : ∀ object, found = some object → object.kind ≠ .index) : found.filter (isIndexOn table) = none := by
  rw [Option.filter_eq_none_iff]
  intro object hobject hindex
  exact h object hobject (isIndexOn_iff.mp hindex).1

/-- What is written elsewhere than under the key of an index changes the indexes on no table. -/
theorem indexesOn_on {w : Write} (hw : ∀ key, w.key? = some key → key.kind ≠ .index)
    (table : Text) : (w.on c).indexesOn table = c.indexesOn table := by
  have hsame : (w.on c).objects.filter (fun _ object => isIndexOn table object)
      = c.objects.filter (fun _ object => isIndexOn table object) := by
    refine Std.ExtTreeMap.ext_getElem? fun key => ?_
    rw [Std.ExtTreeMap.getElem?_filter', Std.ExtTreeMap.getElem?_filter', Write.getElem?_on]
    split
    · -- neither what was there nor what is there now is an index
      rename_i hkey
      rw [filter_isIndexOn, filter_isIndexOn]
      · intro object hobject
        rw [c.kind_eq hobject]
        exact hw key hkey
      · intro object hobject
        cases w with
        | nothing | remove => cases hobject
        | put =>
          cases hobject
          exact hw _ rfl
    · rfl
  rw [indexesOn_eq, indexesOn_eq, hsame]

/-! ## Statements -/

/-- A statement names an object, as it is read. -/
def Concerns (statement : Text) (key : ObjectKey) : Prop :=
  ∃ change, Change.read? statement = some change ∧ key ∈ change.named

/-- A statement removes a table. -/
def DropsTable (statement : Text) : Prop :=
  ∃ name ifExists, Change.read? statement = some (.drop .table name ifExists)

/-- A statement makes or removes an index. -/
def HandlesIndex (statement : Text) : Prop :=
  (∃ name orReplace ifNotExists on,
    Change.read? statement = some (.create .index name orReplace ifNotExists on)) ∨
  ∃ name ifExists, Change.read? statement = some (.drop .index name ifExists)

/-- **Two statements have nothing to do with each other.** -/
structure Independent (s t : Text) : Prop where
  /-- They name different objects, -/
  apart : ∀ key, Concerns s key → ¬ Concerns t key
  /-- and neither removes a table if the other makes or removes an index. -/
  tableFirst : DropsTable s → ¬ HandlesIndex t
  tableSecond : DropsTable t → ¬ HandlesIndex s

theorem Independent.symm {s t : Text} (h : Independent s t) : Independent t s :=
  ⟨fun key ht hs => h.apart key hs ht, h.tableSecond, h.tableFirst⟩

/-- What a statement writes, which is nothing if it is refused. -/
def written (c : Catalog) (statement : Text) : Write :=
  match c.verdictText statement with
  | .ok w => w
  | .error _ => .nothing

/-- In place, a statement writes what its verdict says. -/
theorem edit_eq_written (statement : Text) (c : Catalog) : edit statement c =
    ((c.verdictText statement).map fun _ => (), (c.written statement).on c) := by
  rw [edit_eq, applyText_eq, written]
  cases c.verdictText statement <;> rfl

variable {s t : Text} {key : ObjectKey}

/-- A statement that writes creates or removes an object, and writes at the key of this object. -/
theorem cases_of_written (h : (c.written s).key? = some key) :
    (∃ kind name orReplace ifNotExists on,
      Change.read? s = some (.create kind name orReplace ifNotExists on) ∧ ObjectKey.of kind name = key) ∨
    ∃ kind name ifExists, Change.read? s = some (.drop kind name ifExists) ∧ ObjectKey.of kind name = key := by
  unfold written at h
  cases hverdict : c.verdictText s with
  | error status => rw [hverdict] at h; cases h
  | ok w =>
    rw [hverdict] at h
    obtain ⟨change, hread, hchange⟩ := verdictText_eq_ok_iff.mp hverdict
    obtain rfl | ⟨kind, name, orReplace, ifNotExists, on, parent, rfl, rfl⟩ | ⟨kind, name, ifExists, rfl, rfl⟩ :=
      cases_of_verdict hchange
    · cases h
    · exact .inl ⟨kind, name, orReplace, ifNotExists, on, hread, Option.some.inj h⟩
    · exact .inr ⟨kind, name, ifExists, hread, Option.some.inj h⟩

/-- A statement writes at a key that it names. -/
theorem concerns_of_written (h : (c.written s).key? = some key) : Concerns s key := by
  obtain ⟨kind, name, orReplace, ifNotExists, on, hread, rfl⟩ | ⟨kind, name, ifExists, hread, rfl⟩ :=
    cases_of_written h
  · exact ⟨_, hread, Change.mem_named_create kind name orReplace ifNotExists on⟩
  · exact ⟨_, hread, List.mem_cons_self⟩

/-- What writes under the key of an index makes or removes one. -/
theorem handlesIndex_of_written (h : (c.written s).key? = some key) (hkind : key.kind = .index) :
    HandlesIndex s := by
  obtain ⟨kind, name, orReplace, ifNotExists, on, hread, rfl⟩ | ⟨kind, name, ifExists, hread, rfl⟩ :=
    cases_of_written h
  · obtain rfl : kind = .index := hkind
    exact .inl ⟨name, orReplace, ifNotExists, on, hread⟩
  · obtain rfl : kind = .index := hkind
    exact .inr ⟨name, ifExists, hread⟩

/-- **The verdict on a statement is not changed by what an independent one writes.** -/
theorem verdictText_written (h : Independent s t) :
    ((c.written s).on c).verdictText t = c.verdictText t := by
  unfold verdictText
  cases hread : Change.read? t with
  | none => rfl
  | some change =>
    dsimp only
    refine congrArg (Except.mapError (·.status t)) (verdict_congr ?_ ?_)
    · intro kind name hnamed
      have hne : (c.written s).key? ≠ some (ObjectKey.of kind name) := fun hkey =>
        h.apart _ (concerns_of_written hkey) ⟨change, hread, hnamed⟩
      rw [contains_eq_isSome, contains_eq_isSome, find?, find?, Write.getElem?_on, if_neg hne]
    · rintro name ifExists rfl
      refine indexesOn_on (fun key hkey hkind => ?_) name
      exact h.tableSecond ⟨name, ifExists, hread⟩ (handlesIndex_of_written hkey hkind)

/-- **Independent statements may be applied in either order**: each is answered as if it were alone, and both
orders lead to the same catalog, also if one of them or both are refused. -/
theorem edit_comm (h : Independent s t) :
    ∃ both, edit t (edit s c).2 = ((edit t c).1, both) ∧ edit s (edit t c).2 = ((edit s c).1, both) := by
  have hst := verdictText_written (c := c) h
  have hts := verdictText_written (c := c) h.symm
  have hwritten : ∀ {d : Catalog} {u : Text}, d.verdictText u = c.verdictText u →
      d.written u = c.written u := fun hsame => by rw [written, hsame, written]
  have hcomm : (c.written t).on ((c.written s).on c) = (c.written s).on ((c.written t).on c) :=
    Write.on_comm c fun key hs ht => h.apart key (concerns_of_written hs) (concerns_of_written ht)
  refine ⟨(c.written t).on ((c.written s).on c), ?_, ?_⟩
  · simp only [edit_eq_written, hst, hwritten hst]
  · simp only [edit_eq_written, hts, hwritten hts, hcomm]

/-- A table that is in use is kept, and a view of its name is made, whichever comes first. -/
theorem edit_comm_inUse :
    let c := empty.attemptAll (["create table T", "create index I on t(Id)"].map String.toList)
    let s : Text := "DROP TABLE t".toList
    let t : Text := "create or replace view T as select 1".toList
    Independent s t ∧
      (∃ both, edit t (edit s c).2 = ((edit t c).1, both) ∧ edit s (edit t c).2 = ((edit s c).1, both)) ∧
      (edit s c).1.mapError Status.code = .error .failedPrecondition ∧ (edit t c).1 = .ok () := by
  intro c s t
  have hs : Change.read? s = some (.drop .table ['t'] false) := by decide
  have ht : Change.read? t = some (.create .view ['T'] true false none) := by decide
  have hindependent : Independent s t := by
    refine ⟨?_, ?_, ?_⟩
    · rintro key ⟨change, hread, hkey⟩ ⟨change', hread', hkey'⟩
      cases hs.symm.trans hread
      cases ht.symm.trans hread'
      cases (List.mem_singleton.mp hkey).symm.trans (List.mem_singleton.mp hkey')
    · rintro - (⟨_, _, _, _, hread⟩ | ⟨_, _, hread⟩) <;> cases ht.symm.trans hread
    · rintro ⟨_, _, hread⟩
      cases ht.symm.trans hread
  exact ⟨hindependent, edit_comm hindependent, rfl, rfl⟩

end SchemaBatch.Catalog
