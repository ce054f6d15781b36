import SchemaBatch.Proofs.CatalogIntegrity

/-!
# `Proofs.SchemaSemantics` — what the statements of a schema mean

The meaning of a statement, apart from how it is written and from how a catalog keeps its objects: a schema
is a partial function from keys to objects, and a statement is refused with a code or leads to a schema.

* `Identifier` — a name that can be written bare. `Definition` — a statement of one of the four kinds.
* `Schema`, with `Schema.Has` and `Schema.InUse`; `Schema.Brings` — **what comes of a statement**, one rule
  for each way in which it can end. `Schema.exists_brings`: one of them applies to each statement.
* `Catalog.view` — the schema that a catalog holds; `Catalog.view_injective`, nothing else is in it.
* `Catalog.seen_apply_iff` — **a change comes to what its definition means.**
-/

namespace SchemaBatch

/-! ## Statements -/

/-- What a name that can be written bare consists of: no blanks, no parentheses and no quotes. -/
def isNameCharacter (c : Char) : Bool :=
  !isBlank c && c != '(' && c != ')' && !Catalog.isNameQuote c

/-- A name that can be written bare, and is none of the two words that a name is told from. -/
structure Identifier where
  text : Text
  ne_nil : text ≠ []
  clean : text.all isNameCharacter = true
  ne_if : Text.upper text ≠ "IF".toList
  ne_on : Text.upper text ≠ "ON".toList

theorem Identifier.not_mem (name : Identifier) {c : Char} (h : isNameCharacter c = false) :
    c ∉ name.text := by
  intro hc
  cases h.symm.trans (List.all_eq_true.mp name.clean c hc)

/-- What is to be created: an index on a table, or an object of another kind. -/
inductive Novelty where
  | object (kind : ObjectKind) (free : kind ≠ .index)
  | index (table : Identifier)

namespace Novelty

def kind : Novelty → ObjectKind
  | .object kind _ => kind
  | .index _ => .index

/-- The table that an index is on. -/
def table? : Novelty → Option Identifier
  | .object _ _ => none
  | .index table => some table

end Novelty

/-- A statement that defines a schema. -/
inductive Definition where
  | create (novelty : Novelty) (name : Identifier) (orReplace ifNotExists : Bool)
  | drop (kind : ObjectKind) (name : Identifier) (ifExists : Bool)
  | alter (kind : ObjectKind) (name : Identifier)

/-! ## Schemas -/

/-- The objects of a schema by their kinds and their names, which are compared in upper case. -/
abbrev Schema := ObjectKey → Option SchemaObject

namespace Schema

/-- There is an object of a kind and a name. -/
def Has (s : Schema) (kind : ObjectKind) (name : Identifier) : Prop :=
  ∃ object, s (ObjectKey.of kind name.text) = some object

/-- There is an index on a table. -/
def InUse (s : Schema) (table : Identifier) : Prop :=
  ∃ key object parent, s key = some object ∧ object.kind = .index ∧ object.parent = some parent ∧
    Text.sameLetters parent table.text = true

/-- The schema with an object added, or put in the place of another of its kind and name. -/
def put (s : Schema) (object : SchemaObject) : Schema := fun key =>
  if ObjectKey.of object.kind object.name = key then some object else s key

/-- The schema without the object of a kind and a name. -/
def without (s : Schema) (kind : ObjectKind) (name : Identifier) : Schema := fun key =>
  if ObjectKey.of kind name.text = key then none else s key

/-- A creation goes ahead if the name is free, or if its object is to be replaced. -/
def Open (s : Schema) (kind : ObjectKind) (name : Identifier) (orReplace ifNotExists : Bool) : Prop :=
  ¬ s.Has kind name ∨ orReplace = true ∧ ifNotExists = false

/-- **What comes of a statement**: a code that it is refused with, or a schema. -/
inductive Brings (s : Schema) : Definition → Except StatusCode Schema → Prop where
  /-- What is there is kept, also if it might be replaced. -/
  | kept {novelty : Novelty} {name : Identifier} {orReplace : Bool} :
      s.Has novelty.kind name → Brings s (.create novelty name orReplace true) (.ok s)
  | taken {novelty : Novelty} {name : Identifier} :
      s.Has novelty.kind name → Brings s (.create novelty name false false) (.error .alreadyExists)
  | tableless {table name : Identifier} {orReplace ifNotExists : Bool} :
      s.Open .index name orReplace ifNotExists → ¬ s.Has .table table →
      Brings s (.create (.index table) name orReplace ifNotExists) (.error .notFound)
  | made {novelty : Novelty} {name : Identifier} {orReplace ifNotExists : Bool} :
      s.Open novelty.kind name orReplace ifNotExists → (∀ table ∈ novelty.table?, s.Has .table table) →
      Brings s (.create novelty name orReplace ifNotExists)
        (.ok (s.put ⟨novelty.kind, name.text, novelty.table?.map Identifier.text⟩))
  | absent {kind : ObjectKind} {name : Identifier} :
      ¬ s.Has kind name → Brings s (.drop kind name true) (.ok s)
  | unknown {kind : ObjectKind} {name : Identifier} :
      ¬ s.Has kind name → Brings s (.drop kind name false) (.error .notFound)
  | used {name : Identifier} {ifExists : Bool} :
      s.Has .table name → s.InUse name → Brings s (.drop .table name ifExists) (.error .failedPrecondition)
  | removed {kind : ObjectKind} {name : Identifier} {ifExists : Bool} :
      s.Has kind name → (kind = .table → ¬ s.InUse name) →
      Brings s (.drop kind name ifExists) (.ok (s.without kind name))
  | unaltered {kind : ObjectKind} {name : Identifier} :
      s.Has kind name → Brings s (.alter kind name) (.ok s)
  | unalterable {kind : ObjectKind} {name : Identifier} :
      ¬ s.Has kind name → Brings s (.alter kind name) (.error .notFound)

/-- Something comes of every statement. -/
theorem exists_brings (s : Schema) (d : Definition) : ∃ result, s.Brings d result := by
  cases d with
  | create novelty name orReplace ifNotExists =>
    by_cases hopen : s.Open novelty.kind name orReplace ifNotExists
    · by_cases htables : ∀ table ∈ novelty.table?, s.Has .table table
      · exact ⟨_, .made hopen htables⟩
      · cases novelty with
        | object kind free => exact absurd nofun htables
        | index table =>
          have hnone : ¬ s.Has .table table := by
            intro htable
            exact htables fun t ht => Option.some.inj ht ▸ htable
          exact ⟨_, .tableless hopen hnone⟩
    · have hhas : s.Has novelty.kind name := Classical.not_not.mp fun hnot => hopen (.inl hnot)
      cases ifNotExists with
      | true => exact ⟨_, .kept hhas⟩
      | false =>
        cases orReplace with
        | true => exact absurd (.inr ⟨rfl, rfl⟩) hopen
        | false => exact ⟨_, .taken hhas⟩
  | drop kind name ifExists =>
    by_cases hhas : s.Has kind name
    · by_cases huse : kind = .table ∧ s.InUse name
      · obtain ⟨rfl, huse⟩ := huse
        exact ⟨_, .used hhas huse⟩
      · exact ⟨_, .removed hhas fun hkind hin => huse ⟨hkind, hin⟩⟩
    · cases ifExists with
      | true => exact ⟨_, .absent hhas⟩
      | false => exact ⟨_, .unknown hhas⟩
  | alter kind name =>
    by_cases hhas : s.Has kind name
    · exact ⟨_, .unaltered hhas⟩
    · exact ⟨_, .unalterable hhas⟩

end Schema

/-! ## Catalogs -/

namespace Catalog

/-- The schema that a catalog holds. -/
def view (c : Catalog) : Schema := fun key => c.objects[key]?

/-- Catalogs that hold the same schema are the same. -/
theorem view_injective {c c' : Catalog} (h : c.view = c'.view) : c = c' := by
  exact Catalog.ext (Std.ExtTreeMap.ext_getElem? fun key => congrFun h key)

variable {c : Catalog} {kind : ObjectKind} {name : Identifier}

theorem view_insert (c : Catalog) (object : SchemaObject) :
    (c.insert object).view = c.view.put object := by
  funext key
  exact getElem?_insert c object key

theorem view_erase (c : Catalog) (kind : ObjectKind) (name : Identifier) :
    (c.erase kind name.text).view = c.view.without kind name := by
  funext key
  exact getElem?_erase c kind name.text key

theorem contains_iff_has : c.contains kind name.text = true ↔ c.view.Has kind name := by
  rw [contains_eq_isSome, Option.isSome_iff_exists]
  rfl

theorem contains_eq_false_iff : c.contains kind name.text = false ↔ ¬ c.view.Has kind name := by
  rw [← contains_iff_has, Bool.not_eq_true]

theorem isIndexOn_iff {table : Text} {object : SchemaObject} : isIndexOn table object = true ↔
    object.kind = .index ∧ ∃ parent, object.parent = some parent ∧ Text.sameLetters parent table = true := by
  rw [isIndexOn, Bool.and_eq_true, beq_iff_eq, Option.any_eq_true]

theorem indexesOn_eq_nil_iff_not_inUse {table : Identifier} :
    c.indexesOn table.text = [] ↔ ¬ c.view.InUse table := by
  rw [indexesOn_eq_nil_iff]
  constructor
  · rintro hnone ⟨key, object, parent, hobject, hkind, hparent, hletters⟩
    have hindex := isIndexOn_iff.mpr ⟨hkind, parent, hparent, hletters⟩
    cases hindex.symm.trans (hnone key object hobject)
  · intro hnot key object hobject
    refine Bool.eq_false_iff.mpr fun hindex => hnot ?_
    obtain ⟨hkind, parent, hparent, hletters⟩ := isIndexOn_iff.mp hindex
    exact ⟨key, object, parent, hobject, hkind, hparent, hletters⟩

/-! ### Changes -/

/-- The code of a fault. -/
def ChangeFault.code : ChangeFault → StatusCode
  | .unreadable => .invalidArgument
  | .duplicate _ => .alreadyExists
  | .missingTable _ => .notFound
  | .missing _ _ => .notFound
  | .tableInUse _ _ => .failedPrecondition

theorem ChangeFault.code_status (statement : Text) (fault : ChangeFault) :
    (fault.status statement).code = fault.code := by
  cases fault <;> rfl

/-- The change that a definition is. What is read behind a name matters for an index alone. -/
inductive Change.Renders : Definition → Change → Prop where
  | create {novelty : Novelty} {name : Identifier} {orReplace ifNotExists : Bool} {on : Option Text} :
      (∀ table ∈ novelty.table?, on = some table.text) →
      Renders (.create novelty name orReplace ifNotExists)
        (.create novelty.kind name.text orReplace ifNotExists on)
  | drop {kind : ObjectKind} {name : Identifier} {ifExists : Bool} :
      Renders (.drop kind name ifExists) (.drop kind name.text ifExists)
  | alter {kind : ObjectKind} {name : Identifier} : Renders (.alter kind name) (.alter kind name.text)

/-- What is seen of an outcome: the code that a change is refused with, or the schema that it leads to. -/
def seen (outcome : Except ChangeFault Catalog) : Except StatusCode Schema :=
  (outcome.mapError ChangeFault.code).map view

@[simp] theorem seen_ok (c : Catalog) : seen (.ok c) = .ok c.view := rfl

@[simp] theorem seen_error (fault : ChangeFault) : seen (.error fault) = .error fault.code := rfl

theorem seen_add_of_table {novelty : Novelty} {on : Option Text}
    (hon : ∀ table ∈ novelty.table?, on = some table.text)
    (htables : ∀ table ∈ novelty.table?, c.view.Has .table table) :
    seen (c.add novelty.kind name.text on)
      = .ok (c.view.put ⟨novelty.kind, name.text, novelty.table?.map Identifier.text⟩) := by
  cases novelty with
  | object kind free =>
    have hadd : c.add kind name.text on = .ok (c.insert ⟨kind, name.text, none⟩) := by
      cases kind with
      | index => exact absurd rfl free
      | table | view | role => rfl
    show seen (c.add kind name.text on) = _
    rw [hadd]
    exact congrArg Except.ok (view_insert c _)
  | index table =>
    obtain rfl := hon table rfl
    have htable := contains_iff_has.mpr (htables table rfl)
    show seen (if c.contains .table table.text then _ else _) = _
    rw [if_pos htable]
    exact congrArg Except.ok (view_insert c _)

/-- Past the checks of a name, the object is added. -/
theorem apply_create_of_open {novelty : Novelty} {orReplace ifNotExists : Bool} {on : Option Text}
    (h : c.view.Open novelty.kind name orReplace ifNotExists) :
    c.apply (.create novelty.kind name.text orReplace ifNotExists on)
      = c.add novelty.kind name.text on := by
  rcases h with hfree | ⟨rfl, rfl⟩
  · simp [apply, contains_eq_false_iff.mpr hfree]
  · simp [apply]

/-- **What comes of a definition is what its change comes to**, creation by creation, -/
theorem seen_apply_create {novelty : Novelty} {orReplace ifNotExists : Bool} {on : Option Text}
    (hon : ∀ table ∈ novelty.table?, on = some table.text) {result : Except StatusCode Schema}
    (h : c.view.Brings (.create novelty name orReplace ifNotExists) result) :
    seen (c.apply (.create novelty.kind name.text orReplace ifNotExists on)) = result := by
  cases h with
  | kept hhas => simp [apply, contains_iff_has.mpr hhas]
  | taken hhas =>
    simp [apply, contains_iff_has.mpr hhas, ChangeFault.code]
  | @tableless table name orReplace ifNotExists hopen hnone =>
    obtain rfl := hon table rfl
    have hadd : c.add .index name.text (some table.text) = .error (.missingTable table.text) := by
      simp [add, contains_eq_false_iff.mpr hnone]
    have hchecked : c.apply (.create (Novelty.index table).kind name.text orReplace ifNotExists
        (some table.text)) = c.add .index name.text (some table.text) := apply_create_of_open hopen
    rw [hchecked, hadd]
    rfl
  | made hopen htables =>
    rw [apply_create_of_open hopen]
    exact seen_add_of_table hon htables

/-- removal by removal, -/
theorem seen_apply_drop {ifExists : Bool} {result : Except StatusCode Schema}
    (h : c.view.Brings (.drop kind name ifExists) result) :
    seen (c.apply (.drop kind name.text ifExists)) = result := by
  cases h with
  | absent hnone =>
    simp [apply, contains_eq_false_iff.mpr hnone]
  | unknown hnone =>
    simp [apply, contains_eq_false_iff.mpr hnone, ChangeFault.code]
  | used hhas huse =>
    have hindexes : c.indexesOn name.text ≠ [] := fun hnil =>
      indexesOn_eq_nil_iff_not_inUse.mp hnil huse
    simp [apply, contains_iff_has.mpr hhas, hindexes, ChangeFault.code]
  | removed hhas hfree =>
    have hindexes : ¬ (kind = .table ∧ c.indexesOn name.text ≠ []) := by
      rintro ⟨hkind, hne⟩
      exact hne (indexesOn_eq_nil_iff_not_inUse.mpr (hfree hkind))
    have hremoved : c.apply (.drop kind name.text ifExists) = .ok (c.erase kind name.text) := by
      simp only [apply, contains_iff_has.mpr hhas, Bool.not_true, Bool.false_eq_true, if_false]
      rw [if_neg hindexes]
    rw [hremoved]
    exact congrArg Except.ok (view_erase c kind name)

/-- and alteration by alteration. -/
theorem seen_apply_alter {result : Except StatusCode Schema} (h : c.view.Brings (.alter kind name) result) :
    seen (c.apply (.alter kind name.text)) = result := by
  cases h with
  | unaltered hhas => simp [apply, contains_iff_has.mpr hhas]
  | unalterable hnone =>
    simp [apply, contains_eq_false_iff.mpr hnone, ChangeFault.code]

/-- **A change comes to what its definition means.** -/
theorem seen_apply_iff {d : Definition} {change : Change} (h : Change.Renders d change)
    {result : Except StatusCode Schema} :
    c.view.Brings d result ↔ seen (c.apply change) = result := by
  have hsound : ∀ {result}, c.view.Brings d result → seen (c.apply change) = result := by
    intro result hbrings
    cases h with
    | create hon => exact seen_apply_create hon hbrings
    | drop => exact seen_apply_drop hbrings
    | alter => exact seen_apply_alter hbrings
  -- whatever comes of the definition is seen, and something does come of it
  refine ⟨hsound, ?_⟩
  rintro rfl
  obtain ⟨result, hbrings⟩ := c.view.exists_brings d
  rwa [hsound hbrings]

end Catalog
end SchemaBatch
