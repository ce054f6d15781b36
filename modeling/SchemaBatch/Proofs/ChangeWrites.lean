import SchemaBatch.Proofs.SchemaSemantics

/-!
# `Proofs.ChangeWrites` — what a change writes

A change looks things up in the catalog, and then writes at one key or nowhere. What it writes is settled
before it is written.

* `Catalog.Write` — what is written; `Write.getElem?_on`, what is found afterwards. `Write.on_comm`, writes
  at different keys may be made in any order.
* `Catalog.parentFor` — the parent of what is created. `Catalog.verdict` — what a change is to write, or why
  it is refused; `Catalog.apply_eq`, **applying a change is to write what its verdict says.**
* `Catalog.verdictText` — the same of a statement; `Catalog.applyText_eq`, `Catalog.applyText_eq_ok_iff`.
* `Catalog.cases_of_verdict` — all that a change can write.
-/

namespace SchemaBatch.Catalog

/-! ## What is written -/

/-- What a change writes: an object, the lack of one, or nothing. -/
inductive Write where
  | nothing
  | put (object : SchemaObject)
  | remove (kind : ObjectKind) (name : Text)

namespace Write

/-- The catalog after the writing. -/
def on (c : Catalog) : Write → Catalog
  | nothing => c
  | put object => c.insert object
  | remove kind name => c.erase kind name

/-- The key that is written at. -/
def key? : Write → Option ObjectKey
  | nothing => none
  | put object => some (ObjectKey.of object.kind object.name)
  | remove kind name => some (ObjectKey.of kind name)

/-- What is found afterwards where it was written. -/
def entry : Write → Option SchemaObject
  | put object => some object
  | nothing | remove _ _ => none

theorem getElem?_on (c : Catalog) (w : Write) (key : ObjectKey) :
    (w.on c).objects[key]? = if w.key? = some key then w.entry else c.objects[key]? := by
  cases w with
  | nothing => rfl
  | put object =>
    simp only [key?, Option.some_inj]
    exact getElem?_insert c object key
  | remove kind name =>
    simp only [key?, Option.some_inj]
    exact getElem?_erase c kind name key

/-- **Writes at different keys may be made in either order.** -/
theorem on_comm (c : Catalog) {w w' : Write} (h : ∀ key, w.key? = some key → w'.key? ≠ some key) :
    w'.on (w.on c) = w.on (w'.on c) := by
  refine view_injective (funext fun key => ?_)
  simp only [view, getElem?_on]
  by_cases hw : w.key? = some key
  · simp only [if_pos hw, if_neg (h key hw)]
  · simp only [if_neg hw]

end Write

/-! ## The verdict on a change -/

/-- The table that an object of a kind gets for its parent. -/
def parentFor (c : Catalog) (kind : ObjectKind) (on : Option Text) : Except ChangeFault (Option Text) :=
  match kind, on with
  | .index, none => .error .unreadable
  | .index, some table =>
    if c.contains .table table then .ok (some table) else .error (.missingTable table)
  | _, _ => .ok none

/-- What a change is to write, or why it is refused. -/
def verdict (c : Catalog) : Change → Except ChangeFault Write
  | .create kind name orReplace ifNotExists on =>
    if c.contains kind name && ifNotExists then .ok .nothing
    else if c.contains kind name && !orReplace then .error (.duplicate name)
    else (c.parentFor kind on).map fun parent => .put ⟨kind, name, parent⟩
  | .drop kind name ifExists =>
    if !c.contains kind name then
      if ifExists then .ok .nothing else .error (.missing kind name)
    else if kind = .table ∧ c.indexesOn name ≠ [] then
      .error (.tableInUse name (c.indexesOn name))
    else .ok (.remove kind name)
  | .alter kind name => if c.contains kind name then .ok .nothing else .error (.missing kind name)
  | .other => .ok .nothing

theorem add_eq (c : Catalog) (kind : ObjectKind) (name : Text) (on : Option Text) :
    c.add kind name on = (c.parentFor kind on).map fun parent => c.insert ⟨kind, name, parent⟩ := by
  unfold add parentFor
  cases kind with
  | table | view | role => rfl
  | index =>
    cases on with
    | none => rfl
    | some table =>
      dsimp only
      split <;> rfl

/-- **Applying a change is to write what its verdict says.** -/
theorem apply_eq (c : Catalog) (change : Change) :
    c.apply change = (c.verdict change).map fun w => w.on c := by
  cases change with
  | create kind name orReplace ifNotExists on =>
    simp only [apply, verdict]
    split
    · rfl
    · split
      · rfl
      · rw [add_eq]
        cases c.parentFor kind on <;> rfl
  | drop kind name ifExists =>
    simp only [apply, verdict]
    split
    · split <;> rfl
    · split <;> rfl
  | alter kind name =>
    simp only [apply, verdict]
    split <;> rfl
  | other => rfl

/-- What a statement is to write, or the status that it is refused with. -/
def verdictText (c : Catalog) (statement : Text) : Except Status Write :=
  match Change.read? statement with
  | none => .error (ChangeFault.unreadable.status statement)
  | some change => (c.verdict change).mapError (·.status statement)

/-- **Applying a statement is to write what its verdict says.** -/
theorem applyText_eq (c : Catalog) (statement : Text) :
    c.applyText statement = (c.verdictText statement).map fun w => w.on c := by
  rw [applyText, verdictText]
  cases Change.read? statement with
  | none => rfl
  | some change =>
    dsimp only
    rw [apply_eq]
    cases c.verdict change <;> rfl

theorem verdictText_eq_ok_iff {c : Catalog} {statement : Text} {w : Write} :
    c.verdictText statement = .ok w ↔
      ∃ change, Change.read? statement = some change ∧ c.verdict change = .ok w := by
  rw [verdictText]
  cases Change.read? statement with
  | none => exact ⟨nofun, nofun⟩
  | some change =>
    simp only [Option.some_inj, exists_eq_left']
    cases c.verdict change with
    | error fault => exact ⟨nofun, nofun⟩
    | ok =>
      constructor
      · rintro ⟨⟩
        rfl
      · rintro ⟨⟩
        rfl

/-- A statement that is applied asks for a change whose verdict says what is written. -/
theorem applyText_eq_ok_iff {c after : Catalog} {statement : Text} : c.applyText statement = .ok after ↔
    ∃ change w, Change.read? statement = some change ∧ c.verdict change = .ok w ∧ w.on c = after := by
  rw [applyText_eq]
  constructor
  · intro h
    cases hverdict : c.verdictText statement with
    | error status => rw [hverdict] at h; cases h
    | ok w =>
      rw [hverdict] at h
      obtain ⟨change, hread, hchange⟩ := verdictText_eq_ok_iff.mp hverdict
      exact ⟨change, w, hread, hchange, Except.ok.inj h⟩
  · rintro ⟨change, w, hread, hchange, rfl⟩
    rw [verdictText_eq_ok_iff.mpr ⟨change, hread, hchange⟩]
    rfl

variable {c : Catalog} {change : Change}

/-- A change that is made writes nothing, or what is to be created, or removes what is to be removed. -/
theorem cases_of_verdict {w : Write} (h : c.verdict change = .ok w) :
    w = .nothing ∨
    (∃ kind name orReplace ifNotExists on parent,
      change = .create kind name orReplace ifNotExists on ∧ w = .put ⟨kind, name, parent⟩) ∨
    ∃ kind name ifExists, change = .drop kind name ifExists ∧ w = .remove kind name := by
  cases change with
  | create kind name orReplace ifNotExists on =>
    simp only [verdict] at h
    split at h
    · cases h
      exact .inl rfl
    · split at h
      · cases h
      · cases hparent : c.parentFor kind on with
        | error fault => rw [hparent] at h; cases h
        | ok parent =>
          rw [hparent] at h
          cases h
          exact .inr (.inl ⟨kind, name, orReplace, ifNotExists, on, parent, rfl, rfl⟩)
  | drop kind name ifExists =>
    simp only [verdict] at h
    split at h
    · split at h
      · cases h
        exact .inl rfl
      · cases h
    · split at h
      · cases h
      · cases h
        exact .inr (.inr ⟨kind, name, ifExists, rfl, rfl⟩)
  | alter kind name =>
    simp only [verdict] at h
    split at h
    · cases h
      exact .inl rfl
    · cases h
  | other =>
    cases h
    exact .inl rfl

end SchemaBatch.Catalog
