import SchemaBatch.Proofs.CatalogIntegrity
import SchemaBatch.Proofs.InMemoryJob
import SchemaBatch.Proofs.LeadingKeyword

/-!
# `Proofs.SingleObject` — a statement changes one object, or nothing

The service works on its catalog in place, reading a statement and looking things up by turns, and what
was written before a fault would stay. Nothing is: each statement writes at most once, and last.

* `Catalog.Edit` — work on a catalog that keeps what was done before a fault. `Catalog.edit` — a statement
  carried out in place; `Catalog.edit_eq`, **it comes to what applying the statement comes to, and a fault
  leaves the catalog as it was.**
* `Catalog.NamedBy` — the object that a statement names.
* `Catalog.OneObject` — what a statement does to a catalog at most; `Catalog.edit_oneObject`, **every
  statement does no more, whatever its text is.**
* `Catalog.editAll_spec` — several statements in place, up to the first that is refused, leave what the
  ones before it made. `Catalog.editAll_frame` — an object that none of them names is kept.
-/

namespace SchemaBatch.Catalog

/-! ## Work in place -/

/-- Work on a catalog in place. What was done before a fault stays done. -/
abbrev Edit (α : Type) := ExceptT ChangeFault (StateM Catalog) α

namespace Edit

/-- The answer of work on a catalog, and the catalog as the work leaves it. -/
def on {α : Type} (work : Edit α) (c : Catalog) : Except ChangeFault α × Catalog := work.run.run c

/-- Goes on with what was read, if it could be. -/
def readable {α : Type} : Option α → Edit α
  | some a => pure a
  | none => throw .unreadable

/-- Whether the catalog has an object of a kind and a name. -/
def holds (kind : ObjectKind) (name : Text) : Edit Bool := do return (← get).contains kind name

/-- Adds an object, or puts it in the place of another. -/
def put (object : SchemaObject) : Edit Unit := modify fun c => c.insert object

/-- Removes an object. -/
def remove (kind : ObjectKind) (name : Text) : Edit Unit := modify fun c => c.erase kind name

section On

variable {α β : Type} (c : Catalog)

@[simp] theorem on_pure (a : α) : (pure a : Edit α).on c = (.ok a, c) := rfl

@[simp] theorem on_throw (fault : ChangeFault) : (throw fault : Edit α).on c = (.error fault, c) := rfl

@[simp] theorem on_put (object : SchemaObject) : (put object).on c = (.ok (), c.insert object) := rfl

@[simp] theorem on_remove (kind : ObjectKind) (name : Text) :
    (remove kind name).on c = (.ok (), c.erase kind name) := rfl

@[simp] theorem on_pure_bind (a : α) (next : α → Edit β) :
    ((pure a : Edit α) >>= next).on c = (next a).on c := rfl

@[simp] theorem on_throw_bind (fault : ChangeFault) (next : α → Edit β) :
    ((throw fault : Edit α) >>= next).on c = (.error fault, c) := rfl

@[simp] theorem on_get_bind (next : Catalog → Edit α) :
    ((get : Edit Catalog) >>= next).on c = (next c).on c := rfl

@[simp] theorem on_holds_bind (kind : ObjectKind) (name : Text) (next : Bool → Edit α) :
    (holds kind name >>= next).on c = (next (c.contains kind name)).on c := rfl

@[simp] theorem on_readable_some_bind (a : α) (next : α → Edit β) :
    (readable (some a) >>= next).on c = (next a).on c := rfl

@[simp] theorem on_readable_none_bind (next : α → Edit β) :
    (readable none >>= next).on c = (.error .unreadable, c) := rfl

end On

open Change

/-- The table of an index, which has to be there; nothing for an object of another kind. -/
def parent (kind : ObjectKind) (tokens : List Text) : Edit (Option Text) := do
  if kind = .index then
    let table ← readable (onTable? tokens)
    if ← holds .table table then return some table
    throw (.missingTable table)
  return none

/-- Carries out a creation, given the tokens after `CREATE`. -/
def create (tokens : List Text) : Edit Unit := do
  let (orReplace, tokens) := optionalPhrase ["OR", "REPLACE"] tokens
  let tokens := tokens.dropWhile isModifier
  let kind ← readable (kind? tokens)
  let (ifNotExists, tokens) := optionalPhrase ["IF", "NOT", "EXISTS"] (tokens.drop 1)
  let name ← readable (name? tokens)
  if ← holds kind name then
    if ifNotExists then return
    if !orReplace then throw (.duplicate name)
  put ⟨kind, name, ← parent kind tokens⟩

/-- Carries out a removal, given the tokens after `DROP`. -/
def drop (tokens : List Text) : Edit Unit := do
  let kind ← readable (kind? tokens)
  let (ifExists, tokens) := optionalPhrase ["IF", "EXISTS"] (tokens.drop 1)
  let name ← readable (name? tokens)
  if !(← holds kind name) then
    if ifExists then return
    throw (.missing kind name)
  if kind = .table then
    let indexes := (← get).indexesOn name
    if indexes ≠ [] then throw (.tableInUse name indexes)
  remove kind name

/-- Carries out an alteration, given the tokens after `ALTER`. -/
def alter (tokens : List Text) : Edit Unit := do
  match kind? tokens with
  | none => return
  | some kind =>
    let name ← readable (name? (tokens.drop 1))
    if !(← holds kind name) then throw (.missing kind name)

/-- Carries out a statement, given its tokens. -/
def statement : List Text → Edit Unit
  | [] => throw .unreadable
  | verb :: tokens =>
    if isKeyword "CREATE" verb then create tokens
    else if isKeyword "DROP" verb then drop tokens
    else if isKeyword "ALTER" verb then alter tokens
    else return

/-! ### Work in place against a change made whole -/

/-- What a change that is read comes to, if it can be read. -/
def outcome (c : Catalog) : Option Change → Except ChangeFault Catalog
  | some change => c.apply change
  | none => .error .unreadable

/-- A catalog after an outcome: the new one, or the old one as it was. -/
def settled (c : Catalog) : Except ChangeFault Catalog → Except ChangeFault Unit × Catalog
  | .ok after => (.ok (), after)
  | .error fault => (.error fault, c)

variable (c : Catalog)

theorem on_put_parent (kind : ObjectKind) (name : Text) (tokens : List Text) :
    (do put ⟨kind, name, ← parent kind tokens⟩).on c
      = settled c (c.add kind name (onTable? tokens)) := by
  cases kind with
  | index =>
    unfold parent
    cases onTable? tokens with
    | none => rfl
    | some table => cases htable : c.contains .table table <;> simp [htable, add, settled]
  | table | view | role => rfl

theorem on_create (tokens : List Text) :
    (create tokens).on c = settled c (outcome c (readCreate? tokens)) := by
  unfold create readCreate?
  generalize optionalPhrase ["OR", "REPLACE"] tokens = replace
  obtain ⟨orReplace, afterReplace⟩ := replace
  dsimp only
  cases kind? (afterReplace.dropWhile isModifier) with
  | none => rfl
  | some kind =>
    generalize optionalPhrase ["IF", "NOT", "EXISTS"] _ = guard
    obtain ⟨ifNotExists, afterGuard⟩ := guard
    simp only [Option.bind_eq_bind, Option.bind_some, on_readable_some_bind]
    cases name? afterGuard with
    | none => rfl
    | some name =>
      have hadd := on_put_parent c kind name afterGuard
      simp only [Option.bind_some, outcome, Catalog.apply, on_readable_some_bind, on_holds_bind]
      by_cases hheld : c.contains kind name = true
      · by_cases hkept : ifNotExists = true
        · simp [hheld, hkept, settled]
        · by_cases hreplaced : orReplace = true
          · simp [hheld, hkept, hreplaced, hadd]
          · simp [hheld, hkept, hreplaced, settled]
      · simp [hheld, hadd]

theorem on_drop (tokens : List Text) :
    (drop tokens).on c = settled c (outcome c (readDrop? tokens)) := by
  unfold drop readDrop?
  cases kind? tokens with
  | none => rfl
  | some kind =>
    generalize optionalPhrase ["IF", "EXISTS"] _ = guard
    obtain ⟨ifExists, afterGuard⟩ := guard
    simp only [Option.bind_eq_bind, Option.bind_some, on_readable_some_bind]
    cases name? afterGuard with
    | none => rfl
    | some name =>
      simp only [Option.bind_some, outcome, Catalog.apply, on_readable_some_bind, on_holds_bind]
      by_cases hheld : c.contains kind name = true
      · by_cases htable : kind = .table
        · subst htable
          by_cases hfree : c.indexesOn name = []
          · simp [hheld, hfree, settled]
          · simp [hheld, hfree, settled]
        · simp [hheld, htable, settled]
      · by_cases hguard : ifExists = true
        · simp [hheld, hguard, settled]
        · simp [hheld, hguard, settled]

theorem on_alter (tokens : List Text) :
    (alter tokens).on c = settled c (outcome c (readAlter? tokens)) := by
  unfold alter readAlter?
  cases kind? tokens with
  | none => rfl
  | some kind =>
    cases name? (tokens.drop 1) with
    | none => rfl
    | some name => cases hheld : c.contains kind name <;> simp [hheld, settled, outcome, Catalog.apply]

theorem on_statement (tokens : List Text) :
    (statement tokens).on c = settled c (outcome c (ofTokens? tokens)) := by
  cases tokens with
  | nil => rfl
  | cons verb tokens =>
    rw [statement, ofTokens?]
    split
    · exact on_create c tokens
    · split
      · exact on_drop c tokens
      · split
        · exact on_alter c tokens
        · rfl

end Edit

/-- Carries out a statement in place: the answer, and the catalog as it is left. -/
def edit (statement : Text) (c : Catalog) : Except Status Unit × Catalog :=
  (((Edit.statement (tokens statement)).on c).1.mapError (·.status statement),
    ((Edit.statement (tokens statement)).on c).2)

/-- **A statement in place comes to what applying it comes to**, and a refused one leaves the catalog as it
was. -/
theorem edit_eq (statement : Text) (c : Catalog) :
    edit statement c = match c.applyText statement with
      | .ok after => (.ok (), after)
      | .error status => (.error status, c) := by
  rw [edit, Edit.on_statement, applyText, Change.read?]
  cases Change.ofTokens? (tokens statement) with
  | none => rfl
  | some change =>
    simp only [Edit.outcome]
    cases c.apply change <;> rfl

/-! ## What a statement names -/

/-- The key of the object that a change is about. -/
def Change.key? : Change → Option ObjectKey
  | .create kind name _ _ _ => some (ObjectKey.of kind name)
  | .drop kind name _ => some (ObjectKey.of kind name)
  | .alter kind name => some (ObjectKey.of kind name)
  | .other => none

/-- A statement names an object, by the kind and the name that stand in it, the name in any letter case. -/
def NamedBy (statement : Text) (key : ObjectKey) : Prop :=
  ∃ change, Asks (tokens statement) change ∧ change.key? = some key

variable {c after : Catalog} {statement : Text} {change : Change} {kind : ObjectKind} {name : Text}

theorem Asks.unique {ts : List Text} {change change' : Change} (h : Asks ts change)
    (h' : Asks ts change') : change = change' :=
  Option.some.inj ((ofTokens?_of_asks h).symm.trans (ofTokens?_of_asks h'))

/-- No statement names two objects. -/
theorem NamedBy.unique {key key' : ObjectKey} (h : NamedBy statement key)
    (h' : NamedBy statement key') : key = key' := by
  obtain ⟨change, hchange, hkey⟩ := h
  obtain ⟨change', hchange', hkey'⟩ := h'
  rw [hchange.unique hchange'] at hkey
  exact Option.some.inj (hkey.symm.trans hkey')

/-! ## What a change does -/

theorem find?_insert_self (c : Catalog) (object : SchemaObject) :
    (c.insert object).find? object.kind object.name = some object := by
  rw [find?, getElem?_insert, if_pos rfl]

theorem find?_erase_self (c : Catalog) (kind : ObjectKind) (name : Text) :
    (c.erase kind name).find? kind name = none := by
  rw [find?, getElem?_erase, if_pos rfl]

theorem eq_insert_of_add {on : Option Text} (h : c.add kind name on = .ok after) :
    ∃ parent, after = c.insert ⟨kind, name, parent⟩ := by
  unfold Catalog.add at h
  split at h
  · cases h
  · rename_i table
    split at h
    · cases h
      exact ⟨some table, rfl⟩
    · cases h
  · cases h
    exact ⟨none, rfl⟩

/-- After a creation the object is there, and nothing else has been written. -/
theorem of_apply_create {orReplace ifNotExists : Bool} {on : Option Text}
    (h : c.apply (.create kind name orReplace ifNotExists on) = .ok after) :
    after.contains kind name = true ∧
      (after = c ∨ ∃ parent, after = c.insert ⟨kind, name, parent⟩) := by
  simp only [apply] at h
  split at h
  · rename_i hkept
    cases h
    exact ⟨(Bool.and_eq_true_iff.mp hkept).1, .inl rfl⟩
  · split at h
    · cases h
    · obtain ⟨parent, rfl⟩ := eq_insert_of_add h
      have hfound := find?_insert_self c ⟨kind, name, parent⟩
      exact ⟨by rw [contains_eq_isSome, hfound]; rfl, .inr ⟨parent, rfl⟩⟩

/-- After a removal the object is not there, and nothing else has been removed. -/
theorem of_apply_drop {ifExists : Bool} (h : c.apply (.drop kind name ifExists) = .ok after) :
    after.contains kind name = false ∧ (after = c ∨ after = c.erase kind name) := by
  simp only [apply] at h
  split at h
  · rename_i hmissing
    split at h
    · cases h
      exact ⟨by simpa using hmissing, .inl rfl⟩
    · cases h
  · split at h
    · cases h
    · cases h
      exact ⟨by rw [contains_eq_isSome, find?_erase_self]; rfl, .inr rfl⟩

theorem of_apply_alter (h : c.apply (.alter kind name) = .ok after) : after = c := by
  simp only [apply] at h
  split at h
  · cases h
    rfl
  · cases h

/-! ## What a statement does -/

/-- **What a statement does to a catalog at most.** -/
structure OneObject (statement : Text) (before : Catalog) (answer : Except Status Unit)
    (after : Catalog) : Prop where
  /-- Refused, it leaves the catalog as it was. -/
  refused : ∀ status, answer = .error status → after = before
  /-- It names one object at most. -/
  single : ∀ key key', NamedBy statement key → NamedBy statement key' → key = key'
  /-- Under every key but the one that it names there is what there was. -/
  frame : ∀ key, ¬ NamedBy statement key → after.objects[key]? = before.objects[key]?
  /-- A creation that succeeds names an object, which is there afterwards; it adds or replaces no other. -/
  created : answer = .ok () → verb? statement = some "CREATE".toList →
    ∃ kind name, NamedBy statement (ObjectKey.of kind name) ∧ after.contains kind name = true ∧
      (after = before ∨ ∃ parent, after = before.insert ⟨kind, name, parent⟩)
  /-- A removal that succeeds names an object, which is not there afterwards; it removes no other. -/
  dropped : answer = .ok () → verb? statement = some "DROP".toList →
    ∃ kind name, NamedBy statement (ObjectKey.of kind name) ∧ after.contains kind name = false ∧
      (after = before ∨ after = before.erase kind name)
  /-- An alteration and every other statement change nothing. -/
  otherwise : verb? statement ≠ some "CREATE".toList → verb? statement ≠ some "DROP".toList →
    after = before

/-- A statement that is refused. -/
theorem OneObject.of_refused {status : Status} : OneObject statement c (.error status) c where
  refused _ _ := rfl
  single _ _ h h' := h.unique h'
  frame _ _ := rfl
  created h := nomatch h
  dropped h := nomatch h
  otherwise _ _ := rfl

/-- A statement that is applied asks for a change that is made. -/
theorem exists_of_applyText (h : c.applyText statement = .ok after) :
    ∃ change, Asks (tokens statement) change ∧ c.apply change = .ok after := by
  unfold applyText at h
  split at h
  · cases h
  · rename_i change hread
    refine ⟨change, Change.read?_eq_some_iff.mp hread, ?_⟩
    cases happly : c.apply change with
    | error fault => rw [happly] at h; cases h
    | ok made => rw [happly] at h; cases h; rfl

/-- A change leaves all objects as they are but the one that it is about. -/
theorem getElem?_of_apply (h : c.apply change = .ok after) {key : ObjectKey}
    (hkey : change.key? ≠ some key) : after.objects[key]? = c.objects[key]? := by
  cases change with
  | create kind name orReplace ifNotExists on =>
    have hne : ObjectKey.of kind name ≠ key := fun heq => hkey (congrArg some heq)
    obtain ⟨_, rfl | ⟨parent, rfl⟩⟩ := of_apply_create h
    · rfl
    · rw [getElem?_insert, if_neg hne]
  | drop kind name ifExists =>
    have hne : ObjectKey.of kind name ≠ key := fun heq => hkey (congrArg some heq)
    obtain ⟨_, rfl | rfl⟩ := of_apply_drop h
    · rfl
    · rw [getElem?_erase, if_neg hne]
  | alter kind name => rw [of_apply_alter h]
  | other => cases h; rfl

/-- A statement that is applied. -/
theorem OneObject.of_applied (h : c.applyText statement = .ok after) :
    OneObject statement c (.ok ()) after := by
  obtain ⟨change, hasks, happly⟩ := exists_of_applyText h
  refine
    { refused := nofun
      single := fun _ _ h h' => h.unique h'
      frame := ?frame
      created := ?created
      dropped := ?dropped
      otherwise := ?otherwise }
  case frame =>
    intro key hkey
    exact getElem?_of_apply happly fun hchange => hkey ⟨change, hasks, hchange⟩
  case created =>
    intro _ hverb
    have hcreate := (hasks.verb?_eq_iff (by decide)).mp hverb
    cases change with
    | create kind name => exact ⟨kind, name, ⟨_, hasks, rfl⟩, of_apply_create happly⟩
    | drop | alter | other => simp [Change.verb?] at hcreate
  case dropped =>
    intro _ hverb
    have hdrop := (hasks.verb?_eq_iff (by decide)).mp hverb
    cases change with
    | drop kind name => exact ⟨kind, name, ⟨_, hasks, rfl⟩, of_apply_drop happly⟩
    | create | alter | other => simp [Change.verb?] at hdrop
  case otherwise =>
    intro hcreate hdrop
    cases change with
    | create => exact absurd ((hasks.verb?_eq_iff (by decide)).mpr rfl) hcreate
    | drop => exact absurd ((hasks.verb?_eq_iff (by decide)).mpr rfl) hdrop
    | alter => exact of_apply_alter happly
    | other => cases happly; rfl

/-- **A statement changes one object, or nothing.** For every catalog and every text: carried out in place, it
comes to what applying it comes to, and does no more than change the object that it names; a refused one leaves
the catalog as it was. -/
theorem edit_oneObject (statement : Text) (c : Catalog) :
    c.applyText statement = (edit statement c).1.map (fun _ => (edit statement c).2) ∧
    OneObject statement c (edit statement c).1 (edit statement c).2 := by
  rw [edit_eq]
  cases happly : c.applyText statement with
  | ok after => exact ⟨rfl, .of_applied happly⟩
  | error status => exact ⟨rfl, .of_refused⟩

/-! ## Several statements -/

/-- What none of the statements names is kept by all of them. -/
theorem applyAll_frame {statements : List Text} (h : c.applyAll statements = .ok after) {key : ObjectKey}
    (hkey : ∀ statement ∈ statements, ¬ NamedBy statement key) :
    after.objects[key]? = c.objects[key]? := by
  induction statements generalizing c with
  | nil =>
    cases h
    rfl
  | cons statement statements ih =>
    change (c.applyText statement).bind _ = .ok after at h
    cases happly : c.applyText statement with
    | error status => rw [happly] at h; cases h
    | ok made =>
      rw [happly] at h
      have hfirst := (OneObject.of_applied happly).frame key (hkey statement List.mem_cons_self)
      rw [ih h fun s hs => hkey s (List.mem_cons_of_mem statement hs), hfirst]

/-- Carries out statements in place, one after the other, up to the first that is refused. This is what a job
does that is alone on its catalog (`Job.stepAll_eq`). -/
def editAll : List Text → Catalog → Except Status Unit × Catalog
  | [], c => (.ok (), c)
  | statement :: statements, c =>
    match edit statement c with
    | (.ok (), after) => editAll statements after
    | (.error status, after) => (.error status, after)

/-- Where statements in place come to an end, after some of them were applied. -/
structure Ends (statements : List Text) (before : Catalog) (answer : Except Status Unit)
    (after : Catalog) (applied : Nat) : Prop where
  /-- The catalog is left as these make it, -/
  catalog : before.applyAll (statements.take applied) = .ok after
  /-- which are all if none is refused, -/
  all : answer = .ok () → applied = statements.length
  /-- and otherwise those before the refused one. -/
  refused : ∀ status, answer = .error status →
    ∃ statement, statements[applied]? = some statement ∧ after.applyText statement = .error status

/-- **Several statements in place leave what those before the first refused one make**, and nothing of that
one. -/
theorem editAll_spec (statements : List Text) (c : Catalog) :
    ∃ applied, Ends statements c (editAll statements c).1 (editAll statements c).2 applied := by
  induction statements generalizing c with
  | nil => exact ⟨0, rfl, fun _ => rfl, nofun⟩
  | cons statement statements ih =>
    unfold editAll
    rw [edit_eq]
    cases happly : c.applyText statement with
    | ok after =>
      obtain ⟨applied, h⟩ := ih after
      refine ⟨applied + 1, ?_, fun hok => congrArg Nat.succ (h.all hok), h.refused⟩
      show (c.applyText statement).bind _ = _
      rw [happly]
      exact h.catalog
    | error status =>
      refine ⟨0, rfl, nofun, fun status' herror => ⟨statement, rfl, ?_⟩⟩
      cases herror
      exact happly

/-- What none of the statements names is kept, however far they come. -/
theorem editAll_frame (statements : List Text) (c : Catalog) {key : ObjectKey}
    (hkey : ∀ statement ∈ statements, ¬ NamedBy statement key) :
    (editAll statements c).2.objects[key]? = c.objects[key]? := by
  obtain ⟨applied, h⟩ := editAll_spec statements c
  exact applyAll_frame h.catalog fun statement hmem => hkey statement (List.mem_of_mem_take hmem)

-- the second statement is refused, and the index that it names is not there
example :
    let statements := ["create table T (Id INT64)", "create index i on U(Id)", "drop table t"].map String.toList
    (editAll statements empty).2.toList = [⟨.table, ['T'], none⟩] := by rfl

end SchemaBatch.Catalog
