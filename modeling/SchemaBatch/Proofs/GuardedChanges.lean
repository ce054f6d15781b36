import SchemaBatch.Proofs.ChangeWrites
import SchemaBatch.Proofs.StatementLists

/-!
# `Proofs.GuardedChanges` — statements that may be repeated

A creation that keeps or replaces what is there, and a removal of what may be missing, come to the same when
they are made again. Of several such creations a later one may undo what an earlier one wrote, so no single
one of them leaves the end as it is: together they do.

* `Catalog.Filling` — what becomes of what is found under a key; `Filling.on_on`, **twice is once**, also of
  several, `Filling.on_andThen`.
* `Catalog.Covers` — one catalog has an object wherever another has one.
* `Catalog.exists_fills` — **where a guarded creation is made, it is made where there is more**, and what it
  does under each key depends on the statement alone; `Catalog.exists_fillsAll`, so do several.
* `Catalog.guarded_idempotent` — **a guarded statement may be repeated, and a list of guarded creations.**
-/

namespace SchemaBatch.Catalog

/-! ## What becomes of what is found -/

/-- What creations do to what is found under a key. -/
inductive Filling where
  /-- They leave it, -/
  | keep
  /-- put an object there if there is none, -/
  | fallback (object : SchemaObject)
  /-- or put one there in any case. -/
  | replace (object : SchemaObject)

namespace Filling

/-- What is found afterwards. -/
def on (found : Option SchemaObject) : Filling → Option SchemaObject
  | keep => found
  | fallback object => found.or (some object)
  | replace object => some object

/-- One after the other. -/
def andThen : Filling → Filling → Filling
  | first, keep => first
  | keep, fallback object => fallback object
  | first, fallback _ => first
  | _, replace object => replace object

theorem on_andThen (first second : Filling) (found : Option SchemaObject) :
    (first.andThen second).on found = second.on (first.on found) := by
  cases second with
  | keep => cases first <;> rfl
  | replace object => cases first <;> rfl
  | fallback object =>
    cases first with
    | keep | replace => rfl
    | fallback earlier => cases found <;> rfl

/-- **Twice is once.** -/
theorem on_on (filling : Filling) (found : Option SchemaObject) :
    filling.on (filling.on found) = filling.on found := by
  cases filling with
  | keep | replace => rfl
  | fallback object => cases found <;> rfl

/-- Nothing is taken away. -/
theorem isSome_on {found : Option SchemaObject} (h : found.isSome = true) (filling : Filling) :
    (filling.on found).isSome = true := by
  cases filling with
  | keep => exact h
  | fallback object => rw [on, Option.isSome_or, h, Bool.true_or]
  | replace object => rfl

end Filling

/-! ## Creations -/

/-- What a creation does under a key if it is made and an object that is there is no fault. -/
def Change.filling (key : ObjectKey) : Change → Filling
  | .create kind name _ ifNotExists on =>
    let object : SchemaObject := ⟨kind, name, if kind = .index then on else none⟩
    if ObjectKey.of kind name = key then if ifNotExists then .fallback object else .replace object
    else .keep
  | .drop _ _ _ | .alter _ _ | .other => .keep

/-- What a statement does under a key. -/
def filling (statement : Text) (key : ObjectKey) : Filling :=
  ((Change.read? statement).map (Change.filling key)).getD .keep

/-- What statements do under a key, one after the other. -/
def fillingAll : List Text → ObjectKey → Filling
  | [], _ => .keep
  | statement :: statements, key => (filling statement key).andThen (fillingAll statements key)

/-- Under every key a catalog becomes another. -/
def Fills (fillings : ObjectKey → Filling) (c after : Catalog) : Prop :=
  ∀ key : ObjectKey, after.objects[key]? = (fillings key).on c.objects[key]?

/-- A catalog has an object wherever another has one. -/
def Covers (d c : Catalog) : Prop :=
  ∀ key : ObjectKey, c.objects[key]?.isSome = true → d.objects[key]?.isSome = true

variable {c d after after' : Catalog} {statement : Text} {statements : List Text}
  {fillings : ObjectKey → Filling} {kind : ObjectKind} {name : Text} {on : Option Text}

theorem Covers.refl (c : Catalog) : c.Covers c := fun _ h => h

theorem Covers.contains (h : d.Covers c) (hc : c.contains kind name = true) :
    d.contains kind name = true := by
  rw [contains_eq_isSome] at hc ⊢
  exact h _ hc

theorem Fills.covers (h : Fills fillings c after) : after.Covers c := by
  intro key hkey
  rw [h key]
  exact Filling.isSome_on hkey _

/-- What covers goes on to cover if the same becomes of both. -/
theorem Covers.fills (hcovers : d.Covers c) (hc : Fills fillings c after) (hd : Fills fillings d after') :
    after'.Covers after := by
  intro key hkey
  rw [hc key] at hkey
  rw [hd key]
  cases hfilling : fillings key with
  | keep =>
    rw [hfilling] at hkey
    exact hcovers key hkey
  | fallback object => exact Option.isSome_or.trans (Bool.or_true _)
  | replace object => rfl

/-- Made again, the same is as it was. -/
theorem Fills.self (h : Fills fillings c after) (h' : Fills fillings after after') : after' = after := by
  refine view_injective (funext fun key => ?_)
  show after'.objects[key]? = after.objects[key]?
  rw [h' key, h key, Filling.on_on]

/-- A parent that is found is found where there is more, and it is what the statement says. -/
theorem parentFor_of_covers {parent : Option Text} (hcovers : d.Covers c)
    (h : c.parentFor kind on = .ok parent) :
    d.parentFor kind on = .ok parent ∧ parent = if kind = .index then on else none := by
  unfold parentFor at h ⊢
  cases kind with
  | table | view | role =>
    cases h
    exact ⟨rfl, rfl⟩
  | index =>
    cases on with
    | none => cases h
    | some table =>
      dsimp only at h ⊢
      split at h
      · rename_i htable
        cases h
        exact ⟨if_pos (hcovers.contains htable), rfl⟩
      · cases h

/-! ## Guarded statements -/

/-- What is there does not stand in the way of a creation, or what is missing in the way of a removal. -/
def Change.isGuarded : Change → Bool
  | .create _ _ orReplace ifNotExists _ => orReplace || ifNotExists
  | .drop _ _ ifExists => ifExists
  | .alter _ _ | .other => false

/-- **A guarded statement**: a creation that says OR REPLACE or IF NOT EXISTS, or a removal that says IF
EXISTS, as it is read. -/
def Guarded (statement : Text) : Prop :=
  ∃ change, Change.read? statement = some change ∧ change.isGuarded = true

/-- **A guarded creation**: one that says OR REPLACE or IF NOT EXISTS, as it is read. -/
def GuardedCreation (statement : Text) : Prop :=
  ∃ kind name orReplace ifNotExists on,
    Change.read? statement = some (.create kind name orReplace ifNotExists on) ∧
      (orReplace || ifNotExists) = true

/-- Where there is more, a guarded creation leaves what is there, or writes what it says. -/
theorem verdict_of_covers {orReplace ifNotExists : Bool} {w : Write} (hcovers : d.Covers c)
    (hguard : (orReplace || ifNotExists) = true)
    (h : c.verdict (.create kind name orReplace ifNotExists on) = .ok w) :
    (d.contains kind name = true ∧ ifNotExists = true ∧
      d.verdict (.create kind name orReplace ifNotExists on) = .ok .nothing) ∨
    ((ifNotExists = true → d.contains kind name = false) ∧
      d.verdict (.create kind name orReplace ifNotExists on)
        = .ok (.put ⟨kind, name, if kind = .index then on else none⟩)) := by
  by_cases hkept : (d.contains kind name && ifNotExists) = true
  · obtain ⟨hd, hexists⟩ := Bool.and_eq_true_iff.mp hkept
    exact .inl ⟨hd, hexists, if_pos hkept⟩
  · -- where there is less it was not kept either, so its parent was found
    have hc : ¬ (c.contains kind name && ifNotExists) = true := by
      intro h
      obtain ⟨hc, hexists⟩ := Bool.and_eq_true_iff.mp h
      exact hkept (Bool.and_eq_true_iff.mpr ⟨hcovers.contains hc, hexists⟩)
    have hd : ¬ (d.contains kind name && !orReplace) = true := by
      intro h
      obtain ⟨hd, hreplace⟩ := Bool.and_eq_true_iff.mp h
      rw [Bool.not_eq_true'] at hreplace
      rw [hreplace, Bool.false_or] at hguard
      exact hkept (Bool.and_eq_true_iff.mpr ⟨hd, hguard⟩)
    rw [verdict, if_neg hc] at h
    split at h
    · cases h
    · cases hparent : c.parentFor kind on with
      | error fault => rw [hparent] at h; cases h
      | ok parent =>
        obtain ⟨hparent, rfl⟩ := parentFor_of_covers hcovers hparent
        refine .inr ⟨fun hexists => ?_, ?_⟩
        · exact Bool.eq_false_iff.mpr fun hd => hkept (Bool.and_eq_true_iff.mpr ⟨hd, hexists⟩)
        · rw [verdict, if_neg hkept, if_neg hd, hparent]
          rfl

/-- **A guarded creation that is made is made where there is more**, and does what it says under each key. -/
theorem exists_fills (hguarded : GuardedCreation statement) (hcovers : d.Covers c)
    (h : c.applyText statement = .ok after) :
    ∃ after', d.applyText statement = .ok after' ∧ Fills (filling statement) d after' := by
  obtain ⟨kind, name, orReplace, ifNotExists, on, hread, hguard⟩ := hguarded
  obtain ⟨change, w, hread', hverdict, -⟩ := applyText_eq_ok_iff.mp h
  cases hread.symm.trans hread'
  have hfilling : ∀ key, filling statement key
      = Change.filling key (.create kind name orReplace ifNotExists on) := by
    intro key
    rw [filling, hread]
    rfl
  obtain ⟨hd, rfl, hverdict⟩ | ⟨hfree, hverdict⟩ := verdict_of_covers hcovers hguard hverdict
  · refine ⟨_, applyText_eq_ok_iff.mpr ⟨_, _, hread, hverdict, rfl⟩, fun key => ?_⟩
    rw [contains_eq_isSome, Option.isSome_iff_exists] at hd
    obtain ⟨object, hobject⟩ := hd
    rw [hfilling, Change.filling]
    split
    · rename_i hkey
      subst hkey
      show d.objects[ObjectKey.of kind name]? = _
      rw [find?] at hobject
      rw [hobject]
      rfl
    · rfl
  · refine ⟨_, applyText_eq_ok_iff.mpr ⟨_, _, hread, hverdict, rfl⟩, fun key => ?_⟩
    rw [hfilling, Change.filling, Write.getElem?_on]
    simp only [Write.key?, Write.entry, Option.some_inj]
    split
    · rename_i hkey
      subst hkey
      cases ifNotExists with
      | false => rfl
      | true =>
        have hnone : d.objects[ObjectKey.of kind name]? = none := by
          have hnot := hfree rfl
          rwa [contains_eq_isSome, Option.isSome_eq_false_iff, Option.isNone_iff_eq_none] at hnot
        rw [hnone]
        rfl
    · rfl

/-- **Several guarded creations that are made are made where there is more.** -/
theorem exists_fillsAll (hguarded : ∀ statement ∈ statements, GuardedCreation statement)
    (hcovers : d.Covers c) (h : c.applyAll statements = .ok after) :
    ∃ after', d.applyAll statements = .ok after' ∧ Fills (fillingAll statements) d after' := by
  induction statements generalizing c d with
  | nil => exact ⟨d, rfl, fun _ => rfl⟩
  | cons statement statements ih =>
    obtain ⟨mid, hmid, hafter⟩ := applyAll_cons_eq_ok_iff.mp h
    have hfirst := hguarded statement List.mem_cons_self
    obtain ⟨_, hc, hfillsc⟩ := exists_fills hfirst (.refl c) hmid
    cases hmid.symm.trans hc
    obtain ⟨mid', hmid', hfillsd⟩ := exists_fills hfirst hcovers hmid
    obtain ⟨after', hafter', hfills⟩ := ih (fun s hs => hguarded s (List.mem_cons_of_mem statement hs))
      (hcovers.fills hfillsc hfillsd) hafter
    refine ⟨after', applyAll_cons_eq_ok_iff.mpr ⟨mid', hmid', hafter'⟩, fun key => ?_⟩
    rw [hfills key, hfillsd key, fillingAll, Filling.on_andThen]

/-- Guarded creations may be repeated. -/
theorem applyAll_twice (hguarded : ∀ statement ∈ statements, GuardedCreation statement)
    (h : c.applyAll statements = .ok after) : after.applyAll statements = .ok after := by
  obtain ⟨_, hc, hfills⟩ := exists_fillsAll hguarded (.refl c) h
  cases h.symm.trans hc
  obtain ⟨after', hagain, hfills'⟩ := exists_fillsAll hguarded hfills.covers h
  rw [hagain, hfills.self hfills']

/-- A guarded removal may be repeated: it leaves nothing to remove. -/
theorem applyText_drop_twice (hread : Change.read? statement = some (.drop kind name true))
    (h : c.applyText statement = .ok after) : after.applyText statement = .ok after := by
  obtain ⟨change, w, hread', hverdict, hwrite⟩ := applyText_eq_ok_iff.mp h
  cases hread.symm.trans hread'
  have happly : c.apply (.drop kind name true) = .ok after := by
    rw [apply_eq, hverdict, ← hwrite]
    rfl
  have hnone := (of_apply_drop happly).1
  refine applyText_eq_ok_iff.mpr ⟨_, .nothing, hread, ?_, rfl⟩
  rw [verdict, hnone]
  rfl

/-- A guarded statement may be repeated. -/
theorem applyText_twice (hguarded : Guarded statement) (h : c.applyText statement = .ok after) :
    after.applyText statement = .ok after := by
  obtain ⟨change, hread, hguard⟩ := hguarded
  cases change with
  | create kind name orReplace ifNotExists on =>
    have hcreation : GuardedCreation statement := ⟨_, _, _, _, _, hread, hguard⟩
    obtain ⟨_, hc, hfills⟩ := exists_fills hcreation (.refl c) h
    cases h.symm.trans hc
    obtain ⟨after', hagain, hfills'⟩ := exists_fills hcreation hfills.covers h
    rw [hagain, hfills.self hfills']
  | drop kind name ifExists =>
    obtain rfl : ifExists = true := hguard
    exact applyText_drop_twice hread h
  | alter | other => cases hguard

/-- **Guarded statements are idempotent.** One that is applied to any catalog is applied again to what it leads
to, and changes nothing there; and so is a list of guarded creations, whatever names they have in common. -/
theorem guarded_idempotent :
    (∀ (c after : Catalog) (statement : Text), Guarded statement →
      c.applyText statement = .ok after → after.applyText statement = .ok after) ∧
    (∀ (c after : Catalog) (statements : List Text), (∀ statement ∈ statements, GuardedCreation statement) →
      c.applyAll statements = .ok after → after.applyAll statements = .ok after) :=
  ⟨fun _ _ _ hguarded h => applyText_twice hguarded h, fun _ _ _ hguarded h => applyAll_twice hguarded h⟩

/-- An index is moved from one table to another; made again, the statements move it back and forth. Once it is
removed, its removal does nothing more. -/
theorem guarded_idempotent_moved :
    let tables := empty.attemptAll (["create table T", "create table U"].map String.toList)
    let statements := ["create or replace index I on T(Id)", "create or replace index i on u(Id)",
      "create view if not exists T as select 1"].map String.toList
    let removal : Text := "drop index if exists I".toList
    let moved := tables.attemptAll statements
    let without := moved.attempt removal
    (∀ statement ∈ statements, GuardedCreation statement) ∧ Guarded removal ∧
      tables.applyAll statements = .ok moved ∧ moved.applyAll statements = .ok moved ∧
      moved.applyText removal = .ok without ∧ without.applyText removal = .ok without ∧
      moved.find? .index ['I'] = some ⟨.index, ['i'], some ['u']⟩ ∧ without.find? .index ['I'] = none := by
  intro tables statements removal moved without
  have hcreations : ∀ statement ∈ statements, GuardedCreation statement := by
    intro statement hmem
    rcases List.mem_cons.mp hmem with rfl | hmem
    · exact ⟨.index, ['I'], true, false, some ['T'], by decide, rfl⟩
    rcases List.mem_cons.mp hmem with rfl | hmem
    · exact ⟨.index, ['i'], true, false, some ['u'], by decide, rfl⟩
    · obtain rfl := List.mem_singleton.mp hmem
      exact ⟨.view, ['T'], false, true, none, by decide, rfl⟩
  have hremoval : Guarded removal := ⟨.drop .index ['I'] true, by decide, rfl⟩
  have hmoved : tables.applyAll statements = .ok moved := rfl
  have hwithout : moved.applyText removal = .ok without := rfl
  exact ⟨hcreations, hremoval, hmoved, guarded_idempotent.2 tables moved statements hcreations hmoved,
    hwithout, guarded_idempotent.1 moved without removal hremoval hwithout, rfl, rfl⟩

-- with removals in it a list may not be repeated: the table that the index needs is gone
example :
    let statements := ["create or replace index I on T(Id)", "drop index if exists I",
      "drop table if exists T"].map String.toList
    let c := empty.attempt "create table T".toList
    ((editAll statements c).1.mapError Status.code,
      (editAll statements (editAll statements c).2).1.mapError Status.code) = (.ok (), .error .notFound) := rfl

end SchemaBatch.Catalog
