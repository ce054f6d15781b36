import Mathlib
import SchemaBatch.Proofs.ChangeWrites
import SchemaBatch.Proofs.StatementLists

/-!
# `Proofs.LetterCase` — letter case does not matter to a schema

Names are kept as they were written, and compared without regard to letter case, in one place by keys in upper
case and in another letter by letter. If that is done everywhere, then to put everything in upper case is to
lose nothing that an outcome depends on: each function of the catalog commutes with it.

* `Catalog.tokens_upper`, `Catalog.Change.read?_upper` — the tokens of a statement, and **the change that is
  read**, are in upper case what they are.
* `Catalog.upper` — the catalog with its names in upper case; `Catalog.apply_upper`, **a change is made there,
  or refused with the same code.**
* `Catalog.Alike` — catalogs that differ in letter case at most; `Catalog.alike_iff`, they are the same in
  upper case.
* `Catalog.Alike.applyText` — a statement and another such one; `Catalog.editAll_alike`, **lists of them end
  at the same position with the same code, and leave catalogs that are alike.**
-/

namespace SchemaBatch

/-! ## Characters -/

/-- What holds of no letter does not depend on letter case. -/
theorem apply_toUpper {p : Char → Bool} (hp : ∀ c, c.isAlpha = true → p c = false) (c : Char) :
    p c.toUpper = p c := by
  cases hc : c.isAlpha with
  | true => rw [hp c hc, hp c.toUpper ((Char.isAlpha_toUpper_eq_isAlpha c).trans hc)]
  | false =>
    have hlower : ¬ c.isLower = true := by
      intro hlower
      cases hc.symm.trans (Bool.or_eq_true_iff.mpr (.inr hlower))
    rw [toUpper_of_not_isLower hlower]

/-- No letter is a character that is none. -/
theorem beq_toUpper {d : Char} (hd : d.isAlpha = false) (c : Char) : (c.toUpper == d) = (c == d) := by
  refine apply_toUpper (p := (· == d)) (fun c hc => Bool.eq_false_iff.mpr fun heq => ?_) c
  rw [eq_of_beq heq] at hc
  cases hd.symm.trans hc

@[simp] theorem isBlank_toUpper (c : Char) : isBlank c.toUpper = isBlank c :=
  apply_toUpper (fun _ => isBlank_of_isAlpha) c

namespace Catalog

@[simp] theorem isParenthesis_toUpper (c : Char) : isParenthesis c.toUpper = isParenthesis c := by
  rw [isParenthesis, beq_toUpper rfl, beq_toUpper rfl, isParenthesis]

@[simp] theorem isNameQuote_toUpper (c : Char) : isNameQuote c.toUpper = isNameQuote c := by
  rw [isNameQuote, beq_toUpper rfl, beq_toUpper rfl, isNameQuote]

end Catalog

/-! ## Texts -/

namespace Text

@[simp] theorem upper_upper (s : Text) : upper (upper s) = upper s := by
  rw [upper, upper, List.map_map]
  exact List.map_congr_left fun c _ => Char.toUpper_toUpper_eq_toUpper c

theorem sameLetters_iff {s t : Text} : sameLetters s t = true ↔ upper s = upper t := beq_iff_eq

theorem cut_map {α β : Type} {p : α → Bool} {q : β → Bool} {f : α → β} (h : ∀ x, q (f x) = p x)
    (xs : List α) : cut q (xs.map f) = (cut p xs).map (List.map f) := by
  induction xs with
  | nil => rfl
  | cons x xs ih =>
    rw [List.map_cons, cut, cut, h, ih]
    split
    · rfl
    · cases cut p xs <;> rfl

theorem words_upper (s : Text) : words (upper s) = (words s).map upper := by
  rw [words, upper, cut_map isBlank_toUpper, List.filter_map, words]
  refine congrArg (List.map upper) (List.filter_congr fun piece _ => ?_)
  simp

end Text

namespace Catalog

/-! ## Statements -/

theorem spaced_toUpper (c : Char) : spaced c.toUpper = Text.upper (spaced c) := by
  have hparenthesis := isParenthesis_toUpper c
  unfold isParenthesis at hparenthesis
  unfold spaced
  rw [hparenthesis]
  split <;> rfl

/-- **The tokens of a statement in upper case are its tokens in upper case.** -/
theorem tokens_upper (statement : Text) : tokens (Text.upper statement) = (tokens statement).map Text.upper := by
  have hspaced : (Text.upper statement).flatMap spaced = Text.upper (statement.flatMap spaced) := by
    rw [Text.upper, Text.upper, List.flatMap_map, List.map_flatMap]
    exact List.flatMap_congr fun c _ => spaced_toUpper c
  rw [tokens, hspaced, Text.words_upper, tokens]

@[simp] theorem isKeyword_upper (keyword : String) (token : Text) :
    isKeyword keyword (Text.upper token) = isKeyword keyword token := by
  rw [isKeyword, Text.upper_upper, isKeyword]

theorem afterPhrase?_upper (phrase : List String) (ts : List Text) :
    afterPhrase? phrase (ts.map Text.upper) = (afterPhrase? phrase ts).map (List.map Text.upper) := by
  induction phrase generalizing ts with
  | nil => rfl
  | cons keyword phrase ih =>
    cases ts with
    | nil => rfl
    | cons token ts =>
      rw [List.map_cons, afterPhrase?, afterPhrase?, isKeyword_upper, ih]
      split <;> rfl

@[simp] theorem optionalPhrase_upper (phrase : List String) (ts : List Text) :
    optionalPhrase phrase (ts.map Text.upper) = (optionalPhrase phrase ts).map id (List.map Text.upper) := by
  rw [optionalPhrase, optionalPhrase, afterPhrase?_upper]
  cases afterPhrase? phrase ts <;> rfl

/-- What characters are left by a condition that letter case does not matter to. -/
theorem dropWhile_upper {p : Char → Bool} (h : ∀ c, p c.toUpper = p c) (s : Text) :
    (Text.upper s).dropWhile p = Text.upper (s.dropWhile p) := by
  rw [Text.upper, List.dropWhile_map, Text.upper]
  congr 2
  exact funext h

theorem unquoted_upper (token : Text) : unquoted (Text.upper token) = Text.upper (unquoted token) := by
  have hreverse : ∀ s : Text, (Text.upper s).reverse = Text.upper s.reverse := fun s =>
    List.map_reverse.symm
  rw [unquoted, dropWhile_upper isNameQuote_toUpper, hreverse, dropWhile_upper isNameQuote_toUpper, hreverse,
    unquoted]

/-- An opening parenthesis is all that becomes one. -/
theorem upper_beq_parenthesis (s : Text) : (Text.upper s == ['(']) = (s == ['(']) := by
  cases s with
  | nil => rfl
  | cons c s =>
    show (c.toUpper == '(' && Text.upper s == []) = (c == '(' && s == [])
    rw [beq_toUpper rfl]
    cases s <;> rfl

@[simp] theorem name?_upper (ts : List Text) : name? (ts.map Text.upper) = (name? ts).map Text.upper := by
  cases ts with
  | nil => rfl
  | cons token ts =>
    simp only [List.map_cons, name?, unquoted_upper, upper_beq_parenthesis]
    have hempty : (Text.upper (unquoted token)).isEmpty = (unquoted token).isEmpty := List.isEmpty_map
    rw [hempty]
    split <;> rfl

@[simp] theorem kind?_upper (ts : List Text) : kind? (ts.map Text.upper) = kind? ts := by
  cases ts with
  | nil => rfl
  | cons token ts => simp only [List.map_cons, kind?, ObjectKind.ofToken?, Text.upper_upper]

namespace Change

/-- The change with its names in upper case. -/
def upper : Change → Change
  | create kind name orReplace ifNotExists on =>
    create kind (Text.upper name) orReplace ifNotExists (on.map Text.upper)
  | drop kind name ifExists => drop kind (Text.upper name) ifExists
  | alter kind name => alter kind (Text.upper name)
  | other => other

theorem dropWhile_map_upper {p : Text → Bool} (h : ∀ token, p (Text.upper token) = p token) (ts : List Text) :
    (ts.map Text.upper).dropWhile p = (ts.dropWhile p).map Text.upper := by
  rw [List.dropWhile_map]
  congr 2
  exact funext h

theorem isModifier_upper (token : Text) : isModifier (Text.upper token) = isModifier token := by
  rw [isModifier, isKeyword_upper, isKeyword_upper, isModifier]

theorem onTable?_upper (ts : List Text) : onTable? (ts.map Text.upper) = (onTable? ts).map Text.upper := by
  have hon : ∀ token, (!isKeyword "ON" (Text.upper token)) = !isKeyword "ON" token := by
    intro token
    rw [isKeyword_upper]
  rw [onTable?, dropWhile_map_upper hon, ← List.map_drop, name?_upper, onTable?]

theorem readCreate?_upper (ts : List Text) :
    readCreate? (ts.map Text.upper) = (readCreate? ts).map upper := by
  unfold readCreate?
  rw [optionalPhrase_upper]
  generalize optionalPhrase ["OR", "REPLACE"] ts = replace
  obtain ⟨orReplace, afterReplace⟩ := replace
  simp only [Prod.map, dropWhile_map_upper isModifier_upper, kind?_upper]
  generalize afterReplace.dropWhile isModifier = afterModifiers
  cases kind? afterModifiers with
  | none => rfl
  | some kind =>
    simp only [Option.bind_eq_bind, Option.bind_some, ← List.map_drop, optionalPhrase_upper]
    generalize optionalPhrase ["IF", "NOT", "EXISTS"] _ = guard
    obtain ⟨ifNotExists, afterGuard⟩ := guard
    simp only [Prod.map, name?_upper, onTable?_upper]
    cases name? afterGuard <;> rfl

theorem readDrop?_upper (ts : List Text) : readDrop? (ts.map Text.upper) = (readDrop? ts).map upper := by
  unfold readDrop?
  rw [kind?_upper]
  cases kind? ts with
  | none => rfl
  | some kind =>
    simp only [Option.bind_eq_bind, Option.bind_some, ← List.map_drop, optionalPhrase_upper]
    generalize optionalPhrase ["IF", "EXISTS"] _ = guard
    obtain ⟨ifExists, afterGuard⟩ := guard
    simp only [Prod.map, name?_upper]
    cases name? afterGuard <;> rfl

theorem readAlter?_upper (ts : List Text) : readAlter? (ts.map Text.upper) = (readAlter? ts).map upper := by
  unfold readAlter?
  rw [kind?_upper]
  cases kind? ts with
  | none => rfl
  | some kind =>
    simp only [← List.map_drop, name?_upper]
    cases name? (ts.drop 1) <;> rfl

/-- **A statement in upper case is read as what it is, with its names in upper case.** -/
theorem read?_upper (statement : Text) : read? (Text.upper statement) = (read? statement).map upper := by
  rw [read?, tokens_upper, read?]
  cases tokens statement with
  | nil => rfl
  | cons verb ts =>
    simp only [List.map_cons, ofTokens?, isKeyword_upper]
    split
    · exact readCreate?_upper ts
    · split
      · exact readDrop?_upper ts
      · split
        · exact readAlter?_upper ts
        · rfl

end Change

end Catalog

/-! ## Catalogs -/

/-- The object with its names in upper case. -/
def SchemaObject.upper (object : SchemaObject) : SchemaObject :=
  ⟨object.kind, Text.upper object.name, object.parent.map Text.upper⟩

namespace Catalog

@[simp] theorem of_upper (kind : ObjectKind) (name : Text) :
    ObjectKey.of kind (Text.upper name) = ObjectKey.of kind name :=
  congrArg (ObjectKey.mk kind) (Text.upper_upper name)

/-- The catalog with the names of its objects in upper case. -/
def upper (c : Catalog) : Catalog where
  objects := c.objects.map fun _ object => object.upper
  keyed key object h := by
    rw [Std.ExtTreeMap.getElem?_map] at h
    obtain ⟨object, hobject, rfl⟩ := Option.map_eq_some_iff.mp h
    exact (of_upper _ _).trans (c.keyed key object hobject)

theorem getElem?_upper (c : Catalog) (key : ObjectKey) :
    c.upper.objects[key]? = c.objects[key]?.map SchemaObject.upper :=
  Std.ExtTreeMap.getElem?_map

@[simp] theorem contains_upper (c : Catalog) (kind : ObjectKind) (name : Text) :
    c.upper.contains kind (Text.upper name) = c.contains kind name := by
  rw [contains, of_upper]
  exact Std.ExtTreeMap.contains_map

@[simp] theorem insert_upper (c : Catalog) (object : SchemaObject) :
    c.upper.insert object.upper = (c.insert object).upper := by
  refine view_injective (funext fun key => ?_)
  simp only [view, getElem?_insert, getElem?_upper, SchemaObject.upper, of_upper]
  split <;> rfl

@[simp] theorem erase_upper (c : Catalog) (kind : ObjectKind) (name : Text) :
    c.upper.erase kind (Text.upper name) = (c.erase kind name).upper := by
  refine view_injective (funext fun key => ?_)
  simp only [view, getElem?_erase, getElem?_upper, of_upper]
  split <;> rfl

theorem isIndexOn_upper (table : Text) (object : SchemaObject) :
    isIndexOn (Text.upper table) object.upper = isIndexOn table object := by
  obtain ⟨kind, name, parent⟩ := object
  cases parent with
  | none => rfl
  | some parent =>
    show (kind == .index && Text.sameLetters (Text.upper parent) (Text.upper table)) = _
    rw [Text.sameLetters, Text.upper_upper, Text.upper_upper]
    rfl

@[simp] theorem indexesOn_upper (c : Catalog) (table : Text) :
    c.upper.indexesOn (Text.upper table) = (c.indexesOn table).map Text.upper := by
  have hlist : c.upper.toList = c.toList.map SchemaObject.upper := by
    rw [toList, upper, Std.ExtTreeMap.toList_map, toList, List.map_map, List.map_map]
    rfl
  have hindexes : isIndexOn (Text.upper table) ∘ SchemaObject.upper = isIndexOn table :=
    funext (isIndexOn_upper table)
  rw [indexesOn, hlist, List.filter_map, hindexes, List.map_map, indexesOn, List.map_map]
  rfl

theorem add_upper (c : Catalog) (kind : ObjectKind) (name : Text) (on : Option Text) :
    (c.upper.add kind (Text.upper name) (on.map Text.upper)).mapError ChangeFault.code
      = ((c.add kind name on).mapError ChangeFault.code).map upper := by
  have hinsert : ∀ parent : Option Text,
      c.upper.insert ⟨kind, Text.upper name, parent.map Text.upper⟩ = (c.insert ⟨kind, name, parent⟩).upper :=
    fun parent => insert_upper c ⟨kind, name, parent⟩
  cases kind with
  | table | view | role => exact congrArg Except.ok (hinsert none)
  | index =>
    cases on with
    | none => rfl
    | some table =>
      simp only [Option.map_some, add, contains_upper]
      split
      · exact congrArg Except.ok (hinsert (some table))
      · rfl

/-- **A change in upper case is made as it is, or refused with the same code.** -/
theorem apply_upper (c : Catalog) (change : Change) :
    (c.upper.apply change.upper).mapError ChangeFault.code
      = ((c.apply change).mapError ChangeFault.code).map upper := by
  cases change with
  | create kind name orReplace ifNotExists on =>
    simp only [Change.upper, apply, contains_upper]
    split
    · rfl
    · split
      · rfl
      · exact add_upper c kind name on
  | drop kind name ifExists =>
    simp only [Change.upper, apply, contains_upper, indexesOn_upper, ne_eq, List.map_eq_nil_iff, erase_upper]
    split
    · split <;> rfl
    · split <;> rfl
  | alter kind name =>
    simp only [Change.upper, apply, contains_upper]
    split <;> rfl
  | other => rfl

/-- What is answered to a statement: the code that it is refused with, or the catalog that it leads to. -/
def answered (c : Catalog) (statement : Text) : Except StatusCode Catalog :=
  (c.applyText statement).mapError Status.code

theorem answered_eq (c : Catalog) (statement : Text) : c.answered statement =
    match Change.read? statement with
    | none => .error .invalidArgument
    | some change => (c.apply change).mapError ChangeFault.code := by
  rw [answered, applyText]
  cases Change.read? statement with
  | none => rfl
  | some change =>
    dsimp only
    cases c.apply change with
    | error fault => exact congrArg Except.error (ChangeFault.code_status statement fault)
    | ok after => rfl

/-- A statement in upper case is answered as it is. -/
theorem answered_upper (c : Catalog) (statement : Text) :
    c.upper.answered (Text.upper statement) = (c.answered statement).map upper := by
  rw [answered_eq, Change.read?_upper, answered_eq]
  cases Change.read? statement with
  | none => rfl
  | some change => exact apply_upper c change

end Catalog

/-! ## Letter case -/

/-- Two objects of one kind whose names and parents differ in letter case at most. -/
structure SchemaObject.Alike (object object' : SchemaObject) : Prop where
  kind : object.kind = object'.kind
  name : Text.sameLetters object.name object'.name = true
  parent : Option.Rel (fun s t => Text.sameLetters s t = true) object.parent object'.parent

theorem rel_iff_map_eq {α β : Type} {r : α → α → Prop} {f : α → β} (h : ∀ a b, r a b ↔ f a = f b)
    (x y : Option α) : Option.Rel r x y ↔ x.map f = y.map f := by
  cases x with
  | none =>
    cases y with
    | none => exact iff_of_true .none rfl
    | some b => exact iff_of_false nofun nofun
  | some a =>
    cases y with
    | none => exact iff_of_false nofun nofun
    | some b =>
      rw [Option.map_some, Option.map_some, Option.some_inj, ← h a b]
      constructor
      · rintro ⟨hab⟩
        exact hab
      · exact .some

theorem SchemaObject.alike_iff (object object' : SchemaObject) :
    object.Alike object' ↔ object.upper = object'.upper := by
  have hparents : Option.Rel (fun s t => Text.sameLetters s t = true) object.parent object'.parent ↔
      object.parent.map Text.upper = object'.parent.map Text.upper :=
    rel_iff_map_eq (f := Text.upper) (fun _ _ => Text.sameLetters_iff) _ _
  rw [upper, upper, SchemaObject.mk.injEq, ← hparents]
  constructor
  · rintro ⟨hkind, hname, hparent⟩
    exact ⟨hkind, Text.sameLetters_iff.mp hname, hparent⟩
  · rintro ⟨hkind, hname, hparent⟩
    exact ⟨hkind, Text.sameLetters_iff.mpr hname, hparent⟩

namespace Catalog

/-- **Two catalogs with the same keys whose objects differ in letter case at most.** -/
def Alike (c c' : Catalog) : Prop :=
  ∀ key : ObjectKey, Option.Rel SchemaObject.Alike c.objects[key]? c'.objects[key]?

variable {c c' : Catalog} {s s' : Text} {ss ss' : List Text}

/-- **They are the same in upper case.** -/
theorem alike_iff : c.Alike c' ↔ c.upper = c'.upper := by
  have hkey : ∀ key : ObjectKey, Option.Rel SchemaObject.Alike c.objects[key]? c'.objects[key]? ↔
      c.upper.objects[key]? = c'.upper.objects[key]? := by
    intro key
    rw [getElem?_upper, getElem?_upper]
    exact rel_iff_map_eq SchemaObject.alike_iff _ _
  constructor
  · intro h
    exact view_injective (funext fun key => (hkey key).mp (h key))
  · intro h key
    exact (hkey key).mpr (by rw [h])

/-- A statement and another that differs from it in letter case at most are answered alike. -/
theorem Alike.applyText (h : c.Alike c') (hs : Text.sameLetters s s' = true) :
    (∃ after after', c.applyText s = .ok after ∧ c'.applyText s' = .ok after' ∧ after.Alike after') ∨
    ∃ status status', c.applyText s = .error status ∧ c'.applyText s' = .error status' ∧
      status.code = status'.code := by
  have hanswer : (c.answered s).map upper = (c'.answered s').map upper := by
    rw [← answered_upper, alike_iff.mp h, Text.sameLetters_iff.mp hs, answered_upper]
  unfold answered at hanswer
  cases happly : c.applyText s with
  | ok after =>
    cases happly' : c'.applyText s' with
    | ok after' =>
      rw [happly, happly'] at hanswer
      exact .inl ⟨after, after', rfl, rfl, alike_iff.mpr (Except.ok.inj hanswer)⟩
    | error status' =>
      rw [happly, happly'] at hanswer
      cases hanswer
  | error status =>
    cases happly' : c'.applyText s' with
    | ok after' =>
      rw [happly, happly'] at hanswer
      cases hanswer
    | error status' =>
      rw [happly, happly'] at hanswer
      exact .inr ⟨status, status', rfl, rfl, Except.error.inj hanswer⟩

/-- **Letter case does not matter to a list of statements.** On catalogs that are alike, lists that differ in
letter case at most come to an end after as many statements, at the end of both or with the same code, and
the catalogs that they leave are alike. -/
theorem editAll_alike (hc : c.Alike c') (hs : List.Forall₂ (fun s s' => Text.sameLetters s s' = true) ss ss') :
    ∃ applied, Ends ss c (editAll ss c).1 (editAll ss c).2 applied ∧
      Ends ss' c' (editAll ss' c').1 (editAll ss' c').2 applied ∧
      (editAll ss c).1.mapError Status.code = (editAll ss' c').1.mapError Status.code ∧
      (editAll ss c).2.Alike (editAll ss' c').2 := by
  induction hs generalizing c c' with
  | nil => exact ⟨0, ⟨rfl, fun _ => rfl, nofun⟩, ⟨rfl, fun _ => rfl, nofun⟩, rfl, hc⟩
  | cons hhead _ ih =>
    simp only [editAll, edit_eq]
    obtain ⟨after, after', hafter, hafter', halike⟩ | ⟨status, status', hstatus, hstatus', hcode⟩ :=
      hc.applyText hhead
    · obtain ⟨applied, hends, hends', hanswer, halike⟩ := ih halike
      simp only [hafter, hafter']
      exact ⟨applied + 1, ends_cons_iff.mpr (.inr ⟨after, applied, hafter, hends, rfl⟩),
        ends_cons_iff.mpr (.inr ⟨after', applied, hafter', hends', rfl⟩), hanswer, halike⟩
    · simp only [hstatus, hstatus']
      exact ⟨0, ends_cons_iff.mpr (.inl ⟨status, hstatus, rfl, rfl, rfl⟩),
        ends_cons_iff.mpr (.inl ⟨status', hstatus', rfl, rfl, rfl⟩), congrArg Except.error hcode, hc⟩

/-- A table that is named in two ways gets an index, and is kept for it. -/
theorem editAll_alike_inUse :
    let c := empty.attempt "create table T (Id INT64)".toList
    let c' := empty.attempt "CREATE TABLE t (ID INT64)".toList
    let ss := ["create index I on t(Id)", "drop table if exists T", "drop index I"].map String.toList
    let ss' := ["Create Index i On T(id)", "DROP TABLE IF EXISTS t", "DROP INDEX i"].map String.toList
    c.Alike c' ∧ List.Forall₂ (fun s s' => Text.sameLetters s s' = true) ss ss' ∧
      (∃ applied, Ends ss c (editAll ss c).1 (editAll ss c).2 applied ∧
        Ends ss' c' (editAll ss' c').1 (editAll ss' c').2 applied ∧
        (editAll ss c).1.mapError Status.code = (editAll ss' c').1.mapError Status.code ∧
        (editAll ss c).2.Alike (editAll ss' c').2) ∧
      (editAll ss c).1.mapError Status.code = .error .failedPrecondition ∧
      (editAll ss' c').2.toList = [⟨.table, ['t'], none⟩, ⟨.index, ['i'], some ['T']⟩] := by
  intro c c' ss ss'
  have halike : c.Alike c' := by
    have hc : c = empty.insert ⟨.table, ['T'], none⟩ := rfl
    have hc' : c' = empty.insert ⟨.table, ['t'], none⟩ := rfl
    rw [alike_iff, hc, hc', ← insert_upper, ← insert_upper]
    rfl
  have hletters : List.Forall₂ (fun s s' => Text.sameLetters s s' = true) ss ss' :=
    .cons (by decide) (.cons (by decide) (.cons (by decide) .nil))
  exact ⟨halike, hletters, editAll_alike halike hletters, rfl, rfl⟩

end Catalog
end SchemaBatch
