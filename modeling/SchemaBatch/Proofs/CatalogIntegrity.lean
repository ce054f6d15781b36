import SchemaBatch.Catalog
import SchemaBatch.Proofs.ChangeGrammar

/-!
# `Proofs.CatalogIntegrity` — what every catalog satisfies

A catalog that statements make from the empty one finds each object by its own kind and name, has names
that are words, and keeps no index on a table that it does not have. Names are compared in two ways, by
keys in upper case and by letters in any case; that they agree is what keeps the indexes.

* `Catalog.IsToken` — what the tokens of a statement are; `Catalog.isToken_of_mem_tokens`.
* `Catalog.IsName` — what a name is. `Catalog.Change.isName_of_read?` — **whatever is created gets such
  a name**.
* `Catalog.Fits` — what is said of an object and its key. `Catalog.Sound` — the integrity of a catalog.
* `Catalog.Sound.insert` and `Catalog.Sound.erase` — what has to be seen to before an object is added or
  removed.
* `Catalog.Sound.apply` — **a change keeps the integrity**. `Catalog.attemptAll` — statements one after
  the other; `Catalog.integrity`, **whatever they are, the catalog they lead to is sound**.
-/

namespace SchemaBatch

/-! ## Tokens -/

theorem Text.not_of_mem_cut {α : Type} {p : α → Bool} {xs piece : List α}
    (h : piece ∈ cut p xs) : ∀ x ∈ piece, p x = false := by
  induction xs generalizing piece with
  | nil =>
    obtain rfl := List.mem_singleton.mp h
    exact nofun
  | cons x xs ih =>
    unfold cut at h
    split at h
    · rcases List.mem_cons.mp h with rfl | h
      · exact nofun
      · exact ih h
    · rename_i hx
      split at h
      · rename_i hnil
        exact absurd hnil (cut_ne_nil p xs)
      · rename_i first rest hcut
        rcases List.mem_cons.mp h with rfl | h
        · intro y hy
          rcases List.mem_cons.mp hy with rfl | hy
          · exact Bool.eq_false_iff.mpr hx
          · exact ih (hcut ▸ List.mem_cons_self) y hy
        · exact ih (hcut ▸ List.mem_cons_of_mem _ h)

namespace Catalog

/-- A token has no blanks, and an opening parenthesis only if it is nothing else. -/
structure IsToken (token : Text) : Prop where
  noBlank : ∀ c ∈ token, isBlank c = false
  parenthesis : '(' ∈ token → token = ['(']

/-- Parted from its neighbours by blanks, an opening parenthesis is a piece of its own, and never in the
first piece. -/
theorem cut_spaced (statement : Text) :
    ∃ first rest, Text.cut isBlank (statement.flatMap spaced) = first :: rest ∧ '(' ∉ first ∧
      ∀ piece ∈ rest, '(' ∈ piece → piece = ['('] := by
  induction statement with
  | nil => exact ⟨[], [], rfl, nofun, nofun⟩
  | cons c statement ih =>
    obtain ⟨first, rest, hcut, hfirst, hrest⟩ := ih
    have hothers : ∀ piece ∈ first :: rest, '(' ∈ piece → piece = ['('] := by
      intro piece hmem hparenthesis
      rcases List.mem_cons.mp hmem with rfl | hmem
      · exact absurd hparenthesis hfirst
      · exact hrest piece hmem hparenthesis
    by_cases hp : (c == '(' || c == ')') = true
    · -- a parenthesis ends the piece before it and the one it is
      have hnot : isBlank c = false := by
        rcases Bool.or_eq_true_iff.mp hp with h | h <;> rw [eq_of_beq h] <;> rfl
      refine ⟨[], [c] :: first :: rest, ?_, nofun, ?_⟩
      · have hspaced : (c :: statement).flatMap spaced
            = ' ' :: c :: ' ' :: statement.flatMap spaced := by
          simp [spaced, hp]
        rw [hspaced]
        simp [Text.cut, hnot, hcut, show isBlank ' ' = true from rfl]
      · intro piece hmem hparenthesis
        rcases List.mem_cons.mp hmem with rfl | hmem
        · rw [List.mem_singleton.mp hparenthesis]
        · exact hothers piece hmem hparenthesis
    · have hspaced : (c :: statement).flatMap spaced = c :: statement.flatMap spaced := by
        simp [spaced, hp]
      rw [hspaced]
      by_cases hc : isBlank c = true
      · exact ⟨[], first :: rest, by simp [Text.cut, hc, hcut], nofun, hothers⟩
      · refine ⟨c :: first, rest, by simp [Text.cut, hc, hcut], ?_, hrest⟩
        intro hparenthesis
        rcases List.mem_cons.mp hparenthesis with rfl | hmem
        · exact hp rfl
        · exact hfirst hmem

theorem isToken_of_mem_tokens {statement token : Text} (h : token ∈ tokens statement) :
    IsToken token := by
  have hpiece := (List.mem_filter.mp h).1
  refine ⟨Text.not_of_mem_cut hpiece, ?_⟩
  intro hparenthesis
  obtain ⟨first, rest, hcut, hfirst, hrest⟩ := cut_spaced statement
  rw [hcut] at hpiece
  rcases List.mem_cons.mp hpiece with rfl | hmem
  · exact absurd hparenthesis hfirst
  · exact hrest token hmem hparenthesis

/-! ## Names -/

/-- A name is not empty, and neither a blank nor an opening parenthesis is in it. -/
structure IsName (name : Text) : Prop where
  ne_nil : name ≠ []
  clean : ∀ c ∈ name, isBlank c = false ∧ c ≠ '('

theorem mem_of_mem_unquoted {token : Text} {c : Char} (h : c ∈ unquoted token) : c ∈ token := by
  have hback := (List.dropWhile_suffix isNameQuote).mem (List.mem_reverse.mp h)
  exact (List.dropWhile_suffix isNameQuote).mem (List.mem_reverse.mp hback)

/-- **A name that is read off a token is one.** -/
theorem Names.isName {token name : Text} (htoken : IsToken token) (h : Names token name) :
    IsName name := by
  obtain ⟨rfl, hne, hparenthesis⟩ := h
  refine ⟨hne, ?_⟩
  intro c hc
  refine ⟨htoken.noBlank c (mem_of_mem_unquoted hc), ?_⟩
  rintro rfl
  -- the token is the parenthesis alone, which has no quotes to lose
  rw [htoken.parenthesis (mem_of_mem_unquoted hc)] at hparenthesis
  exact hparenthesis rfl

/-- **Whatever is to be created has a name.** -/
theorem Change.isName_of_read? {statement : Text} {kind : ObjectKind} {name : Text}
    {orReplace ifNotExists : Bool} {on : Option Text}
    (h : read? statement = some (.create kind name orReplace ifNotExists on)) : IsName name := by
  obtain ⟨token, hmem, hnames⟩ := (read?_eq_some_iff.mp h).exists_token
  exact hnames.isName (isToken_of_mem_tokens hmem)

/-! ## The integrity of a catalog -/

/-- An object fits the key that it is held under. -/
structure Fits (key : ObjectKey) (object : SchemaObject) : Prop where
  /-- The key is its own kind -/
  kind : object.kind = key.kind
  /-- and its own name in upper case, -/
  name : Text.upper object.name = key.name
  /-- which is a name. -/
  isName : IsName object.name
  /-- Only an index has a parent. -/
  free : object.kind ≠ .index → object.parent = none

-- A catalog carries its keys (`Catalog.keyed`), which every one built of `insert` and `erase` has. Integrity
-- is no part of it: `insert` and `erase` can break it, and what statements do to each other is said of every
-- catalog, also of one that has lost a table.
/-- **The integrity of a catalog.** -/
structure Sound (c : Catalog) : Prop where
  /-- Each object fits its key. -/
  fits : ∀ (key : ObjectKey) (object : SchemaObject), c.objects[key]? = some object → Fits key object
  /-- An index is on a table of the catalog, which has the name of its parent up to letter case. -/
  indexed : ∀ (key : ObjectKey) (object : SchemaObject), c.objects[key]? = some object →
    object.kind = .index →
      ∃ parent table, object.parent = some parent ∧ c.find? .table parent = some table ∧
        table.kind = .table ∧ Text.sameLetters table.name parent = true

variable {c : Catalog} {kind : ObjectKind} {name : Text}

/-- What is held under a key has its kind. -/
theorem kind_eq {key : ObjectKey} {object : SchemaObject} (h : c.objects[key]? = some object) :
    object.kind = key.kind :=
  congrArg ObjectKey.kind (c.keyed key object h)

theorem contains_eq_isSome (c : Catalog) (kind : ObjectKind) (name : Text) :
    c.contains kind name = (c.find? kind name).isSome :=
  Std.ExtTreeMap.contains_eq_isSome_getElem?

theorem getElem?_insert (c : Catalog) (object : SchemaObject) (key : ObjectKey) :
    (c.insert object).objects[key]? =
      if ObjectKey.of object.kind object.name = key then some object else c.objects[key]? := by
  simp only [insert, Std.ExtTreeMap.getElem?_insert, Std.LawfulEqCmp.compare_eq_iff_eq]

theorem getElem?_erase (c : Catalog) (kind : ObjectKind) (name : Text) (key : ObjectKey) :
    (c.erase kind name).objects[key]? =
      if ObjectKey.of kind name = key then none else c.objects[key]? := by
  simp only [erase, Std.ExtTreeMap.getElem?_erase, Std.LawfulEqCmp.compare_eq_iff_eq]

/-- What is found by a name has this name up to letter case, so it is enough that the tables of the
indexes are found. -/
theorem Sound.of_contains
    (hfits : ∀ (key : ObjectKey) (object : SchemaObject), c.objects[key]? = some object →
      Fits key object)
    (hindexed : ∀ (key : ObjectKey) (object : SchemaObject), c.objects[key]? = some object →
      object.kind = .index → ∃ parent, object.parent = some parent ∧
        c.contains .table parent = true) : c.Sound where
  fits := hfits
  indexed key object hobject hkind := by
    obtain ⟨parent, hparent, htable⟩ := hindexed key object hobject hkind
    rw [contains_eq_isSome, Option.isSome_iff_exists] at htable
    obtain ⟨table, htable⟩ := htable
    have htablefits := hfits _ table htable
    have hletters : Text.sameLetters table.name parent = true := by
      rw [Text.sameLetters, htablefits.name]
      exact BEq.rfl
    exact ⟨parent, table, hparent, htable, htablefits.kind, hletters⟩

theorem Sound.contains_parent (h : c.Sound) {key : ObjectKey} {object : SchemaObject}
    (hobject : c.objects[key]? = some object) (hkind : object.kind = .index) :
    ∃ parent, object.parent = some parent ∧ c.contains .table parent = true := by
  obtain ⟨parent, table, hparent, htable, _⟩ := h.indexed key object hobject hkind
  exact ⟨parent, hparent, by rw [contains_eq_isSome, htable]; rfl⟩

theorem empty_sound : empty.Sound := by
  have hnone : ∀ (key : ObjectKey) (object : SchemaObject), empty.objects[key]? ≠ some object := by
    intro key object h
    simp [empty] at h
  apply Sound.of_contains
  · intro key object h
    exact absurd h (hnone key object)
  · intro key object h
    exact absurd h (hnone key object)

/-- Adding an object removes no table. -/
theorem contains_insert (h : c.contains kind name = true) (object : SchemaObject) :
    (c.insert object).contains kind name = true := by
  rw [contains_eq_isSome] at h ⊢
  unfold find? at h ⊢
  rw [getElem?_insert]
  split
  · rfl
  · exact h

/-- **An object is added to a sound catalog**: one that has a name, with a table of the catalog to be on
if it is an index, and without a parent if it is not. -/
theorem Sound.insert (h : c.Sound) {object : SchemaObject} (hname : IsName object.name)
    (hfree : object.kind ≠ .index → object.parent = none)
    (hindexed : object.kind = .index →
      ∃ parent, object.parent = some parent ∧ c.contains .table parent = true) :
    (c.insert object).Sound := by
  apply Sound.of_contains
  · intro key object' hobject
    rw [getElem?_insert] at hobject
    split at hobject
    · rename_i hkey
      obtain rfl := Option.some.inj hobject
      subst hkey
      exact ⟨rfl, rfl, hname, hfree⟩
    · exact h.fits key object' hobject
  · intro key object' hobject hkind
    have hparent : ∃ parent, object'.parent = some parent ∧ c.contains .table parent = true := by
      rw [getElem?_insert] at hobject
      split at hobject
      · obtain rfl := Option.some.inj hobject
        exact hindexed hkind
      · exact h.contains_parent hobject hkind
    obtain ⟨parent, hparent, htable⟩ := hparent
    exact ⟨parent, hparent, contains_insert htable object⟩

theorem indexesOn_eq_nil_iff {table : Text} : c.indexesOn table = [] ↔
    ∀ (key : ObjectKey) (object : SchemaObject), c.objects[key]? = some object →
      isIndexOn table object = false := by
  rw [indexesOn, List.map_eq_nil_iff, List.filter_eq_nil_iff]
  constructor
  · intro hnone key object hobject
    have hmem : object ∈ c.toList :=
      List.mem_map.mpr
        ⟨(key, object), Std.ExtTreeMap.mem_toList_iff_getElem?_eq_some.mpr hobject, rfl⟩
    exact Bool.eq_false_iff.mpr (hnone object hmem)
  · intro hnone object hmem
    obtain ⟨⟨key, _⟩, hpair, rfl⟩ := List.mem_map.mp hmem
    have hobject := Std.ExtTreeMap.mem_toList_iff_getElem?_eq_some.mp hpair
    exact Bool.eq_false_iff.mp (hnone key _ hobject)

/-- A table without indexes is the parent of no index. -/
theorem not_sameLetters_of_indexesOn_eq_nil {table : Text} (hnone : c.indexesOn table = [])
    {key : ObjectKey} {object : SchemaObject} (hobject : c.objects[key]? = some object)
    (hkind : object.kind = .index) {parent : Text} (hparent : object.parent = some parent) :
    Text.sameLetters parent table = false := by
  have hnot := indexesOn_eq_nil_iff.mp hnone key object hobject
  simpa [isIndexOn, hkind, hparent] using hnot

/-- **An object is removed from a sound catalog**: one that is no table, or a table without indexes. -/
theorem Sound.erase (h : c.Sound) (hfree : kind = .table → c.indexesOn name = []) :
    (c.erase kind name).Sound := by
  have hkept : ∀ (key : ObjectKey) (object : SchemaObject),
      (c.erase kind name).objects[key]? = some object → c.objects[key]? = some object := by
    intro key object hobject
    rw [getElem?_erase] at hobject
    split at hobject
    · cases hobject
    · exact hobject
  apply Sound.of_contains
  · intro key object hobject
    exact h.fits key object (hkept key object hobject)
  · intro key object hobject hkind
    have hobject := hkept key object hobject
    obtain ⟨parent, hparent, htable⟩ := h.contains_parent hobject hkind
    refine ⟨parent, hparent, ?_⟩
    rw [contains_eq_isSome] at htable ⊢
    unfold find? at htable ⊢
    rw [getElem?_erase, if_neg]
    · exact htable
    · -- the keys agree just when the letters do, and then the table is in use
      intro hkey
      obtain ⟨htablekind, hname⟩ := ObjectKey.mk.inj hkey
      have hletters := not_sameLetters_of_indexesOn_eq_nil (hfree htablekind) hobject hkind hparent
      rw [Text.sameLetters, ← hname] at hletters
      simp at hletters

/-! ## Statements -/

theorem Sound.add (h : c.Sound) {on : Option Text} {c' : Catalog} (hname : IsName name)
    (hadd : c.add kind name on = .ok c') : c'.Sound := by
  unfold Catalog.add at hadd
  split at hadd
  · cases hadd
  · rename_i table
    split at hadd
    · rename_i htable
      cases hadd
      apply h.insert hname
      · intro hkind
        exact absurd rfl hkind
      · intro _
        exact ⟨table, rfl, htable⟩
    · cases hadd
  · rename_i hnone hsome
    cases hadd
    apply h.insert hname
    · intro _
      rfl
    · intro hkind
      cases on with
      | none => exact absurd rfl (hnone hkind)
      | some table => exact absurd rfl (hsome table hkind)

/-- **A change that is made keeps the integrity**, if what it creates has a name. -/
theorem Sound.apply (h : c.Sound) {change : Change} {c' : Catalog}
    (hname : ∀ kind name orReplace ifNotExists on,
      change = .create kind name orReplace ifNotExists on → IsName name)
    (happly : c.apply change = .ok c') : c'.Sound := by
  cases change with
  | create kind name orReplace ifNotExists on =>
    simp only [Catalog.apply] at happly
    split at happly
    · cases happly
      exact h
    · split at happly
      · cases happly
      · exact h.add (hname _ _ _ _ _ rfl) happly
  | drop kind name ifExists =>
    simp only [Catalog.apply] at happly
    split at happly
    · split at happly
      · cases happly
        exact h
      · cases happly
    · split at happly
      · cases happly
      · rename_i hfree
        cases happly
        apply h.erase
        intro hkind
        exact Classical.byContradiction fun hne => hfree ⟨hkind, hne⟩
  | alter kind name =>
    simp only [Catalog.apply] at happly
    split at happly
    · cases happly
      exact h
    · cases happly
  | other =>
    cases happly
    exact h

/-- **A statement that is applied keeps the integrity.** -/
theorem Sound.applyText (h : c.Sound) {statement : Text} {c' : Catalog}
    (happly : c.applyText statement = .ok c') : c'.Sound := by
  unfold Catalog.applyText at happly
  split at happly
  · cases happly
  · rename_i change hread
    cases hchange : c.apply change with
    | error fault =>
      rw [hchange] at happly
      cases happly
    | ok c₁ =>
      rw [hchange] at happly
      cases happly
      apply h.apply _ hchange
      rintro kind name orReplace ifNotExists on rfl
      exact Change.isName_of_read? hread

/-- Applies a statement. One that is refused leaves the catalog as it is. -/
def attempt (c : Catalog) (statement : Text) : Catalog :=
  match c.applyText statement with
  | .ok c' => c'
  | .error _ => c

/-- Applies statements one after the other, those that are refused in vain. -/
def attemptAll (c : Catalog) (statements : List Text) : Catalog := statements.foldl attempt c

theorem Sound.attempt (h : c.Sound) (statement : Text) : (c.attempt statement).Sound := by
  unfold Catalog.attempt
  split
  · rename_i happly
    exact h.applyText happly
  · exact h

theorem Sound.attemptAll (h : c.Sound) (statements : List Text) :
    (c.attemptAll statements).Sound := by
  induction statements generalizing c with
  | nil => exact h
  | cons statement statements ih => exact ih (h.attempt statement)

/-- **Every catalog that comes of the empty one is sound**, whatever the statements are. -/
theorem integrity (statements : List Text) : (empty.attemptAll statements).Sound :=
  empty_sound.attemptAll statements

-- an index keeps its table, in whatever letter case the two statements name it
example : (empty.attemptAll (["CREATE TABLE T", "CREATE INDEX I ON t(Id)", "drop table t"].map
    String.toList)).toList = [⟨.table, ['T'], none⟩, ⟨.index, ['I'], some ['t']⟩] := by rfl

end Catalog
end SchemaBatch
