import Mathlib.Data.List.TakeWhile
import SchemaBatch.Catalog.Change

/-!
# `Proofs.ChangeGrammar` — the statements that the service reads

What the service reads of a statement is a beginning of its tokens. Phrases such as `IF NOT EXISTS` are
taken wherever they stand, so a phrase that is left out may not be what the tokens go on with; modifiers
end at the keyword of the kind, which is none.

* `Catalog.Said` — a phrase that may be left out; `Catalog.optionalPhrase_eq_iff`.
* `Catalog.Names` — the name that a token is; `Catalog.name?_cons_eq_some_iff`.
* `Catalog.Asks` — the grammar, with one rule for each verb and the rules for what is accepted unread.
  `Catalog.Change.read?_eq_some_iff`, **the change of a statement is the one that the grammar gives it.**
* `Catalog.Asks.verb?_eq_iff` — what is written is told by the verb.
-/

namespace SchemaBatch.Catalog

/-! ## Keywords and phrases -/

/-- The words are those of a phrase, in any letter case. -/
def IsPhrase (phrase : List String) (words : List Text) : Prop :=
  words.map Text.upper = phrase.map String.toList

/-- Where a phrase may be left out: it is said before the rest, or the tokens do not begin with it. -/
inductive Said (phrase : List String) : Bool → List Text → List Text → Prop where
  | said {words rest : List Text} : IsPhrase phrase words → Said phrase true (words ++ rest) rest
  | unsaid {tokens : List Text} : (∀ words rest, tokens = words ++ rest → ¬ IsPhrase phrase words) →
      Said phrase false tokens tokens

theorem isKeyword_iff {keyword : String} {token : Text} :
    isKeyword keyword token = true ↔ Text.upper token = keyword.toList := beq_iff_eq

theorem afterPhrase?_eq_some_iff {phrase : List String} {tokens rest : List Text} :
    afterPhrase? phrase tokens = some rest ↔ ∃ words, tokens = words ++ rest ∧ IsPhrase phrase words := by
  induction phrase generalizing tokens with
  | nil =>
    constructor
    · intro h
      exact ⟨[], Option.some.inj h, rfl⟩
    · rintro ⟨words, rfl, hwords⟩
      rw [List.map_eq_nil_iff.mp hwords]
      rfl
  | cons keyword phrase ih =>
    constructor
    · intro h
      cases tokens with
      | nil => cases h
      | cons token tokens =>
        unfold afterPhrase? at h
        split at h
        · rename_i hkeyword
          obtain ⟨words, rfl, hwords⟩ := ih.mp h
          exact ⟨token :: words, rfl, congrArg₂ List.cons (isKeyword_iff.mp hkeyword) hwords⟩
        · cases h
    · rintro ⟨words, rfl, hwords⟩
      cases words with
      | nil => cases hwords
      | cons word words =>
        obtain ⟨hkeyword, hwords⟩ := List.cons.inj hwords
        show (if isKeyword keyword word then afterPhrase? phrase (words ++ rest) else none) = some rest
        rw [if_pos (isKeyword_iff.mpr hkeyword)]
        exact ih.mpr ⟨words, rfl, hwords⟩

theorem optionalPhrase_eq_iff {phrase : List String} {tokens rest : List Text} {said : Bool} :
    optionalPhrase phrase tokens = (said, rest) ↔ Said phrase said tokens rest := by
  unfold optionalPhrase
  constructor
  · intro h
    split at h
    · rename_i hafter
      obtain ⟨words, rfl, hwords⟩ := afterPhrase?_eq_some_iff.mp hafter
      cases h
      exact .said hwords
    · rename_i hafter
      cases h
      refine .unsaid fun words rest htokens hwords => ?_
      have hsome := afterPhrase?_eq_some_iff.mpr ⟨words, htokens, hwords⟩
      rw [hafter] at hsome
      cases hsome
  · rintro (hwords | hnot)
    · rw [afterPhrase?_eq_some_iff.mpr ⟨_, rfl, hwords⟩]
    · cases hafter : afterPhrase? phrase tokens with
      | none => rfl
      | some after =>
        obtain ⟨words, htokens, hwords⟩ := afterPhrase?_eq_some_iff.mp hafter
        exact absurd hwords (hnot words after htokens)

theorem said_optionalPhrase (phrase : List String) (tokens : List Text) :
    Said phrase (optionalPhrase phrase tokens).1 tokens (optionalPhrase phrase tokens).2 :=
  optionalPhrase_eq_iff.mp rfl

theorem Said.suffix {phrase : List String} {said : Bool} {tokens rest : List Text}
    (h : Said phrase said tokens rest) : rest <:+ tokens := by
  cases h with
  | said => exact List.suffix_append _ _
  | unsaid => exact List.suffix_refl _

/-! ## Kinds and names -/

/-- A token is a name, which quotes may enclose. -/
structure Names (token name : Text) : Prop where
  unquoted : unquoted token = name
  ne_nil : name ≠ []
  ne_parenthesis : name ≠ ['(']

theorem name?_cons_eq_some_iff {token : Text} {rest : List Text} {name : Text} :
    name? (token :: rest) = some name ↔ Names token name := by
  constructor
  · intro h
    simp only [name?] at h
    split at h
    · cases h
    · rename_i hread
      obtain ⟨hne, hparenthesis⟩ : unquoted token ≠ [] ∧ unquoted token ≠ ['('] := by simpa using hread
      obtain rfl := Option.some.inj h
      exact ⟨rfl, hne, hparenthesis⟩
  · rintro ⟨rfl, hne, hparenthesis⟩
    simp [name?, hne, hparenthesis]

theorem exists_of_name? {tokens : List Text} {name : Text} (h : name? tokens = some name) :
    ∃ token rest, tokens = token :: rest ∧ Names token name := by
  cases tokens with
  | nil => cases h
  | cons token rest => exact ⟨token, rest, rfl, name?_cons_eq_some_iff.mp h⟩

theorem ofToken?_eq_some_iff {word : Text} {kind : ObjectKind} :
    ObjectKind.ofToken? word = some kind ↔ isKeyword kind.keyword word = true := by
  constructor
  · intro h
    exact List.find?_some (p := fun kind : ObjectKind => isKeyword kind.keyword word) h
  · intro h
    unfold ObjectKind.ofToken?
    rw [isKeyword_iff.mp h]
    cases kind <;> rfl

theorem exists_of_kind? {tokens : List Text} {kind : ObjectKind} (h : kind? tokens = some kind) :
    ∃ word rest, tokens = word :: rest ∧ isKeyword kind.keyword word = true := by
  cases tokens with
  | nil => cases h
  | cons word rest => exact ⟨word, rest, rfl, ofToken?_eq_some_iff.mp h⟩

/-- The keyword of a kind is no modifier. -/
theorem not_isModifier_of_kind {word : Text} {kind : ObjectKind}
    (h : isKeyword kind.keyword word = true) : Change.isModifier word = false := by
  unfold Change.isModifier isKeyword
  rw [isKeyword_iff.mp h]
  cases kind <;> rfl

/-! ## Statements -/

open Change

/-- The verbs that the service knows. -/
def verbs : List Text := ["CREATE", "DROP", "ALTER"].map String.toList

/-- **The grammar of statements**: the tokens, and the change that they ask for. -/
inductive Asks : List Text → Change → Prop where
  | create {verb word token name : Text} {kind : ObjectKind} {orReplace ifNotExists : Bool}
      {afterVerb modifiers afterKind rest : List Text} :
      isKeyword "CREATE" verb = true →
      Said ["OR", "REPLACE"] orReplace afterVerb (modifiers ++ word :: afterKind) →
      (∀ modifier ∈ modifiers, isModifier modifier = true) →
      isKeyword kind.keyword word = true →
      Said ["IF", "NOT", "EXISTS"] ifNotExists afterKind (token :: rest) →
      Names token name →
      Asks (verb :: afterVerb) (.create kind name orReplace ifNotExists (onTable? (token :: rest)))
  | drop {verb word token name : Text} {kind : ObjectKind} {ifExists : Bool}
      {afterKind rest : List Text} :
      isKeyword "DROP" verb = true →
      isKeyword kind.keyword word = true →
      Said ["IF", "EXISTS"] ifExists afterKind (token :: rest) →
      Names token name →
      Asks (verb :: word :: afterKind) (.drop kind name ifExists)
  | alter {verb word token name : Text} {kind : ObjectKind} {rest : List Text} :
      isKeyword "ALTER" verb = true →
      isKeyword kind.keyword word = true →
      Names token name →
      Asks (verb :: word :: token :: rest) (.alter kind name)
  /-- What is altered is of none of the kinds. -/
  | elsewhere {verb : Text} {rest : List Text} :
      isKeyword "ALTER" verb = true →
      (∀ word ∈ rest.head?, ∀ kind : ObjectKind, isKeyword kind.keyword word = false) →
      Asks (verb :: rest) .other
  /-- The verb is none of the three. -/
  | unread {verb : Text} {rest : List Text} :
      Text.upper verb ∉ verbs →
      Asks (verb :: rest) .other

/-- What is to be created is named by one of the tokens. -/
theorem Asks.exists_token {tokens : List Text} {kind : ObjectKind} {name : Text}
    {orReplace ifNotExists : Bool} {on : Option Text}
    (h : Asks tokens (.create kind name orReplace ifNotExists on)) :
    ∃ token ∈ tokens, Names token name := by
  cases h with
  | @create verb word token _ _ _ _ afterVerb modifiers afterKind rest _ hreplace _ _ hguard hnames =>
    have hafterKind : token ∈ afterKind := hguard.suffix.mem List.mem_cons_self
    have hafterReplace : token ∈ modifiers ++ word :: afterKind :=
      List.mem_append_right modifiers (List.mem_cons_of_mem word hafterKind)
    exact ⟨token, List.mem_cons_of_mem verb (hreplace.suffix.mem hafterReplace), hnames⟩

/-! ### What is read is in the grammar -/

theorem asks_of_readCreate? {verb : Text} {tokens : List Text} {change : Change}
    (hverb : isKeyword "CREATE" verb = true) (h : readCreate? tokens = some change) :
    Asks (verb :: tokens) change := by
  simp only [readCreate?, Option.bind_eq_bind, Option.bind_eq_some_iff] at h
  obtain ⟨kind, hkind, name, hname, h⟩ := h
  cases h
  have hreplace := said_optionalPhrase ["OR", "REPLACE"] tokens
  generalize (optionalPhrase ["OR", "REPLACE"] tokens).1 = orReplace at hreplace ⊢
  generalize (optionalPhrase ["OR", "REPLACE"] tokens).2 = afterReplace at hkind hname hreplace ⊢
  obtain ⟨word, afterKind, hword, hkeyword⟩ := exists_of_kind? hkind
  rw [hword, List.drop_one, List.tail_cons] at hname ⊢
  have hguard := said_optionalPhrase ["IF", "NOT", "EXISTS"] afterKind
  obtain ⟨token, rest, htoken, hnames⟩ := exists_of_name? hname
  rw [htoken] at hguard ⊢
  have hmodifiers : afterReplace.takeWhile isModifier ++ word :: afterKind = afterReplace := by
    rw [← hword, List.takeWhile_append_dropWhile]
  rw [← hmodifiers] at hreplace
  exact .create hverb hreplace (fun _ => List.mem_takeWhile_imp) hkeyword hguard hnames

theorem asks_of_readDrop? {verb : Text} {tokens : List Text} {change : Change}
    (hverb : isKeyword "DROP" verb = true) (h : readDrop? tokens = some change) :
    Asks (verb :: tokens) change := by
  simp only [readDrop?, Option.bind_eq_bind, Option.bind_eq_some_iff] at h
  obtain ⟨kind, hkind, name, hname, h⟩ := h
  cases h
  obtain ⟨word, afterKind, rfl, hkeyword⟩ := exists_of_kind? hkind
  rw [List.drop_one, List.tail_cons] at hname ⊢
  have hguard := said_optionalPhrase ["IF", "EXISTS"] afterKind
  obtain ⟨token, rest, htoken, hnames⟩ := exists_of_name? hname
  rw [htoken] at hguard
  exact .drop hverb hkeyword hguard hnames

theorem asks_of_readAlter? {verb : Text} {tokens : List Text} {change : Change}
    (hverb : isKeyword "ALTER" verb = true) (h : readAlter? tokens = some change) :
    Asks (verb :: tokens) change := by
  unfold readAlter? at h
  split at h
  · rename_i hkind
    cases h
    refine .elsewhere hverb ?_
    intro word hword kind
    refine Bool.eq_false_iff.mpr fun hkeyword => ?_
    cases tokens with
    | nil => cases hword
    | cons first rest =>
      obtain rfl := Option.some.inj hword
      cases hkind.symm.trans (ofToken?_eq_some_iff.mpr hkeyword)
  · rename_i kind hkind
    obtain ⟨name, hname, rfl⟩ := Option.map_eq_some_iff.mp h
    obtain ⟨word, afterKind, rfl, hkeyword⟩ := exists_of_kind? hkind
    obtain ⟨token, rest, rfl, hnames⟩ := exists_of_name? hname
    exact .alter hverb hkeyword hnames

/-! ### What is in the grammar is read -/

theorem kind?_cons {word : Text} {rest : List Text} {kind : ObjectKind}
    (h : isKeyword kind.keyword word = true) : kind? (word :: rest) = some kind :=
  ofToken?_eq_some_iff.mpr h

/-- A word is no two keywords. -/
theorem isKeyword_unique {keyword other : String} {word : Text} (h : isKeyword keyword word = true)
    (hother : isKeyword other word = true) : keyword = other :=
  String.toList_injective ((isKeyword_iff.mp h).symm.trans (isKeyword_iff.mp hother))

theorem isKeyword_eq_false {keyword : String} {word : Text} (h : isKeyword keyword word = true)
    (other : String) (hne : keyword ≠ other) : isKeyword other word = false :=
  Bool.eq_false_iff.mpr fun hother => hne (isKeyword_unique h hother)

theorem isKeyword_eq_false_of_not_mem {verb : Text} (h : Text.upper verb ∉ verbs) (keyword : String)
    (hkeyword : keyword.toList ∈ verbs) : isKeyword keyword verb = false := by
  refine beq_eq_false_iff_ne.mpr fun heq => h ?_
  rw [heq]
  exact hkeyword

theorem ofTokens?_of_asks {tokens : List Text} {change : Change} (h : Asks tokens change) :
    ofTokens? tokens = some change := by
  cases h with
  | @create verb word token name kind orReplace ifNotExists afterVerb modifiers afterKind rest
      hverb hreplace hmodifiers hkeyword hguard hnames =>
    have hkind : (modifiers ++ word :: afterKind).dropWhile isModifier = word :: afterKind := by
      rw [List.dropWhile_append_of_pos hmodifiers,
        List.dropWhile_cons_of_neg (by simp [not_isModifier_of_kind hkeyword])]
    rw [ofTokens?, if_pos hverb]
    simp [readCreate?, optionalPhrase_eq_iff.mpr hreplace, hkind, kind?_cons hkeyword,
      optionalPhrase_eq_iff.mpr hguard, name?_cons_eq_some_iff.mpr hnames]
  | drop hverb hkeyword hguard hnames =>
    have hcreate := isKeyword_eq_false hverb "CREATE" (by decide)
    rw [ofTokens?, hcreate, if_neg Bool.false_ne_true, if_pos hverb]
    simp [readDrop?, kind?_cons hkeyword, optionalPhrase_eq_iff.mpr hguard,
      name?_cons_eq_some_iff.mpr hnames]
  | alter hverb hkeyword hnames =>
    have hcreate := isKeyword_eq_false hverb "CREATE" (by decide)
    have hdrop := isKeyword_eq_false hverb "DROP" (by decide)
    rw [ofTokens?, hcreate, hdrop, if_neg Bool.false_ne_true, if_neg Bool.false_ne_true, if_pos hverb]
    simp [readAlter?, kind?_cons hkeyword, name?_cons_eq_some_iff.mpr hnames]
  | @elsewhere verb rest hverb hkind =>
    have hcreate := isKeyword_eq_false hverb "CREATE" (by decide)
    have hdrop := isKeyword_eq_false hverb "DROP" (by decide)
    have hnone : kind? rest = none := by
      refine Option.eq_none_iff_forall_ne_some.mpr fun kind hsome => ?_
      obtain ⟨word, after, rfl, hkeyword⟩ := exists_of_kind? hsome
      cases hkeyword.symm.trans (hkind word rfl kind)
    rw [ofTokens?, hcreate, hdrop, if_neg Bool.false_ne_true, if_neg Bool.false_ne_true, if_pos hverb,
      readAlter?, hnone]
  | unread hverb =>
    have hno := isKeyword_eq_false_of_not_mem hverb
    simp [ofTokens?, hno "CREATE" (by decide), hno "DROP" (by decide), hno "ALTER" (by decide)]

/-- **The change of a statement is the one that the grammar gives it.** A statement without one cannot be
read. -/
theorem Change.read?_eq_some_iff {statement : Text} {change : Change} :
    read? statement = some change ↔ Asks (tokens statement) change := by
  refine ⟨fun h => ?_, ofTokens?_of_asks⟩
  unfold read? at h
  cases htokens : tokens statement with
  | nil => rw [htokens] at h; cases h
  | cons verb rest =>
    rw [htokens, ofTokens?] at h
    by_cases hcreate : isKeyword "CREATE" verb = true
    · exact asks_of_readCreate? hcreate (by rwa [if_pos hcreate] at h)
    · rw [if_neg hcreate] at h
      by_cases hdrop : isKeyword "DROP" verb = true
      · exact asks_of_readDrop? hdrop (by rwa [if_pos hdrop] at h)
      · rw [if_neg hdrop] at h
        by_cases halter : isKeyword "ALTER" verb = true
        · exact asks_of_readAlter? halter (by rwa [if_pos halter] at h)
        · rw [if_neg halter] at h
          obtain rfl := Option.some.inj h
          refine .unread fun hverb => ?_
          simp only [verbs, List.map_cons, List.map_nil, List.mem_cons, List.not_mem_nil, or_false] at hverb
          rcases hverb with hverb | hverb | hverb
          · exact hcreate (isKeyword_iff.mpr hverb)
          · exact hdrop (isKeyword_iff.mpr hverb)
          · exact halter (isKeyword_iff.mpr hverb)

/-! ### Verbs -/

/-- The verb of a change that writes. -/
def Change.verb? : Change → Option String
  | .create _ _ _ _ _ => some "CREATE"
  | .drop _ _ _ => some "DROP"
  | .alter _ _ | .other => none

/-- A statement writes by its verb. -/
theorem Asks.verb?_eq_iff {ts : List Text} {change : Change} (h : Asks ts change) {keyword : String}
    (hkeyword : keyword ∈ ["CREATE", "DROP"]) :
    ts.head?.map Text.upper = some keyword.toList ↔ change.verb? = some keyword := by
  have hhead : ∀ {verb : Text} {rest : List Text},
      (verb :: rest).head?.map Text.upper = some keyword.toList ↔ isKeyword keyword verb = true :=
    Option.some_inj.trans isKeyword_iff.symm
  cases h with
  | create hverb | drop hverb =>
    rw [hhead]
    constructor
    · intro h
      exact congrArg some (isKeyword_unique hverb h)
    · intro h
      rwa [← Option.some.inj h]
  | alter hverb | elsewhere hverb =>
    rw [hhead]
    refine ⟨fun h => ?_, nofun⟩
    rw [← isKeyword_unique hverb h] at hkeyword
    exact absurd hkeyword (by decide)
  | unread hverb =>
    rw [hhead]
    refine ⟨fun h => absurd ?_ hverb, nofun⟩
    rw [isKeyword_iff.mp h]
    exact List.mem_map_of_mem (List.mem_append_left ["ALTER"] hkeyword)

end SchemaBatch.Catalog
