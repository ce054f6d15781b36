import SchemaBatch.Proofs.SchemaSemantics
import SchemaBatch.Proofs.TextSlices

/-!
# `Proofs.WrittenDefinitions` — statements as they are written, and what comes of them

A statement may be written in any letter case and with any blanks, its names bare or in quotes, and may go on
after its last name with anything that does not belong to the name. The service tells the names apart from the
options around them by position, which shifts with every option.

* `Word.Spells` — a keyword or a name as it is written; `Definition.sentence` — the words of a statement.
* `Definition.Written` — **a text is a statement, written out.**
* `Begins` — words that tokens begin with; `exists_begins`, **the tokens of a text that is written out begin
  with its words.**
* `Definition.asks_of_written` — the grammar gives the text the change that the statement is.
* `Catalog.written_brings_iff` — **applying the text comes to what the statement means**, for every catalog.
-/

namespace SchemaBatch

open Catalog (isBoundary isNameQuote isKeyword IsPhrase Said Names Asks Change)

/-! ## The written form -/

/-- What a statement consists of. -/
inductive Word where
  | keyword (text : String)
  | name (name : Identifier)

/-- How a word is written: a keyword in any letter case, a name bare or between two quotes of one sort. -/
inductive Word.Spells : Word → Text → Prop where
  | keyword {text : String} {w : Text} : Text.upper w = text.toList → Spells (.keyword text) w
  | bare {name : Identifier} : Spells (.name name) name.text
  | quoted {name : Identifier} {quote : Char} : isNameQuote quote = true →
      Spells (.name name) (quote :: name.text ++ [quote])

/-- The words that may stand before the kind of what is created. -/
inductive Modifier where
  | unique
  | nullFiltered

def Modifier.keyword : Modifier → String
  | .unique => "UNIQUE"
  | .nullFiltered => "NULL_FILTERED"

/-- A phrase, if it is said. -/
def optionalWords (said : Bool) (phrase : List String) : List Word := if said then phrase.map .keyword else []

/-- What is said behind the name of what is created. -/
def Novelty.clause : Novelty → List Word
  | .object _ _ => []
  | .index table => [.keyword "ON", .name table]

/-- The words of a statement. -/
def Definition.sentence (modifiers : List Modifier) : Definition → List Word
  | .create novelty name orReplace ifNotExists =>
    .keyword "CREATE" :: (optionalWords orReplace ["OR", "REPLACE"] ++
      (modifiers.map fun m => .keyword m.keyword) ++ .keyword novelty.kind.keyword ::
      (optionalWords ifNotExists ["IF", "NOT", "EXISTS"] ++ .name name :: novelty.clause))
  | .drop kind name ifExists =>
    .keyword "DROP" :: .keyword kind.keyword :: (optionalWords ifExists ["IF", "EXISTS"] ++ [.name name])
  | .alter kind name => [.keyword "ALTER", .keyword kind.keyword, .name name]

/-- Words are written out with blanks between each two, and after the last one anything that does not belong
to it. -/
inductive WrittenOut : List Word → Text → Prop where
  | last {word : Word} {w tail : Text} : word.Spells w →
      (∀ c ∈ tail.head?, isBlank c = true ∨ c = '(') → WrittenOut [word] (w ++ tail)
  | more {word : Word} {words : List Word} {w gap rest : Text} : word.Spells w →
      gap ≠ [] → gap.AllBlank → WrittenOut words rest → WrittenOut (word :: words) (w ++ gap ++ rest)

/-- **A text is a statement, written out**: blanks, and then its words. -/
def Definition.Written (d : Definition) (text : Text) : Prop :=
  ∃ lead modifiers body, lead.AllBlank ∧ text = lead ++ body ∧ WrittenOut (d.sentence modifiers) body

/-! ## Tokens -/

/-- Words that a list of tokens begins with, and the tokens after them. -/
inductive Begins : List Word → List Text → List Text → Prop where
  | nil {rest : List Text} : Begins [] rest rest
  | cons {word : Word} {words : List Word} {token : Text} {tokens rest : List Text} : word.Spells token →
      Begins words tokens rest → Begins (word :: words) (token :: tokens) rest

theorem begins_append_iff {words words' : List Word} {tokens rest : List Text} :
    Begins (words ++ words') tokens rest ↔ ∃ mid, Begins words tokens mid ∧ Begins words' mid rest := by
  induction words generalizing tokens with
  | nil =>
    refine ⟨fun h => ⟨tokens, .nil, h⟩, ?_⟩
    rintro ⟨_, ⟨⟩, h⟩
    exact h
  | cons word words ih =>
    constructor
    · intro h
      cases h with
      | cons hword h =>
        obtain ⟨mid, hwords, hrest⟩ := ih.mp h
        exact ⟨mid, .cons hword hwords, hrest⟩
    · rintro ⟨mid, hwords, hrest⟩
      cases hwords with
      | cons hword hwords => exact .cons hword (ih.mpr ⟨mid, hwords, hrest⟩)

/-- The keywords of statements. -/
def keywords : List String :=
  ["CREATE", "OR", "REPLACE", "UNIQUE", "NULL_FILTERED", "TABLE", "INDEX", "VIEW", "ROLE", "IF", "NOT",
    "EXISTS", "ON", "DROP", "ALTER"]

/-- A word that is no keyword of statements is a name. -/
def Word.Known : Word → Prop
  | .keyword text => text ∈ keywords
  | .name _ => True

theorem isBoundary_of_toUpper {c : Char} (h : isBoundary c.toUpper = false) : isBoundary c = false := by
  by_cases hlower : c.isLower = true
  · exact isBoundary_of_isAlpha (Bool.or_eq_true_iff.mpr (.inr hlower))
  · rwa [toUpper_of_not_isLower hlower] at h

theorem isBoundary_of_isNameQuote {c : Char} (h : isNameQuote c = true) : isBoundary c = false := by
  rcases Bool.or_eq_true_iff.mp h with h | h <;> rw [eq_of_beq h] <;> rfl

theorem isNameCharacter_of_isBoundary {c : Char} (h : isBoundary c = true) : isNameCharacter c = false := by
  rcases Bool.or_eq_true_iff.mp h with h | h
  · simp [isNameCharacter, h]
  · rcases Catalog.eq_of_isParenthesis h with rfl | rfl <;> rfl

theorem Identifier.isBoundary_eq_false (name : Identifier) : ∀ c ∈ name.text, isBoundary c = false := by
  intro c hc
  refine Bool.eq_false_iff.mpr fun hboundary => ?_
  exact name.not_mem (isNameCharacter_of_isBoundary hboundary) hc

theorem Identifier.isNameQuote_eq_false (name : Identifier) :
    ∀ c ∈ name.text, isNameQuote c = false := by
  intro c hc
  refine Bool.eq_false_iff.mpr fun hquote => ?_
  exact name.not_mem (by simp [isNameCharacter, hquote]) hc

/-- A word is written as one token. -/
theorem Word.Spells.isToken {word : Word} {w : Text} (h : word.Spells w) (hknown : word.Known) :
    w ≠ [] ∧ ∀ c ∈ w, isBoundary c = false := by
  cases h with
  | @keyword text w hupper =>
    have hkeywords : keywords.all (fun text => !text.toList.isEmpty &&
        text.toList.all fun c => !isBoundary c) = true := by rfl
    obtain ⟨hne, hclean⟩ := Bool.and_eq_true_iff.mp (List.all_eq_true.mp hkeywords text hknown)
    rw [← hupper] at hne hclean
    refine ⟨?_, fun c hc => isBoundary_of_toUpper ?_⟩
    · rintro rfl
      cases hne
    · simpa using List.all_eq_true.mp hclean c.toUpper (List.mem_map_of_mem hc)
  | @bare name => exact ⟨name.ne_nil, name.isBoundary_eq_false⟩
  | @quoted name quote hquote =>
    refine ⟨List.cons_ne_nil _ _, ?_⟩
    intro c hc
    have hquoteClean := isBoundary_of_isNameQuote hquote
    rcases List.mem_cons.mp hc with rfl | hc
    · exact hquoteClean
    · rcases List.mem_append.mp hc with hc | hc
      · exact name.isBoundary_eq_false c hc
      · rwa [List.mem_singleton.mp hc]

theorem tokens_append_of_allBlank {lead : Text} (h : lead.AllBlank) (s : Text) :
    Catalog.tokens (lead ++ s) = Catalog.tokens s := by
  induction lead with
  | nil => rfl
  | cons c lead ih =>
    have hc : isBlank c = true := h c List.mem_cons_self
    rw [List.cons_append, Catalog.tokens_cons_blank hc]
    exact ih fun d hd => h d (List.mem_cons_of_mem c hd)

/-- **The tokens of a text that is written out begin with its words.** -/
theorem exists_begins {words : List Word} {body : Text} (h : WrittenOut words body)
    (hknown : ∀ word ∈ words, word.Known) : ∃ rest, Begins words (Catalog.tokens body) rest := by
  induction h with
  | @last word w tail hword htail =>
    obtain ⟨hne, hclean⟩ := hword.isToken (hknown word List.mem_cons_self)
    have hboundary : ∀ c ∈ tail.head?, isBoundary c = true := by
      intro c hc
      rcases htail c hc with hblank | rfl
      · exact Bool.or_eq_true_iff.mpr (.inl hblank)
      · rfl
    rw [Catalog.tokens_append hne hclean hboundary]
    exact ⟨Catalog.tokens tail, .cons hword .nil⟩
  | @more word words w gap rest hword hgap hblank _ ih =>
    obtain ⟨hne, hclean⟩ := hword.isToken (hknown word List.mem_cons_self)
    have hboundary : ∀ c ∈ (gap ++ rest).head?, isBoundary c = true := by
      intro c hc
      obtain ⟨d, gap, rfl⟩ := List.exists_cons_of_ne_nil hgap
      obtain rfl := Option.some.inj hc
      exact Bool.or_eq_true_iff.mpr (.inl (hblank d List.mem_cons_self))
    rw [List.append_assoc, Catalog.tokens_append hne hclean hboundary, tokens_append_of_allBlank hblank]
    obtain ⟨after, hafter⟩ := ih fun word' hmem => hknown word' (List.mem_cons_of_mem word hmem)
    exact ⟨after, .cons hword hafter⟩

theorem known_optionalWords {said : Bool} {phrase : List String} (hphrase : ∀ text ∈ phrase, text ∈ keywords) :
    ∀ word ∈ optionalWords said phrase, word.Known := by
  intro word hword
  unfold optionalWords at hword
  split at hword
  · obtain ⟨text, hmem, rfl⟩ := List.mem_map.mp hword
    exact hphrase text hmem
  · cases hword

theorem Definition.known_of_mem_sentence {d : Definition} {modifiers : List Modifier} :
    ∀ word ∈ d.sentence modifiers, word.Known := by
  have hkeyword : ∀ {text : String}, text ∈ keywords → (Word.keyword text).Known := id
  have hname : ∀ name : Identifier, (Word.name name).Known := fun _ => trivial
  have hkind : ∀ kind : ObjectKind, (Word.keyword kind.keyword).Known := by
    intro kind
    cases kind <;> exact hkeyword (by decide)
  cases d with
  | create novelty name orReplace ifNotExists =>
    have hmodifiers : ∀ word ∈ modifiers.map fun m => Word.keyword m.keyword, word.Known := by
      intro word hword
      obtain ⟨modifier, _, rfl⟩ := List.mem_map.mp hword
      cases modifier <;> exact hkeyword (by decide)
    have hclause : ∀ word ∈ novelty.clause, word.Known := by
      cases novelty with
      | object => nofun
      | index table =>
        simp only [Novelty.clause, List.forall_mem_cons]
        exact ⟨hkeyword (by decide), hname table, nofun⟩
    simp only [sentence, List.forall_mem_cons, List.forall_mem_append]
    exact ⟨hkeyword (by decide), ⟨known_optionalWords (by decide), hmodifiers⟩, hkind _,
      known_optionalWords (by decide), hname name, hclause⟩
  | drop kind name ifExists =>
    simp only [sentence, List.forall_mem_cons, List.forall_mem_append]
    exact ⟨hkeyword (by decide), hkind kind, known_optionalWords (by decide), hname name, nofun⟩
  | alter kind name =>
    simp only [sentence, List.forall_mem_cons]
    exact ⟨hkeyword (by decide), hkind kind, hname name, nofun⟩

/-! ## Reading -/

theorem unquoted_enclosed {before w after : Text} (hbefore : ∀ c ∈ before, isNameQuote c = true)
    (hafter : ∀ c ∈ after, isNameQuote c = true) (hne : w ≠ []) (hw : ∀ c ∈ w, isNameQuote c = false) :
    Catalog.unquoted (before ++ w ++ after) = w := by
  have hkept : ∀ {v : Text}, v ≠ [] → (∀ c ∈ v, isNameQuote c = false) → ∀ rest : Text,
      (v ++ rest).dropWhile isNameQuote = v ++ rest := by
    intro v hne hv rest
    obtain ⟨c, v, rfl⟩ := List.exists_cons_of_ne_nil hne
    exact List.dropWhile_cons_of_neg (by simp [hv c List.mem_cons_self])
  have hback : ∀ c ∈ after.reverse, isNameQuote c = true := fun c hc => hafter c (List.mem_reverse.mp hc)
  have hwback : ∀ c ∈ w.reverse, isNameQuote c = false := fun c hc => hw c (List.mem_reverse.mp hc)
  have hreverse := hkept (List.reverse_ne_nil_iff.mpr hne) hwback []
  rw [List.append_nil] at hreverse
  rw [Catalog.unquoted, List.append_assoc, List.dropWhile_append_of_pos hbefore, hkept hne hw,
    List.reverse_append, List.dropWhile_append_of_pos hback, hreverse, List.reverse_reverse]

/-- A name is read as it is, and taken for no `IF` and no `ON`. -/
theorem Word.Spells.names {name : Identifier} {token : Text} (h : (Word.name name).Spells token) :
    Names token name.text ∧ isKeyword "IF" token = false ∧ isKeyword "ON" token = false := by
  have hparenthesis : name.text ≠ ['('] := by
    intro htext
    have hnot : '(' ∉ name.text := name.not_mem rfl
    rw [htext] at hnot
    exact hnot List.mem_cons_self
  cases h with
  | bare =>
    have hread : Catalog.unquoted ([] ++ name.text ++ []) = name.text :=
      unquoted_enclosed nofun nofun name.ne_nil name.isNameQuote_eq_false
    rw [List.nil_append, List.append_nil] at hread
    exact ⟨⟨hread, name.ne_nil, hparenthesis⟩, beq_eq_false_iff_ne.mpr name.ne_if,
      beq_eq_false_iff_ne.mpr name.ne_on⟩
  | @quoted _ quote hquote =>
    have hquotes : ∀ c ∈ [quote], isNameQuote c = true := by
      intro c hc
      rwa [List.mem_singleton.mp hc]
    have hread := unquoted_enclosed hquotes hquotes name.ne_nil name.isNameQuote_eq_false
    refine ⟨⟨hread, name.ne_nil, hparenthesis⟩, ?_⟩
    -- a quote is no letter
    rcases Bool.or_eq_true_iff.mp hquote with hquote | hquote <;> rw [eq_of_beq hquote] <;> exact ⟨rfl, rfl⟩

theorem isKeyword_of_spells {keyword : String} {token : Text} (h : (Word.keyword keyword).Spells token) :
    isKeyword keyword token = true := by
  cases h with
  | keyword hupper => exact Catalog.isKeyword_iff.mpr hupper

theorem exists_isPhrase_of_begins {phrase : List String} {tokens mid : List Text}
    (h : Begins (phrase.map .keyword) tokens mid) : ∃ words, tokens = words ++ mid ∧ IsPhrase phrase words := by
  induction phrase generalizing tokens with
  | nil =>
    cases h
    exact ⟨[], rfl, rfl⟩
  | cons keyword phrase ih =>
    cases h with
    | @cons _ _ token tokens _ hword h =>
      obtain ⟨words, rfl, hwords⟩ := ih h
      have hkeyword := Catalog.isKeyword_iff.mp (isKeyword_of_spells hword)
      exact ⟨token :: words, rfl, congrArg₂ List.cons hkeyword hwords⟩

/-- A phrase that is left out is not read if what comes next does not begin like it. -/
theorem said_of_begins {said : Bool} {keyword : String} {phrase : List String} {tokens mid : List Text}
    (h : Begins (optionalWords said (keyword :: phrase)) tokens mid)
    (hnot : ∀ token ∈ mid.head?, isKeyword keyword token = false) :
    Said (keyword :: phrase) said tokens mid := by
  cases said with
  | true =>
    obtain ⟨words, rfl, hwords⟩ := exists_isPhrase_of_begins h
    exact .said hwords
  | false =>
    cases h
    refine .unsaid ?_
    rintro words rest rfl hwords
    cases words with
    | nil => cases hwords
    | cons word words =>
      have hkeyword := Catalog.isKeyword_iff.mpr (List.cons.inj hwords).1
      cases hkeyword.symm.trans (hnot word rfl)

theorem Modifier.isModifier_of_spells {modifier : Modifier} {token : Text}
    (h : (Word.keyword modifier.keyword).Spells token) : Change.isModifier token = true := by
  have hkeyword := isKeyword_of_spells h
  cases modifier with
  | unique => exact Bool.or_eq_true_iff.mpr (.inl hkeyword)
  | nullFiltered => exact Bool.or_eq_true_iff.mpr (.inr hkeyword)

/-- The modifiers are read as such, and the first of what is after `CREATE` or after the phrase is no `OR`. -/
theorem modifiers_of_begins {modifiers : List Modifier} {kind : ObjectKind} {word : Text}
    {tokens rest : List Text}
    (h : Begins (modifiers.map fun m => .keyword m.keyword) tokens (word :: rest))
    (hkind : isKeyword kind.keyword word = true) :
    ∃ ms, tokens = ms ++ word :: rest ∧ (∀ m ∈ ms, Change.isModifier m = true) ∧
      ∀ token ∈ tokens.head?, isKeyword "OR" token = false := by
  induction modifiers generalizing tokens with
  | nil =>
    cases h
    refine ⟨[], rfl, nofun, ?_⟩
    rintro _ ⟨⟩
    exact Catalog.isKeyword_eq_false hkind "OR" (by cases kind <;> decide)
  | cons modifier modifiers ih =>
    cases h with
    | @cons _ _ token tokens _ hword h =>
      obtain ⟨ms, rfl, hms, _⟩ := ih h
      refine ⟨token :: ms, rfl, List.forall_mem_cons.mpr ⟨Modifier.isModifier_of_spells hword, hms⟩, ?_⟩
      rintro _ ⟨⟩
      exact Catalog.isKeyword_eq_false (isKeyword_of_spells hword) "OR" (by cases modifier <;> decide)

/-- The table of an index is read behind the first `ON`, which is the one after the name. -/
theorem onTable?_of_begins {novelty : Novelty} {token : Text} {tokens rest : List Text}
    (htoken : isKeyword "ON" token = false)
    (h : Begins novelty.clause tokens rest) :
    ∀ table ∈ novelty.table?, Change.onTable? (token :: tokens) = some table.text := by
  cases novelty with
  | object => nofun
  | index table =>
    rintro _ ⟨⟩
    cases h with
    | cons hon h =>
      cases h with
      | cons hname _ =>
        obtain ⟨hnames, _, _⟩ := hname.names
        simp [Change.onTable?, htoken, isKeyword_of_spells hon, Catalog.name?_cons_eq_some_iff.mpr hnames]

/-- **The grammar gives a text that is written out the change that the statement is.** -/
theorem Definition.asks_of_written {d : Definition} {text : Text} (h : d.Written text) :
    ∃ change, Asks (Catalog.tokens text) change ∧ Catalog.Change.Renders d change := by
  obtain ⟨lead, modifiers, body, hlead, rfl, hbody⟩ := h
  obtain ⟨rest, hbegins⟩ := exists_begins hbody Definition.known_of_mem_sentence
  rw [tokens_append_of_allBlank hlead]
  generalize Catalog.tokens body = tokens at hbegins
  cases d with
  | create novelty name orReplace ifNotExists =>
    cases hbegins with
    | cons hverb hbegins =>
      obtain ⟨afterModifiers, hbefore, hbegins⟩ := begins_append_iff.mp hbegins
      obtain ⟨afterReplace, hreplace, hmodifiers⟩ := begins_append_iff.mp hbefore
      cases hbegins with
      | cons hkind hbegins =>
        obtain ⟨afterGuard, hguard, hbegins⟩ := begins_append_iff.mp hbegins
        cases hbegins with
        | cons hname hclause =>
          obtain ⟨hnames, hif, hon⟩ := hname.names
          have hkeyword := isKeyword_of_spells hkind
          obtain ⟨ms, rfl, hms, hor⟩ := modifiers_of_begins hmodifiers hkeyword
          have hsaid := said_of_begins hguard fun token htoken => Option.some.inj htoken ▸ hif
          exact ⟨_, .create (isKeyword_of_spells hverb) (said_of_begins hreplace hor) hms hkeyword hsaid
            hnames, .create (onTable?_of_begins hon hclause)⟩
  | drop kind name ifExists =>
    cases hbegins with
    | cons hverb hbegins =>
      cases hbegins with
      | cons hkind hbegins =>
        obtain ⟨afterGuard, hguard, hbegins⟩ := begins_append_iff.mp hbegins
        cases hbegins with
        | cons hname _ =>
          obtain ⟨hnames, hif, _⟩ := hname.names
          have hsaid := said_of_begins hguard fun token htoken => Option.some.inj htoken ▸ hif
          exact ⟨_, .drop (isKeyword_of_spells hverb) (isKeyword_of_spells hkind) hsaid hnames, .drop⟩
  | alter kind name =>
    cases hbegins with
    | cons hverb hbegins =>
      cases hbegins with
      | cons hkind hbegins =>
        cases hbegins with
        | cons hname _ =>
          obtain ⟨hnames, _, _⟩ := hname.names
          exact ⟨_, .alter (isKeyword_of_spells hverb) (isKeyword_of_spells hkind) hnames, .alter⟩

/-! ## Applying -/

namespace Catalog

/-- What is reported of an applied statement: the code that it is refused with, or the schema afterwards. -/
def reported (outcome : Except Status Catalog) : Except StatusCode Schema :=
  (outcome.mapError Status.code).map view

theorem reported_mapError (outcome : Except ChangeFault Catalog) (statement : Text) :
    reported (outcome.mapError (·.status statement)) = seen outcome := by
  cases outcome with
  | ok after => rfl
  | error fault => exact congrArg Except.error (ChangeFault.code_status statement fault)

/-- **Applying a statement comes to what it means**: for every catalog, every statement and every way to write
it out, just that is reported which the statement brings. -/
theorem written_brings_iff {d : Definition} {text : Text} (h : d.Written text) (c : Catalog)
    (result : Except StatusCode Schema) :
    c.view.Brings d result ↔ reported (c.applyText text) = result := by
  obtain ⟨change, hasks, hrenders⟩ := Definition.asks_of_written h
  rw [applyText, Change.read?_eq_some_iff.mpr hasks]
  dsimp only
  rw [reported_mapError]
  exact seen_apply_iff hrenders

/-- An index in the place of another, in quotes, with the name of its table up to a parenthesis. -/
theorem written_brings_iff_index :
    let table : Identifier := ⟨['T'], by decide, by decide, by decide, by decide⟩
    let name : Identifier := ⟨"By_A".toList, by decide, by decide, by decide, by decide⟩
    let d : Definition := .create (.index table) name true false
    let text : Text := "\nCREATE or Replace unique\tindex  `By_A`  On \"T\"(a)".toList
    let c : Catalog := (empty.insert ⟨.table, ['t'], none⟩).insert ⟨.index, "by_a".toList, some ['t']⟩
    d.Written text ∧ (∀ result, c.view.Brings d result ↔ reported (c.applyText text) = result) ∧
      c.view.Brings d (.ok (c.view.put ⟨.index, name.text, some table.text⟩)) := by
  intro table name d text c
  have hbody : WrittenOut (d.sentence [.unique]) _ :=
    @WrittenOut.more _ _ "CREATE".toList [' '] _ (.keyword rfl) (by decide) (by decide) <|
    @WrittenOut.more _ _ "or".toList [' '] _ (.keyword rfl) (by decide) (by decide) <|
    @WrittenOut.more _ _ "Replace".toList [' '] _ (.keyword rfl) (by decide) (by decide) <|
    @WrittenOut.more _ _ "unique".toList ['\t'] _ (.keyword rfl) (by decide) (by decide) <|
    @WrittenOut.more _ _ "index".toList [' ', ' '] _ (.keyword (by decide)) (by decide) (by decide) <|
    @WrittenOut.more _ _ _ [' ', ' '] _ (@Word.Spells.quoted name '\x60' rfl) (by decide) (by decide) <|
    @WrittenOut.more _ _ "On".toList [' '] _ (.keyword rfl) (by decide) (by decide) <|
    @WrittenOut.last _ _ "(a)".toList (@Word.Spells.quoted table '\x22' rfl) fun c hc =>
      .inr (Option.some.inj hc).symm
  have hwritten : d.Written text := ⟨['\n'], [.unique], _, by decide, rfl, hbody⟩
  have hhas : c.view.Has .table table := contains_iff_has.mp (by decide)
  have hopen : c.view.Open .index name true false := .inr ⟨rfl, rfl⟩
  refine ⟨hwritten, written_brings_iff hwritten c, .made hopen ?_⟩
  rintro _ ⟨⟩
  exact hhas

end Catalog
end SchemaBatch
