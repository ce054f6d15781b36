import SchemaBatch.Proofs.ChangeGrammar
import SchemaBatch.Proofs.InMemoryJob
import SchemaBatch.Proofs.Scanning
import SchemaBatch.Proofs.Schedule

/-!
# `Proofs.LeadingKeyword` — the keyword of a statement and the verb that is applied

What a statement is for is told by its leading keyword, which is looked for behind a hint and opening
parentheses and ends at the first character that is no letter. The service that applies a schema change
takes the first token for its verb, and accepts unread what has another verb than the three it knows.

* `Text.words_append_blank`, `Catalog.tokens_append` — the words and the tokens of a text, one by one.
* `Sql.StandsAlone` — the keyword is where the statement begins, and ends where a token does.
* `Catalog.standsAlone_of_verb` — if the first token is one of the verbs, it is the keyword, and alone.
* `Catalog.ReadUnderKeyword` — the service reads a statement under its keyword;
  `Catalog.read_under_keyword_iff`, **this is so just when the keyword stands alone**. All other changes are
  counted as applied, and none of them does anything.
-/

namespace SchemaBatch

/-! ## Words -/

namespace Text

theorem cut_append_separator {α : Type} {p : α → Bool} {x : α} (hx : p x = true) (xs ys : List α) :
    cut p (xs ++ x :: ys) = cut p xs ++ cut p ys := by
  induction xs with
  | nil => simp [cut, hx]
  | cons y xs ih =>
    rw [List.cons_append, cut, cut, ih]
    cases h : cut p xs with
    | nil => exact absurd h (cut_ne_nil p xs)
    | cons piece pieces => by_cases hy : p y = true <;> simp [hy]

/-- **A blank parts the words before it from those after it.** -/
theorem words_append_blank {c : Char} (hc : isBlank c = true) (s t : Text) :
    words (s ++ c :: t) = words s ++ words t := by
  rw [words, cut_append_separator hc, List.filter_append]
  rfl

theorem words_cons_blank {c : Char} (hc : isBlank c = true) (s : Text) : words (c :: s) = words s :=
  words_append_blank hc [] s

/-- What has no blank in it is one word. -/
theorem words_of_solid {w : Text} (hne : w ≠ []) (hw : ∀ c ∈ w, isBlank c = false) : words w = [w] := by
  have hcut := cut_append hw []
  rw [List.append_nil] at hcut
  rw [words, hcut]
  simp [cut, hne]

end Text

/-! ## Tokens -/

namespace Catalog

/-- Whether a character is a token of its own. -/
def isParenthesis (c : Char) : Bool := c == '(' || c == ')'

/-- Whether no token goes on with the character. -/
def isBoundary (c : Char) : Bool := isBlank c || isParenthesis c

theorem eq_of_isParenthesis {c : Char} (hc : isParenthesis c = true) : c = '(' ∨ c = ')' := by
  simpa [isParenthesis] using hc

theorem isBlank_of_isParenthesis {c : Char} (hc : isParenthesis c = true) : isBlank c = false := by
  rcases eq_of_isParenthesis hc with rfl | rfl <;> rfl

theorem isAlpha_of_isParenthesis {c : Char} (hc : isParenthesis c = true) : c.isAlpha = false := by
  rcases eq_of_isParenthesis hc with rfl | rfl <;> rfl

theorem spaced_of_isParenthesis {c : Char} (hc : isParenthesis c = true) :
    spaced c = [' ', c, ' '] := if_pos hc

theorem spaced_of_not_isParenthesis {c : Char} (hc : isParenthesis c = false) : spaced c = [c] :=
  if_neg (Bool.eq_false_iff.mp hc)

theorem spaced_of_blank {c : Char} (hc : isBlank c = true) : spaced c = [c] := by
  refine spaced_of_not_isParenthesis (Bool.eq_false_iff.mpr fun hp => ?_)
  cases hc.symm.trans (isBlank_of_isParenthesis hp)

/-- At a boundary there is a blank, whether or not it was there before. -/
theorem exists_spaced_eq_cons {c : Char} (hc : isBoundary c = true) :
    ∃ b after, spaced c = b :: after ∧ isBlank b = true := by
  rcases Bool.or_eq_true_iff.mp hc with hc | hc
  · exact ⟨c, [], spaced_of_blank hc, hc⟩
  · exact ⟨' ', [c, ' '], spaced_of_isParenthesis hc, rfl⟩

theorem tokens_cons_blank {c : Char} (hc : isBlank c = true) (s : Text) :
    tokens (c :: s) = tokens s := by
  rw [tokens, List.flatMap_cons, spaced_of_blank hc, List.singleton_append, Text.words_cons_blank hc,
    tokens]

theorem tokens_cons_parenthesis {c : Char} (hc : isParenthesis c = true) (s : Text) :
    tokens (c :: s) = [c] :: tokens s := by
  have hsolid : ∀ d ∈ [c], isBlank d = false := by
    intro d hd
    rw [List.mem_singleton.mp hd]
    exact isBlank_of_isParenthesis hc
  have hspaced : (c :: s).flatMap spaced = ' ' :: ([c] ++ ' ' :: s.flatMap spaced) := by
    rw [List.flatMap_cons, spaced_of_isParenthesis hc]
    rfl
  rw [tokens, hspaced, Text.words_cons_blank rfl, Text.words_append_blank rfl,
    Text.words_of_solid (List.cons_ne_nil _ _) hsolid]
  rfl

/-- **What goes up to a boundary is one token.** -/
theorem tokens_append {w rest : Text} (hne : w ≠ []) (hw : ∀ c ∈ w, isBoundary c = false)
    (hrest : ∀ c ∈ rest.head?, isBoundary c = true) : tokens (w ++ rest) = w :: tokens rest := by
  have hsolid : ∀ c ∈ w, isBlank c = false := fun c hc => (Bool.or_eq_false_iff.mp (hw c hc)).1
  have hspaced : w.flatMap spaced = w := by
    have hself : ∀ c ∈ w, spaced c = [c] := fun c hc =>
      spaced_of_not_isParenthesis (Bool.or_eq_false_iff.mp (hw c hc)).2
    rw [List.flatMap_congr hself, List.flatMap_singleton']
  have hone := Text.words_of_solid hne hsolid
  rw [tokens, tokens, List.flatMap_append, hspaced]
  cases rest with
  | nil => rw [List.flatMap_nil, List.append_nil, hone]; rfl
  | cons c rest =>
    obtain ⟨b, after, hb, hblank⟩ := exists_spaced_eq_cons (hrest c rfl)
    rw [List.flatMap_cons, hb, List.cons_append, Text.words_append_blank hblank, hone,
      Text.words_cons_blank hblank]
    rfl

theorem tokens_trimStart (t : Text) : tokens (Text.trimStart t) = tokens t := by
  induction t with
  | nil => rfl
  | cons c t ih =>
    by_cases hc : isBlank c = true
    · rw [Text.trimStart, List.dropWhile_cons_of_pos hc, tokens_cons_blank hc]
      exact ih
    · rw [Text.trimStart, List.dropWhile_cons_of_neg hc]

theorem exists_boundary (s : Text) : ∃ w rest, s = w ++ rest ∧ (∀ c ∈ w, isBoundary c = false) ∧
    ∀ c ∈ rest.head?, isBoundary c = true := by
  refine ⟨s.takeWhile fun c => !isBoundary c, s.dropWhile fun c => !isBoundary c,
    List.takeWhile_append_dropWhile.symm, ?_, ?_⟩
  · intro c hc
    simpa using List.mem_takeWhile_imp hc
  · intro c hc
    have hhead := List.head?_dropWhile_not (fun c => !isBoundary c) s
    rw [hc] at hhead
    simpa using hhead

/-- The tokens of a text from the first that is no blank: there is none, or it is a parenthesis, or what goes
up to the next boundary. -/
theorem tokens_cases (t : Text) :
    Text.trimStart t = [] ∧ tokens t = [] ∨
    (∃ c rest, isParenthesis c = true ∧ Text.trimStart t = c :: rest ∧
      tokens t = [c] :: tokens rest) ∨
    ∃ w rest, w ≠ [] ∧ (∀ c ∈ w, isBoundary c = false) ∧ (∀ c ∈ rest.head?, isBoundary c = true) ∧
      Text.trimStart t = w ++ rest ∧ tokens t = w :: tokens rest := by
  rw [← tokens_trimStart t]
  cases hstart : Text.trimStart t with
  | nil => exact .inl ⟨rfl, rfl⟩
  | cons c s =>
    have hblank : isBlank c = false := by
      have hhead := List.head?_dropWhile_not isBlank t
      rw [← Text.trimStart, hstart] at hhead
      simpa using hhead
    by_cases hp : isParenthesis c = true
    · exact .inr (.inl ⟨c, s, hp, rfl, tokens_cons_parenthesis hp s⟩)
    · obtain ⟨w, rest, hsplit, hw, hrest⟩ := exists_boundary (c :: s)
      have hne : w ≠ [] := by
        rintro rfl
        obtain rfl : c :: s = rest := hsplit
        have hc : isBoundary c = true := hrest c rfl
        exact hp ((Bool.or_eq_true_iff.mp hc).resolve_left (by simp [hblank]))
      exact .inr (.inr ⟨w, rest, hne, hw, hrest, hsplit, hsplit ▸ tokens_append hne hw hrest⟩)

/-- The verb that the service goes by: the first token, in upper case. -/
def verb? (t : Text) : Option Text := (tokens t).head?.map Text.upper

end Catalog

/-! ## Letters -/

theorem toUpper_of_not_isLower {c : Char} (h : ¬ c.isLower = true) : c.toUpper = c := by
  refine dif_neg fun hcode => h ?_
  exact Bool.and_eq_true_iff.mpr ⟨decide_eq_true hcode.1, decide_eq_true hcode.2⟩

theorem isAlpha_of_toUpper {c : Char} (h : c.toUpper.isAlpha = true) : c.isAlpha = true := by
  by_cases hlower : c.isLower = true
  · exact Bool.or_eq_true_iff.mpr (.inr hlower)
  · rwa [toUpper_of_not_isLower hlower] at h

theorem isBlank_of_isAlpha {c : Char} (h : c.isAlpha = true) : isBlank c = false := by
  have hcode : (65 ≤ c.toNat ∧ c.toNat ≤ 90) ∨ (97 ≤ c.toNat ∧ c.toNat ≤ 122) := by
    rcases Bool.or_eq_true_iff.mp h with hupper | hlower
    · exact .inl (of_decide_eq_true hupper)
    · obtain ⟨hfrom, hto⟩ := Bool.and_eq_true_iff.mp hlower
      exact .inr ⟨of_decide_eq_true hfrom, of_decide_eq_true hto⟩
  -- no blank has the code of a letter
  simp only [isBlank, Bool.or_eq_false_iff, Bool.and_eq_false_iff, decide_eq_false_iff_not,
    beq_eq_false_iff_ne]
  omega

theorem isBoundary_of_isAlpha {c : Char} (h : c.isAlpha = true) : Catalog.isBoundary c = false := by
  rw [Catalog.isBoundary, isBlank_of_isAlpha h, Bool.false_or]
  refine Bool.eq_false_iff.mpr fun hp => ?_
  cases h.symm.trans (Catalog.isAlpha_of_isParenthesis hp)

/-- A verb is a word of letters, also when it is not in upper case. -/
theorem letters_of_upper_mem_verbs {w : Text} (h : Text.upper w ∈ Catalog.verbs) :
    w ≠ [] ∧ ∀ c ∈ w, c.isAlpha = true := by
  have hverbs : Catalog.verbs.all (fun v => !v.isEmpty && v.all Char.isAlpha) = true := by rfl
  obtain ⟨hne, hletters⟩ := Bool.and_eq_true_iff.mp (List.all_eq_true.mp hverbs _ h)
  refine ⟨?_, fun c hc => isAlpha_of_toUpper ?_⟩
  · rintro rfl
    cases hne
  · exact List.all_eq_true.mp hletters _ (List.mem_map_of_mem hc)

/-! ## The leading keyword -/

namespace Sql

/-- The text from its leading keyword on, without the hint and the parentheses before it. -/
def fromKeyword (t : Text) : Text := (afterHint (Text.trimStart t)).dropWhile isOpening

/-- **The keyword stands alone**: the statement begins with it, and a blank, a parenthesis or the end comes
after it. -/
def StandsAlone (t : Text) : Prop :=
  ∃ rest, Text.trimStart t = leadingKeyword t ++ rest ∧
    ∀ c ∈ rest.head?, Catalog.isBoundary c = true

/-- Nothing is skipped before a letter. -/
theorem fromKeyword_of_letter {t rest : Text} {c : Char} (hc : c.isAlpha = true)
    (h : Text.trimStart t = c :: rest) : fromKeyword t = Text.trimStart t := by
  have hhint : afterHint (c :: rest) = c :: rest := by
    unfold afterHint
    split
    · rename_i hat
      rw [(List.cons.inj hat).1] at hc
      cases hc
    · rfl
  have hopening : isOpening c = false := by
    rw [isOpening, isBlank_of_isAlpha hc, Bool.or_false]
    cases hp : c == '(' with
    | false => rfl
    | true => rw [eq_of_beq hp] at hc; cases hc
  rw [fromKeyword, h, hhint, List.dropWhile_cons_of_neg (by simp [hopening])]

theorem leadingKeyword_eq (t : Text) : leadingKeyword t = (fromKeyword t).takeWhile Char.isAlpha := rfl

/-- A first token that is made of letters is the keyword. -/
theorem leadingKeyword_of_token {t w rest : Text} (hne : w ≠ []) (hw : ∀ c ∈ w, c.isAlpha = true)
    (hrest : ∀ c ∈ rest.head?, Catalog.isBoundary c = true) (h : Text.trimStart t = w ++ rest) :
    leadingKeyword t = w := by
  obtain ⟨c, w, rfl⟩ := List.exists_cons_of_ne_nil hne
  have hstop : rest.takeWhile Char.isAlpha = [] := by
    cases rest with
    | nil => rfl
    | cons d rest =>
      have hd : ¬ d.isAlpha = true := by
        intro hletter
        cases (isBoundary_of_isAlpha hletter).symm.trans (hrest d rfl)
      exact List.takeWhile_cons_of_neg hd
  rw [leadingKeyword_eq, fromKeyword_of_letter (hw c List.mem_cons_self) h, h,
    List.takeWhile_append_of_pos hw, hstop, List.append_nil]

end Sql

/-! ## What the service reads -/

namespace Catalog

open Sql (leadingKeyword fromKeyword StandsAlone)

variable {t : Text}

/-- **If the first token is one of the verbs, it is the keyword**, and stands alone. -/
theorem standsAlone_of_verb {v : Text} (h : verb? t = some v) (hv : v ∈ verbs) :
    StandsAlone t ∧ Text.upper (leadingKeyword t) = v := by
  rcases tokens_cases t with ⟨_, htokens⟩ | ⟨c, rest, hp, _, htokens⟩ |
    ⟨w, rest, hne, _, hrest, hstart, htokens⟩
  · rw [verb?, htokens] at h
    cases h
  · -- a parenthesis is no verb
    rw [verb?, htokens] at h
    obtain rfl := Option.some.inj h
    obtain ⟨_, hletters⟩ := letters_of_upper_mem_verbs hv
    cases (hletters c List.mem_cons_self).symm.trans (isAlpha_of_isParenthesis hp)
  · rw [verb?, htokens] at h
    obtain rfl := Option.some.inj h
    obtain ⟨_, hletters⟩ := letters_of_upper_mem_verbs hv
    have hkeyword := Sql.leadingKeyword_of_token hne hletters hrest hstart
    exact ⟨⟨rest, by rw [hkeyword]; exact hstart, hrest⟩, by rw [hkeyword]⟩

/-- A keyword that stands alone is the first token, and nothing is before it but blanks. -/
theorem verb_of_standsAlone (h : StandsAlone t) (hkeyword : Text.upper (leadingKeyword t) ∈ verbs) :
    verb? t = some (Text.upper (leadingKeyword t)) ∧ fromKeyword t = Text.trimStart t := by
  obtain ⟨rest, hstart, hrest⟩ := h
  obtain ⟨hne, hletters⟩ := letters_of_upper_mem_verbs hkeyword
  constructor
  · have htokens := tokens_append hne (fun c hc => isBoundary_of_isAlpha (hletters c hc)) hrest
    rw [verb?, ← tokens_trimStart, hstart, htokens]
    rfl
  · obtain ⟨c, w, hw⟩ := List.exists_cons_of_ne_nil hne
    rw [hw, List.cons_append] at hstart
    exact Sql.fromKeyword_of_letter (hletters c (hw ▸ List.mem_cons_self)) hstart

/-- What a text asks for depends on its tokens alone, and so does what comes of it, but for the message. -/
theorem code_applyText_congr {t' : Text} (h : tokens t = tokens t') (c : Catalog) :
    (c.applyText t).mapError Status.code = (c.applyText t').mapError Status.code := by
  have hcode : ∀ fault : ChangeFault, (fault.status t).code = (fault.status t').code := by
    intro fault
    cases fault <;> rfl
  rw [applyText, applyText, Change.read?, Change.read?, h]
  cases Change.ofTokens? (tokens t') with
  | none => rfl
  | some change =>
    dsimp only
    cases c.apply change with
    | ok after => rfl
    | error fault => exact congrArg Except.error (hcode fault)

/-- A statement with another verb is accepted unread. -/
theorem read?_of_other_verb {v : Text} (h : verb? t = some v) (hv : v ∉ verbs) :
    Change.read? t = some .other := by
  rw [Change.read?_eq_some_iff]
  unfold verb? at h
  cases htokens : tokens t with
  | nil => rw [htokens] at h; cases h
  | cons verb rest =>
    rw [htokens] at h
    obtain rfl := Option.some.inj h
    exact .unread hv

/-- What has `CREATE` or `DROP` for its verb is not accepted unread. -/
theorem read?_ne_other {v : Text} (h : verb? t = some v) (hv : v ∈ ["CREATE", "DROP"].map String.toList) :
    Change.read? t ≠ some .other := by
  intro hread
  obtain ⟨keyword, hkeyword, rfl⟩ := List.mem_map.mp hv
  have hasks := Change.read?_eq_some_iff.mp hread
  cases (hasks.verb?_eq_iff hkeyword).mp h

/-- **The service reads a statement under its keyword.** -/
structure ReadUnderKeyword (t : Text) : Prop where
  /-- The verb that it goes by is the keyword, -/
  verb : verb? t = some (Text.upper (leadingKeyword t))
  /-- the same comes of the statement as of the text from its keyword on, -/
  outcome : ∀ c : Catalog, (c.applyText t).mapError Status.code
    = (c.applyText (fromKeyword t)).mapError Status.code
  /-- and a creation or a removal is not accepted unread. -/
  looked : Text.upper (leadingKeyword t) ∈ ["CREATE", "DROP"].map String.toList →
    Change.read? t ≠ some .other

theorem readUnderKeyword_of_standsAlone (h : StandsAlone t)
    (hkeyword : Text.upper (leadingKeyword t) ∈ verbs) : ReadUnderKeyword t := by
  obtain ⟨hverb, hfrom⟩ := verb_of_standsAlone h hkeyword
  refine ⟨hverb, fun c => code_applyText_congr ?_ c, fun hmem => read?_ne_other hverb hmem⟩
  rw [hfrom, tokens_trimStart]

/-- Where the keyword does not stand alone the statement has another verb, and is accepted unread. -/
theorem read?_of_not_standsAlone (h : ¬ StandsAlone t)
    (hkeyword : Text.upper (leadingKeyword t) ∈ verbs) : Change.read? t = some .other := by
  cases hverb : verb? t with
  | some v => exact read?_of_other_verb hverb fun hv => h (standsAlone_of_verb hverb hv).1
  | none =>
    -- a text without tokens has no keyword either
    rcases tokens_cases t with ⟨hstart, _⟩ | ⟨c, rest, _, _, htokens⟩ | ⟨w, rest, _, _, _, _, htokens⟩
    · rw [Sql.leadingKeyword_eq, fromKeyword, hstart] at hkeyword
      exact absurd hkeyword (by decide)
    · rw [verb?, htokens] at hverb
      cases hverb
    · rw [verb?, htokens] at hverb
      cases hverb

/-- A text is read as a schema change because its keyword is one of the verbs that the service knows. -/
structure ChangesByVerb (sql : Text) (statement : Sql.Statement) : Prop where
  parsed : Sql.Statement.parse sql = .ok statement
  isChange : statement.isSchemaChange = true
  keyword : Text.upper (leadingKeyword statement.text) ∈ verbs

/-- **A change is read under its keyword just when the keyword stands alone.** Otherwise the service accepts
it unread whatever the schema is, and a job counts it as applied and goes on, though nothing was done. -/
theorem read_under_keyword_iff {sql : Text} {statement : Sql.Statement}
    (h : ChangesByVerb sql statement) :
    (ReadUnderKeyword statement.text ↔ StandsAlone statement.text) ∧
    (¬ StandsAlone statement.text →
      (∀ c : Catalog, c.applyText statement.text = .ok c) ∧
      ∀ (c : Catalog) (delay now next due : Nat) (j : Job), j.state = .running next due →
        j.statements[next]? = some statement.text →
        j.step c delay now = (c, j.applied next delay now)) := by
  refine ⟨⟨fun hread => (standsAlone_of_verb hread.verb h.keyword).1,
    fun halone => readUnderKeyword_of_standsAlone halone h.keyword⟩, fun hnot => ?_⟩
  have haccepted : ∀ c : Catalog, c.applyText statement.text = .ok c := by
    intro c
    rw [applyText, read?_of_not_standsAlone hnot h.keyword]
    rfl
  refine ⟨haccepted, ?_⟩
  intro c delay now next due j hstate hstatement
  simp only [Job.step_eq, hstate, hstatement, haccepted]

/-- Behind a hint a removal is accepted unread. -/
theorem read_under_keyword_hinted :
    let sql : Text := "@\x7bpriority=low\x7d DROP TABLE T".toList
    let statement : Sql.Statement := ⟨sql, sql, .schemaChange⟩
    ChangesByVerb sql statement ∧ (ReadUnderKeyword sql ↔ StandsAlone sql) ∧
      ∀ c : Catalog, c.applyText sql = .ok c := by
  intro sql statement
  have hchange : ChangesByVerb sql statement := ⟨by decide, by decide, by decide⟩
  obtain ⟨hiff, hunread⟩ := read_under_keyword_iff hchange
  have hnot : ¬ StandsAlone sql := by
    rintro ⟨rest, hstart, _⟩
    have hkeyword : leadingKeyword sql = "DROP".toList := by decide
    have hhead : (Text.trimStart sql).head? = some 'D' := by
      rw [hstart, hkeyword]
      rfl
    exact absurd hhead (by decide)
  exact ⟨hchange, hiff, (hunread hnot).1⟩

/-- Behind a hint a creation is run and counted as applied, and there is no table afterwards. The text from
the keyword on would create it. -/
theorem hinted_creation_uncreated :
    let sql : Text := "@\x7ba=1\x7d CREATE TABLE T (Id INT64) PRIMARY KEY (Id)".toList
    let scene : Scene Backend :=
      ⟨0, Frame.idle none 10, ⟨.inMemory (InMemory.fresh 0 fun _ => "0"), Database.empty⟩⟩
    let run := (Batch.run ⟨[sql], .started⟩).1.course Backend.services [.move (.work 0), .look] scene
    ChangesByVerb sql ⟨sql, sql, .schemaChange⟩ ∧ ¬ ReadUnderKeyword sql ∧
      run.outcome = .ended (.ok [1]) ∧ run.scene.state.schema.catalog? = some Catalog.empty ∧
      ∃ c, Catalog.empty.applyText (fromKeyword sql) = .ok c ∧ c.contains .table ['T'] = true := by
  intro sql scene run
  refine ⟨⟨by decide, by decide, by decide⟩, ?_, rfl, rfl, _, rfl, by decide⟩
  intro hread
  exact absurd hread.verb (by decide)

end Catalog
end SchemaBatch
