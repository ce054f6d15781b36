import Mathlib.Data.Nat.Digits.Defs
import SchemaBatch.Proofs.StrippedText
import SchemaBatch.Proofs.TextSlices

/-!
# `Proofs.TimeoutGrammar` — the statements that set the timeout

A statement that sets the timeout is told by its first two words, and the value is looked for behind the name
of the setting, by trimming and by taking marks off its ends. What is accepted in this way has a grammar.

* `Amount`, `Value`, `Setting` — **the grammar**, and what each text of it stands for.
* `amount_trim_iff`, `value_eq_ok_iff`, `commandOf_eq_setTimeout_iff` — **what is read is what the grammar
  says**.
* `readSliced` — the value is looked for by bytes, in the text as a place was found in its upper-case copy;
  `exists_readSliced_eq`, **no slice fails**, and `Begins.readSliced_eq`, the same value is read.
* `TimeoutStatements`, `timeout_statements` — of every text: it is read by the grammar, or it is refused if it
  begins as such a statement does.
-/

namespace SchemaBatch
namespace Sql
namespace Timeout

open Text (Solid)

/-! ## The grammar -/

/-- The number that decimal digits stand for. -/
def decimal (digits : Text) : Nat := Nat.ofDigits 10 (digits.reverse.map fun c => c.toNat - '0'.toNat)

/-- The milliseconds of a number of units. Minutes are counted in seconds first, and have to fit 64 bits
there. -/
inductive InUnit (n : Nat) : (unit : Text) → (ms : Nat) → Prop where
  | milliseconds : InUnit n ['m', 's'] n
  | seconds : InUnit n ['s'] (n * 1000)
  | minutes (hfits : n * 60 ≤ 2 ^ 64 - 1) : InUnit n ['m'] (n * 60 * 1000)

/-- A number of units, with blanks around both: at least one, and 64 bits at most. -/
inductive Amount : Text → (ms : Nat) → Prop where
  | mk {b digits b' unit b'' : Text} {ms : Nat} (hb : b.AllBlank) (hne : digits ≠ [])
      (hdigits : ∀ c ∈ digits, c.isDigit = true) (hb' : b'.AllBlank) (hb'' : b''.AllBlank)
      (hpos : 1 ≤ decimal digits) (hfits : decimal digits ≤ 2 ^ 64 - 1)
      (hunit : InUnit (decimal digits) unit ms) :
      Amount (b ++ (digits ++ (b' ++ (unit ++ b'')))) ms

/-- The value of the setting: `NULL`, which clears it, or an amount in single quotes. -/
inductive Value : Text → Option Nat → Prop where
  | clear {null : Text} (hnull : Text.upper null = "NULL".toList) : Value null none
  | amount {inner : Text} {ms : Nat} (h : Amount inner ms) :
      Value ('\x27' :: (inner ++ ['\x27'])) (some ms)

/-- What comes behind the name of the setting. -/
inductive Assignment : Text → Option Nat → Prop where
  | mk {b sign b' value : Text} {v : Option Nat} (hb : b.AllBlank)
      (hsign : sign = ['='] ∨ Text.upper sign = ['T', 'O']) (hb' : b'.AllBlank) (hvalue : Value value v) :
      Assignment (b ++ (sign ++ (b' ++ value))) v

/-- The text begins with the two words that set the timeout, and has this behind the name of the setting. -/
inductive Begins : (t rest : Text) → Prop where
  | mk {set b name rest : Text} (hset : Text.upper set = "SET".toList) (hne : b ≠ []) (hb : b.AllBlank)
      (hname : Text.upper name = settingName) : Begins (set ++ (b ++ (name ++ rest))) rest

/-- The statement sets the timeout to the value. -/
def Setting (t : Text) (v : Option Nat) : Prop := ∃ rest, Begins t rest ∧ Assignment rest v

/-! ## The amount -/

theorem toNat_eq_decimal (digits : Text) : Text.toNat digits = decimal digits := by
  rw [decimal, Nat.ofDigits_eq_foldr, List.foldr_map, List.foldr_reverse, Text.toNat]
  congr 1
  funext n c
  exact Nat.add_comm _ _

theorem inUnit_eq_some_iff {n ms : Nat} {unit : Text} : inUnit n unit = some ms ↔ InUnit n unit ms := by
  constructor
  · intro h
    unfold inUnit at h
    split_ifs at h with hms hs hm hfits
    · cases h; cases hms; exact .milliseconds
    · cases h; cases hs; exact .seconds
    · cases h; cases hm; exact .minutes hfits
  · intro h
    cases h with
    | milliseconds => rfl
    | seconds => rfl
    | minutes hfits => exact if_pos hfits

theorem word?_eq_some_iff {s : Text} {n : Nat} : Text.word? s = some n ↔
    s ≠ [] ∧ (∀ c ∈ s, c.isDigit = true) ∧ decimal s ≤ 2 ^ 64 - 1 ∧ decimal s = n := by
  have hmax : Text.maxWord = 2 ^ 64 - 1 := rfl
  simp only [Text.word?, toNat_eq_decimal, hmax, Option.ite_none_right_eq_some, Bool.and_eq_true,
    Bool.not_eq_true', List.isEmpty_eq_false_iff, List.all_eq_true, decide_eq_true_eq, Option.some.injEq,
    and_assoc]

/-- There is time in an amount if there is a unit in it. -/
theorem InUnit.pos_iff {n ms : Nat} {unit : Text} (h : InUnit n unit ms) : 1 ≤ ms ↔ 1 ≤ n := by
  cases h <;> omega

/-- A unit has no blanks, and is no digit. -/
theorem InUnit.chars {n ms : Nat} {unit : Text} (h : InUnit n unit ms) :
    unit ≠ [] ∧ ∀ c ∈ unit, isBlank c = false ∧ c.isDigit = false := by
  have hall : ∀ {s : Text}, s.all (fun c => !isBlank c && !c.isDigit) = true →
      ∀ c ∈ s, isBlank c = false ∧ c.isDigit = false := by
    intro s hs c hc
    simpa using List.all_eq_true.mp hs c hc
  cases h <;> exact ⟨List.cons_ne_nil _ _, hall rfl⟩

theorem isBlank_of_isDigit {c : Char} (h : c.isDigit = true) : isBlank c = false := by
  obtain ⟨hfrom, hto⟩ := Bool.and_eq_true_iff.mp h
  have hcode : 48 ≤ c.toNat ∧ c.toNat ≤ 57 := ⟨of_decide_eq_true hfrom, of_decide_eq_true hto⟩
  simp only [isBlank, Bool.or_eq_false_iff, Bool.and_eq_false_iff, decide_eq_false_iff_not,
    beq_eq_false_iff_ne]
  omega

theorem amount_eq_some_iff {s : Text} {ms : Nat} : amount s = some ms ↔
    ∃ n, Text.word? (s.takeWhile Char.isDigit) = some n ∧
      inUnit n (Text.trim (s.dropWhile Char.isDigit)) = some ms := by
  simp only [amount, bind, Option.bind_eq_some_iff]

/-- Digits end where something else begins. -/
theorem digits_append {digits tail : Text} (hdigits : ∀ c ∈ digits, c.isDigit = true)
    (htail : ∀ c ∈ tail, c.isDigit = false) :
    (digits ++ tail).takeWhile Char.isDigit = digits ∧ (digits ++ tail).dropWhile Char.isDigit = tail := by
  rw [List.takeWhile_append_of_pos hdigits, List.dropWhile_append_of_pos hdigits]
  cases tail with
  | nil => simp
  | cons c tail => simp [htail c List.mem_cons_self]

/-- **The amount that is read is what the grammar says.** -/
theorem amount_trim_iff {inner : Text} {ms : Nat} :
    amount (Text.trim inner) = some ms ∧ 1 ≤ ms ↔ Amount inner ms := by
  rw [amount_eq_some_iff]
  constructor
  · rintro ⟨⟨n, hword, hunit⟩, hpos⟩
    obtain ⟨b, back, hinner, hb, hback⟩ := Text.exists_eq_append_trim_append inner
    have hsplit := List.takeWhile_append_dropWhile (p := Char.isDigit) (l := Text.trim inner)
    generalize (Text.trim inner).takeWhile Char.isDigit = digits at hword hsplit
    generalize (Text.trim inner).dropWhile Char.isDigit = tail at hunit hsplit
    obtain ⟨b', back', htail, hb', hback'⟩ := Text.exists_eq_append_trim_append tail
    obtain ⟨hne, hdigits, hfits, rfl⟩ := word?_eq_some_iff.mp hword
    have hin := inUnit_eq_some_iff.mp hunit
    have hend : Text.AllBlank (back' ++ back) := List.forall_mem_append.mpr ⟨hback', hback⟩
    have hamount := Amount.mk hb hne hdigits hb' hend (hin.pos_iff.mp hpos) hfits hin
    rw [← hsplit, htail] at hinner
    rw [hinner]
    simpa using hamount
  · rintro ⟨hb, hne, hdigits, hb', hb'', hpos, hfits, hin⟩
    rename_i b digits b' unit b''
    obtain ⟨hunit, hchars⟩ := hin.chars
    have htrim : Text.trim (b ++ (digits ++ (b' ++ (unit ++ b'')))) = digits ++ (b' ++ unit) := by
      have hpadded : Text.trim (b ++ ((digits ++ (b' ++ unit)) ++ b'')) = digits ++ (b' ++ unit) := by
        refine Text.trim_padded hb hb'' (fun c hc => ?_) fun c hc => ?_
        · rw [List.head?_append_of_ne_nil _ hne] at hc
          exact isBlank_of_isDigit (hdigits c (List.mem_of_mem_head? hc))
        · rw [← List.append_assoc, List.getLast?_append_of_ne_nil _ hunit] at hc
          exact (hchars c (List.mem_of_mem_getLast? hc)).1
      simpa using hpadded
    have hrest : ∀ c ∈ b' ++ unit, c.isDigit = false := by
      refine List.forall_mem_append.mpr ⟨fun c hc => ?_, fun c hc => (hchars c hc).2⟩
      exact Bool.eq_false_iff.mpr fun hdigit => nomatch (hb' c hc).symm.trans (isBlank_of_isDigit hdigit)
    have hunit' : Text.trim (b' ++ unit) = unit := by
      have hnothing : Text.AllBlank [] := List.forall_mem_nil _
      have hpadded := Text.trim_padded hb' hnothing
        (fun c hc => (hchars c (List.mem_of_mem_head? hc)).1)
        fun c hc => (hchars c (List.mem_of_mem_getLast? hc)).1
      rwa [List.append_nil] at hpadded
    obtain ⟨htake, hdrop⟩ := digits_append hdigits hrest
    rw [htrim, htake, hdrop, hunit']
    exact ⟨⟨_, word?_eq_some_iff.mpr ⟨hne, hdigits, hfits, rfl⟩, inUnit_eq_some_iff.mpr hin⟩,
      hin.pos_iff.mpr hpos⟩

/-! ## The value -/

/-- What is made of an amount. -/
def outcome : Option Nat → Except Fault (Option Nat)
  | none => .error .malformed
  | some 0 => .error .zero
  | some (n + 1) => .ok (some (n + 1))

/-- The value that a text behind the sign stands for. -/
def literal (s : Text) : Except Fault (Option Nat) :=
  if Text.sameLetters s "NULL".toList then .ok none
  else outcome ((unquoted s).bind fun inner => amount (Text.trim inner))

theorem value_eq (s : Text) : value s = match afterSign (Text.trimStart s) with
    | none => .error .malformed
    | some rest => literal (Text.trim rest) := by
  rw [value]
  cases afterSign (Text.trimStart s) with
  | none => rfl
  | some rest =>
    dsimp only [literal]
    split
    · rfl
    · cases (unquoted (Text.trim rest)).bind fun inner => amount (Text.trim inner) with
      | none => rfl
      | some n => cases n <;> rfl

theorem outcome_eq_ok_iff {amount? : Option Nat} {v : Option Nat} :
    outcome amount? = .ok v ↔ ∃ ms, amount? = some ms ∧ 1 ≤ ms ∧ v = some ms := by
  cases amount? with
  | none => exact ⟨nofun, fun ⟨_, h, _⟩ => nomatch h⟩
  | some n =>
    cases n with
    | zero => exact ⟨nofun, fun ⟨_, h, hpos, _⟩ => by cases h; cases hpos⟩
    | succ n =>
      constructor
      · intro h
        exact ⟨n + 1, rfl, Nat.succ_pos n, (Except.ok.inj h).symm⟩
      · rintro ⟨_, hsome, _, rfl⟩
        cases hsome
        rfl

theorem unquoted_eq_some_iff {s inner : Text} :
    unquoted s = some inner ↔ s = '\x27' :: (inner ++ ['\x27']) := by
  constructor
  · intro h
    unfold unquoted at h
    split at h
    · rename_i rest
      split at h
      · rename_i hlast
        obtain ⟨before, rfl⟩ := List.getLast?_eq_some_iff.mp (eq_of_beq hlast)
        rw [List.dropLast_concat] at h
        cases h
        rfl
      · cases h
    · cases h
  · rintro rfl
    simp [unquoted]

theorem literal_eq_ok_iff {s : Text} {v : Option Nat} : literal s = .ok v ↔ Value s v := by
  unfold literal
  constructor
  · intro h
    split at h
    · rename_i hnull
      cases h
      exact .clear (eq_of_beq hnull)
    · obtain ⟨ms, hamount, hpos, rfl⟩ := outcome_eq_ok_iff.mp h
      obtain ⟨inner, hinner, hms⟩ := Option.bind_eq_some_iff.mp hamount
      rw [unquoted_eq_some_iff.mp hinner]
      exact .amount (amount_trim_iff.mp ⟨hms, hpos⟩)
  · intro h
    cases h with
    | clear hnull => exact if_pos (beq_iff_eq.mpr hnull)
    | @amount inner ms hamount =>
      obtain ⟨hms, hpos⟩ := amount_trim_iff.mpr hamount
      have hnot : ¬ Text.sameLetters ('\x27' :: (inner ++ ['\x27'])) "NULL".toList = true := fun hnull =>
        absurd (List.cons.inj (eq_of_beq hnull)).1 (by decide)
      rw [if_neg hnot, unquoted_eq_some_iff.mpr rfl]
      exact outcome_eq_ok_iff.mpr ⟨ms, hms, hpos, rfl⟩

theorem afterSign_eq_some_iff {s rest : Text} : afterSign s = some rest ↔
    ∃ sign, (sign = ['='] ∨ Text.upper sign = ['T', 'O']) ∧ s = sign ++ rest := by
  constructor
  · intro h
    unfold afterSign at h
    split at h
    · cases h
      exact ⟨['='], .inl rfl, rfl⟩
    · rename_i t o rest' _
      split at h
      · rename_i hto
        cases h
        exact ⟨[t, o], .inr (eq_of_beq hto), rfl⟩
      · cases h
    · cases h
  · rintro ⟨sign, rfl | hto, rfl⟩
    · rfl
    · have hlength : sign.length = 2 := by rw [← Text.length_upper, hto]; rfl
      obtain ⟨t, o, rfl⟩ := List.length_eq_two.mp hlength
      have ht : t = '=' → False := by
        rintro rfl
        exact absurd (List.cons.inj hto).1 (by decide)
      rw [List.cons_append, List.singleton_append, afterSign]
      · exact if_pos (beq_iff_eq.mpr hto)
      · exact ht

/-- The characters at the ends of a value are no blanks. -/
theorem Value.ends {s : Text} {v : Option Nat} (h : Value s v) :
    (∀ c ∈ s.head?, isBlank c = false) ∧ ∀ c ∈ s.getLast?, isBlank c = false := by
  cases h with
  | clear hnull =>
    obtain ⟨_, hsolid, _⟩ := Text.word_of_upper hnull (List.cons_ne_nil _ _) (by decide)
    exact ⟨fun c hc => hsolid c (List.mem_of_mem_head? hc),
      fun c hc => hsolid c (List.mem_of_mem_getLast? hc)⟩
  | @amount inner ms _ =>
    have hquote : isBlank '\x27' = false := rfl
    rw [← List.cons_append, List.getLast?_concat]
    exact ⟨fun c hc => Option.some.inj hc ▸ hquote, fun c hc => Option.some.inj hc ▸ hquote⟩

theorem solid_of_sign {sign : Text} (h : sign = ['='] ∨ Text.upper sign = ['T', 'O']) :
    sign ≠ [] ∧ Solid sign := by
  rcases h with rfl | hto
  · exact ⟨List.cons_ne_nil _ _, by decide⟩
  · obtain ⟨hne, hsolid, _⟩ := Text.word_of_upper hto (List.cons_ne_nil _ _) (by decide)
    exact ⟨hne, hsolid⟩

/-- **The value that is read is what the grammar says**, of a text without blanks at its end. -/
theorem value_eq_ok_iff {s : Text} {v : Option Nat} (hend : Text.trimEnd s = s) :
    value s = .ok v ↔ Assignment s v := by
  rw [value_eq]
  constructor
  · intro h
    cases hsign : afterSign (Text.trimStart s) with
    | none => rw [hsign] at h; cases h
    | some rest =>
      obtain ⟨sign, hmark, hstart⟩ := afterSign_eq_some_iff.mp hsign
      have hs : s = s.takeWhile isBlank ++ (sign ++ (rest.takeWhile isBlank ++ Text.trimStart rest)) := by
        rw [Text.trimStart, List.takeWhile_append_dropWhile, ← hstart, Text.trimStart,
          List.takeWhile_append_dropWhile]
      have hsuffix : Text.trimStart rest <:+ Text.trimEnd s := by
        rw [hend, hs, ← List.append_assoc, ← List.append_assoc]
        exact List.suffix_append _ _
      rw [hsign] at h
      have hvalue : Value (Text.trimStart rest) v := by
        rw [← Text.trimEnd_of_suffix hsuffix]
        exact literal_eq_ok_iff.mp h
      rw [hs]
      exact .mk (fun c hc => List.mem_takeWhile_imp hc) hmark (fun c hc => List.mem_takeWhile_imp hc) hvalue
  · rintro ⟨hb, hmark, hb', hvalue⟩
    rename_i b sign b' val
    obtain ⟨hne, hsolid⟩ := solid_of_sign hmark
    have htrim : Text.trim (b' ++ val) = val := by
      have hnothing : Text.AllBlank [] := List.forall_mem_nil _
      have hpadded := Text.trim_padded hb' hnothing hvalue.ends.1 hvalue.ends.2
      rwa [List.append_nil] at hpadded
    rw [Text.trimStart_append hb, Text.trimStart_append_of_solid hne hsolid,
      afterSign_eq_some_iff.mpr ⟨sign, hmark, rfl⟩]
    dsimp only
    rw [htrim]
    exact literal_eq_ok_iff.mpr hvalue

/-! ## The statement -/

/-- The first two words of the text set the timeout. -/
def BeginsWithWords (t : Text) : Prop :=
  ∃ first second more, Text.words t = first :: second :: more ∧ Text.upper first = "SET".toList ∧
    settingName <+: Text.upper second

theorem isSetting_iff {t : Text} :
    isSetting ((Text.words t).map Text.upper) = true ↔ BeginsWithWords t := by
  unfold BeginsWithWords
  constructor
  · intro h
    match hwords : Text.words t, h with
    | first :: second :: more, h =>
      obtain ⟨hset, hname⟩ := Bool.and_eq_true_iff.mp h
      exact ⟨first, second, more, rfl, eq_of_beq hset, List.isPrefixOf_iff_prefix.mp hname⟩
  · rintro ⟨first, second, more, hwords, hset, hname⟩
    rw [hwords]
    exact Bool.and_eq_true_iff.mpr ⟨beq_iff_eq.mpr hset, List.isPrefixOf_iff_prefix.mpr hname⟩

theorem word_of_set {set : Text} (h : Text.upper set = "SET".toList) :
    set ≠ [] ∧ Solid set ∧ set.length = 3 := Text.word_of_upper h (List.cons_ne_nil _ _) (by decide)

theorem word_of_name {name : Text} (h : Text.upper name = settingName) :
    name ≠ [] ∧ Solid name ∧ name.length = settingName.length :=
  Text.word_of_upper h (List.cons_ne_nil _ _) (by decide)

theorem Begins.suffix {t rest : Text} (h : Begins t rest) : rest <:+ t := by
  cases h
  simp only [← List.append_assoc]
  exact List.suffix_append _ _

/-- The value is looked for behind the name of the setting, and the name behind the first word. -/
theorem Begins.read_eq {t rest : Text} (h : Begins t rest) : read t = value rest := by
  obtain ⟨hset, _, hb, hname⟩ := h
  obtain ⟨_, _, hthree⟩ := word_of_set hset
  obtain ⟨hne, hsolid, hlength⟩ := word_of_name hname
  rw [read, List.drop_left' hthree, Text.trimStart_append hb, Text.trimStart_append_of_solid hne hsolid,
    List.drop_left' hlength]

/-- **The first two words say how the text begins.** -/
theorem beginsWithWords_iff {t : Text} (hstart : Text.trimStart t = t) :
    BeginsWithWords t ↔ ∃ rest, Begins t rest := by
  constructor
  · rintro ⟨first, second, more, hwords, hset, hname⟩
    obtain ⟨behind, ht, hsecond, hblank⟩ := Text.exists_of_words_eq_cons hwords
    obtain ⟨rest, hbehind, _, _⟩ := Text.exists_of_words_eq_cons hsecond
    rw [List.prefix_iff_eq_take, Text.upper, ← List.map_take] at hname
    have hsplit : behind = behind.takeWhile isBlank ++
        (second.take settingName.length ++ (second.drop settingName.length ++ rest)) := by
      rw [← List.append_assoc (second.take _), List.take_append_drop, ← hbehind]
      exact List.takeWhile_append_dropWhile.symm
    have hgap : behind.takeWhile isBlank ≠ [] := by
      cases behind with
      | nil => cases hsecond
      | cons c behind =>
        rw [List.takeWhile_cons_of_pos (hblank c rfl)]
        exact List.cons_ne_nil _ _
    rw [← hstart, ht, hsplit]
    exact ⟨_, .mk hset hgap (fun c hc => List.mem_takeWhile_imp hc) hname.symm⟩
  · rintro ⟨rest, hset, hne, hb, hname⟩
    rename_i set b name
    obtain ⟨hset', hsolid, _⟩ := word_of_set hset
    obtain ⟨hname', hsolid', _⟩ := word_of_name hname
    obtain ⟨c, b, rfl⟩ := List.exists_cons_of_ne_nil hne
    obtain ⟨hc, hb⟩ := List.forall_mem_cons.mp hb
    refine ⟨set, name ++ rest.takeWhile (!isBlank ·), Text.words (rest.dropWhile (!isBlank ·)), ?_, hset, ?_⟩
    · rw [List.cons_append, Text.words_append_blank hc, Text.words_of_solid hset' hsolid,
        Text.words_append_of_allBlank hb, Text.words_append_of_solid hname' hsolid', List.singleton_append]
    · rw [Text.upper_append, hname]
      exact List.prefix_append _ _

end Timeout

/-! ## What a statement sets -/

open Timeout

theorem commandOf_of_beginsWithWords {t : Text} (h : BeginsWithWords t) :
    commandOf t = match Timeout.read t with
      | .ok timeout => .ok (some (.setTimeout timeout))
      | .error fault => .error (.timeout fault t) := by
  have hsetting := isSetting_iff.mpr h
  obtain ⟨first, second, more, hwords, hset, _⟩ := h
  have hfirst : ∀ {keyword : String} {others : List String}, keyword.toList ≠ "SET".toList →
      (Text.words t).map Text.upper ≠ (keyword :: others).map String.toList := by
    intro keyword others hne heq
    rw [hwords] at heq
    exact hne ((List.cons.inj heq).1.symm.trans hset)
  unfold commandOf
  dsimp only
  rw [if_neg (hfirst (by decide)), if_neg (hfirst (by decide)), if_neg (hfirst (by decide))]
  refine (if_pos hsetting).trans ?_
  cases Timeout.read t <;> rfl

/-- Only a text that begins so sets the timeout. -/
theorem beginsWithWords_of_commandOf {t : Text} {v : Option Nat}
    (h : commandOf t = .ok (some (.setTimeout v))) : BeginsWithWords t := by
  by_contra hnot
  have hsetting := mt isSetting_iff.mp hnot
  unfold commandOf at h
  dsimp only at h
  rw [if_neg hsetting] at h
  split_ifs at h <;> cases h

/-- **What a statement sets is what the grammar says.** -/
theorem commandOf_eq_setTimeout_iff {t : Text} {v : Option Nat} (hstart : Text.trimStart t = t)
    (hend : Text.trimEnd t = t) : commandOf t = .ok (some (.setTimeout v)) ↔ Setting t v := by
  have hvalue : ∀ {rest}, Begins t rest → (value rest = .ok v ↔ Assignment rest v) := by
    intro rest h
    exact value_eq_ok_iff (Text.trimEnd_of_suffix (hend.symm ▸ h.suffix))
  constructor
  · intro h
    have hwords := beginsWithWords_of_commandOf h
    obtain ⟨rest, hbegins⟩ := (beginsWithWords_iff hstart).mp hwords
    rw [commandOf_of_beginsWithWords hwords, hbegins.read_eq] at h
    cases hread : value rest with
    | error fault => rw [hread] at h; cases h
    | ok timeout =>
      rw [hread] at h
      cases h
      exact ⟨rest, hbegins, (hvalue hbegins).mp hread⟩
  · rintro ⟨rest, hbegins, hassignment⟩
    have hwords := (beginsWithWords_iff hstart).mpr ⟨rest, hbegins⟩
    rw [commandOf_of_beginsWithWords hwords, hbegins.read_eq, (hvalue hbegins).mpr hassignment]

theorem commandOf_strip_iff {sql t : Text} {v : Option Nat} (h : strip sql = some t) :
    commandOf t = .ok (some (.setTimeout v)) ↔ Setting t v :=
  commandOf_eq_setTimeout_iff (strip_trimmed h).1 (strip_trimmed h).2

/-! ## The value by bytes -/

namespace Timeout

/-- The text behind the sign, and whether the slices that it takes can be taken. -/
def afterSignSliced : Text → Option (Option Text)
  | '=' :: rest => some (some rest)
  | s => match Text.uptoByte? s 2 with
    | some word =>
      if Text.sameLetters word ['T', 'O'] then (Text.fromByte? s 2).map some else some none
    | none => some none

/-- The amount, cut where its digits end. -/
def amountSliced (s : Text) : Option (Option Nat) := do
  let stop := Text.bytes (s.takeWhile Char.isDigit)
  let digits ← Text.uptoByte? s stop
  let unit ← Text.fromByte? s stop
  some ((Text.word? digits).bind fun n => inUnit n (Text.trim unit))

def literalSliced (s : Text) : Option (Except Fault (Option Nat)) :=
  if Text.sameLetters s "NULL".toList then some (.ok none)
  else match unquoted s with
    | none => some (.error .malformed)
    | some inner => (amountSliced (Text.trim inner)).map outcome

def valueSliced (s : Text) : Option (Except Fault (Option Nat)) := do
  match ← afterSignSliced (Text.trimStart s) with
  | none => some (.error .malformed)
  | some rest => literalSliced (Text.trim rest)

/-- The value that a statement sets, when the name of the setting is looked for in the upper-case copy of the
statement and the place is taken for one in the statement; `none` when a slice cannot be taken. -/
def readSliced (t : Text) : Option (Except Fault (Option Nat)) :=
  match Text.find? settingName (Text.upper t) with
  | none => some (.error .malformed)
  | some position => (Text.fromByte? t (position + Text.bytes settingName)).bind valueSliced

theorem bytes_of_upper {w v : Text} (h : Text.upper w = v) : Text.bytes w = Text.bytes v := by
  rw [← h, Text.bytes_upper]

theorem afterSignSliced_eq (s : Text) : afterSignSliced s = some (afterSign s) := by
  unfold afterSignSliced
  split
  · rfl
  · rename_i hequals
    have htwo : ∀ {sign : Text}, Text.upper sign = ['T', 'O'] → Text.bytes sign = 2 := bytes_of_upper
    -- where the word is not found, there is no sign
    have hnone : (∀ sign rest, Text.upper sign = ['T', 'O'] → s ≠ sign ++ rest) → afterSign s = none := by
      intro hno
      refine Option.eq_none_iff_forall_not_mem.mpr fun rest hrest => ?_
      obtain ⟨sign, rfl | hto, hs⟩ := afterSign_eq_some_iff.mp hrest
      · exact hequals rest hs
      · exact hno sign rest hto hs
    split
    · rename_i word hword
      obtain ⟨rest, rfl⟩ := Text.exists_of_uptoByte? hword
      split
      · rename_i hto
        have hto := eq_of_beq hto
        rw [← htwo hto, Text.fromByte?_append, afterSign_eq_some_iff.mpr ⟨word, .inr hto, rfl⟩]
        rfl
      · rename_i hto
        rw [hnone fun sign rest' hsign heq => hto ?_]
        have hslice := Text.uptoByte?_append sign rest'
        rw [htwo hsign, ← heq, hword] at hslice
        rw [Option.some.inj hslice]
        exact beq_iff_eq.mpr hsign
    · rename_i hword
      rw [hnone fun sign rest' hsign heq => ?_]
      have hslice := Text.uptoByte?_append sign rest'
      rw [htwo hsign, ← heq, hword] at hslice
      cases hslice

theorem amountSliced_eq (s : Text) : amountSliced s = some (amount s) := by
  have hupto := Text.uptoByte?_append (s.takeWhile Char.isDigit) (s.dropWhile Char.isDigit)
  have hfrom := Text.fromByte?_append (s.takeWhile Char.isDigit) (s.dropWhile Char.isDigit)
  rw [List.takeWhile_append_dropWhile] at hupto hfrom
  rw [amountSliced, hupto, hfrom]
  rfl

theorem valueSliced_eq (s : Text) : valueSliced s = some (value s) := by
  have hliteral : ∀ s, literalSliced s = some (literal s) := by
    intro s
    unfold literalSliced literal
    split
    · rfl
    · cases unquoted s with
      | none => rfl
      | some inner => exact congrArg (Option.map outcome) (amountSliced_eq (Text.trim inner))
  rw [valueSliced, afterSignSliced_eq, value_eq]
  cases afterSign (Text.trimStart s) with
  | none => rfl
  | some rest => exact hliteral _

/-- A place in the upper-case copy is a place in the text. -/
theorem exists_readSliced_eq (t : Text) : ∃ result, readSliced t = some result := by
  unfold readSliced
  cases hfind : Text.find? settingName (Text.upper t) with
  | none => exact ⟨_, rfl⟩
  | some position =>
    obtain ⟨before, after, hupper, rfl⟩ := Text.exists_of_find? hfind
    obtain ⟨start, behind, rfl, hstart, hbehind⟩ := List.map_eq_append_iff.mp hupper
    obtain ⟨name, rest, rfl, hname, _⟩ := List.map_eq_append_iff.mp hbehind
    refine ⟨value rest, ?_⟩
    have hslice := Text.fromByte?_append (start ++ name) rest
    rw [Text.bytes_append, bytes_of_upper hstart, bytes_of_upper hname, List.append_assoc] at hslice
    dsimp only
    rw [hslice, Option.bind_some, valueSliced_eq]

/-- **No slice fails, and the value is the same.** -/
theorem Begins.readSliced_eq {t rest : Text} (h : Begins t rest) : readSliced t = some (read t) := by
  rw [h.read_eq]
  obtain ⟨hset, hne, hb, hname⟩ := h
  rename_i set b name
  have hupper : Text.upper (set ++ (b ++ (name ++ rest)))
      = ("SET".toList ++ b) ++ (settingName ++ Text.upper rest) := by
    rw [Text.upper_append, Text.upper_append, Text.upper_append, hset, hname, Text.upper_of_allBlank hb,
      List.append_assoc]
  have hfind : Text.find? settingName (Text.upper (set ++ (b ++ (name ++ rest))))
      = some (Text.bytes ("SET".toList ++ b)) := by
    rw [hupper]
    refine Text.find?_append (List.cons_ne_nil _ _) fun later hlater hlater' hbegins => ?_
    -- neither the first word nor the blanks have an `S` with a `T` behind it
    rcases List.suffix_cons_iff.mp hlater with rfl | hlater
    · exact absurd (List.cons_prefix_cons.mp (List.cons_prefix_cons.mp hbegins).2).1 (by decide)
    rcases List.suffix_cons_iff.mp hlater with rfl | hlater
    · exact absurd (List.cons_prefix_cons.mp hbegins).1 (by decide)
    rcases List.suffix_cons_iff.mp hlater with rfl | hlater
    · exact absurd (List.cons_prefix_cons.mp hbegins).1 (by decide)
    obtain ⟨c, later, rfl⟩ := List.exists_cons_of_ne_nil hlater'
    have hc : isBlank c = true := hb c (hlater.subset List.mem_cons_self)
    rw [← (List.cons_prefix_cons.mp hbegins).1] at hc
    cases hc
  have hslice := Text.fromByte?_append ((set ++ b) ++ name) rest
  rw [Text.bytes_append, Text.bytes_append, bytes_of_upper hset, bytes_of_upper hname,
    ← Text.bytes_append, List.append_assoc, List.append_assoc] at hslice
  rw [readSliced, hfind]
  dsimp only
  rw [hslice, Option.bind_some, valueSliced_eq]

/-- A timeout that is set is no less than one millisecond, and its seconds fit 64 bits. -/
theorem Setting.bounds {t : Text} {ms : Nat} (h : Setting t (some ms)) :
    1 ≤ ms ∧ ms / 1000 ≤ 2 ^ 64 - 1 := by
  obtain ⟨rest, _, hassignment⟩ := h
  cases hassignment with
  | mk _ _ _ hvalue =>
    cases hvalue with
    | amount hamount =>
      cases hamount with
      | mk _ _ _ _ _ hpos hfits hunit => cases hunit <;> omega

end Timeout

/-! ## Every text -/

/-- **The timeout is set by the texts of the grammar**, and by no others. -/
structure TimeoutStatements (sql : Text) : Prop where
  /-- A text sets the timeout to a value just if what is left of it is in the grammar and stands for the
  value. -/
  accepted : ∀ v, (∃ statement, readStatement sql = .ok statement ∧
      statement.command? = some (.setTimeout v)) ↔ ∃ t, strip sql = some t ∧ Setting t v
  /-- All other texts whose first two words are as in such a statement are refused. -/
  refused : ∀ t, strip sql = some t → BeginsWithWords t → (∀ v, ¬ Setting t v) →
    ∃ message, readStatement sql = .error (.invalidArgument message)
  /-- No slice fails, whatever the text is, and what is read from the slices is what is read. -/
  sliced : ∀ t, strip sql = some t → (∃ result, readSliced t = some result) ∧
    (BeginsWithWords t → readSliced t = some (Timeout.read t))
  /-- No amount of time is too long to be counted. -/
  bounded : ∀ t ms, strip sql = some t → Setting t (some ms) → 1 ≤ ms ∧ ms / 1000 ≤ 2 ^ 64 - 1

theorem command?_of_ofStripped {sql t : Text} {statement : Statement}
    (h : Statement.ofStripped sql t = .ok statement) : commandOf t = .ok statement.command? := by
  unfold Statement.ofStripped at h
  cases hcommand : commandOf t with
  | error fault => rw [hcommand] at h; cases h
  | ok command? =>
    rw [hcommand] at h
    cases command? with
    | some command => cases h; rfl
    | none =>
      cases h
      dsimp only [Statement.command?]
      unfold categoryOf
      dsimp only
      split_ifs <;> rfl

theorem timeout_statements (sql : Text) : TimeoutStatements sql where
  accepted v := by
    constructor
    · rintro ⟨statement, hread, hcommand⟩
      cases hstrip : strip sql with
      | none => rw [readStatement_of_open hstrip] at hread; cases hread
      | some t =>
        rw [readStatement_of_strip hstrip] at hread
        cases hstatement : Statement.ofStripped sql t with
        | error fault => rw [hstatement] at hread; cases hread
        | ok statement' =>
          rw [hstatement] at hread
          cases hread
          have hset := command?_of_ofStripped hstatement
          rw [hcommand, commandOf_strip_iff hstrip] at hset
          exact ⟨t, rfl, hset⟩
    · rintro ⟨t, hstrip, hset⟩
      refine ⟨⟨sql, t, .command (.setTimeout v)⟩, ?_, rfl⟩
      rw [readStatement_of_strip hstrip, Statement.ofStripped, (commandOf_strip_iff hstrip).mpr hset]
      rfl
  refused t hstrip hwords hno := by
    have hcommand := commandOf_of_beginsWithWords hwords
    cases hread : Timeout.read t with
    | ok v =>
      rw [hread] at hcommand
      exact absurd ((commandOf_strip_iff hstrip).mp hcommand) (hno v)
    | error fault =>
      rw [hread] at hcommand
      refine ⟨(Fault.timeout fault t).message, ?_⟩
      rw [readStatement_of_strip hstrip, Statement.ofStripped, hcommand]
      rfl
  sliced t hstrip := by
    refine ⟨exists_readSliced_eq t, fun hwords => ?_⟩
    obtain ⟨rest, hbegins⟩ := (beginsWithWords_iff (strip_trimmed hstrip).1).mp hwords
    exact hbegins.readSliced_eq
  bounded t ms _ h := h.bounds

-- leading zeros and the blanks around the parts do not matter, and the word may stick to the name
example : (Statement.parse "set statement_timeoutTo ' 007 s '; # 9m".toList).toOption.bind Statement.command?
    = some (.setTimeout (some 7000)) := by decide

-- a number has no sign
example : (Statement.parse "SET STATEMENT_TIMEOUT = '+7s'".toList).toOption = none := by decide

end Sql
end SchemaBatch
