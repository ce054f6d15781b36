import Mathlib.Data.List.DropRight
import SchemaBatch.Json

/-!
# `Proofs.JsonTexts` — the texts of a JSON value

A value has many texts: space stands between any two tokens, and a character of a string is written as itself
or by an escape. The texts are given by a grammar, and the reader, which runs on fuel, is proved to accept each
of them.

* `Numeral`, `Spelled`, `Written` — **the grammar** of numbers, of strings and of values.
* `Numeral.readNumber_append`, `Spelled.readString_append`, `Written.readValue_append` — **what the readers
  make of a text of the grammar** with something behind it.
* `Written.parse_eq` — the reader has fuel for every text of a value, and reads the value.
* `written_compact`, `parse_compact` — **the printed form of a value is one of its texts**, so it is read back.
-/

namespace SchemaBatch
namespace Json

/-! ## The grammar -/

/-- Space that may stand between tokens. -/
def AllSpace (t : Text) : Prop := ∀ c ∈ t, isSpace c = true

/-- A nonempty run of digits. -/
def Digits (t : Text) : Prop := t ≠ [] ∧ ∀ c ∈ t, c.isDigit = true

/-- An integer part: zero, or digits of which the first is not zero. -/
inductive Whole : Text → Prop where
  | zero : Whole ['0']
  | digits {t : Text} (h : Digits t) (hzero : t.head? ≠ some '0') : Whole t

/-- A fraction, which may be absent. -/
inductive Fraction : Text → Prop where
  | absent : Fraction []
  | present {t : Text} (h : Digits t) : Fraction ('.' :: t)

/-- An exponent, which may be absent. -/
inductive Exponent : Text → Prop where
  | absent : Exponent []
  | present {mark : Char} {sign t : Text} (hmark : isExponentMark mark = true)
      (hsign : sign = [] ∨ sign = ['+'] ∨ sign = ['-']) (h : Digits t) : Exponent (mark :: (sign ++ t))

/-- A number. -/
inductive Numeral : Text → Prop where
  | mk {sign whole fraction exponent : Text} (hsign : sign = [] ∨ sign = ['-']) (hwhole : Whole whole)
      (hfraction : Fraction fraction) (hexponent : Exponent exponent) :
      Numeral (sign ++ (whole ++ (fraction ++ exponent)))

/-- What stands between the quotes of a string, and the numbers of the characters it denotes. -/
inductive Spelled : Text → List Nat → Prop where
  | nil : Spelled [] []
  | plain {c : Char} {body : Text} {units : List Nat} (hquote : c ≠ '\x22') (hslash : c ≠ '\\')
      (hcontrol : 0x20 ≤ c.toNat) (h : Spelled body units) : Spelled (c :: body) (c.toNat :: units)
  | escape {e c : Char} {body : Text} {units : List Nat} (he : escaped? e = some c) (h : Spelled body units) :
      Spelled ('\\' :: e :: body) (c.toNat :: units)
  | unit {a b c d : Char} {n : Nat} {body : Text} {units : List Nat} (hn : hexUnit? a b c d = some n)
      (h : Spelled body units) : Spelled ('\\' :: 'u' :: a :: b :: c :: d :: body) (n :: units)

mutual

/-- The text of a value, with space between its tokens and none around it. -/
inductive Written : Json → Text → Prop where
  | nullWord : Written .null ['n', 'u', 'l', 'l']
  | trueWord : Written (.bool true) ['t', 'r', 'u', 'e']
  | falseWord : Written (.bool false) ['f', 'a', 'l', 's', 'e']
  | number {literal : Text} (h : Numeral literal) : Written (.number literal) literal
  | string {body : Text} {units : List Nat} (h : Spelled body units) :
      Written (.string (decode units)) ('\x22' :: (body ++ ['\x22']))
  | noItems {b : Text} (hb : AllSpace b) : Written (.array []) ('[' :: (b ++ [']']))
  | array {items : List Json} {t : Text} (h : WrittenItems items t) : Written (.array items) ('[' :: (t ++ [']']))
  | noMembers {b : Text} (hb : AllSpace b) : Written (.object []) ('\x7b' :: (b ++ ['\x7d']))
  | object {members : List (Option Text × Json)} {t : Text} (h : WrittenMembers members t) :
      Written (.object members) ('\x7b' :: (t ++ ['\x7d']))

/-- Items with commas between them, of which there is at least one. -/
inductive WrittenItems : List Json → Text → Prop where
  | last {b t b' : Text} {item : Json} (hb : AllSpace b) (h : Written item t) (hb' : AllSpace b') :
      WrittenItems [item] (b ++ (t ++ b'))
  | more {b t b' ts : Text} {item : Json} {items : List Json} (hb : AllSpace b) (h : Written item t)
      (hb' : AllSpace b') (hs : WrittenItems items ts) : WrittenItems (item :: items) (b ++ (t ++ (b' ++ ',' :: ts)))

/-- Members with commas between them, of which there is at least one. -/
inductive WrittenMembers : List (Option Text × Json) → Text → Prop where
  | last {m : Option Text × Json} {t : Text} (h : WrittenMember m t) : WrittenMembers [m] t
  | more {m : Option Text × Json} {members : List (Option Text × Json)} {t ts : Text} (h : WrittenMember m t)
      (hs : WrittenMembers members ts) : WrittenMembers (m :: members) (t ++ ',' :: ts)

/-- A key and its value. -/
inductive WrittenMember : Option Text × Json → Text → Prop where
  | mk {b body b₁ b₂ t b₃ : Text} {units : List Nat} {value : Json} (hb : AllSpace b) (hkey : Spelled body units)
      (hb₁ : AllSpace b₁) (hb₂ : AllSpace b₂) (h : Written value t) (hb₃ : AllSpace b₃) :
      WrittenMember (decode units, value)
        (b ++ '\x22' :: (body ++ '\x22' :: (b₁ ++ ':' :: (b₂ ++ (t ++ b₃)))))

end

/-! ## Space and digits -/

theorem isSpace_iff {c : Char} : isSpace c = true ↔ c = ' ' ∨ c = '\t' ∨ c = '\n' ∨ c = '\x0d' := by
  simp [isSpace, or_assoc]

theorem allSpace_nil : AllSpace [] := fun _ h => absurd h List.not_mem_nil

theorem skipSpace_append {b : Text} (hb : AllSpace b) (s : Text) : skipSpace (b ++ s) = skipSpace s :=
  List.dropWhile_append_of_pos hb

theorem skipSpace_cons {c : Char} (h : isSpace c = false) (s : Text) : skipSpace (c :: s) = c :: s :=
  List.dropWhile_cons_of_neg (by simp [h])

theorem skipSpace_skipSpace (s : Text) : skipSpace (skipSpace s) = skipSpace s :=
  List.dropWhile_idempotent isSpace s

/-- The text does not go on with a digit. -/
def NoDigit (s : Text) : Prop := ∀ c ∈ s.head?, c.isDigit = false

theorem readDigits_append {t s : Text} (h : Digits t) (hs : NoDigit s) : readDigits (t ++ s) = some (t, s) := by
  obtain ⟨hne, hdigits⟩ := h
  have hstop : s.takeWhile Char.isDigit = [] ∧ s.dropWhile Char.isDigit = s := by
    cases s with
    | nil => exact ⟨rfl, rfl⟩
    | cons c s =>
      have hc : c.isDigit = false := hs c rfl
      exact ⟨List.takeWhile_cons_of_neg (by simp [hc]), List.dropWhile_cons_of_neg (by simp [hc])⟩
  have htake : (t ++ s).takeWhile Char.isDigit = t := by
    rw [List.takeWhile_append_of_pos hdigits, hstop.1, List.append_nil]
  have hdrop : (t ++ s).dropWhile Char.isDigit = s := by
    rw [List.dropWhile_append_of_pos hdigits, hstop.2]
  unfold readDigits
  rw [htake, hdrop]
  cases t with
  | nil => exact absurd rfl hne
  | cons c t => rfl

/-! ## Numbers

A number is read up to the first character that cannot go on with it, so what stands behind it matters. -/

/-- The text does not go on with a number: no digit, no point and no mark of an exponent. -/
def NoNumber (s : Text) : Prop := ∀ c ∈ s.head?, c.isDigit = false ∧ c ≠ '.' ∧ isExponentMark c = false

theorem isDigit_eq_false_of_isExponentMark {c : Char} (h : isExponentMark c = true) : c.isDigit = false := by
  obtain rfl | rfl : c = 'e' ∨ c = 'E' := by simpa [isExponentMark] using h
  all_goals rfl

theorem Exponent.noDigit_append {t s : Text} (h : Exponent t) (hs : NoNumber s) : NoDigit (t ++ s) := by
  cases h with
  | absent => exact fun c hc => (hs c hc).1
  | present hmark hsign h =>
    rintro c hc
    cases hc
    exact isDigit_eq_false_of_isExponentMark hmark

theorem Fraction.noDigit_append {t t' s : Text} (h : Fraction t) (h' : Exponent t') (hs : NoNumber s) :
    NoDigit (t ++ (t' ++ s)) := by
  cases h with
  | absent => exact h'.noDigit_append hs
  | present h =>
    rintro c hc
    cases hc
    rfl

theorem Whole.readWhole_append {t s : Text} (h : Whole t) (hs : NoDigit s) : readWhole (t ++ s) = some (t, s) := by
  cases h with
  | zero =>
    have hnext : (s.head?.map Char.isDigit).getD false = false := by
      cases s with
      | nil => rfl
      | cons c s => exact hs c rfl
    simp [readWhole, hnext]
  | digits h hzero =>
    have hread := readDigits_append h hs
    obtain ⟨hne, -⟩ := h
    obtain ⟨c, t, rfl⟩ := List.exists_cons_of_ne_nil hne
    have hc : c ≠ '0' := fun hc => hzero (by simp [hc])
    rw [← hread, List.cons_append]
    unfold readWhole
    split
    · rename_i heq; cases heq; exact absurd rfl hc
    · rfl

theorem Fraction.readFraction_append {t t' s : Text} (h : Fraction t) (h' : Exponent t') (hs : NoNumber s) :
    readFraction (t ++ (t' ++ s)) = some (t, t' ++ s) := by
  cases h with
  | absent =>
    have hpoint : ∀ c ∈ (t' ++ s).head?, c ≠ '.' := by
      cases h' with
      | absent => exact fun c hc => (hs c hc).2.1
      | present hmark hsign h =>
        rintro c hc rfl
        cases hc
        exact absurd hmark (by decide)
    rw [List.nil_append]
    unfold readFraction
    split
    · rename_i heq; exact absurd rfl (hpoint '.' (by simp [heq]))
    · rfl
  | present h => simp [readFraction, readDigits_append h (h'.noDigit_append hs)]

theorem readSign_append {sign t s : Text} (hsign : sign = [] ∨ sign = ['+'] ∨ sign = ['-']) (h : Digits t) :
    readSign (sign ++ (t ++ s)) = (sign, t ++ s) := by
  obtain rfl | rfl | rfl := hsign
  · obtain ⟨hne, hdigits⟩ := h
    obtain ⟨c, t, rfl⟩ := List.exists_cons_of_ne_nil hne
    have hc : c.isDigit = true := hdigits c List.mem_cons_self
    rw [List.nil_append, List.cons_append]
    unfold readSign
    split
    · rename_i heq; cases heq; exact absurd hc (by decide)
    · rename_i heq; cases heq; exact absurd hc (by decide)
    · rfl
  · rfl
  · rfl

theorem Exponent.readExponent_append {t s : Text} (h : Exponent t) (hs : NoNumber s) :
    readExponent (t ++ s) = some (t, s) := by
  cases h with
  | absent =>
    cases s with
    | nil => rfl
    | cons c s => simp [readExponent, (hs c rfl).2.2]
  | present hmark hsign h =>
    have hnext : NoDigit s := fun c hc => (hs c hc).1
    simp [readExponent, hmark, readSign_append hsign h, readDigits_append h hnext]

theorem Whole.exists_cons {t : Text} (h : Whole t) : ∃ c t', t = c :: t' ∧ c.isDigit = true := by
  cases h with
  | zero => exact ⟨'0', [], rfl, rfl⟩
  | digits h hzero =>
    obtain ⟨hne, hdigits⟩ := h
    obtain ⟨c, t, rfl⟩ := List.exists_cons_of_ne_nil hne
    exact ⟨c, t, rfl, hdigits c List.mem_cons_self⟩

/-- The literal of a number is read back with what stands behind it left over. -/
theorem Numeral.readNumber_append {t s : Text} (h : Numeral t) (hs : NoNumber s) :
    readNumber (t ++ s) = some (t, s) := by
  cases h with
  | @mk sign whole fraction exponent hsign hwhole hfraction hexponent =>
    have hunsigned : readUnsigned (whole ++ (fraction ++ (exponent ++ s))) =
        some (whole ++ (fraction ++ exponent), s) := by
      simp [readUnsigned, hwhole.readWhole_append (hfraction.noDigit_append hexponent hs),
        hfraction.readFraction_append hexponent hs, hexponent.readExponent_append hs]
    obtain rfl | rfl := hsign
    · -- no integer part begins with the sign
      obtain ⟨c, whole, rfl, hc⟩ := hwhole.exists_cons
      simp only [List.nil_append, List.append_assoc, List.cons_append] at hunsigned ⊢
      unfold readNumber
      split
      · rename_i heq; cases heq; exact absurd hc (by decide)
      · exact hunsigned
    · simp [readNumber, hunsigned]

/-! ## Strings -/

theorem readString_plain {c : Char} (hquote : c ≠ '\x22') (hslash : c ≠ '\\') (hcontrol : 0x20 ≤ c.toNat)
    (s : Text) : readString (c :: s) = (readString s).map fun r => (c.toNat :: r.1, r.2) := by
  have hkept : (c == '\\' || decide (c.toNat < 0x20)) = false := by simp [hslash, Nat.not_lt.mpr hcontrol]
  rw [readString.eq_def]
  split
  · rename_i heq; cases heq
  · rename_i heq; cases heq; exact absurd rfl hquote
  · rename_i heq; cases heq; exact absurd rfl hslash
  · rename_i heq; cases heq; exact absurd rfl hslash
  · rename_i heq; cases heq
    rw [hkept]
    cases readString s <;> rfl

theorem readString_escape {e c : Char} (he : escaped? e = some c) (s : Text) :
    readString ('\\' :: e :: s) = (readString s).map fun r => (c.toNat :: r.1, r.2) := by
  have hunit : e ≠ 'u' := by rintro rfl; simp [escaped?] at he
  rw [readString.eq_def]
  split
  · rename_i heq; cases heq
  · rename_i heq; cases heq
  · rename_i heq; cases heq; exact absurd rfl hunit
  · rename_i heq; cases heq
    rw [he]
    cases readString s <;> rfl
  · rename_i hother heq; cases heq; exact (hother _ _ rfl rfl).elim

theorem readString_unit {a b c d : Char} {n : Nat} (hn : hexUnit? a b c d = some n) (s : Text) :
    readString ('\\' :: 'u' :: a :: b :: c :: d :: s) = (readString s).map fun r => (n :: r.1, r.2) := by
  rw [readString, hn]
  cases readString s <;> rfl

/-- A string is read up to its closing quote. -/
theorem Spelled.readString_append {body : Text} {units : List Nat} (h : Spelled body units) (s : Text) :
    readString (body ++ '\x22' :: s) = some (units, s) := by
  induction h with
  | nil => rfl
  | plain hquote hslash hcontrol _ ih => rw [List.cons_append, readString_plain hquote hslash hcontrol, ih]; rfl
  | escape he _ ih => rw [List.cons_append, List.cons_append, readString_escape he, ih]; rfl
  | unit hn _ ih =>
    simp only [List.cons_append]
    rw [readString_unit hn, ih]; rfl

/-! ## Values

A value, its items and its members are read by recursion on the grammar. Two units of fuel for each character
are enough: a value needs one for itself and one for the run of items or members inside its brackets. -/

theorem NoNumber.cons {c : Char} (h : c.isDigit = false ∧ c ≠ '.' ∧ isExponentMark c = false) (s : Text) :
    NoNumber (c :: s) := by
  rintro _ hc
  cases hc
  exact h

theorem NoNumber.append {b s : Text} (hb : AllSpace b) (hs : NoNumber s) : NoNumber (b ++ s) := by
  cases b with
  | nil => exact hs
  | cons c b =>
    obtain rfl | rfl | rfl | rfl := isSpace_iff.mp (hb c List.mem_cons_self)
    all_goals exact NoNumber.cons ⟨rfl, by decide, rfl⟩ _

theorem readValue_skipSpace (fuel : Nat) (s : Text) : readValue fuel (skipSpace s) = readValue fuel s := by
  cases fuel with
  | zero => rfl
  | succ fuel => rw [readValue, readValue, skipSpace_skipSpace]

theorem readValue_append_space (fuel : Nat) {b : Text} (hb : AllSpace b) (s : Text) :
    readValue fuel (b ++ s) = readValue fuel s := by
  rw [← readValue_skipSpace, skipSpace_append hb, readValue_skipSpace]

theorem readItems_skipSpace (fuel : Nat) (s : Text) : readItems fuel (skipSpace s) = readItems fuel s := by
  cases fuel with
  | zero => rfl
  | succ fuel => rw [readItems, readItems, readValue_skipSpace]

theorem readMembers_skipSpace (fuel : Nat) (s : Text) : readMembers fuel (skipSpace s) = readMembers fuel s := by
  cases fuel with
  | zero => rfl
  | succ fuel => rw [readMembers, readMembers, skipSpace_skipSpace]

theorem readValue_string (fuel : Nat) (s : Text) : readValue (fuel + 1) ('\x22' :: s) =
    (readString s).map fun r => (.string (decode r.1), r.2) := rfl

theorem readValue_noItems (fuel : Nat) {b : Text} (hb : AllSpace b) (s : Text) :
    readValue (fuel + 1) ('[' :: (b ++ ']' :: s)) = some (.array [], s) := by
  have hclose : skipSpace (b ++ ']' :: s) = ']' :: s := skipSpace_append hb _
  rw [readValue, skipSpace_cons rfl]
  simp only [hclose]

theorem readValue_array (fuel : Nat) {s : Text} (hs : ∀ rest, skipSpace s ≠ ']' :: rest) :
    readValue (fuel + 1) ('[' :: s) = (readItems fuel s).map fun r => (.array r.1, r.2) := by
  rw [readValue, skipSpace_cons rfl, ← readItems_skipSpace]
  simp only

theorem readValue_noMembers (fuel : Nat) {b : Text} (hb : AllSpace b) (s : Text) :
    readValue (fuel + 1) ('\x7b' :: (b ++ '\x7d' :: s)) = some (.object [], s) := by
  have hclose : skipSpace (b ++ '\x7d' :: s) = '\x7d' :: s := skipSpace_append hb _
  rw [readValue, skipSpace_cons rfl]
  simp only [hclose]

theorem readValue_object (fuel : Nat) {s : Text} (hs : ∀ rest, skipSpace s ≠ '\x7d' :: rest) :
    readValue (fuel + 1) ('\x7b' :: s) = (readMembers fuel s).map fun r => (.object r.1, r.2) := by
  rw [readValue, skipSpace_cons rfl, ← readMembers_skipSpace]
  simp only

/-- No number begins with space. -/
theorem isSpace_eq_false_of_number {c : Char} (h : c = '-' ∨ c.isDigit = true) : isSpace c = false := by
  refine Bool.eq_false_iff.mpr fun hspace => ?_
  obtain rfl | rfl | rfl | rfl := isSpace_iff.mp hspace
  all_goals exact absurd h (by decide)

theorem readValue_number (fuel : Nat) {c : Char} (hc : c = '-' ∨ c.isDigit = true) (s : Text) :
    readValue (fuel + 1) (c :: s) = (readNumber (c :: s)).map fun r => (.number r.1, r.2) := by
  rw [readValue, skipSpace_cons (isSpace_eq_false_of_number hc)]
  split
  case h_7 => rfl
  -- the marks of the other values are no digits
  all_goals
    rename_i heq
    cases heq
    exact absurd hc (by decide)

theorem Numeral.exists_cons {t : Text} (h : Numeral t) : ∃ c t', t = c :: t' ∧ (c = '-' ∨ c.isDigit = true) := by
  obtain ⟨rfl | rfl, hwhole, -, -⟩ := h
  · obtain ⟨c, t, rfl, hc⟩ := hwhole.exists_cons
    exact ⟨c, _, rfl, .inr hc⟩
  · exact ⟨'-', _, rfl, .inl rfl⟩

/-- A value begins with a character that is neither space nor closes an array. -/
theorem Written.exists_cons {j : Json} {t : Text} (h : Written j t) :
    ∃ c t', t = c :: t' ∧ isSpace c = false ∧ c ≠ ']' := by
  cases h with
  | number h =>
    obtain ⟨c, t, rfl, hc⟩ := h.exists_cons
    refine ⟨c, t, rfl, isSpace_eq_false_of_number hc, ?_⟩
    rintro rfl
    exact absurd hc (by decide)
  | nullWord | trueWord | falseWord | string | noItems | array | noMembers | object =>
    exact ⟨_, _, rfl, rfl, by decide⟩

theorem Written.length_pos {j : Json} {t : Text} (h : Written j t) : 0 < t.length := by
  obtain ⟨c, t, rfl, -⟩ := h.exists_cons
  exact Nat.succ_pos _

theorem WrittenItems.skipSpace_ne {items : List Json} {t : Text} (h : WrittenItems items t) (s rest : Text) :
    skipSpace (t ++ s) ≠ ']' :: rest := by
  have hne : ∀ {b t u : Text} {item : Json}, AllSpace b → Written item t →
      skipSpace (b ++ (t ++ u)) ≠ ']' :: rest := by
    intro b t u item hb h heq
    obtain ⟨c, t, rfl, hspace, hc⟩ := h.exists_cons
    rw [skipSpace_append hb, List.cons_append, skipSpace_cons hspace] at heq
    cases heq
    exact hc rfl
  cases h with
  | last hb h hb' => simpa using hne hb h
  | more hb h hb' hs => simpa using hne hb h

theorem WrittenMember.skipSpace_append {m : Option Text × Json} {t : Text} (h : WrittenMember m t) (s : Text) :
    ∃ t', skipSpace (t ++ s) = '\x22' :: t' := by
  obtain ⟨hb, -, -, -, -, -⟩ := h
  exact ⟨_, by rw [List.append_assoc, Json.skipSpace_append hb, List.cons_append, skipSpace_cons rfl]⟩

theorem WrittenMembers.skipSpace_ne {members : List (Option Text × Json)} {t : Text} (h : WrittenMembers members t)
    (s rest : Text) : skipSpace (t ++ s) ≠ '\x7d' :: rest := by
  have hquote : ∃ t', skipSpace (t ++ s) = '\x22' :: t' := by
    cases h with
    | last h => exact h.skipSpace_append s
    | more h hs => simpa using h.skipSpace_append _
  obtain ⟨t', hquote⟩ := hquote
  rw [hquote]
  simp

mutual

/-- A value is read up to where its text ends. -/
theorem Written.readValue_append {j : Json} {t : Text} (h : Written j t) (fuel : Nat) (s : Text)
    (hfuel : 2 * t.length ≤ fuel) (hs : NoNumber s) : readValue fuel (t ++ s) = some (j, s) := by
  obtain ⟨fuel, rfl⟩ : ∃ f, fuel = f + 1 := ⟨fuel - 1, by have := h.length_pos; omega⟩
  cases h with
  | nullWord | trueWord | falseWord => rfl
  | number h =>
    obtain ⟨c, t, rfl, hc⟩ := h.exists_cons
    have hread := h.readNumber_append hs
    rw [List.cons_append] at hread ⊢
    rw [readValue_number fuel hc, hread]
    rfl
  | string h =>
    have hread := h.readString_append s
    simp only [List.cons_append, List.append_assoc, List.nil_append]
    rw [readValue_string, hread]
    rfl
  | noItems hb =>
    simp only [List.cons_append, List.append_assoc, List.nil_append]
    exact readValue_noItems fuel hb s
  | array h =>
    have hread := h.readItems_append fuel s (by simp at hfuel; omega)
    simp only [List.cons_append, List.append_assoc, List.nil_append]
    rw [readValue_array fuel (h.skipSpace_ne _), hread]
    rfl
  | noMembers hb =>
    simp only [List.cons_append, List.append_assoc, List.nil_append]
    exact readValue_noMembers fuel hb s
  | object h =>
    have hread := h.readMembers_append fuel s (by simp at hfuel; omega)
    simp only [List.cons_append, List.append_assoc, List.nil_append]
    rw [readValue_object fuel (h.skipSpace_ne _), hread]
    rfl

theorem WrittenItems.readItems_append {items : List Json} {t : Text} (h : WrittenItems items t) (fuel : Nat)
    (s : Text) (hfuel : 2 * t.length + 1 ≤ fuel) : readItems fuel (t ++ ']' :: s) = some (items, s) := by
  obtain ⟨fuel, rfl⟩ : ∃ f, fuel = f + 1 := ⟨fuel - 1, by omega⟩
  cases h with
  | last hb h hb' =>
    have hread := h.readValue_append fuel _ (by simp at hfuel; omega)
      (NoNumber.append hb' (NoNumber.cons (c := ']') ⟨rfl, by decide, rfl⟩ s))
    have hclose : skipSpace (_ ++ ']' :: s) = ']' :: s := skipSpace_append hb' _
    simp only [List.append_assoc]
    rw [readItems, readValue_append_space fuel hb, hread]
    simp [hclose]
  | @more _ _ _ ts _ _ hb h hb' hs =>
    have hread := h.readValue_append fuel _ (by simp at hfuel; omega)
      (NoNumber.append hb' (NoNumber.cons (c := ',') ⟨rfl, by decide, rfl⟩ (ts ++ ']' :: s)))
    have hcomma : skipSpace (_ ++ ',' :: (ts ++ ']' :: s)) = ',' :: (ts ++ ']' :: s) := skipSpace_append hb' _
    have hrest := hs.readItems_append fuel s (by simp at hfuel; omega)
    simp only [List.append_assoc, List.cons_append]
    rw [readItems, readValue_append_space fuel hb, hread]
    simp [hcomma, hrest]

theorem WrittenMembers.readMembers_append {members : List (Option Text × Json)} {t : Text}
    (h : WrittenMembers members t) (fuel : Nat) (s : Text) (hfuel : 2 * t.length + 1 ≤ fuel) :
    readMembers fuel (t ++ '\x7d' :: s) = some (members, s) := by
  obtain ⟨fuel, rfl⟩ : ∃ f, fuel = f + 1 := ⟨fuel - 1, by omega⟩
  cases h with
  | last h => exact (h.readMembers_append fuel s (by omega)).2
  | @more _ _ _ ts h hs =>
    have hrest := hs.readMembers_append fuel s (by simp at hfuel; omega)
    rw [List.append_assoc, List.cons_append,
      (h.readMembers_append fuel (ts ++ '\x7d' :: s) (by simp at hfuel; omega)).1, hrest]
    rfl

/-- Behind a member, a comma is followed by the other members, and a brace closes the object. -/
theorem WrittenMember.readMembers_append {m : Option Text × Json} {t : Text} (h : WrittenMember m t) (fuel : Nat)
    (s : Text) (hfuel : 2 * t.length ≤ fuel) :
    readMembers (fuel + 1) (t ++ ',' :: s) = (readMembers fuel s).map (fun r => (m :: r.1, r.2)) ∧
      readMembers (fuel + 1) (t ++ '\x7d' :: s) = some ([m], s) := by
  cases h with
  | @mk b body b₁ b₂ t b₃ units value hb hkey hb₁ hb₂ h hb₃ =>
    have hopen : ∀ u, skipSpace (b ++ '\x22' :: u) = '\x22' :: u := fun u => skipSpace_append hb _
    have hcolon : ∀ u, skipSpace (b₁ ++ ':' :: u) = ':' :: u := fun u => skipSpace_append hb₁ _
    have hread : ∀ u, NoNumber u → readValue fuel (b₂ ++ (t ++ (b₃ ++ u))) = some (value, b₃ ++ u) := by
      intro u hu
      rw [readValue_append_space fuel hb₂]
      exact h.readValue_append fuel _ (by simp at hfuel; omega) (NoNumber.append hb₃ hu)
    simp only [List.append_assoc, List.cons_append]
    constructor
    · have hvalue := hread (',' :: s) (NoNumber.cons ⟨rfl, by decide, rfl⟩ s)
      have hcomma : skipSpace (b₃ ++ ',' :: s) = ',' :: s := skipSpace_append hb₃ _
      rw [readMembers, hopen]
      simp only [hkey.readString_append, Option.bind_eq_bind, Option.bind_some, hcolon, hvalue, hcomma]
      cases readMembers fuel s <;> rfl
    · have hvalue := hread ('\x7d' :: s) (NoNumber.cons ⟨rfl, by decide, rfl⟩ s)
      have hclose : skipSpace (b₃ ++ '\x7d' :: s) = '\x7d' :: s := skipSpace_append hb₃ _
      rw [readMembers, hopen]
      simp only [hkey.readString_append, Option.bind_eq_bind, Option.bind_some, hcolon, hvalue, hclose]

end

/-- A text of a value, with space around it, is read as the value. -/
theorem Written.parse_eq {j : Json} {b t b' : Text} (hb : AllSpace b) (h : Written j t) (hb' : AllSpace b') :
    parse (b ++ (t ++ b')) = some j := by
  have hspaces : skipSpace b' = [] := List.dropWhile_eq_nil_iff.mpr hb'
  have hend : NoNumber b' := by simpa using NoNumber.append hb' (s := []) (by rintro _ ⟨⟩)
  have hread : readValue (2 * (b ++ (t ++ b')).length + 2) (b ++ (t ++ b')) = some (j, b') := by
    rw [readValue_append_space _ hb]
    exact h.readValue_append _ _ (by simp; omega) hend
  unfold parse
  rw [hread]
  simp [hspaces]

/-! ## Printed values -/

theorem Spelled.append {t t' : Text} {ns ns' : List Nat} (h : Spelled t ns) (h' : Spelled t' ns') :
    Spelled (t ++ t') (ns ++ ns') := by
  induction h with
  | nil => exact h'
  | plain hquote hslash hcontrol _ ih => exact .plain hquote hslash hcontrol ih
  | escape he _ ih => exact .escape he ih
  | unit hn _ ih => exact .unit hn ih

theorem hexUnit?_digitChar : ∀ n < 0x20,
    hexUnit? '0' '0' (Nat.digitChar (n / 16)) (Nat.digitChar (n % 16)) = some n := by decide

theorem spelled_escapeChar (c : Char) : Spelled (escapeChar c) [c.toNat] := by
  unfold escapeChar
  split_ifs with hquote hslash hback hfeed hline hreturn htab hcontrol
  · cases beq_iff_eq.mp hquote; exact .escape rfl .nil
  · cases beq_iff_eq.mp hslash; exact .escape rfl .nil
  · cases beq_iff_eq.mp hback; exact .escape rfl .nil
  · cases beq_iff_eq.mp hfeed; exact .escape rfl .nil
  · cases beq_iff_eq.mp hline; exact .escape rfl .nil
  · cases beq_iff_eq.mp hreturn; exact .escape rfl .nil
  · cases beq_iff_eq.mp htab; exact .escape rfl .nil
  · exact .unit (hexUnit?_digitChar _ hcontrol) .nil
  · exact .plain (by simpa using hquote) (by simpa using hslash) (Nat.not_lt.mp hcontrol) .nil

theorem spelled_flatMap (s : Text) : Spelled (s.flatMap escapeChar) (s.map Char.toNat) := by
  induction s with
  | nil => exact .nil
  | cons c s ih => exact (spelled_escapeChar c).append ih

/-- No character is a surrogate. -/
theorem surrogate_toNat (c : Char) : isHighSurrogate c.toNat = false ∧ isLowSurrogate c.toNat = false := by
  have hvalid : c.toNat < 0xD800 ∨ 0xDFFF < c.toNat ∧ c.toNat < 0x110000 := c.valid
  simp only [isHighSurrogate, isLowSurrogate, Bool.and_eq_false_iff, decide_eq_false_iff_not]
  omega

theorem decode_map_toNat (s : Text) : decode (s.map Char.toNat) = some s := by
  induction s with
  | nil => rfl
  | cons c s ih =>
    obtain ⟨hhigh, hlow⟩ := surrogate_toNat c
    rw [List.map_cons, decode.eq_def]
    simp [hhigh, hlow, ih, Char.ofNat_toNat]

theorem exists_spelled_quote (s : Option Text) :
    ∃ body units, quote s = '\x22' :: (body ++ ['\x22']) ∧ Spelled body units ∧ decode units = s := by
  cases s with
  | some s => exact ⟨_, _, rfl, spelled_flatMap s, decode_map_toNat s⟩
  | none => exact ⟨"\\ud800".toList, [0xD800], rfl, .unit rfl .nil, rfl⟩

/-- The numbers in the value are numbers of the grammar. -/
inductive Proper : Json → Prop where
  | null : Proper .null
  | bool (b : Bool) : Proper (.bool b)
  | number {literal : Text} (h : Numeral literal) : Proper (.number literal)
  | string (s : Option Text) : Proper (.string s)
  | array {items : List Json} (h : ∀ item ∈ items, Proper item) : Proper (.array items)
  | object {members : List (Option Text × Json)} (h : ∀ m ∈ members, Proper m.2) : Proper (.object members)

theorem compactItems_eq (items : List Json) : compactItems items = items.map compact := by
  induction items with
  | nil => rfl
  | cons item items ih => rw [compactItems, ih, List.map_cons]

theorem compactMembers_eq (members : List (Option Text × Json)) :
    compactMembers members = members.map fun m => quote m.1 ++ ':' :: compact m.2 := by
  induction members with
  | nil => rfl
  | cons m members ih => rw [compactMembers, ih, List.map_cons]

theorem writtenItems_joined {items : List Json} (hne : items ≠ [])
    (h : ∀ item ∈ items, Written item (compact item)) :
    WrittenItems items (Text.joined [','] (items.map compact)) := by
  induction items with
  | nil => exact absurd rfl hne
  | cons item items ih =>
    obtain ⟨hitem, hitems⟩ := List.forall_mem_cons.mp h
    cases items with
    | nil => simpa [Text.joined] using WrittenItems.last allSpace_nil hitem allSpace_nil
    | cons item' items =>
      have hrest := ih (List.cons_ne_nil _ _) hitems
      simpa [Text.joined] using WrittenItems.more allSpace_nil hitem allSpace_nil hrest

theorem writtenMember_compact {m : Option Text × Json} (h : Written m.2 (compact m.2)) :
    WrittenMember m (quote m.1 ++ ':' :: compact m.2) := by
  obtain ⟨key, value⟩ := m
  obtain ⟨body, units, hquote, hspelled, rfl⟩ := exists_spelled_quote key
  rw [hquote]
  simpa using WrittenMember.mk allSpace_nil hspelled allSpace_nil allSpace_nil h allSpace_nil

theorem writtenMembers_joined {members : List (Option Text × Json)} (hne : members ≠ [])
    (h : ∀ m ∈ members, Written m.2 (compact m.2)) :
    WrittenMembers members (Text.joined [','] (members.map fun m => quote m.1 ++ ':' :: compact m.2)) := by
  induction members with
  | nil => exact absurd rfl hne
  | cons m members ih =>
    obtain ⟨hm, hmembers⟩ := List.forall_mem_cons.mp h
    cases members with
    | nil => simpa [Text.joined] using WrittenMembers.last (writtenMember_compact hm)
    | cons m' members =>
      have hrest := ih (List.cons_ne_nil _ _) hmembers
      simpa [Text.joined] using WrittenMembers.more (writtenMember_compact hm) hrest

/-- The printed form of a value is one of its texts. -/
theorem written_compact {j : Json} (h : Proper j) : Written j (compact j) := by
  induction h with
  | null => exact .nullWord
  | bool b => cases b <;> constructor
  | number h => exact .number h
  | string s =>
    obtain ⟨body, units, hquote, hspelled, rfl⟩ := exists_spelled_quote s
    rw [compact, hquote]
    exact .string hspelled
  | @array items _ ih =>
    rw [compact, compactItems_eq]
    by_cases hne : items = []
    · subst hne
      exact .noItems allSpace_nil
    · exact .array (writtenItems_joined hne ih)
  | @object members _ ih =>
    rw [compact, compactMembers_eq]
    by_cases hne : members = []
    · subst hne
      exact .noMembers allSpace_nil
    · exact .object (writtenMembers_joined hne ih)

theorem parse_compact {j : Json} (h : Proper j) : parse (compact j) = some j := by
  simpa using Written.parse_eq allSpace_nil (written_compact h) allSpace_nil

/-! ## Natural numbers -/

theorem digits_numeral (n : Nat) : Digits (Text.numeral n) :=
  ⟨Nat.toDigits_ne_nil, fun _ hc => Nat.isDigit_of_mem_toDigits (by decide) (by decide) hc⟩

theorem head?_numeral {n : Nat} (h : n ≠ 0) : (Text.numeral n).head? ≠ some '0' := by
  induction n using Nat.strongRecOn with
  | ind n ih =>
    unfold Text.numeral
    by_cases hlt : n < 10
    · rw [Nat.toDigits_of_lt_base hlt]
      simpa using h
    · have hle : 10 ≤ n := Nat.not_lt.mp hlt
      rw [Nat.toDigits_of_base_le (by decide) hle, List.head?_append_of_ne_nil _ Nat.toDigits_ne_nil]
      exact ih (n / 10) (Nat.div_lt_self (by omega) (by decide)) (by omega)

theorem numeral_numeral (n : Nat) : Numeral (Text.numeral n) := by
  have hwhole : Whole (Text.numeral n) := by
    by_cases h : n = 0
    · subst h; exact .zero
    · exact .digits (digits_numeral n) (head?_numeral h)
  simpa using Numeral.mk (.inl rfl) hwhole .absent .absent

theorem asWord?_nat {n : Nat} (h : n ≤ Text.maxWord) : (nat n).asWord? = some n := by
  have hvalue : Text.toNat (Text.numeral n) = n := Nat.ofDigitChars_ten_toDigits
  obtain ⟨hne, hdigits⟩ := digits_numeral n
  have hall : (Text.numeral n).all Char.isDigit = true := List.all_eq_true.mpr hdigits
  simp [nat, asWord?, Text.word?, hvalue, hne, hall, h]

theorem asWord?_le {j : Json} {n : Nat} (h : j.asWord? = some n) : n ≤ Text.maxWord := by
  cases j with
  | number literal =>
    simp only [asWord?, Text.word?, Option.ite_none_right_eq_some, Bool.and_eq_true, decide_eq_true_eq,
      Option.some.injEq] at h
    exact h.2 ▸ h.1.2
  | null | bool | string | array | object => cases h

end Json
end SchemaBatch
