import Mathlib.Data.List.Basic
import Mathlib.Data.List.DropRight
import Mathlib.Data.List.TakeWhile
import SchemaBatch.Sql.Scan

/-!
# `Proofs.Scanning` — what a scan of SQL text does

A scan tells quotes, comments and separators apart. It may start at a piece of a text and does not see
then what comes after the piece; what it sees in the piece is the same.

* `Text.joined_cut` — **what is cut can be put together again**.
* `Takes` — **one step of the scan**: the characters that it takes at once. Where a mark has two
  characters the step depends on what comes next, but what it does before a text it does before every
  beginning of the text (`Takes.of_beginning`).
* `Reads` — what a scan that does not fail gives, step by step; `label_eq_some_iff`.
* `Reads.pieces` — **each piece is read on its own as it is read in the whole**.
* `Reads.of_blank_end`, `strip_trim` — blanks around a statement do not matter.
-/

namespace SchemaBatch

/-! ## Pieces and what is put together from them -/

namespace Text

theorem joined_cons {separator piece : Text} {pieces : List Text} (h : pieces ≠ []) :
    joined separator (piece :: pieces) = piece ++ (separator ++ joined separator pieces) := by
  cases pieces with
  | nil => exact absurd rfl h
  | cons next pieces => simp [joined]

theorem joined_modifyHead (separator before : Text) {pieces : List Text} (h : pieces ≠ []) :
    joined separator (pieces.modifyHead (before ++ ·)) = before ++ joined separator pieces := by
  cases pieces with
  | nil => exact absurd rfl h
  | cons piece pieces =>
    cases pieces with
    | nil => simp [joined]
    | cons next pieces =>
      rw [List.modifyHead_cons, joined_cons (List.cons_ne_nil _ _), joined_cons (List.cons_ne_nil _ _),
        List.append_assoc]

variable {α : Type} {p : α → Bool}

theorem cut_cons_of_separator {x : α} (hx : p x = true) (xs : List α) :
    cut p (x :: xs) = [] :: cut p xs := by
  rw [cut, if_pos hx]

/-- What holds no separator stays in one piece with what comes after it. -/
theorem cut_append {xs : List α} (hxs : ∀ x ∈ xs, p x = false) (ys : List α) :
    cut p (xs ++ ys) = (cut p ys).modifyHead (xs ++ ·) := by
  induction xs with
  | nil =>
    cases h : cut p ys with
    | nil => exact absurd h (cut_ne_nil p ys)
    | cons piece pieces => simp [h]
  | cons x xs ih =>
    have hx := hxs x List.mem_cons_self
    rw [List.cons_append, cut, ih fun y hy => hxs y (List.mem_cons_of_mem x hy)]
    cases h : cut p ys with
    | nil => exact absurd h (cut_ne_nil p ys)
    | cons piece pieces => simp [hx]

/-- **What is cut can be put together again**, also when each element is rendered as a text, as long as
the separators are rendered as what is put between the pieces. -/
theorem joined_cut {separator : Text} (render : α → Text) {xs : List α}
    (h : ∀ x ∈ xs, p x = true → render x = separator) :
    joined separator ((cut p xs).map fun piece => piece.flatMap render) = xs.flatMap render := by
  induction xs with
  | nil => rfl
  | cons x xs ih =>
    have hrest := ih fun y hy => h y (List.mem_cons_of_mem x hy)
    have hne : (cut p xs).map (fun piece => piece.flatMap render) ≠ [] := by
      simpa using cut_ne_nil p xs
    by_cases hx : p x = true
    · rw [cut_cons_of_separator hx, List.map_cons, joined_cons hne, hrest, List.flatMap_cons,
        h x List.mem_cons_self hx]
      rfl
    · have hcut : cut p ([x] ++ xs) = (cut p xs).modifyHead ([x] ++ ·) :=
        cut_append (by simpa using hx) xs
      rw [List.singleton_append] at hcut
      rw [hcut, List.flatMap_cons, ← hrest, ← joined_modifyHead _ _ hne]
      cases cut p xs <;> rfl

/-! ### Blanks at the ends -/

/-- There is nothing but blanks in the text. -/
def AllBlank (s : Text) : Prop := ∀ c ∈ s, isBlank c = true

instance (s : Text) : Decidable s.AllBlank := List.decidableBAll (fun c => isBlank c = true) s

theorem trimStart_append {lead : Text} (h : lead.AllBlank) (s : Text) :
    trimStart (lead ++ s) = trimStart s := List.dropWhile_append_of_pos h

theorem trimEnd_append {tail : Text} (h : tail.AllBlank) (s : Text) :
    trimEnd (s ++ tail) = trimEnd s := by
  have hback : ∀ c ∈ tail.reverse, isBlank c = true := fun c hc => h c (List.mem_reverse.mp hc)
  unfold trimEnd
  rw [List.reverse_append, List.dropWhile_append_of_pos hback]

theorem trimEnd_trimEnd (s : Text) : trimEnd (trimEnd s) = trimEnd s :=
  List.rdropWhile_idempotent isBlank s

theorem trimEnd_prefix (s : Text) : trimEnd s <+: s := List.rdropWhile_prefix isBlank s

/-- What a text begins with that has no blank before it has none before it either, -/
theorem trimStart_of_prefix {s t : Text} (h : t <+: trimStart s) : trimStart t = t := by
  cases t with
  | nil => rfl
  | cons c t =>
    obtain ⟨after, hafter⟩ := h
    have hhead := List.head?_dropWhile_not isBlank s
    rw [← trimStart, ← hafter] at hhead
    have hc : isBlank c = false := by simpa using hhead
    rw [trimStart, List.dropWhile_cons_of_neg (by simp [hc])]

/-- and so it is with what it ends in. -/
theorem trimEnd_of_suffix {s t : Text} (h : t <:+ trimEnd s) : trimEnd t = t := by
  have hback : t.reverse <+: trimStart s.reverse := by
    rw [← List.reverse_reverse (trimStart s.reverse)]
    exact List.reverse_prefix.mpr h
  have htrim := trimStart_of_prefix hback
  rw [trimStart] at htrim
  rw [trimEnd, htrim, List.reverse_reverse]

/-- What is trimmed away from the end is blank. -/
theorem exists_eq_trimEnd_append (s : Text) : ∃ tail, s = trimEnd s ++ tail ∧ tail.AllBlank := by
  refine ⟨(s.reverse.takeWhile isBlank).reverse, ?_, ?_⟩
  · rw [trimEnd, ← List.reverse_append, List.takeWhile_append_dropWhile, List.reverse_reverse]
  · intro c hc
    exact List.mem_takeWhile_imp (List.mem_reverse.mp hc)

/-- Only blanks are trimmed away. -/
theorem exists_eq_append_trim_append (s : Text) :
    ∃ lead tail, s = lead ++ (trim s ++ tail) ∧ lead.AllBlank ∧ tail.AllBlank := by
  obtain ⟨tail, htail, hblank⟩ := exists_eq_trimEnd_append (trimStart s)
  refine ⟨s.takeWhile isBlank, tail, ?_, fun c hc => List.mem_takeWhile_imp hc, hblank⟩
  rw [trim, ← htail]
  exact List.takeWhile_append_dropWhile.symm

/-- A text without blanks at its ends is left as it is. -/
theorem trim_of_ends {s : Text} (hfirst : ∀ c ∈ s.head?, isBlank c = false)
    (hlast : ∀ c ∈ s.getLast?, isBlank c = false) : trim s = s := by
  have hself : ∀ {t : Text}, (∀ c ∈ t.head?, isBlank c = false) → t.dropWhile isBlank = t := by
    intro t ht
    cases t with
    | nil => rfl
    | cons c t => exact List.dropWhile_cons_of_neg (by simp [ht c rfl])
  have hback : ∀ c ∈ s.reverse.head?, isBlank c = false := by
    rw [List.head?_reverse]
    exact hlast
  rw [trim, trimStart, hself hfirst, trimEnd, hself hback, List.reverse_reverse]

theorem trim_append_append {lead tail : Text} (hlead : lead.AllBlank) (htail : tail.AllBlank)
    (s : Text) : trim (lead ++ (s ++ tail)) = trim s := by
  rw [trim, trimStart_append hlead]
  unfold trimStart
  rw [List.dropWhile_append]
  split
  · rename_i hempty
    have hs : s.dropWhile isBlank = [] := List.isEmpty_iff.mp hempty
    rw [List.dropWhile_eq_nil_iff.mpr htail, trim, trimStart, hs]
  · exact trimEnd_append htail _

/-- Only the blanks are trimmed away around a text that has none at its ends. -/
theorem trim_padded {lead s tail : Text} (hlead : lead.AllBlank) (htail : tail.AllBlank)
    (hfirst : ∀ c ∈ s.head?, isBlank c = false) (hlast : ∀ c ∈ s.getLast?, isBlank c = false) :
    trim (lead ++ (s ++ tail)) = s :=
  (trim_append_append hlead htail s).trans (trim_of_ends hfirst hlast)

end Text

namespace Sql

/-! ## One step of the scan -/

/-- In a region the scan takes these characters, gives them these roles, and goes on in the next region
with the rest of the text. -/
inductive Takes : Region → List (Char × Role) → Region → (rest : Text) → Prop where
  | code {c : Char} {rest : Text} (hquote : isQuoteMark c = false) (hhash : c ≠ '#') (hsep : c ≠ ';')
      (hline : c = '-' → rest.head? ≠ some '-') (hblock : c = '/' → rest.head? ≠ some '*') :
      Takes .outside [(c, .code)] .outside rest
  | separator {rest : Text} : Takes .outside [(';', .separator)] .outside rest
  | openQuote {c : Char} {rest : Text} (hquote : isQuoteMark c = true) :
      Takes .outside [(c, .quote)] (.inQuote c) rest
  | dashes {rest : Text} : Takes .outside [('-', .comment), ('-', .comment)] .lineComment rest
  | hash {rest : Text} : Takes .outside [('#', .comment)] .lineComment rest
  | openBlock {rest : Text} : Takes .outside [('/', .comment), ('*', .comment)] .blockComment rest
  | newline {rest : Text} : Takes .lineComment [('\n', .code)] .outside rest
  | line {c : Char} {rest : Text} (hc : c ≠ '\n') : Takes .lineComment [(c, .comment)] .lineComment rest
  | closeBlock {rest : Text} : Takes .blockComment [('*', .comment), ('/', .gap)] .outside rest
  | block {c : Char} {rest : Text} (hc : c = '*' → rest.head? ≠ some '/') :
      Takes .blockComment [(c, .comment)] .blockComment rest
  | escape {mark c : Char} {rest : Text} :
      Takes (.inQuote mark) [('\\', .quoted), (c, .quoted)] (.inQuote mark) rest
  | closeQuote {mark : Char} {rest : Text} (hc : mark = '\\' → rest = []) :
      Takes (.inQuote mark) [(mark, .quote)] .outside rest
  | quoted {mark c : Char} {rest : Text} (hne : c ≠ mark) (hc : c = '\\' → rest = []) :
      Takes (.inQuote mark) [(c, .quoted)] (.inQuote mark) rest

theorem head?_ne_of_beginning {rest rest' : Text} {c : Char} (h : rest' <+: rest)
    (hc : rest.head? ≠ some c) : rest'.head? ≠ some c := by
  obtain ⟨tail, rfl⟩ := h
  cases rest' with
  | nil => exact nofun
  | cons d rest' => exact hc

/-- What comes next is told by its first character, -/
theorem head?_ne_iff {P : Prop} {rest : Text} {c : Char} :
    (P → rest.head? ≠ some c) ↔ ∀ tail, P → rest = c :: tail → False := by
  cases rest <;> simp

/-- and the end of the text by there being none. -/
theorem eq_nil_iff {P : Prop} {rest : Text} :
    (P → rest = []) ↔ ∀ c tail, P → rest = c :: tail → False := by
  cases rest <;> simp

namespace Takes

variable {r next : Region} {taken : List (Char × Role)} {rest : Text}

/-- A step does not see where the text ends. -/
theorem of_beginning (h : Takes r taken next rest) {rest' : Text} (hp : rest' <+: rest) :
    Takes r taken next rest' := by
  cases h with
  | code hquote hhash hsep hline hblock =>
    exact .code hquote hhash hsep (fun hc => head?_ne_of_beginning hp (hline hc))
      fun hc => head?_ne_of_beginning hp (hblock hc)
  | separator => exact .separator
  | openQuote hquote => exact .openQuote hquote
  | dashes => exact .dashes
  | hash => exact .hash
  | openBlock => exact .openBlock
  | newline => exact .newline
  | line hc => exact .line hc
  | closeBlock => exact .closeBlock
  | block hc => exact .block fun hstar => head?_ne_of_beginning hp (hc hstar)
  | escape => exact .escape
  | closeQuote hc => exact .closeQuote fun hslash => List.prefix_nil.mp (hc hslash ▸ hp)
  | quoted hne hc => exact .quoted hne fun hslash => List.prefix_nil.mp (hc hslash ▸ hp)

/-- The scan does what the step says. -/
theorem label_eq (h : Takes r taken next rest) :
    label r (taken.map Prod.fst ++ rest) = (label next rest).map (taken ++ ·) := by
  cases h with
  | @code c rest hquote hhash hsep hline hblock =>
    rw [head?_ne_iff] at hline hblock
    simp [label, hquote, hhash, hsep]
  | separator => simp [label, isQuoteMark]
  | @openQuote c rest hquote =>
    -- a quotation mark begins no comment
    have hline : ∀ tail, c = '-' → rest = '-' :: tail → False := by
      rintro tail rfl _
      cases hquote
    have hblock : ∀ tail, c = '/' → rest = '*' :: tail → False := by
      rintro tail rfl _
      cases hquote
    simp [label, hquote]
  | dashes => simp [label]
  | hash => simp [label, isQuoteMark]
  | openBlock => simp [label]
  | newline => simp [label]
  | line hc => simp [label, hc]
  | closeBlock => simp [label]
  | @block c rest hc =>
    rw [head?_ne_iff] at hc
    simp [label]
  | escape => simp [label]
  | @closeQuote mark rest hc =>
    rw [eq_nil_iff] at hc
    simp [label]
  | @quoted mark c rest hne hc =>
    rw [eq_nil_iff] at hc
    simp [label, hne]

/-- A blank is no mark of any kind. -/
theorem blank {c : Char} (hc : isBlank c = true) : Takes .outside [(c, .code)] .outside rest := by
  refine .code ?_ ?_ ?_ ?_ ?_
  · cases hmark : isQuoteMark c with
    | false => rfl
    | true =>
      simp only [isQuoteMark, Bool.or_eq_true, beq_iff_eq] at hmark
      rcases hmark with (rfl | rfl) | rfl <;> cases hc
  all_goals rintro rfl; cases hc

/-- Only a semicolon separates, and only outside quotes and comments. -/
theorem separator_cases (h : Takes r taken next rest) :
    (∀ x ∈ taken, isSeparator x = false) ∨
      r = .outside ∧ taken = [(';', .separator)] ∧ next = .outside := by
  cases h with
  | separator => exact .inr ⟨rfl, rfl, rfl⟩
  | _ => exact .inl (by simp [isSeparator])

end Takes

/-! ## A whole scan -/

/-- A scan that starts in a region gives these labels and does not fail. -/
inductive Reads : Region → List (Char × Role) → Prop where
  /-- The text may end anywhere but in a block comment. -/
  | done {r : Region} (hr : r ≠ .blockComment) : Reads r []
  | step {r next : Region} {taken labels : List (Char × Role)}
      (h : Takes r taken next (labels.map Prod.fst)) (hrest : Reads next labels) :
      Reads r (taken ++ labels)

/-- The labels are those of a scan of the text. -/
def Spells (r : Region) (s : Text) (labels : List (Char × Role)) : Prop :=
  labels.map Prod.fst = s ∧ Reads r labels

theorem Spells.step {r next : Region} {taken labels : List (Char × Role)} {rest : Text}
    (ht : Takes r taken next rest)
    (hrest : ∀ {labels}, label next rest = some labels → Spells next rest labels)
    (h : (label next rest).map (taken ++ ·) = some labels) :
    Spells r (taken.map Prod.fst ++ rest) labels := by
  obtain ⟨labels, hlabels, rfl⟩ := Option.map_eq_some_iff.mp h
  obtain ⟨rfl, hreads⟩ := hrest hlabels
  exact ⟨List.map_append, .step ht hreads⟩

/-- What the scan gives is read off the text step by step. -/
theorem spells_of_label {r : Region} {s : Text} {labels : List (Char × Role)}
    (h : label r s = some labels) : Spells r s labels := by
  fun_induction label r s generalizing labels with
  | case1 => cases h
  | case2 r hr =>
    cases h
    exact ⟨rfl, .done hr⟩
  | case3 rest ih => exact .step .closeBlock ih h
  | case4 c rest hclose ih => exact .step (.block (head?_ne_iff.mpr hclose)) ih h
  | case5 c rest hc ih =>
    obtain rfl := eq_of_beq hc
    exact .step .newline ih h
  | case6 c rest hc ih => exact .step (.line (by simpa using hc)) ih h
  | case7 mark c rest ih => exact .step .escape ih h
  | case8 mark c rest hescape hc ih =>
    obtain rfl := eq_of_beq hc
    exact .step (.closeQuote (eq_nil_iff.mpr hescape)) ih h
  | case9 mark c rest hescape hc ih =>
    exact .step (.quoted (by simpa using hc) (eq_nil_iff.mpr hescape)) ih h
  | case10 rest ih => exact .step .dashes ih h
  | case11 rest ih => exact .step .openBlock ih h
  | case12 c rest hline hblock hquote ih => exact .step (.openQuote hquote) ih h
  | case13 c rest hline hblock hquote hhash ih =>
    obtain rfl := eq_of_beq hhash
    exact .step .hash ih h
  | case14 c rest hline hblock hquote hhash hsep ih =>
    obtain rfl := eq_of_beq hsep
    exact .step .separator ih h
  | case15 c rest hline hblock hquote hhash hsep ih =>
    exact .step (.code (by simpa using hquote) (by simpa using hhash) (by simpa using hsep)
      (head?_ne_iff.mpr hline) (head?_ne_iff.mpr hblock)) ih h

/-- **What the scan gives, step by step**, and nothing else. -/
theorem label_eq_some_iff {r : Region} {s : Text} {labels : List (Char × Role)} :
    label r s = some labels ↔ Spells r s labels := by
  refine ⟨spells_of_label, ?_⟩
  rintro ⟨rfl, h⟩
  induction h with
  | done hr => cases ‹Region› <;> first | exact absurd rfl hr | rfl
  | step ht hrest ih => rw [List.map_append, ht.label_eq, ih, Option.map_some]

namespace Reads

variable {r : Region} {labels : List (Char × Role)}

/-- What separates is a semicolon. -/
theorem eq_semicolon (h : Reads r labels) {x : Char × Role} (hx : x ∈ labels)
    (hsep : isSeparator x = true) : x = (';', .separator) := by
  induction h with
  | done => cases hx
  | step ht hrest ih =>
    rcases List.mem_append.mp hx with hx | hx
    · rcases ht.separator_cases with hnone | ⟨_, rfl, _⟩
      · cases hsep.symm.trans (hnone x hx)
      · exact List.mem_singleton.mp hx
    · exact ih hx

/-- **Each piece is read on its own as it is read in the whole**: the first from where the scan starts,
the others from outside of quotes and comments. -/
theorem pieces (h : Reads r labels) :
    ∃ first others, Sql.pieces labels = first :: others ∧ Reads r first ∧
      (∃ after, labels = first ++ after) ∧ ∀ piece ∈ others, Reads .outside piece := by
  induction h with
  | done hr => exact ⟨[], [], rfl, .done hr, ⟨[], rfl⟩, nofun⟩
  | @step r next taken labels ht hrest ih =>
    obtain ⟨first, others, hcut, hfirst, ⟨after, hafter⟩, hothers⟩ := ih
    rcases ht.separator_cases with hnone | ⟨rfl, rfl, rfl⟩
    · -- the step stays in the first piece, where it sees less of what comes next
      have hbeginning : first.map Prod.fst <+: labels.map Prod.fst := by
        rw [hafter, List.map_append]
        exact List.prefix_append _ _
      refine ⟨taken ++ first, others, ?_, .step (ht.of_beginning hbeginning) hfirst,
        ⟨after, by rw [hafter, List.append_assoc]⟩, hothers⟩
      unfold Sql.pieces at hcut ⊢
      rw [Text.cut_append hnone, hcut, List.modifyHead_cons]
    · refine ⟨[], first :: others, ?_, .done nofun, ⟨_, rfl⟩, ?_⟩
      · rw [List.singleton_append, Sql.pieces, Text.cut_cons_of_separator rfl, ← Sql.pieces, hcut]
      · intro piece hpiece
        rcases List.mem_cons.mp hpiece with rfl | hpiece
        · exact hfirst
        · exact hothers piece hpiece

/-- The pieces are the labels of their own texts. -/
theorem label_of_mem_pieces (h : Reads .outside labels) {piece : List (Char × Role)}
    (hpiece : piece ∈ Sql.pieces labels) :
    label .outside (piece.map Prod.fst) = some piece := by
  obtain ⟨first, others, hcut, hfirst, _, hothers⟩ := h.pieces
  rw [hcut] at hpiece
  refine label_eq_some_iff.mpr ⟨rfl, ?_⟩
  rcases List.mem_cons.mp hpiece with rfl | hpiece
  · exact hfirst
  · exact hothers piece hpiece

/-- The pieces make up the text again, -/
theorem joined_pieces (h : Reads r labels) :
    Text.joined [';'] ((Sql.pieces labels).map (·.map Prod.fst)) = labels.map Prod.fst := by
  have hself : ∀ x ∈ labels, isSeparator x = true → [x.1] = [';'] := by
    intro x hx hsep
    rw [h.eq_semicolon hx hsep]
  have hjoined := Text.joined_cut (fun x : Char × Role => [x.1]) hself
  simp only [← List.map_eq_flatMap] at hjoined
  exact hjoined

/-- and without their comments the text without its comments. -/
theorem joined_bare (h : Reads r labels) :
    Text.joined [';'] ((Sql.pieces labels).map bare) = bare labels := by
  have hkept : ∀ x ∈ labels, isSeparator x = true → (keep x).toList = [';'] := by
    intro x hx hsep
    rw [h.eq_semicolon hx hsep]
    rfl
  have hjoined := Text.joined_cut (fun x => (keep x).toList) hkept
  simp only [← List.filterMap_eq_flatMap_toList] at hjoined
  exact hjoined

end Reads

/-! ## Blanks at the ends -/

theorem bare_append (labels labels' : List (Char × Role)) :
    bare (labels ++ labels') = bare labels ++ bare labels' := List.filterMap_append

/-- Taking comments out of blanks leaves blanks. -/
theorem allBlank_bare {labels : List (Char × Role)} (h : Text.AllBlank (labels.map Prod.fst)) :
    Text.AllBlank (bare labels) := by
  intro c hc
  obtain ⟨x, hx, hkeep⟩ := List.mem_filterMap.mp hc
  have hblank := h x.1 (List.mem_map.mpr ⟨x, hx, rfl⟩)
  obtain ⟨d, role⟩ := x
  cases role <;> cases hkeep <;> first | exact hblank | rfl

/-- Blanks close no comment. -/
theorem Reads.not_blockComment {r : Region} {labels : List (Char × Role)} (h : Reads r labels)
    (hblank : Text.AllBlank (labels.map Prod.fst)) : r ≠ .blockComment := by
  induction h with
  | done hr => exact hr
  | step ht hrest ih =>
    rw [List.map_append] at hblank
    rintro rfl
    cases ht with
    | closeBlock => cases hblank '*' (by simp)
    | block => exact ih (fun c hc => hblank c (List.mem_append_right _ hc)) rfl

/-- A step takes one character or two, and of two the second is a blank only after a backslash. -/
theorem Takes.taken_cases {r next : Region} {taken : List (Char × Role)} {rest : Text}
    (h : Takes r taken next rest) :
    (∃ x, taken = [x]) ∨ (∃ x y, taken = [x, y] ∧ isBlank y.1 = false) ∨
      ∃ mark c, r = .inQuote mark ∧ taken = [('\\', .quoted), (c, .quoted)] := by
  cases h with
  | dashes => exact .inr (.inl ⟨_, _, rfl, rfl⟩)
  | openBlock => exact .inr (.inl ⟨_, _, rfl, rfl⟩)
  | closeBlock => exact .inr (.inl ⟨_, _, rfl, rfl⟩)
  | escape => exact .inr (.inr ⟨_, _, rfl, rfl⟩)
  | _ => exact .inl ⟨_, rfl⟩

/-- A step that reaches into blanks at the end can do without them. -/
theorem Takes.of_blank_end {r next : Region} {taken : List (Char × Role)} {rest s b : Text}
    (h : Takes r taken next rest) (hnext : next ≠ .blockComment) (hs : s ≠ [])
    (htaken : taken.map Prod.fst = s ++ b) (hb : Text.AllBlank b) :
    ∃ kept, label r s = some kept ∧ bare taken = bare kept ++ b := by
  by_cases hnone : b = []
  · obtain rfl : taken.map Prod.fst = s := by simpa [hnone] using htaken
    have hend : label next [] = some [] := label_eq_some_iff.mpr ⟨rfl, .done hnext⟩
    have hlabel := (h.of_beginning ⟨rest, List.nil_append rest⟩).label_eq
    rw [hend, List.append_nil] at hlabel
    exact ⟨taken, by simpa using hlabel, by simp [hnone]⟩
  · -- the step takes two characters, and the second is a blank
    obtain ⟨c, s, rfl⟩ := List.exists_cons_of_ne_nil hs
    obtain ⟨d, b, rfl⟩ := List.exists_cons_of_ne_nil hnone
    have hd := hb d List.mem_cons_self
    rcases h.taken_cases with ⟨x, rfl⟩ | ⟨x, y, rfl, hy⟩ | ⟨mark, e, rfl, rfl⟩
    · simp at htaken
    · obtain ⟨rfl, hrest⟩ := List.cons.inj htaken
      rcases List.singleton_eq_append_iff.mp hrest with ⟨rfl, hsecond⟩ | ⟨_, hsecond⟩
      · cases hsecond
        cases hd.symm.trans hy
      · cases hsecond
    · obtain ⟨rfl, hrest⟩ := List.cons.inj htaken
      rcases List.singleton_eq_append_iff.mp hrest with ⟨rfl, hsecond⟩ | ⟨_, hsecond⟩
      · cases hsecond
        by_cases hmark : mark = '\\'
        · exact ⟨[('\\', .quote)], by simp [label, hmark], rfl⟩
        · exact ⟨[('\\', .quoted)], by simp [label, Ne.symm hmark], rfl⟩
      · cases hsecond

/-- **What comes before blanks at the end is read by itself as it is read with them.** -/
theorem Reads.of_blank_end {r : Region} {labels : List (Char × Role)} (h : Reads r labels) {s b : Text}
    (hs : labels.map Prod.fst = s ++ b) (hb : Text.AllBlank b) :
    ∃ kept tail, label r s = some kept ∧ bare labels = bare kept ++ tail ∧ Text.AllBlank tail := by
  induction h generalizing s with
  | done hr =>
    obtain ⟨rfl, rfl⟩ := List.append_eq_nil_iff.mp hs.symm
    exact ⟨[], [], label_eq_some_iff.mpr ⟨rfl, .done hr⟩, rfl, nofun⟩
  | @step r next taken labels ht hrest ih =>
    rw [List.map_append] at hs
    rcases List.append_eq_append_iff.mp hs with ⟨s', rfl, hs'⟩ | ⟨b', htaken, rfl⟩
    · -- the step is before the blanks
      obtain ⟨kept, tail, hkept, hbare, htail⟩ := ih hs'
      have hbeginning : s' <+: labels.map Prod.fst := hs' ▸ List.prefix_append s' b
      refine ⟨taken ++ kept, tail, ?_, ?_, htail⟩
      · rw [(ht.of_beginning hbeginning).label_eq, hkept, Option.map_some]
      · rw [bare_append, hbare, bare_append, List.append_assoc]
    · -- what comes after the step is blank
      have hlabels : Text.AllBlank (labels.map Prod.fst) := fun c hc => hb c (List.mem_append_right _ hc)
      have hb' : Text.AllBlank b' := fun c hc => hb c (List.mem_append_left _ hc)
      by_cases hempty : s = []
      · subst hempty
        have hall : Text.AllBlank ((taken ++ labels).map Prod.fst) := by
          rw [List.map_append, htaken]
          exact hb
        have hr : r ≠ .blockComment := (Reads.step ht hrest).not_blockComment hall
        exact ⟨[], _, label_eq_some_iff.mpr ⟨rfl, .done hr⟩, rfl, allBlank_bare hall⟩
      · obtain ⟨kept, hkept, hbare⟩ :=
          ht.of_blank_end (hrest.not_blockComment hlabels) hempty htaken hb'
        refine ⟨kept, b' ++ bare labels, hkept, by rw [bare_append, hbare, List.append_assoc], ?_⟩
        intro c hc
        rcases List.mem_append.mp hc with hc | hc
        · exact hb' c hc
        · exact allBlank_bare hlabels c hc

/-- Blanks before a text are read as such. -/
theorem label_trimStart {s : Text} {labels : List (Char × Role)} (h : label .outside s = some labels) :
    ∃ kept lead, label .outside (Text.trimStart s) = some kept ∧ bare labels = lead ++ bare kept ∧
      lead.AllBlank := by
  induction s generalizing labels with
  | nil =>
    cases h
    exact ⟨[], [], rfl, rfl, nofun⟩
  | cons c s ih =>
    by_cases hc : isBlank c = true
    · have hcode : Takes .outside [(c, .code)] .outside s := .blank hc
      have hlabel := hcode.label_eq
      rw [List.map_singleton, List.singleton_append, h] at hlabel
      obtain ⟨rest, hrest, rfl⟩ := Option.map_eq_some_iff.mp hlabel.symm
      obtain ⟨kept, lead, hkept, hbare, hlead⟩ := ih hrest
      refine ⟨kept, c :: lead, ?_, ?_, ?_⟩
      · rw [Text.trimStart, List.dropWhile_cons_of_pos hc]
        exact hkept
      · rw [bare_append, hbare]
        rfl
      · intro d hd
        rcases List.mem_cons.mp hd with rfl | hd
        · exact hc
        · exact hlead d hd
    · refine ⟨labels, [], ?_, rfl, nofun⟩
      rw [Text.trimStart, List.dropWhile_cons_of_neg hc, h]

theorem tidy_append_append {lead tail : Text} (hlead : lead.AllBlank) (htail : tail.AllBlank)
    (s : Text) : tidy (lead ++ (s ++ tail)) = tidy s := by
  rw [tidy, Text.trim_append_append hlead htail, tidy]

/-- **Blanks around a statement do not matter.** -/
theorem strip_trim {s t : Text} (h : strip s = some t) : strip (Text.trim s) = some t := by
  obtain ⟨labels, hlabels, rfl⟩ := Option.map_eq_some_iff.mp h
  obtain ⟨kept, lead, hkept, hbare, hlead⟩ := label_trimStart hlabels
  obtain ⟨tail, htail, hblank⟩ := Text.exists_eq_trimEnd_append (Text.trimStart s)
  obtain ⟨hspells, hreads⟩ := label_eq_some_iff.mp hkept
  obtain ⟨last, tail', hlast, hbare', htail'⟩ := hreads.of_blank_end (hspells.trans htail) hblank
  rw [strip, Text.trim, hlast, Option.map_some, hbare, hbare', tidy_append_append hlead htail']

end Sql
end SchemaBatch
