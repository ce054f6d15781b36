import Mathlib.Data.List.Chain
import SchemaBatch.Proofs.Passages
import SchemaBatch.Proofs.ScriptReadings

/-!
# `Proofs.StrippedText` — what is left of a text is read as it stands

When a comment is taken out, what was before it and what was behind it come together, or have one space
between them. They are not read as a mark then that was not there before: a line comment leaves the end of
its line behind, and a block comment its space.

* `bareLabels` — the labels without the comments; `Passes.bareLabels`, **they are those of a scan of what is
  left**.
* `exists_tidy` — what is cut off the ends: blanks, and one semicolon at the end, `Trailing`.
* `Passes.without_trailing` — a text is read alike without what is cut off its end, also when it ends in an
  open token.
* `Passes.unmarked` — no comment begins in what a scan takes for a part of the statement.
* `Clean`, `strip_clean` — **a stripped text has no comments, has the quoted tokens that it had, and is
  stripped no further**.
-/

namespace SchemaBatch
namespace Sql

/-! ## The labels without the comments -/

/-- What is left of one labelled character when comments are taken out. -/
def keepLabel : Char × Role → Option (Char × Role)
  | (_, .comment) => none
  | (_, .gap) => some (' ', .code)
  | x => some x

/-- The labels without the comments, with a space for each block comment. -/
def bareLabels (labels : List (Char × Role)) : List (Char × Role) := labels.filterMap keepLabel

theorem map_fst_bareLabels (labels : List (Char × Role)) :
    (bareLabels labels).map Prod.fst = bare labels := by
  have hkeep : ∀ x, (keepLabel x).map Prod.fst = keep x := by
    rintro ⟨c, role⟩
    cases role <;> rfl
  rw [bareLabels, List.map_filterMap, bare]
  exact List.filterMap_congr fun x _ => hkeep x

theorem bareLabels_append (labels labels' : List (Char × Role)) :
    bareLabels (labels ++ labels') = bareLabels labels ++ bareLabels labels' := List.filterMap_append

/-- There are no comments among the labels. -/
def Uncommented (labels : List (Char × Role)) : Prop := ∀ x ∈ labels, x.2 ≠ .comment ∧ x.2 ≠ .gap

theorem uncommented_bareLabels (labels : List (Char × Role)) : Uncommented (bareLabels labels) := by
  intro x hx
  obtain ⟨⟨c, role⟩, _, hkeep⟩ := List.mem_filterMap.mp hx
  cases role <;> cases hkeep <;> exact ⟨nofun, nofun⟩

/-- What has no comments is left as it is. -/
theorem bare_of_uncommented {labels : List (Char × Role)} (h : Uncommented labels) :
    bare labels = labels.map Prod.fst := by
  have hkeep : ∀ x ∈ labels, keep x = some x.1 := by
    rintro ⟨c, role⟩ hx
    cases role <;> first | rfl | exact absurd rfl (h _ hx).1 | exact absurd rfl (h _ hx).2
  rw [bare, List.filterMap_congr hkeep, List.filterMap_eq_map']

/-- Taking comments out takes no quoted token with them. -/
theorem quotation_bareLabels (labels : List (Char × Role)) :
    quotation (bareLabels labels) = quotation labels := by
  rw [quotation, bareLabels, List.foldl_filterMap, quotation]
  congr 1
  funext q x
  obtain ⟨c, role⟩ := x
  cases role <;> rfl

/-! ## They are those of a scan -/

namespace Region

/-- Whether a comment is open in a region. -/
def isComment : Region → Bool
  | .lineComment | .blockComment => true
  | _ => false

/-- The region without the comment in it. -/
def bare : Region → Region
  | .lineComment | .blockComment => .outside
  | r => r

end Region

/-- What is left of a text begins as the text does, or with a blank in the place of a comment. -/
theorem Passes.head?_bare {r last : Region} {labels : List (Char × Role)} {rest : Text}
    (h : Passes last rest r labels) {c : Char} (hc : (Sql.bare labels).head? = some c) :
    isBlank c = true ∨ r.isComment = false ∧ (labels.map Prod.fst).head? = some c := by
  induction h with
  | stay => cases hc
  | step ht hrest ih =>
    rw [bare_append] at hc
    cases ht with
    | dashes => exact (ih hc).imp_right fun hcomment => nomatch hcomment.1
    | hash => exact (ih hc).imp_right fun hcomment => nomatch hcomment.1
    | openBlock => exact (ih hc).imp_right fun hcomment => nomatch hcomment.1
    | line => exact (ih hc).imp_right fun hcomment => nomatch hcomment.1
    | block => exact (ih hc).imp_right fun hcomment => nomatch hcomment.1
    | newline => cases hc; exact .inl rfl
    | closeBlock => cases hc; exact .inl rfl
    | _ => exact .inr ⟨rfl, hc⟩

/-- A step leaves nothing, or what it leaves is a step. -/
theorem Takes.bareLabels {r next : Region} {taken : List (Char × Role)} {rest rest' : Text}
    (h : Takes r taken next rest) (hnil : rest = [] → rest' = [])
    (hhead : ∀ c, rest'.head? = some c → isBlank c = true ∨ rest.head? = some c) :
    Sql.bareLabels taken = [] ∧ r.bare = next.bare ∨
      Takes r.bare (Sql.bareLabels taken) next.bare rest' := by
  -- what has come closer is a blank, and no second half of a mark
  have hmark : ∀ {c : Char}, isBlank c = false → rest.head? ≠ some c → rest'.head? ≠ some c := by
    intro c hc hne hhead'
    rcases hhead c hhead' with hblank | hsame
    · cases hc.symm.trans hblank
    · exact hne hsame
  cases h with
  | code hquote hhash hsep hline hblock =>
    exact .inr (.code hquote hhash hsep (fun hc => hmark rfl (hline hc)) fun hc => hmark rfl (hblock hc))
  | separator => exact .inr .separator
  | openQuote hquote => exact .inr (.openQuote hquote)
  | dashes => exact .inl ⟨rfl, rfl⟩
  | hash => exact .inl ⟨rfl, rfl⟩
  | openBlock => exact .inl ⟨rfl, rfl⟩
  | newline => exact .inr (.blank rfl)
  | line => exact .inl ⟨rfl, rfl⟩
  | closeBlock => exact .inr (.blank rfl)
  | block => exact .inl ⟨rfl, rfl⟩
  | escape => exact .inr .escape
  | closeQuote hc => exact .inr (.closeQuote fun hslash => hnil (hc hslash))
  | quoted hne hc => exact .inr (.quoted hne fun hslash => hnil (hc hslash))

/-- **The labels without the comments are those of a scan of what is left.** -/
theorem Passes.bareLabels {r last : Region} {labels : List (Char × Role)} (h : Passes last [] r labels) :
    Passes last.bare [] r.bare (Sql.bareLabels labels) := by
  induction h with
  | stay => exact .stay
  | @step r next taken labels ht hrest ih =>
    rw [bareLabels_append]
    have hnil : labels.map Prod.fst ++ [] = [] → (Sql.bareLabels labels).map Prod.fst ++ [] = [] := by
      intro hnil
      obtain rfl : labels = [] := by simpa using hnil
      rfl
    have hhead : ∀ c, ((Sql.bareLabels labels).map Prod.fst ++ []).head? = some c →
        isBlank c = true ∨ (labels.map Prod.fst ++ []).head? = some c := by
      intro c hc
      rw [List.append_nil, map_fst_bareLabels] at hc
      rw [List.append_nil]
      exact (hrest.head?_bare hc).imp_right And.right
    rcases ht.bareLabels hnil hhead with ⟨hnone, hregion⟩ | htakes
    · rw [hnone, hregion]
      exact ih
    · exact .step htakes ih

/-! ## What is cut off the ends -/

/-- What may be cut off the end of a text: blanks, and one semicolon among them. -/
inductive Trailing : Text → Prop where
  | blanks {b : Text} (hb : b.AllBlank) : Trailing b
  | terminator {b b' : Text} (hb : b.AllBlank) (hb' : b'.AllBlank) : Trailing (b ++ ';' :: b')

theorem Trailing.char {u : Text} (h : Trailing u) {c : Char} (hc : c ∈ u) :
    isBlank c = true ∨ c = ';' := by
  cases h with
  | blanks hb => exact .inl (hb c hc)
  | terminator hb hb' =>
    rcases List.mem_append.mp hc with hc | hc
    · exact .inl (hb c hc)
    · rcases List.mem_cons.mp hc with rfl | hc
      · exact .inr rfl
      · exact .inl (hb' c hc)

/-- Only blanks are cut off before the text, and a semicolon with its blanks behind it. -/
theorem exists_tidy (s : Text) : ∃ lead u, s = lead ++ (tidy s ++ u) ∧ lead.AllBlank ∧ Trailing u := by
  obtain ⟨lead, b', hends, hlead, hb'⟩ := Text.exists_eq_append_trim_append s
  obtain ⟨b, hend, hb⟩ := Text.exists_eq_trimEnd_append (dropTerminator (Text.trim s))
  by_cases hsemicolon : (Text.trim s).getLast? = some ';'
  · have hdrop : Text.trim s = dropTerminator (Text.trim s) ++ [';'] := by
      obtain ⟨before, hbefore⟩ := List.getLast?_eq_some_iff.mp hsemicolon
      simp [dropTerminator, hbefore]
    refine ⟨lead, b ++ ';' :: b', ?_, hlead, .terminator hb hb'⟩
    rw [hdrop, hend] at hends
    simpa [tidy] using hends
  · have hdrop : dropTerminator (Text.trim s) = Text.trim s := by simp [dropTerminator, hsemicolon]
    refine ⟨lead, b ++ b', ?_, hlead, .blanks (List.forall_mem_append.mpr ⟨hb, hb'⟩)⟩
    rw [← hdrop, hend] at hends
    simpa [tidy] using hends

theorem dropTerminator_begins (s : Text) : dropTerminator s <+: s := by
  unfold dropTerminator
  split
  · exact List.dropLast_prefix s
  · exact List.prefix_refl s

theorem trimStart_tidy (s : Text) : Text.trimStart (tidy s) = tidy s := by
  have hends : tidy s <+: dropTerminator (Text.trim s) := Text.trimEnd_prefix _
  have htrim : Text.trim s <+: Text.trimStart s := Text.trimEnd_prefix _
  exact Text.trimStart_of_prefix (hends.trans ((dropTerminator_begins _).trans htrim))

theorem trimEnd_tidy (s : Text) : Text.trimEnd (tidy s) = tidy s := Text.trimEnd_trimEnd _

theorem strip_trimmed {s t : Text} (h : strip s = some t) : Text.trimStart t = t ∧ Text.trimEnd t = t := by
  obtain ⟨labels, _, rfl⟩ := Option.map_eq_some_iff.mp h
  exact ⟨trimStart_tidy _, trimEnd_tidy _⟩

/-- A text that is tidy is left as it is, unless it ends in a semicolon. -/
theorem tidy_of_trimmed {t : Text} (hstart : Text.trimStart t = t) (hend : Text.trimEnd t = t)
    (hlast : t.getLast? ≠ some ';') : tidy t = t := by
  have hdrop : dropTerminator t = t := by simp [dropTerminator, hlast]
  rw [tidy, Text.trim, hstart, hend, hdrop, hend]

/-! ## Without what is cut off -/

/-- A character that may be cut off: it stands for nothing but itself, in quotes and outside. -/
def IsTrailing (c : Char) : Prop := isBlank c = true ∨ c = ';'

theorem not_isTrailing_of_isQuoteMark {c : Char} (h : isQuoteMark c = true) : ¬ IsTrailing c := by
  simp only [isQuoteMark, Bool.or_eq_true, beq_iff_eq] at h
  rcases h with (rfl | rfl) | rfl <;> exact fun hc => hc.elim (by decide) (by decide)

/-- A step that takes such characters stays in its region, and they belong to the token that is open. -/
theorem Takes.trailing {r next : Region} {taken : List (Char × Role)} {rest : Text}
    (h : Takes r taken next rest) (hr : r.Marked) (hplain : r.isComment = false)
    (hu : ∀ x ∈ taken, IsTrailing x.1) :
    next = r ∧ ∀ q : Quotation, q.opened.isSome = r.isQuoted →
      taken.foldl Quotation.add q = { q with opened := q.opened.map (· ++ taken.map Prod.fst) } := by
  cases h with
  | code | separator =>
    refine ⟨rfl, ?_⟩
    rintro ⟨closed, _ | token⟩ hq
    · rfl
    · cases hq
  | openQuote hquote => exact absurd (hu _ List.mem_cons_self) (not_isTrailing_of_isQuoteMark hquote)
  | closeQuote => exact absurd (hu _ List.mem_cons_self) (not_isTrailing_of_isQuoteMark hr)
  | quoted =>
    refine ⟨rfl, ?_⟩
    rintro ⟨closed, _ | token⟩ hq
    · cases hq
    · rfl
  | dashes | hash | openBlock | escape => exact (hu _ List.mem_cons_self).elim nofun nofun
  | newline | line | closeBlock | block => cases hplain

theorem Passes.trailing {r last : Region} {labels : List (Char × Role)} {rest : Text}
    (h : Passes last rest r labels) (hr : r.Marked) (hplain : r.isComment = false)
    (hu : ∀ x ∈ labels, IsTrailing x.1) :
    last = r ∧ ∀ q : Quotation, q.opened.isSome = r.isQuoted →
      labels.foldl Quotation.add q = { q with opened := q.opened.map (· ++ labels.map Prod.fst) } := by
  induction h with
  | stay => exact ⟨rfl, fun q _ => by simp⟩
  | step ht hrest ih =>
    obtain ⟨hu, hu'⟩ := List.forall_mem_append.mp hu
    obtain ⟨rfl, htaken⟩ := ht.trailing hr hplain hu
    obtain ⟨rfl, hlabels⟩ := ih hr hplain hu'
    refine ⟨rfl, fun q hq => ?_⟩
    rw [List.foldl_append, htaken q hq, hlabels _ (by simpa using hq)]
    simp [Function.comp_def]

/-- A scan that comes to no comment ends in none. -/
theorem Passes.isComment_last {r last : Region} {labels : List (Char × Role)} {rest : Text}
    (h : Passes last rest r labels) (hplain : Uncommented labels) (hr : r.isComment = false) :
    last.isComment = false := by
  induction h with
  | stay => exact hr
  | step ht hrest ih =>
    obtain ⟨htaken, hlabels⟩ := List.forall_mem_append.mp hplain
    refine ih hlabels ?_
    cases ht with
    | dashes | hash | openBlock | line | block => exact absurd rfl (htaken _ List.mem_cons_self).1
    | _ => rfl

/-- Of two characters that are taken in one step the second may be cut off only behind a backslash. -/
theorem Takes.escape_of_trailing {r next : Region} {x y : Char × Role} {rest : Text}
    (h : Takes r [x, y] next rest) (hy : IsTrailing y.1) :
    ∃ mark, r = .inQuote mark ∧ next = .inQuote mark ∧ x = ('\\', .quoted) ∧ y = (y.1, .quoted) := by
  cases h with
  | dashes | openBlock | closeBlock => exact hy.elim nofun nofun
  | escape => exact ⟨_, rfl, rfl, rfl, rfl⟩

/-- A backslash in a token takes nothing with it when it is the last character of the text. -/
theorem Passes.at_backslash {r : Region} {mark : Char} {labels : List (Char × Role)} {rest : Text}
    (h : Passes (.inQuote mark) ('\\' :: rest) r labels) (hr : r.Marked) :
    Passes (.inQuote mark) [] r (labels ++ [('\\', .quoted)]) := by
  have hmark : Region.Marked (.inQuote mark) := h.marked hr
  have hslash : Passes (.inQuote mark) [] (.inQuote mark) [('\\', .quoted)] :=
    .single (.quoted (ne_backslash_of_isQuoteMark hmark).symm fun _ => rfl)
  exact (h.of_beginning (List.prefix_append ['\\'] rest)).trans hslash

/-- **A text is read alike without what is cut off its end**, and what is cut off belongs to the token that is
open there. -/
theorem Passes.without_trailing {last : Region} {labels : List (Char × Role)} {s u : Text}
    (h : Passes last [] .outside labels) (hplain : Uncommented labels)
    (hs : labels.map Prod.fst = s ++ u) (hu : ∀ c ∈ u, IsTrailing c) :
    ∃ kept, kept.map Prod.fst = s ∧ kept <+: labels ∧ Passes last [] .outside kept ∧
      quotation labels = { quotation kept with opened := (quotation kept).opened.map (· ++ u) } := by
  cases h.cut hs with
  | @between mid before after hlabels hs' hu' hbefore hafter =>
    subst hlabels hs' hu'
    obtain ⟨hbefore', _⟩ := List.forall_mem_append.mp hplain
    have hmid : mid.isComment = false := hbefore.isComment_last hbefore' rfl
    have hcut : ∀ x ∈ after, IsTrailing x.1 := fun x hx => hu _ (List.mem_map_of_mem hx)
    obtain ⟨rfl, hquotation⟩ := hafter.trailing (hbefore.marked trivial) hmid hcut
    refine ⟨before, rfl, List.prefix_append _ _, hbefore.of_beginning List.nil_prefix, ?_⟩
    rw [quotation_append, hquotation _ hbefore.isSome_opened]
  | @within mid next before after x y hlabels hs' hu' hbefore htakes hafter =>
    subst hlabels hs' hu'
    obtain ⟨hy, hcut⟩ := List.forall_mem_cons.mp hu
    obtain ⟨mark, rfl, rfl, rfl, hquoted⟩ := htakes.escape_of_trailing hy
    have hmark : Region.Marked (.inQuote mark) := hbefore.marked trivial
    have hcut' : ∀ x ∈ after, IsTrailing x.1 := fun x hx => hcut _ (List.mem_map_of_mem hx)
    obtain ⟨rfl, hquotation⟩ := hafter.trailing hmark rfl hcut'
    have hkept : Passes (.inQuote mark) [] .outside (before ++ [('\\', .quoted)]) :=
      hbefore.at_backslash trivial
    refine ⟨before ++ [('\\', .quoted)], by simp, ⟨y :: after, by simp⟩, hkept, ?_⟩
    rw [List.append_cons, quotation_append, hquoted, List.foldl_cons]
    rw [hquotation _ ?_]
    · simp [Quotation.add, Function.comp_def]
    · simpa [Quotation.add] using hkept.isSome_opened

/-! ## No mark of a comment -/

/-- No comment begins in the text, outside of quotes. -/
structure Unmarked (labels : List (Char × Role)) : Prop where
  hash : ('#', .code) ∉ labels
  dashes : ¬ [('-', .code), ('-', .code)] <:+: labels
  block : ¬ [('/', .code), ('*', .code)] <:+: labels

/-- Two characters are no mark of a comment if the first of them is part of the statement. -/
def Apart (x y : Char × Role) : Prop :=
  x.2 = .code → (x.1 = '-' → y.1 ≠ '-') ∧ (x.1 = '/' → y.1 ≠ '*')

theorem isChain_apart_append {taken labels : List (Char × Role)} (h : ∀ x ∈ taken, ∀ y, Apart x y)
    (hlabels : labels.IsChain Apart) : (taken ++ labels).IsChain Apart := by
  induction taken with
  | nil => exact hlabels
  | cons x taken ih =>
    obtain ⟨hx, htaken⟩ := List.forall_mem_cons.mp h
    exact List.isChain_cons.mpr ⟨fun y _ => hx y, ih htaken⟩

/-- A step takes a character for a part of the statement only if it begins no comment. -/
theorem Takes.apart {r next : Region} {taken labels : List (Char × Role)}
    (h : Takes r taken next (labels.map Prod.fst)) (hlabels : labels.IsChain Apart) :
    (taken ++ labels).IsChain Apart := by
  cases h with
  | code hquote hhash hsep hline hblock =>
    refine List.isChain_cons.mpr
      ⟨fun y (hy : labels.head? = some y) _ => ⟨fun hc hdash => ?_, fun hc hstar => ?_⟩, hlabels⟩
    · exact hline hc (by rw [List.head?_map, hy, Option.map_some, hdash])
    · exact hblock hc (by rw [List.head?_map, hy, Option.map_some, hstar])
  | _ => exact isChain_apart_append (by simp [Apart]) hlabels

/-- What a scan takes for a part of the statement marks no comment. -/
theorem Passes.unmarked {r last : Region} {labels : List (Char × Role)} (h : Passes last [] r labels) :
    Unmarked labels := by
  have hhash : ('#', .code) ∉ labels := by
    induction h with
    | stay => exact List.not_mem_nil
    | step ht hrest ih =>
      refine List.not_mem_append (fun htaken => ?_) ih
      cases ht with
      | code hquote hhash => cases List.mem_singleton.mp htaken; exact hhash rfl
      | _ => simp at htaken
  have hchain : labels.IsChain Apart := by
    induction h with
    | stay => exact .nil
    | step ht hrest ih =>
      rw [List.append_nil] at ht
      exact ht.apart (ih fun hmem => hhash (List.mem_append_right _ hmem))
  refine ⟨hhash, fun hdashes => ?_, fun hblock => ?_⟩
  · have hpair : [('-', .code), ('-', .code)].IsChain Apart := List.IsChain.infix hchain hdashes
    exact (List.isChain_pair.mp hpair rfl).1 rfl rfl
  · have hpair : [('/', .code), ('*', .code)].IsChain Apart := List.IsChain.infix hchain hblock
    exact (List.isChain_pair.mp hpair rfl).2 rfl rfl

/-! ## What is left of a text -/

/-- **What is left of a text** when its comments are taken out. -/
structure Clean (s t : Text) : Prop where
  /-- It has no blanks at its ends. -/
  trimmed : Text.trimStart t = t ∧ Text.trimEnd t = t
  /-- Scanned again it is left as it is: -/
  rescanned : scan .strip .outside t = some [t]
  /-- it has no comments, nor their marks outside of quotes, and it has the quoted tokens that the text had.
  Of a token that is left open at the end blanks may be cut off, and a semicolon among them. -/
  read : ∃ before after, label .outside s = some before ∧ label .outside t = some after ∧
    Uncommented after ∧ Unmarked after ∧ (quotation after).closed = (quotation before).closed ∧
    ∃ u, Trailing u ∧ (quotation before).opened = (quotation after).opened.map (· ++ u)
  /-- It is stripped no further, unless there is another semicolon at its end. -/
  stable : t.getLast? ≠ some ';' → strip t = some t

theorem quotation_blanks_append (lead : Text) (labels : List (Char × Role)) :
    quotation (lead.map (·, .code) ++ labels) = quotation labels := by
  have hlead : (lead.map (·, Role.code)).foldl Quotation.add ⟨[], none⟩ = ⟨[], none⟩ := by
    induction lead with
    | nil => rfl
    | cons c lead ih => exact ih
  rw [quotation, List.foldl_append, hlead, quotation]

/-- What is left of a text is read as it was among the comments. -/
theorem exists_label_tidy {before : List (Char × Role)} (h : Reads .outside before) :
    ∃ kept u, label .outside (tidy (bare before)) = some kept ∧ Uncommented kept ∧ Trailing u ∧
      quotation before = { quotation kept with opened := (quotation kept).opened.map (· ++ u) } := by
  obtain ⟨last, hlast, hpasses⟩ := exists_passes_iff.mp h
  have hbare : last.bare ≠ .blockComment := by cases last <;> exact nofun
  have hall : label .outside (bare before) = some (bareLabels before) :=
    label_eq_some_iff.mpr ⟨map_fst_bareLabels before, exists_passes_iff.mpr ⟨_, hbare, hpasses.bareLabels⟩⟩
  -- first without the blanks before it
  obtain ⟨lead, u, hends, hlead, hu⟩ := exists_tidy (bare before)
  have hblanks := (Passes.blanks hlead (tidy (bare before) ++ u)).label_eq
  rw [map_fst_role, ← hends, hall] at hblanks
  obtain ⟨labels, hlabels, hlead'⟩ := Option.map_eq_some_iff.mp hblanks.symm
  obtain ⟨htext, hreads⟩ := label_eq_some_iff.mp hlabels
  have hplain : Uncommented labels := fun x hx =>
    uncommented_bareLabels before x (hlead' ▸ List.mem_append_right _ hx)
  -- then without what is cut off behind it
  obtain ⟨end', hend', hpasses'⟩ := exists_passes_iff.mp hreads
  obtain ⟨kept, hkept, hbegins, hpasses, hquotation⟩ :=
    hpasses'.without_trailing hplain htext fun c hc => hu.char hc
  refine ⟨kept, u, ?_, fun x hx => hplain x (hbegins.subset hx), hu, ?_⟩
  · exact label_eq_some_iff.mpr ⟨hkept, exists_passes_iff.mpr ⟨end', hend', hpasses⟩⟩
  · rw [← hquotation, ← quotation_bareLabels, ← hlead', quotation_blanks_append]

/-- **A stripped text has no comments and is stripped no further.** -/
theorem strip_clean {s t : Text} (h : strip s = some t) : Clean s t := by
  have htrimmed := strip_trimmed h
  obtain ⟨before, hbefore, rfl⟩ := Option.map_eq_some_iff.mp h
  obtain ⟨_, hreads⟩ := label_eq_some_iff.mp hbefore
  obtain ⟨after, u, hafter, hplain, hu, hquotation⟩ := exists_label_tidy hreads
  obtain ⟨htext, hreads'⟩ := label_eq_some_iff.mp hafter
  obtain ⟨last, _, hpasses⟩ := exists_passes_iff.mp hreads'
  have hbare : bare after = tidy (bare before) := (bare_of_uncommented hplain).trans htext
  refine
    { trimmed := htrimmed
      rescanned := ?rescanned
      read := ⟨before, after, hbefore, hafter, hplain, hpasses.unmarked, ?closed, u, hu, ?opened⟩
      stable := ?stable }
  case rescanned =>
    rw [scan_eq, hafter, Option.map_some, ← hbare]
    rfl
  case closed => rw [hquotation]
  case opened => rw [hquotation]
  case stable =>
    intro hend
    rw [strip, hafter, Option.map_some, hbare, tidy_of_trimmed htrimmed.1 htrimmed.2 hend]

/-- Two dashes do not come together where a comment was between them, and a token that is left open loses the
semicolon at its end. -/
theorem strip_clean_dashes :
    let s : Text := " -/* - */-# '\n \x22--\x22 '/* ; ".toList
    let t : Text := "- -\n \x22--\x22 '/*".toList
    strip s = some t ∧ Clean s t := by
  intro s t
  have h : strip s = some t := by decide
  exact ⟨h, strip_clean h⟩

end Sql
end SchemaBatch
