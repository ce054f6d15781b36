import SchemaBatch.Proofs.Scanning

/-!
# `Proofs.Passages` — how a scan goes through a part of a text

A scan comes to a part of a text in some region and leaves it in another. What it sees in the part depends on
the region in which it comes to it and, where a mark has two characters, on what stands behind the part.

* `Passes` — a scan goes through a part of a text, step by step; `Passes.trans`, **passages compose**, and
  `Passes.cut`, a passage can be cut anywhere but between two characters that are one mark.
* `Passes.label_eq` — a text that begins with the part is labelled so; `exists_passes_iff`, a scan that does
  not fail is a passage through the whole text.
* `Quotation` — **the quoted tokens** of a text: those that are closed, and the one that is left open.
  `Passes.quotation` — a token is open where the scan is inside quotes, and nowhere else.
-/

namespace SchemaBatch
namespace Sql

/-! ## Regions -/

/-- Whether a quoted token is open in a region. -/
def Region.isQuoted : Region → Bool
  | .inQuote _ => true
  | _ => false

/-- A region that a scan can come to: a quoted token is open only behind a mark that quotes. -/
def Region.Marked : Region → Prop
  | .inQuote mark => isQuoteMark mark = true
  | _ => True

theorem ne_backslash_of_isQuoteMark {mark : Char} (h : isQuoteMark mark = true) : mark ≠ '\\' := by
  rintro rfl
  cases h

namespace Takes

variable {r next : Region} {taken : List (Char × Role)} {rest : Text}

theorem marked (h : Takes r taken next rest) (hr : r.Marked) : next.Marked := by
  cases h with
  | openQuote hquote => exact hquote
  | escape => exact hr
  | quoted => exact hr
  | _ => trivial

/-- A step sees no more of the rest of the text than its first character. -/
theorem congr_rest (h : Takes r taken next rest) {rest' : Text} (hhead : rest.head? = rest'.head?) :
    Takes r taken next rest' := by
  have hnil : rest = [] → rest' = [] := by
    rintro rfl
    exact List.head?_eq_none_iff.mp hhead.symm
  cases h with
  | code hquote hhash hsep hline hblock => exact .code hquote hhash hsep (hhead ▸ hline) (hhead ▸ hblock)
  | separator => exact .separator
  | openQuote hquote => exact .openQuote hquote
  | dashes => exact .dashes
  | hash => exact .hash
  | openBlock => exact .openBlock
  | newline => exact .newline
  | line hc => exact .line hc
  | closeBlock => exact .closeBlock
  | block hc => exact .block (hhead ▸ hc)
  | escape => exact .escape
  | closeQuote hc => exact .closeQuote fun hslash => hnil (hc hslash)
  | quoted hne hc => exact .quoted hne fun hslash => hnil (hc hslash)

/-- A last step that does not stay inside quotes does not mind a line that follows the text. -/
theorem before_newline (h : Takes r taken next []) (hr : r.Marked) (hnext : next.isQuoted = false)
    (tail : Text) : Takes r taken next ('\n' :: tail) := by
  cases h with
  | code hquote hhash hsep => exact .code hquote hhash hsep (fun _ => nofun) fun _ => nofun
  | separator => exact .separator
  | openQuote hquote => exact .openQuote hquote
  | dashes => exact .dashes
  | hash => exact .hash
  | openBlock => exact .openBlock
  | newline => exact .newline
  | line hc => exact .line hc
  | closeBlock => exact .closeBlock
  | block => exact .block fun _ => nofun
  | escape => cases hnext
  | closeQuote => exact .closeQuote fun hc => absurd hc (ne_backslash_of_isQuoteMark hr)
  | quoted => cases hnext

theorem ne_nil (h : Takes r taken next rest) : taken ≠ [] := by
  cases h <;> exact List.cons_ne_nil _ _

/-- The end of a line ends a line comment, or is a blank outside. -/
theorem endOfLine (hr : r.isQuoted = false) (hclosed : r ≠ .blockComment) :
    Takes r [('\n', .code)] .outside rest := by
  cases r with
  | outside => exact .blank rfl
  | inQuote => cases hr
  | lineComment => exact .newline
  | blockComment => exact absurd rfl hclosed

/-- A step takes one character or two. -/
theorem one_or_two (h : Takes r taken next rest) : (∃ x, taken = [x]) ∨ ∃ x y, taken = [x, y] := by
  rcases h.taken_cases with hone | ⟨x, y, rfl, _⟩ | ⟨_, c, _, rfl⟩
  · exact .inl hone
  · exact .inr ⟨x, y, rfl⟩
  · exact .inr ⟨_, _, rfl⟩

end Takes

/-! ## Passages -/

theorem map_fst_role (s : Text) (role : Role) : (s.map (·, role)).map Prod.fst = s := by
  rw [List.map_map]
  exact List.map_id s

/-- A scan comes to a part of a text in a region, gives these labels to the part, and comes in the region
`last` to the rest of the text. -/
inductive Passes (last : Region) (rest : Text) : Region → List (Char × Role) → Prop where
  | stay : Passes last rest last []
  | step {r next : Region} {taken labels : List (Char × Role)}
      (h : Takes r taken next (labels.map Prod.fst ++ rest)) (hrest : Passes last rest next labels) :
      Passes last rest r (taken ++ labels)

namespace Passes

variable {r mid last : Region} {labels labels' : List (Char × Role)} {rest : Text}

theorem single {taken : List (Char × Role)} (h : Takes r taken last rest) : Passes last rest r taken := by
  have hstep : Passes last rest r (taken ++ []) := .step h .stay
  rwa [List.append_nil] at hstep

/-- Nothing is gone through where the scan stays. -/
theorem eq_last (h : Passes last rest r []) : r = last := by
  generalize hnil : ([] : List (Char × Role)) = labels at h
  cases h with
  | stay => rfl
  | step ht _ => exact absurd (List.append_eq_nil_iff.mp hnil.symm).1 ht.ne_nil

/-- **Passages compose.** -/
theorem trans (h : Passes mid (labels'.map Prod.fst ++ rest) r labels) (h' : Passes last rest mid labels') :
    Passes last rest r (labels ++ labels') := by
  induction h with
  | stay => exact h'
  | step ht hrest ih =>
    rw [List.append_assoc]
    refine .step ?_ ih
    rw [List.map_append, List.append_assoc]
    exact ht

/-- A passage does not see where the text ends. -/
theorem of_beginning (h : Passes last rest r labels) {rest' : Text} (hp : rest' <+: rest) :
    Passes last rest' r labels := by
  induction h with
  | stay => exact .stay
  | step ht hrest ih =>
    exact .step (ht.of_beginning ((List.prefix_append_right_inj _).mpr hp)) ih

theorem marked (h : Passes last rest r labels) (hr : r.Marked) : last.Marked := by
  induction h with
  | stay => exact hr
  | step ht hrest ih => exact ih (ht.marked hr)

/-- A passage that does not end inside quotes does not mind a line that follows the text. -/
theorem before_newline (h : Passes last [] r labels) (hr : r.Marked) (hlast : last.isQuoted = false)
    (tail : Text) : Passes last ('\n' :: tail) r labels := by
  induction h with
  | stay => exact .stay
  | @step r next taken labels ht hrest ih =>
    refine .step ?_ (ih (ht.marked hr))
    cases labels with
    | nil => exact ht.before_newline hr (hrest.eq_last ▸ hlast) tail
    | cons x labels => exact ht.congr_rest rfl

/-- The labels of a text that begins with the part begin with those of the part. -/
theorem label_eq (h : Passes last rest r labels) :
    label r (labels.map Prod.fst ++ rest) = (label last rest).map (labels ++ ·) := by
  induction h with
  | stay => simp
  | step ht hrest ih =>
    rw [List.map_append, List.append_assoc, ht.label_eq, ih, Option.map_map]
    congr 1
    funext after
    exact (List.append_assoc ..).symm

/-- Blanks outside of quotes and comments are part of the statement. -/
theorem blanks {lead : Text} (h : lead.AllBlank) (rest : Text) :
    Passes .outside rest .outside (lead.map (·, .code)) := by
  induction lead with
  | nil => exact .stay
  | cons c lead ih =>
    exact .step (Takes.blank (h c List.mem_cons_self)) (ih fun d hd => h d (List.mem_cons_of_mem c hd))

end Passes

/-- **A scan that does not fail is a passage through the whole text** that does not end in a block comment. -/
theorem exists_passes_iff {r : Region} {labels : List (Char × Role)} :
    Reads r labels ↔ ∃ last, last ≠ .blockComment ∧ Passes last [] r labels := by
  constructor
  · intro h
    induction h with
    | done hr => exact ⟨_, hr, .stay⟩
    | step ht hrest ih =>
      obtain ⟨last, hlast, hpasses⟩ := ih
      exact ⟨last, hlast, .step (by rwa [List.append_nil]) hpasses⟩
  · rintro ⟨last, hlast, h⟩
    induction h with
    | stay => exact .done hlast
    | step ht hrest ih =>
      rw [List.append_nil] at ht
      exact .step ht ih

/-! ## Where a passage can be cut -/

/-- A passage through a text of two parts: it comes to the end of the first part with a step, or it takes the
last character of the first and the first of the second in one. -/
inductive Cut (last : Region) (rest : Text) (r : Region) (labels : List (Char × Role)) (s u : Text) :
    Prop where
  | between {mid : Region} {before after : List (Char × Role)} (hlabels : labels = before ++ after)
      (hs : before.map Prod.fst = s) (hu : after.map Prod.fst = u)
      (hbefore : Passes mid (u ++ rest) r before) (hafter : Passes last rest mid after) :
      Cut last rest r labels s u
  | within {mid next : Region} {before after : List (Char × Role)} {x y : Char × Role}
      (hlabels : labels = before ++ x :: y :: after) (hs : before.map Prod.fst ++ [x.1] = s)
      (hu : y.1 :: after.map Prod.fst = u) (hbefore : Passes mid (x.1 :: (u ++ rest)) r before)
      (htakes : Takes mid [x, y] next (after.map Prod.fst ++ rest)) (hafter : Passes last rest next after) :
      Cut last rest r labels s u

namespace Cut

variable {r next last : Region} {taken labels : List (Char × Role)} {rest s u : Text}

/-- A passage that goes on after a step is cut where it was. -/
theorem step (ht : Takes r taken next (labels.map Prod.fst ++ rest)) (h : Cut last rest next labels s u) :
    Cut last rest r (taken ++ labels) (taken.map Prod.fst ++ s) u := by
  cases h with
  | between hlabels hs hu hbefore hafter =>
    subst hlabels hs hu
    refine .between (List.append_assoc ..).symm List.map_append rfl (.step ?_ hbefore) hafter
    rwa [List.map_append, List.append_assoc] at ht
  | within hlabels hs hu hbefore htakes hafter =>
    subst hlabels hs hu
    refine .within (List.append_assoc ..).symm ?_ rfl (.step ?_ hbefore) htakes hafter
    · rw [List.map_append, List.append_assoc]
    · rwa [List.map_append, List.append_assoc] at ht

end Cut

/-- **A passage can be cut anywhere but between two characters that it takes in one step.** -/
theorem Passes.cut {r last : Region} {labels : List (Char × Role)} {rest s u : Text}
    (h : Passes last rest r labels) (hs : labels.map Prod.fst = s ++ u) : Cut last rest r labels s u := by
  induction h generalizing s with
  | stay =>
    obtain ⟨rfl, rfl⟩ := List.append_eq_nil_iff.mp hs.symm
    exact .between rfl rfl rfl .stay .stay
  | @step r next taken labels ht hrest ih =>
    rw [List.map_append] at hs
    rcases List.append_eq_append_iff.mp hs with ⟨s', rfl, hs'⟩ | ⟨u', htaken, rfl⟩
    · exact .step ht (ih hs')
    · -- the first part ends in what the step takes
      cases s with
      | nil =>
        refine .between (List.nil_append _).symm rfl ?_ .stay (.step ht hrest)
        rw [List.map_append, htaken, List.nil_append]
      | cons c s =>
        rcases ht.one_or_two with ⟨x, rfl⟩ | ⟨x, y, rfl⟩
        · obtain ⟨rfl, hrest'⟩ := List.cons.inj htaken
          obtain ⟨rfl, rfl⟩ := List.append_eq_nil_iff.mp hrest'.symm
          exact .between rfl rfl rfl (.single ht) hrest
        · obtain ⟨rfl, hrest'⟩ := List.cons.inj htaken
          rcases List.singleton_eq_append_iff.mp hrest' with ⟨rfl, rfl⟩ | ⟨rfl, rfl⟩
          · exact .within rfl rfl rfl .stay ht hrest
          · exact .between rfl rfl rfl (.single ht) hrest

/-! ## Quoted tokens -/

/-- The quoted tokens of a text, with their marks. -/
structure Quotation where
  /-- The tokens that are closed, in order. -/
  closed : List Text
  /-- The token that is left open at the end, if there is one. -/
  opened : Option Text
  deriving DecidableEq, Repr

namespace Quotation

/-- One more character of the text. -/
def add (q : Quotation) : Char × Role → Quotation
  | (c, .quote) =>
    match q.opened with
    | none => { q with opened := some [c] }
    | some token => ⟨q.closed ++ [token ++ [c]], none⟩
  | (c, .quoted) => { q with opened := q.opened.map (· ++ [c]) }
  | _ => q

end Quotation

/-- The quoted tokens of a labelled text. -/
def quotation (labels : List (Char × Role)) : Quotation := labels.foldl Quotation.add ⟨[], none⟩

theorem quotation_append (labels labels' : List (Char × Role)) :
    quotation (labels ++ labels') = labels'.foldl Quotation.add (quotation labels) := List.foldl_append

theorem Takes.foldl_add {r next : Region} {taken : List (Char × Role)} {rest : Text}
    (h : Takes r taken next rest) {q : Quotation} (hq : q.opened.isSome = r.isQuoted) :
    (taken.foldl Quotation.add q).opened.isSome = next.isQuoted := by
  obtain ⟨closed, opened⟩ := q
  cases opened <;> cases h <;> first | rfl | cases hq

/-- **A token is open where the scan is inside quotes**, and nowhere else. -/
theorem Passes.foldl_add {r last : Region} {labels : List (Char × Role)} {rest : Text}
    (h : Passes last rest r labels) {q : Quotation} (hq : q.opened.isSome = r.isQuoted) :
    (labels.foldl Quotation.add q).opened.isSome = last.isQuoted := by
  induction h generalizing q with
  | stay => exact hq
  | step ht hrest ih =>
    rw [List.foldl_append]
    exact ih (ht.foldl_add hq)

theorem Passes.isSome_opened {last : Region} {labels : List (Char × Role)} {rest : Text}
    (h : Passes last rest .outside labels) : (quotation labels).opened.isSome = last.isQuoted :=
  h.foldl_add rfl

end Sql
end SchemaBatch
