import SchemaBatch.Proofs.Passages
import SchemaBatch.Proofs.ScriptReadings

/-!
# `Proofs.Remarks` — comments do not change what a statement is

A statement may have comments before it and behind it, and the comments may hold what they like: quotation
marks, semicolons, marks of other comments. What the statement says, what it is for, and whether and why it
is refused does not depend on them. Behind a statement they stand on a line of their own, since the statement
may end in a line comment, or in a character that a comment could begin with.

* `Remarks` — blanks and comments, one after another; `Remarks.AtEnd`, where the last line may lack its end.
* `Remarks.passedOver` — **a scan goes through them from outside to outside**, and leaves only blanks.
* `strip_append_remarks`, `strip_before_remarks` — what is left of a text is left of it among comments.
* `remarks_ignored` — the same statement, or the same error.
-/

namespace SchemaBatch
namespace Sql

/-! ## Blanks and comments -/

/-- Blanks and comments, one after another, each of them closed. -/
inductive Remarks : Text → Prop where
  | nil : Remarks []
  | blank {c : Char} {rest : Text} (hc : isBlank c = true) (hrest : Remarks rest) : Remarks (c :: rest)
  | dashes {body rest : Text} (hbody : '\n' ∉ body) (hrest : Remarks rest) :
      Remarks ('-' :: '-' :: (body ++ '\n' :: rest))
  | hash {body rest : Text} (hbody : '\n' ∉ body) (hrest : Remarks rest) :
      Remarks ('#' :: (body ++ '\n' :: rest))
  | block {body rest : Text} (hbody : ¬ ['*', '/'] <:+: body) (hrest : Remarks rest) :
      Remarks ('/' :: '*' :: (body ++ '*' :: '/' :: rest))

theorem Remarks.append {c c' : Text} (h : Remarks c) (h' : Remarks c') : Remarks (c ++ c') := by
  induction h with
  | nil => exact h'
  | blank hc hrest ih => exact .blank hc ih
  | dashes hbody hrest ih => simpa using Remarks.dashes hbody ih
  | hash hbody hrest ih => simpa using Remarks.hash hbody ih
  | block hbody hrest ih => simpa using Remarks.block hbody ih

/-- Blanks and comments at the end of a text: the last of them may be a line comment without its newline. -/
inductive Remarks.AtEnd : Text → Prop where
  | closed {c : Text} (hc : Remarks c) : AtEnd c
  | dashes {c body : Text} (hc : Remarks c) (hbody : '\n' ∉ body) : AtEnd (c ++ '-' :: '-' :: body)
  | hash {c body : Text} (hc : Remarks c) (hbody : '\n' ∉ body) : AtEnd (c ++ '#' :: body)

/-- The newline may be put there. -/
theorem Remarks.AtEnd.newline {c : Text} (h : Remarks.AtEnd c) : Remarks (c ++ ['\n']) := by
  cases h with
  | closed hc => exact hc.append (.blank rfl .nil)
  | dashes hc hbody => simpa using hc.append (.dashes hbody .nil)
  | hash hc hbody => simpa using hc.append (.hash hbody .nil)

/-! ## Through one comment -/

/-- A line comment goes on to the end of its line, -/
theorem Passes.line {body : Text} (h : '\n' ∉ body) (rest : Text) :
    Passes .lineComment rest .lineComment (body.map (·, .comment)) := by
  induction body with
  | nil => exact .stay
  | cons c body ih =>
    have hc : c ≠ '\n' := fun hc => h (hc ▸ List.mem_cons_self)
    exact .step (.line hc) (ih fun hbody => h (List.mem_cons_of_mem c hbody))

/-- and a block comment to the mark that closes it. -/
theorem Passes.block {body : Text} (h : ¬ ['*', '/'] <:+: body) (rest : Text) :
    Passes .blockComment ('*' :: rest) .blockComment (body.map (·, .comment)) := by
  induction body with
  | nil => exact .stay
  | cons c body ih =>
    refine .step (.block ?_) (ih fun hbody => h (hbody.trans (List.suffix_cons c body).isInfix))
    rintro rfl hhead
    -- a slash behind the star would have closed the comment
    cases body with
    | nil => cases hhead
    | cons d body =>
      obtain rfl := Option.some.inj hhead
      exact h (List.prefix_append ['*', '/'] body).isInfix

theorem bare_comment (body : Text) : bare (body.map (·, .comment)) = [] := by
  rw [bare, List.filterMap_map]
  exact List.filterMap_eq_nil_iff.mpr fun _ _ => rfl

/-- A scan goes through the text from outside to outside, and leaves nothing of it but blanks. -/
def PassedOver (rest c : Text) : Prop :=
  ∃ labels, labels.map Prod.fst = c ∧ Passes .outside rest .outside labels ∧ (bare labels).AllBlank

theorem PassedOver.append {rest c c' : Text} (h : PassedOver (c' ++ rest) c) (h' : PassedOver rest c') :
    PassedOver rest (c ++ c') := by
  obtain ⟨labels, rfl, hpasses, hblank⟩ := h
  obtain ⟨labels', rfl, hpasses', hblank'⟩ := h'
  refine ⟨labels ++ labels', List.map_append, hpasses.trans hpasses', ?_⟩
  rw [bare_append]
  exact List.forall_mem_append.mpr ⟨hblank, hblank'⟩

theorem passedOver_blank {c : Char} (hc : isBlank c = true) (rest : Text) : PassedOver rest [c] := by
  refine ⟨[(c, .code)], rfl, .single (.blank hc), ?_⟩
  exact List.forall_mem_singleton.mpr hc

/-- A line comment leaves the end of its line. -/
theorem passedOver_line {mark : List (Char × Role)} (hmark : ∀ rest, Takes .outside mark .lineComment rest)
    (hbare : bare mark = []) {body : Text} (hbody : '\n' ∉ body) (rest : Text) :
    PassedOver rest (mark.map Prod.fst ++ (body ++ ['\n'])) := by
  refine ⟨mark ++ (body.map (·, .comment) ++ [('\n', .code)]), by simp [map_fst_role, -List.map_map], ?_, ?_⟩
  · exact .step (hmark _) (.trans (.line hbody _) (.single .newline))
  · rw [bare_append, bare_append, hbare, bare_comment]
    exact List.forall_mem_singleton.mpr rfl

/-- A block comment leaves a space. -/
theorem passedOver_block {body : Text} (hbody : ¬ ['*', '/'] <:+: body) (rest : Text) :
    PassedOver rest ('/' :: '*' :: (body ++ ['*', '/'])) := by
  refine ⟨[('/', .comment), ('*', .comment)] ++ (body.map (·, .comment) ++ [('*', .comment), ('/', .gap)]),
    by simp [map_fst_role, -List.map_map], ?_, ?_⟩
  · exact .step .openBlock (.trans (.block hbody _) (.single .closeBlock))
  · rw [bare_append, bare_append, bare_comment]
    exact List.forall_mem_singleton.mpr rfl

/-! ## Through all of them -/

/-- **A scan goes through comments from outside to outside**, whatever comes behind them. -/
theorem Remarks.passedOver {c : Text} (h : Remarks c) (rest : Text) : PassedOver rest c := by
  induction h with
  | nil => exact ⟨[], rfl, .stay, nofun⟩
  | blank hc hrest ih => exact (passedOver_blank hc _).append ih
  | dashes hbody hrest ih =>
    have hline := (passedOver_line (fun _ => .dashes) rfl hbody _).append ih
    simpa using hline
  | hash hbody hrest ih =>
    have hline := (passedOver_line (fun _ => .hash) rfl hbody _).append ih
    simpa using hline
  | block hbody hrest ih =>
    have hblock := (passedOver_block hbody _).append ih
    simpa using hblock

/-- What is left of a text is left of it behind comments. -/
theorem strip_append_remarks {c : Text} (h : Remarks c) (s : Text) : strip (c ++ s) = strip s := by
  obtain ⟨lead, rfl, hpasses, hblank⟩ := h.passedOver s
  rw [strip, hpasses.label_eq, Option.map_map, strip]
  congr 1
  funext labels
  have hnothing : Text.AllBlank [] := List.forall_mem_nil _
  have htidy := tidy_append_append hblank hnothing (bare labels)
  rw [List.append_nil] at htidy
  rw [Function.comp_apply, bare_append, htidy]

/-- Comments at the end of a text are scanned, and leave blanks. -/
theorem Remarks.AtEnd.label_eq {c : Text} (h : Remarks.AtEnd c) :
    ∃ labels, label .outside c = some labels ∧ (bare labels).AllBlank := by
  obtain ⟨labels, hlabels, hpasses, hblank⟩ := h.newline.passedOver []
  have hreads : Reads .outside labels := exists_passes_iff.mpr ⟨.outside, nofun, hpasses⟩
  have hend : Text.AllBlank ['\n'] := List.forall_mem_singleton.mpr rfl
  obtain ⟨kept, tail, hkept, hbare, _⟩ := hreads.of_blank_end hlabels hend
  exact ⟨kept, hkept, fun x hx => hblank x (hbare ▸ List.mem_append_left tail hx)⟩

/-- **What is left of a text is left of it before comments**, on a line of their own, unless a quoted token is
left open. -/
theorem strip_before_remarks {s c : Text} {labels : List (Char × Role)} (hs : label .outside s = some labels)
    (hclosed : (quotation labels).opened = none) (hc : Remarks.AtEnd c) :
    strip (s ++ '\n' :: c) = strip s := by
  obtain ⟨rfl, hreads⟩ := label_eq_some_iff.mp hs
  obtain ⟨last, hlast, hpasses⟩ := exists_passes_iff.mp hreads
  obtain ⟨remarks, hremarks, hblank⟩ := hc.label_eq
  have hquoted : last.isQuoted = false := by rw [← hpasses.isSome_opened, hclosed]; rfl
  have hline : Takes last [('\n', .code)] .outside c := .endOfLine hquoted hlast
  have hlabel : label .outside (labels.map Prod.fst ++ '\n' :: c)
      = some (labels ++ (('\n', .code) :: remarks)) := by
    rw [(hpasses.before_newline trivial hquoted c).label_eq]
    show (label last ([('\n', Role.code)].map Prod.fst ++ c)).map _ = _
    rw [hline.label_eq, hremarks]
    rfl
  have hnothing : Text.AllBlank [] := List.forall_mem_nil _
  have htail : Text.AllBlank ('\n' :: bare remarks) := List.forall_mem_cons.mpr ⟨rfl, hblank⟩
  have htidy := tidy_append_append hnothing htail (bare labels)
  rw [List.nil_append] at htidy
  rw [strip, hlabel, strip, hs, Option.map_some, Option.map_some, bare_append, ← htidy]
  rfl

/-! ## The same statement -/

/-- Two texts are refused for the same reason, or hold the same statement, which is for the same purpose. -/
inductive SameStatement (s s' : Text) : Prop where
  | refused {e : SessionError} (h : readStatement s = .error e) (h' : readStatement s' = .error e) :
      SameStatement s s'
  | held {statement statement' : Statement} (h : readStatement s = .ok statement)
      (h' : readStatement s' = .ok statement') (htext : statement.text = statement'.text)
      (hcategory : statement.category = statement'.category)
      (hcommand : statement.command? = statement'.command?) : SameStatement s s'

/-- What a text holds depends on what is left of it without comments. -/
theorem sameStatement_of_strip {s s' : Text} (h : strip s = strip s') : SameStatement s s' := by
  cases hstrip : strip s' with
  | none => exact .refused (readStatement_of_open (h.trans hstrip)) (readStatement_of_open hstrip)
  | some stripped =>
    have hs := readStatement_of_strip (h.trans hstrip)
    have hs' := readStatement_of_strip hstrip
    unfold Statement.ofStripped at hs hs'
    cases hcommand : commandOf stripped with
    | error fault =>
      rw [hcommand] at hs hs'
      exact .refused hs hs'
    | ok command? =>
      rw [hcommand] at hs hs'
      cases command? with
      | none => exact .held hs hs' rfl rfl rfl
      | some command => exact .held hs hs' rfl rfl rfl

/-- **Comments do not change what a statement is.** -/
structure Ignored (c s : Text) : Prop where
  /-- Not before it, -/
  before : Remarks c → SameStatement (c ++ s) s
  /-- and not behind it on a line of their own, unless the text is not scanned to its end or leaves a quoted
  token open. -/
  behind : ∀ labels, label .outside s = some labels → (quotation labels).opened = none →
    Remarks.AtEnd c → SameStatement (s ++ '\n' :: c) s

theorem remarks_ignored (c s : Text) : Ignored c s where
  before hc := sameStatement_of_strip (strip_append_remarks hc s)
  behind _ hs hclosed hc := sameStatement_of_strip (strip_before_remarks hs hclosed hc)

/-- A timeout with a comment behind it, among comments with marks that would open a token. -/
theorem remarks_ignored_timeout :
    let s : Text := "SET STATEMENT_TIMEOUT = '5s'; -- it's".toList
    let c : Text := "/* \x22 */ # it's\n".toList
    let c' : Text := "/* ; */# \x22".toList
    Remarks c ∧ SameStatement (c ++ s) s ∧
      (label .outside s).map (fun labels => (quotation labels).opened) = some none ∧
      Remarks.AtEnd c' ∧ SameStatement (s ++ '\n' :: c') s ∧
      (readStatement s).map Statement.category = .ok (.command (.setTimeout (some 5000))) := by
  intro s c c'
  have hblock : ¬['*', '/'] <:+: " \x22 ".toList := by decide
  have hblock' : ¬['*', '/'] <:+: " ; ".toList := by decide
  have hline : '\n' ∉ " it's".toList := by decide
  have hline' : '\n' ∉ " \x22".toList := by decide
  have hc : Remarks c := .block hblock (.blank rfl (.hash hline .nil))
  have hc' : Remarks.AtEnd c' := .hash (.block hblock' .nil) hline'
  have hclosed : (label .outside s).map (fun labels => (quotation labels).opened) = some none := by decide
  obtain ⟨labels, hs, hopened⟩ := Option.map_eq_some_iff.mp hclosed
  exact ⟨hc, (remarks_ignored c s).before hc, hclosed, hc',
    (remarks_ignored c' s).behind labels hs hopened hc', rfl⟩

end Sql
end SchemaBatch
