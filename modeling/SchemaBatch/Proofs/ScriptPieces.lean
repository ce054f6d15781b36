import SchemaBatch.Proofs.StrippedText

/-!
# `Proofs.ScriptPieces` — the pieces of a script are statements, and split no further

A script is cut at its semicolons and the pieces are trimmed. A piece that ended in a line comment has lost the
end of its line then, and one that ended in an open token has lost blanks of the token. Still each piece is the
one statement of itself, and the pieces can be put on lines of their own with semicolons between them, and are
cut out again as they were.

* `Passes.without_lead`, `Passes.without_tail` — **a passage without the blanks at its ends**. Quotes are open
  at its end only if they were before.
* `Stands` — a text that is one statement as it stands. `exists_stands`, **the trimmed text of a piece does**.
* `Parts`, `Reads.parts` — the pieces of a labelled text, each of them up to a separator but the last.
* `Series` — statements of which all but the last leave no token open; `series_of_split`.
* `Series.split_joined` — **such statements are cut out of the text that is made of them**.
* `Pieces`, `split_stable` — what is said of the pieces of a script.
-/

namespace SchemaBatch

theorem Text.trim_trim (s : Text) : trim (trim s) = trim s := by
  have hstart : trimStart (trim s) = trim s := trimStart_of_prefix <| trimEnd_prefix (trimStart s)
  have hend : trimEnd (trim s) = trim s := trimEnd_trimEnd (trimStart s)
  rw [trim, hstart, hend]

namespace Sql

/-! ## Without the blanks at the ends -/

theorem isTrailing_of_allBlank {labels : List (Char × Role)}
    (h : Text.AllBlank (labels.map Prod.fst)) : ∀ x ∈ labels, IsTrailing x.1 := by
  intro x hx
  exact .inl (h x.1 (List.mem_map_of_mem hx))

/-- Of two characters that are taken in one step the first is no blank. -/
theorem Takes.isBlank_first {r next : Region} {x y : Char × Role} {rest : Text}
    (h : Takes r [x, y] next rest) : isBlank x.1 = false := by
  cases h <;> rfl

/-- **A passage from outside without the blanks before the text.** -/
theorem Passes.without_lead {last : Region} {labels : List (Char × Role)} {rest lead s : Text}
    (h : Passes last rest .outside labels) (hs : labels.map Prod.fst = lead ++ s)
    (hlead : lead.AllBlank) :
    ∃ before kept, labels = before ++ kept ∧ before.map Prod.fst = lead ∧ kept.map Prod.fst = s ∧
      Passes last rest .outside kept := by
  cases h.cut hs with
  | @between mid before kept hlabels hbefore hkept hpasses hrest =>
    have hblank : Text.AllBlank (before.map Prod.fst) := hbefore ▸ hlead
    obtain ⟨rfl, _⟩ := hpasses.trailing trivial rfl (isTrailing_of_allBlank hblank)
    exact ⟨before, kept, hlabels, hbefore, hkept, hrest⟩
  | @within mid next before kept x y hlabels hbefore hkept hpasses htakes hrest =>
    -- a mark would begin with a blank
    have hx : isBlank x.1 = true := by
      apply hlead
      rw [← hbefore]
      exact List.mem_append_right _ List.mem_cons_self
    cases hx.symm.trans htakes.isBlank_first

/-- **A passage without the blanks behind the text.** It ends inside quotes only if it did with them. -/
theorem Passes.without_tail {r last : Region} {labels : List (Char × Role)} {s b : Text}
    (h : Passes last [] r labels) (hr : r.Marked) (hs : labels.map Prod.fst = s ++ b)
    (hb : b.AllBlank) :
    ∃ last' kept, kept.map Prod.fst = s ∧ kept <+: labels ∧ Passes last' [] r kept ∧
      (last.isQuoted = false → last'.isQuoted = false) := by
  cases h.cut hs with
  | @between mid kept after hlabels hkept hafter hpasses hrest =>
    refine ⟨mid, kept, hkept, ⟨after, hlabels.symm⟩, hpasses.of_beginning List.nil_prefix, ?_⟩
    intro hlast
    have hblank : Text.AllBlank (after.map Prod.fst) := hafter ▸ hb
    cases mid with
    | inQuote mark =>
      -- blanks close no token
      obtain ⟨rfl, _⟩ := hrest.trailing (hpasses.marked hr) rfl (isTrailing_of_allBlank hblank)
      cases hlast
    | _ => rfl
  | @within mid next kept after x y hlabels hkept hafter hpasses htakes hrest =>
    rw [← hafter] at hb
    obtain ⟨hy, hblank⟩ := List.forall_mem_cons.mp hb
    -- the text ends in a backslash, which has lost the blank behind it
    obtain ⟨mark, rfl, rfl, rfl, _⟩ := htakes.escape_of_trailing (.inl hy)
    have hmark : Region.Marked (.inQuote mark) := hpasses.marked hr
    obtain ⟨rfl, _⟩ := hrest.trailing hmark rfl (isTrailing_of_allBlank hblank)
    refine ⟨.inQuote mark, kept ++ [('\\', .quoted)], ?_, ⟨y :: after, ?_⟩, hpasses.at_backslash hr, nofun⟩
    · rw [List.map_append]
      exact hkept
    · rw [hlabels, List.append_assoc]
      rfl

/-! ## One statement -/

/-- **A text that is one statement as it stands**: it is not empty without its comments, nothing in it separates
statements, and it has no blanks at its ends. -/
structure Stands (last : Region) (text : Text) (labels : List (Char × Role)) : Prop where
  spelled : labels.map Prod.fst = text
  passes : Passes last [] .outside labels
  /-- A block comment is closed in it. -/
  closed : last ≠ .blockComment
  whole : ∀ x ∈ labels, isSeparator x = false
  held : tidy (bare labels) ≠ []
  trimmed : Text.trim text = text

theorem Stands.label_eq {last : Region} {text : Text} {labels : List (Char × Role)}
    (h : Stands last text labels) : label .outside text = some labels :=
  label_eq_some_iff.mpr ⟨h.spelled, exists_passes_iff.mpr ⟨last, h.closed, h.passes⟩⟩

/-- **The trimmed text of a piece is a statement**, unless nothing is left of the piece. It leaves a token open
only if the piece did. -/
theorem exists_stands {last : Region} {piece : List (Char × Role)}
    (h : Passes last [] .outside piece) (hclosed : last ≠ .blockComment)
    (hwhole : ∀ x ∈ piece, isSeparator x = false) (hheld : tidy (bare piece) ≠ []) :
    ∃ last' labels, Stands last' (Text.trim (piece.map Prod.fst)) labels ∧
      (last.isQuoted = false → last'.isQuoted = false) := by
  have hlabel : label .outside (piece.map Prod.fst) = some piece :=
    label_eq_some_iff.mpr ⟨rfl, exists_passes_iff.mpr ⟨last, hclosed, h⟩⟩
  have hstrip : strip (piece.map Prod.fst) = some (tidy (bare piece)) := by
    rw [strip, hlabel, Option.map_some]
  obtain ⟨lead, tail, hends, hlead, htail⟩ := Text.exists_eq_append_trim_append (piece.map Prod.fst)
  obtain ⟨before, kept, rfl, _, hkept, hpasses⟩ := h.without_lead hends hlead
  obtain ⟨last', labels, hspelled, ⟨after, rfl⟩, hpasses', hquoted⟩ :=
    hpasses.without_tail trivial hkept htail
  -- what is left of it is what was left of the piece
  obtain ⟨labels', hlabels', htidy⟩ := Option.map_eq_some_iff.mp (strip_trim hstrip)
  have hend : (label last' []).map (labels ++ ·) = some labels' := by
    rw [← hpasses'.label_eq, hspelled, List.append_nil, hlabels']
  obtain ⟨rest, hrest, rfl⟩ := Option.map_eq_some_iff.mp hend
  obtain ⟨hnil, hreads⟩ := label_eq_some_iff.mp hrest
  obtain rfl : rest = [] := List.map_eq_nil_iff.mp hnil
  rw [List.append_nil] at htidy
  refine ⟨last', labels, ?_, hquoted⟩
  exact
    { spelled := hspelled
      passes := hpasses'
      closed := hreads.not_blockComment (List.forall_mem_nil _)
      whole := fun x hx => hwhole x (List.mem_append_right _ (List.mem_append_left _ hx))
      held := htidy ▸ hheld
      trimmed := Text.trim_trim _ }

/-! ## The pieces of a labelled text -/

/-- The statements among pieces. -/
def listed (pieces : List (List (Char × Role))) : List Text :=
  (pieces.filter fun piece => !(tidy (bare piece)).isEmpty).map
    fun piece => Text.trim (piece.map Prod.fst)

theorem split_eq_listed (script : Text) :
    split script = (label .outside script).map fun labels => listed (pieces labels) := rfl

theorem listed_cons_of_held {piece : List (Char × Role)} (h : tidy (bare piece) ≠ [])
    (pieces : List (List (Char × Role))) :
    listed (piece :: pieces) = Text.trim (piece.map Prod.fst) :: listed pieces := by
  simp [listed, h]

theorem listed_cons_of_empty {piece : List (Char × Role)} (h : tidy (bare piece) = [])
    (pieces : List (List (Char × Role))) : listed (piece :: pieces) = listed pieces := by
  simp [listed, h]

/-- The pieces of a labelled text: a scan that comes to the first of them in a region goes through each to a
separator, and through the last to the end of the text. -/
inductive Parts : Region → List (List (Char × Role)) → Prop where
  | last {r last : Region} {piece : List (Char × Role)} (h : Passes last [] r piece)
      (hclosed : last ≠ .blockComment) (hwhole : ∀ x ∈ piece, isSeparator x = false) : Parts r [piece]
  | more {r : Region} {piece : List (Char × Role)} {pieces : List (List (Char × Role))}
      (h : Passes .outside [] r piece) (hwhole : ∀ x ∈ piece, isSeparator x = false)
      (hrest : Parts .outside pieces) : Parts r (piece :: pieces)

/-- A step before the first piece belongs to it, unless it separates. -/
theorem Parts.step {r next : Region} {taken first : List (Char × Role)}
    {others : List (List (Char × Role))} (h : Parts next (first :: others))
    (ht : Takes r taken next (first.map Prod.fst)) (hwhole : ∀ x ∈ taken, isSeparator x = false) :
    Parts r ((taken ++ first) :: others) := by
  have ht' : Takes r taken next (first.map Prod.fst ++ []) := by rwa [List.append_nil]
  cases h with
  | last h hclosed hfirst =>
    exact .last (.step ht' h) hclosed (List.forall_mem_append.mpr ⟨hwhole, hfirst⟩)
  | more h hfirst hrest =>
    exact .more (.step ht' h) (List.forall_mem_append.mpr ⟨hwhole, hfirst⟩) hrest

/-- **The pieces of what a scan gives**, step by step. -/
theorem Reads.parts {r : Region} {labels : List (Char × Role)} (h : Reads r labels) :
    Parts r (Sql.pieces labels) := by
  induction h with
  | done hr => exact .last .stay hr nofun
  | @step r next taken labels ht hrest ih =>
    rcases ht.separator_cases with hnone | ⟨rfl, rfl, rfl⟩
    · obtain ⟨first, others, hcut, _, ⟨after, hafter⟩, _⟩ := hrest.pieces
      have hbeginning : first.map Prod.fst <+: labels.map Prod.fst := by
        rw [hafter, List.map_append]
        exact List.prefix_append _ _
      rw [hcut] at ih
      unfold Sql.pieces at hcut ⊢
      rw [Text.cut_append hnone, hcut, List.modifyHead_cons]
      exact ih.step (ht.of_beginning hbeginning) hnone
    · unfold Sql.pieces at ih ⊢
      rw [List.singleton_append, Text.cut_cons_of_separator rfl]
      exact .more .stay nofun ih

/-! ## Statements one after another -/

/-- Statements one after another. Only the last may leave a quoted token open. -/
inductive Series : List Text → Prop where
  | nil : Series []
  | last {last : Region} {text : Text} {labels : List (Char × Role)} (h : Stands last text labels) :
      Series [text]
  | more {last : Region} {text : Text} {labels : List (Char × Role)} {texts : List Text}
      (h : Stands last text labels) (hquoted : last.isQuoted = false) (hrest : Series texts) :
      Series (text :: texts)

/-- The statements among the pieces of a labelled text are such. -/
theorem Parts.series {r : Region} {pieces : List (List (Char × Role))} (h : Parts r pieces)
    (hr : r = .outside) : Series (listed pieces) := by
  induction h with
  | @last r last piece h hclosed hwhole =>
    subst hr
    by_cases hheld : tidy (bare piece) = []
    · rw [listed_cons_of_empty hheld]
      exact .nil
    · obtain ⟨last', labels, hstands, _⟩ := exists_stands h hclosed hwhole hheld
      rw [listed_cons_of_held hheld]
      exact .last hstands
  | @more r piece pieces h hwhole hrest ih =>
    subst hr
    by_cases hheld : tidy (bare piece) = []
    · rw [listed_cons_of_empty hheld]
      exact ih rfl
    · obtain ⟨last', labels, hstands, hquoted⟩ := exists_stands h nofun hwhole hheld
      rw [listed_cons_of_held hheld]
      exact .more hstands (hquoted rfl) (ih rfl)

/-- **The pieces of a script are statements one after another.** -/
theorem series_of_split {script : Text} {texts : List Text} (h : split script = some texts) :
    Series texts := by
  rw [split_eq_listed] at h
  obtain ⟨labels, hlabels, rfl⟩ := Option.map_eq_some_iff.mp h
  obtain ⟨_, hreads⟩ := label_eq_some_iff.mp hlabels
  exact hreads.parts.series rfl

theorem Series.stands {texts : List Text} (h : Series texts) {text : Text} (hmem : text ∈ texts) :
    ∃ last labels, Stands last text labels := by
  induction h with
  | nil => cases hmem
  | last h =>
    obtain rfl := List.mem_singleton.mp hmem
    exact ⟨_, _, h⟩
  | more h _ _ ih =>
    rcases List.mem_cons.mp hmem with rfl | hmem
    · exact ⟨_, _, h⟩
    · exact ih hmem

/-! ## Cut out again -/

section Cut

variable {lead : Text} {last : Region} {text : Text} {labels : List (Char × Role)}

/-- What holds no separator is one piece. -/
theorem pieces_of_whole {labels : List (Char × Role)} (h : ∀ x ∈ labels, isSeparator x = false) :
    pieces labels = [labels] := by
  have hcut := Text.cut_append h []
  rw [List.append_nil] at hcut
  rw [pieces, hcut]
  simp [Text.cut]

theorem bare_blanks (b : Text) : bare (b.map (·, .code)) = b := by
  rw [bare, List.filterMap_map]
  exact List.filterMap_some

theorem whole_blanks (b : Text) : ∀ x ∈ b.map (·, Role.code), isSeparator x = false := by
  intro x hx
  obtain ⟨c, _, rfl⟩ := List.mem_map.mp hx
  rfl

/-- A statement with blanks before and behind it is listed without them. -/
theorem Stands.listed_cons (h : Stands last text labels) (hlead : lead.AllBlank) {tail : Text}
    (htail : tail.AllBlank) (pieces : List (List (Char × Role))) :
    listed ((lead.map (·, .code) ++ (labels ++ tail.map (·, .code))) :: pieces)
      = text :: listed pieces := by
  have hheld : tidy (bare (lead.map (·, .code) ++ (labels ++ tail.map (·, .code)))) ≠ [] := by
    rw [bare_append, bare_append, bare_blanks, bare_blanks, tidy_append_append hlead htail]
    exact h.held
  rw [listed_cons_of_held hheld, List.map_append, List.map_append, map_fst_role, map_fst_role, h.spelled,
    Text.trim_append_append hlead htail, h.trimmed]

/-- **A statement is the one statement of itself.** -/
theorem Stands.split_eq (h : Stands last text labels) (hlead : lead.AllBlank) :
    split (lead ++ text) = some [text] := by
  have hlabel : label .outside (lead ++ text) = some (lead.map (·, .code) ++ labels) := by
    have hblanks := (Passes.blanks hlead text).label_eq
    rwa [map_fst_role, h.label_eq, Option.map_some] at hblanks
  have hwhole : ∀ x ∈ lead.map (·, .code) ++ labels, isSeparator x = false :=
    List.forall_mem_append.mpr ⟨whole_blanks lead, h.whole⟩
  have hlisted := h.listed_cons hlead (List.forall_mem_nil _) []
  rw [List.map_nil, List.append_nil] at hlisted
  rw [split_eq_listed, hlabel, Option.map_some, pieces_of_whole hwhole, hlisted]
  rfl

/-- **A statement that leaves no token open is cut out** of a text that goes on behind a semicolon on a line of
its own. -/
theorem Stands.split_append (h : Stands last text labels) (hquoted : last.isQuoted = false)
    (hlead : lead.AllBlank) (rest : Text) :
    split (lead ++ (text ++ '\n' :: ';' :: rest)) = (split rest).map (text :: ·) := by
  have hend : Text.AllBlank ['\n'] := List.forall_mem_singleton.mpr rfl
  have hline : label last ('\n' :: ';' :: rest)
      = (label .outside rest).map fun after => ('\n', .code) :: (';', .separator) :: after := by
    have htakes : Takes last [('\n', .code)] .outside (';' :: rest) :=
      .endOfLine hquoted h.closed
    have hnewline := htakes.label_eq
    have hseparator : label .outside (';' :: rest) = _ := Takes.separator.label_eq
    rw [hseparator, Option.map_map] at hnewline
    exact hnewline
  have hlabel : label .outside (lead ++ (text ++ '\n' :: ';' :: rest))
      = (label .outside rest).map fun after =>
          (lead.map (·, .code) ++ (labels ++ ['\n'].map (·, .code))) ++ (';', .separator) :: after := by
    have hpasses : Passes last ('\n' :: ';' :: rest) .outside labels :=
      h.passes.before_newline trivial hquoted _
    have hblanks := (Passes.blanks hlead (text ++ '\n' :: ';' :: rest)).label_eq
    have htext := hpasses.label_eq
    rw [h.spelled, hline, Option.map_map] at htext
    rw [map_fst_role, htext, Option.map_map] at hblanks
    rw [hblanks]
    congr 1
    funext after
    simp
  have hwhole : ∀ x ∈ lead.map (·, .code) ++ (labels ++ ['\n'].map (·, .code)),
      isSeparator x = false :=
    List.forall_mem_append.mpr
      ⟨whole_blanks lead, List.forall_mem_append.mpr ⟨h.whole, whole_blanks ['\n']⟩⟩
  rw [split_eq_listed, hlabel, Option.map_map, split_eq_listed, Option.map_map]
  congr 1
  funext after
  have hcut := Text.cut_append hwhole ((';', .separator) :: after)
  rw [Text.cut_cons_of_separator rfl, List.modifyHead_cons, List.append_nil] at hcut
  show listed (pieces _) = text :: listed (pieces after)
  rw [pieces, hcut, h.listed_cons hlead hend]
  rfl

end Cut

/-- What stands between the statements: a semicolon on a line of its own. -/
def ownLine : Text := ['\n', ';', '\n']

/-- **Statements are cut out of the text that is made of them**, also with blanks before it. -/
theorem Series.split_joined {texts : List Text} (h : Series texts) {lead : Text} (hlead : lead.AllBlank) :
    split (lead ++ Text.joined ownLine texts) = some texts := by
  induction h generalizing lead with
  | nil =>
    have hlabel := (Passes.blanks hlead []).label_eq
    have hempty : tidy (bare (lead.map (·, .code))) = [] := by
      have htidy := tidy_append_append hlead (List.forall_mem_nil _) []
      rw [bare_blanks, ← List.append_nil lead]
      exact htidy
    rw [map_fst_role] at hlabel
    show split (lead ++ []) = _
    rw [split_eq_listed, hlabel]
    show some (listed (pieces (lead.map (·, .code) ++ []))) = some []
    rw [List.append_nil, pieces_of_whole (whole_blanks lead), listed_cons_of_empty hempty]
    rfl
  | last h =>
    show split (lead ++ (_ ++ [])) = _
    rw [List.append_nil]
    exact h.split_eq hlead
  | @more last text labels texts h hquoted hrest ih =>
    cases texts with
    | nil =>
      show split (lead ++ (_ ++ [])) = _
      rw [List.append_nil]
      exact h.split_eq hlead
    | cons next texts =>
      have hend : Text.AllBlank ['\n'] := List.forall_mem_singleton.mpr rfl
      have hrest := h.split_append hquoted hlead (['\n'] ++ Text.joined ownLine (next :: texts))
      rw [ih hend, Option.map_some] at hrest
      rw [Text.joined_cons (List.cons_ne_nil _ _)]
      exact hrest

/-! ## The pieces of a script -/

/-- **What is said of the pieces of a script**: of the segments between its separators and of the texts that are
listed. -/
structure Pieces (script : Text) (segments texts : List Text) : Prop where
  /-- The segments make up the script. -/
  segmented : Text.joined [';'] segments = script
  /-- Each of them can be stripped, and trimming does not change what is left of it. -/
  stripped : ∀ segment ∈ segments, ∃ t, strip segment = some t ∧ strip (Text.trim segment) = some t
  /-- The texts are the trimmed segments in their order, without those of which nothing is left. -/
  kept : texts = (segments.filter fun segment => strip segment != some []).map Text.trim
  /-- A text has no blanks at its ends, -/
  trimmed : ∀ text ∈ texts, Text.trim text = text
  /-- something is left of it, -/
  held : ∀ text ∈ texts, ∃ t, strip text = some t ∧ t ≠ []
  /-- and it is the one piece of itself. -/
  alone : ∀ text ∈ texts, split text = some [text]
  /-- Put together with semicolons on lines of their own, the texts are the pieces again. -/
  rejoined : split (Text.joined ownLine texts) = some texts

/-- **The pieces of a script are split no further, and cut out again as they were.** -/
theorem split_stable {script : Text} {texts : List Text} (h : split script = some texts) :
    ∃ segments, scan .split .outside script = some segments ∧ Pieces script segments texts := by
  have hseries := series_of_split h
  have hnothing : Text.AllBlank [] := List.forall_mem_nil _
  rw [split_eq] at h
  obtain ⟨segments, hsegments, hkept⟩ := Option.map_eq_some_iff.mp h
  refine ⟨segments, hsegments, ?_⟩
  refine
    { segmented := joined_of_scan hsegments
      stripped := ?stripped
      kept := hkept.symm
      trimmed := ?trimmed
      held := ?held
      alone := ?alone
      rejoined := hseries.split_joined hnothing }
  case stripped =>
    intro segment hsegment
    obtain ⟨t, ht⟩ := exists_strip_of_mem hsegments hsegment
    exact ⟨t, ht, strip_trim ht⟩
  case trimmed =>
    intro text htext
    obtain ⟨last, labels, hstands⟩ := hseries.stands htext
    exact hstands.trimmed
  case held =>
    intro text htext
    obtain ⟨last, labels, hstands⟩ := hseries.stands htext
    exact ⟨tidy (bare labels), by rw [strip, hstands.label_eq]; rfl, hstands.held⟩
  case alone =>
    intro text htext
    obtain ⟨last, labels, hstands⟩ := hseries.stands htext
    exact hstands.split_eq hnothing

/-- A line comment loses the end of its line and an open token its last blank, and a comment alone is no
statement. -/
theorem split_stable_open :
    let script : Text := "# ;\n; A -- ;\n\t;/*;*/; B 'b\\ ".toList
    let texts : List Text := ["A -- ;".toList, "B 'b\\".toList]
    split script = some texts ∧
      ∃ segments, scan .split .outside script = some segments ∧ Pieces script segments texts := by
  intro script texts
  have h : split script = some texts := by decide
  exact ⟨h, split_stable h⟩

end Sql
end SchemaBatch
