import SchemaBatch.Proofs.Scanning
import SchemaBatch.SessionError

/-!
# `Proofs.ScriptReadings` — stripping and splitting read a text alike

A text is scanned to take its comments out, and it is scanned to cut it into statements. Both times the
scan has to see the same quotes, the same comments and the same separators: a semicolon or a mark that one
of them saw otherwise would cut a statement in two or merge two into one.

* `Mode`, `scan` — the two readings, each in one pass; `scan_eq`, **both are views of the labels**.
* `strip_eq`, `split_eq` — `strip` and `split` are what these readings make of a text.
* `strip_segments` — the segments of a text can be stripped one by one.
* `readings_agree` — **both readings fail on the same texts, the segments make up the text again, and what
  is left of them makes up what is left of the text**.
-/

namespace SchemaBatch
namespace Sql

/-! ## The two readings, each in one pass -/

/-- What a text is scanned for. -/
inductive Mode where
  /-- To take its comments out. -/
  | strip
  /-- To cut it into segments, which keep their comments. -/
  | split
  deriving DecidableEq

/-- What is left of a comment: itself, or what stands in its place. -/
def Mode.leave : Mode → (comment instead : Text) → Text
  | .strip, _, instead => instead
  | .split, comment, _ => comment

/-- The segments with more text at the start of the first. -/
def inFront (s : Text) (segments : List Text) : List Text := segments.modifyHead (s ++ ·)

/-- The segments of a text, in one pass; `none` when a block comment is left open. Only splitting cuts the
text, and only stripping leaves comments out. -/
def scan (mode : Mode) : Region → Text → Option (List Text)
  | .blockComment, [] => none
  | _, [] => some [[]]
  | .blockComment, '*' :: '/' :: rest =>
    (scan mode .outside rest).map (inFront (mode.leave ['*', '/'] [' ']))
  | .blockComment, c :: rest => (scan mode .blockComment rest).map (inFront (mode.leave [c] []))
  | .lineComment, c :: rest =>
    if c == '\n' then (scan mode .outside rest).map (inFront [c])
    else (scan mode .lineComment rest).map (inFront (mode.leave [c] []))
  | .inQuote mark, '\\' :: c :: rest => (scan mode (.inQuote mark) rest).map (inFront ['\\', c])
  | .inQuote mark, c :: rest =>
    if c == mark then (scan mode .outside rest).map (inFront [c])
    else (scan mode (.inQuote mark) rest).map (inFront [c])
  | .outside, '-' :: '-' :: rest =>
    (scan mode .lineComment rest).map (inFront (mode.leave ['-', '-'] []))
  | .outside, '/' :: '*' :: rest =>
    (scan mode .blockComment rest).map (inFront (mode.leave ['/', '*'] []))
  | .outside, c :: rest =>
    if isQuoteMark c then (scan mode (.inQuote c) rest).map (inFront [c])
    else if c == '#' then (scan mode .lineComment rest).map (inFront (mode.leave [c] []))
    else if c == ';' && mode == .split then (scan mode .outside rest).map ([] :: ·)
    else (scan mode .outside rest).map (inFront [c])

/-- What a mode makes of labels. -/
def Mode.view : Mode → List (Char × Role) → List Text
  | .strip, labels => [bare labels]
  | .split, labels => (pieces labels).map (·.map Prod.fst)

theorem Mode.leave_self (mode : Mode) (s : Text) : mode.leave s s = s := by
  cases mode <;> rfl

/-- What holds no separator goes to the front of what comes after it. -/
theorem Mode.view_append (mode : Mode) {taken : List (Char × Role)}
    (h : ∀ x ∈ taken, isSeparator x = false) (labels : List (Char × Role)) :
    mode.view (taken ++ labels)
      = inFront (mode.leave (taken.map Prod.fst) (bare taken)) (mode.view labels) := by
  cases mode with
  | strip =>
    show [bare (taken ++ labels)] = [bare taken ++ bare labels]
    rw [bare_append]
  | split =>
    show (pieces (taken ++ labels)).map _ = inFront (taken.map Prod.fst) ((pieces labels).map _)
    rw [pieces, Text.cut_append h, ← pieces]
    cases pieces labels with
    | nil => rfl
    | cons piece others => simp [inFront]

theorem scan_step {mode : Mode} {next : Region} {rest shown : Text} (taken : List (Char × Role))
    (ih : scan mode next rest = (label next rest).map mode.view)
    (hnone : taken.all (fun x => !isSeparator x) = true)
    (hshown : mode.leave (taken.map Prod.fst) (bare taken) = shown) :
    (scan mode next rest).map (inFront shown)
      = ((label next rest).map (taken ++ ·)).map mode.view := by
  have hnone' : ∀ x ∈ taken, isSeparator x = false := by simpa using hnone
  rw [ih, Option.map_map, Option.map_map]
  congr 1
  funext labels
  exact (hshown ▸ mode.view_append hnone' labels).symm

/-- **Both readings are views of the labels.** -/
theorem scan_eq (mode : Mode) (r : Region) (s : Text) : scan mode r s = (label r s).map mode.view := by
  fun_induction label r s with
  | case1 => rfl
  | case2 r hr => cases r <;> cases mode <;> first | rfl | exact absurd rfl hr
  | case3 rest ih => exact scan_step [('*', .comment), ('/', .gap)] ih rfl rfl
  | case4 c rest hclose ih =>
    rw [scan]
    · exact scan_step [(c, .comment)] ih rfl rfl
    · exact hclose
  | case5 c rest hc ih =>
    rw [scan, if_pos hc]
    exact scan_step [(c, .code)] ih rfl (mode.leave_self [c])
  | case6 c rest hc ih =>
    rw [scan, if_neg hc]
    exact scan_step [(c, .comment)] ih rfl rfl
  | case7 mark c rest ih =>
    exact scan_step [('\\', .quoted), (c, .quoted)] ih rfl (mode.leave_self ['\\', c])
  | case8 mark c rest hescape hc ih =>
    rw [scan, if_pos hc]
    · exact scan_step [(c, .quote)] ih rfl (mode.leave_self [c])
    · exact hescape
  | case9 mark c rest hescape hc ih =>
    rw [scan, if_neg hc]
    · exact scan_step [(c, .quoted)] ih rfl (mode.leave_self [c])
    · exact hescape
  | case10 rest ih => exact scan_step [('-', .comment), ('-', .comment)] ih rfl rfl
  | case11 rest ih => exact scan_step [('/', .comment), ('*', .comment)] ih rfl rfl
  | case12 c rest hline hblock hquote ih =>
    rw [scan, if_pos hquote]
    · exact scan_step [(c, .quote)] ih rfl (mode.leave_self [c])
    · exact hline
    · exact hblock
  | case13 c rest hline hblock hquote hhash ih =>
    rw [scan, if_neg hquote, if_pos hhash]
    · exact scan_step [(c, .comment)] ih rfl rfl
    · exact hline
    · exact hblock
  | case14 c rest hline hblock hquote hhash hsep ih =>
    obtain rfl := eq_of_beq hsep
    rw [scan, if_neg hquote, if_neg hhash]
    · cases mode with
      | strip =>
        -- a separator stays in the text
        rw [if_neg (by simp), ih, Option.map_map, Option.map_map]
        rfl
      | split =>
        rw [if_pos (by simp), ih, Option.map_map, Option.map_map]
        rfl
    · exact hline
    · exact hblock
  | case15 c rest hline hblock hquote hhash hsep ih =>
    rw [scan, if_neg hquote, if_neg hhash, if_neg (by simp [hsep])]
    · exact scan_step [(c, .code)] ih rfl (mode.leave_self [c])
    · exact hline
    · exact hblock

/-- A text that is stripped is scanned for it, and what is left is tidied. -/
theorem strip_eq (s : Text) :
    strip s = (scan .strip .outside s).map fun segments => tidy (segments.headD []) := by
  rw [scan_eq, Option.map_map]
  rfl

/-- A script that is split is scanned for it, and lists the segments that hold a statement. -/
theorem split_eq (s : Text) :
    split s = (scan .split .outside s).map fun segments =>
      (segments.filter fun segment => strip segment != some []).map Text.trim := by
  rw [scan_eq, Option.map_map, split]
  cases hlabels : label .outside s with
  | none => rfl
  | some labels =>
    obtain ⟨_, hreads⟩ := label_eq_some_iff.mp hlabels
    -- a piece holds a statement if stripping its text leaves something
    have hstrip : ∀ piece ∈ pieces labels,
        (!(tidy (bare piece)).isEmpty) = (strip (piece.map Prod.fst) != some []) := by
      intro piece hpiece
      rw [strip, hreads.label_of_mem_pieces hpiece, Option.map_some]
      cases tidy (bare piece) <;> rfl
    rw [Option.map_some, Option.map_some, List.filter_congr hstrip]
    show some _ = some (((pieces labels).map _).filter _ |>.map _)
    rw [List.filter_map, List.map_map]
    rfl

/-- A statement is read from what is left of its text. -/
theorem readStatement_of_strip {s t : Text} (h : strip s = some t) :
    readStatement s = (Statement.ofStripped s t).mapError SessionError.ofFault := by
  rw [readStatement, Statement.parse, h]

/-- A text of which nothing is left, not even an empty one, is refused. -/
theorem readStatement_of_open {s : Text} (h : strip s = none) :
    readStatement s = .error (SessionError.ofFault .openComment) := by
  rw [readStatement, Statement.parse, h]
  rfl

/-! ## They agree -/

/-- **The segments can be stripped one by one**, and what is left of them makes up what is left of the
text. -/
theorem strip_segments {s : Text} {segments : List Text}
    (h : scan .split .outside s = some segments) :
    ∃ left, segments.map (scan .strip .outside) = left.map (fun own => some [own]) ∧
      scan .strip .outside s = some [Text.joined [';'] left] := by
  rw [scan_eq] at h
  obtain ⟨labels, hlabels, rfl⟩ := Option.map_eq_some_iff.mp h
  obtain ⟨_, hreads⟩ := label_eq_some_iff.mp hlabels
  refine ⟨(pieces labels).map bare, ?_, ?_⟩
  · show ((pieces labels).map _).map _ = ((pieces labels).map bare).map _
    rw [List.map_map, List.map_map]
    refine List.map_congr_left fun piece hpiece => ?_
    show scan .strip .outside (piece.map Prod.fst) = some [bare piece]
    rw [scan_eq, hreads.label_of_mem_pieces hpiece]
    rfl
  · rw [scan_eq, hlabels, hreads.joined_bare]
    rfl

theorem exists_strip_of_mem {s segment : Text} {segments : List Text}
    (h : scan .split .outside s = some segments) (hsegment : segment ∈ segments) :
    ∃ t, strip segment = some t := by
  obtain ⟨left, hleft, _⟩ := strip_segments h
  have hscan : scan .strip .outside segment ∈ left.map fun own => some [own] :=
    hleft ▸ List.mem_map.mpr ⟨segment, hsegment, rfl⟩
  obtain ⟨own, _, hown⟩ := List.mem_map.mp hscan
  exact ⟨tidy own, by rw [strip_eq, ← hown]; rfl⟩

/-- The segments of a text make it up again. -/
theorem joined_of_scan {s : Text} {segments : List Text} (h : scan .split .outside s = some segments) :
    Text.joined [';'] segments = s := by
  rw [scan_eq] at h
  obtain ⟨labels, hlabels, rfl⟩ := Option.map_eq_some_iff.mp h
  obtain ⟨rfl, hreads⟩ := label_eq_some_iff.mp hlabels
  exact hreads.joined_pieces

/-- **Stripping and splitting read the text alike.** -/
structure ReadAlike (s : Text) : Prop where
  /-- The two scans fail on the same texts, -/
  scan_fails : scan .strip .outside s = none ↔ scan .split .outside s = none
  /-- and so do stripping and splitting, -/
  fails : strip s = none ↔ split s = none
  /-- which are these scans with the ends tidied, and with the segments without a statement left out. -/
  scans : strip s = (scan .strip .outside s).map (fun segments => tidy (segments.headD [])) ∧
    split s = (scan .split .outside s).map fun segments =>
      (segments.filter fun segment => strip segment != some []).map Text.trim
  /-- The segments make up the text again. -/
  rejoined : ∀ segments, scan .split .outside s = some segments →
    Text.joined [';'] segments = s
  /-- Each of them can be stripped on its own, and what is left of them makes up what is left of the
  text, before its ends are tidied. -/
  stripped : ∀ segments, scan .split .outside s = some segments →
    ∃ left, segments.map (scan .strip .outside) = left.map (fun own => some [own]) ∧
      scan .strip .outside s = some [Text.joined [';'] left]
  /-- So it is with their ends tidied: the text is tidied once, at its own ends. -/
  tidied : ∀ segments, scan .split .outside s = some segments →
    ∃ left, segments.map strip = left.map (fun own => some (tidy own)) ∧
      strip s = some (tidy (Text.joined [';'] left))
  /-- The pieces of a script that are listed can be stripped, and something is left of them. -/
  listed : ∀ texts, split s = some texts → ∀ text ∈ texts, ∃ t, strip text = some t ∧ t ≠ []

/-- **The two readings agree on every text.** -/
theorem readings_agree (s : Text) : ReadAlike s := by
  have hfails : ∀ mode, scan mode .outside s = none ↔ label .outside s = none := by
    intro mode
    rw [scan_eq, Option.map_eq_none_iff]
  refine
    { scan_fails := (hfails .strip).trans (hfails .split).symm
      fails := ?fails
      scans := ⟨strip_eq s, split_eq s⟩
      rejoined := fun segments h => joined_of_scan h
      stripped := fun segments h => strip_segments h
      tidied := ?tidied
      listed := ?listed }
  case fails =>
    rw [strip_eq, split_eq, Option.map_eq_none_iff, Option.map_eq_none_iff]
    exact (hfails .strip).trans (hfails .split).symm
  case tidied =>
    intro segments h
    obtain ⟨left, hleft, hwhole⟩ := strip_segments h
    refine ⟨left, ?_, by rw [strip_eq, hwhole]; rfl⟩
    have htidied := congrArg (List.map (Option.map fun own => tidy (own.headD []))) hleft
    rw [List.map_map, List.map_map] at htidied
    simpa only [Function.comp_def, ← strip_eq, Option.map_some, List.headD_cons] using htidied
  case listed =>
    intro texts h text htext
    rw [split_eq] at h
    obtain ⟨segments, hsegments, rfl⟩ := Option.map_eq_some_iff.mp h
    obtain ⟨segment, hsegment, rfl⟩ := List.mem_map.mp htext
    obtain ⟨hmem, hholds⟩ := List.mem_filter.mp hsegment
    obtain ⟨t, ht⟩ := exists_strip_of_mem hsegments hmem
    refine ⟨t, strip_trim ht, ?_⟩
    rintro rfl
    simp [ht] at hholds

-- a semicolon in quotes, behind a backslash or in a comment separates nothing
example : split "A ';\\';' -- ;\n; /* ; */ B".toList
    = some ["A ';\\';' -- ;".toList, "/* ; */ B".toList] := by decide

end Sql
end SchemaBatch
