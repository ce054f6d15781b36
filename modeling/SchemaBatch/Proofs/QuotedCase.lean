import SchemaBatch.Proofs.LetterCase
import SchemaBatch.Proofs.TimeoutGrammar

/-!
# `Proofs.QuotedCase` — letter case outside of quotes does not matter to a statement

No mark of SQL is a letter, so a scan gives the characters of a text the same roles whatever the case of its
letters is. Keywords are compared in upper case. The one place where letter case counts is the unit of a
timeout, and that stands in quotes.

* `Reads.recased`, `exists_label_recased` — **a text in other letter case is labelled alike.**
* `Recased` — texts that differ in letter case only, and only outside of quoted tokens.
  `Recased.strip`, so do the texts without their comments, and they have the same quoted tokens.
* `Timeout.SameLiteral` — a literal at the end of two texts is the same; `Timeout.value_recased`,
  `Timeout.read_recased`, the same timeout is read then, or refused for the same fault.
* `SameReading`, `readStatement_recased` — **the same is read, or refused with the same error.**
-/

namespace SchemaBatch

/-! ## Characters and texts -/

/-- A character that is no letter has no other case. -/
theorem eq_of_toUpper {c d : Char} (hd : d.isAlpha = false) (h : c.toUpper = d.toUpper) : c = d := by
  have hself : d.toUpper = d := by simpa using beq_toUpper hd d
  have hc := beq_toUpper hd c
  rw [h, hself, beq_self_eq_true] at hc
  exact eq_of_beq hc.symm

namespace Text

theorem trimStart_upper (s : Text) : trimStart (upper s) = upper (trimStart s) :=
  Catalog.dropWhile_upper isBlank_toUpper s

theorem trimEnd_upper (s : Text) : trimEnd (upper s) = upper (trimEnd s) := by
  have hreverse : ∀ s : Text, (upper s).reverse = upper s.reverse := fun _ => List.map_reverse.symm
  rw [trimEnd, hreverse, Catalog.dropWhile_upper isBlank_toUpper, hreverse, trimEnd]

theorem trim_upper (s : Text) : trim (upper s) = upper (trim s) := by
  rw [trim, trimStart_upper, trimEnd_upper, trim]

theorem drop_upper (n : Nat) (s : Text) : (upper s).drop n = upper (s.drop n) := List.map_drop.symm

theorem takeWhile_upper {p : Char → Bool} (h : ∀ c, p c.toUpper = p c) (s : Text) :
    (upper s).takeWhile p = upper (s.takeWhile p) := by
  rw [upper, List.takeWhile_map, upper]
  congr 2
  exact funext h

theorem getLast?_upper (s : Text) : (upper s).getLast? = s.getLast?.map Char.toUpper :=
  List.getLast?_map

/-- A text in other letter case has the same parts. -/
theorem exists_append_of_upper {s a b : Text} (h : upper s = upper (a ++ b)) :
    ∃ a' b', s = a' ++ b' ∧ upper a' = upper a ∧ upper b' = upper b := by
  rw [upper_append] at h
  exact List.map_eq_append_iff.mp h

theorem allBlank_of_upper {s t : Text} (h : upper t = upper s) (hs : s.AllBlank) : t.AllBlank := by
  rw [upper_of_allBlank hs] at h
  intro c hc
  rw [← isBlank_toUpper]
  exact hs _ (h ▸ List.mem_map_of_mem hc)

end Text

namespace Sql

/-! ## The labels -/

/-- A labelled character in upper case. -/
def inUpper (x : Char × Role) : Char × Role := (x.1.toUpper, x.2)

theorem exists_single_of_inUpper {labels : List (Char × Role)} {c : Char} {role : Role}
    (h : labels.map inUpper = [(c, role)].map inUpper) :
    ∃ c', labels = [(c', role)] ∧ c'.toUpper = c.toUpper := by
  obtain ⟨⟨c', role'⟩, rfl, hx⟩ := List.map_eq_singleton_iff.mp h
  obtain ⟨hc, rfl⟩ := Prod.mk.inj hx
  exact ⟨c', rfl, hc⟩

/-- Where there are no letters there is no other case. -/
theorem eq_of_inUpper {labels labels' : List (Char × Role)}
    (hletters : ∀ x ∈ labels, x.1.isAlpha = false) (h : labels'.map inUpper = labels.map inUpper) :
    labels' = labels := by
  induction labels generalizing labels' with
  | nil => exact List.map_eq_nil_iff.mp h
  | cons x labels ih =>
    obtain ⟨hx, hlabels⟩ := List.forall_mem_cons.mp hletters
    obtain ⟨y, rest, rfl, hy, hrest⟩ := List.map_eq_cons_iff.mp h
    obtain ⟨hc, hrole⟩ := Prod.mk.inj hy
    rw [ih hlabels hrest, Prod.ext (eq_of_toUpper hx hc) hrole]

theorem upper_of_inUpper {labels' labels : List (Char × Role)}
    (h : labels'.map inUpper = labels.map inUpper) :
    Text.upper (labels'.map Prod.fst) = Text.upper (labels.map Prod.fst) := by
  have hfst : ∀ labels : List (Char × Role),
      Text.upper (labels.map Prod.fst) = (labels.map inUpper).map Prod.fst := by
    intro labels
    rw [Text.upper, List.map_map, List.map_map]
    rfl
  rw [hfst, hfst, h]

theorem not_isAlpha_of_isQuoteMark {c : Char} (h : isQuoteMark c = true) : c.isAlpha = false := by
  simp only [isQuoteMark, Bool.or_eq_true, beq_iff_eq] at h
  rcases h with (rfl | rfl) | rfl <;> rfl

theorem isQuoteMark_toUpper (c : Char) : isQuoteMark c.toUpper = isQuoteMark c := by
  rw [isQuoteMark, beq_toUpper rfl, beq_toUpper rfl, beq_toUpper rfl, isQuoteMark]

/-- A step of the scan does not depend on letter case: no mark is a letter. -/
theorem Takes.recased {r next : Region} {taken taken' : List (Char × Role)} {rest rest' : Text}
    (h : Takes r taken next rest) (hr : r.Marked) (htaken : taken'.map inUpper = taken.map inUpper)
    (hrest : Text.upper rest' = Text.upper rest) : Takes r taken' next rest' := by
  have hnil : rest = [] → rest' = [] := by
    rintro rfl
    exact List.map_eq_nil_iff.mp hrest
  have hhead : ∀ {d : Char}, d.isAlpha = false → rest.head? ≠ some d → rest'.head? ≠ some d := by
    intro d hd hne hhead'
    have hmap : rest'.head?.map Char.toUpper = rest.head?.map Char.toUpper := by
      rw [← List.head?_map, ← List.head?_map]
      exact congrArg List.head? hrest
    rw [hhead'] at hmap
    obtain ⟨c, hc, hcd⟩ := Option.map_eq_some_iff.mp hmap.symm
    exact hne (hc.trans (congrArg some (eq_of_toUpper hd hcd)))
  have hmark : ∀ {c c' d : Char}, c'.toUpper = c.toUpper → d.isAlpha = false → c' = d → c = d :=
    fun hc hd hcd => eq_of_toUpper hd (hc.symm.trans (congrArg Char.toUpper hcd))
  cases h with
  | separator | hash | newline | dashes | openBlock | closeBlock =>
    obtain rfl := eq_of_inUpper (by decide) htaken
    constructor
  | openQuote hquote =>
    obtain rfl := eq_of_inUpper (List.forall_mem_singleton.mpr (not_isAlpha_of_isQuoteMark hquote)) htaken
    exact .openQuote hquote
  | closeQuote hslash =>
    have hletter := not_isAlpha_of_isQuoteMark (show isQuoteMark _ = true from hr)
    obtain rfl := eq_of_inUpper (List.forall_mem_singleton.mpr hletter) htaken
    exact .closeQuote fun h => hnil (hslash h)
  | code hquote hhash hsep hline hblock =>
    obtain ⟨c', rfl, hc⟩ := exists_single_of_inUpper htaken
    refine .code ?_ (fun h => hhash (hmark hc rfl h)) (fun h => hsep (hmark hc rfl h))
      (fun h => hhead rfl (hline (hmark hc rfl h))) fun h => hhead rfl (hblock (hmark hc rfl h))
    rw [← isQuoteMark_toUpper, hc, isQuoteMark_toUpper, hquote]
  | line hne =>
    obtain ⟨c', rfl, hc⟩ := exists_single_of_inUpper htaken
    exact .line fun h => hne (hmark hc rfl h)
  | block hstar =>
    obtain ⟨c', rfl, hc⟩ := exists_single_of_inUpper htaken
    exact .block fun h => hhead rfl (hstar (hmark hc rfl h))
  | quoted hne hslash =>
    obtain ⟨c', rfl, hc⟩ := exists_single_of_inUpper htaken
    exact .quoted (fun h => hne (hmark hc (not_isAlpha_of_isQuoteMark hr) h))
      fun h => hnil (hslash (hmark hc rfl h))
  | escape =>
    -- what stands behind the backslash may be a letter
    obtain ⟨slash', rest', rfl, hslash, hsecond⟩ := List.map_eq_cons_iff.mp htaken
    have hfirst : [slash'] = [('\\', .quoted)] := eq_of_inUpper (by decide) (congrArg (· :: []) hslash)
    obtain ⟨rfl, _⟩ := List.cons.inj hfirst
    obtain ⟨c', rfl, _⟩ := exists_single_of_inUpper hsecond
    exact .escape

/-- **A text in other letter case is read alike.** -/
theorem Reads.recased {r : Region} {labels labels' : List (Char × Role)} (h : Reads r labels) (hr : r.Marked)
    (hlabels : labels'.map inUpper = labels.map inUpper) : Reads r labels' := by
  induction h generalizing labels' with
  | done hr' =>
    obtain rfl := List.map_eq_nil_iff.mp hlabels
    exact .done hr'
  | step ht hrest ih =>
    rw [List.map_append] at hlabels
    obtain ⟨taken', rest', rfl, htaken, hrest'⟩ := List.map_eq_append_iff.mp hlabels
    exact .step (ht.recased hr htaken (upper_of_inUpper hrest')) (ih (ht.marked hr) hrest')

theorem exists_label_recased {s t : Text} {labels : List (Char × Role)} (h : Text.upper t = Text.upper s)
    (hs : label .outside s = some labels) :
    ∃ labels', label .outside t = some labels' ∧ labels'.map inUpper = labels.map inUpper := by
  obtain ⟨rfl, hreads⟩ := label_eq_some_iff.mp hs
  have hlength : t.length = labels.length := by
    rw [← Text.length_upper t, h, Text.length_upper, List.length_map]
  have hinUpper : (t.zip (labels.map Prod.snd)).map inUpper = labels.map inUpper := by
    have hzip : (t.zip (labels.map Prod.snd)).map inUpper = (Text.upper t).zip (labels.map Prod.snd) := by
      rw [Text.upper, List.zip_map_left]
      rfl
    rw [hzip, h, Text.upper, List.map_map, List.zip_map']
    rfl
  have htext : (t.zip (labels.map Prod.snd)).map Prod.fst = t :=
    List.map_fst_zip (by rw [List.length_map, hlength])
  exact ⟨_, label_eq_some_iff.mpr ⟨htext, hreads.recased trivial hinUpper⟩, hinUpper⟩

/-! ## Texts that differ outside of quotes -/

/-- Whether a character belongs to a quoted token, its marks included. -/
def Role.isQuotation : Role → Bool
  | .quote | .quoted => true
  | _ => false

/-- Two texts that differ in the case of letters only, and only outside of quoted tokens. -/
structure Recased (s t : Text) : Prop where
  letters : Text.upper t = Text.upper s
  quotes : ∀ labels, label .outside s = some labels → ∀ (i : Nat) (c : Char) (role : Role),
    labels[i]? = some (c, role) → role.isQuotation = true → t[i]? = some c

/-- The condition on the quoted characters, for a text that is labelled. -/
theorem Recased.of_label {s t : Text} {labels : List (Char × Role)} (h : Text.upper t = Text.upper s)
    (hs : label .outside s = some labels)
    (hquotes : ∀ x ∈ labels.zip t, x.1.2.isQuotation = true → x.2 = x.1.1) : Recased s t := by
  refine ⟨h, fun labels' hs' i c role hx hquoted => ?_⟩
  cases hs.symm.trans hs'
  obtain ⟨htext, _⟩ := label_eq_some_iff.mp hs
  have hlength : labels.length = t.length := by
    rw [← Text.length_upper t, h, Text.length_upper, ← htext, List.length_map]
  have hi : i < t.length := hlength ▸ (List.getElem?_eq_some_iff.mp hx).1
  have hpair : (labels.zip t)[i]? = some ((c, role), t[i]) :=
    List.getElem?_zip_eq_some.mpr ⟨hx, List.getElem?_eq_getElem hi⟩
  exact (List.getElem?_eq_getElem hi).trans (congrArg some (hquotes _ (List.mem_of_getElem? hpair) hquoted))

/-- A labelled character in upper case, unless it is quoted. -/
def unlessQuoted (x : Char × Role) : Char × Role := if x.2.isQuotation then x else inUpper x

/-- The quoted tokens are made of the quoted characters. -/
theorem quotation_unlessQuoted (labels : List (Char × Role)) :
    quotation (labels.map unlessQuoted) = quotation labels := by
  rw [quotation, List.foldl_map, quotation]
  congr 1
  funext q x
  obtain ⟨c, role⟩ := x
  cases role <;> rfl

/-- Such texts have the same quoted tokens. -/
theorem Recased.quotation_eq {s t : Text} (h : Recased s t) {labels labels' : List (Char × Role)}
    (hs : label .outside s = some labels) (ht : label .outside t = some labels') :
    quotation labels' = quotation labels := by
  obtain ⟨labels₁, ht₁, hinUpper⟩ := exists_label_recased h.letters hs
  cases ht.symm.trans ht₁
  obtain ⟨rfl, _⟩ := label_eq_some_iff.mp ht
  rw [← quotation_unlessQuoted labels', ← quotation_unlessQuoted labels]
  congr 1
  refine List.ext_getElem? fun i => ?_
  have hi : (labels'.map inUpper)[i]? = (labels.map inUpper)[i]? := by rw [hinUpper]
  rw [List.getElem?_map, List.getElem?_map] at hi ⊢
  cases hx : labels[i]? with
  | none =>
    rw [hx] at hi
    rw [Option.map_eq_none_iff.mp hi]
  | some x =>
    rw [hx] at hi
    obtain ⟨y, hy, hyx⟩ := Option.map_eq_some_iff.mp hi
    obtain ⟨hchar, hrole⟩ := Prod.mk.inj hyx
    rw [hy]
    refine congrArg some ?_
    unfold unlessQuoted
    rw [hrole]
    split
    · rename_i hquoted
      have hsame := h.quotes labels hs i x.1 x.2 hx hquoted
      rw [List.getElem?_map, hy] at hsame
      exact Prod.ext (Option.some.inj hsame) hrole
    · exact hyx

/-! ## Without comments -/

theorem bare_inUpper (labels : List (Char × Role)) :
    bare (labels.map inUpper) = Text.upper (bare labels) := by
  rw [bare, List.filterMap_map, bare, Text.upper, List.map_filterMap]
  refine List.filterMap_congr fun x _ => ?_
  obtain ⟨c, role⟩ := x
  cases role <;> rfl

theorem dropTerminator_upper (s : Text) : dropTerminator (Text.upper s) = Text.upper (dropTerminator s) := by
  have hlast : ((Text.upper s).getLast? == some ';') = (s.getLast? == some ';') := by
    rw [Text.getLast?_upper]
    cases s.getLast? with
    | none => rfl
    | some c => exact beq_toUpper rfl c
  rw [dropTerminator, hlast, dropTerminator]
  split
  · exact List.map_dropLast.symm
  · rfl

theorem tidy_upper (s : Text) : tidy (Text.upper s) = Text.upper (tidy s) := by
  rw [tidy, Text.trim_upper, dropTerminator_upper, Text.trimEnd_upper, tidy]

/-- Two texts have the same quoted tokens, of those that are closed. -/
def SameTokens (s t : Text) : Prop := ∀ labels labels', label .outside s = some labels →
  label .outside t = some labels' → (quotation labels').closed = (quotation labels).closed

/-- A text keeps its closed tokens when its comments are taken out. -/
theorem closed_of_tidy {s : Text} {labels kept : List (Char × Role)} (hs : label .outside s = some labels)
    (hkept : label .outside (tidy (bare labels)) = some kept) :
    (quotation kept).closed = (quotation labels).closed := by
  obtain ⟨_, hreads⟩ := label_eq_some_iff.mp hs
  obtain ⟨kept', _, hkept', _, _, hquotation⟩ := exists_label_tidy hreads
  cases hkept.symm.trans hkept'
  rw [hquotation]

/-- **Such texts are such texts without their comments**, or neither has a comment that is closed. -/
theorem Recased.strip {s t : Text} (h : Recased s t) :
    Sql.strip s = none ∧ Sql.strip t = none ∨
      ∃ s' t', Sql.strip s = some s' ∧ Sql.strip t = some t' ∧
        Text.upper t' = Text.upper s' ∧ SameTokens s' t' := by
  cases hs : label .outside s with
  | none =>
    refine .inl ⟨by rw [Sql.strip, hs, Option.map_none], ?_⟩
    cases ht : label .outside t with
    | none => rw [Sql.strip, ht, Option.map_none]
    | some labels' =>
      obtain ⟨_, hs', _⟩ := exists_label_recased h.letters.symm ht
      cases hs.symm.trans hs'
  | some labels =>
    obtain ⟨labels', ht, hinUpper⟩ := exists_label_recased h.letters hs
    have hstrip : Sql.strip s = some (tidy (bare labels)) := by rw [Sql.strip, hs, Option.map_some]
    have hstrip' : Sql.strip t = some (tidy (bare labels')) := by rw [Sql.strip, ht, Option.map_some]
    refine .inr ⟨_, _, hstrip, hstrip', ?_, fun kept kept' hkept hkept' => ?_⟩
    · rw [← tidy_upper, ← bare_inUpper, hinUpper, bare_inUpper, tidy_upper]
    · rw [closed_of_tidy hs hkept, closed_of_tidy ht hkept', h.quotation_eq hs ht]

/-! ## Keywords -/

theorem isAlpha_toUpper (c : Char) : c.toUpper.isAlpha = c.isAlpha := Char.isAlpha_toUpper_eq_isAlpha c

theorem afterHint_upper (s : Text) : afterHint (Text.upper s) = Text.upper (afterHint s) := by
  have hclose : ∀ rest : Text, ((Text.upper rest).dropWhile (· != '\x7d')).drop 1
      = Text.upper ((rest.dropWhile (· != '\x7d')).drop 1) := by
    intro rest
    rw [Catalog.dropWhile_upper (fun c => congrArg (!·) (beq_toUpper rfl c)), Text.drop_upper]
  -- a hint is told by its two marks, which are no letters
  have hother : ∀ s : Text, (∀ rest, s ≠ '@' :: '\x7b' :: rest) → afterHint s = s := by
    intro s hs
    unfold afterHint
    split
    · exact absurd rfl (hs _)
    · rfl
  by_cases hhint : ∃ rest, s = '@' :: '\x7b' :: rest
  · obtain ⟨rest, rfl⟩ := hhint
    exact hclose rest
  · rw [hother s fun rest h => hhint ⟨rest, h⟩, hother _ fun rest h => hhint ?_]
    obtain ⟨a, s, rfl, ha, hs⟩ := List.map_eq_cons_iff.mp h
    obtain ⟨b, s, rfl, hb, _⟩ := List.map_eq_cons_iff.mp hs
    obtain rfl := eq_of_toUpper (d := '@') rfl ha
    obtain rfl := eq_of_toUpper (d := '\x7b') rfl hb
    exact ⟨s, rfl⟩

theorem isOpening_toUpper (c : Char) : isOpening c.toUpper = isOpening c := by
  rw [isOpening, isBlank_toUpper, beq_toUpper rfl, isOpening]

theorem leadingKeyword_upper (s : Text) : leadingKeyword (Text.upper s) = Text.upper (leadingKeyword s) := by
  rw [leadingKeyword, Text.trimStart_upper, afterHint_upper, Catalog.dropWhile_upper isOpening_toUpper,
    Text.takeWhile_upper isAlpha_toUpper, leadingKeyword]

/-- The category of a statement does not depend on letter case. -/
theorem categoryOf_congr {s t : Text} (h : Text.upper t = Text.upper s) : categoryOf t = categoryOf s := by
  have hkeyword : Text.upper (leadingKeyword t) = Text.upper (leadingKeyword s) := by
    rw [← leadingKeyword_upper, h, leadingKeyword_upper]
  rw [categoryOf, hkeyword, categoryOf]

/-! ## The value of the timeout -/

/-- The characters that a scan may stop at outside of quotes, and the backslash, which it heeds in quotes. -/
def isMark (c : Char) : Bool :=
  isQuoteMark c || c == '\\' || c == '#' || c == ';' || c == '-' || c == '/'

theorem isMark_toUpper (c : Char) : isMark c.toUpper = isMark c := by
  simp only [isMark, isQuoteMark_toUpper, beq_toUpper (d := '\\') rfl, beq_toUpper (d := '#') rfl,
    beq_toUpper (d := ';') rfl, beq_toUpper (d := '-') rfl, beq_toUpper (d := '/') rfl]

/-- There are no marks in the text. -/
def Plain (s : Text) : Prop := ∀ c ∈ s, isMark c = false

instance (s : Text) : Decidable (Plain s) := List.decidableBAll (fun c => isMark c = false) s

theorem plain_append {s t : Text} (hs : Plain s) (ht : Plain t) : Plain (s ++ t) :=
  List.forall_mem_append.mpr ⟨hs, ht⟩

theorem plain_of_upper {s v : Text} (h : Text.upper s = v) (hv : Plain v) : Plain s := by
  intro c hc
  rw [← isMark_toUpper]
  exact hv _ (h ▸ List.mem_map_of_mem hc)

theorem plain_upper {s : Text} (hs : Plain s) : Plain (Text.upper s) := by
  intro c hc
  obtain ⟨d, hd, rfl⟩ := List.mem_map.mp hc
  rw [isMark_toUpper]
  exact hs d hd

/-- A condition that no mark meets is met by characters that are no marks. -/
theorem not_isMark {p : Char → Bool} (hp : "\\#;-/'\x22\x60".toList.all (fun c => !p c) = true) (c : Char)
    (hc : p c = true) : isMark c = false := by
  refine Bool.eq_false_iff.mpr fun hmark => ?_
  simp only [isMark, isQuoteMark, Bool.or_eq_true, beq_iff_eq] at hmark
  simp only [List.all_eq_true] at hp
  have hmem : c ∈ "\\#;-/'\x22\x60".toList := by
    rcases hmark with (((((((rfl | rfl) | rfl) | rfl) | rfl) | rfl) | rfl) | rfl) <;> decide
  have hnot := hp c hmem
  rw [hc] at hnot
  cases hnot

theorem plain_of_allBlank {s : Text} (h : s.AllBlank) : Plain s := fun c hc => not_isMark rfl c (h c hc)

/-- Outside of quotes such a text is part of the statement, -/
theorem Passes.plain {s : Text} (h : Plain s) (rest : Text) :
    Passes .outside rest .outside (s.map (·, .code)) := by
  induction s with
  | nil => exact .stay
  | cons c s ih =>
    obtain ⟨hc, hs⟩ := List.forall_mem_cons.mp h
    simp only [isMark, Bool.or_eq_false_iff, beq_eq_false_iff_ne] at hc
    obtain ⟨⟨⟨⟨⟨hquote, _⟩, hhash⟩, hsep⟩, hline⟩, hblock⟩ := hc
    exact .step (.code hquote hhash hsep (fun h => absurd h hline) fun h => absurd h hblock) (ih hs)

/-- and inside part of the token. -/
theorem Passes.plain_quoted {s : Text} (h : Plain s) {mark : Char} (hmark : isQuoteMark mark = true)
    (rest : Text) : Passes (.inQuote mark) rest (.inQuote mark) (s.map (·, .quoted)) := by
  induction s with
  | nil => exact .stay
  | cons c s ih =>
    obtain ⟨hc, hs⟩ := List.forall_mem_cons.mp h
    simp only [isMark, Bool.or_eq_false_iff, beq_eq_false_iff_ne] at hc
    obtain ⟨⟨⟨⟨⟨hquote, hslash⟩, _⟩, _⟩, _⟩, _⟩ := hc
    refine .step (.quoted ?_ fun h => absurd h hslash) (ih hs)
    rintro rfl
    cases hmark.symm.trans hquote

theorem foldl_add_code (s : Text) (q : Quotation) : (s.map (·, .code)).foldl Quotation.add q = q := by
  induction s with
  | nil => rfl
  | cons c s ih => exact ih

theorem foldl_add_quoted (s : Text) (closed : List Text) (token : Text) :
    (s.map (·, .quoted)).foldl Quotation.add ⟨closed, some token⟩ = ⟨closed, some (token ++ s)⟩ := by
  induction s generalizing token with
  | nil => rw [List.append_nil]; rfl
  | cons c s ih => rw [List.append_cons]; exact ih _

/-- A text that ends in a token between single quotes. -/
def endsIn (before inner : Text) : Text := before ++ '\x27' :: (inner ++ ['\x27'])

/-- It has this token, and no other. -/
theorem exists_label_endsIn {before inner : Text} (hbefore : Plain before) (hinner : Plain inner) :
    ∃ labels, label .outside (endsIn before inner) = some labels ∧
      (quotation labels).closed = ['\x27' :: (inner ++ ['\x27'])] := by
  have hclose : Passes .outside [] (.inQuote '\x27') [('\x27', .quote)] :=
    .single (.closeQuote fun h => absurd h (by decide))
  have htoken := (Passes.plain_quoted hinner rfl _).trans hclose
  have hopen := (Passes.single (.openQuote rfl)).trans htoken
  have hall := (Passes.plain hbefore _).trans hopen
  refine ⟨_, label_eq_some_iff.mpr ⟨?_, exists_passes_iff.mpr ⟨.outside, nofun, hall⟩⟩, ?_⟩
  · simp only [List.map_append, map_fst_role]
    rfl
  · rw [quotation, List.foldl_append, foldl_add_code, List.foldl_append, List.foldl_append]
    have hfirst : [('\x27', Role.quote)].foldl Quotation.add ⟨[], none⟩ = ⟨[], some ['\x27']⟩ := rfl
    rw [hfirst, foldl_add_quoted]
    rfl

namespace Timeout

/-- A literal without marks that two texts end in, in the same place, is the same in both. -/
def SameLiteral (s t : Text) : Prop :=
  ∀ before inner before' inner' : Text, Plain before → Plain inner →
    Text.upper before' = Text.upper before → Text.upper inner' = Text.upper inner →
    s = endsIn before inner → t = endsIn before' inner' → inner' = inner

theorem sameLiteral_of_sameTokens {s t : Text} (h : SameTokens s t) : SameLiteral s t := by
  intro before inner before' inner' hbefore hinner hbefore' hinner' hs ht
  obtain ⟨labels, hlabels, hclosed⟩ := exists_label_endsIn hbefore hinner
  obtain ⟨labels', hlabels', hclosed'⟩ := exists_label_endsIn
    (plain_of_upper hbefore' (plain_upper hbefore)) (plain_of_upper hinner' (plain_upper hinner))
  have hsame := h labels labels' (hs ▸ hlabels) (ht ▸ hlabels')
  rw [hclosed, hclosed'] at hsame
  simpa using hsame

/-- It is the same behind something that has no marks. -/
theorem SameLiteral.behind {p p' s t : Text} (h : SameLiteral (p ++ s) (p' ++ t)) (hp : Plain p)
    (hp' : Text.upper p' = Text.upper p) : SameLiteral s t := by
  intro before inner before' inner' hbefore hinner hbefore' hinner' hs ht
  refine h (p ++ before) inner (p' ++ before') inner' (plain_append hp hbefore) hinner ?_ hinner' ?_ ?_
  · rw [Text.upper_append, Text.upper_append, hp', hbefore']
  · rw [hs, endsIn, endsIn, List.append_assoc]
  · rw [ht, endsIn, endsIn, List.append_assoc]

theorem afterSign_upper (s : Text) : afterSign (Text.upper s) = (afterSign s).map Text.upper := by
  have hsome : ∀ {s rest : Text}, afterSign s = some rest →
      afterSign (Text.upper s) = some (Text.upper rest) := by
    intro s rest h
    obtain ⟨sign, hsign, rfl⟩ := afterSign_eq_some_iff.mp h
    refine afterSign_eq_some_iff.mpr ⟨Text.upper sign, ?_, Text.upper_append _ _⟩
    rcases hsign with rfl | hto
    · exact .inl rfl
    · exact .inr ((Text.upper_upper sign).trans hto)
  cases h : afterSign s with
  | some rest => exact hsome h
  | none =>
    refine Option.eq_none_iff_forall_not_mem.mpr fun rest hrest => ?_
    obtain ⟨sign, hsign, hs⟩ := afterSign_eq_some_iff.mp hrest
    obtain ⟨sign', rest', rfl, hsign', _⟩ := List.map_eq_append_iff.mp hs
    have hfound : afterSign (sign' ++ rest') = some rest' := by
      refine afterSign_eq_some_iff.mpr ⟨sign', ?_, rfl⟩
      rcases hsign with rfl | hto
      · obtain ⟨c, rfl, hc⟩ := List.map_eq_singleton_iff.mp hsign'
        exact .inl (congrArg (· :: []) (eq_of_toUpper (d := '=') rfl hc))
      · refine .inr ?_
        rw [← hto, ← hsign']
        exact (Text.upper_upper sign').symm
    cases h.symm.trans hfound

theorem unquoted_upper (s : Text) : unquoted (Text.upper s) = (unquoted s).map Text.upper := by
  have hquote : Text.upper ['\x27'] = ['\x27'] := rfl
  cases h : unquoted s with
  | some inner =>
    obtain rfl := unquoted_eq_some_iff.mp h
    refine unquoted_eq_some_iff.mpr ?_
    show '\x27' :: Text.upper (inner ++ ['\x27']) = _
    rw [Text.upper_append, hquote]
  | none =>
    refine Option.eq_none_iff_forall_not_mem.mpr fun inner hinner => ?_
    obtain ⟨a, behind, rfl, ha, hbehind⟩ := List.map_eq_cons_iff.mp (unquoted_eq_some_iff.mp hinner)
    obtain ⟨inner', last, rfl, _, hlast⟩ := List.map_eq_append_iff.mp hbehind
    obtain ⟨b, rfl, hb⟩ := List.map_eq_singleton_iff.mp hlast
    obtain rfl := eq_of_toUpper (d := '\x27') rfl ha
    obtain rfl := eq_of_toUpper (d := '\x27') rfl hb
    cases h.symm.trans (unquoted_eq_some_iff.mpr rfl)

/-- There are no marks in an amount. -/
theorem plain_of_amount {inner : Text} {ms : Nat} (h : amount (Text.trim inner) = some ms) : Plain inner := by
  obtain ⟨n, hword, hunit⟩ := amount_eq_some_iff.mp h
  obtain ⟨_, hdigits, _⟩ := word?_eq_some_iff.mp hword
  have hdigits' : Plain ((Text.trim inner).takeWhile Char.isDigit) := fun c hc =>
    not_isMark rfl c (hdigits c hc)
  have hunit' : Plain (Text.trim ((Text.trim inner).dropWhile Char.isDigit)) := by
    generalize Text.trim ((Text.trim inner).dropWhile Char.isDigit) = unit at hunit
    cases inUnit_eq_some_iff.mp hunit <;> decide
  have htrim : ∀ {s : Text}, Plain (Text.trim s) → Plain s := by
    intro s hs
    obtain ⟨lead, tail, hends, hlead, htail⟩ := Text.exists_eq_append_trim_append s
    rw [hends]
    exact plain_append (plain_of_allBlank hlead) (plain_append hs (plain_of_allBlank htail))
  refine htrim ?_
  rw [← List.takeWhile_append_dropWhile (p := Char.isDigit) (l := Text.trim inner)]
  exact plain_append hdigits' (htrim hunit')

/-- What is behind the sign of a text that has no blanks at its end. -/
theorem exists_literal {s rest : Text} (hend : Text.trimEnd s = s)
    (h : afterSign (Text.trimStart s) = some rest) : ∃ lead, s = lead ++ Text.trim rest ∧ Plain lead := by
  obtain ⟨sign, hsign, hstart⟩ := afterSign_eq_some_iff.mp h
  have hs : s = (s.takeWhile isBlank ++ (sign ++ rest.takeWhile isBlank)) ++ Text.trimStart rest := by
    simp only [List.append_assoc]
    rw [Text.trimStart, List.takeWhile_append_dropWhile, ← hstart, Text.trimStart,
      List.takeWhile_append_dropWhile]
  have hsuffix : Text.trimStart rest <:+ s := ⟨_, hs.symm⟩
  have htrim : Text.trim rest = Text.trimStart rest := Text.trimEnd_of_suffix (hend.symm ▸ hsuffix)
  have hplain : Plain sign := by
    rcases hsign with rfl | hto
    · decide
    · exact plain_of_upper hto (by decide)
  rw [htrim]
  exact ⟨_, hs, plain_append (plain_of_allBlank fun c hc => List.mem_takeWhile_imp hc)
    (plain_append hplain (plain_of_allBlank fun c hc => List.mem_takeWhile_imp hc))⟩

theorem literal_recased {s t : Text} (hupper : Text.upper t = Text.upper s) (h : SameLiteral s t)
    (h' : SameLiteral t s) : literal t = literal s := by
  have hnull : Text.sameLetters t "NULL".toList = Text.sameLetters s "NULL".toList := by
    rw [Text.sameLetters, hupper, Text.sameLetters]
  have hunquoted : (unquoted t).map Text.upper = (unquoted s).map Text.upper := by
    rw [← unquoted_upper, hupper, unquoted_upper]
  have hamount : ∀ inner inner', unquoted s = some inner → unquoted t = some inner' →
      amount (Text.trim inner') = amount (Text.trim inner) := by
    intro inner inner' hs ht
    rw [hs, ht] at hunquoted
    have hinner : Text.upper inner' = Text.upper inner := Option.some.inj hunquoted
    have hends := unquoted_eq_some_iff.mp hs
    have hends' := unquoted_eq_some_iff.mp ht
    cases ha : amount (Text.trim inner) with
    | some ms =>
      rw [h [] inner [] inner' (by decide) (plain_of_amount ha) rfl hinner hends hends', ha]
    | none =>
      cases ha' : amount (Text.trim inner') with
      | none => rfl
      | some ms =>
        rw [h' [] inner' [] inner (by decide) (plain_of_amount ha') rfl hinner.symm hends' hends, ha'] at ha
        cases ha
  rw [literal, literal, hnull]
  split
  · rfl
  · cases hs : unquoted s with
    | none =>
      rw [hs, Option.map_none, Option.map_eq_none_iff] at hunquoted
      rw [hunquoted]
    | some inner =>
      rw [hs] at hunquoted
      obtain ⟨inner', ht, _⟩ := Option.map_eq_some_iff.mp hunquoted
      rw [ht, Option.bind_some, Option.bind_some, hamount inner inner' hs ht]

/-- **The value of two texts is the same** if a literal at their end is. -/
theorem value_recased {s t : Text} (hupper : Text.upper t = Text.upper s) (hs : Text.trimEnd s = s)
    (ht : Text.trimEnd t = t) (h : SameLiteral s t) (h' : SameLiteral t s) : value t = value s := by
  have hsign : (afterSign (Text.trimStart t)).map Text.upper
      = (afterSign (Text.trimStart s)).map Text.upper := by
    rw [← afterSign_upper, ← afterSign_upper, ← Text.trimStart_upper, ← Text.trimStart_upper, hupper]
  rw [value_eq, value_eq]
  cases hsome : afterSign (Text.trimStart s) with
  | none =>
    rw [hsome, Option.map_none, Option.map_eq_none_iff] at hsign
    rw [hsign]
  | some rest =>
    rw [hsome] at hsign
    obtain ⟨rest', hsome', hrest⟩ := Option.map_eq_some_iff.mp hsign
    rw [hsome']
    obtain ⟨lead, htext, hlead⟩ := exists_literal hs hsome
    obtain ⟨lead', htext', _⟩ := exists_literal ht hsome'
    have hliteral : Text.upper (Text.trim rest') = Text.upper (Text.trim rest) := by
      rw [← Text.trim_upper, hrest, Text.trim_upper]
    have hlead' : Text.upper lead' = Text.upper lead := by
      rw [htext, htext', Text.upper_append, Text.upper_append, hliteral] at hupper
      exact List.append_cancel_right hupper
    rw [htext, htext'] at h h'
    exact literal_recased hliteral (h.behind hlead hlead')
      (h'.behind (plain_of_upper hlead' (plain_upper hlead)) hlead'.symm)

/-- A text in other letter case begins as such a statement too. -/
theorem Begins.recased {s t rest : Text} (h : Begins s rest) (hupper : Text.upper t = Text.upper s) :
    ∃ before before' rest', s = before ++ rest ∧ t = before' ++ rest' ∧ Plain before ∧
      Text.upper before' = Text.upper before ∧ Text.upper rest' = Text.upper rest ∧ Begins t rest' := by
  obtain ⟨hset, hne, hb, hname⟩ := h
  rename_i set b name
  obtain ⟨set', behind, rfl, hset', hbehind⟩ := Text.exists_append_of_upper hupper
  obtain ⟨b', behind, rfl, hb', hbehind⟩ := Text.exists_append_of_upper hbehind
  obtain ⟨name', rest', rfl, hname', hrest⟩ := Text.exists_append_of_upper hbehind
  refine ⟨set ++ (b ++ name), set' ++ (b' ++ name'), rest', by simp, by simp, ?_, ?_, hrest, ?_⟩
  · exact plain_append (plain_of_upper hset (by decide))
      (plain_append (plain_of_allBlank hb) (plain_of_upper hname (by decide)))
  · simp only [Text.upper_append, hset', hb', hname']
  · refine .mk (hset'.trans hset) ?_ (Text.allBlank_of_upper hb' hb) (hname'.trans hname)
    rintro rfl
    exact hne (List.map_eq_nil_iff.mp hb'.symm)

/-- **The same timeout is read**, or none for the same fault. -/
theorem read_recased {s t : Text} (hupper : Text.upper t = Text.upper s)
    (hs : Text.trimStart s = s ∧ Text.trimEnd s = s) (ht : Text.trimStart t = t ∧ Text.trimEnd t = t)
    (h : SameLiteral s t) (h' : SameLiteral t s) (hwords : BeginsWithWords s) : read t = read s := by
  obtain ⟨rest, hbegins⟩ := (beginsWithWords_iff hs.1).mp hwords
  obtain ⟨before, before', rest', hsplit, hsplit', hplain, hbefore, hrest, hbegins'⟩ :=
    hbegins.recased hupper
  have hend := Text.trimEnd_of_suffix (hs.2.symm ▸ hbegins.suffix)
  have hend' := Text.trimEnd_of_suffix (ht.2.symm ▸ hbegins'.suffix)
  rw [hbegins.read_eq, hbegins'.read_eq]
  rw [hsplit, hsplit'] at h h'
  exact value_recased hrest hend hend' (h.behind hplain hbefore)
    (h'.behind (plain_of_upper hbefore (plain_upper hplain)) hbefore.symm)

end Timeout

/-! ## The statement -/

open Timeout

/-- What is wrong with a text, without the text. -/
def Fault.kind : Fault → Option Timeout.Fault
  | .openComment => none
  | .timeout fault _ => some fault

/-- The same command is recognised, or refused for the same fault. -/
theorem commandOf_recased {s t : Text} (hupper : Text.upper t = Text.upper s)
    (hs : Text.trimStart s = s ∧ Text.trimEnd s = s) (ht : Text.trimStart t = t ∧ Text.trimEnd t = t)
    (h : SameLiteral s t) (h' : SameLiteral t s) :
    (commandOf t).mapError Fault.kind = (commandOf s).mapError Fault.kind := by
  have hwords : (Text.words t).map Text.upper = (Text.words s).map Text.upper := by
    rw [← Text.words_upper, hupper, Text.words_upper]
  by_cases hsetting : BeginsWithWords s
  · have hsetting' : BeginsWithWords t := isSetting_iff.mp (by rw [hwords]; exact isSetting_iff.mpr hsetting)
    rw [commandOf_of_beginsWithWords hsetting, commandOf_of_beginsWithWords hsetting',
      read_recased hupper hs ht h h' hsetting]
    cases Timeout.read s <;> rfl
  · have hnot : ¬ isSetting ((Text.words s).map Text.upper) = true := mt isSetting_iff.mp hsetting
    unfold commandOf
    dsimp only
    rw [hwords, if_neg hnot, if_neg hnot]

/-- **What is read of two texts is the same**, or both are refused with the same error. -/
inductive SameReading : Except SessionError Statement → Except SessionError Statement → Prop where
  | refused {message message' : String} :
      SameReading (.error (.invalidArgument message)) (.error (.invalidArgument message'))
  /-- What the statement is for is the same, the command and its timeout included. -/
  | read {a b : Statement} (hcategory : b.category = a.category)
      (htext : Text.upper b.text = Text.upper a.text) : SameReading (.ok a) (.ok b)

/-- **Letter case outside of quotes does not matter.** -/
theorem readStatement_recased {s t : Text} (h : Recased s t) :
    SameReading (readStatement s) (readStatement t) := by
  rcases h.strip with ⟨hs, ht⟩ | ⟨s', t', hs, ht, hupper, hsame⟩
  · rw [readStatement_of_open hs, readStatement_of_open ht]
    exact .refused
  · have hsame' : SameTokens t' s' := fun labels labels' hlabels hlabels' =>
      (hsame _ _ hlabels' hlabels).symm
    have hcommand := commandOf_recased hupper (strip_trimmed hs) (strip_trimmed ht)
      (sameLiteral_of_sameTokens hsame) (sameLiteral_of_sameTokens hsame')
    rw [readStatement_of_strip hs, readStatement_of_strip ht, Statement.ofStripped, Statement.ofStripped]
    cases hcs : commandOf s' with
    | error fault =>
      cases hct : commandOf t' with
      | error fault' => exact .refused
      | ok command? => rw [hcs, hct] at hcommand; cases hcommand
    | ok command? =>
      cases hct : commandOf t' with
      | error fault' => rw [hcs, hct] at hcommand; cases hcommand
      | ok command?' =>
        rw [hcs, hct] at hcommand
        cases hcommand
        cases command? with
        | some command => exact .read rfl hupper
        | none => exact .read (categoryOf_congr hupper) hupper

/-- Words in other letter case set the same timeout, also behind a comment in other letter case. -/
theorem readStatement_recased_timeout :
    let s : Text := "/* Half */ Set Statement_Timeout to ' 30 s' ;".toList
    let t : Text := "/* hALF */ SET STATEMENT_TIMEOUT TO ' 30 s' ;".toList
    Recased s t ∧ SameReading (readStatement s) (readStatement t) ∧
      (readStatement t).map Statement.category = .ok (.command (.setTimeout (some 30000))) := by
  intro s t
  have h : Recased s t := .of_label (by decide) rfl (by decide)
  exact ⟨h, readStatement_recased h, rfl⟩

-- in quotes it matters: there is no such unit
example : (readStatement "SET STATEMENT_TIMEOUT TO ' 30 S'".toList).toOption = none := by decide

end Sql
end SchemaBatch
