import SchemaBatch.Options
import SchemaBatch.Proofs.JsonTexts

/-!
# `Proofs.OptionsJson` — options survive their JSON form

The JSON form of options is an object. A text that describes the same options may be written differently: its
members stand in any order, among others that are none of the fields, and a field that has its default may be
left out. What is read from each of these texts is the options, and nothing is read that a session refuses.

* `Valid` — the options that a session accepts, and `valid_iff`, which says that `check` is what tells them.
* `Describes` — **the objects that describe options**, up to order, others and defaults.
* `Describes.found` — a field is found with its value, or it is not found and has its default.
* `ofText_of_describes`, `valid_of_ofText` — **what describes valid options is read as them**, and **what is
  read is valid**.
* `JsonFaithful`, `ofText_faithful` — of all options and all texts.
-/

namespace SchemaBatch
namespace Options

/-! ## Options that a session accepts -/

/-- The spans of time have 64 bits. -/
def InRange (o : Options) : Prop := (∀ ms, o.timeout = some ms → ms ≤ Text.maxWord) ∧ o.grace ≤ Text.maxWord

/-- The database has a name, a timeout is some time, and the spans of time have 64 bits. -/
structure Valid (o : Options) : Prop where
  database : ∃ c ∈ o.database, isBlank c = false
  timeout : ∀ ms, o.timeout = some ms → 1 ≤ ms ∧ ms ≤ Text.maxWord
  grace : o.grace ≤ Text.maxWord

theorem trim_isEmpty_iff (s : Text) : (Text.trim s).isEmpty = true ↔ ∀ c ∈ s, isBlank c = true := by
  rw [List.isEmpty_iff, Text.trim, Text.trimEnd, List.reverse_eq_nil_iff, List.dropWhile_eq_nil_iff]
  simp only [List.mem_reverse]
  constructor
  · intro h c hc
    rw [← List.takeWhile_append_dropWhile (p := isBlank) (l := s), List.mem_append] at hc
    obtain hc | hc := hc
    · exact List.mem_takeWhile_imp hc
    · exact h c hc
  · exact fun h c hc => h c ((List.dropWhile_sublist isBlank).mem hc)

theorem check_eq_ok_iff (o : Options) :
    o.check = .ok () ↔ (∃ c ∈ o.database, isBlank c = false) ∧ o.timeout ≠ some 0 := by
  have hnamed : (Text.trim o.database).isEmpty = true ↔ ¬∃ c ∈ o.database, isBlank c = false := by
    rw [trim_isEmpty_iff]
    simp
  unfold check
  split_ifs with hempty hzero
  · simp [hnamed.mp hempty]
  · simp [hzero]
  · simpa [hzero] using Classical.not_not.mp fun h => hempty (hnamed.mpr h)

/-- Among the options whose spans of time have 64 bits, the valid ones are those that a session accepts. -/
theorem valid_iff (o : Options) : o.Valid ↔ o.check = .ok () ∧ o.InRange := by
  rw [check_eq_ok_iff]
  constructor
  · rintro ⟨hdatabase, htimeout, hgrace⟩
    refine ⟨⟨hdatabase, fun hzero => ?_⟩, fun ms h => (htimeout ms h).2, hgrace⟩
    exact absurd (htimeout 0 hzero).1 (by decide)
  · rintro ⟨⟨hdatabase, hzero⟩, htimeout, hgrace⟩
    refine ⟨hdatabase, fun ms h => ⟨?_, htimeout ms h⟩, hgrace⟩
    exact Nat.one_le_iff_ne_zero.mpr fun hms => hzero (hms ▸ h)

/-! ## Objects that describe options -/

/-- The members of the JSON form. -/
def members (o : Options) : List (Option Text × Json) :=
  [(some "database".toList, .text o.database),
    (some "statement_timeout_ms".toList, (o.timeout.map Json.nat).getD .null),
    (some "cancel_grace_period_ms".toList, .nat o.grace)]

theorem toJson_eq (o : Options) : o.toJson = .object o.members := rfl

theorem mem_members_iff {o : Options} {m : Option Text × Json} : m ∈ o.members ↔
    m = (some "database".toList, .text o.database) ∨
      m = (some "statement_timeout_ms".toList, (o.timeout.map Json.nat).getD .null) ∨
        m = (some "cancel_grace_period_ms".toList, .nat o.grace) := by
  simp only [members, List.mem_cons, List.not_mem_nil, or_false]

/-- Whether the key of a member is the name of a field. -/
def IsField (key : Text) : Prop :=
  key = "database".toList ∨ key = "statement_timeout_ms".toList ∨ key = "cancel_grace_period_ms".toList

/-- The object with these members describes the options: it has the members of their JSON form in some order,
those of fields with their defaults perhaps left out, and other members among them. -/
inductive Describes (o : Options) (all : List (Option Text × Json)) : Prop where
  | mk {kept others : List (Option Text × Json)} (hall : all.Perm (kept ++ others))
      (hkept : kept.Sublist o.members) (hleft : ∀ m ∈ o.members, m ∉ kept → m ∈ standard.members)
      (hothers : ∀ m ∈ others, ∃ key, m.1 = some key ∧ ¬IsField key) : Describes o all

theorem describes_members (o : Options) : Describes o o.members :=
  ⟨(List.append_nil o.members).symm ▸ List.Perm.refl _, List.Sublist.refl _, fun _ hm hn => absurd hm hn,
    fun _ hm => absurd hm List.not_mem_nil⟩

/-! ## Fields -/

theorem fields?_cons (key : Text) (value : Json) (all : List (Option Text × Json)) :
    Json.fields? ((some key, value) :: all) = (Json.fields? all).map ((key, value) :: ·) := by
  unfold Json.fields?
  rw [List.mapM_cons]
  cases List.mapM (fun m : Option Text × Json => m.1.map fun key => (key, m.2)) all <;> rfl

/-- The fields are there if all keys are texts, and a key has the values of its members. -/
theorem exists_fields? {all : List (Option Text × Json)} (h : ∀ m ∈ all, ∃ key, m.1 = some key) :
    ∃ fields, Json.fields? all = some fields ∧
      ∀ name, Json.valuesOf name fields = (all.filter fun m => m.1 == some name.toList).map Prod.snd := by
  induction all with
  | nil => exact ⟨[], rfl, fun _ => rfl⟩
  | cons m all ih =>
    obtain ⟨hm, hall⟩ := List.forall_mem_cons.mp h
    obtain ⟨key, value⟩ := m
    obtain ⟨key, rfl⟩ := hm
    obtain ⟨fields, hfields, hvalues⟩ := ih hall
    refine ⟨(key, value) :: fields, by rw [fields?_cons, hfields]; rfl, fun name => ?_⟩
    have hrest := hvalues name
    unfold Json.valuesOf at hrest ⊢
    by_cases hkey : key = name.toList
    · simp [hkey, hrest]
    · simp [hkey, hrest]

/-- What is found of a field: its value, or nothing when this is its default. -/
def Found (name : String) (value : Json) : Option Json → Prop
  | some found => found = value
  | none => (some name.toList, value) ∈ standard.members

/-- No two fields have one name. -/
theorem filter_members {o : Options} {name : String} {value : Json} (h : (some name.toList, value) ∈ o.members) :
    (o.members.filter fun m => m.1 == some name.toList) = [(some name.toList, value)] := by
  simp only [mem_members_iff, Prod.mk.injEq, Option.some.injEq] at h
  obtain ⟨hname, rfl⟩ | ⟨hname, rfl⟩ | ⟨hname, rfl⟩ := h
  all_goals rw [hname]; rfl

theorem eq_of_mem_members {o : Options} {name : String} {value value' : Json}
    (h : (some name.toList, value) ∈ o.members) (h' : (some name.toList, value') ∈ o.members) : value = value' := by
  have hsame := (filter_members h).symm.trans (filter_members h')
  cases hsame
  rfl

theorem isField_of_mem {o : Options} {key : Text} {value : Json} (h : (some key, value) ∈ o.members) :
    IsField key := by
  simp only [mem_members_iff, Prod.mk.injEq, Option.some.injEq] at h
  exact h.imp And.left (Or.imp And.left And.left)

theorem Describes.keys {o : Options} {all : List (Option Text × Json)} (h : Describes o all) :
    ∀ m ∈ all, ∃ key, m.1 = some key := by
  obtain ⟨hall, hkept, -, hothers⟩ := h
  intro m hm
  obtain hm | hm := List.mem_append.mp (hall.mem_iff.mp hm)
  · obtain rfl | rfl | rfl := mem_members_iff.mp (hkept.mem hm)
    all_goals exact ⟨_, rfl⟩
  · obtain ⟨key, hkey, -⟩ := hothers m hm
    exact ⟨key, hkey⟩

/-- The values of a field are its value, or there is none and it has its default. -/
theorem Describes.filter_eq {o : Options} {all : List (Option Text × Json)} (h : Describes o all) {name : String}
    {value : Json} (hmem : (some name.toList, value) ∈ o.members) :
    (all.filter fun m => m.1 == some name.toList) = [(some name.toList, value)] ∨
      (all.filter fun m => m.1 == some name.toList) = [] ∧ (some name.toList, value) ∈ standard.members := by
  cases h with
  | @mk kept others hall hkept hleft hothers =>
    have hnone : (others.filter fun m => m.1 == some name.toList) = [] := by
      refine List.filter_eq_nil_iff.mpr fun m hm hkey => ?_
      obtain ⟨key, hsome, hfield⟩ := hothers m hm
      rw [hsome, beq_iff_eq, Option.some.injEq] at hkey
      exact hfield (hkey ▸ isField_of_mem hmem)
    -- order does not matter to a list of one member or none
    have hperm := hall.filter fun m => m.1 == some name.toList
    rw [List.filter_append, hnone, List.append_nil] at hperm
    have hsub := hkept.filter fun m => m.1 == some name.toList
    rw [filter_members hmem, List.sublist_singleton] at hsub
    obtain hsub | hsub := hsub
    · rw [hsub] at hperm
      refine .inr ⟨hperm.eq_nil, hleft _ hmem fun hin => ?_⟩
      exact List.filter_eq_nil_iff.mp hsub _ hin (beq_self_eq_true _)
    · rw [hsub] at hperm
      exact .inl (List.perm_singleton.mp hperm)

/-- Each field is found. -/
theorem Describes.found {o : Options} {all : List (Option Text × Json)} (h : Describes o all) :
    ∃ fields, Json.fields? all = some fields ∧ ∀ name value, (some name.toList, value) ∈ o.members →
      ∃ found, Json.atMostOnce? name fields = some found ∧ Found name value found := by
  obtain ⟨fields, hfields, hvalues⟩ := exists_fields? h.keys
  refine ⟨fields, hfields, fun name value hmem => ?_⟩
  obtain hone | ⟨hnone, hdefault⟩ := h.filter_eq hmem
  · exact ⟨some value, by rw [Json.atMostOnce?, hvalues, hone]; rfl, rfl⟩
  · exact ⟨none, by rw [Json.atMostOnce?, hvalues, hnone]; rfl, hdefault⟩

/-! ## What is made of the fields -/

/-- What is read of a field that was found with a value, and its default if it was not found. -/
def fieldOr {α : Type} (read : Json → Option α) (default : α) : Option Json → Option α
  | some value => read value
  | none => some default

theorem ofFields_eq (database timeout grace : Option Json) : ofFields database timeout grace =
    (fieldOr Json.asText? standard.database database).bind fun database =>
      (fieldOr (Json.asNullable? Json.asWord?) standard.timeout timeout).bind fun timeout =>
        (fieldOr Json.asWord? standard.grace grace).bind fun grace => some ⟨database, timeout, grace⟩ := by
  cases database <;> cases timeout <;> cases grace <;> rfl

theorem ofFields_eq_some_iff {database timeout grace : Option Json} {o : Options} :
    ofFields database timeout grace = some o ↔
      fieldOr Json.asText? standard.database database = some o.database ∧
        fieldOr (Json.asNullable? Json.asWord?) standard.timeout timeout = some o.timeout ∧
          fieldOr Json.asWord? standard.grace grace = some o.grace := by
  rw [ofFields_eq]
  simp only [Option.bind_eq_some_iff, Option.some.injEq]
  constructor
  · rintro ⟨_, hdatabase, _, htimeout, _, hgrace, rfl⟩
    exact ⟨hdatabase, htimeout, hgrace⟩
  · rintro ⟨hdatabase, htimeout, hgrace⟩
    exact ⟨_, hdatabase, _, htimeout, _, hgrace, rfl⟩

theorem database_of_found {o : Options} {found : Option Json} (h : Found "database" (.text o.database) found) :
    fieldOr Json.asText? standard.database found = some o.database := by
  cases found with
  | some found => cases h; rfl
  | none =>
    have hsame : Json.text o.database = Json.text standard.database :=
      eq_of_mem_members h (show _ ∈ standard.members from List.mem_cons_self)
    exact congrArg some (Option.some.inj (Json.string.inj hsame)).symm

theorem timeout_of_found {o : Options} (hrange : o.InRange) {found : Option Json}
    (h : Found "statement_timeout_ms" ((o.timeout.map Json.nat).getD .null) found) :
    fieldOr (Json.asNullable? Json.asWord?) standard.timeout found = some o.timeout := by
  cases found with
  | some found =>
    cases h
    cases htimeout : o.timeout with
    | none => rfl
    | some ms => exact congrArg (Option.map some) (Json.asWord?_nat (hrange.1 ms htimeout))
  | none =>
    have hsame : (o.timeout.map Json.nat).getD .null = .null :=
      eq_of_mem_members h (show _ ∈ standard.members from List.mem_cons_of_mem _ List.mem_cons_self)
    cases htimeout : o.timeout with
    | none => rfl
    | some ms => rw [htimeout] at hsame; cases hsame

theorem grace_of_found {o : Options} (hrange : o.InRange) {found : Option Json}
    (h : Found "cancel_grace_period_ms" (.nat o.grace) found) :
    fieldOr Json.asWord? standard.grace found = some o.grace := by
  cases found with
  | some found => cases h; exact Json.asWord?_nat hrange.2
  | none =>
    have hsame : Json.nat o.grace = Json.nat standard.grace :=
      eq_of_mem_members h
        (show _ ∈ standard.members from List.mem_cons_of_mem _ (List.mem_cons_of_mem _ List.mem_cons_self))
    have hread := Json.asWord?_nat hrange.2
    rw [hsame, Json.asWord?_nat (by decide)] at hread
    exact hread

/-- An object that describes options is read as them. -/
theorem ofJson?_of_describes {o : Options} (hrange : o.InRange) {all : List (Option Text × Json)}
    (h : Describes o all) : ofJson? (.object all) = some o := by
  obtain ⟨fields, hfields, hfound⟩ := h.found
  obtain ⟨database, hdatabase, hdatabase'⟩ := hfound "database" (.text o.database) List.mem_cons_self
  obtain ⟨timeout, htimeout, htimeout'⟩ :=
    hfound "statement_timeout_ms" ((o.timeout.map Json.nat).getD .null) (List.mem_cons_of_mem _ List.mem_cons_self)
  obtain ⟨grace, hgrace, hgrace'⟩ := hfound "cancel_grace_period_ms" (.nat o.grace)
    (List.mem_cons_of_mem _ (List.mem_cons_of_mem _ List.mem_cons_self))
  have hread : ofFields database timeout grace = some o :=
    ofFields_eq_some_iff.mpr
      ⟨database_of_found hdatabase', timeout_of_found hrange htimeout', grace_of_found hrange hgrace'⟩
  simp only [ofJson?, memberNames, hfields, hdatabase, htimeout, hgrace, Option.bind_eq_bind, Option.bind_some, hread]

theorem fieldOr_word_le {found : Option Json} {default n : Nat} (hdefault : default ≤ Text.maxWord)
    (h : fieldOr Json.asWord? default found = some n) : n ≤ Text.maxWord := by
  cases found with
  | some value => exact Json.asWord?_le h
  | none => cases h; exact hdefault

theorem asNullable?_word_le {value : Json} {n : Nat} (h : value.asNullable? Json.asWord? = some (some n)) :
    n ≤ Text.maxWord := by
  cases value with
  | number literal =>
    have hread : (Json.asWord? (.number literal)).map some = some (some n) := h
    obtain ⟨_, hread, heq⟩ := Option.map_eq_some_iff.mp hread
    cases heq
    exact Json.asWord?_le hread
  | null | bool | string | array | object => cases h

/-- Whatever is read has spans of time of 64 bits. -/
theorem inRange_of_ofFields {database timeout grace : Option Json} {o : Options}
    (h : ofFields database timeout grace = some o) : o.InRange := by
  obtain ⟨-, htimeout, hgrace⟩ := ofFields_eq_some_iff.mp h
  refine ⟨fun ms hms => ?_, fieldOr_word_le (by decide) hgrace⟩
  rw [hms] at htimeout
  cases timeout with
  | some value => exact asNullable?_word_le htimeout
  | none => cases htimeout

theorem inRange_of_ofJson? {j : Json} {o : Options} (h : ofJson? j = some o) : o.InRange := by
  cases j with
  | object all =>
    simp only [ofJson?, Option.bind_eq_bind, Option.bind_eq_some_iff] at h
    obtain ⟨_, -, _, -, _, -, _, -, h⟩ := h
    exact inRange_of_ofFields h
  | array items =>
    simp only [ofJson?, Option.ite_none_right_eq_some] at h
    exact inRange_of_ofFields h.2
  | null | bool | number | string => cases h

/-! ## Texts -/

theorem ofText_eq_ok_iff {text : Text} {o : Options} :
    ofText text = .ok o ↔ (Json.parse text).bind ofJson? = some o ∧ o.check = .ok () := by
  unfold ofText
  cases hread : (Json.parse text).bind ofJson? with
  | none => simp
  | some read =>
    simp only [checked, Option.some.injEq]
    cases hcheck : read.check with
    | error fault =>
      constructor
      · rintro ⟨⟩
      · rintro ⟨rfl, hok⟩
        rw [hcheck] at hok
        cases hok
    | ok u =>
      constructor
      · rintro ⟨⟩
        exact ⟨rfl, hcheck⟩
      · rintro ⟨rfl, -⟩
        rfl

/-- What describes valid options is read as them. -/
theorem ofText_of_describes {o : Options} (hvalid : o.Valid) {all : List (Option Text × Json)} (h : Describes o all)
    {text : Text} (htext : Json.parse text = some (.object all)) : ofText text = .ok o := by
  obtain ⟨hcheck, hrange⟩ := (valid_iff o).mp hvalid
  refine ofText_eq_ok_iff.mpr ⟨?_, hcheck⟩
  rw [htext]
  exact ofJson?_of_describes hrange h

/-- What is read is valid. -/
theorem valid_of_ofText {text : Text} {o : Options} (h : ofText text = .ok o) : o.Valid := by
  obtain ⟨hread, hcheck⟩ := ofText_eq_ok_iff.mp h
  obtain ⟨j, -, hj⟩ := Option.bind_eq_some_iff.mp hread
  exact (valid_iff o).mpr ⟨hcheck, inRange_of_ofJson? hj⟩

theorem proper_toJson (o : Options) : o.toJson.Proper := by
  have htimeout : ((o.timeout.map Json.nat).getD .null).Proper := by
    cases o.timeout with
    | none => exact .null
    | some ms => exact .number (Json.numeral_numeral ms)
  rw [toJson_eq]
  refine .object fun m hm => ?_
  obtain rfl | rfl | rfl := mem_members_iff.mp hm
  · exact .string _
  · exact htimeout
  · exact .number (Json.numeral_numeral o.grace)

/-- How the options `o` and the texts that are read as options go together. -/
structure JsonFaithful (o : Options) : Prop where
  /-- The valid options are those that a session accepts. -/
  accepted : o.Valid ↔ o.check = .ok () ∧ o.InRange
  /-- Valid options are read back from their JSON form as it is printed. -/
  serialized : o.Valid → ofText (Json.compact o.toJson) = .ok o
  /-- They are read from every text of every object that describes them. -/
  written : o.Valid → ∀ all, Describes o all → ∀ b t b', Json.AllSpace b → Json.Written (.object all) t →
    Json.AllSpace b' → ofText (b ++ (t ++ b')) = .ok o
  /-- No text at all is read as options that a session refuses. -/
  sound : ∀ text, ofText text = .ok o → o.check = .ok () ∧ o.InRange

/-- **Options survive their JSON form**, and what is read is accepted. -/
theorem ofText_faithful (o : Options) : JsonFaithful o where
  accepted := valid_iff o
  serialized hvalid := ofText_of_describes hvalid (describes_members o) (Json.parse_compact (proper_toJson o))
  written hvalid _ hdescribes _ _ _ hb ht hb' := ofText_of_describes hvalid hdescribes (ht.parse_eq hb hb')
  sound _ htext := (valid_iff o).mp (valid_of_ofText htext)

/-- Options are read from a text with their members in another order, without the one that has its default
and with one that is none of the fields. The name of the database is written with escapes. -/
theorem ofText_faithful_reordered :
    let o : Options := ⟨['a', '\x22', '\x01'], some 250, 5000⟩
    let timeout : Option Text × Json := (some "statement_timeout_ms".toList, .nat 250)
    let retries : Option Text × Json := (some "retries".toList, .array [.object []])
    let database : Option Text × Json := (some "database".toList, .text o.database)
    let t : Text := ("\x7b\x22statement_timeout_ms\x22:250,\x22retries\x22:[\x7b\x7d]," ++
      "\x22database\x22:\x22a\\\x22\\u0001\x22\x7d").toList
    o.Valid ∧ Describes o [timeout, retries, database] ∧
      Json.Written (.object [timeout, retries, database]) t ∧ ofText ([' '] ++ (t ++ ['\n'])) = .ok o ∧
      ofText (Json.compact o.toJson) = .ok o := by
  intro o timeout retries database t
  have hvalid : o.Valid := by
    refine ⟨⟨'a', List.mem_cons_self, rfl⟩, ?_, by decide⟩
    rintro _ ⟨⟩
    decide
  have hdescribes : Describes o [timeout, retries, database] := by
    have hall : ([timeout, retries] ++ [database]).Perm ([database, timeout] ++ [retries]) :=
      List.perm_append_comm
    refine ⟨hall, List.dropLast_sublist o.members, ?_, ?_⟩
    · intro m hm hnot
      obtain rfl | rfl | rfl := mem_members_iff.mp hm
      · exact absurd (.head _) hnot
      · exact absurd (.tail _ (.head _)) hnot
      · exact .tail _ (.tail _ (.head _))
    · intro m hm
      obtain rfl := List.mem_singleton.mp hm
      exact ⟨_, rfl, by unfold IsField; decide⟩
  have hwritten : Json.Written (.object [timeout, retries, database]) t := by
    refine Json.written_compact (.object ?_)
    rintro _ (_ | ⟨_, _ | ⟨_, _ | ⟨_, ⟨⟩⟩⟩⟩)
    · exact .number (Json.numeral_numeral 250)
    · refine .array fun item hitem => ?_
      obtain rfl := List.mem_singleton.mp hitem
      exact .object fun _ hm => absurd hm List.not_mem_nil
    · exact .string _
  have hspace : Json.AllSpace [' '] := List.forall_mem_singleton.mpr rfl
  have hspace' : Json.AllSpace ['\n'] := List.forall_mem_singleton.mpr rfl
  have h := ofText_faithful o
  exact ⟨hvalid, hdescribes, hwritten, h.written hvalid _ hdescribes _ _ _ hspace hwritten hspace',
    h.serialized hvalid⟩

end Options
end SchemaBatch
