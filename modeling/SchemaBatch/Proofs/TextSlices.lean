import SchemaBatch.Proofs.LeadingKeyword

/-!
# `Proofs.TextSlices` — the first words of a text, and its bytes

A text may be taken apart by its words, by its characters, or by its bytes. A place that is found by bytes in
the upper-case copy of a text is a place in the text itself: the letters that are changed have one byte before
and after.

* `Text.exists_of_words_eq_cons` — the first word of a text and what comes after it.
* `Text.word_of_upper` — a word in upper case is a word as it stands.
* `Text.bytes`, `Text.fromByte?`, `Text.uptoByte?` — slices by bytes, which fail inside a character.
* `Text.find?_append`, `Text.exists_of_find?` — where a name first occurs.
-/

namespace SchemaBatch
namespace Text

/-! ## The first word -/

/-- There is no blank in the text. -/
def Solid (w : Text) : Prop := ∀ c ∈ w, isBlank c = false

instance (w : Text) : Decidable w.Solid := List.decidableBAll (fun c => isBlank c = false) w

/-- Nothing is trimmed away before what is not blank. -/
theorem trimStart_append_of_solid {w : Text} (hne : w ≠ []) (hw : w.Solid) (s : Text) :
    trimStart (w ++ s) = w ++ s := by
  obtain ⟨c, w, rfl⟩ := List.exists_cons_of_ne_nil hne
  exact List.dropWhile_cons_of_neg (by simp [hw c List.mem_cons_self])

theorem words_trimStart (s : Text) : words (trimStart s) = words s := by
  induction s with
  | nil => rfl
  | cons c s ih =>
    by_cases hc : isBlank c = true
    · rw [trimStart, List.dropWhile_cons_of_pos hc, words_cons_blank hc]
      exact ih
    · rw [trimStart, List.dropWhile_cons_of_neg hc]

theorem words_append_of_allBlank {b : Text} (hb : b.AllBlank) (s : Text) : words (b ++ s) = words s := by
  rw [← words_trimStart, trimStart_append hb, words_trimStart]

/-- What is not blank is a word up to the next blank. -/
theorem words_append_of_solid {w : Text} (hne : w ≠ []) (hw : w.Solid) (s : Text) :
    words (w ++ s) = (w ++ s.takeWhile (!isBlank ·)) :: words (s.dropWhile (!isBlank ·)) := by
  have hfirst : (w ++ s.takeWhile (!isBlank ·)) ≠ [] := fun h => hne (List.append_eq_nil_iff.mp h).1
  have hsolid : Solid (w ++ s.takeWhile (!isBlank ·)) := by
    refine List.forall_mem_append.mpr ⟨hw, fun c hc => ?_⟩
    simpa using List.mem_takeWhile_imp hc
  have hword := words_of_solid hfirst hsolid
  conv_lhs => rw [← List.takeWhile_append_dropWhile (p := (!isBlank ·)) (l := s), ← List.append_assoc]
  cases hrest : s.dropWhile (!isBlank ·) with
  | nil => rw [List.append_nil, hword]; rfl
  | cons c rest =>
    have hhead := List.head?_dropWhile_not (!isBlank ·) s
    rw [hrest] at hhead
    have hc : isBlank c = true := by simpa using hhead
    rw [words_append_blank hc, words_cons_blank hc, hword]
    rfl

/-- **The first word of a text**, and what comes after it. -/
theorem exists_of_words_eq_cons {s w : Text} {ws : List Text} (h : words s = w :: ws) :
    ∃ rest, trimStart s = w ++ rest ∧ words rest = ws ∧ ∀ c ∈ rest.head?, isBlank c = true := by
  rw [← words_trimStart] at h
  cases hstart : trimStart s with
  | nil => rw [hstart] at h; cases h
  | cons c after =>
    have hhead := List.head?_dropWhile_not isBlank s
    rw [← trimStart, hstart] at hhead
    have hc : Solid [c] := List.forall_mem_singleton.mpr (by simpa using hhead)
    have hwords := words_append_of_solid (List.cons_ne_nil _ _) hc after
    rw [List.singleton_append, ← hstart, h] at hwords
    obtain ⟨rfl, rfl⟩ := List.cons.inj hwords
    refine ⟨after.dropWhile (!isBlank ·), ?_, rfl, fun d hd => ?_⟩
    · rw [List.singleton_append, List.cons_append, List.takeWhile_append_dropWhile]
    · have hback := List.head?_dropWhile_not (!isBlank ·) after
      rw [hd] at hback
      simpa using hback

/-! ## Upper case -/

theorem toUpper_of_blank {c : Char} (hc : isBlank c = true) : c.toUpper = c := by
  refine toUpper_of_not_isLower fun hlower => ?_
  have hletter : c.isAlpha = true := Bool.or_eq_true_iff.mpr (.inr hlower)
  cases hc.symm.trans (isBlank_of_isAlpha hletter)

/-- A text has no blanks if it has none in upper case. -/
theorem solid_of_upper {w : Text} (h : (upper w).Solid) : w.Solid := by
  intro c hc
  refine Bool.eq_false_iff.mpr fun hblank => ?_
  have hupper := h c.toUpper (List.mem_map_of_mem hc)
  rw [toUpper_of_blank hblank] at hupper
  cases hblank.symm.trans hupper

theorem upper_of_allBlank {b : Text} (hb : b.AllBlank) : upper b = b := by
  rw [upper, List.map_congr_left fun c hc => toUpper_of_blank (hb c hc), List.map_id']

theorem length_upper (s : Text) : (upper s).length = s.length := List.length_map _

/-- A word in upper case is a word as it stands, of the same length. -/
theorem word_of_upper {w v : Text} (h : upper w = v) (hne : v ≠ []) (hv : v.Solid) :
    w ≠ [] ∧ w.Solid ∧ w.length = v.length := by
  subst h
  refine ⟨?_, solid_of_upper hv, (length_upper w).symm⟩
  rintro rfl
  exact hne rfl

theorem upper_append (s t : Text) : upper (s ++ t) = upper s ++ upper t := List.map_append

/-! ## Bytes -/

/-- The number of bytes of a text. -/
def bytes : Text → Nat
  | [] => 0
  | c :: s => c.utf8Size + bytes s

theorem bytes_append (s t : Text) : bytes (s ++ t) = bytes s + bytes t := by
  induction s with
  | nil => exact (Nat.zero_add _).symm
  | cons c s ih => rw [List.cons_append, bytes, ih, bytes, Nat.add_assoc]

theorem bytes_cons_pos (c : Char) (s : Text) : 0 < bytes (c :: s) :=
  Nat.add_pos_left c.utf8Size_pos (bytes s)

/-- A letter has as many bytes in upper case. -/
theorem utf8Size_toUpper (c : Char) : c.toUpper.utf8Size = c.utf8Size := by
  by_cases hlower : 'a'.val ≤ c.val ∧ c.val ≤ 'z'.val
  · have hupper : c.toUpper = _ := dif_pos hlower
    obtain ⟨hfrom, hto⟩ := hlower
    rw [UInt32.le_iff_toNat_le] at hfrom hto
    have hone : c.utf8Size = 1 := by
      rw [Char.utf8Size_eq_one_iff, UInt32.le_iff_toNat_le]
      exact le_trans hto (by decide)
    have hone' : c.toUpper.utf8Size = 1 := by
      rw [hupper, Char.utf8Size_eq_one_iff, UInt32.le_iff_toNat_le, UInt32.toNat_add]
      have ha : 'a'.val.toNat = 97 := rfl
      have hz : 'z'.val.toNat = 122 := rfl
      have hshift : ('A'.val - 'a'.val).toNat = 2 ^ 32 - 32 := rfl
      have hlast : (127 : UInt32).toNat = 127 := rfl
      omega
    rw [hone, hone']
  · exact congrArg Char.utf8Size (dif_neg hlower)

theorem bytes_upper (s : Text) : bytes (upper s) = bytes s := by
  induction s with
  | nil => rfl
  | cons c s ih => exact congrArg₂ (· + ·) (utf8Size_toUpper c) ih

/-- The text from a byte on, if a character begins there, or the text ends. -/
def fromByte? : Text → Nat → Option Text
  | s, 0 => some s
  | [], _ + 1 => none
  | c :: s, n + 1 => if c.utf8Size ≤ n + 1 then fromByte? s (n + 1 - c.utf8Size) else none

/-- The text up to a byte, if a character begins there, or the text ends. -/
def uptoByte? : Text → Nat → Option Text
  | _, 0 => some []
  | [], _ + 1 => none
  | c :: s, n + 1 =>
    if c.utf8Size ≤ n + 1 then (uptoByte? s (n + 1 - c.utf8Size)).map (c :: ·) else none

/-- A text can be cut where a part of it ends. -/
theorem fromByte?_append (s t : Text) : fromByte? (s ++ t) (bytes s) = some t := by
  induction s with
  | nil => cases t <;> rfl
  | cons c s ih =>
    obtain ⟨n, hn⟩ : ∃ n, bytes (c :: s) = n + 1 := Nat.exists_eq_add_one.mpr (bytes_cons_pos c s)
    have hsize : c.utf8Size + bytes s = n + 1 := hn
    rw [hn, List.cons_append, fromByte?, if_pos (by omega), ← hsize, Nat.add_sub_cancel_left, ih]

theorem uptoByte?_append (s t : Text) : uptoByte? (s ++ t) (bytes s) = some s := by
  induction s with
  | nil => cases t <;> rfl
  | cons c s ih =>
    obtain ⟨n, hn⟩ : ∃ n, bytes (c :: s) = n + 1 := Nat.exists_eq_add_one.mpr (bytes_cons_pos c s)
    have hsize : c.utf8Size + bytes s = n + 1 := hn
    rw [hn, List.cons_append, uptoByte?, if_pos (by omega), ← hsize, Nat.add_sub_cancel_left, ih]
    rfl

/-- A slice is the beginning of the text. -/
theorem exists_of_uptoByte? {s w : Text} {n : Nat} (h : uptoByte? s n = some w) : ∃ rest, s = w ++ rest := by
  fun_induction uptoByte? s n generalizing w with
  | case1 s => exact ⟨s, by cases h; rfl⟩
  | case2 => cases h
  | case3 c s n hsize ih =>
    obtain ⟨w, hw, rfl⟩ := Option.map_eq_some_iff.mp h
    obtain ⟨rest, rfl⟩ := ih hw
    exact ⟨rest, rfl⟩
  | case4 => cases h

/-- The byte at which a name first occurs in a text. -/
def find? (name : Text) : Text → Option Nat
  | [] => if name.isEmpty then some 0 else none
  | c :: s => if name.isPrefixOf (c :: s) then some 0 else (find? name s).map (c.utf8Size + ·)

/-- Where a name is found it stands. -/
theorem exists_of_find? {name s : Text} {n : Nat} (h : find? name s = some n) :
    ∃ before after, s = before ++ (name ++ after) ∧ bytes before = n := by
  induction s generalizing n with
  | nil =>
    unfold find? at h
    split at h
    · rename_i hempty
      cases h
      exact ⟨[], [], by rw [List.isEmpty_iff.mp hempty]; rfl, rfl⟩
    · cases h
  | cons c s ih =>
    unfold find? at h
    split at h
    · rename_i hbegins
      cases h
      obtain ⟨after, hafter⟩ := List.isPrefixOf_iff_prefix.mp hbegins
      exact ⟨[], after, hafter.symm, rfl⟩
    · obtain ⟨m, hm, rfl⟩ := Option.map_eq_some_iff.mp h
      obtain ⟨before, after, rfl, rfl⟩ := ih hm
      exact ⟨c :: before, after, rfl, rfl⟩

/-- A name is found where it stands if it does not begin before. -/
theorem find?_append {name before after : Text} (hne : name ≠ [])
    (h : ∀ rest, rest <:+ before → rest ≠ [] → ¬ name <+: rest ++ (name ++ after)) :
    find? name (before ++ (name ++ after)) = some (bytes before) := by
  induction before with
  | nil =>
    obtain ⟨c, name, rfl⟩ := List.exists_cons_of_ne_nil hne
    have hbegins : (c :: name).isPrefixOf (c :: (name ++ after)) = true :=
      List.isPrefixOf_iff_prefix.mpr (List.prefix_append (c :: name) after)
    rw [List.nil_append, List.cons_append, find?, if_pos hbegins]
    rfl
  | cons c before ih =>
    have hnot : ¬ name.isPrefixOf (c :: (before ++ (name ++ after))) = true := fun hbegins =>
      h _ List.suffix_rfl (List.cons_ne_nil _ _) (List.isPrefixOf_iff_prefix.mp hbegins)
    rw [List.cons_append, find?, if_neg hnot,
      ih fun rest hrest => h rest (hrest.trans (List.suffix_cons c before))]
    rfl

end Text
end SchemaBatch
