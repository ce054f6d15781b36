import Mathlib.Data.List.Induction
import SchemaBatch.Proofs.InMemoryRun

/-!
# `Proofs.CommitMarks` — marks that are recorded in any order

A service records the marks of an operation one at a time. It may leave a position out, come back to it later,
record it twice, and record one that has no statement: the marks grow as far as they have to, and know nothing
of the statements. The counts are read off the marks, and know nothing of the order.

* `Progress.mark?_recordAll` — **what is read back is what was recorded last**, or what was there before.
* `Progress.counts_recordAll` — which statements count then.
* `Progress.Recorded`, `Progress.recorded` — **the counts tell which positions were recorded**, and not when or
  how often.
-/

namespace SchemaBatch
namespace Progress

/-- Records marks, one after the other. -/
def recordAll (p : Progress) (recordings : List (Nat × Timestamp)) : Progress :=
  recordings.foldl (fun p r => p.record r.1 r.2) p

/-! ## The marks -/

@[simp] theorem statements_recordAll (p : Progress) (recordings : List (Nat × Timestamp)) :
    (p.recordAll recordings).statements = p.statements := by
  induction recordings generalizing p with
  | nil => rfl
  | cons r recordings ih => exact ih (p.record r.1 r.2)

theorem recordAll_append (p : Progress) (earlier later : List (Nat × Timestamp)) :
    p.recordAll (earlier ++ later) = (p.recordAll earlier).recordAll later := List.foldl_append

/-- **What is read back is what was recorded last**, or what was there before. -/
theorem mark?_recordAll (p : Progress) (recordings : List (Nat × Timestamp)) (i : Nat) :
    (p.recordAll recordings).mark? i
      = ((recordings.reverse.find? (·.1 == i)).map Prod.snd).or (p.mark? i) := by
  induction recordings using List.reverseRecOn with
  | nil => rfl
  | append_singleton recordings r ih =>
    rw [recordAll_append, List.reverse_append, List.reverse_singleton, List.singleton_append]
    show ((p.recordAll recordings).record r.1 r.2).mark? i = _
    rw [mark?_record, ih, List.find?_cons]
    by_cases hi : i = r.1
    · rw [if_pos hi, beq_iff_eq.mpr hi.symm]
      rfl
    · rw [if_neg hi, beq_eq_false_iff_ne.mpr (Ne.symm hi)]

/-- A position is marked if it was marked before or was recorded, and else it is not. -/
theorem isMarked_recordAll (p : Progress) (recordings : List (Nat × Timestamp)) (i : Nat) :
    (p.recordAll recordings).isMarked i = (p.isMarked i || decide (i ∈ recordings.map Prod.fst)) := by
  rw [isMarked, mark?_recordAll, Option.isSome_or, Option.isSome_map, isMarked, Bool.or_comm]
  congr 1
  rw [Bool.eq_iff_iff, List.find?_isSome, decide_eq_true_iff, List.mem_map]
  simp only [List.mem_reverse, beq_iff_eq]

/-! ## The counts -/

/-- The statements that count after some recordings. -/
theorem counts_recordAll (p : Progress) (recordings : List (Nat × Timestamp)) :
    (p.recordAll recordings).counts = countsOf p.statements.length
      fun i => p.isMarked i || decide (i ∈ recordings.map Prod.fst) := by
  rw [counts_eq, statements_recordAll]
  exact countsOf_congr fun i _ => isMarked_recordAll p recordings i

theorem getElem?_counts_eq_one_iff {p : Progress} {i : Nat} :
    p.counts[i]? = some 1 ↔ i < p.statements.length ∧ p.isMarked i = true := by
  rw [counts_eq, getElem?_countsOf]
  by_cases hi : i < p.statements.length
  · cases hmarked : p.isMarked i <;> simp [hi]
  · simp [hi]

/-- **What recordings leave behind**, whatever the marks were before. -/
structure Recorded (p : Progress) (recordings : List (Nat × Timestamp)) : Prop where
  /-- The statements stay. -/
  statements : (p.recordAll recordings).statements = p.statements
  /-- A position is marked just if it was marked before or was recorded. -/
  marked : ∀ i, (p.recordAll recordings).isMarked i = true ↔
    p.isMarked i = true ∨ i ∈ recordings.map Prod.fst
  /-- There is one count for each statement, -/
  length : (p.recordAll recordings).counts.length = p.statements.length
  /-- and it is 1 just if the statement is marked then, and otherwise 0. -/
  counted : ∀ i < p.statements.length, (p.recordAll recordings).counts[i]?
    = some (if (p.recordAll recordings).isMarked i then 1 else 0)
  /-- Other recordings of the same statements give the same counts: neither their order matters, nor how often
  each was made, nor what is recorded behind the statements. -/
  unordered : ∀ recordings',
    (∀ i < p.statements.length, i ∈ recordings.map Prod.fst ↔ i ∈ recordings'.map Prod.fst) →
      (p.recordAll recordings').counts = (p.recordAll recordings).counts
  /-- What is recorded behind the statements can be left out. -/
  beyond : (p.recordAll (recordings.filter (·.1 < p.statements.length))).counts
    = (p.recordAll recordings).counts
  /-- A statement that counts after the first recordings counts after all of them. -/
  kept : ∀ earlier later, recordings = earlier ++ later → ∀ i : Nat,
    (p.recordAll earlier).counts[i]? = some 1 → (p.recordAll recordings).counts[i]? = some 1

/-- **The counts tell which positions were recorded.** -/
theorem recorded (p : Progress) (recordings : List (Nat × Timestamp)) : Recorded p recordings := by
  have hmarked : ∀ recordings i, (p.recordAll recordings).isMarked i = true ↔
      p.isMarked i = true ∨ i ∈ recordings.map Prod.fst := by
    intro recordings i
    rw [isMarked_recordAll, Bool.or_eq_true, decide_eq_true_iff]
  have hunordered : ∀ recordings',
      (∀ i < p.statements.length, i ∈ recordings.map Prod.fst ↔ i ∈ recordings'.map Prod.fst) →
        (p.recordAll recordings').counts = (p.recordAll recordings).counts := by
    intro recordings' hsame
    rw [counts_recordAll, counts_recordAll]
    refine countsOf_congr fun i hi => ?_
    rw [decide_eq_decide.mpr (hsame i hi)]
  refine
    { statements := statements_recordAll p recordings
      marked := hmarked recordings
      length := ?length
      counted := ?counted
      unordered := hunordered
      beyond := hunordered _ ?beyond
      kept := ?kept }
  case length => rw [counts_recordAll, length_countsOf]
  case counted =>
    intro i hi
    rw [counts_eq, getElem?_countsOf, statements_recordAll, if_pos hi]
  case beyond =>
    intro i hi
    simp only [List.mem_map, List.mem_filter, decide_eq_true_iff]
    constructor
    · rintro ⟨r, hr, rfl⟩
      exact ⟨r, ⟨hr, hi⟩, rfl⟩
    · rintro ⟨r, ⟨hr, _⟩, rfl⟩
      exact ⟨r, hr, rfl⟩
  case kept =>
    rintro earlier later rfl i hone
    rw [getElem?_counts_eq_one_iff, statements_recordAll, hmarked] at hone ⊢
    refine ⟨hone.1, hone.2.imp_right fun hmem => ?_⟩
    rw [List.map_append]
    exact List.mem_append_left _ hmem

-- of two statements the second is recorded, after a position that neither has
example : ((ofStatements [['A'], ['B']]).recordAll [(3, .ofMillis 1), (1, .ofMillis 2)]).counts = [0, 1] := by
  decide

end Progress
end SchemaBatch
