import SchemaBatch.Proofs.SingleObject

/-!
# `Proofs.StatementLists` — statements one after the other

Statements are applied in order, up to the first that is refused, and a job that is alone on its catalog does
just that.

* `Catalog.applyAll_cons_eq_ok_iff` — all statements are applied if the first one is, and then the others.
* `Catalog.ends_cons_iff` — statements come to an end at the first one, or where the others do.
* `Job.stepAll` — the steps of a job that is alone; `Job.stepAll_eq`, **it ends as its statements do.**
-/

namespace SchemaBatch

namespace Catalog

variable {c after : Catalog} {statement : Text} {statements : List Text}

theorem applyAll_cons_eq_ok_iff : c.applyAll (statement :: statements) = .ok after ↔
    ∃ mid, c.applyText statement = .ok mid ∧ mid.applyAll statements = .ok after := by
  show (c.applyText statement).bind (fun mid => mid.applyAll statements) = .ok after ↔ _
  cases c.applyText statement with
  | error status => exact ⟨nofun, nofun⟩
  | ok mid =>
    constructor
    · intro h
      exact ⟨mid, rfl, h⟩
    · rintro ⟨_, ⟨⟩, h⟩
      exact h

/-- Statements come to an end at the first one, which is then refused, or where the others do. -/
theorem ends_cons_iff {answer : Except Status Unit} {applied : Nat} :
    Ends (statement :: statements) c answer after applied ↔
      (∃ status, c.applyText statement = .error status ∧ answer = .error status ∧ after = c ∧ applied = 0) ∨
      ∃ mid rest, c.applyText statement = .ok mid ∧ Ends statements mid answer after rest ∧
        applied = rest + 1 := by
  constructor
  · rintro ⟨hcatalog, hall, hrefused⟩
    cases applied with
    | zero =>
      obtain rfl : c = after := Except.ok.inj hcatalog
      cases answer with
      | ok => cases hall rfl
      | error status =>
        obtain ⟨refused, hfirst, hstatus⟩ := hrefused status rfl
        cases hfirst
        exact .inl ⟨status, hstatus, rfl, rfl, rfl⟩
    | succ rest =>
      obtain ⟨mid, hmid, hafter⟩ := applyAll_cons_eq_ok_iff.mp hcatalog
      exact .inr ⟨mid, rest, hmid, ⟨hafter, fun hok => Nat.succ.inj (hall hok), hrefused⟩, rfl⟩
  · rintro (⟨status, hstatus, rfl, rfl, rfl⟩ | ⟨mid, rest, hmid, ⟨hcatalog, hall, hrefused⟩, rfl⟩)
    · refine ⟨rfl, nofun, ?_⟩
      rintro _ ⟨⟩
      exact ⟨statement, rfl, hstatus⟩
    · exact ⟨applyAll_cons_eq_ok_iff.mpr ⟨mid, hmid, hcatalog⟩, fun hok => congrArg Nat.succ (hall hok),
        hrefused⟩

end Catalog

/-! ## Jobs -/

namespace Job

variable {c : Catalog} {j : Job} {k due delay : Nat}

/-- The steps of a job that is alone on its catalog, at some instants. -/
def stepAll (delay : Nat) (instants : List Nat) (c : Catalog) (j : Job) : Catalog × Job :=
  instants.foldl (fun here now => here.2.step here.1 delay now) (c, j)

theorem stepAll_cons {c' : Catalog} {j' : Job} {now : Nat} (hstep : j.step c delay now = (c', j'))
    (instants : List Nat) : stepAll delay (now :: instants) c j = stepAll delay instants c' j' := by
  show stepAll delay instants (j.step c delay now).1 (j.step c delay now).2 = _
  rw [hstep]

/-- A job that has ended is left alone. -/
theorem stepAll_of_idle (hd : j.due? = none) (instants : List Nat) :
    stepAll delay instants c j = (c, j) := by
  induction instants with
  | nil => rfl
  | cons now instants ih => rw [stepAll_cons (step_of_idle hd delay now), ih]

/-- From where a job stands it goes on as the statements do that are left to it. -/
theorem stepAll_of_running {rest : List Text} (hstate : j.state = .running k due)
    (hrest : j.statements.drop k = rest) {instants : List Nat} (hn : rest.length < instants.length) :
    (stepAll delay instants c j).1 = (Catalog.editAll rest c).2 ∧
      (stepAll delay instants c j).2.state = .finished (Catalog.editAll rest c).1 := by
  induction rest generalizing c j k due instants with
  | nil =>
    obtain ⟨now, instants, rfl⟩ := List.exists_cons_of_ne_nil (List.ne_nil_of_length_pos hn)
    have hnone : j.statements[k]? = none :=
      List.getElem?_eq_none_iff.mpr (List.drop_eq_nil_iff.mp hrest)
    have hstep : j.step c delay now = (c, { j with state := .finished (.ok ()) }) := by
      simp only [step_eq, hstate, hnone]
    rw [stepAll_cons hstep, stepAll_of_idle rfl]
    exact ⟨rfl, rfl⟩
  | cons statement rest ih =>
    obtain ⟨now, instants, rfl⟩ := List.exists_cons_of_ne_nil (List.ne_nil_of_length_pos (Nat.zero_lt_of_lt hn))
    have hnext : j.statements[k]? = some statement := by
      have hhead := congrArg (·[0]?) hrest
      rwa [List.getElem?_drop, Nat.add_zero, List.getElem?_cons_zero] at hhead
    have hafter : j.statements.drop (k + 1) = rest := by
      rw [← List.tail_drop, hrest, List.tail_cons]
    rw [Catalog.editAll, Catalog.edit_eq]
    cases happly : c.applyText statement with
    | error status =>
      have hstep : j.step c delay now = (c, { j with state := .finished (.error status) }) := by
        simp only [step_eq, hstate, hnext, happly]
      rw [stepAll_cons hstep, stepAll_of_idle rfl]
      exact ⟨rfl, rfl⟩
    | ok mid =>
      have hstep : j.step c delay now = (mid, j.applied k delay now) := by
        simp only [step_eq, hstate, hnext, happly]
      have hlength : rest.length = j.statements.length - (k + 1) := by
        rw [← hafter, List.length_drop]
      by_cases hlast : k + 1 < j.statements.length
      · have hrunning : (j.applied k delay now).state = .running (k + 1) (now + delay) := if_pos hlast
        rw [stepAll_cons hstep]
        exact ih hrunning hafter (Nat.lt_of_succ_lt_succ hn)
      · have hfinished : (j.applied k delay now).state = .finished (.ok ()) := if_neg hlast
        obtain rfl : rest = [] := List.length_eq_zero_iff.mp (by omega)
        rw [stepAll_cons hstep, stepAll_of_idle (by rw [due?, hfinished])]
        exact ⟨rfl, hfinished⟩

/-- **A job that is alone ends as its statements do**, if it is given a step for each of them and one more. -/
theorem stepAll_eq (operation : Operation) (statements : List Text) (now : Nat) (c : Catalog)
    {instants : List Nat} (hn : statements.length < instants.length) :
    let ended := stepAll delay instants c (ofSubmission operation statements delay now)
    ended.1 = (Catalog.editAll statements c).2 ∧
      ended.2.state = .finished (Catalog.editAll statements c).1 :=
  stepAll_of_running rfl (List.drop_zero) hn

end Job
end SchemaBatch
