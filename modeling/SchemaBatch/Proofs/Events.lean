import SchemaBatch.Activity

/-!
# `Proofs.Events` — what can be seen of an activity from outside

`Engaged.advance` says where an activity stands after it was brought up to date. This module says
what the services see of it on the way: which calls are made, which are answered and with what, and
which are given up because of an interruption.

* `Activity.Reaches` — a list of events leads from one activity to another; it speaks of the tree
  alone, not of services or time.
* `Engaged.eventsFrom` — the events of one advance.
* `advanceFrom_reaches` — the events of an advance lead to the activity that it arrives at.

So what every run of an activity can do follows from the activity's shape, by inversion of
`Reaches`, whatever the services answer and whenever they do. Which calls an activity can make at all is
`Activity.CallsOnly`. The submissions are looked at most: an activity that can make none is
`Activity.Quiet`.
-/

namespace SchemaBatch

/-- Something that happens between an activity and the services. -/
inductive Event where
  /-- A call is made. -/
  | made (c : Call)
  /-- The outstanding call is answered. -/
  | answered (c : Call) (answer : c.Answer)
  /-- The outstanding call is given up because of an interruption. -/
  | abandoned (c : Call)

namespace Event

/-- The statements that a call submits. -/
def submission? : Event → Option (List Text)
  | .made (.submit statements) => some statements
  | _ => none

end Event

/-- The statement lists that are submitted in the course of some events. -/
def submissions (events : List Event) : List (List Text) := events.filterMap Event.submission?

@[simp] theorem submissions_append (l₁ l₂ : List Event) :
    submissions (l₁ ++ l₂) = submissions l₁ ++ submissions l₂ := by
  simp [submissions]

theorem submissions_eq_nil {l : List Event} (h : ∀ statements, .made (.submit statements) ∉ l) :
    submissions l = [] := by
  refine List.filterMap_eq_nil_iff.mpr fun event hmem => ?_
  cases event with
  | made c =>
    cases c with
    | submit statements => exact absurd hmem (h statements)
    | _ => rfl
  | _ => rfl

namespace Activity

variable {α β : Type}

/-- The call that an activity makes when it is arrived at. -/
def arrival : Activity α → List Event
  | call c _ | listen c _ _ => [.made c]
  | _ => []

/-- Whether an activity has ended. -/
def IsOver (a : Activity α) : Prop := ∃ result, a = done result

/-- Arriving somewhere makes calls and does nothing else. -/
theorem not_mem_arrival {a : Activity α} {c : Call} : .abandoned c ∉ a.arrival := by
  cases a <;> simp [arrival]

/-! ## Ways through an activity -/

/-- The events in the list lead from one activity to another. -/
inductive Reaches : Activity α → List Event → Activity α → Prop where
  /-- Nothing happens. -/
  | refl (a : Activity α) : Reaches a [] a
  | answer {c : Call} {next : c.Answer → Activity α} (answer : c.Answer) {l : List Event}
      {b : Activity α} (h : Reaches (next answer) l b) :
      Reaches (call c next) (.answered c answer :: ((next answer).arrival ++ l)) b
  | hear {c : Call} {next : c.Answer → Activity α} {react : Activity α} (answer : c.Answer)
      {l : List Event} {b : Activity α} (h : Reaches (next answer) l b) :
      Reaches (listen c next react) (.answered c answer :: ((next answer).arrival ++ l)) b
  | abandon {c : Call} {next : c.Answer → Activity α} {react : Activity α} {l : List Event}
      {b : Activity α} (h : Reaches react l b) :
      Reaches (listen c next react) (.abandoned c :: (react.arrival ++ l)) b
  | sense {next : Bool → Activity α} (signalled : Bool) {l : List Event} {b : Activity α}
      (h : Reaches (next signalled) l b) :
      Reaches (Activity.sense next) ((next signalled).arrival ++ l) b

/-- Ways through an activity compose. -/
theorem Reaches.trans {a b c : Activity α} {l₁ l₂ : List Event} (h₁ : Reaches a l₁ b)
    (h₂ : Reaches b l₂ c) : Reaches a (l₁ ++ l₂) c := by
  -- by induction on the first way, whose events stay in front
  induction h₁ with
  | refl => exact h₂
  | answer x _ ih =>
    rw [List.cons_append, List.append_assoc]; exact .answer x (ih h₂)
  | hear x _ ih =>
    rw [List.cons_append, List.append_assoc]; exact .hear x (ih h₂)
  | abandon _ ih =>
    rw [List.cons_append, List.append_assoc]; exact .abandon (ih h₂)
  | sense s _ ih =>
    rw [List.append_assoc]; exact .sense s (ih h₂)

@[simp] theorem arrival_map (f : α → β) (a : Activity α) : (a.map f).arrival = a.arrival := by
  cases a <;> rfl

/-- A way through a mapped activity is a way through the activity itself. -/
theorem Reaches.of_map {f : α → β} {a : Activity α} {l : List Event} {b' : Activity β}
    (h : Reaches (a.map f) l b') : ∃ b, b' = b.map f ∧ Reaches a l b := by
  -- `map` keeps the shape, so each step of the mapped activity is a step of the activity
  induction a generalizing l with
  | done result =>
    cases h with
    | refl => exact ⟨done result, rfl, .refl _⟩
  | call c next ih =>
    cases h with
    | refl => exact ⟨call c next, rfl, .refl _⟩
    | answer x h =>
      obtain ⟨b, rfl, hb⟩ := ih x h
      exact ⟨b, rfl, by rw [arrival_map]; exact .answer x hb⟩
  | listen c next react ih ihr =>
    cases h with
    | refl => exact ⟨listen c next react, rfl, .refl _⟩
    | hear x h =>
      obtain ⟨b, rfl, hb⟩ := ih x h
      exact ⟨b, rfl, by rw [arrival_map]; exact .hear x hb⟩
    | abandon h =>
      obtain ⟨b, rfl, hb⟩ := ihr h
      exact ⟨b, rfl, by rw [arrival_map]; exact .abandon hb⟩
  | sense next ih =>
    cases h with
    | refl => exact ⟨Activity.sense next, rfl, .refl _⟩
    | sense s h =>
      obtain ⟨b, rfl, hb⟩ := ih s h
      exact ⟨b, rfl, by rw [arrival_map]; exact .sense s hb⟩

theorem map_eq_done {f : α → β} {a : Activity α} {r : β} (h : a.map f = done r) :
    ∃ r₀, a = done r₀ ∧ f r₀ = r := by
  cases a with
  | done r₀ => exact ⟨r₀, rfl, done.inj h⟩
  | call c next => cases h
  | listen c next react => cases h
  | sense next => cases h

/-! ## The calls of an activity -/

variable {P : Call → Prop}

/-- Every call that the activity may make, whatever the answers are, is one of these. -/
def CallsOnly (P : Call → Prop) : Activity α → Prop
  | done _ => True
  | call c next => P c ∧ ∀ answer, (next answer).CallsOnly P
  | listen c next react => P c ∧ (∀ answer, (next answer).CallsOnly P) ∧ react.CallsOnly P
  | sense next => ∀ signalled, (next signalled).CallsOnly P

theorem CallsOnly.of_mem_arrival {a : Activity α} (ha : a.CallsOnly P) {c : Call}
    (hc : .made c ∈ a.arrival) : P c := by
  cases a with
  | done result => cases hc
  | call c' next =>
    cases List.mem_singleton.mp hc
    exact ha.1
  | listen c' next react =>
    cases List.mem_singleton.mp hc
    exact ha.1
  | sense next => cases hc

theorem CallsOnly.of_mem_append {a : Activity α} (ha : a.CallsOnly P) {c : Call} {l : List Event}
    (hrest : .made c ∈ l → P c) (hc : .made c ∈ a.arrival ++ l) : P c :=
  (List.mem_append.mp hc).elim ha.of_mem_arrival hrest

/-- No other call is made on a way through the activity. -/
theorem CallsOnly.of_made {a b : Activity α} {l : List Event} (ha : a.CallsOnly P)
    (h : a.Reaches l b) {c : Call} (hc : .made c ∈ a.arrival ++ l) : P c := by
  refine ha.of_mem_append (fun hl => ?_) hc
  clear hc
  -- what follows an answer calls only these again, and so does the call that it makes first
  induction h with
  | refl a => cases hl
  | answer x h ih =>
    have hn := ha.2 x
    exact hn.of_mem_append (ih hn) ((List.mem_cons.mp hl).resolve_left nofun)
  | hear x h ih =>
    have hn := ha.2.1 x
    exact hn.of_mem_append (ih hn) ((List.mem_cons.mp hl).resolve_left nofun)
  | abandon h ih =>
    have hn := ha.2.2
    exact hn.of_mem_append (ih hn) ((List.mem_cons.mp hl).resolve_left nofun)
  | sense s h ih =>
    have hn := ha s
    exact hn.of_mem_append (ih hn) hl

/-! ## Activities that submit nothing -/

/-- No call of the activity is a submission, whatever the answers are. -/
def Quiet : Activity α → Prop
  | done _ => True
  | call c next => (∀ statements, c ≠ .submit statements) ∧ ∀ answer, (next answer).Quiet
  | listen c next react =>
    (∀ statements, c ≠ .submit statements) ∧ (∀ answer, (next answer).Quiet) ∧ react.Quiet
  | sense next => ∀ signalled, (next signalled).Quiet

theorem quiet_iff_callsOnly {a : Activity α} :
    a.Quiet ↔ a.CallsOnly fun c => ∀ statements, c ≠ .submit statements := by
  induction a with
  | done result => exact Iff.rfl
  | call c next ih => exact and_congr Iff.rfl (forall_congr' ih)
  | listen c next react ih ihr => exact and_congr Iff.rfl (and_congr (forall_congr' ih) ihr)
  | sense next ih => exact forall_congr' ih

theorem submissions_arrival_append {a : Activity α} (ha : a.Quiet) (l : List Event) :
    submissions (a.arrival ++ l) = submissions l := by
  have harrival : submissions a.arrival = [] := submissions_eq_nil fun statements hmem =>
    (quiet_iff_callsOnly.mp ha).of_mem_arrival hmem statements rfl
  rw [submissions_append, harrival, List.nil_append]

/-- Nothing is submitted on the way through a quiet activity. -/
theorem Quiet.submissions_eq_nil {a b : Activity α} {l : List Event} (ha : a.Quiet)
    (h : a.Reaches l b) : submissions l = [] :=
  SchemaBatch.submissions_eq_nil fun statements hmem =>
    (quiet_iff_callsOnly.mp ha).of_made h (List.mem_append_right _ hmem) statements rfl

end Activity

/-! ## The events of an advance -/

namespace Engaged

variable {σ α : Type}

/-- What happens while an activity is run up to a call that cannot be answered yet. -/
def eventsFrom (remote : Remote σ) (signalled : Bool) (now : Nat) :
    Activity α → (since : Nat) → σ → List Event
  | .done _, _, _ => []
  | .call c next, since, s =>
    if remote.isReady c since now s then
      .answered c (remote.answer c now s).1 :: ((next (remote.answer c now s).1).arrival ++
        eventsFrom remote signalled now (next (remote.answer c now s).1) now
          (remote.answer c now s).2)
    else []
  | .listen c next react, since, s =>
    if remote.isReady c since now s then
      .answered c (remote.answer c now s).1 :: ((next (remote.answer c now s).1).arrival ++
        eventsFrom remote signalled now (next (remote.answer c now s).1) now
          (remote.answer c now s).2)
    else if signalled then
      .abandoned c :: (react.arrival ++ eventsFrom remote signalled now react now s)
    else []
  | .sense next, _, s =>
    (next signalled).arrival ++ eventsFrom remote signalled now (next signalled) now s

/-- What happens while an activity is brought up to date. -/
def events (remote : Remote σ) (signalled : Bool) (now : Nat) (e : Engaged α) (s : σ) :
    List Event :=
  eventsFrom remote signalled now e.activity e.since s

/-- The events of an advance lead to the activity that it arrives at. -/
theorem advanceFrom_reaches (remote : Remote σ) (signalled : Bool) (now : Nat)
    (a : Activity α) (since : Nat) (s : σ) :
    a.Reaches (eventsFrom remote signalled now a since s)
      (advanceFrom remote signalled now a since s).1.activity := by
  -- the cases are those in which `advanceFrom` goes on or stops
  induction a generalizing since s with
  | done result => exact .refl _
  | call c next ih =>
    unfold eventsFrom advanceFrom
    by_cases h : remote.isReady c since now s
    · rw [if_pos h, if_pos h]; exact .answer _ (ih _ _ _)
    · rw [if_neg h, if_neg h]; exact .refl _
  | listen c next react ih ihr =>
    unfold eventsFrom advanceFrom
    by_cases h : remote.isReady c since now s
    · rw [if_pos h, if_pos h]; exact .hear _ (ih _ _ _)
    · rw [if_neg h, if_neg h]
      by_cases hs : signalled
      · rw [if_pos hs, if_pos hs]; exact .abandon (ihr _ _)
      · rw [if_neg hs, if_neg hs]; exact .refl _
  | sense next ih =>
    unfold eventsFrom advanceFrom
    exact .sense signalled (ih _ _ _)

theorem advance_reaches (remote : Remote σ) (signalled : Bool) (now : Nat) (e : Engaged α)
    (s : σ) :
    e.activity.Reaches (e.events remote signalled now s)
      (e.advance remote signalled now s).1.activity :=
  advanceFrom_reaches remote signalled now e.activity e.since s

theorem of_mem_arrival {a : Activity α} {c : Call} {l : List Event}
    (h : .abandoned c ∈ a.arrival ++ l) : .abandoned c ∈ l :=
  (List.mem_append.mp h).resolve_left Activity.not_mem_arrival

theorem of_mem_answered {a : Activity α} {c c' : Call} {answer : c'.Answer} {l : List Event}
    (h : .abandoned c ∈ .answered c' answer :: (a.arrival ++ l)) : .abandoned c ∈ l := by
  rcases List.mem_cons.mp h with h | h
  · cases h
  · exact of_mem_arrival h

/-- A call is given up only when an interruption is signalled. -/
theorem signalled_of_abandoned {remote : Remote σ} {signalled : Bool} {now : Nat}
    {a : Activity α} {since : Nat} {s : σ} {c : Call}
    (h : .abandoned c ∈ eventsFrom remote signalled now a since s) : signalled = true := by
  induction a generalizing since s with
  | done result => cases h
  | call c' next ih =>
    unfold eventsFrom at h
    split at h
    · exact ih _ (of_mem_answered h)
    · cases h
  | listen c' next react ih ihr =>
    unfold eventsFrom at h
    split at h
    · exact ih _ (of_mem_answered h)
    · -- only here is a call given up, and only when signalled
      split at h
      · assumption
      · cases h
  | sense next ih =>
    unfold eventsFrom at h
    exact ih _ (of_mem_arrival h)

end Engaged
end SchemaBatch
