import Mathlib.Data.List.Nodup
import Mathlib.Data.List.Perm.Subperm
import SchemaBatch.Failure

/-!
# `Proofs.CauseWalk` — the walk along the causes of a failure

The causes of an error may end, or run back into an error that was met before. A walk along them remembers
the errors that it has looked at: each by the place where it lies and by its type, since an error that is the
first part of its wrapper lies where the wrapper lies. Two loops walk in this way, one for the first status
and one for the messages.

* `Failure.reached?` — the error that is reached by going to the source a number of times.
  `Failure.Route` — all errors that are reached, each once and in order.
* `Layout.TellsApart` — what the walk has to rely on. `Failure.turn?` — a turn of the loops;
  `Failure.unvisited_lt_of_turn?`, **each turn leaves fewer errors that were not looked at.**
* `Failure.Looks` — the errors that a walk looks at; `Failure.exists_looks`, every walk comes to an end.
* `Failure.Finds` and `Failure.Collects` — the two loops; they look at the same errors.
* `Failure.walk_covers` — **the loops end, with the first status and with all messages.**
-/

namespace SchemaBatch

/-! ## What can be reached -/

namespace Failure

variable {f : Failure}

/-- What the error at a position says. -/
def account? (f : Failure) (i : Nat) : Option Account := f.causes[i]?.map Cause.account

/-- The status that the error at a position is. -/
def statusAt? (f : Failure) (i : Nat) : Option Status := (f.account? i).bind Account.status?

/-- The position that the error at a position has for its source. -/
def source? (f : Failure) (i : Nat) : Option Nat := f.causes[i]?.bind Cause.source

/-- A position, if there is an error at it. -/
def present? (f : Failure) (position : Option Nat) : Option Nat :=
  position.filter fun i => i < f.causes.length

/-- The error that is reached from a position by going to the source a number of times. -/
def follow? (f : Failure) (position : Option Nat) : Nat → Option Nat
  | 0 => f.present? position
  | n + 1 => f.present? ((follow? f position n).bind f.source?)

/-- The error that is reached from the outermost one by going to the source a number of times. -/
def reached? (f : Failure) (n : Nat) : Option Nat := f.follow? (some 0) n

/-- **The errors that are reached**, by their positions. -/
structure Route (f : Failure) (route : List Nat) : Prop where
  /-- They are in the order of the causes, -/
  follows : ∀ n, n < route.length → f.reached? n = route[n]?
  /-- each of them once, -/
  nodup : route.Nodup
  /-- and none is left out. -/
  complete : ∀ n i, f.reached? n = some i → i ∈ route
  /-- After the last one there is no other, or one of them again. -/
  closes : f.reached? route.length = none ∨
    ∃ m, m < route.length ∧ f.reached? route.length = f.reached? m

/-- A status is the first that is reached. -/
def FirstReached (f : Failure) (status : Status) : Prop :=
  ∃ n i, f.reached? n = some i ∧ f.statusAt? i = some status ∧
    ∀ m j, m < n → f.reached? m = some j → f.statusAt? j = none

theorem present?_eq_some_iff {position : Option Nat} {i : Nat} :
    f.present? position = some i ↔ position = some i ∧ i < f.causes.length := by
  rw [present?, Option.filter_eq_some_iff, decide_eq_true_eq]

/-- One may as well go to the source first. -/
theorem follow?_succ {position : Option Nat} {i : Nat} (h : f.present? position = some i) (n : Nat) :
    f.follow? position (n + 1) = f.follow? (f.source? i) n := by
  induction n with
  | zero =>
    show f.present? ((f.present? position).bind f.source?) = f.present? (f.source? i)
    rw [h, Option.bind_some]
  | succ n ih => rw [follow?, ih, follow?]

/-! ## The walk -/

/-- How an error is remembered: where it lies, and of which type it is. -/
structure Pointer where
  address : Nat
  type : Nat
  deriving DecidableEq, Repr

/-- The pointers of the errors of a failure. -/
abbrev Layout := Nat → Pointer

/-- Different errors have different pointers: errors that lie at one place are of different types. -/
def Layout.TellsApart (layout : Layout) (f : Failure) : Prop :=
  ∀ i j, i < f.causes.length → j < f.causes.length → (layout i).address = (layout j).address →
    (layout i).type = (layout j).type → i = j

/-- A walk on its way: the errors that it has looked at, and the one that it comes to. -/
structure Walk where
  visited : List Pointer
  next : Option Nat

/-- A walk that begins with the outermost error. -/
def Walk.start : Walk := ⟨[], some 0⟩

/-- **A turn of the loops**: the error that is looked at and the walk after it. There is none if there is no
error, or one that has been looked at. -/
def turn? (f : Failure) (layout : Layout) (w : Walk) : Option (Nat × Walk) :=
  match f.present? w.next with
  | none => none
  | some i => if layout i ∈ w.visited then none else some (i, ⟨layout i :: w.visited, f.source? i⟩)

/-- The errors that a walk looks at before it ends. -/
inductive Looks (f : Failure) (layout : Layout) : Walk → List Nat → Prop where
  | ended {w : Walk} : f.turn? layout w = none → Looks f layout w []
  | on {w w' : Walk} {i : Nat} {rest : List Nat} : f.turn? layout w = some (i, w') →
      Looks f layout w' rest → Looks f layout w (i :: rest)

/-- **The loop that looks for a status**, and its answer. -/
inductive Finds (f : Failure) (layout : Layout) : Walk → Option Status → Prop where
  | ended {w : Walk} : f.turn? layout w = none → Finds f layout w none
  | found {w w' : Walk} {i : Nat} {status : Status} : f.turn? layout w = some (i, w') →
      f.statusAt? i = some status → Finds f layout w (some status)
  | on {w w' : Walk} {i : Nat} {answer : Option Status} : f.turn? layout w = some (i, w') →
      f.statusAt? i = none → Finds f layout w' answer → Finds f layout w answer

/-- **The loop that collects the messages**, and what it has collected in the end. -/
inductive Collects (f : Failure) (layout : Layout) : Walk → List String → Prop where
  | ended {w : Walk} : f.turn? layout w = none → Collects f layout w []
  | on {w w' : Walk} {i : Nat} {account : Account} {parts : List String} :
      f.turn? layout w = some (i, w') → f.account? i = some account → Collects f layout w' parts →
      Collects f layout w (account.text :: parts)

variable {layout : Layout} {w w' : Walk} {i : Nat} {route : List Nat}

theorem turn?_eq_some_iff : f.turn? layout w = some (i, w') ↔
    f.present? w.next = some i ∧ layout i ∉ w.visited ∧
      w' = ⟨layout i :: w.visited, f.source? i⟩ := by
  unfold turn?
  cases f.present? w.next with
  | none => exact ⟨nofun, nofun⟩
  | some j =>
    dsimp only
    split
    · rename_i hvisited
      refine ⟨nofun, ?_⟩
      rintro ⟨⟨⟩, hnot, _⟩
      exact absurd hvisited hnot
    · rename_i hnot
      constructor
      · rintro ⟨⟩
        exact ⟨rfl, hnot, rfl⟩
      · rintro ⟨⟨⟩, _, rfl⟩
        rfl

theorem turn?_eq_none_iff : f.turn? layout w = none ↔
    ∀ i, f.present? w.next = some i → layout i ∈ w.visited := by
  unfold turn?
  cases f.present? w.next with
  | none => exact ⟨nofun, fun _ => rfl⟩
  | some j =>
    dsimp only
    split
    · rename_i hvisited
      exact ⟨fun _ i hi => Option.some.inj hi ▸ hvisited, fun _ => rfl⟩
    · rename_i hnot
      exact ⟨nofun, fun h => absurd (h j rfl) hnot⟩

/-! ### Every walk comes to an end -/

/-- The errors that a walk has not looked at. -/
def unvisited (f : Failure) (layout : Layout) (w : Walk) : List Nat :=
  (List.range f.causes.length).filter fun i => layout i ∉ w.visited

/-- **Each turn leaves fewer errors that were not looked at.** -/
theorem unvisited_lt_of_turn? (h : f.turn? layout w = some (i, w')) :
    (f.unvisited layout w').length < (f.unvisited layout w).length := by
  obtain ⟨hnext, hnot, rfl⟩ := turn?_eq_some_iff.mp h
  obtain ⟨_, hi⟩ := present?_eq_some_iff.mp hnext
  have hsplit : f.unvisited layout ⟨layout i :: w.visited, f.source? i⟩
      = (f.unvisited layout w).filter fun j => layout j ≠ layout i := by
    simp only [unvisited, List.filter_filter, List.mem_cons, not_or, Bool.decide_and]
  have hmem : i ∈ f.unvisited layout w := by
    simpa [unvisited] using ⟨hi, hnot⟩
  rw [hsplit, List.length_filter_lt_length_iff_exists]
  exact ⟨i, hmem, by simp⟩

/-- **Every walk comes to an end**, whether or not the pointers tell the errors apart. -/
theorem exists_looks (f : Failure) (layout : Layout) (w : Walk) : ∃ route, f.Looks layout w route := by
  cases hturn : f.turn? layout w with
  | none => exact ⟨[], .ended hturn⟩
  | some turn =>
    obtain ⟨i, w'⟩ := turn
    have hless := unvisited_lt_of_turn? hturn
    obtain ⟨rest, hrest⟩ := exists_looks f layout w'
    exact ⟨i :: rest, .on hturn hrest⟩
termination_by (f.unvisited layout w).length

/-! ### What a walk looks at -/

/-- A walk looks at what is reached, in the order in which it is reached. -/
theorem Looks.follows (h : f.Looks layout w route) :
    ∀ n, n < route.length → f.follow? w.next n = route[n]? := by
  induction h with
  | ended => exact nofun
  | on hturn _ ih =>
    obtain ⟨hnext, _, rfl⟩ := turn?_eq_some_iff.mp hturn
    intro n hn
    cases n with
    | zero => exact hnext
    | succ n =>
      rw [follow?_succ hnext, List.getElem?_cons_succ]
      exact ih n (Nat.lt_of_succ_lt_succ hn)

/-- It looks at nothing that it has looked at, -/
theorem Looks.fresh (h : f.Looks layout w route) :
    (∀ i ∈ route, i < f.causes.length ∧ layout i ∉ w.visited) ∧ (route.map layout).Nodup := by
  induction h with
  | ended => exact ⟨nofun, List.nodup_nil⟩
  | @on w w' i rest hturn _ ih =>
    obtain ⟨hnext, hnot, rfl⟩ := turn?_eq_some_iff.mp hturn
    obtain ⟨hfresh, hnodup⟩ := ih
    refine ⟨List.forall_mem_cons.mpr ⟨⟨(present?_eq_some_iff.mp hnext).2, hnot⟩, ?_⟩,
      List.nodup_cons.mpr ⟨?_, hnodup⟩⟩
    · intro j hj
      exact ⟨(hfresh j hj).1, fun hvisited => (hfresh j hj).2 (List.mem_cons_of_mem _ hvisited)⟩
    · intro hmem
      obtain ⟨j, hj, heq⟩ := List.mem_map.mp hmem
      exact (hfresh j hj).2 (heq ▸ List.mem_cons_self)

/-- and ends only where nothing is left but what it has looked at. -/
theorem Looks.closes (h : f.Looks layout w route) :
    ∀ i, f.follow? w.next route.length = some i → layout i ∈ w.visited ∨ layout i ∈ route.map layout := by
  induction h with
  | ended hturn =>
    intro i hi
    exact .inl (turn?_eq_none_iff.mp hturn i hi)
  | on hturn _ ih =>
    obtain ⟨hnext, _, rfl⟩ := turn?_eq_some_iff.mp hturn
    intro i hi
    rw [List.length_cons, follow?_succ hnext] at hi
    rcases ih i hi with hvisited | hmem
    · rcases List.mem_cons.mp hvisited with heq | hvisited
      · exact .inr (heq ▸ List.mem_cons_self)
      · exact .inl hvisited
    · exact .inr (List.mem_cons_of_mem _ hmem)

theorem reached?_lt {n : Nat} (h : f.reached? n = some i) : i < f.causes.length := by
  unfold reached? at h
  cases n with
  | zero => exact (present?_eq_some_iff.mp h).2
  | succ n => exact (present?_eq_some_iff.mp h).2

/-- What comes after an error depends on the error alone. -/
theorem reached?_succ_congr {n m : Nat} (h : f.reached? n = f.reached? m) :
    f.reached? (n + 1) = f.reached? (m + 1) := by
  show f.present? ((f.reached? n).bind f.source?) = f.present? ((f.reached? m).bind f.source?)
  rw [h]

/-- What is reached is reached before the walk has ended. -/
theorem Looks.exists_lt (hapart : layout.TellsApart f) (h : f.Looks layout .start route) (n : Nat)
    (hi : f.reached? n = some i) : ∃ m, m < route.length ∧ f.reached? m = some i := by
  have hfollows : ∀ m, m < route.length → f.reached? m = route[m]? := h.follows
  -- at the end of the walk an error was looked at, and apart from it there is none like it
  have hstep : ∀ k i, k ≤ route.length → f.reached? k = some i →
      ∃ m, m < route.length ∧ f.reached? m = some i := by
    intro k i hk hi
    rcases Nat.lt_or_eq_of_le hk with hlt | rfl
    · exact ⟨k, hlt, hi⟩
    · obtain ⟨j, hj, heq⟩ := List.mem_map.mp ((h.closes i hi).resolve_left List.not_mem_nil)
      have hji := hapart j i (h.fresh.1 j hj).1 (reached?_lt hi) (congrArg Pointer.address heq)
        (congrArg Pointer.type heq)
      subst hji
      obtain ⟨m, hm⟩ := List.getElem?_of_mem hj
      have hlt := (List.getElem?_eq_some_iff.mp hm).1
      exact ⟨m, hlt, (hfollows m hlt).trans hm⟩
  induction n generalizing i with
  | zero => exact hstep 0 i (Nat.zero_le _) hi
  | succ n ih =>
    cases hn : f.reached? n with
    | none =>
      unfold reached? at hi hn
      rw [follow?, hn] at hi
      cases hi
    | some j =>
      obtain ⟨m, hlt, hm⟩ := ih hn
      exact hstep (m + 1) i hlt ((reached?_succ_congr (hm.trans hn.symm)).trans hi)

/-- **A walk from the outermost error looks at all that is reached**, and at nothing twice. -/
theorem Looks.covers (hapart : layout.TellsApart f) (h : f.Looks layout .start route) :
    f.Route route := by
  have hfollows : ∀ n, n < route.length → f.reached? n = route[n]? := h.follows
  refine ⟨hfollows, h.fresh.2.of_map layout, ?_, ?_⟩
  · intro n i hi
    obtain ⟨m, hlt, hm⟩ := h.exists_lt hapart n hi
    rw [hfollows m hlt] at hm
    exact List.mem_of_getElem? hm
  · cases hlast : f.reached? route.length with
    | none => exact .inl rfl
    | some i =>
      obtain ⟨m, hlt, hm⟩ := h.exists_lt hapart route.length hlast
      exact .inr ⟨m, hlt, hm.symm⟩

/-! ### What is told of it -/

/-- The accounts that are told are those of the errors that a walk looks at. -/
theorem Looks.trailFrom (hapart : layout.TellsApart f) (h : f.Looks layout w route) :
    ∀ (fuel : Nat) (seen : List Nat), route.length ≤ fuel → w.visited = seen.map layout →
      (∀ j ∈ seen, j < f.causes.length) →
      route.map f.account? = (trailFrom f.causes fuel seen w.next).map some := by
  induction h with
  | @ended w hturn =>
    intro fuel seen _ hvisited hseen
    have hnone : Failure.trailFrom f.causes fuel seen w.next = [] := by
      cases fuel with
      | zero => rfl
      | succ fuel =>
        cases hnext : w.next with
        | none => rfl
        | some i =>
          unfold Failure.trailFrom
          split
          · rfl
          · rename_i hnot
            cases hcause : f.causes[i]? with
            | none => rfl
            | some cause =>
              have hi := (List.getElem?_eq_some_iff.mp hcause).1
              have hmem := turn?_eq_none_iff.mp hturn i (present?_eq_some_iff.mpr ⟨hnext, hi⟩)
              rw [hvisited] at hmem
              obtain ⟨j, hj, heq⟩ := List.mem_map.mp hmem
              have hji := hapart j i (hseen j hj) hi (congrArg Pointer.address heq)
                (congrArg Pointer.type heq)
              exact absurd (hji ▸ hj) hnot
    rw [hnone]
    rfl
  | @on w w' i rest hturn _ ih =>
    obtain ⟨hnext, hnot, rfl⟩ := turn?_eq_some_iff.mp hturn
    obtain ⟨hposition, hi⟩ := present?_eq_some_iff.mp hnext
    intro fuel seen hfuel hvisited hseen
    obtain ⟨fuel, rfl⟩ := Nat.exists_eq_succ_of_ne_zero (Nat.ne_zero_of_lt hfuel)
    have hfresh : i ∉ seen := fun hmem => hnot (hvisited ▸ List.mem_map_of_mem hmem)
    have hcause : f.causes[i]? = some f.causes[i] := List.getElem?_eq_getElem hi
    have hrest := ih fuel (i :: seen) (Nat.le_of_succ_le_succ hfuel)
      (congrArg (layout i :: ·) hvisited) (List.forall_mem_cons.mpr ⟨hi, hseen⟩)
    rw [hposition, Failure.trailFrom, if_neg hfresh, hcause, List.map_cons, List.map_cons, account?, hcause]
    rw [source?, hcause] at hrest
    exact congrArg (some f.causes[i].account :: ·) hrest

/-- There is fuel enough to tell of all of them. -/
theorem Looks.trail (hapart : layout.TellsApart f) (h : f.Looks layout .start route) :
    route.map f.account? = f.trail.map some := by
  obtain ⟨hfresh, hnodup⟩ := h.fresh
  have hfuel : route.length ≤ f.causes.length := by
    have hsub : route ⊆ List.range f.causes.length := fun i hi => List.mem_range.mpr (hfresh i hi).1
    have hle := (List.Nodup.subperm (hnodup.of_map layout) hsub).length_le
    rwa [List.length_range] at hle
  exact h.trailFrom hapart f.causes.length [] hfuel rfl nofun

/-- The loop that looks for a status finds the first one of what a walk looks at. -/
theorem Looks.finds_iff (h : f.Looks layout w route) (answer : Option Status) :
    f.Finds layout w answer ↔ answer = route.findSome? f.statusAt? := by
  induction h generalizing answer with
  | ended hturn =>
    constructor
    · intro h
      cases h with
      | ended => rfl
      | found hturn' => cases hturn.symm.trans hturn'
      | on hturn' => cases hturn.symm.trans hturn'
    · rintro rfl
      exact .ended hturn
  | @on w w' i rest hturn _ ih =>
    rw [List.findSome?_cons]
    constructor
    · intro h
      cases h with
      | ended hturn' => cases hturn.symm.trans hturn'
      | found hturn' hstatus =>
        cases hturn.symm.trans hturn'
        rw [hstatus]
      | on hturn' hnone h =>
        cases hturn.symm.trans hturn'
        rw [hnone]
        exact (ih answer).mp h
    · rintro rfl
      cases hstatus : f.statusAt? i with
      | none => exact .on hturn hstatus ((ih _).mpr rfl)
      | some status => exact .found hturn hstatus

/-- The loop that collects the messages collects them from what a walk looks at. -/
theorem Looks.collects_iff (h : f.Looks layout w route) {accounts : List Account}
    (haccounts : route.map f.account? = accounts.map some) (parts : List String) :
    f.Collects layout w parts ↔ parts = accounts.map Account.text := by
  induction h generalizing accounts parts with
  | ended hturn =>
    obtain rfl : accounts = [] := List.map_eq_nil_iff.mp haccounts.symm
    constructor
    · intro h
      cases h with
      | ended => rfl
      | on hturn' => cases hturn.symm.trans hturn'
    · rintro rfl
      exact .ended hturn
  | @on w w' i rest hturn _ ih =>
    cases accounts with
    | nil => cases haccounts
    | cons account accounts =>
      obtain ⟨haccount, hrest⟩ := List.cons.inj haccounts
      constructor
      · intro h
        cases h with
        | ended hturn' => cases hturn.symm.trans hturn'
        | on hturn' haccount' h =>
          cases hturn.symm.trans hturn'
          cases haccount.symm.trans haccount'
          exact congrArg (account.text :: ·) ((ih hrest _).mp h)
      · rintro rfl
        exact .on hturn haccount ((ih hrest _).mpr rfl)

/-! ## What the loops come to -/

/-- The first status of the accounts is the first of the errors that they are told of. -/
theorem findSome?_statusAt? {accounts : List Account}
    (h : route.map f.account? = accounts.map some) :
    route.findSome? f.statusAt? = accounts.findSome? Account.status? := by
  have hstatus : f.statusAt? = (·.bind Account.status?) ∘ f.account? := rfl
  have hsome : Account.status? = (·.bind Account.status?) ∘ some := rfl
  rw [hstatus, ← List.findSome?_map, h, List.findSome?_map, ← hsome]

/-- There is no more than one first status. -/
theorem FirstReached.unique {status status' : Status} (h : f.FirstReached status)
    (h' : f.FirstReached status') : status = status' := by
  obtain ⟨n, i, hi, hstatus, hbefore⟩ := h
  obtain ⟨n', i', hi', hstatus', hbefore'⟩ := h'
  rcases Nat.lt_trichotomy n n' with hlt | rfl | hlt
  · cases hstatus.symm.trans (hbefore' n i hlt hi)
  · cases hi.symm.trans hi'
    exact Option.some.inj (hstatus.symm.trans hstatus')
  · cases hstatus'.symm.trans (hbefore n' i' hlt hi')

theorem Route.reached?_of_split (h : f.Route route) {before after : List Nat}
    (hsplit : route = before ++ i :: after) : f.reached? before.length = some i := by
  subst hsplit
  rw [h.follows before.length (by simp), List.getElem?_append_right (Nat.le_refl _), Nat.sub_self,
    List.getElem?_cons_zero]

/-- The first status on the route is the first that is reached, -/
theorem Route.findSome?_eq_some_iff (h : f.Route route) (status : Status) :
    route.findSome? f.statusAt? = some status ↔ f.FirstReached status := by
  have hfirst : ∀ {status}, route.findSome? f.statusAt? = some status → f.FirstReached status := by
    intro status hfind
    obtain ⟨before, i, after, hsplit, hstatus, hbefore⟩ := List.findSome?_eq_some_iff.mp hfind
    refine ⟨before.length, i, h.reached?_of_split hsplit, hstatus, ?_⟩
    intro m j hm hj
    have hlt : m < route.length := by
      rw [hsplit, List.length_append]
      exact Nat.lt_add_right _ hm
    rw [h.follows m hlt, hsplit, List.getElem?_append_left hm] at hj
    exact hbefore j (List.mem_of_getElem? hj)
  refine ⟨hfirst, fun hreached => ?_⟩
  cases hfind : route.findSome? f.statusAt? with
  | none =>
    obtain ⟨n, i, hi, hstatus, _⟩ := hreached
    have hnone := List.findSome?_eq_none_iff.mp hfind i (h.complete n i hi)
    cases hstatus.symm.trans hnone
  | some found => rw [hreached.unique (hfirst hfind)]

/-- and there is none just if none is reached. -/
theorem Route.findSome?_eq_none_iff (h : f.Route route) : route.findSome? f.statusAt? = none ↔
    ∀ n i, f.reached? n = some i → f.statusAt? i = none := by
  rw [List.findSome?_eq_none_iff]
  constructor
  · intro hnone n i hi
    exact hnone i (h.complete n i hi)
  · intro hnone i hi
    obtain ⟨n, hn⟩ := List.getElem?_of_mem hi
    have hlt := (List.getElem?_eq_some_iff.mp hn).1
    exact hnone n i ((h.follows n hlt).trans hn)

/-- The route goes on to the source of an error that it has not come to before. -/
theorem Route.head?_of_split (h : f.Route route) {before after : List Nat} {j : Nat}
    (hsplit : route = before ++ i :: after) (hsource : f.present? (f.source? i) = some j)
    (hbefore : j ∉ before) (hne : i ≠ j) : after.head? = some j := by
  have hnext : f.reached? (before.length + 1) = some j := by
    have hi : f.follow? (some 0) before.length = some i := h.reached?_of_split hsplit
    rw [reached?, follow?, hi, Option.bind_some, hsource]
  cases after with
  | nil =>
    have hmem := h.complete _ _ hnext
    rw [hsplit] at hmem
    rcases List.mem_append.mp hmem with hmem | hmem
    · exact absurd hmem hbefore
    · exact absurd (List.mem_singleton.mp hmem).symm hne
  | cons k after =>
    have hsplit' : route = (before ++ [i]) ++ k :: after := by rw [hsplit, List.append_assoc]; rfl
    have hk := h.reached?_of_split hsplit'
    rw [List.length_append, List.length_singleton] at hk
    exact hk.symm.trans hnext

/-- **What the two loops make of a failure**, along the errors that are reached. -/
structure Told (f : Failure) (layout : Layout) (route : List Nat) : Prop where
  isRoute : f.Route route
  /-- The accounts are those of the errors on the route, one for each. -/
  accounts : route.map f.account? = f.trail.map some
  /-- The one loop ends, with the status of the failure and with nothing else. -/
  finds : ∀ answer, f.Finds layout .start answer ↔ answer = f.status?
  /-- So does the other one, with the texts that are joined in its message. -/
  collects : ∀ parts, f.Collects layout .start parts ↔ parts = f.trail.map Account.text
  message : f.message = ": ".intercalate (f.trail.map Account.text)
  /-- The status is the first that is reached, -/
  first : ∀ status, f.status? = some status ↔ f.FirstReached status
  /-- and there is none just if none is reached. -/
  absent : f.status? = none ↔ ∀ n i, f.reached? n = some i → f.statusAt? i = none
  code : ∀ status, f.FirstReached status → f.code = status.code
  unknown : (∀ n i, f.reached? n = some i → f.statusAt? i = none) → f.code = .unknown
  /-- An error is not taken for its source because it lies where the source lies. -/
  nested : ∀ before i after j, route = before ++ i :: after → f.present? (f.source? i) = some j →
    (layout i).address = (layout j).address → (layout i).type ≠ (layout j).type → j ∉ before →
    after.head? = some j

/-- **The loops end, with the first status and with all messages.** For every failure, whether its causes end
or run into a cycle, and wherever its errors lie, as long as those at one place are of different types. -/
theorem walk_covers (f : Failure) (layout : Layout) (hapart : layout.TellsApart f) :
    ∃ route, f.Told layout route := by
  obtain ⟨route, hlooks⟩ := exists_looks f layout .start
  have hroute := hlooks.covers hapart
  have haccounts := hlooks.trail hapart
  have hstatus : route.findSome? f.statusAt? = f.status? := findSome?_statusAt? haccounts
  have hfirst := hroute.findSome?_eq_some_iff
  have hnone := hroute.findSome?_eq_none_iff
  rw [hstatus] at hfirst hnone
  refine ⟨route,
    { isRoute := hroute
      accounts := haccounts
      finds := fun answer => hstatus ▸ hlooks.finds_iff answer
      collects := hlooks.collects_iff haccounts
      message := rfl
      first := hfirst
      absent := hnone
      code := ?code
      unknown := ?unknown
      nested := ?nested }⟩
  case code =>
    intro status hreached
    rw [Failure.code, (hfirst status).mpr hreached]
    rfl
  case unknown =>
    intro hall
    rw [Failure.code, hnone.mpr hall]
    rfl
  case nested =>
    intro before i after j hsplit hsource _ htype hbefore
    exact hroute.head?_of_split hsplit hsource hbefore fun heq => htype (heq ▸ rfl)

/-- A status that is the first part of its wrapper, and whose source is the wrapper again, is found all the
same, and each message is told once. -/
theorem walk_covers_nested :
    let f : Failure := ⟨[⟨.other "request failed", some 1⟩, ⟨.other "change rejected", some 2⟩,
      ⟨.status ⟨.permissionDenied, "not allowed"⟩, some 1⟩]⟩
    let layout : Layout := fun i => if i = 0 then ⟨0, 0⟩ else ⟨16, i⟩
    layout.TellsApart f ∧ f.code = .permissionDenied ∧
      f.Collects layout .start ["request failed", "change rejected", "PERMISSION_DENIED: not allowed"] := by
  intro f layout
  have hapart : layout.TellsApart f := by
    have hall : ∀ i < 3, ∀ j < 3, (layout i).address = (layout j).address →
        (layout i).type = (layout j).type → i = j := by decide
    intro i j hi hj
    exact hall i hi j hj
  obtain ⟨route, htold⟩ := walk_covers f layout hapart
  refine ⟨hapart, htold.code ⟨.permissionDenied, "not allowed"⟩ ?_, (htold.collects _).mpr rfl⟩
  refine ⟨2, 2, rfl, rfl, ?_⟩
  have hbefore : ∀ m < 2, ∀ j ∈ f.reached? m, f.statusAt? j = none := by decide
  intro m j hm hj
  exact hbefore m hm j hj

end Failure
end SchemaBatch
