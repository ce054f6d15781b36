import SchemaBatch.Sql.Statement

/-!
# `Proofs.SessionReplay` — what a session is to send

A session buffers schema changes while a batch is open and sends them otherwise. What it is to send can
be told from what is demanded of it alone, without a service, a frame or a clock: the **reference**
keeps a buffer while a batch is open, and nothing else.

* `Demand` — what a statement or a request asks for, as far as batches are concerned.
* `Demand.effect`, `replay` — the reference: one demand, and a list of them.
* `replay_append`, `replay_afresh` — a run or an abort leaves nothing behind for what comes after it.
* `effect_silent`, `replay_silent` — **nothing is sent while a batch is open**, except by its run.
  `replay_aborted` — **what was aborted is never sent**.
* `replay_once` — **nothing is sent twice**: what is sent, with what is in the buffer, is a part of what
  was demanded, in the same order.
* `Sql.Statement.timeoutAfter`, `timeoutAfterSql` — the timeout that is set after a statement or a text.
-/

namespace SchemaBatch

/-- What is demanded of a session, as far as batches are concerned. -/
inductive Demand where
  /-- A batch is to be opened. -/
  | start
  /-- The open batch is to be run. -/
  | run
  | abort
  /-- A schema change is to be made. -/
  | change (text : Text)
  | other
  deriving DecidableEq, Repr

namespace Demand

/-- What a statement demands. -/
def ofStatement (statement : Sql.Statement) : Demand :=
  match statement.category with
  | .schemaChange => .change statement.text
  | .command .startBatch => .start
  | .command .runBatch => .run
  | .command .abortBatch => .abort
  | _ => .other

/-- What a text demands. One that is no statement demands nothing. -/
def ofSql (sql : Text) : Demand :=
  match Sql.Statement.parse sql with
  | .ok statement => ofStatement statement
  | .error _ => .other

/-- The schema change that is demanded. -/
def change? : Demand → Option Text
  | .change text => some text
  | _ => none

/-- Whether an open batch is to be open no more. -/
def Ends (d : Demand) : Prop := d = .run ∨ d = .abort

/-- What becomes of the buffer, which is there while a batch is open, and what is sent. -/
def effect : Demand → Option (List Text) → Option (List Text) × List (List Text)
  | .start, none => (some [], [])
  | .run, some buffer => (none, if buffer = [] then [] else [buffer])
  | .abort, some _ => (none, [])
  | .change text, some buffer => (some (buffer ++ [text]), [])
  | .change text, none => (none, [[text]])
  | _, buffer => (buffer, [])

variable {d : Demand} {buffer : Option (List Text)}

theorem effect_of_ends (hd : d.Ends) : (d.effect buffer).1 = none := by
  rcases hd with rfl | rfl <;> cases buffer <;> rfl

/-- Nothing but a run sends anything while a batch is open. -/
theorem effect_silent (hd : d ≠ .run) (texts : List Text) : (d.effect (some texts)).2 = [] := by
  cases d with
  | run => exact absurd rfl hd
  | start => rfl
  | abort => rfl
  | change text => rfl
  | other => rfl

/-- An open batch stays open until it is run or aborted. -/
theorem effect_of_not_ends (hd : ¬ d.Ends) (texts : List Text) :
    ∃ texts', (d.effect (some texts)).1 = some texts' := by
  cases d with
  | run => exact absurd (.inl rfl) hd
  | abort => exact absurd (.inr rfl) hd
  | start => exact ⟨_, rfl⟩
  | change text => exact ⟨_, rfl⟩
  | other => exact ⟨_, rfl⟩

/-- What is sent and what is kept was in the buffer or is demanded. -/
theorem effect_once :
    ((d.effect buffer).2.flatten ++ (d.effect buffer).1.getD []).Sublist
      (buffer.getD [] ++ d.change?.toList) := by
  cases d with
  | start => cases buffer <;> simp [effect, change?]
  | run =>
    cases buffer with
    | none => simp [effect, change?]
    | some texts => by_cases h : texts = [] <;> simp [effect, change?, h]
  | abort => cases buffer <;> simp [effect, change?]
  | change text => cases buffer <;> simp [effect, change?]
  | other => cases buffer <;> simp [effect, change?]

end Demand

/-- **The reference**: the buffer after some demands, and what was sent. -/
def replay : List Demand → Option (List Text) → Option (List Text) × List (List Text)
  | [], buffer => (buffer, [])
  | d :: demands, buffer =>
    let (buffer, sent) := d.effect buffer
    let (last, rest) := replay demands buffer
    (last, sent ++ rest)

section Replay

variable {buffer : Option (List Text)}

theorem replay_cons (d : Demand) (demands : List Demand) :
    replay (d :: demands) buffer = ((replay demands (d.effect buffer).1).1,
      (d.effect buffer).2 ++ (replay demands (d.effect buffer).1).2) := rfl

theorem replay_append (earlier later : List Demand) :
    replay (earlier ++ later) buffer = ((replay later (replay earlier buffer).1).1,
      (replay earlier buffer).2 ++ (replay later (replay earlier buffer).1).2) := by
  induction earlier generalizing buffer with
  | nil => rfl
  | cons d earlier ih =>
    rw [List.cons_append, replay_cons, ih, replay_cons, List.append_assoc]

/-- What comes after a run or an abort is answered as if it came first. -/
theorem replay_afresh {d : Demand} (hd : d.Ends) (earlier later : List Demand) :
    (replay (earlier ++ d :: later) buffer).2
      = (replay (earlier ++ [d]) buffer).2 ++ (replay later none).2 := by
  have hsplit : earlier ++ d :: later = (earlier ++ [d]) ++ later := by simp
  have hnone : (replay (earlier ++ [d]) buffer).1 = none := by
    rw [replay_append]
    exact Demand.effect_of_ends hd
  rw [hsplit, replay_append, hnone]

/-- **Nothing is sent while a batch is open**, and it stays open, until it is run or aborted. -/
theorem replay_silent {demands : List Demand} (hopen : ∀ d ∈ demands, ¬ d.Ends)
    (texts : List Text) :
    (replay demands (some texts)).2 = [] ∧
      ∃ texts', (replay demands (some texts)).1 = some texts' := by
  induction demands generalizing texts with
  | nil => exact ⟨rfl, texts, rfl⟩
  | cons d demands ih =>
    have hd := hopen d List.mem_cons_self
    obtain ⟨texts', hkept⟩ := Demand.effect_of_not_ends hd texts
    rw [replay_cons, hkept, Demand.effect_silent (fun hrun => hd (.inl hrun))]
    exact ih (fun d hmem => hopen d (List.mem_cons_of_mem _ hmem)) texts'

/-- **What was aborted is never sent.** -/
theorem replay_aborted {earlier between : List Demand} (hnone : (replay earlier buffer).1 = none)
    (hopen : ∀ d ∈ between, ¬ d.Ends) (later : List Demand) :
    (replay (earlier ++ .start :: (between ++ .abort :: later)) buffer).2
      = (replay earlier buffer).2 ++ (replay later none).2 := by
  obtain ⟨hsent, texts, htexts⟩ := replay_silent hopen []
  have hrest : (replay (.start :: (between ++ .abort :: later)) none).2 = (replay later none).2 := by
    show (replay (between ++ .abort :: later) (some [])).2 = _
    rw [replay_append, hsent, htexts]
    rfl
  rw [replay_append, hnone, hrest]

/-- **Nothing is sent twice.** -/
theorem replay_once (demands : List Demand) :
    ((replay demands buffer).2.flatten ++ (replay demands buffer).1.getD []).Sublist
      (buffer.getD [] ++ demands.filterMap Demand.change?) := by
  induction demands generalizing buffer with
  | nil => exact List.sublist_append_left _ _
  | cons d demands ih =>
    have hhead : ((d.effect buffer).2.flatten ++ (d.effect buffer).1.getD []).Sublist
      (buffer.getD [] ++ d.change?.toList) := d.effect_once
    have hdemands : (d :: demands).filterMap Demand.change?
        = d.change?.toList ++ demands.filterMap Demand.change? := by
      cases h : d.change? <;> simp [h]
    rw [replay_cons, hdemands]
    generalize d.effect buffer = step at hhead ⊢
    obtain ⟨next, sent⟩ := step
    have hrest := @ih next
    generalize replay demands next = result at hrest ⊢
    obtain ⟨last, rest⟩ := result
    calc ((sent ++ rest).flatten ++ last.getD []).Sublist
          (sent.flatten ++ (next.getD [] ++ demands.filterMap Demand.change?)) := by
          rw [List.flatten_append, List.append_assoc]
          exact hrest.append_left sent.flatten
      _ = (sent.flatten ++ next.getD []) ++ demands.filterMap Demand.change? :=
          (List.append_assoc _ _ _).symm
      List.Sublist _ ((buffer.getD [] ++ d.change?.toList) ++ demands.filterMap Demand.change?) :=
          hhead.append_right _
      _ = buffer.getD [] ++ (d.change?.toList ++ demands.filterMap Demand.change?) :=
          List.append_assoc _ _ _

end Replay

/-- Two batches, of which the second is aborted, and a change on its own. -/
example : replay [.start, .change ['A'], .change ['B'], .run, .start, .change ['C'], .abort,
    .change ['D']] none = (none, [[['A'], ['B']], [['D']]]) := rfl

/-! ## The timeout -/

/-- The timeout that is set after a statement. -/
def Sql.Statement.timeoutAfter (timeout : Option Nat) (statement : Sql.Statement) : Option Nat :=
  match statement.category with
  | .command (.setTimeout timeout) => timeout
  | _ => timeout

/-- The timeout that is set after a text. One that is no statement sets nothing. -/
def timeoutAfterSql (timeout : Option Nat) (sql : Text) : Option Nat :=
  match Sql.Statement.parse sql with
  | .ok statement => statement.timeoutAfter timeout
  | .error _ => timeout

end SchemaBatch
