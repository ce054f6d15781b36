import SchemaBatch.Proofs.BatchHistory

/-!
# `Proofs.BatchLifecycle` — the life of a batch

A batch takes statements until it is run or aborted, and then nothing more. Two things are said of
every history of a batch that starts without statements.

* `Batch.lifecycle` — **if no run is dropped**, buffer, state, answers and submissions hang together:
  the buffer holds what was accepted, the state moves once and by the answer, and the service gets
  the whole buffer at most once.
* `Batch.submitted_once_iff` — **exactly then** the statements are handed over at most once, the batch
  has ended after a run that reached the service, and refuses what comes later. The state is written
  when a run has ended, so a run that is dropped leaves the batch as if it had not been run.

Both go by one step (`Note.Lawful`, `Ledger.step`) and an induction over the history.
-/

namespace SchemaBatch

/-! ## The law of one request -/

namespace Note

variable {μ : Type}

/-- The text that the batch took, if it took a statement. -/
def accepted? (n : Note μ) : Option Text :=
  match n.request, n.answer with
  | .add statement, .plain (.ok ()) => some statement.text
  | _, _ => none

/-- Whether the request is to run the batch. -/
def IsRun (n : Note μ) : Prop := ∃ schedule, n.request = .run schedule

/-- Whether a run was dropped before it had ended. -/
def isDroppedRun (n : Note μ) : Bool :=
  match n.answer with
  | .counts .hung => true
  | _ => false

/-- Whether the request has handed statements to the service. -/
def Submits (n : Note μ) : Prop := submissions n.events ≠ []

/-- Whether the batch refuses the request because it has ended, without a word to the services. -/
def IsShutOut (n : Note μ) : Prop :=
  (∃ message, n.answer.error? = some (.invalidState message)) ∧ n.events = [] ∧ n.after = n.before

/-- **The law of one request**: what it may do to the batch, by its answer. -/
structure Lawful (n : Note μ) : Prop where
  /-- The buffer grows by what is accepted. -/
  buffer : n.after.statements = n.before.statements ++ n.accepted?.toList
  /-- A batch that has ended stays as it is, -/
  stays : n.before.state ≠ .started → n.after = n.before
  /-- and refuses to be filled, run or aborted. -/
  shut : n.before.state ≠ .started → n.request.IsForActive → n.IsShutOut
  /-- It has run exactly when a run ends well, -/
  ran : n.before.state = .started ∧ n.after.state = .ran ↔
    n.IsRun ∧ ∃ counts, n.answer = .counts (.ended (.ok counts))
  /-- and then there is a count of 1 for each statement. -/
  full : ∀ counts, n.answer = .counts (.ended (.ok counts)) → counts = n.before.fullCounts
  /-- The run has failed exactly when the run of an active batch ends with an error. -/
  runFailed : n.before.state = .started ∧ n.after.state = .runFailed ↔
    n.before.state = .started ∧ n.IsRun ∧ ∃ e, n.answer = .counts (.ended (.error e))
  /-- It is aborted exactly when an abort is granted. -/
  aborted : n.before.state = .started ∧ n.after.state = .aborted ↔
    n.request = .abort ∧ n.answer = .plain (.ok ())
  /-- Other requests leave it alone and submit nothing, also later. -/
  aside : ¬ n.request.IsForActive → n.after = n.before ∧ ¬ n.Submits ∧
    ∀ activity, n.answer = .background (.ok activity) → activity.Quiet
  /-- What no batch accepts is refused in every state. -/
  refused : ∀ operation, n.request = .refused operation →
    n.events = [] ∧ ∃ message, n.answer = .plain (.error (.notAllowed message))
  /-- There are no timestamps in any state. -/
  timestamps : n.request = .readTimestamp ∨ n.request = .commitTimestamp →
    n.events = [] ∧ ∃ message, n.answer = .timestamp (.error (.noTimestamp message))

theorem isDroppedRun_iff {n : Note μ} : n.isDroppedRun = true ↔ n.answer = .counts .hung := by
  unfold isDroppedRun
  split
  · rename_i ha
    exact ⟨fun _ => ha, fun _ => rfl⟩
  · rename_i hne
    exact ⟨nofun, fun ha => absurd ha hne⟩

/-- An answer that is an error accepts nothing. -/
theorem accepted?_of_error {n : Note μ} {e : SessionError} (h : n.answer.error? = some e) :
    n.accepted? = none := by
  unfold accepted?
  split
  · rename_i ha
    rw [ha] at h
    cases h
  · rfl

/-! ### Each clause, by the cases of what a request can do -/

namespace Effect

variable {n : Note μ}

theorem buffer (h : n.Effect) :
    n.after.statements = n.before.statements ++ n.accepted?.toList := by
  cases h with
  | taken hb hs => rfl
  | shut hb hr ha =>
    rw [accepted?_of_error ha, Option.toList_none, List.append_nil]
  | timestamp hr =>
    rcases hr with rfl | rfl <;> exact (List.append_nil _).symm
  | _ => exact (List.append_nil _).symm

theorem stays (h : n.Effect) (hn : n.before.state ≠ .started) : n.after = n.before := by
  cases h with
  | taken hb | ranEmpty hb | ran hb | runFailed hb | aborted hb => exact absurd hb hn
  | _ => rfl

theorem shutOut (h : n.Effect) (hn : n.before.state ≠ .started) (hr : n.request.IsForActive) :
    n.IsShutOut := by
  cases h with
  | taken hb | notTaken hb | ranEmpty hb | ran hb | runFailed hb | dropped hb | aborted hb =>
    exact absurd hb hn
  | shut hb _ ha => exact ⟨⟨_, ha⟩, rfl, rfl⟩
  | timestamp ht => rcases ht with rfl | rfl <;> cases hr
  | query | background | refused | meanwhile => cases hr

/-- The state moves to "has run" exactly when a run ends well. -/
theorem ran_iff (h : n.Effect) : n.before.state = .started ∧ n.after.state = .ran ↔
    n.IsRun ∧ ∃ counts, n.answer = .counts (.ended (.ok counts)) := by
  cases h with
  | ranEmpty hb => exact ⟨fun _ => ⟨⟨_, rfl⟩, _, rfl⟩, fun _ => ⟨hb, rfl⟩⟩
  | ran hb => exact ⟨fun _ => ⟨⟨_, rfl⟩, _, rfl⟩, fun _ => ⟨hb, rfl⟩⟩
  | shut hb _ ha =>
    constructor
    · rintro ⟨hs, _⟩
      exact absurd hs hb
    · rintro ⟨_, counts, rfl⟩
      cases ha
  -- elsewhere the batch is active still or in another state, and the answer is no success of a run
  | _ =>
    constructor
    · rintro ⟨hs, hr⟩
      first | cases hs.symm.trans hr | cases hr
    · rintro ⟨_, counts, hc⟩
      cases hc

theorem full (h : n.Effect) {counts : List Int} (hc : n.answer = .counts (.ended (.ok counts))) :
    counts = n.before.fullCounts := by
  cases h with
  | ranEmpty hb he =>
    cases hc
    rw [Batch.fullCounts, he]
    rfl
  | ran => cases hc; rfl
  | shut _ _ ha => subst hc; cases ha
  | _ => cases hc

/-- The state moves to "run failed" exactly when the run of an active batch ends with an error. -/
theorem runFailed_iff (h : n.Effect) : n.before.state = .started ∧ n.after.state = .runFailed ↔
    n.before.state = .started ∧ n.IsRun ∧ ∃ e, n.answer = .counts (.ended (.error e)) := by
  cases h with
  | runFailed hb => exact ⟨fun _ => ⟨hb, ⟨_, rfl⟩, _, rfl⟩, fun _ => ⟨hb, rfl⟩⟩
  -- a batch that has ended answers a run with an error too, so both sides ask for an active one
  | shut hb =>
    constructor
    · rintro ⟨hs, _⟩
      exact absurd hs hb
    · rintro ⟨hs, _⟩
      exact absurd hs hb
  | _ =>
    constructor
    · rintro ⟨hs, hr⟩
      first | cases hs.symm.trans hr | cases hr
    · rintro ⟨_, _, e, he⟩
      cases he

/-- The state moves to "aborted" exactly when an abort is granted. -/
theorem aborted_iff (h : n.Effect) : n.before.state = .started ∧ n.after.state = .aborted ↔
    n.request = .abort ∧ n.answer = .plain (.ok ()) := by
  cases h with
  | aborted hb => exact ⟨fun _ => ⟨rfl, rfl⟩, fun _ => ⟨hb, rfl⟩⟩
  | shut hb _ ha =>
    constructor
    · rintro ⟨hs, _⟩
      exact absurd hs hb
    · rintro ⟨_, rfl⟩
      cases ha
  | timestamp =>
    constructor
    · rintro ⟨hs, hr⟩
      cases hs.symm.trans hr
    · rintro ⟨_, ha⟩
      cases ha
  | _ =>
    constructor
    · rintro ⟨hs, hr⟩
      first | cases hs.symm.trans hr | cases hr
    · rintro ⟨hr, _⟩
      cases hr

theorem aside (h : n.Effect) (hr : ¬ n.request.IsForActive) :
    n.after = n.before ∧ ¬ n.Submits ∧
      ∀ activity, n.answer = .background (.ok activity) → activity.Quiet := by
  cases h with
  | taken | notTaken | ranEmpty | ran | runFailed | dropped | aborted => exact absurd trivial hr
  | shut _ ha => exact absurd ha hr
  | query hs => exact ⟨rfl, fun h => h hs, nofun⟩
  | background hq =>
    refine ⟨rfl, fun h => h rfl, ?_⟩
    intro activity ha
    exact hq activity (Answer.background.inj ha)
  | refused => exact ⟨rfl, fun h => h rfl, nofun⟩
  | timestamp => exact ⟨rfl, fun h => h rfl, nofun⟩
  | meanwhile => exact ⟨rfl, fun h => h rfl, nofun⟩

theorem refusal (h : n.Effect) {operation : Batch.Refused} (hr : n.request = .refused operation) :
    n.events = [] ∧ ∃ message, n.answer = .plain (.error (.notAllowed message)) := by
  cases h with
  | refused ha => exact ⟨rfl, _, by rw [ha]⟩
  | shut _ ha => subst hr; cases ha
  | timestamp ht => rcases ht with rfl | rfl <;> cases hr
  | _ => cases hr

theorem noTimestamp (h : n.Effect) (hr : n.request = .readTimestamp ∨ n.request = .commitTimestamp) :
    n.events = [] ∧ ∃ message, n.answer = .timestamp (.error (.noTimestamp message)) := by
  cases h with
  | timestamp => exact ⟨rfl, _, rfl⟩
  | shut _ ha => rcases hr with rfl | rfl <;> cases ha
  | _ => rcases hr with hr | hr <;> cases hr

/-- **What a request can do is lawful.** -/
theorem lawful (h : n.Effect) : n.Lawful where
  buffer := h.buffer
  stays := h.stays
  shut := h.shutOut
  ran := h.ran_iff
  full _ := h.full
  runFailed := h.runFailed_iff
  aborted := h.aborted_iff
  aside := h.aside
  refused _ := h.refusal
  timestamps := h.noTimestamp

end Effect

end Note

/-! ## The ledger of a history -/

/-- What the service has got from a batch whose runs were not dropped: the whole buffer once, when the
batch was run and had something to send. -/
def Batch.handedOver (b : Batch) : List (List Text) :=
  match b.state with
  | .ran | .runFailed => if b.statements = [] then [] else [b.statements]
  | .started | .aborted => []

theorem Batch.handedOver_of_started {b : Batch} (hb : b.state = .started) : b.handedOver = [] := by
  rw [handedOver, hb]

theorem Batch.length_handedOver_le (b : Batch) : b.handedOver.length ≤ 1 := by
  unfold handedOver
  split
  · split <;> simp
  · split <;> simp
  · exact Nat.zero_le 1
  · exact Nat.zero_le 1

namespace Note.Effect

variable {μ : Type} {n : Note μ}

/-- A run that was not dropped hands over what the state of the batch says. -/
theorem handedOver (h : n.Effect) (hd : n.isDroppedRun = false) :
    n.after.handedOver = n.before.handedOver ++ submissions n.events := by
  cases h with
  | taken hb =>
    rw [Batch.handedOver_of_started hb, Batch.handedOver_of_started (by exact hb)]
    rfl
  | ranEmpty hb he =>
    rw [Batch.handedOver_of_started hb]
    exact if_pos he
  | ran hb hne hs =>
    rw [Batch.handedOver_of_started hb, hs]
    exact if_neg hne
  | runFailed hb hne hs =>
    rw [Batch.handedOver_of_started hb, hs]
    exact if_neg hne
  | dropped => cases hd
  | aborted hb =>
    rw [Batch.handedOver_of_started hb]
    rfl
  | query hs => rw [hs, List.append_nil]
  | _ => exact (List.append_nil _).symm

/-- A run that was dropped has sent the statements, and the batch is as if it had not been run. -/
theorem of_dropped (h : n.Effect) (hd : n.isDroppedRun = true) :
    n.before.state = .started ∧ n.after = n.before ∧ n.Submits := by
  have ha := isDroppedRun_iff.mp hd
  cases h with
  | dropped hb hne hs =>
    refine ⟨hb, rfl, ?_⟩
    intro hnil
    cases hs.symm.trans hnil
  | shut _ _ he => subst ha; cases he
  | _ => cases ha

/-- After a request that has reached the service the batch has ended, unless the run was dropped. -/
theorem ended_of_submits (h : n.Effect) (hs : n.Submits) (hd : n.isDroppedRun = false) :
    n.after.state ≠ .started := by
  cases h with
  | ran => exact nofun
  | runFailed => exact nofun
  | dropped => cases hd
  | query hq => exact absurd hq hs
  | _ => exact absurd rfl hs

end Note.Effect

/-- **The ledger of a history**: what the notes say of the batch as it is now. -/
structure Ledger {μ : Type} (notes : List (Note μ)) (b : Batch) : Prop where
  /-- The buffer holds what was accepted, in order. -/
  buffer : b.statements = notes.filterMap Note.accepted?
  /-- The service has got what the state of the batch says. -/
  submitted : submissions (notes.flatMap Note.events) = b.handedOver

theorem Ledger.fresh {μ : Type} : Ledger ([] : List (Note μ)) Batch.fresh := ⟨rfl, rfl⟩

/-- One request keeps the ledger, unless it is a run that is dropped. -/
theorem Ledger.step {μ : Type} {notes : List (Note μ)} {n : Note μ} (hl : Ledger notes n.before)
    (h : n.Effect) (hd : n.isDroppedRun = false) : Ledger (notes ++ [n]) n.after where
  buffer := by
    rw [h.buffer, hl.buffer, List.filterMap_append]
    cases ha : n.accepted? with
    | none => simp [ha]
    | some text => simp [ha]
  submitted := by
    rw [List.flatMap_append, submissions_append, hl.submitted, h.handedOver hd]
    simp

namespace Holding

variable {σ μ : Type} (services : Services σ μ)

/-- Every note of a history is one of the effects. -/
theorem play_effect (requests : List (Request μ)) (h : Holding σ) :
    ∀ n ∈ (play services requests h).1, n.Effect := by
  induction requests generalizing h with
  | nil =>
    intro n hn
    rw [play_nil] at hn
    exact absurd hn List.not_mem_nil
  | cons request requests ih =>
    rw [play_cons]
    intro n hn
    rcases List.mem_cons.mp hn with rfl | hn
    · exact perform_effect services request h
    · exact ih _ n hn

/-- A history without dropped runs keeps the ledger. -/
theorem play_ledger (requests : List (Request μ)) {h : Holding σ} {notes : List (Note μ)}
    (hl : Ledger notes h.batch)
    (hd : ∀ n ∈ (play services requests h).1, n.isDroppedRun = false) :
    Ledger (notes ++ (play services requests h).1) (play services requests h).2.batch := by
  induction requests generalizing h notes with
  | nil => rwa [play_nil, List.append_nil]
  | cons request requests ih =>
    rw [play_cons] at hd ⊢
    have hstep : Ledger (notes ++ [(h.perform services request).1])
        (h.perform services request).2.batch := by
      rw [perform_batch]
      rw [← perform_before services request h] at hl
      exact hl.step (perform_effect services request h) (hd _ List.mem_cons_self)
    have hrest := ih hstep fun n hn => hd n (List.mem_cons_of_mem _ hn)
    rwa [List.append_assoc] at hrest

/-- A batch that has ended stays as it is, and every later request finds it so. -/
theorem play_ended (requests : List (Request μ)) {h : Holding σ} (hb : h.batch.state ≠ .started) :
    (play services requests h).2.batch = h.batch ∧
      ∀ n ∈ (play services requests h).1, n.before = h.batch := by
  induction requests generalizing h with
  | nil =>
    rw [play_nil]
    exact ⟨rfl, fun n hn => absurd hn List.not_mem_nil⟩
  | cons request requests ih =>
    -- the first request leaves the batch as it is, so the rest starts from the same batch
    have hstays : (h.perform services request).2.batch = h.batch := by
      rw [perform_batch]
      rw [← perform_before services request h] at hb ⊢
      exact (perform_effect services request h).stays hb
    obtain ⟨hbatch, hnotes⟩ := ih (h := (h.perform services request).2) (hstays ▸ hb)
    rw [play_cons]
    refine ⟨hbatch.trans hstays, ?_⟩
    intro n hn
    rcases List.mem_cons.mp hn with rfl | hn
    · exact perform_before services request h
    · exact (hnotes n hn).trans hstays

/-- After a request that leaves the batch ended, all requests for an active batch are shut out. -/
theorem play_shutOut (requests : List (Request μ)) {h : Holding σ} {earlier later : List (Note μ)}
    {n : Note μ} (hsplit : (play services requests h).1 = earlier ++ n :: later)
    (hn : n.after.state ≠ .started) : ∀ m ∈ later, m.request.IsForActive → m.IsShutOut := by
  induction requests generalizing h earlier with
  | nil =>
    rw [play_nil] at hsplit
    exact absurd hsplit (by simp)
  | cons request requests ih =>
    rw [play_cons] at hsplit
    cases earlier with
    | nil =>
      -- the batch has ended with the first request, and the rest finds it so
      obtain ⟨rfl, rfl⟩ := List.cons.inj hsplit
      rw [← perform_batch] at hn
      intro m hm hr
      have hbefore := (play_ended services requests hn).2 m hm
      exact (play_effect services requests _ m hm).shutOut (hbefore ▸ hn) hr
    | cons first earlier => exact ih (List.cons.inj hsplit).2

end Holding

/-! ## The life of a batch -/

namespace Batch

variable {σ μ : Type} (services : Services σ μ)

/-- A history of a batch that starts without statements: its notes, and what it leaves. -/
def history (scene : Scene σ) (requests : List (Request μ)) : List (Note μ) × Holding σ :=
  Holding.play services requests ⟨fresh, scene⟩

theorem history_effect (scene : Scene σ) (requests : List (Request μ)) :
    ∀ n ∈ (history services scene requests).1, n.Effect :=
  Holding.play_effect services requests ⟨fresh, scene⟩

theorem history_ledger {scene : Scene σ} {requests : List (Request μ)}
    (hd : ∀ n ∈ (history services scene requests).1, n.isDroppedRun = false) :
    Ledger (history services scene requests).1 (history services scene requests).2.batch := by
  have hl := Holding.play_ledger services requests Ledger.fresh hd
  rwa [List.nil_append] at hl

/-- **The life of a batch.** In every history in which no run is dropped there is a note of each
request, each request finds the batch as the one before has left it and keeps to the law, the buffer
holds exactly what was accepted, the service has got the whole buffer once or nothing, and a batch
that has ended never changes. -/
theorem lifecycle (scene : Scene σ) (requests : List (Request μ))
    (hd : ∀ n ∈ (history services scene requests).1, n.isDroppedRun = false) :
    (history services scene requests).1.map Note.request = requests ∧
    Note.Chain fresh (history services scene requests).1 (history services scene requests).2.batch ∧
    (∀ n ∈ (history services scene requests).1, n.Lawful) ∧
    (history services scene requests).2.batch.statements
      = (history services scene requests).1.filterMap Note.accepted? ∧
    submissions ((history services scene requests).1.flatMap Note.events)
      = (history services scene requests).2.batch.handedOver ∧
    (∀ earlier later, requests = earlier ++ later →
      (history services scene earlier).2.batch.state ≠ .started →
      (history services scene requests).2.batch = (history services scene earlier).2.batch) := by
  have hrequests := Holding.play_requests services requests ⟨fresh, scene⟩
  have hchain := Holding.play_chain services requests ⟨fresh, scene⟩
  have hl := history_ledger services hd
  refine ⟨hrequests, hchain, ?_, hl.buffer, hl.submitted, ?_⟩
  · intro n hn
    exact (history_effect services scene requests n hn).lawful
  · -- cut the history where the batch had ended
    rintro earlier later rfl hended
    unfold history at hended ⊢
    rw [Holding.play_append]
    exact (Holding.play_ended services later hended).1

/-- A schema service that takes everything and carries it out at once. -/
def promptService : Backend :=
  ⟨.scripted ⟨some 0, some 0, some 0, none, none, true, none, [], fun _ => "operations/prompt", []⟩,
    Database.empty⟩

/-- A schema change for trials. -/
def trialChange : Sql.Statement :=
  ⟨"CREATE TABLE T (Id INT64)".toList, "CREATE TABLE T (Id INT64)".toList, .schemaChange⟩

/-- With a service that carries everything out at once, a batch of one statement has run after its
first run, and its statement was sent once although it is run again. -/
theorem lifecycle_prompt :
    let history := history Backend.services ⟨0, Frame.idle none 10, promptService⟩
      [.add trialChange, .run [], .run [], .abort]
    history.2.batch = ⟨[trialChange.text], .ran⟩ ∧
    submissions (history.1.flatMap Note.events) = history.2.batch.handedOver ∧
    history.2.batch.handedOver = [[trialChange.text]] := by
  intro history
  obtain ⟨_, _, _, _, hsubmitted, _⟩ :=
    lifecycle Backend.services ⟨0, Frame.idle none 10, promptService⟩
      [.add trialChange, .run [], .run [], .abort] (by decide)
  exact ⟨rfl, hsubmitted, rfl⟩

/-- **At most one submission, and when.** A batch hands its statements over at most once, has ended
after every request that reached the service, and refuses what comes later without a word to the
service: this holds of a history exactly when none of its runs was dropped. -/
theorem submitted_once_iff (scene : Scene σ) (requests : List (Request μ)) :
    ((submissions ((history services scene requests).1.flatMap Note.events)).length ≤ 1 ∧
      ∀ earlier n later, (history services scene requests).1 = earlier ++ n :: later →
        n.Submits → n.after.state ≠ .started ∧
          ∀ m ∈ later, m.request.IsForActive → m.IsShutOut) ↔
    ∀ n ∈ (history services scene requests).1, n.isDroppedRun = false := by
  constructor
  · rintro ⟨_, hended⟩ n hn
    cases hd : n.isDroppedRun with
    | false => rfl
    | true =>
      -- a run that was dropped reached the service and left the batch active
      obtain ⟨hb, hafter, hs⟩ := (history_effect services scene requests n hn).of_dropped hd
      obtain ⟨earlier, later, hsplit⟩ := List.append_of_mem hn
      exact absurd (hafter ▸ hb) (hended earlier n later hsplit hs).1
  · intro hd
    refine ⟨?_, ?_⟩
    · -- the ledger says what was submitted
      rw [(history_ledger services hd).submitted]
      exact length_handedOver_le _
    · intro earlier n later hsplit hs
      have hn : n ∈ (history services scene requests).1 := by rw [hsplit]; simp
      have hended := (history_effect services scene requests n hn).ended_of_submits hs (hd n hn)
      exact ⟨hended, Holding.play_shutOut services requests hsplit hended⟩

/-- With a service whose operations never finish, a run that is dropped is followed by a second run
that sends the statements again. -/
theorem submitted_twice_stalled :
    let history := history Backend.services
      ⟨0, Frame.idle none 10, ⟨.scripted Scripted.stalled, Database.empty⟩⟩
      [.add trialChange, .run [], .run []]
    submissions (history.1.flatMap Note.events) = [[trialChange.text], [trialChange.text]] ∧
    history.2.batch.state = .started :=
  ⟨rfl, rfl⟩

end Batch
end SchemaBatch
