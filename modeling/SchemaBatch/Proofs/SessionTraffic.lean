import SchemaBatch.Proofs.FrameCalls
import SchemaBatch.Proofs.SessionHistory

/-!
# `Proofs.SessionTraffic` — whatever a session waits for can be cancelled

A session puts all that has to be waited for into its one frame, and everybody who may cancel it holds
this frame. What a session is asked for, and what happens to the statements that this starts, can come in
any order: a statement may be seen to or dropped at any time, and another be asked for meanwhile.

* `Session.Action`, `Session.Dealings`, `Session.Dealings.play` — histories.
* `Session.Dealings.play_traffic` — a history of a session is a history of its frame, in which nothing but
  the session starts statements.
* `Session.Dealings.timeout_play` — the timeout of the frame is the one that was set last.
* `Session.stoppable` — **every call that the session waits for can be cancelled**, at every moment of
  every history, and nothing is cancelled when no statement is in progress; and every statement is under
  the timeout that was set last before it started, a run of a batch that was opened before too.
-/

namespace SchemaBatch

/-- The turn in which a reply starts its statement, if it has one. -/
def Reply.turns {α : Type} (μ : Type) : Reply α → List (Turn μ)
  | .answered _ => []
  | .running label activity => [.start label activity]

namespace Session

/-! ## Histories -/

/-- Something that is done to a session, or happens to the statements in its frame. -/
inductive Action (μ : Type) : Type 1 where
  /-- Asks for a statement of any kind. -/
  | execute (sql : Text)
  | startBatch
  | runBatch
  | abortBatch
  | query (sql : Text) (options : List QueryOption)
  | metadataQuery (sql : Text)
  /-- Anything that starts no statement: one is seen to or dropped, the frame is cancelled or set, time
  passes, or the services move. -/
  | aside (turn : Turn μ) (hquiet : turn.isStart = false)

namespace Action

variable {μ : Type}

/-- The timeout that is set after an action. -/
def timeoutAfter (timeout : Option Nat) : Action μ → Option Nat
  | execute sql => timeoutAfterSql timeout sql
  | aside turn _ => turn.timeoutAfter timeout
  | _ => timeout

/-- What an action does in the frame. -/
def turns (s : Session) (f : Frame) : Action μ → List (Turn μ)
  | execute sql => .setTimeout (timeoutAfterSql f.timeout sql) :: (s.execute f sql).1.turns μ
  | startBatch => []
  | runBatch => s.runBatch.1.turns μ
  | abortBatch => []
  | query sql options => (s.query sql options).turns μ
  | metadataQuery sql => (s.metadataQuery sql).turns μ
  | aside turn _ => [turn]

/-- Whether the open batch is to be run. -/
def RunsBatch : Action μ → Prop
  | execute sql => Demand.ofSql sql = .run
  | runBatch => True
  | _ => False

end Action

/-- A session and the statements in its frame. -/
structure Dealings (σ : Type) where
  session : Session
  traffic : Traffic σ

namespace Dealings

variable {σ μ : Type}

/-- A session that was just opened. -/
def opened (options : Options) (now : Nat) (state : σ) : Dealings σ :=
  ⟨⟨options, none⟩, Traffic.opened options.timeout options.grace now state⟩

/-- The session is asked for something, or something happens to its statements. -/
def perform (services : Services σ μ) (d : Dealings σ) : Action μ → Dealings σ
  | .execute sql =>
    let (reply, session, frame) := d.session.execute d.traffic.scene.frame sql
    ⟨session, { d.traffic with scene.frame := frame }.play services (reply.turns μ)⟩
  | .startBatch =>
    match d.session.startBatch with
    | .ok session => { d with session }
    | .error _ => d
  | .runBatch =>
    let (reply, session) := d.session.runBatch
    ⟨session, d.traffic.play services (reply.turns μ)⟩
  | .abortBatch => { d with session := d.session.abortBatch.2 }
  | .query sql options =>
    { d with traffic := d.traffic.play services ((d.session.query sql options).turns μ) }
  | .metadataQuery sql =>
    { d with traffic := d.traffic.play services ((d.session.metadataQuery sql).turns μ) }
  | .aside turn _ => { d with traffic := d.traffic.perform services turn }

/-- What comes of a history. -/
def play (services : Services σ μ) (history : List (Action μ)) (d : Dealings σ) : Dealings σ :=
  history.foldl (perform services) d

/-- What an action does in the frame now. -/
def turnsOf (d : Dealings σ) (action : Action μ) : List (Turn μ) :=
  action.turns d.session d.traffic.scene.frame

/-- What a history does in the frame. -/
def turnsIn (services : Services σ μ) : List (Action μ) → Dealings σ → List (Turn μ)
  | [], _ => []
  | action :: history, d => d.turnsOf action ++ turnsIn services history (d.perform services action)

/-- What passes between the session and the services in a history. -/
def log (services : Services σ μ) (history : List (Action μ)) (d : Dealings σ) : List Record :=
  d.traffic.log services (d.turnsIn services history)

/-- The timeout that is set after a history. -/
def timeoutIn (timeout : Option Nat) (history : List (Action μ)) : Option Nat :=
  history.foldl Action.timeoutAfter timeout

/-! ## A session in its frame -/

variable {services : Services σ μ} {d : Dealings σ}

end Dealings

/-- A statement changes nothing of the frame but the timeout, when it sets it. -/
theorem route_frame (s : Session) (f : Frame) (statement : Sql.Statement) :
    (s.route f statement).2.2 = f.setTimeout (statement.timeoutAfter f.timeout) := by
  obtain ⟨source, text, category⟩ := statement
  cases category with
  | command command =>
    cases command with
    | startBatch =>
      simp only [route, carryOut]
      split <;> rfl
    | _ => rfl
  | _ => rfl

theorem execute_frame (s : Session) (f : Frame) (sql : Text) :
    (s.execute f sql).2.2 = f.setTimeout (timeoutAfterSql f.timeout sql) := by
  unfold execute readStatement timeoutAfterSql
  cases Sql.Statement.parse sql with
  | error fault => rfl
  | ok statement => exact s.route_frame f statement

namespace Dealings

variable {σ μ : Type} {services : Services σ μ} {d : Dealings σ}

theorem play_concat (services : Services σ μ) (history : List (Action μ)) (action : Action μ)
    (d : Dealings σ) :
    d.play services (history ++ [action]) = (d.play services history).perform services action := by
  unfold play
  rw [List.foldl_append]
  rfl

/-- An action is a few turns of the frame. -/
theorem perform_traffic (action : Action μ) :
    (d.perform services action).traffic = d.traffic.play services (d.turnsOf action) := by
  cases action with
  | execute sql =>
    simp only [perform, execute_frame]
    rfl
  | startBatch =>
    simp only [perform]
    split <;> rfl
  | _ => rfl

/-- **A history of a session is a history of its frame.** -/
theorem play_traffic (history : List (Action μ)) (d : Dealings σ) :
    (d.play services history).traffic = d.traffic.play services (d.turnsIn services history) := by
  induction history generalizing d with
  | nil => rfl
  | cons action history ih =>
    rw [turnsIn, Traffic.play_append, ← perform_traffic]
    exact ih (d.perform services action)

/-! ## The timeout -/

/-- A reply sets no timeout. -/
theorem timeoutIn_reply {α : Type} (reply : Reply α) (timeout : Option Nat) :
    Traffic.timeoutIn timeout (reply.turns μ) = timeout := by
  cases reply <;> rfl

/-- What an action does in the frame sets the timeout that is set after it. -/
theorem timeoutIn_turnsOf (action : Action μ) :
    Traffic.timeoutIn d.traffic.scene.frame.timeout (d.turnsOf action)
      = action.timeoutAfter d.traffic.scene.frame.timeout := by
  cases action with
  | execute sql => exact timeoutIn_reply _ _
  | runBatch => exact timeoutIn_reply _ _
  | query sql options => exact timeoutIn_reply _ _
  | metadataQuery sql => exact timeoutIn_reply _ _
  | _ => rfl

/-- **The timeout of the frame is the one that was set last.** -/
theorem timeout_play (history : List (Action μ)) (d : Dealings σ) :
    (d.play services history).traffic.scene.frame.timeout
      = timeoutIn d.traffic.scene.frame.timeout history := by
  induction history using List.reverseRecOn with
  | nil => rfl
  | append_singleton history action ih =>
    rw [play_concat, perform_traffic, Traffic.timeout_play, timeoutIn_turnsOf, ih, timeoutIn, timeoutIn,
      List.foldl_append]
    rfl

/-! ## Who starts what -/

/-- A text that demands a run is the command to run the batch. -/
theorem parse_of_run {sql : Text} (h : Demand.ofSql sql = .run) :
    ∃ source text, Sql.Statement.parse sql = .ok ⟨source, text, .command .runBatch⟩ := by
  unfold Demand.ofSql at h
  cases hparse : Sql.Statement.parse sql with
  | error fault =>
    rw [hparse] at h
    cases h
  | ok statement =>
    rw [hparse] at h
    obtain ⟨source, text, category⟩ := statement
    cases category with
    | command command =>
      cases command with
      | runBatch => exact ⟨source, text, rfl⟩
      | _ => cases h
    | _ => cases h

/-- A reply that has to be waited for sets no timeout. -/
theorem timeoutAfterSql_of_running {s : Session} {f : Frame} {sql label : Text}
    {activity : Activity (Except SessionError StatementResult)}
    (h : (s.execute f sql).1 = .running label activity) (timeout : Option Nat) :
    timeoutAfterSql timeout sql = timeout := by
  unfold execute readStatement at h
  unfold timeoutAfterSql
  cases hparse : Sql.Statement.parse sql with
  | error fault => rfl
  | ok statement =>
    rw [hparse] at h
    obtain ⟨source, text, category⟩ := statement
    cases category with
    | command command =>
      cases command with
      | setTimeout t => cases h
      | _ => rfl
    | _ => rfl

/-- The turns start no statement, or one in the end, which finds the timeout that was set before. -/
def StartsAtMostOne (timeout : Option Nat) (turns : List (Turn μ)) : Prop :=
  Traffic.starts turns = 0 ∨
  ∃ quiet α label, ∃ activity : Activity (Except SessionError α),
    turns = quiet ++ [.start label activity] ∧ Traffic.starts quiet = 0 ∧
    Traffic.timeoutIn timeout quiet = timeout

theorem startsAtMostOne_reply {α : Type} (reply : Reply α) (timeout : Option Nat) :
    StartsAtMostOne timeout (reply.turns μ) := by
  cases reply with
  | answered result => exact .inl rfl
  | running label activity => exact .inr ⟨[], _, label, activity, rfl, rfl, rfl⟩

/-- **An action starts at most one statement**, under the timeout that is set. -/
theorem startsAtMostOne_turnsOf (d : Dealings σ) (action : Action μ) :
    StartsAtMostOne d.traffic.scene.frame.timeout (d.turnsOf action) := by
  cases action with
  | execute sql =>
    simp only [turnsOf, Action.turns]
    cases hr : (d.session.execute d.traffic.scene.frame sql).1 with
    | answered result => exact .inl rfl
    | running label activity =>
      exact .inr ⟨[.setTimeout _], _, label, activity, rfl, rfl, timeoutAfterSql_of_running hr _⟩
  | runBatch => exact startsAtMostOne_reply _ _
  | query sql options => exact startsAtMostOne_reply _ _
  | metadataQuery sql => exact startsAtMostOne_reply _ _
  | aside turn hquiet =>
    left
    simp [turnsOf, Action.turns, Traffic.starts, hquiet]
  | startBatch => exact .inl rfl
  | abortBatch => exact .inl rfl

section Opened

variable (services : Services σ μ) (options : Options) (now : Nat) (state : σ)
  (history : List (Action μ))

/-- The session after a history that began when it was opened. -/
def after : Dealings σ := (opened options now state).play services history

theorem traffic_after :
    (after services options now state history).traffic
      = (Traffic.opened options.timeout options.grace now state).play services
          ((opened options now state).turnsIn services history) :=
  play_traffic history (opened options now state)

theorem sound_after : (after services options now state history).traffic.Sound := by
  rw [traffic_after]
  exact (Traffic.Sound.opened ..).play services _

/-- **Every statement in the frame was started by a request**, under the timeout that was set last before
it, and stays under this timeout. -/
theorem accounts {i : Nat} (hi : i < (after services options now state history).traffic.stages.length) :
    ∃ earlier request later, history = earlier ++ request :: later ∧
      (∃ α label, ∃ activity : Activity (Except SessionError α),
        .start label activity ∈ (after services options now state earlier).turnsOf request) ∧
      ∃ before since : List (Turn μ),
        Traffic.timeoutIn options.timeout before = timeoutIn options.timeout earlier ∧
        Traffic.Account options.timeout before since
          (after services options now state history).traffic i := by
  induction history using List.reverseRecOn with
  | nil => cases hi
  | append_singleton history action ih =>
    have hsound := sound_after services options now state history
    have hnext : (after services options now state (history ++ [action])).traffic
        = (after services options now state history).traffic.play services
            ((after services options now state history).turnsOf action) := by
      unfold after
      rw [play_concat, perform_traffic]
    rw [hnext] at hi ⊢
    by_cases hold : i < (after services options now state history).traffic.stages.length
    · obtain ⟨earlier, request, later, hsplit, hstart, before, since, htimeout, ha⟩ := ih hold
      exact ⟨earlier, request, later ++ [action], by rw [hsplit]; simp, hstart, before, _, htimeout,
        ha.play hsound hold _⟩
    · -- the action has started it
      have hone := startsAtMostOne_turnsOf (after services options now state history) action
      rcases hone with hnone | ⟨quiet, α, label, activity, hturns, hquiet, htimeout⟩
      · rw [Traffic.length_play, hnone] at hi
        exact absurd hi hold
      · have hset : Traffic.timeoutIn options.timeout
            ((opened options now state).turnsIn services history)
              = (after services options now state history).traffic.scene.frame.timeout := by
          rw [traffic_after, Traffic.timeout_play]
          rfl
        refine ⟨history, action, [], rfl, ⟨α, label, activity, by rw [hturns]; simp⟩,
          (opened options now state).turnsIn services history ++ quiet, [], ?_, ?_⟩
        · rw [Traffic.timeoutIn, List.foldl_append]
          show Traffic.timeoutIn (Traffic.timeoutIn _ _) quiet = _
          rw [hset, htimeout]
          exact timeout_play history (opened options now state)
        · have hplace : i = ((after services options now state history).traffic.play services
              quiet).stages.length := by
            rw [hturns, Traffic.length_play, Traffic.starts_concat, hquiet] at hi
            rw [Traffic.length_play, hquiet]
            simp only [Turn.isStart, if_true] at hi
            omega
          rw [hturns, Traffic.play_concat, hplace, traffic_after, ← Traffic.play_append]
          exact .started ((Traffic.Sound.opened ..).play services _)
            ((Traffic.length_play services _ _).trans (Nat.zero_add _))
            (Traffic.timeout_play services _ _) label activity

end Opened

/-! ## Runs of the open batch -/

/-- A session holds a batch only as long as it takes statements, whatever is done to it. -/
theorem perform_settled (hs : d.session.Settled) (action : Action μ) :
    (d.perform services action).session.Settled := by
  cases action with
  | execute sql => exact (execute_does hs d.traffic.scene.frame sql).settled
  | startBatch =>
    rcases startBatch_does hs with ⟨s', hstart, hdoes⟩ | ⟨e, hstart, hdoes⟩
    · simp only [perform, hstart]
      exact (hdoes (.ok ())).settled
    · simp only [perform, hstart]
      exact hs
  | runBatch => exact (runBatch_does hs).settled
  | abortBatch => exact (abortBatch_does hs (.ok ())).settled
  | query sql options => exact hs
  | metadataQuery sql => exact hs
  | aside turn _ => exact hs

theorem play_settled (history : List (Action μ)) (hs : d.session.Settled) :
    (d.play services history).session.Settled := by
  induction history generalizing d with
  | nil => exact hs
  | cons action history ih => exact ih (perform_settled hs action)

/-- **To run the open batch** is to start a statement that hands it over, under the timeout that is set. -/
theorem run_started (services : Services σ μ) (hs : d.session.Settled) {b : Batch}
    (hb : d.session.batch = some b) (hne : b.statements ≠ []) {request : Action μ} (hruns : request.RunsBatch) :
    ∃ α, ∃ e : Execution α,
      (d.perform services request).traffic.stages = d.traffic.stages ++ [.live e] ∧
      e.label = Batch.runLabel ∧ e.timeout = d.traffic.scene.frame.timeout ∧
      e.body.activity.waitsFor = [.submit b.statements] := by
  have hrun := Batch.run_of_started (hs b hb) hne
  cases request with
  | runBatch =>
    simp only [perform, Session.runBatch, hb, hrun]
    exact ⟨_, _, rfl, rfl, rfl, rfl⟩
  | execute sql =>
    obtain ⟨source, text, hparse⟩ := parse_of_run hruns
    simp only [perform, execute, readStatement, hparse, Except.mapError, route, carryOut,
      Session.runBatch, hb, hrun]
    exact ⟨_, _, rfl, rfl, rfl, rfl⟩
  | _ => cases hruns

end Dealings

/-! ## Whatever is waited for can be cancelled -/

variable {σ μ : Type}

/-- What is to be said of a session after a history that began when it was opened. -/
structure Stoppable (services : Services σ μ) (options : Options) (now : Nat) (state : σ)
    (history : List (Action μ)) (d : Dealings σ) : Prop where
  /-- Who cancels the frame while a call is outstanding is told that there was something to cancel, and
  reaches the statement that waits for the call. -/
  reached : ∀ i c,
    c ∈ Record.outstanding ((Dealings.opened options now state).log services history) i →
    d.traffic.scene.frame.cancel.1 = true ∧
    d.traffic.scene.frame.cancel.2.isSignalled i = true ∧
    ∃ α, ∃ e : Execution α,
      d.traffic.stages[i]? = some (.live e) ∧ e.ticket = i ∧ e.body.activity.waitsFor = [c]
  /-- The statement heeds it: after the next look it is over or interrupted. -/
  heeded : ∀ i c,
    c ∈ Record.outstanding ((Dealings.opened options now state).log services history) i →
    ∃ stage,
      ((d.traffic.perform services .cancel).perform services (.look i)).stages[i]? = some stage ∧
      (stage.isLive = false ∨ stage.windDown? ≠ none)
  /-- There is nothing to cancel while no statement is in progress. -/
  idle : d.traffic.inProgress = [] → d.traffic.scene.frame.cancel.1 = false
  /-- A statement in progress was started by a request, and is under the timeout that was set last before
  it. -/
  timed : ∀ (i : Nat) {α : Type} (e : Execution α),
    d.traffic.stages[i]? = some (Stage.live e) →
    ∃ earlier request later, history = earlier ++ request :: later ∧
      (∃ β label, ∃ activity : Activity (Except SessionError β),
        .start label activity
          ∈ ((Dealings.opened options now state).play services earlier).turnsOf request) ∧
      e.timeout = Dealings.timeoutIn options.timeout earlier
  /-- So is a run of the open batch, whenever the batch was opened. -/
  run : ∀ b, d.session.batch = some b → b.statements ≠ [] →
    ∀ request : Action μ, request.RunsBatch → ∃ α, ∃ e : Execution α,
      (d.perform services request).traffic.stages = d.traffic.stages ++ [.live e] ∧
      e.label = Batch.runLabel ∧ e.body.activity.waitsFor = [.submit b.statements] ∧
      e.timeout = Dealings.timeoutIn options.timeout history

/-- A statement whose call is outstanding is in progress, and waits for this call. -/
theorem live_of_outstanding {services : Services σ μ} {options : Options} {now : Nat} {state : σ}
    {history : List (Action μ)} {i : Nat} {c : Call}
    (hc : c ∈ Record.outstanding ((Dealings.opened options now state).log services history) i) :
    ∃ α, ∃ e : Execution α,
      ((Dealings.opened options now state).play services history).traffic.stages[i]?
        = some (.live e) ∧ e.body.activity.waitsFor = [c] := by
  rw [Dealings.log] at hc
  change c ∈ Record.outstanding (Traffic.log services _ (Traffic.opened ..)) i at hc
  rw [Traffic.outstanding_log] at hc
  change c ∈ (Traffic.play services _ (Dealings.opened options now state).traffic).waitsFor i at hc
  rw [← Dealings.play_traffic] at hc
  obtain ⟨α, e, he, hw⟩ := Traffic.live_of_waitsFor hc
  exact ⟨α, e, he, hw⟩

/-- **Whatever a session waits for can be cancelled**, at every moment of every history. -/
theorem stoppable (services : Services σ μ) (options : Options) (now : Nat) (state : σ)
    (history : List (Action μ)) :
    Stoppable services options now state history
      ((Dealings.opened options now state).play services history) := by
  have hsound := Dealings.sound_after services options now state history
  unfold Dealings.after at hsound
  constructor
  · intro i c hc
    obtain ⟨α, e, he, hw⟩ := live_of_outstanding hc
    have hmem := Traffic.mem_inProgress.mpr ⟨α, e, he⟩
    refine ⟨hsound.isRunning_iff.mpr ⟨i, hmem⟩, ?_, α, e, he, hsound.own he, hw⟩
    rw [Frame.isSignalled_cancel, hsound.registered]
    exact hmem
  · intro i c hc
    obtain ⟨α, e, he, _⟩ := live_of_outstanding hc
    refine (hsound.perform .cancel).heeded he (.inl (Frame.isSignalled_cancel.mpr ?_))
    rw [hsound.registered]
    exact Traffic.mem_inProgress.mpr ⟨α, e, he⟩
  · intro hidle
    rw [← Bool.not_eq_true]
    intro hcancel
    obtain ⟨i, hi⟩ := hsound.isRunning_iff.mp hcancel
    rw [hidle] at hi
    cases hi
  · intro i α e he
    obtain ⟨earlier, request, later, hsplit, hstart, before, since, htimeout, ha⟩ :=
      Dealings.accounts services options now state history (List.getElem?_eq_some_iff.mp he).1
    exact ⟨earlier, request, later, hsplit, hstart, (ha.timed he).1.trans htimeout⟩
  · intro b hb hne request hruns
    have hsettled : ((Dealings.opened options now state).play services history).session.Settled :=
      Dealings.play_settled history nofun
    obtain ⟨α, e, hstages, hlabel, ht, hw⟩ :=
      Dealings.run_started services hsettled hb hne hruns
    exact ⟨α, e, hstages, hlabel, hw, ht.trans (Dealings.timeout_play history _)⟩

end Session
end SchemaBatch
