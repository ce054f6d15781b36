import SchemaBatch.Session
import SchemaBatch.Proofs.BatchHistory
import SchemaBatch.Proofs.SessionReplay

/-!
# `Proofs.SessionHistory` — a session under any requests

A history is a list of requests to one session, through statements as well as directly, each with a
schedule of what others do while it is seen to. A request whose schedule is over before it has ended is
dropped where it waits.

* `Session.Request`, `Session.Note`, `Session.perform`, `Session.play` — histories and their notes.
* `Reply.Submits` — what a reply sends, whatever becomes of it.
* `Session.Does` — a session does what is demanded of it, as the reference has it. One lemma for each
  operation, up to `Session.execute_does`; `Session.perform_effect`, **every request**.
* `Session.Faithful` — what is said of a history. `Session.play_faithful`, **it holds of every history**:
  a batch is held only as long as it takes statements, and the services get what the reference sends.
-/

namespace SchemaBatch

/-! ## What a reply sends -/

namespace Reply

variable {α β : Type}

/-- Whatever becomes of a reply, it sends these statement lists. -/
def Submits (sent : List (List Text)) : Reply α → Prop
  | .answered _ => sent = []
  | .running _ activity => ∀ l a, activity.Reaches l a → submissions (activity.arrival ++ l) = sent

theorem submits_iff_always {sent : List (List Text)} {reply : Reply α} :
    reply.Submits sent ↔ reply.Always fun l => submissions l = sent := by
  cases reply with
  | answered result => exact eq_comm
  | running label activity => exact Iff.rfl

theorem Submits.map {sent : List (List Text)} {reply : Reply α} (h : reply.Submits sent)
    (f : α → β) : (reply.map f).Submits sent :=
  submits_iff_always.mpr ((submits_iff_always.mp h).map f)

/-- It sends them under every schedule. -/
theorem Submits.course {σ μ : Type} {sent : List (List Text)} {reply : Reply α}
    (h : reply.Submits sent) (services : Services σ μ) (schedule : List (Happening μ))
    (scene : Scene σ) : submissions (reply.course services schedule scene).events = sent :=
  (submits_iff_always.mp h).course services schedule scene

theorem submits_of_quiet {label : Text} {activity : Activity (Except SessionError α)}
    (hq : activity.Quiet) : (running label activity).Submits [] := always_of_quiet label hq

end Reply

namespace Batch

variable {b : Batch}

/-- A batch that takes statements takes every schema change. -/
theorem add_of_started (hb : b.state = .started) {statement : Sql.Statement}
    (hchange : statement.isSchemaChange = true) :
    b.add statement = .ok { b with statements := b.statements ++ [statement.text] } := by
  rcases b.add_cases statement with ⟨hended, _⟩ | ⟨_, hnot, _⟩ | ⟨_, _, hadd⟩
  · exact absurd hb hended
  · cases hchange.symm.trans hnot
  · exact hadd

/-- A run sends the statements of the batch, unless there are none. -/
theorem submits_run (hb : b.state = .started) :
    b.run.1.Submits (if b.statements = [] then [] else [b.statements]) := by
  by_cases hne : b.statements = []
  · rw [run_of_empty hb hne, if_pos hne]
    rfl
  · rw [if_neg hne]
    exact Reply.submits_iff_always.mpr (always_run hb hne)

theorem submits_query (statement : Sql.Statement) (analysis : Analysis)
    (options : List QueryOption) : (query statement analysis options).Submits [] :=
  Reply.submits_iff_always.mpr (always_query statement analysis options)

end Batch

namespace Session

/-! ## Histories -/

/-- A request to a session, with what others do while it is seen to. -/
inductive Request (μ : Type) where
  /-- Executes a statement of any kind. -/
  | execute (sql : Text) (schedule : List (Happening μ))
  | startBatch
  | runBatch (schedule : List (Happening μ))
  | abortBatch
  | query (sql : Text) (options : List QueryOption) (schedule : List (Happening μ))
  | metadataQuery (sql : Text) (schedule : List (Happening μ))
  /-- Cancels what runs in the frame. -/
  | cancel
  | setTimeout (timeout : Option Nat)
  /-- Something happens between the requests. -/
  | meanwhile (happening : Happening μ)

/-- What is demanded with a request. -/
def Request.demand {μ : Type} : Request μ → Demand
  | .execute sql _ => Demand.ofSql sql
  | .startBatch => .start
  | .runBatch _ => .run
  | .abortBatch => .abort
  | _ => .other

/-- What a request is answered with. -/
inductive Answer where
  | plain (result : Except SessionError Unit)
  | statement (outcome : Outcome StatementResult)
  | counts (outcome : Outcome (List Int))
  | rows (outcome : Outcome ResultSet)
  /-- Whether there was something to cancel. -/
  | flag (value : Bool)
  | nothing

/-- What is noted about a request. -/
structure Note (μ : Type) where
  request : Request μ
  before : Session
  answer : Answer
  /-- What passed between the session and the services. -/
  events : List Event
  after : Session

/-- A session with its surroundings. -/
structure Holding (σ : Type) where
  session : Session
  scene : Scene σ

variable {σ μ : Type}

/-- Carries out a request. -/
def perform (services : Services σ μ) (request : Request μ) (h : Holding σ) :
    Note μ × Holding σ :=
  let note (answer : Answer) (events : List Event) (session : Session) (scene : Scene σ) :=
    ((⟨request, h.session, answer, events, session⟩, ⟨session, scene⟩) : Note μ × Holding σ)
  match request with
  | .execute sql schedule =>
    let (reply, session, frame) := h.session.execute h.scene.frame sql
    let c := reply.course services schedule { h.scene with frame }
    note (.statement c.outcome) c.events session c.aftermath
  | .startBatch =>
    match h.session.startBatch with
    | .ok session => note (.plain (.ok ())) [] session h.scene
    | .error e => note (.plain (.error e)) [] h.session h.scene
  | .runBatch schedule =>
    let (reply, session) := h.session.runBatch
    let c := reply.course services schedule h.scene
    note (.counts c.outcome) c.events session c.aftermath
  | .abortBatch =>
    let (result, session) := h.session.abortBatch
    note (.plain result) [] session h.scene
  | .query sql options schedule =>
    let c := (h.session.query sql options).course services schedule h.scene
    note (.rows c.outcome) c.events h.session c.aftermath
  | .metadataQuery sql schedule =>
    let c := (h.session.metadataQuery sql).course services schedule h.scene
    note (.rows c.outcome) c.events h.session c.aftermath
  | .cancel =>
    let (stopped, frame) := h.scene.frame.cancel
    note (.flag stopped) [] h.session { h.scene with frame }
  | .setTimeout timeout =>
    note .nothing [] h.session { h.scene with frame := h.scene.frame.setTimeout timeout }
  | .meanwhile happening =>
    -- no statement of the session is running, so no ticket in use is its own
    note .nothing [] h.session (h.scene.after services h.scene.frame.nextTicket happening)

/-- Carries out requests one after the other. -/
def play (services : Services σ μ) : List (Request μ) → Holding σ → List (Note μ) × Holding σ
  | [], h => ([], h)
  | request :: requests, h =>
    let (note, h) := perform services request h
    let (notes, h) := play services requests h
    (note :: notes, h)

theorem play_cons (services : Services σ μ) (request : Request μ) (requests : List (Request μ))
    (h : Holding σ) :
    play services (request :: requests) h
      = ((perform services request h).1 ::
          (play services requests (perform services request h).2).1,
        (play services requests (perform services request h).2).2) := rfl

theorem perform_request (services : Services σ μ) (request : Request μ) (h : Holding σ) :
    (perform services request h).1.request = request := by
  cases request <;> (simp only [perform]; try rfl)
  split <;> rfl

theorem perform_before (services : Services σ μ) (request : Request μ) (h : Holding σ) :
    (perform services request h).1.before = h.session := by
  cases request <;> (simp only [perform]; try rfl)
  split <;> rfl

theorem perform_after (services : Services σ μ) (request : Request μ) (h : Holding σ) :
    (perform services request h).1.after = (perform services request h).2.session := by
  cases request <;> (simp only [perform]; try rfl)
  split <;> rfl

/-- The notes of a history are about its requests, in order. -/
theorem play_requests (services : Services σ μ) (requests : List (Request μ)) (h : Holding σ) :
    (play services requests h).1.map Note.request = requests := by
  induction requests generalizing h with
  | nil => rfl
  | cons request requests ih =>
    rw [play_cons, List.map_cons, perform_request]
    exact congrArg _ (ih _)

/-! ## What one request does -/

/-- A session holds a batch only as long as it takes statements. -/
def Settled (s : Session) : Prop := ∀ b, s.batch = some b → b.state = .started

/-- The statements of the open batch. -/
def buffer (s : Session) : Option (List Text) := s.batch.map Batch.statements

/-- **The session does what is demanded of it**: its reply sends what the reference sends, and it is left
with the buffer that the reference keeps. -/
structure Does {α : Type} (s : Session) (d : Demand) (reply : Reply α) (s' : Session) : Prop where
  settled : s'.Settled
  kept : (d.effect s.buffer).1 = s'.buffer
  sent : reply.Submits (d.effect s.buffer).2

variable {α β : Type} {s s' : Session}

theorem Does.map {d : Demand} {reply : Reply α} (h : s.Does d reply s') (f : α → β) :
    s.Does d (reply.map f) s' := ⟨h.settled, h.kept, h.sent.map f⟩

/-- A reply that sends nothing does what is demanded, if that is nothing. -/
theorem does_other (hs : s.Settled) {reply : Reply α} (h : reply.Submits []) :
    s.Does .other reply s := by
  refine ⟨hs, ?_, ?_⟩
  · cases s.buffer <;> rfl
  · cases s.buffer <;> exact h

/-- A batch is opened if none is open; either way nothing is sent, whatever is replied. -/
theorem startBatch_does (hs : s.Settled) :
    (∃ s', s.startBatch = .ok s' ∧
      ∀ result : Except SessionError α, s.Does .start (.answered result) s') ∨
    ∃ e, s.startBatch = .error e ∧
      ∀ result : Except SessionError α, s.Does .start (.answered result) s := by
  obtain ⟨options, batch⟩ := s
  cases batch with
  | none =>
    refine .inl ⟨⟨options, some Batch.fresh⟩, rfl, fun result => ⟨?_, rfl, rfl⟩⟩
    rintro b ⟨⟩
    rfl
  | some b => exact .inr ⟨_, rfl, fun result => ⟨hs, rfl, rfl⟩⟩

theorem runBatch_does (hs : s.Settled) : s.Does .run s.runBatch.1 s.runBatch.2 := by
  obtain ⟨options, batch⟩ := s
  cases batch with
  | none => exact ⟨hs, rfl, rfl⟩
  | some b => exact ⟨nofun, rfl, Batch.submits_run (hs b rfl)⟩

theorem abortBatch_does (hs : s.Settled) (result : Except SessionError α) :
    s.Does .abort (.answered result) s.abortBatch.2 := by
  obtain ⟨options, batch⟩ := s
  cases batch with
  | none => exact ⟨hs, rfl, rfl⟩
  | some b => exact ⟨nofun, rfl, rfl⟩

theorem change_does (hs : s.Settled) {statement : Sql.Statement}
    (hchange : statement.isSchemaChange = true) :
    s.Does (.change statement.text) (s.change statement).1 (s.change statement).2 := by
  obtain ⟨options, batch⟩ := s
  cases batch with
  | some b =>
    have hb := hs b rfl
    simp only [change, Batch.add_of_started hb hchange]
    refine ⟨?_, rfl, rfl⟩
    rintro b' ⟨⟩
    exact hb
  | none =>
    -- the batch of one is run at once and never held
    have hfresh : Batch.fresh.state = .started := rfl
    simp only [change, Batch.add_of_started hfresh hchange]
    have hone : (⟨[statement.text], .started⟩ : Batch).state = .started := rfl
    exact ⟨nofun, rfl, (Batch.submits_run hone).map _⟩

theorem submits_routeQuery (s : Session) (statement : Sql.Statement)
    (options : List QueryOption) : (s.routeQuery statement options).Submits [] := by
  unfold routeQuery
  split
  · exact Batch.submits_query _ _ _
  · exact Reply.submits_of_quiet (Batch.quiet_runQuery _ _)

theorem submits_query (s : Session) (sql : Text) (options : List QueryOption) :
    (s.query sql options).Submits [] := by
  unfold query
  split
  · rfl
  · split
    · exact s.submits_routeQuery _ _
    · rfl

/-- **A statement does what it demands.** -/
theorem route_does (hs : s.Settled) (f : Frame) (statement : Sql.Statement) :
    s.Does (Demand.ofStatement statement) (s.route f statement).1 (s.route f statement).2.1 := by
  obtain ⟨source, text, category⟩ := statement
  cases category with
  | schemaChange => exact change_does hs rfl
  | query => exact does_other hs ((s.submits_routeQuery _ _).map _)
  | update => exact does_other hs rfl
  | unknown => exact does_other hs rfl
  | command command =>
    cases command with
    | startBatch =>
      rcases startBatch_does hs with ⟨s', hstart, hdoes⟩ | ⟨e, hstart, hdoes⟩
      · simp only [route, carryOut, hstart]
        exact hdoes _
      · simp only [route, carryOut, hstart]
        exact hdoes _
    | runBatch => exact (runBatch_does hs).map _
    | abortBatch => exact abortBatch_does hs _
    | setTimeout timeout => exact does_other hs rfl

/-- **So does every text.** -/
theorem execute_does (hs : s.Settled) (f : Frame) (sql : Text) :
    s.Does (Demand.ofSql sql) (s.execute f sql).1 (s.execute f sql).2.1 := by
  unfold execute readStatement Demand.ofSql
  cases Sql.Statement.parse sql with
  | error fault => exact does_other hs rfl
  | ok statement => exact route_does hs f statement

/-- What is done is what the reference has. -/
theorem Does.effect {d : Demand} {reply : Reply α} (h : s.Does d reply s') (services : Services σ μ)
    (schedule : List (Happening μ)) (scene : Scene σ) :
    s'.Settled ∧
      d.effect s.buffer = (s'.buffer, submissions (reply.course services schedule scene).events) :=
  ⟨h.settled, Prod.ext h.kept (h.sent.course services schedule scene).symm⟩

/-- **Every request does what it demands**, under every schedule: what passes between the session and the
services, and what the session holds afterwards, is what the reference says. -/
theorem perform_effect (services : Services σ μ) (request : Request μ) {h : Holding σ}
    (hs : h.session.Settled) :
    (perform services request h).2.session.Settled ∧
      request.demand.effect h.session.buffer = ((perform services request h).2.session.buffer,
        submissions (perform services request h).1.events) := by
  cases request with
  | execute sql schedule => exact (execute_does hs h.scene.frame sql).effect services schedule _
  | startBatch =>
    rcases startBatch_does hs with ⟨s', hstart, hdoes⟩ | ⟨e, hstart, hdoes⟩
    · simp only [perform, hstart]
      exact (hdoes (.ok ())).effect services [] h.scene
    · simp only [perform, hstart]
      exact (hdoes (.error e : Except SessionError Unit)).effect services [] h.scene
  | runBatch schedule => exact (runBatch_does hs).effect services schedule h.scene
  | abortBatch => exact (abortBatch_does hs (.ok ())).effect services [] h.scene
  | query sql options schedule =>
    exact (does_other hs (h.session.submits_query sql options)).effect services schedule h.scene
  | metadataQuery sql schedule =>
    exact (does_other hs (h.session.submits_query sql _)).effect services schedule h.scene
  | cancel => exact ⟨hs, rfl⟩
  | setTimeout timeout => exact ⟨hs, rfl⟩
  | meanwhile happening => exact ⟨hs, rfl⟩

/-! ## Histories do what is demanded -/

/-- A request that did what it demands, between sessions that hold a batch only as long as it takes
statements. -/
structure Note.Lawful (n : Note μ) : Prop where
  before : n.before.Settled
  after : n.after.Settled
  effect : n.request.demand.effect n.before.buffer = (n.after.buffer, submissions n.events)

theorem perform_lawful (services : Services σ μ) (request : Request μ) {h : Holding σ}
    (hs : h.session.Settled) : (perform services request h).1.Lawful := by
  obtain ⟨hafter, heffect⟩ := perform_effect services request hs
  constructor
  · rw [perform_before]
    exact hs
  · rw [perform_after]
    exact hafter
  · rw [perform_request, perform_before, perform_after]
    exact heffect

theorem play_lawful (services : Services σ μ) (requests : List (Request μ)) {h : Holding σ}
    (hs : h.session.Settled) : ∀ n ∈ (play services requests h).1, n.Lawful := by
  induction requests generalizing h with
  | nil =>
    intro n hn
    cases hn
  | cons request requests ih =>
    intro n hn
    rw [play_cons] at hn
    rcases List.mem_cons.mp hn with rfl | hn
    · exact perform_lawful services request hs
    · exact ih (perform_effect services request hs).1 n hn

/-- **A history does what the reference does.** -/
theorem play_replay (services : Services σ μ) (requests : List (Request μ)) {h : Holding σ}
    (hs : h.session.Settled) :
    replay (requests.map Request.demand) h.session.buffer =
      ((play services requests h).2.session.buffer,
        submissions ((play services requests h).1.flatMap Note.events)) := by
  induction requests generalizing h with
  | nil => rfl
  | cons request requests ih =>
    obtain ⟨hafter, heffect⟩ := perform_effect services request hs
    rw [List.map_cons, replay_cons, heffect, play_cons, List.flatMap_cons, submissions_append]
    dsimp only
    rw [ih hafter]

theorem Settled.isBatchActive_eq (hs : s.Settled) : s.isBatchActive = s.batch.isSome := by
  unfold isBatchActive
  cases hb : s.batch with
  | none => rfl
  | some b => exact Batch.isActive_iff.mpr (hs b hb)

/-- After a run or an abort a batch can be opened, since none is held. -/
theorem Note.Lawful.startable {n : Note μ} (h : n.Lawful) (hends : n.request.demand.Ends) :
    ∃ s, n.after.startBatch = .ok s ∧ s.isBatchActive = true := by
  have hbuffer : n.after.buffer = none := by
    have hended : (n.request.demand.effect n.before.buffer).1 = none :=
      Demand.effect_of_ends hends
    rwa [h.effect] at hended
  have hnone : n.after.batch = none := Option.map_eq_none_iff.mp hbuffer
  refine ⟨{ n.after with batch := some Batch.fresh }, ?_, rfl⟩
  rw [startBatch, hnone]

/-- While a batch is open nothing is sent but by its run. -/
theorem Note.Lawful.silent {n : Note μ} (h : n.Lawful) (hactive : n.before.isBatchActive = true)
    (hrun : n.request.demand ≠ .run) : submissions n.events = [] := by
  rw [h.before.isBatchActive_eq, Option.isSome_iff_exists] at hactive
  obtain ⟨b, hb⟩ := hactive
  have hsilent := Demand.effect_silent hrun b.statements
  have heffect := h.effect
  rw [buffer, hb, Option.map_some] at heffect
  rw [heffect] at hsilent
  exact hsilent

/-- **What is said of a history**: of its notes, and of the session that it leads to. -/
structure Faithful (requests : List (Request μ)) (notes : List (Note μ)) (last : Session) :
    Prop where
  /-- There is a note for every request. -/
  noted : notes.map Note.request = requests
  /-- After each of them no batch is held, or one that takes statements. -/
  settled : ∀ n ∈ notes, n.after.batch = none ∨
    ∃ b, n.after.batch = some b ∧ b.state = .started
  /-- So a batch is active just when one is held. -/
  active : ∀ n ∈ notes, n.after.isBatchActive = n.after.batch.isSome
  /-- After a run or an abort, whatever came of it, a batch can be started. -/
  startable : ∀ n ∈ notes, n.request.demand.Ends →
    ∃ s, n.after.startBatch = .ok s ∧ s.isBatchActive = true
  /-- The services get what the reference sends, and nothing else. -/
  submitted : submissions (notes.flatMap Note.events)
    = (replay (requests.map Request.demand) none).2
  /-- The open batch has the statements that the reference keeps. -/
  buffered : last.buffer = (replay (requests.map Request.demand) none).1
  /-- Nothing is sent while a batch is open, but by its run. -/
  silent : ∀ n ∈ notes, n.before.isBatchActive = true → n.request.demand ≠ .run →
    submissions n.events = []
  /-- A run or an abort leaves nothing behind: after it the services get what a session sends that begins
  then. -/
  afresh : ∀ earlier ending later, requests = earlier ++ ending :: later → ending.demand.Ends →
    submissions (notes.flatMap Note.events)
      = (replay ((earlier ++ [ending]).map Request.demand) none).2 ++
        (replay (later.map Request.demand) none).2
  /-- What was added to a batch that is aborted is never sent: the services get what is sent before the
  batch is opened, and after it is aborted. -/
  aborted : ∀ earlier start between abort later,
    requests = earlier ++ start :: (between ++ abort :: later) →
    (replay (earlier.map Request.demand) none).1 = none → start.demand = .start →
    (∀ request ∈ between, ¬ request.demand.Ends) → abort.demand = .abort →
    submissions (notes.flatMap Note.events) = (replay (earlier.map Request.demand) none).2 ++
      (replay (later.map Request.demand) none).2
  /-- Nothing is sent twice: with what the open batch has, it is a part of what was demanded. -/
  once : ((submissions (notes.flatMap Note.events)).flatten ++ last.buffer.getD []).Sublist
    (requests.filterMap fun request => request.demand.change?)

/-- **Every history is faithful**, whatever the services do and whatever others do at whatever time. -/
theorem play_faithful (services : Services σ μ) (options : Options) (scene : Scene σ)
    (requests : List (Request μ)) :
    let result := play services requests ⟨⟨options, none⟩, scene⟩
    Faithful requests result.1 result.2.session := by
  intro result
  have hs : (⟨options, none⟩ : Session).Settled := by
    rintro b ⟨⟩
  have hlawful : ∀ n ∈ result.1, n.Lawful := play_lawful services requests hs
  have hreplay : replay (requests.map Request.demand) none =
      (result.2.session.buffer, submissions (result.1.flatMap Note.events)) :=
    play_replay (h := ⟨⟨options, none⟩, scene⟩) services requests hs
  refine
    { noted := play_requests services requests _
      settled := ?settled
      active := fun n hn => (hlawful n hn).after.isBatchActive_eq
      startable := fun n hn hends => (hlawful n hn).startable hends
      submitted := by rw [hreplay]
      buffered := by rw [hreplay]
      silent := fun n hn hactive hrun => (hlawful n hn).silent hactive hrun
      afresh := ?afresh
      aborted := ?aborted
      once := ?once }
  case settled =>
    intro n hn
    cases hb : n.after.batch with
    | none => exact .inl rfl
    | some b => exact .inr ⟨b, rfl, (hlawful n hn).after b hb⟩
  case afresh =>
    rintro earlier ending later rfl hends
    have hsent := (congrArg Prod.snd hreplay).symm
    rw [List.map_append, List.map_cons, replay_afresh hends] at hsent
    rw [List.map_append]
    exact hsent
  case aborted =>
    rintro earlier start between abort later rfl hnone hstart hopen habort
    have hdemands : ∀ d ∈ between.map Request.demand, ¬ d.Ends := by
      intro d hd
      obtain ⟨request, hrequest, rfl⟩ := List.mem_map.mp hd
      exact hopen request hrequest
    have hsent := (congrArg Prod.snd hreplay).symm
    rw [List.map_append, List.map_cons, List.map_append, List.map_cons, hstart, habort,
      replay_aborted hnone hdemands] at hsent
    exact hsent
  case once =>
    have honce : ((replay (requests.map Request.demand) none).2.flatten ++
        (replay (requests.map Request.demand) none).1.getD []).Sublist
          ((requests.map Request.demand).filterMap Demand.change?) := replay_once _
    rw [hreplay, List.filterMap_map] at honce
    exact honce

end Session
end SchemaBatch
