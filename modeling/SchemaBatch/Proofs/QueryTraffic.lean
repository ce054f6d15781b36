import SchemaBatch.Proofs.SessionHistory

/-!
# `Proofs.QueryTraffic` — the queries that reach the data service

While a batch is open no query of a user is to reach the data service, only those with which the library
inspects the metadata of the database. Their mark is for the library alone and is never sent.

* `queries`, `Reply.Asks` — the queries among the events, and those that a reply sends in any case.
* `Batch.Admits` — what a batch lets through; `Batch.admitQuery_of_admits`, `Batch.admitQuery_of_not_admits`.
* `Session.sends` — what a session makes of a query; `Session.perform_queries`, **every request sends
  this and nothing else**.
* `query_traffic` — **only admitted queries reach the data service, and never with the mark**.
-/

namespace SchemaBatch

/-! ## The queries among the events -/

/-- The query that a call sends. -/
def Event.query? : Event → Option RecordedQuery
  | .made (.query sql options) => some ⟨sql, options⟩
  | _ => none

/-- The queries that are sent in the course of some events. -/
def queries (events : List Event) : List RecordedQuery := events.filterMap Event.query?

theorem queries_eq_nil {l : List Event} (h : ∀ sql options, .made (.query sql options) ∉ l) :
    queries l = [] := by
  refine List.filterMap_eq_nil_iff.mpr fun event hmem => ?_
  cases event with
  | made c =>
    cases c with
    | query sql options => exact absurd hmem (h sql options)
    | _ => rfl
  | _ => rfl

namespace Reply

variable {α β : Type}

/-- Whatever becomes of a reply, it sends these queries. -/
def Asks (sent : List RecordedQuery) (reply : Reply α) : Prop :=
  reply.Always fun l => queries l = sent

theorem asks_answered (result : Except SessionError α) : (answered result).Asks [] := rfl

theorem asks_of_callsOnly {label : Text} {activity : Activity (Except SessionError α)}
    (h : activity.CallsOnly fun c => ∀ sql options, c ≠ .query sql options) :
    (running label activity).Asks [] := by
  intro l a hway
  refine queries_eq_nil fun sql options hmem => ?_
  exact h.of_made hway hmem sql options rfl

end Reply

/-- A query is sent at once, and once only. -/
theorem queries_runQuery {sql : Text} {options : List QueryOption} {l : List Event}
    {a : Activity (Except SessionError ResultSet)} (h : (runQuery sql options).Reaches l a) :
    queries ((runQuery sql options).arrival ++ l) = [⟨sql, options⟩] := by
  cases h with
  | refl => rfl
  | answer x h =>
    cases h with
    | refl => rfl

/-- The run of statements makes no queries. -/
theorem runStatements_callsOnly (statements : List Text) :
    (runStatements statements).CallsOnly fun c => ∀ sql options, c ≠ .query sql options := by
  refine ⟨nofun, fun submitted => ?_⟩
  cases submitted with
  | error failure => trivial
  | ok operation =>
    refine ⟨nofun, fun waited => ?_, nofun, fun _ => trivial⟩
    cases waited with
    | ok => exact ⟨nofun, fun _ => trivial⟩
    | error failure => exact ⟨nofun, fun _ => trivial⟩

/-! ## What a batch lets through -/

theorem QueryOption.any_isProbe_iff {options : List QueryOption} :
    options.any QueryOption.isProbe = true ↔ .metadataProbe ∈ options := by
  induction options with
  | nil => simp
  | cons option options ih => cases option <;> simp [QueryOption.isProbe, ih]

theorem QueryOption.forwarded_eq (options : List QueryOption) :
    QueryOption.forwarded options = options.filter (· ≠ .metadataProbe) := by
  refine List.filter_congr fun option _ => ?_
  cases option <;> rfl

namespace Batch

/-- **What a batch lets through**: queries with the mark, as long as they are only to be run. -/
def Admits (statement : Sql.Statement) (analysis : Analysis) (options : List QueryOption) : Prop :=
  .metadataProbe ∈ options ∧ statement.isQuery = true ∧ analysis = .none

/-- A query as it is sent: its text, and its options in their order and without the mark. -/
def forwarded (statement : Sql.Statement) (options : List QueryOption) : RecordedQuery :=
  ⟨statement.text, options.filter (· ≠ .metadataProbe)⟩

variable {statement : Sql.Statement} {analysis : Analysis} {options : List QueryOption}

theorem admitQuery_of_admits (h : Admits statement analysis options) :
    admitQuery statement analysis options = .ok (forwarded statement options).options := by
  obtain ⟨hprobe, hquery, rfl⟩ := h
  rw [admitQuery, QueryOption.any_isProbe_iff.mpr hprobe, hquery, QueryOption.forwarded_eq]
  rfl

theorem admitQuery_of_not_admits (h : ¬ Admits statement analysis options) :
    ∃ e, admitQuery statement analysis options = .error e := by
  unfold admitQuery
  split
  · exact ⟨_, rfl⟩
  · split
    · exact ⟨_, rfl⟩
    · split
      · exact ⟨_, rfl⟩
      · -- all three guards are passed
        rename_i hprobe hquery hanalysis
        refine absurd ⟨?_, ?_, ?_⟩ h
        · exact QueryOption.any_isProbe_iff.mp (by simpa using hprobe)
        · simpa using hquery
        · simpa using hanalysis

theorem query_of_admits (h : Admits statement analysis options) :
    query statement analysis options
      = .running statement.text (runQuery statement.text (forwarded statement options).options) := by
  rw [query, admitQuery_of_admits h]

theorem query_of_not_admits (h : ¬ Admits statement analysis options) :
    ∃ e, query statement analysis options = .answered (.error e) := by
  obtain ⟨e, he⟩ := admitQuery_of_not_admits h
  exact ⟨e, by rw [query, he]⟩

theorem asks_runQuery (statement : Sql.Statement) (options : List QueryOption) :
    (Reply.running statement.text
      (runQuery statement.text (forwarded statement options).options)).Asks
        [forwarded statement options] :=
  fun _ _ hway => queries_runQuery hway

/-- A run asks nothing of the data service. -/
theorem asks_run (b : Batch) : b.run.1.Asks [] := by
  unfold run
  split
  · exact Reply.asks_answered _
  · split
    · exact Reply.asks_answered _
    · exact (Reply.asks_of_callsOnly (runStatements_callsOnly _)).map _

/-- In the background the same queries are let through, if there is a place to run. -/
theorem queryInBackground_eq_ok_iff {canSpawn : Bool}
    {activity : Activity (Except SessionError ResultSet)} :
    queryInBackground statement analysis options canSpawn = .ok activity ↔
      (Admits statement analysis options ∧ canSpawn = true) ∧
        activity = runQuery statement.text (forwarded statement options).options := by
  by_cases h : Admits statement analysis options
  · rw [queryInBackground, admitQuery_of_admits h]
    cases canSpawn with
    | true => simp [h, eq_comm]
    | false => simp
  · obtain ⟨e, he⟩ := admitQuery_of_not_admits h
    rw [queryInBackground, he]
    simp [h]

theorem queryInBackground_of_not_admits (h : ¬ Admits statement analysis options) (canSpawn : Bool) :
    ∃ e, queryInBackground statement analysis options canSpawn = .error e := by
  obtain ⟨e, he⟩ := admitQuery_of_not_admits h
  exact ⟨e, by rw [queryInBackground, he]⟩

/-- **What becomes of a query in a batch**, in whatever state the batch is. -/
structure Guards {σ μ : Type} (services : Services σ μ) (h : Holding σ) (statement : Sql.Statement)
    (analysis : Analysis) (options : List QueryOption) : Prop where
  /-- The data service is contacted just when the query is let through, whatever happens meanwhile. -/
  contacts : ∀ schedule,
    queries (h.perform services (.query statement analysis options schedule)).1.events ≠ [] ↔
      Admits statement analysis options
  /-- Then it gets this query. -/
  forwards : Admits statement analysis options → ∀ schedule,
    queries (h.perform services (.query statement analysis options schedule)).1.events
      = [forwarded statement options]
  /-- Otherwise there is an error at once, nothing passes between the batch and the services, and
  everything stays as it was. -/
  refuses : ¬ Admits statement analysis options → ∀ schedule, ∃ e,
    h.perform services (.query statement analysis options schedule)
      = (⟨.query statement analysis options schedule, h.batch, .rows (.ended (.error e)), [],
          h.batch⟩, h)
  /-- In the background the same is let through. -/
  starts : ∀ canSpawn, (∃ activity, (h.perform services
      (.queryInBackground statement analysis options canSpawn)).1.answer = .background (.ok activity)) ↔
    Admits statement analysis options ∧ canSpawn = true
  /-- What runs there sends this query, however far it gets. -/
  forwardsInBackground : ∀ canSpawn activity, (h.perform services
      (.queryInBackground statement analysis options canSpawn)).1.answer = .background (.ok activity) →
    ∀ l a, activity.Reaches l a → queries (activity.arrival ++ l) = [forwarded statement options]
  /-- Otherwise there is an error, and nothing to run. -/
  refusesInBackground : ¬ Admits statement analysis options → ∀ canSpawn, ∃ e,
    (h.perform services (.queryInBackground statement analysis options canSpawn)).1.answer
      = .background (.error e)
  /-- Either way nothing is sent before it runs. -/
  quiet : ∀ canSpawn,
    (h.perform services (.queryInBackground statement analysis options canSpawn)).1.events = [] ∧
    (h.perform services (.queryInBackground statement analysis options canSpawn)).2 = h

/-- **A batch guards the data service.** -/
theorem guards {σ μ : Type} (services : Services σ μ) (h : Holding σ) (statement : Sql.Statement)
    (analysis : Analysis) (options : List QueryOption) :
    Guards services h statement analysis options := by
  have hforwards : Admits statement analysis options → ∀ schedule,
      queries (h.perform services (.query statement analysis options schedule)).1.events
        = [forwarded statement options] := by
    intro hadmits schedule
    simp only [Holding.perform, query_of_admits hadmits]
    exact (asks_runQuery statement options).course services schedule h.scene
  have hrefuses : ¬ Admits statement analysis options → ∀ schedule, ∃ e,
      h.perform services (.query statement analysis options schedule)
        = (⟨.query statement analysis options schedule, h.batch, .rows (.ended (.error e)), [],
            h.batch⟩, h) := by
    intro hnot schedule
    obtain ⟨e, he⟩ := query_of_not_admits hnot
    exact ⟨e, by simp only [Holding.perform, he]; rfl⟩
  refine
    { contacts := ?contacts
      forwards := hforwards
      refuses := hrefuses
      starts := ?starts
      forwardsInBackground := ?forwardsInBackground
      refusesInBackground := ?refusesInBackground
      quiet := fun canSpawn => ⟨rfl, rfl⟩ }
  case contacts =>
    intro schedule
    by_cases hadmits : Admits statement analysis options
    · simp [hforwards hadmits, hadmits]
    · obtain ⟨e, he⟩ := hrefuses hadmits schedule
      simp [he, hadmits, queries]
  case starts =>
    intro canSpawn
    simp [Holding.perform, queryInBackground_eq_ok_iff]
  case forwardsInBackground =>
    intro canSpawn activity hactivity l a hway
    obtain ⟨_, rfl⟩ := queryInBackground_eq_ok_iff.mp (Answer.background.inj hactivity)
    exact queries_runQuery hway
  case refusesInBackground =>
    intro hnot canSpawn
    obtain ⟨e, he⟩ := queryInBackground_of_not_admits hnot canSpawn
    exact ⟨e, congrArg Answer.background he⟩

end Batch
/-! ## What a session makes of a query -/

/-- The text of a statement is what it was read from, without comments. -/
theorem Sql.Statement.strip_of_parse {sql : Text} {statement : Sql.Statement}
    (h : Sql.Statement.parse sql = .ok statement) : Sql.strip sql = some statement.text := by
  unfold parse at h
  split at h
  · cases h
  · rename_i stripped hstrip
    unfold ofStripped at h
    split at h <;> cases h
    all_goals exact hstrip

namespace Session

/-- The queries that a session sends when it is asked one with options. An open batch lets only those with
the mark through. -/
def sends (s : Session) (sql : Text) (options : List QueryOption) : List RecordedQuery :=
  match Sql.Statement.parse sql with
  | .error _ => []
  | .ok statement =>
    if statement.isQuery = true ∧ (s.batch = none ∨ .metadataProbe ∈ options) then
      [Batch.forwarded statement options]
    else []

/-- The text and the options of a query that a request may be. -/
def Request.question? {μ : Type} : Request μ → Option (Text × List QueryOption)
  | .execute sql _ => some (sql, [])
  | .query sql options _ => some (sql, options)
  | .metadataQuery sql _ => some (sql, [.metadataProbe])
  | _ => none

variable {s : Session} {sql : Text} {statement : Sql.Statement} {options : List QueryOption}

theorem sends_of_query (hparse : Sql.Statement.parse sql = .ok statement)
    (hquery : statement.isQuery = true) :
    s.sends sql options = if s.batch = none ∨ .metadataProbe ∈ options then
      [Batch.forwarded statement options] else [] := by
  simp [sends, hparse, hquery]

theorem sends_of_not_query (hparse : Sql.Statement.parse sql = .ok statement)
    (hnot : statement.isQuery = false) : s.sends sql options = [] := by
  simp [sends, hparse, hnot]

theorem sends_of_fault {fault : Sql.Fault} (hparse : Sql.Statement.parse sql = .error fault) :
    s.sends sql options = [] := by
  rw [sends, hparse]

theorem routeQuery_asks (hparse : Sql.Statement.parse sql = .ok statement)
    (hquery : statement.isQuery = true) :
    (s.routeQuery statement options).Asks (s.sends sql options) := by
  rw [sends_of_query hparse hquery]
  cases hbatch : s.batch with
  | none =>
    rw [routeQuery, hbatch, QueryOption.forwarded_eq, if_pos (.inl rfl)]
    exact Batch.asks_runQuery statement options
  | some b =>
    rw [routeQuery, hbatch]
    by_cases hprobe : .metadataProbe ∈ options
    · have hadmits : Batch.Admits statement .none options := ⟨hprobe, hquery, rfl⟩
      rw [if_pos (.inr hprobe)]
      dsimp only
      rw [Batch.query_of_admits hadmits]
      exact Batch.asks_runQuery statement options
    · have hnot : ¬ Batch.Admits statement .none options := fun h => hprobe h.1
      obtain ⟨e, he⟩ := Batch.query_of_not_admits hnot
      rw [if_neg (by simp [hprobe])]
      dsimp only
      rw [he]
      exact Reply.asks_answered _

theorem query_asks : (s.query sql options).Asks (s.sends sql options) := by
  unfold query readStatement
  cases hparse : Sql.Statement.parse sql with
  | error fault =>
    rw [sends_of_fault hparse]
    exact Reply.asks_answered _
  | ok statement =>
    show (if statement.isQuery = true then _ else _ : Reply ResultSet).Asks _
    by_cases hquery : statement.isQuery = true
    · rw [if_pos hquery]
      exact routeQuery_asks hparse hquery
    · rw [if_neg hquery, sends_of_not_query hparse (by simpa using hquery)]
      exact Reply.asks_answered _

theorem change_asks (s : Session) (statement : Sql.Statement) : (s.change statement).1.Asks [] := by
  unfold change
  split
  · split <;> exact Reply.asks_answered _
  · split
    · exact Reply.asks_answered _
    · exact (Batch.asks_run _).map _

theorem runBatch_asks (s : Session) : s.runBatch.1.Asks [] := by
  unfold runBatch
  split
  · exact Reply.asks_answered _
  · exact Batch.asks_run _

theorem carryOut_asks (s : Session) (f : Frame) (command : Sql.Command) :
    (s.carryOut f command).1.Asks [] := by
  cases command with
  | startBatch =>
    unfold carryOut
    dsimp only
    split <;> exact Reply.asks_answered _
  | runBatch => exact s.runBatch_asks.map _
  | abortBatch => exact Reply.asks_answered _
  | setTimeout timeout => exact Reply.asks_answered _

theorem route_asks (hparse : Sql.Statement.parse sql = .ok statement) (f : Frame) :
    (s.route f statement).1.Asks (s.sends sql []) := by
  by_cases hquery : statement.category = .query
  · have hasks : (s.routeQuery statement []).Asks (s.sends sql []) :=
      routeQuery_asks hparse (beq_iff_eq.mpr hquery)
    rw [route, hquery]
    exact hasks.map _
  · -- what is no query sends none
    rw [sends_of_not_query hparse (beq_eq_false_iff_ne.mpr hquery)]
    unfold route
    split
    · exact s.carryOut_asks f _
    · exact s.change_asks statement
    · contradiction
    · exact Reply.asks_answered _
    · exact Reply.asks_answered _

/-- A statement of any kind is executed without options. -/
theorem execute_asks (f : Frame) : (s.execute f sql).1.Asks (s.sends sql []) := by
  unfold execute readStatement
  cases hparse : Sql.Statement.parse sql with
  | error fault =>
    rw [sends_of_fault hparse]
    exact Reply.asks_answered _
  | ok statement => exact route_asks hparse f

variable {σ μ : Type}

/-- **Every request sends what the session makes of its query**, and no other query, whatever happens
meanwhile. -/
theorem perform_queries (services : Services σ μ) (request : Request μ) (h : Holding σ) :
    queries (perform services request h).1.events
      = match request.question? with
        | some (sql, options) => h.session.sends sql options
        | none => [] := by
  cases request with
  | execute sql schedule => exact (execute_asks h.scene.frame).course services schedule _
  | startBatch =>
    simp only [perform]
    split <;> rfl
  | runBatch schedule => exact h.session.runBatch_asks.course services schedule h.scene
  | abortBatch => rfl
  | query sql options schedule => exact query_asks.course services schedule h.scene
  | metadataQuery sql schedule => exact query_asks.course services schedule h.scene
  | cancel => rfl
  | setTimeout timeout => rfl
  | meanwhile happening => rfl

/-- What the session sends was asked for, and is let through. -/
theorem mem_sends {q : RecordedQuery} (hq : q ∈ s.sends sql options) :
    Sql.strip sql = some q.sql ∧ q.options = options.filter (· ≠ .metadataProbe) ∧
      (s.batch = none ∨ .metadataProbe ∈ options) := by
  unfold sends at hq
  split at hq
  · cases hq
  · rename_i statement hparse
    split at hq
    · rename_i hsent
      cases List.mem_singleton.mp hq
      exact ⟨Sql.Statement.strip_of_parse hparse, rfl, hsent.2⟩
    · cases hq

-- the mark opens the batch for the query, and stays behind
example : (⟨Options.standard, some .fresh⟩ : Session).sends "SELECT 1 -- one".toList
    [.metadataProbe, .prefetch 2, .metadataProbe] = [⟨"SELECT 1".toList, [.prefetch 2]⟩] := by decide

/-- **What is said of a request to a session**, and of the queries that it sends. -/
structure Forwards (s : Session) (request : Request μ) (events : List Event) : Prop where
  /-- A query that reaches the data service is the one of the request: its text without comments, and its
  options in their order and without the mark. -/
  carried : ∀ q ∈ queries events, ∃ sql options, request.question? = some (sql, options) ∧
    Sql.strip sql = some q.sql ∧ q.options = options.filter (· ≠ .metadataProbe)
  /-- So the mark is never sent. -/
  unmarked : ∀ q ∈ queries events, .metadataProbe ∉ q.options
  /-- While a batch is open, only requests with the mark get there. -/
  guarded : s.batch ≠ none → ∀ q ∈ queries events, ∃ sql options,
    request.question? = some (sql, options) ∧ .metadataProbe ∈ options
  /-- All others do, and all with the mark: once, if the text is a query. -/
  reached : ∀ sql options statement, request.question? = some (sql, options) →
    Sql.Statement.parse sql = .ok statement → statement.isQuery = true →
    s.batch = none ∨ .metadataProbe ∈ options →
    queries events = [⟨statement.text, options.filter (· ≠ .metadataProbe)⟩]

theorem perform_forwards (services : Services σ μ) (request : Request μ) (h : Holding σ) :
    Forwards h.session request (perform services request h).1.events := by
  have hqueries := perform_queries services request h
  -- a query that is sent is one of a request that is a question
  have hmem : ∀ q ∈ queries (perform services request h).1.events, ∃ sql options,
      request.question? = some (sql, options) ∧ q ∈ h.session.sends sql options := by
    intro q hq
    rw [hqueries] at hq
    cases hquestion : request.question? with
    | none =>
      rw [hquestion] at hq
      cases hq
    | some question =>
      rw [hquestion] at hq
      exact ⟨_, _, rfl, hq⟩
  refine { carried := ?carried, unmarked := ?unmarked, guarded := ?guarded, reached := ?reached }
  case carried =>
    intro q hq
    obtain ⟨sql, options, hquestion, hsent⟩ := hmem q hq
    obtain ⟨hsql, hoptions, _⟩ := mem_sends hsent
    exact ⟨sql, options, hquestion, hsql, hoptions⟩
  case unmarked =>
    intro q hq
    obtain ⟨sql, options, _, hsent⟩ := hmem q hq
    obtain ⟨_, hoptions, _⟩ := mem_sends hsent
    simp [hoptions]
  case guarded =>
    intro hopen q hq
    obtain ⟨sql, options, hquestion, hsent⟩ := hmem q hq
    obtain ⟨_, _, hpass⟩ := mem_sends hsent
    exact ⟨sql, options, hquestion, hpass.resolve_left hopen⟩
  case reached =>
    intro sql options statement hquestion hparse hquery hpass
    rw [hqueries, hquestion]
    dsimp only
    rw [sends_of_query hparse hquery, if_pos hpass]
    rfl

/-- **A metadata query is the same query** whatever the session holds. -/
theorem metadataQuery_eq (s s' : Session) (sql : Text) : s.metadataQuery sql = s'.metadataQuery sql := by
  have hroute : ∀ s : Session, ∀ statement : Sql.Statement, statement.isQuery = true →
      s.routeQuery statement [.metadataProbe] = .running statement.text (runQuery statement.text []) := by
    intro s statement hquery
    have hadmits : Batch.Admits statement .none [.metadataProbe] := ⟨by simp, hquery, rfl⟩
    unfold routeQuery
    split
    · exact Batch.query_of_admits hadmits
    · rfl
  unfold metadataQuery query
  cases readStatement sql with
  | error e => rfl
  | ok statement =>
    dsimp only
    split
    · rename_i hquery
      rw [hroute s statement hquery, hroute s' statement hquery]
    · rfl

end Session

/-! ## Only admitted queries reach the data service -/

/-- **Only admitted queries reach the data service, and never with the mark**: not from a batch, and not
from a session, whether or not it holds one. A metadata query is answered alike and sends the same with and
without a batch, and leaves the services and the frame alike. -/
theorem query_traffic {σ μ : Type} (services : Services σ μ) :
    (∀ (h : Holding σ) (statement : Sql.Statement) (analysis : Analysis) (options : List QueryOption),
      Batch.Guards services h statement analysis options) ∧
    (∀ (h : Session.Holding σ) (request : Session.Request μ),
      Session.Forwards h.session request (Session.perform services request h).1.events) ∧
    ∀ (s s' : Session) (scene : Scene σ) (sql : Text) (schedule : List (Happening μ)),
      let held := Session.perform services (.metadataQuery sql schedule) ⟨s, scene⟩
      let other := Session.perform services (.metadataQuery sql schedule) ⟨s', scene⟩
      held.1.answer = other.1.answer ∧ held.1.events = other.1.events ∧
        held.2.scene = other.2.scene := by
  refine ⟨Batch.guards services, fun h request => Session.perform_forwards services request h, ?_⟩
  intro s s' scene sql schedule
  simp only [Session.perform, Session.metadataQuery_eq s s' sql, and_self]

end SchemaBatch
