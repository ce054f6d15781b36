import Mathlib.Data.List.Forall2
import SchemaBatch.Script
import SchemaBatch.Proofs.SessionHistory

/-!
# `Proofs.ScriptPreparation` — what it takes to run a script

A script is taken piece by piece, each time by a session that goes on from the last one. What comes of it
can be told from the statements of the script alone: the pieces that were taken leave a session with their
schema changes in one open batch, in a frame in which nothing runs and whose timeout is the last that was
set.

* `Script.Runnable` — the options are valid, and the script is one of statements that it may hold.
* `Preparation.having` — a session that has taken statements; `Preparation.take_of_admits`,
  `Preparation.take_of_not_admits`, **one piece**, and `Preparation.takeAll_eq_ok_iff`, all of them.
* `Script.prepare_eq_ok_iff` — **a script is taken exactly if it is runnable**.
* `Script.classify_eq_ok_iff` — the list of its statements is made under the same conditions, apart from
  what the statements are for.
-/

namespace SchemaBatch

theorem readStatement_eq_ok_iff {sql : Text} {statement : Sql.Statement} :
    readStatement sql = .ok statement ↔ Sql.Statement.parse sql = .ok statement := by
  unfold readStatement
  cases Sql.Statement.parse sql <;> simp [Except.mapError]

theorem readScript_eq_ok_iff {script : Text} {texts : List Text} :
    readScript script = .ok texts ↔ Sql.Statement.ofScript script = .ok texts := by
  unfold readScript
  cases Sql.Statement.ofScript script <;> simp [Except.mapError]

/-- The timeout that a statement sets, which may be none. -/
def Sql.Statement.timeout? (statement : Sql.Statement) : Option (Option Nat) :=
  match statement.command? with
  | some (.setTimeout timeout) => some timeout
  | _ => none

namespace Script

/-! ## Statements of a script -/

/-- A script may hold the statement: it changes the schema or sets the timeout. -/
def Admits (statement : Sql.Statement) : Prop :=
  statement.isSchemaChange = true ∨ ∃ timeout, statement.command? = some (.setTimeout timeout)

/-- The schema changes among statements, without comments. -/
def changesOf (statements : List Sql.Statement) : List Text :=
  (statements.filter Sql.Statement.isSchemaChange).map Sql.Statement.text

/-- The timeout that statements set last, or else the one that was set before. -/
def timeoutOf (before : Option Nat) (statements : List Sql.Statement) : Option Nat :=
  ((statements.filterMap Sql.Statement.timeout?).getLast?).getD before

/-- The texts are those of the statements. -/
def Spells (texts : List Text) (statements : List Sql.Statement) : Prop :=
  List.Forall₂ (fun sql statement => Sql.Statement.parse sql = .ok statement) texts statements

/-- **A script of these statements can be run** with the options: they are valid, the script falls into
pieces, each is the text of its statement, and the statements are such as a script may hold. -/
structure Runnable (script : Text) (options : Options) (statements : List Sql.Statement) : Prop where
  valid : options.check = .ok ()
  spells : ∃ texts, Sql.Statement.ofScript script = .ok texts ∧ Spells texts statements
  admits : ∀ statement ∈ statements, Admits statement

variable {options : Options} {statements taken : List Sql.Statement} {statement : Sql.Statement}
  {sql script : Text} {texts : List Text}

theorem changesOf_concat_change (h : statement.isSchemaChange = true) :
    changesOf (taken ++ [statement]) = changesOf taken ++ [statement.text] := by
  simp [changesOf, h]

theorem changesOf_concat_other (h : statement.isSchemaChange = false) :
    changesOf (taken ++ [statement]) = changesOf taken := by
  simp [changesOf, h]

theorem timeoutOf_concat_setting {before timeout : Option Nat} (h : statement.timeout? = some timeout) :
    timeoutOf before (taken ++ [statement]) = timeout := by
  simp [timeoutOf, h]

theorem timeoutOf_concat_other {before : Option Nat} (h : statement.timeout? = none) :
    timeoutOf before (taken ++ [statement]) = timeoutOf before taken := by
  simp [timeoutOf, h]

/-! ## One piece -/

namespace Preparation

/-- **A session that has taken statements.** -/
def having (options : Options) (statements : List Sql.Statement) : Preparation :=
  ⟨⟨options, some ⟨changesOf statements, .started⟩⟩,
    Frame.idle (timeoutOf options.timeout statements) options.grace, changesOf statements⟩

/-- A piece that does not manage batches is handed to the session. -/
theorem take_of_read {p : Preparation} (h : readStatement sql = .ok statement)
    (hplain : managesBatch statement = false) : p.take sql = p.pass statement sql := by
  simp only [take, h, hplain, Bool.false_eq_true, if_false]

/-- A piece that the session answers at once is taken. -/
theorem pass_of_answered {p : Preparation} {result : StatementResult} {session : Session}
    {frame : Frame}
    (h : p.session.execute p.frame sql = (.answered (.ok result), session, frame)) :
    p.pass statement sql = .ok ⟨session, frame,
      if statement.isSchemaChange then p.changes ++ [statement.text] else p.changes⟩ := by
  simp only [pass, h, Reply.error?]

/-- One that it refuses is not. -/
theorem pass_of_refused {p : Preparation} {e : SessionError} {session : Session} {frame : Frame}
    (h : p.session.execute p.frame sql = (.answered (.error e), session, frame)) :
    p.pass statement sql = .error (.session e) := by
  simp only [pass, h, Reply.error?]

/-- A piece that a script may hold is taken. -/
theorem take_of_admits (h : readStatement sql = .ok statement) (ha : Admits statement) :
    (having options taken).take sql = .ok (having options (taken ++ [statement])) := by
  obtain ⟨source, text, category⟩ := statement
  rcases ha with hchange | ⟨timeout, hset⟩
  · -- a schema change joins the batch
    obtain rfl : category = .schemaChange := by simpa [Sql.Statement.isSchemaChange] using hchange
    have hadd := Batch.add_of_started (b := ⟨changesOf taken, .started⟩) rfl hchange
    have hexecute : (having options taken).session.execute (having options taken).frame sql
        = (.answered (.ok .noResult),
            ⟨options, some ⟨changesOf taken ++ [text], .started⟩⟩,
            (having options taken).frame) := by
      simp only [Session.execute, h, Session.route, Session.change, having, hadd]
    rw [take_of_read h rfl, pass_of_answered hexecute, if_pos hchange]
    simp only [having, changesOf_concat_change hchange]
    rw [timeoutOf_concat_other rfl]
  · -- a setting of the timeout changes the frame
    obtain rfl : category = .command (.setTimeout timeout) := by
      cases category with
      | command c =>
        cases hset
        rfl
      | _ => cases hset
    have hexecute : (having options taken).session.execute (having options taken).frame sql
        = (.answered (.ok .noResult), (having options taken).session,
            (having options taken).frame.setTimeout timeout) := by
      simp only [Session.execute, h, Session.route, Session.carryOut]
    have hother : Sql.Statement.isSchemaChange ⟨source, text, .command (.setTimeout timeout)⟩ = false :=
      rfl
    rw [take_of_read h rfl, pass_of_answered hexecute, if_neg (by rw [hother]; exact Bool.false_ne_true)]
    simp only [having, changesOf_concat_other hother]
    rw [timeoutOf_concat_setting rfl]
    rfl

/-- Any other is refused: what manages batches by the script, queries, updates and statements that are not
known by the session. -/
theorem take_of_not_admits (options : Options) (taken : List Sql.Statement)
    (h : readStatement sql = .ok statement) (ha : ¬ Admits statement) :
    ∃ e, (having options taken).take sql = .error e := by
  have hmisplaced : managesBatch statement = true →
      (having options taken).take sql = .error (.misplaced statement.text) := by
    intro hmanages
    simp only [take, h, hmanages, if_true]
  have hrefused : ∀ e, managesBatch statement = false →
      (having options taken).session.execute (having options taken).frame sql
        = (.answered (.error e), (having options taken).session, (having options taken).frame) →
      (having options taken).take sql = .error (.session e) := by
    intro e hplain hexecute
    rw [take_of_read h hplain, pass_of_refused hexecute]
  obtain ⟨source, text, category⟩ := statement
  cases category with
  | schemaChange => exact absurd (.inl rfl) ha
  | query =>
    refine ⟨_, hrefused (.notAllowed "Executing queries is not allowed for DDL batches.") rfl ?_⟩
    simp only [Session.execute, h]
    rfl
  | update =>
    refine ⟨_, hrefused Batch.Refused.update.error rfl ?_⟩
    simp only [Session.execute, h]
    rfl
  | unknown =>
    refine ⟨_, hrefused (.invalidArgument ("Unknown statement: " ++ Text.string text)) rfl ?_⟩
    simp only [Session.execute, h]
    rfl
  | command c =>
    cases c with
    | setTimeout timeout => exact absurd (.inr ⟨timeout, rfl⟩) ha
    | startBatch => exact ⟨_, hmisplaced rfl⟩
    | runBatch => exact ⟨_, hmisplaced rfl⟩
    | abortBatch => exact ⟨_, hmisplaced rfl⟩

/-! ## All pieces -/

/-- **Pieces are taken** exactly if each is the text of a statement that a script may hold. -/
theorem takeAll_eq_ok_iff {p : Preparation} :
    takeAll texts (having options taken) = .ok p ↔
      ∃ statements, Spells texts statements ∧ (∀ statement ∈ statements, Admits statement) ∧
        p = having options (taken ++ statements) := by
  -- what was taken so far is all that the next piece depends on
  induction texts generalizing taken with
  | nil =>
    simp only [takeAll, Spells, List.forall₂_nil_left_iff, exists_eq_left, List.append_nil,
      Except.ok.injEq, eq_comm, List.not_mem_nil, false_implies, implies_true, true_and]
  | cons sql texts ih =>
    -- the first piece has to be a statement that is admitted, and the rest is taken after it
    have hfirst : takeAll (sql :: texts) (having options taken) = .ok p ↔
        ∃ first, readStatement sql = .ok first ∧ Admits first ∧
          takeAll texts (having options (taken ++ [first])) = .ok p := by
      cases h : readStatement sql with
      | error e => simp [takeAll, take, h]
      | ok first =>
        by_cases ha : Admits first
        · simp [takeAll, take_of_admits h ha, ha]
        · obtain ⟨e, htake⟩ := take_of_not_admits options taken h ha
          simp [takeAll, htake, ha]
    rw [hfirst]
    simp only [ih, readStatement_eq_ok_iff]
    constructor
    · rintro ⟨first, hparse, ha, rest, hspells, hadmits, rfl⟩
      exact ⟨first :: rest, List.Forall₂.cons hparse hspells, List.forall_mem_cons.mpr ⟨ha, hadmits⟩,
        by rw [List.append_assoc]; rfl⟩
    · rintro ⟨statements, hspells, hadmits, rfl⟩
      obtain ⟨first, rest, hparse, hrest, rfl⟩ := List.forall₂_cons_left_iff.mp hspells
      obtain ⟨ha, hadmits⟩ := List.forall_mem_cons.mp hadmits
      exact ⟨first, hparse, ha, rest, hrest, hadmits, by rw [List.append_assoc]; rfl⟩

theorem openWith_of_valid (h : options.check = .ok ()) : openWith options = .ok (having options []) := by
  simp only [openWith, Session.openWith, h]
  rfl

theorem openWith_of_fault {fault : Options.Fault} (h : options.check = .error fault) :
    openWith options = .error fault.error := by
  simp only [openWith, Session.openWith, h]
  rfl

end Preparation

/-! ## Scripts -/

/-- **A script is taken exactly if it is runnable**, and then the session has taken all of it. -/
theorem prepare_eq_ok_iff {p : Preparation} :
    prepare script options = .ok p ↔
      ∃ statements, Runnable script options statements ∧ p = .having options statements := by
  unfold prepare
  cases hscript : readScript script with
  | error e =>
    constructor
    · nofun
    · rintro ⟨statements, ⟨_, ⟨texts, hofScript, _⟩, _⟩, _⟩
      cases hscript.symm.trans (readScript_eq_ok_iff.mpr hofScript)
  | ok texts =>
    have hofScript := readScript_eq_ok_iff.mp hscript
    cases hcheck : options.check with
    | error fault =>
      rw [Preparation.openWith_of_fault hcheck]
      constructor
      · nofun
      · rintro ⟨statements, ⟨hvalid, _, _⟩, _⟩
        cases hcheck.symm.trans hvalid
    | ok _ =>
      rw [Preparation.openWith_of_valid hcheck]
      dsimp only
      rw [Preparation.takeAll_eq_ok_iff]
      constructor
      · rintro ⟨statements, hspells, hadmits, rfl⟩
        exact ⟨statements, ⟨hcheck, ⟨texts, hofScript, hspells⟩, hadmits⟩, rfl⟩
      · rintro ⟨statements, ⟨_, ⟨texts', hofScript', hspells⟩, hadmits⟩, rfl⟩
        cases hofScript.symm.trans hofScript'
        exact ⟨statements, hspells, hadmits, rfl⟩

/-- Texts are read exactly if each is the text of a statement. -/
theorem readAll_eq_ok_iff : readAll texts = .ok statements ↔ Spells texts statements := by
  unfold readAll Spells
  simp only [← readStatement_eq_ok_iff]
  induction texts generalizing statements with
  | nil => cases statements <;> simp [pure, Except.pure]
  | cons sql texts ih =>
    rw [List.mapM_cons, List.forall₂_cons_left_iff]
    simp only [← ih]
    cases h : readStatement sql with
    | error e => simp [bind, Except.bind]
    | ok first =>
      cases hrest : texts.mapM readStatement <;>
        simp [bind, Except.bind, pure, Except.pure, eq_comm]

/-- **The list of the statements** is made exactly if the script falls into pieces and each is the text of a
statement. -/
theorem classify_eq_ok_iff :
    classify script = .ok statements ↔
      ∃ texts, Sql.Statement.ofScript script = .ok texts ∧ Spells texts statements := by
  unfold classify
  cases hscript : readScript script with
  | error e =>
    constructor
    · nofun
    · rintro ⟨texts, hofScript, _⟩
      cases hscript.symm.trans (readScript_eq_ok_iff.mpr hofScript)
  | ok texts =>
    have hofScript := readScript_eq_ok_iff.mp hscript
    have hread : ((Except.ok texts).bind readAll).mapError ScriptError.session = .ok statements ↔
        readAll texts = .ok statements := by
      show (readAll texts).mapError _ = _ ↔ _
      cases readAll texts <;> simp [Except.mapError]
    rw [hread, readAll_eq_ok_iff]
    constructor
    · intro hspells
      exact ⟨texts, hofScript, hspells⟩
    · rintro ⟨texts', hofScript', hspells⟩
      cases hofScript.symm.trans hofScript'
      exact hspells

/-- A script is one of these statements only. -/
theorem Runnable.unique {statements' : List Sql.Statement} (h : Runnable script options statements)
    (h' : Runnable script options statements') : statements = statements' :=
  Except.ok.inj ((classify_eq_ok_iff.mpr h.spells).symm.trans (classify_eq_ok_iff.mpr h'.spells))

end Script
end SchemaBatch
