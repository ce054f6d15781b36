import SchemaBatch.Proofs.BodyAlone

/-!
# `Proofs.FrameRace` — what a statement returns

A statement in a frame is a race of three: its body may end, the frame may be cancelled, the timeout may pass.
Whatever interrupts the body starts a second race, of the body against the grace period. What the statement
returns is told by the body alone: by what it does when nobody tells it to stop, and by what it does from some
instant on when it is told.

* `Breaks` — **the first race**: a schedule interrupts a body that has not ended;
  `Execution.status_of_breaks` — from there on the execution winds down.
* `Verdict` — **the second race**, and what the statement returns; `Open` — it does not return yet.
* `verdict_or_open` — there is no third case.
* `Reply.raced` — **a statement returns what the verdict says**, and returns as soon as there is one.
-/

namespace SchemaBatch

/-! ## The first race -/

/-- **The first race**: a schedule interrupts a body that has not ended, for this cause, after the happenings
`before`. The others come `after` the interruption. -/
inductive Breaks {σ μ α : Type} (services : Services σ μ) (timeout : Option Nat) (p : Solo σ α) :
    List (Happening μ) → Interruption → (before after : List (Happening μ)) → Prop where
  /-- The frame is cancelled, and the timeout has not passed. -/
  | cancelled {before after : List (Happening μ)} (hcancel : .act .cancel ∉ before)
      (htime : ∀ T, timeout = some T → elapsed before < T)
      (hopen : (p.attend services false before).result? = none) :
      Breaks services timeout p (before ++ .act .cancel :: after) .cancelled before after
  /-- The timeout passes at the last of the happenings, and the frame was not cancelled. -/
  | timedOut {T : Nat} {before after : List (Happening μ)} (hT : timeout = some T)
      (hcancel : .act .cancel ∉ before) (hfirst : Within T before) (htime : T ≤ elapsed before)
      (hopen : (p.attend services false before).result? = none) :
      Breaks services timeout p (before ++ after) (.timedOut T) before after

namespace Execution

variable {σ μ α : Type} {services : Services σ μ} {e : Execution α} {p : Solo σ α} {f : Frame}
  {hs : List (Happening μ)}

/-- Two executions that a look leaves alike go on alike. -/
theorem follow_look_congr {e' : Execution α} {scene scene' : Scene σ}
    (hstatus : (e.look services scene).status = (e'.look services scene').status)
    (hscene : (e.look services scene).scene = (e'.look services scene').scene)
    (rest : List (Happening μ)) :
    (e.follow services (.look :: rest) scene).status
      = (e'.follow services (.look :: rest) scene').status := by
  cases hp : (e'.look services scene').status with
  | ready result =>
    rw [follow_of_ready (h := .look) hp, follow_of_ready (h := .look) (hstatus.trans hp)]
    exact hstatus
  | pending e'' =>
    rw [follow_of_pending (h := .look) hp, follow_of_pending (h := .look) (hstatus.trans hp)]
    show (e''.follow services rest (e.look services scene).scene).status
      = (e''.follow services rest (e'.look services scene').scene).status
    rw [hscene]

/-- A cancellation does not recast what the body says. -/
theorem mapError_recast_cancelled (label : Text) (r : Except SessionError α) :
    r.mapError (Interruption.cancelled.recast label) = r := by
  cases r <;> rfl

/-- An execution that is told to stop by a cancellation goes on as one that is interrupted. -/
theorem follow_of_told (services : Services σ μ) (hf : f.Holds e.ticket true) (rest : List (Happening μ)) :
    ∃ f' : Frame, f'.Holds e.ticket true ∧
      ((p.framed e none).follow services (.look :: rest) (p.scene f)).status
        = ((p.framed e (some (p.interrupted .cancelled f.grace))).follow services (.look :: rest)
            (p.scene f')).status := by
  have hf' := hf.signal
  refine ⟨f.signal e.ticket, hf', ?_⟩
  cases hr : (p.step services true .look).result? with
  | some r =>
    have hstatus := look_ended (w := none) hf hr
    have hstatus' := look_ended (w := some (p.interrupted .cancelled f.grace)) hf' hr
    rw [follow_of_ready (h := .look) hstatus, follow_of_ready (h := .look) hstatus']
    exact hstatus.trans (hstatus'.trans (congrArg _ (mapError_recast_cancelled e.label r))).symm
  | none =>
    have hcause : (p.framed e none).interruptedBy p.now f = some .cancelled := if_pos hf.told
    obtain ⟨hstatus, hscene⟩ := look_interrupted hf hr hcause
    obtain ⟨hstatus', hscene'⟩ := look_windDown_step services hf' (p.interrupted .cancelled f.grace)
    exact follow_look_congr (hstatus.trans hstatus') (hscene.trans hscene') rest

/-- **After the first race the execution winds down**, and its grace period is counted from there. -/
theorem status_of_breaks {cause : Interruption} {before after : List (Happening μ)}
    (h : Breaks services e.timeout p hs cause before after) (hbegun : e.begun = p.now)
    (hf : f.Holds e.ticket false) :
    let p' := p.attend services false before
    ∃ f' : Frame, f'.Holds e.ticket true ∧
      ((p.framed e none).follow services (.look :: promptly hs) (p.scene f)).status
        = ((p'.framed e (some (p'.interrupted cause (graceAfter f.grace before)))).follow services
            (.look :: promptly after) (p'.scene f')).status := by
  intro p'
  cases h with
  | cancelled hcancel htime hopen =>
    have hshows := attend_shows services (w := none) (fun hmem => absurd hmem hcancel) hf
      (lt_alarm hbegun htime)
    obtain ⟨f₁, hf₁, hgrace, hstatus⟩ := hshows.waiting hopen
    -- the cancellation reaches the execution, and the next look heeds it
    obtain ⟨f', hf', hfollow⟩ := follow_of_told services (p := p') hf₁.cancel (promptly after)
    refine ⟨f', hf', ?_⟩
    rw [promptly_append, ← List.cons_append, hstatus]
    show ((p'.framed e none).follow services (.look :: promptly after) (p'.scene f₁.cancel.2)).status = _
    rw [hfollow, ← hgrace]
    rfl
  | @timedOut T _ _ hT hcancel hfirst htime hopen =>
    have hwithin : ∀ T', e.timeout = some T' → Within T' before := by
      intro T' hT'
      cases hT.symm.trans hT'
      exact hfirst
    obtain ⟨l, p₁, hl, hp₁, hnow, hshows⟩ := exists_shows_before_look services (w := none)
      (fun hmem => absurd hmem hcancel) (fun _ => Solo.unfinished_of_follow hopen) hf
      (within_alarm hbegun hwithin)
    have hopen' : (p₁.step services false .look).result? = none := hp₁ ▸ hopen
    obtain ⟨f₁, hf₁, hgrace, hstatus⟩ := hshows.waiting (Solo.unfinished_of_step hopen')
    have hpassed : e.begun + T ≤ p₁.now := by
      rw [hnow, hbegun]
      exact Nat.add_le_add_left htime _
    have hcause := interruptedBy_framed_of_passed hf₁ hT hpassed
    obtain ⟨hlook, hlookScene⟩ := look_interrupted hf₁ hopen' hcause
    refine ⟨f₁.signal e.ticket, hf₁.signal, ?_⟩
    rw [promptly_append, ← List.cons_append, hl, List.append_assoc, hstatus, ← hgrace]
    show ((p₁.framed e none).follow services (.look :: promptly after) (p₁.scene f₁)).status = _
    rw [follow_look_congr hlook hlookScene, show p' = p₁.step services false .look from hp₁]
    rfl

end Execution

/-! ## The second race -/

/-- What a statement returns if its body ends in time after the timeout has passed: what the body says, but an
error that says "cancelled" says then that the timeout has passed. -/
inductive Renamed {α : Type} (message : String) : (own returned : Except SessionError α) → Prop where
  | ok {value : α} : Renamed message (.ok value) (.ok value)
  /-- The update counts stay as they are. -/
  | batch {failure : BatchFailure} (h : failure.code = .cancelled) :
      Renamed message (.error (.batchFailed failure))
        (.error (.batchFailed ⟨.deadlineExceeded, message, failure.counts⟩))
  | service {status : Status} (h : status.code = .cancelled) :
      Renamed message (.error (.service status)) (.error (.service ⟨.deadlineExceeded, message⟩))
  | other {error : SessionError}
      (hbatch : ∀ failure, error = .batchFailed failure → failure.code ≠ .cancelled)
      (hservice : ∀ status, error = .service status → status.code ≠ .cancelled) :
      Renamed message (.error error) (.error error)

/-- **What a statement returns**, beside what its body has come to, if it has ended by then. -/
inductive Verdict {σ μ α : Type} (services : Services σ μ) (label : Text) (timeout : Option Nat) (grace : Nat)
    (p : Solo σ α) (hs : List (Happening μ)) :
    (own : Option (Except SessionError α)) → (returned : Except SessionError α) → Prop where
  /-- The body ends before the frame is cancelled, and before the timeout has passed. -/
  | undisturbed {before after : List (Happening μ)} {r : Except SessionError α}
      (hsplit : hs = before ++ after) (hcancel : .act .cancel ∉ before)
      (htime : ∀ T, timeout = some T → Within T before)
      (hend : (p.attend services false before).result? = some r) :
      Verdict services label timeout grace p hs (some r) r
  /-- The frame is cancelled first, and the body ends within the grace period. -/
  | cancelled {before winding after : List (Happening μ)} {r : Except SessionError α}
      (h : Breaks services timeout p hs .cancelled before (winding ++ after))
      (htime : Within (graceAfter grace before) winding)
      (hend : ((p.attend services false before).attend services true winding).result? = some r) :
      Verdict services label timeout grace p hs (some r) r
  /-- The frame is cancelled first, and the body does not end within the grace period. -/
  | cancelledLate {before winding after : List (Happening μ)}
      (h : Breaks services timeout p hs .cancelled before (winding ++ after))
      (htime : graceAfter grace before ≤ elapsed winding)
      (hopen : ((p.attend services false before).attend services true winding).result? = none) :
      Verdict services label timeout grace p hs none
        (.error (.service ⟨.cancelled, "Statement execution was cancelled: " ++ Text.string label⟩))
  /-- The timeout passes first, and the body ends within the grace period. -/
  | timedOut {T : Nat} {before winding after : List (Happening μ)} {r r' : Except SessionError α}
      (h : Breaks services timeout p hs (.timedOut T) before (winding ++ after))
      (htime : Within (graceAfter grace before) winding)
      (hend : ((p.attend services false before).attend services true winding).result? = some r)
      (hreturned : Renamed (Interruption.timeoutMessage label T) r r') :
      Verdict services label timeout grace p hs (some r) r'
  /-- The timeout passes first, and the body does not end within the grace period. -/
  | timedOutLate {T : Nat} {before winding after : List (Happening μ)}
      (h : Breaks services timeout p hs (.timedOut T) before (winding ++ after))
      (htime : graceAfter grace before ≤ elapsed winding)
      (hopen : ((p.attend services false before).attend services true winding).result? = none) :
      Verdict services label timeout grace p hs none
        (.error (.service ⟨.deadlineExceeded, Interruption.timeoutMessage label T⟩))

/-- A statement that does not return yet: nothing has interrupted its body, or the grace period is not
over. -/
inductive Open {σ μ α : Type} (services : Services σ μ) (timeout : Option Nat) (grace : Nat) (p : Solo σ α)
    (hs : List (Happening μ)) : Prop where
  | waiting (hcancel : .act .cancel ∉ hs) (htime : ∀ T, timeout = some T → elapsed hs < T)
      (hopen : (p.attend services false hs).result? = none) : Open services timeout grace p hs
  | winding {cause : Interruption} {before winding : List (Happening μ)}
      (h : Breaks services timeout p hs cause before winding)
      (htime : elapsed winding < graceAfter grace before)
      (hopen : ((p.attend services false before).attend services true winding).result? = none) :
      Open services timeout grace p hs

section Race

variable {σ μ α : Type} {services : Services σ μ} {label : Text} {timeout : Option Nat} {grace : Nat}
  {p : Solo σ α} {hs : List (Happening μ)}

/-- After a timeout the frame renames errors so. -/
theorem renamed_iff {T : Nat} {r r' : Except SessionError α} :
    Renamed (Interruption.timeoutMessage label T) r r'
      ↔ r' = r.mapError ((Interruption.timedOut T).recast label) := by
  constructor
  · intro h
    cases h with
    | ok => rfl
    | batch h => exact (congrArg Except.error (if_pos h)).symm
    | service h => exact (congrArg Except.error (if_pos h)).symm
    | @other error hbatch hservice =>
      cases error with
      | batchFailed failure => exact (congrArg Except.error (if_neg (hbatch _ rfl))).symm
      | service status => exact (congrArg Except.error (if_neg (hservice _ rfl))).symm
      | _ => rfl
  · rintro rfl
    cases r with
    | ok value => exact .ok
    | error error =>
      rw [Except.mapError]
      cases error with
      | batchFailed failure =>
        by_cases h : failure.code = .cancelled
        · rw [Interruption.recast, if_pos h]
          exact .batch h
        · rw [Interruption.recast, if_neg h]
          exact .other (fun _ hfailure => by cases hfailure; exact h) nofun
      | service status =>
        by_cases h : status.code = .cancelled
        · rw [Interruption.recast, if_pos h]
          exact .service h
        · rw [Interruption.recast, if_neg h]
          exact .other nofun fun _ hstatus => by cases hstatus; exact h
      | _ => exact .other nofun nofun

/-- An interruption stays one when more happens. -/
theorem Breaks.append {cause : Interruption} {before after : List (Happening μ)}
    (h : Breaks services timeout p hs cause before after) (more : List (Happening μ)) :
    Breaks services timeout p (hs ++ more) cause before (after ++ more) := by
  cases h with
  | cancelled hcancel htime hopen =>
    rw [List.append_assoc]
    exact .cancelled hcancel htime hopen
  | timedOut hT hcancel hfirst htime hopen =>
    rw [List.append_assoc]
    exact .timedOut hT hcancel hfirst htime hopen

/-- A verdict stands when more happens. -/
theorem Verdict.append {own : Option (Except SessionError α)} {r : Except SessionError α}
    (h : Verdict services label timeout grace p hs own r) (more : List (Happening μ)) :
    Verdict services label timeout grace p (hs ++ more) own r := by
  have hmore : ∀ {cause before winding after},
      Breaks services timeout p hs cause before (winding ++ after) →
        Breaks services timeout p (hs ++ more) cause before (winding ++ (after ++ more)) := by
    intro cause before winding after h
    rw [← List.append_assoc]
    exact h.append more
  cases h with
  | undisturbed hsplit hcancel htime hend =>
    exact .undisturbed (by rw [hsplit, List.append_assoc]) hcancel htime hend
  | cancelled h htime hend => exact .cancelled (hmore h) htime hend
  | cancelledLate h htime hopen => exact .cancelledLate (hmore h) htime hopen
  | timedOut h htime hend hreturned => exact .timedOut (hmore h) htime hend hreturned
  | timedOutLate h htime hopen => exact .timedOutLate (hmore h) htime hopen

/-- The second race is decided, or goes on. -/
theorem Breaks.verdict_or_open (label : Text) {cause : Interruption} {before winding : List (Happening μ)}
    (h : Breaks services timeout p hs cause before winding)
    (htime : Within (graceAfter grace before) winding) :
    (∃ own r, Verdict services label timeout grace p hs own r) ∨ Open services timeout grace p hs := by
  have hwhole : Breaks services timeout p hs cause before (winding ++ []) := by rwa [List.append_nil]
  cases hend : ((p.attend services false before).attend services true winding).result? with
  | some r =>
    cases cause with
    | cancelled => exact .inl ⟨_, _, .cancelled hwhole htime hend⟩
    | timedOut T => exact .inl ⟨_, _, .timedOut hwhole htime hend (renamed_iff.mpr rfl)⟩
  | none =>
    by_cases hlate : graceAfter grace before ≤ elapsed winding
    · cases cause with
      | cancelled => exact .inl ⟨_, _, .cancelledLate hwhole hlate hend⟩
      | timedOut T => exact .inl ⟨_, _, .timedOutLate hwhole hlate hend⟩
    · exact .inr (.winding h (Nat.not_le.mp hlate) hend)

/-- So is the first, if nothing has interrupted the body before the last of the happenings. -/
theorem verdict_or_open_of_quiet (label : Text) (grace : Nat) (hcancel : .act .cancel ∉ hs)
    (htime : ∀ T, timeout = some T → Within T hs) :
    (∃ own r, Verdict services label timeout grace p hs own r) ∨ Open services timeout grace p hs := by
  cases hend : (p.attend services false hs).result? with
  | some r => exact .inl ⟨_, _, .undisturbed (List.append_nil hs).symm hcancel htime hend⟩
  | none =>
    by_cases hpassed : ∃ T, timeout = some T ∧ T ≤ elapsed hs
    · obtain ⟨T, hT, hpassed⟩ := hpassed
      have hbreaks : Breaks services timeout p (hs ++ []) (.timedOut T) hs [] :=
        .timedOut hT hcancel (htime T hT) hpassed hend
      rw [List.append_nil] at hbreaks
      exact hbreaks.verdict_or_open label (.inl rfl)
    · refine .inr (.waiting hcancel (fun T hT => ?_) hend)
      exact Nat.not_le.mp fun hle => hpassed ⟨T, hT, hle⟩

/-- **There is a verdict, or the statement does not return yet.** -/
theorem verdict_or_open (services : Services σ μ) (label : Text) (timeout : Option Nat) (grace : Nat)
    (p : Solo σ α) (hs : List (Happening μ)) :
    (∃ own r, Verdict services label timeout grace p hs own r) ∨ Open services timeout grace p hs := by
  induction hs using List.reverseRecOn with
  | nil => exact verdict_or_open_of_quiet label grace List.not_mem_nil fun _ _ => .inl rfl
  | append_singleton hs h ih =>
    rcases ih with ⟨own, r, hverdict⟩ | hopen
    · exact .inl ⟨own, r, hverdict.append [h]⟩
    cases hopen with
    | waiting hcancel htime hopen =>
      by_cases hh : h = .act .cancel
      · subst hh
        exact (Breaks.cancelled hcancel htime hopen).verdict_or_open label (.inl rfl)
      · refine verdict_or_open_of_quiet label grace ?_ fun T hT => .inr ?_
        · exact List.not_mem_append hcancel fun hmem => hh (List.mem_singleton.mp hmem).symm
        · rw [List.dropLast_concat]
          exact htime T hT
    | winding h' htime hopen =>
      refine (h'.append [h]).verdict_or_open label (.inr ?_)
      rw [List.dropLast_concat]
      exact htime

end Race

/-! ## What the execution returns -/

namespace Execution

variable {σ μ α : Type} {services : Services σ μ} {e : Execution α} {p : Solo σ α} {f : Frame}
  {hs before winding after : List (Happening μ)} {cause : Interruption}

/-- A body that ends in time ends the execution, and an interruption recasts what it says. -/
theorem status_of_breaks_ended (h : Breaks services e.timeout p hs cause before (winding ++ after))
    (hbegun : e.begun = p.now) (hf : f.Holds e.ticket false)
    (htime : Within (graceAfter f.grace before) winding) {r : Except SessionError α}
    (hend : ((p.attend services false before).attend services true winding).result? = some r) :
    ((p.framed e none).follow services (.look :: promptly hs) (p.scene f)).status
      = .ready (r.mapError (cause.recast e.label)) := by
  obtain ⟨f', hf', hstatus⟩ := status_of_breaks h hbegun hf
  generalize p.attend services false before = p' at hend hstatus
  have halarm : ∀ t ∈ e.alarm (some (p'.interrupted cause (graceAfter f.grace before))),
      winding = [] ∨ p'.now + elapsed winding.dropLast < t := by
    rintro t ⟨⟩
    exact htime.imp_right fun hlt => Nat.add_lt_add_left hlt _
  have hended := attend_ended (fun _ => rfl) hf' halarm hend
  rw [hstatus, promptly_append, ← List.cons_append, follow_append_of_ready hended]
  exact hended

/-- A body that does not end in time is given up. -/
theorem status_of_breaks_late (h : Breaks services e.timeout p hs cause before (winding ++ after))
    (hbegun : e.begun = p.now) (hf : f.Holds e.ticket false)
    (htime : graceAfter f.grace before ≤ elapsed winding)
    (hopen : ((p.attend services false before).attend services true winding).result? = none) :
    ((p.framed e none).follow services (.look :: promptly hs) (p.scene f)).status
      = .ready (.error (cause.giveUpError e.label)) := by
  obtain ⟨f', hf', hstatus⟩ := status_of_breaks h hbegun hf
  generalize p.attend services false before = p' at hopen hstatus
  have hgiveUp : (p'.interrupted cause (graceAfter f.grace before)).giveUp ≤ p'.now + elapsed winding :=
    Nat.add_le_add_left htime _
  have hlate := attend_late hf' hopen hgiveUp
  rw [hstatus, promptly_append, ← List.cons_append, follow_append_of_ready hlate]
  exact hlate

theorem status_of_verdict {own : Option (Except SessionError α)} {r : Except SessionError α}
    (h : Verdict services e.label e.timeout f.grace p hs own r) (hbegun : e.begun = p.now)
    (hf : f.Holds e.ticket false) :
    ((p.framed e none).follow services (.look :: promptly hs) (p.scene f)).status = .ready r := by
  cases h with
  | @undisturbed before _ r hsplit hcancel htime hend =>
    have hended := attend_ended (w := none) (fun hmem => absurd hmem hcancel) hf
      (within_alarm hbegun htime) hend
    rw [hsplit, promptly_append, ← List.cons_append, follow_append_of_ready hended]
    exact hended
  | cancelled h htime hend =>
    exact mapError_recast_cancelled e.label r ▸ status_of_breaks_ended h hbegun hf htime hend
  | cancelledLate h htime hopen => exact status_of_breaks_late h hbegun hf htime hopen
  | timedOut h htime hend hreturned =>
    rw [renamed_iff.mp hreturned]
    exact status_of_breaks_ended h hbegun hf htime hend
  | timedOutLate h htime hopen => exact status_of_breaks_late h hbegun hf htime hopen

theorem status_of_open (h : Open services e.timeout f.grace p hs) (hbegun : e.begun = p.now)
    (hf : f.Holds e.ticket false) :
    ∃ e', ((p.framed e none).follow services (.look :: promptly hs) (p.scene f)).status = .pending e' := by
  cases h with
  | waiting hcancel htime hopen =>
    have hshows := attend_shows services (w := none) (fun hmem => absurd hmem hcancel) hf
      (lt_alarm hbegun htime)
    cases hshows with
    | waits _ _ _ hstatus _ => exact ⟨_, hstatus⟩
    | ended hr => cases hr.symm.trans hopen
  | @winding cause before winding h htime hopen =>
    obtain ⟨f', hf', hstatus⟩ := status_of_breaks h hbegun hf
    generalize p.attend services false before = p' at hopen hstatus
    have halarm : ∀ t ∈ e.alarm (some (p'.interrupted cause (graceAfter f.grace before))),
        p'.now + elapsed winding < t := by
      rintro t ⟨⟩
      exact Nat.add_lt_add_left htime _
    have hshows := attend_shows services (fun _ => rfl) hf' halarm
    cases hshows with
    | waits _ _ _ hstatus' _ => exact ⟨_, hstatus.trans hstatus'⟩
    | ended hr => cases hr.symm.trans hopen

end Execution

/-! ## What the statement returns -/

/-- The body of a statement that starts in a scene. -/
def Solo.start {σ α : Type} (activity : Activity (Except SessionError α)) (scene : Scene σ) : Solo σ α :=
  ⟨scene.now, Engaged.start activity scene.now, scene.state⟩

/-- **What a statement returns under a schedule**, to somebody who is awake. -/
structure Raced {σ μ α : Type} (services : Services σ μ) (label : Text)
    (activity : Activity (Except SessionError α)) (scene : Scene σ) (hs : List (Happening μ)) : Prop where
  /-- It returns what the verdict says, -/
  returns : ∀ r, ((Reply.running label activity).course services (promptly hs) scene).status = .ready r ↔
    ∃ own, Verdict services label scene.frame.timeout scene.frame.grace (Solo.start activity scene) hs own r
  /-- and it returns unless nothing has interrupted its body, or the grace period is not over. -/
  waits : (∃ e, ((Reply.running label activity).course services (promptly hs) scene).status = .pending e) ↔
    Open services scene.frame.timeout scene.frame.grace (Solo.start activity scene) hs
  /-- The update counts that it returns are those that its body reported. -/
  counts : ∀ own failure, Verdict services label scene.frame.timeout scene.frame.grace
    (Solo.start activity scene) hs own (.error (.batchFailed failure)) →
      ∃ reported, own = some (.error (.batchFailed reported)) ∧ failure.counts = reported.counts

/-- A statement that starts is its body in the frame that it enters. -/
theorem Reply.course_status {σ μ α : Type} (services : Services σ μ) (label : Text)
    (activity : Activity (Except SessionError α)) (scene : Scene σ) (schedule : List (Happening μ)) :
    let p := Solo.start activity scene
    let e := (Execution.start label activity scene.now scene.frame).1
    ((Reply.running label activity).course services schedule scene).status
      = ((p.framed e none).follow services (.look :: schedule) (p.scene scene.frame.register.2)).status := rfl

/-- **The body alone says what the statement returns.** -/
theorem Reply.raced {σ μ α : Type} (services : Services σ μ) (label : Text)
    (activity : Activity (Except SessionError α)) (scene : Scene σ) (hs : List (Happening μ)) :
    Raced services label activity scene hs := by
  -- the statement gets a ticket that nobody has, and is not told to stop when it starts
  have hheld : scene.frame.register.2.Holds scene.frame.nextTicket false :=
    ⟨by rw [Frame.tickets_register]; exact List.mem_concat_self, scene.frame.isSignalled_register⟩
  have hverdict : ∀ {own r}, Verdict services label scene.frame.timeout scene.frame.grace
      (Solo.start activity scene) hs own r →
      ((Reply.running label activity).course services (promptly hs) scene).status = .ready r := by
    intro own r h
    rw [course_status]
    exact Execution.status_of_verdict h rfl hheld
  have hopen : Open services scene.frame.timeout scene.frame.grace (Solo.start activity scene) hs →
      ∃ e', ((Reply.running label activity).course services (promptly hs) scene).status = .pending e' := by
    intro h
    rw [course_status]
    exact Execution.status_of_open h rfl hheld
  have hcases := verdict_or_open services label scene.frame.timeout scene.frame.grace
    (Solo.start activity scene) hs
  refine { returns := fun r => ⟨?returned, ?verdict⟩, waits := ⟨?waiting, hopen⟩, counts := ?counts }
  case returned =>
    intro hr
    rcases hcases with ⟨own, r', h⟩ | h
    · cases (hverdict h).symm.trans hr
      exact ⟨own, h⟩
    · obtain ⟨e', he'⟩ := hopen h
      cases he'.symm.trans hr
  case verdict =>
    rintro ⟨own, h⟩
    exact hverdict h
  case waiting =>
    rintro ⟨e', he'⟩
    rcases hcases with ⟨own, r, h⟩ | h
    · cases (hverdict h).symm.trans he'
    · exact h
  case counts =>
    intro own failure h
    cases h with
    | undisturbed => exact ⟨_, rfl, rfl⟩
    | cancelled => exact ⟨_, rfl, rfl⟩
    | timedOut _ _ _ hreturned => cases hreturned <;> exact ⟨_, rfl, rfl⟩

/-- A body that waits for ever, and says what it knows when it is told to stop, is told at the timeout: what
it says is about the timeout then, with the counts that it reported. -/
theorem Reply.raced_timedOut :
    let reported : BatchFailure := ⟨.cancelled, "stopped", [1, 0]⟩
    let activity : Activity (Except SessionError Unit) :=
      .listen (.pause none) (fun _ => .done (.ok ())) (.done (.error (.batchFailed reported)))
    let scene : Scene Backend :=
      ⟨0, Frame.idle (some 20) 10, ⟨.inMemory (InMemory.fresh 0 fun _ => "0"), Database.empty⟩⟩
    let label := "RUN BATCH".toList
    Raced Backend.services label activity scene [.pass 20] ∧
      ((Reply.running label activity).course Backend.services (promptly [.pass 20]) scene).status
        = .ready (.error (.batchFailed
            ⟨.deadlineExceeded, Interruption.timeoutMessage label 20, reported.counts⟩)) := by
  intro reported activity scene label
  exact ⟨Reply.raced _ _ _ _ _, rfl⟩

end SchemaBatch
