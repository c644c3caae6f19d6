import Wlcodex.Orchestrator.Frames

namespace Wlcodex.Orchestrator

open Wlcodex.Lib Act
open Chief (emit)
open Wlcodex.Bridge (Verdict)
open Wlcodex.Projector (TaskStatus)

/-! How a run ends, over any stream of progress. -/

def Desk.Agrees (desk : Desk) : Outcome → Prop
  | .completed => desk.taskStatus = .done ∧ desk.run.status = "passed"
  | .failed => desk.taskStatus = .failed ∧ desk.run.status ≠ "passed" ∧ desk.run.status ≠ "running"

def OneOutcome (earlier : List Outcome) (desk : Desk) : Prop :=
  ∃ outcome, outcomes desk.events = earlier ++ [outcome] ∧ desk.Agrees outcome

def play {ω : Type} (consumer : Progress → Act (Orchestra ω × Desk) Unit) (raises : Option String) :
    List Progress → Act (Orchestra ω × Desk) Unit
  | [] => match raises with
    | some exc => raise exc
    | none => pure ()
  | progress :: rest => do
      emit consumer progress
      play consumer raises rest

def Phase.Terminal (phase : Phase) : Prop := phase = .failed ∨ phase = .complete

instance (phase : Phase) : Decidable phase.Terminal := inferInstanceAs (Decidable (_ ∨ _))

def Launch.Takes (launch : Launch) (event : InteractionEvent) (desk : Desk) : Prop :=
  ∀ renderer ∈ launch.renderer, renderer.handle desk event = none

/-! ### The writes of an end, without the notice of it -/

section Closing

variable {ω : Type} (chief : Chief ω) (launch : Launch) (progress : Progress)

def closePassed : Act Desk InteractionEvent := do
  let desk ← get
  if desk.locals.lastVerificationDecision = none ∧ desk.analysedOnly then do
    renderText launch (desk.analysisReply chief)
    change Desk.acceptAnalysis
  else pure ()
  change Desk.passRun
  pure .runCompleted

def closeNeedsUser : Act Desk InteractionEvent := do
  change Desk.failTask
  let desk ← get
  renderText launch (desk.userQuestion progress)
  change fun desk => desk.failUnpassed "needs_user"
  pure (.runFailed needsUserNotice)

def closeComplete : Act Desk InteractionEvent := do
  change fun desk => desk.beginCompletion progress
  let desk ← get
  if desk.locals.orchResultStatus = "passed" then
    match desk.locals.lastVerificationDecision with
    | none | some .pass => closePassed chief launch
    | some decision => do
        change fun desk => desk.refuse decision
        pure (.runFailed (refusalText decision))
  else if desk.locals.orchResultStatus = "needs_user" then closeNeedsUser launch progress
  else do
    change fun desk => desk.failTask.failUnpassed "verification_failed"
    pure (.runFailed (unverifiedNotice progress))

def closeRun : Act Desk InteractionEvent :=
  if progress.phase = .failed then do
    change fun desk => desk.failRun launch progress
    pure (.runFailed progress.text)
  else closeComplete chief launch progress

theorem onPassed_eq : onPassed chief launch = closePassed chief launch >>= render launch := by
  unfold onPassed closePassed
  simp only [Act.bind_assoc, Act.ite_bind, Act.pure_bind]

theorem onNeedsUser_eq : onNeedsUser launch progress = closeNeedsUser launch progress >>= render launch := by
  unfold onNeedsUser closeNeedsUser
  simp only [Act.bind_assoc, Act.pure_bind]

theorem onComplete_eq : onComplete chief launch progress = closeComplete chief launch progress >>= render launch := by
  unfold onComplete closeComplete refuseCompletion onUnverified
  rw [onPassed_eq, onNeedsUser_eq]
  simp only [Act.bind_assoc, Act.ite_bind, Act.pure_bind]
  refine congrArg (Bind.bind _) (funext fun _ => congrArg (Bind.bind _) (funext fun desk => ?_))
  split
  · generalize desk.locals.lastVerificationDecision = last
    cases last with
    | none => rfl
    | some decision =>
        cases decision with
        | pass => rfl
        | retry | stop | needUser => simp only [Act.bind_assoc, Act.pure_bind]
  · rfl

theorem onPhase_terminal (terminal : progress.phase.Terminal) :
    onPhase chief launch progress =
      ((closeRun chief launch progress >>= render launch).second : Act (Orchestra ω × Desk) Unit) := by
  unfold onPhase closeRun
  rcases terminal with failed | complete
  · rw [failed, if_pos rfl, Act.bind_assoc]
    rfl
  · rw [complete, if_neg Phase.noConfusion, onComplete_eq]

end Closing

def Desk.standing (desk : Desk) : List Outcome × Bool × TaskStatus × String :=
  (outcomes desk.events, desk.locals.terminalSent, desk.taskStatus, desk.locals.orchResultStatus)

def Desk.Closed (desk : Desk) (earlier : List Outcome) (outcome : Outcome) : Prop :=
  outcomes desk.events = earlier ++ [outcome] ∧ desk.locals.terminalSent = true ∧
    match outcome with
    | .completed => desk.taskStatus = .done ∧ desk.locals.orchResultStatus = "passed"
    | .failed => desk.taskStatus = .failed ∧ desk.locals.orchResultStatus ≠ "passed"

section Standing

variable (desk : Desk)

theorem outcomes_plain (desk : Desk) {event : RuntimeEvent} (plain : event.outcome? = none) :
    outcomes (desk.append event).events = outcomes desk.events := by
  unfold Desk.append
  rw [outcomes_append]
  unfold outcomes
  rw [List.filterMap_cons_none plain, List.filterMap_nil, List.append_nil]

theorem standing_append {event : RuntimeEvent} (plain : event.outcome? = none) :
    (desk.append event).standing = desk.standing :=
  congrArg (·, desk.locals.terminalSent, desk.taskStatus, desk.locals.orchResultStatus) (outcomes_plain desk plain)

theorem standing_wait (launch : Launch) : (desk.wait launch).standing = desk.standing :=
  congrArg (·, desk.locals.terminalSent, desk.taskStatus, desk.locals.orchResultStatus)
    (congrArg (fun settled => settled.2.1) (desk.settled_wait launch))

theorem patient_standing (launch : Launch) : Patient launch Desk.standing := ⟨fun desk => standing_wait desk launch, fun _ => rfl⟩

variable {earlier : List Outcome}

theorem Desk.Closed.of_same {desk after : Desk} {outcome : Outcome}
    (closed : desk.Closed earlier outcome) (same : after.standing = desk.standing) : after.Closed earlier outcome := by
  simp only [Desk.standing, Prod.mk.injEq] at same
  obtain ⟨events, terminalSent, taskStatus, orchResultStatus⟩ := same
  unfold Desk.Closed
  rw [events, terminalSent, taskStatus, orchResultStatus]
  exact closed

theorem standing_endClaudeRun (launch : Launch) (status text : String) :
    (desk.endClaudeRun launch status text).1.standing = desk.standing := by
  unfold Desk.endClaudeRun
  split <;> rfl

theorem standing_failAgent (launch : Launch) (agent text : String) :
    (desk.failAgent launch agent text).standing = desk.standing := by
  unfold Desk.failAgent
  split
  · have same := standing_endClaudeRun desk launch "failed" text
    exact same
  · split <;> rfl

theorem closed_failed {desk after : Desk} {reason : String} {agent : Option String} {verifyRound : Option Int}
    {decision : Option Verdict} (same : after.standing = (outcomes desk.events, true, .failed, after.locals.orchResultStatus))
    (unpassed : after.locals.orchResultStatus ≠ "passed") :
    (after.append (.runFailed reason agent verifyRound decision)).Closed (outcomes desk.events) .failed := by
  simp only [Desk.standing, Prod.mk.injEq] at same
  obtain ⟨events, terminalSent, taskStatus, -⟩ := same
  refine ⟨?_, terminalSent, taskStatus, unpassed⟩
  exact (outcomes_append after.events _).trans (congrArg (· ++ [Outcome.failed]) events)

end Standing

section Closes

variable {ω : Type} (chief : Chief ω) (launch : Launch) (progress : Progress)

def Closes (earlier : List Outcome) (ended : Ending InteractionEvent) (desk : Desk) : Prop :=
  (∀ notice, ended = .value notice → ∃ outcome, desk.Closed earlier outcome) ∧
    ((∀ notice, ended ≠ .value notice) → outcomes desk.events = earlier)

variable {desk : Desk}

theorem closes_value {notice : InteractionEvent} {outcome : Outcome}
    (closed : desk.Closed earlier outcome) : Closes earlier (.value notice) desk :=
  ⟨fun _ _ => ⟨outcome, closed⟩, fun early => absurd rfl (early notice)⟩

theorem standing_renderText (text : String) : (renderText launch text).Keeps Desk.standing :=
  keeps_ite (keeps_pure ()) (keeps_render (patient_standing launch) _)

theorem outcomes_of_standing {after : Desk} (same : after.standing = desk.standing) :
    outcomes after.events = outcomes desk.events := congrArg Prod.fst same

theorem closes_stops (ended : Ending InteractionEvent) (desk : Desk)
    (early : ∀ value, ended ≠ .value value) (same : outcomes desk.events = earlier) : Closes earlier ended desk :=
  ⟨fun notice value => absurd value (early notice), fun _ => same⟩

section

variable (terminalSent : desk.locals.terminalSent = true)

include terminalSent

theorem closePassed_closes (passed : desk.locals.orchResultStatus = "passed") :
    (closePassed chief launch).Meets (Closes (outcomes desk.events)) desk := by
  have passes : ∀ after : Desk, after.standing = desk.standing → Meets (do
      change Desk.passRun
      pure .runCompleted) (Closes (outcomes desk.events)) after := by
    intro after same
    simp only [Desk.standing, Prod.mk.injEq] at same
    obtain ⟨events, sent, -, status⟩ := same
    have closed : after.passRun.Closed (outcomes desk.events) .completed := by
      refine ⟨?_, sent.trans terminalSent, rfl, status.trans passed⟩
      exact (outcomes_append after.events _).trans (congrArg (· ++ [Outcome.completed]) events)
    exact closes_value closed
  refine meets_get_bind.mpr ?_
  split
  · refine meets_bind_keeps (standing_renderText launch _)
      (fun ended after early same => closes_stops ended after early (outcomes_of_standing same)) ?_
    intro _ after _ same
    exact meets_modify_bind.mpr (passes after.acceptAnalysis ((standing_append _ rfl).trans same))
  · exact passes desk rfl

theorem closeNeedsUser_closes (needsUser : desk.locals.orchResultStatus = "needs_user") :
    (closeNeedsUser launch progress).Meets (Closes (outcomes desk.events)) desk := by
  refine meets_modify_bind.mpr (meets_get_bind.mpr (meets_bind_keeps (standing_renderText launch _) ?_ ?_))
  · intro ended after early same
    have events : outcomes after.events = outcomes desk.failTask.events := outcomes_of_standing same
    exact closes_stops ended after early events
  · intro _ after _ same
    have status : after.locals.orchResultStatus = "needs_user" := (congrArg (fun all => all.2.2.2) same).trans needsUser
    refine meets_modify_bind.mpr (closes_value (closed_failed (same.trans ?_) ?_))
    · rw [status, ← needsUser, ← terminalSent]
      rfl
    · rw [status]
      decide

theorem closed_refuse (decision : Verdict) :
    (desk.refuse decision).Closed (outcomes desk.events) .failed :=
  ⟨outcomes_append _ _, terminalSent, rfl, show ("failed" : String) ≠ "passed" by decide⟩

theorem closed_unverified (unpassed : desk.locals.orchResultStatus ≠ "passed") (reason : String) :
    (desk.failTask.failUnpassed reason).Closed (outcomes desk.events) .failed :=
  ⟨outcomes_append _ _, terminalSent, rfl, unpassed⟩

end

theorem closeComplete_closes (desk : Desk) :
    (closeComplete chief launch progress).Meets (Closes (outcomes desk.events)) desk := by
  refine meets_modify_bind.mpr ?_
  have terminalSent : (desk.beginCompletion progress).locals.terminalSent = true := rfl
  have same : outcomes (desk.beginCompletion progress).events = outcomes desk.events := rfl
  rw [← same]
  refine meets_get_bind.mpr ?_
  split
  case isTrue passed =>
    split
    · exact closePassed_closes chief launch terminalSent passed
    · exact closePassed_closes chief launch terminalSent passed
    · exact meets_modify_bind.mpr (closes_value (closed_refuse terminalSent _))
  case isFalse unpassed =>
    split
    case isTrue needsUser => exact closeNeedsUser_closes launch progress terminalSent needsUser
    case isFalse => exact meets_modify_bind.mpr (closes_value (closed_unverified terminalSent unpassed _))

theorem closed_failRun (desk : Desk) : (desk.failRun launch progress).Closed (outcomes desk.events) .failed := by
  let text := firstText progress.fullText progress.text
  let noted : Desk := { desk.assign fun locals =>
    { locals with
      terminalSent := true
      orchResultStatus := "failed"
      verifyRound := roundOr progress locals.verifyRound
      terminalText := text } with taskStatus := .failed }
  have same : (noted.failAgent launch progress.agent text).standing = (outcomes desk.events, true, .failed, "failed") :=
    standing_failAgent noted launch progress.agent text
  have status : (noted.failAgent launch progress.agent text).locals.orchResultStatus = "failed" :=
    congrArg (fun all => all.2.2.2) same
  refine closed_failed (same.trans ?_) ?_
  · rw [status]
  · rw [status]
    decide

theorem closeRun_closes (desk : Desk) :
    (closeRun chief launch progress).Meets (Closes (outcomes desk.events)) desk := by
  unfold closeRun
  split
  · exact meets_modify_bind.mpr (closes_value (closed_failRun launch progress desk))
  · exact closeComplete_closes chief launch progress desk

end Closes

section Finish

variable {ω : Type} (chief : Chief ω) (launch : Launch)

section Conclude

variable {launch} {desk : Desk}

theorem conclude_eq (desk : Desk) : outcomes (desk.conclude launch).events = outcomes desk.events ∧
    (desk.conclude launch).taskStatus = desk.taskStatus ∧ (desk.conclude launch).run.status =
      if desk.locals.orchResultStatus = "running" then "failed" else desk.locals.orchResultStatus := by
  have task : desk.recordDecision.taskStatus = desk.taskStatus := by
    unfold Desk.recordDecision
    dsimp only
    split <;> rfl
  refine ⟨congrArg outcomes (events_conclude launch desk), ?_, ?_⟩
  · exact (apply_ite Desk.taskStatus _ _ _).trans ((ite_self _).trans task)
  · exact (apply_ite (fun desk : Desk => desk.run.status) _ _ _).trans (ite_self _)

theorem Desk.Closed.concludes {outcome : Outcome} (closed : desk.Closed earlier outcome) :
    OneOutcome earlier (desk.conclude launch) := by
  obtain ⟨events, -, written⟩ := closed
  obtain ⟨concluded, task, status⟩ := @conclude_eq launch desk
  refine ⟨outcome, concluded.trans events, ?_⟩
  cases outcome with
  | completed =>
      obtain ⟨done, passed⟩ := written
      refine ⟨task.trans done, status.trans ?_⟩
      rw [passed]
      rfl
  | failed =>
      obtain ⟨failed, unpassed⟩ := written
      refine ⟨task.trans failed, ?_⟩
      rw [status]
      split
      · exact ⟨by decide, by decide⟩
      · exact ⟨unpassed, ‹_›⟩

end Conclude

theorem closed_abandonRun (desk : Desk) (exc : String) :
    (desk.abandonRun launch exc).Closed (outcomes desk.events) .failed :=
  ⟨outcomes_append _ _, rfl, rfl, show ("failed" : String) ≠ "passed" by decide⟩

theorem finish_error (exc : String) (both : Orchestra ω × Desk) :
    (finish launch (.error exc)).Meets (fun _ after => OneOutcome (outcomes both.2.events) after.2) both := by
  have patient : Patient launch fun desk => (desk.standing, desk.run.status) :=
    ⟨fun desk => congrArg (·, desk.run.status) (standing_wait desk launch), fun _ => rfl⟩
  have shows : Keeps (fun desk => (desk.standing, desk.run.status)) (render launch (.runFailed exc)) :=
    keeps_render patient _
  have closed := closed_abandonRun launch both.2 exc
  have status : (both.2.abandonRun launch exc).run.status = "failed" := rfl
  have excepts : ((onException launch exc).second : Act (Orchestra ω × Desk) Unit).Meets (fun _ after =>
      after.2.Closed (outcomes both.2.events) .failed ∧ after.2.run.status = "failed") both := by
    have same := shows (both.2.abandonRun launch exc)
    exact ⟨closed.of_same (Prod.mk.inj same).1, (Prod.mk.inj same).2.trans status⟩
  refine meets_bind.mpr (excepts.mono ?_)
  rintro ended after ⟨closed, status⟩
  have stands : OneOutcome (outcomes both.2.events) after.2 := by
    refine ⟨.failed, closed.1, closed.2.2.1, ?_⟩
    rw [status]
    exact ⟨by decide, by decide⟩
  cases ended with
  | value value => exact closed.concludes
  | raised | left | running => exact stands

theorem not_twice {outcome : Outcome} {before after : Desk}
    (events : outcomes before.events = earlier ++ [outcome]) (more : OneOutcome (outcomes before.events) after) :
    ¬OneOutcome earlier after := by
  rintro ⟨only, once, -⟩
  obtain ⟨second, twice, -⟩ := more
  have lengths := congrArg List.length (once.symm.trans twice)
  rw [events] at lengths
  simp at lengths

end Finish

section Streams

variable {ω : Type} (chief : Chief ω) (launch : Launch)

def Orderly (raises : Option String) : List Progress → Orchestra ω × Desk → Prop
  | [], _ => raises.isSome
  | progress :: rest, both =>
      (progress.phase.Terminal → ∀ notice after,
        (closeRun chief launch progress).run (both.2.wait launch) = (.value notice, after) →
          launch.Takes notice after ∧ raises = none) ∧
      (¬progress.phase.Terminal → ∀ after, (onProgress chief launch progress).run both = (.value (), after) →
        Orderly raises rest after)

def played (raises : Option String) (items : List Progress) (both : Orchestra ω × Desk) : Desk :=
  ((attempt (play (onProgress chief launch) raises items).consumed >>= finish launch).run both).2.2

variable {chief launch} {raises : Option String} {both after : Orchestra ω × Desk} {message : String}

theorem render_takes {event : InteractionEvent} {desk : Desk} (takes : launch.Takes event desk) :
    ((render launch event).run desk).1 = .value () := by
  unfold render
  cases found : launch.renderer with
  | none => rfl
  | some renderer =>
      rw [run_get_bind]
      have taken := takes renderer found
      rw [taken]
      rfl

theorem render_refuses {event : InteractionEvent} {desk : Desk} (refuses : ¬launch.Takes event desk) :
    ∃ exc, ((render launch event).run desk).1 = .raised exc := by
  unfold Launch.Takes at refuses
  push Not at refuses
  obtain ⟨renderer, found, refused⟩ := refuses
  obtain ⟨exc, raised⟩ := Option.ne_none_iff_exists'.mp refused
  refine ⟨exc, ?_⟩
  unfold render
  rw [Option.mem_def.mp found, run_get_bind, raised]
  rfl

variable (launch) in
def endedAs (result : Ending Unit × Orchestra ω × Desk) : Desk :=
  ((attempt ⟨fun _ => (result.1.resume, result.2)⟩ >>= finish launch).run result.2).2.2

theorem played_eq (items : List Progress) :
    played chief launch raises items both = endedAs launch ((play (onProgress chief launch) raises items).run both) := rfl

variable {progress : Progress} {rest : List Progress}

theorem played_value (ran : (onProgress chief launch progress).run both = (.value (), after)) :
    played chief launch raises (progress :: rest) both = played chief launch raises rest after := by
  have emitted : (emit (onProgress chief launch) progress).run both = (.value (), after) :=
    congrArg (fun result : Ending Unit × Orchestra ω × Desk => (result.1.leave, result.2)) ran
  rw [played_eq, played_eq]
  exact congrArg (endedAs launch) (bind_value emitted)

theorem played_raised (ran : (onProgress chief launch progress).run both = (.raised message, after)) :
    played chief launch raises (progress :: rest) both = ((finish launch (.error message)).run after).2.2 := by
  have emitted : (emit (onProgress chief launch) progress).run both = (.left message, after) :=
    congrArg (fun result : Ending Unit × Orchestra ω × Desk => (result.1.leave, result.2)) ran
  rw [played_eq]
  exact congrArg (endedAs launch) (bind_left emitted)

theorem played_nil : played chief launch none [] both = both.2.conclude launch := rfl

theorem outcome_onPhase (going : ¬progress.phase.Terminal) :
    (onPhase chief launch progress).Keeps fun both => both.2.outcome := by
  have quietly : ∀ {handler : Act Desk Unit}, handler.Keeps Desk.settled →
      (handler.second : Act (Orchestra ω × Desk) Unit).Keeps fun both => both.2.outcome :=
    fun kept => keeps_second fun _ => kept.of_eq fun _ _ => outcome_of_settled
  have phased := quietly (keeps_handlePhaseProgress (patient_settled launch) progress)
  unfold onPhase
  cases at_phase : progress.phase with
  | implDelta => exact quietly (settled_onImplDelta launch progress)
  | analysisStarted => exact keeps_bind phased fun _ => quietly (settled_onAnalysisStarted launch)
  | analysisComplete => exact keeps_bind phased fun _ => quietly (settled_onAnalysisComplete launch progress)
  | implComplete => exact keeps_bind phased fun _ => quietly (settled_onImplComplete launch progress)
  | verifyStarted =>
      exact keeps_bind phased fun _ => (settled_onVerifyStarted launch progress).of_eq fun _ _ => outcome_of_settled
  | verifyComplete =>
      refine keeps_bind phased fun _ => keeps_second fun _ desk => ?_
      exact congrArg (fun settled => settled.2) (onVerifyComplete_rules launch chief progress desk)
  | failed => exact absurd (.inl at_phase) going
  | complete => exact absurd (.inr at_phase) going
  | other name => exact keeps_pure ()

theorem outcome_onProgress {progress : Progress} (going : ¬progress.phase.Terminal) :
    (onProgress chief launch progress).Keeps fun both => both.2.outcome :=
  keeps_bind (keeps_second fun _ => keeps_modify fun desk => outcome_of_settled (desk.settled_wait launch)) fun _ =>
    keeps_bind keeps_get fun _ => keeps_ite (keeps_pure ()) (outcome_onPhase going)

theorem played_closed {outcome : Outcome} (closed : both.2.Closed earlier outcome) (items : List Progress) :
    OneOutcome earlier (played chief launch raises items both) ↔ raises = none := by
  induction items generalizing both with
  | nil =>
      cases raises with
      | none => exact ⟨fun _ => rfl, fun _ => closed.concludes⟩
      | some exc =>
          refine ⟨fun once => absurd once ?_, nofun⟩
          exact not_twice closed.1 (finish_error launch exc both)
  | cons progress rest ih =>
      have ended := onProgress_ended launch chief progress closed.2.1
      rw [played_value ended]
      exact ih (closed.of_same (standing_wait both.2 launch))

theorem terminal_run {progress : Progress} (terminal : progress.phase.Terminal)
    (isOpen : both.2.locals.terminalSent = false) :
    (onProgress chief launch progress).run both =
      (((closeRun chief launch progress >>= render launch).run (both.2.wait launch)).1, both.1,
        ((closeRun chief launch progress >>= render launch).run (both.2.wait launch)).2) := by
  rw [onProgress_open launch chief progress isOpen, onPhase_terminal chief launch progress terminal]
  rfl

theorem terminal_iff (terminal : progress.phase.Terminal) (isOpen : both.2.locals.terminalSent = false) :
    OneOutcome (outcomes both.2.events) (played chief launch raises (progress :: rest) both) ↔
      ∀ notice after, (closeRun chief launch progress).run (both.2.wait launch) = (.value notice, after) →
        launch.Takes notice after ∧ raises = none := by
  have events : outcomes (both.2.wait launch).events = outcomes both.2.events :=
    outcomes_of_standing (standing_wait both.2 launch)
  have closes : Closes (outcomes both.2.events) ((closeRun chief launch progress).run (both.2.wait launch)).1
      ((closeRun chief launch progress).run (both.2.wait launch)).2 :=
    events ▸ closeRun_closes chief launch progress (both.2.wait launch)
  have handled := @terminal_run _ chief launch _ _ terminal isOpen
  obtain ⟨settled, settles⟩ := settles_onProgress launch progress chief both
  cases closing : (closeRun chief launch progress).run (both.2.wait launch) with
  | mk ended after =>
      rw [closing] at closes
      cases ended with
      | value notice =>
          obtain ⟨outcome, closed⟩ := closes.1 notice rfl
          have shown : ((render launch notice).run after).2.Closed (outcomes both.2.events) outcome :=
            closed.of_same (keeps_render (patient_standing launch) notice after)
          rw [bind_value closing] at handled
          by_cases takes : launch.Takes notice after
          · rw [render_takes takes] at handled
            rw [played_value handled, played_closed shown rest]
            refine ⟨fun silent notice' after' same => ?_, fun taken => (taken notice after rfl).2⟩
            cases same
            exact ⟨takes, silent⟩
          · obtain ⟨exc, raised⟩ := render_refuses takes
            rw [raised] at handled
            rw [played_raised handled]
            refine ⟨fun once => absurd once ?_, fun taken => absurd (taken notice after rfl).1 takes⟩
            exact not_twice shown.1 (finish_error launch exc _)
      | raised exc =>
          rw [bind_raised closing] at handled
          rw [played_raised handled]
          refine ⟨fun _ notice next same => ?_, fun _ => ?_⟩
          · cases (Prod.mk.inj same).1
          · have same : outcomes after.events = outcomes both.2.events := closes.2 fun _ same => by cases same
            rw [← same]
            exact finish_error launch exc (both.1, after)
      | left exc =>
          rw [bind_left closing] at handled
          rw [handled] at settles
          rcases settles with ⟨value, same⟩ | ⟨exc, same⟩ <;> cases same
      | running =>
          rw [bind_running closing] at handled
          rw [handled] at settles
          rcases settles with ⟨value, same⟩ | ⟨exc, same⟩ <;> cases same

theorem played_iff (isOpen : both.2.locals.terminalSent = false) (items : List Progress) :
    OneOutcome (outcomes both.2.events) (played chief launch raises items both) ↔
      Orderly chief launch raises items both := by
  induction items generalizing both with
  | nil =>
      cases raises with
      | none =>
          refine ⟨fun once => absurd once ?_, nofun⟩
          rintro ⟨outcome, more, -⟩
          rw [played_nil, (conclude_eq both.2).1] at more
          simp at more
      | some exc => exact ⟨fun _ => rfl, fun _ => finish_error launch exc both⟩
  | cons progress rest ih =>
      by_cases terminal : progress.phase.Terminal
      · rw [terminal_iff terminal isOpen]
        exact ⟨fun taken => ⟨fun _ => taken, fun going => absurd terminal going⟩, fun orderly => orderly.1 terminal⟩
      · have same := @outcome_onProgress _ chief launch _ terminal both
        obtain ⟨after, ⟨⟨⟩, ran⟩ | ⟨exc, ran⟩⟩ := settles_onProgress launch progress chief both
        · rw [ran] at same
          have events : outcomes after.2.events = outcomes both.2.events := congrArg Prod.fst same
          have stillOpen : after.2.locals.terminalSent = false := (congrArg Prod.snd same).trans isOpen
          rw [played_value ran, ← events, ih stillOpen]
          refine ⟨fun orderly => ⟨fun ends => absurd ends terminal, fun _ next reached => ?_⟩, fun orderly => ?_⟩
          · rw [ran] at reached
            cases reached
            exact orderly
          · exact orderly.2 terminal after ran
        · rw [ran] at same
          have events : outcomes after.2.events = outcomes both.2.events := congrArg Prod.fst same
          rw [played_raised ran, ← events]
          refine ⟨fun _ => ⟨fun ends => absurd ends terminal, fun _ next reached => ?_⟩,
            fun _ => finish_error launch exc after⟩
          rw [ran] at reached
          cases reached

variable (chief launch) in
/-- Over every stream of progress and every renderer: a run ends with exactly one outcome, with which
its task and its row agree, where the stream is orderly, and nowhere else. -/
theorem one_outcome_iff (raises : Option String) (items : List Progress) (orchestra : Orchestra ω) (desk : Desk) :
    OneOutcome (outcomes desk.events)
        ((runChiefEngineer chief launch fun consumer => play consumer raises items).run (orchestra, desk.fresh)).2.2 ↔
      Orderly chief launch raises items (begun launch orchestra desk) := by
  have settled := settled_begun launch orchestra desk
  have events : outcomes (begun launch orchestra desk).2.events = outcomes desk.events :=
    congrArg (fun settled => settled.2.1) settled
  have isOpen : (begun launch orchestra desk).2.locals.terminalSent = false :=
    congrArg (fun settled => settled.2.2) settled
  obtain ⟨hadPending, injected⟩ := injectPendingContext_returns launch
    (orchestra, desk.fresh.append (.phaseChanged "running_analysis" 0))
  have ran : ((runChiefEngineer chief launch fun consumer => play consumer raises items).run
      (orchestra, desk.fresh)).2.2 = played chief launch raises items (begun launch orchestra desk) := by
    exact congrArg (fun result : Ending Unit × Orchestra ω × Desk => result.2.2) (bind_value injected)
  rw [ran, ← events]
  exact played_iff isOpen items

def silentAtCompletion : Renderer where
  hasRuntimeStatusSurface := none
  runtimeProgress := true
  handle _ event := match event with
    | .runCompleted => some "message is not sent"
    | _ => none

def idleChief : Chief Unit where
  backends :=
    { codex := fun _ _ _ => (.ok "", ())
      claude := fun _ _ => (.ok "", ())
      claudeStreaming := none
      evidence := fun _ => ⟨[], "", ""⟩
      snapshot := fun _ => none }
  python := Native.samplePython

/-- A run that was completed fails, when that is not shown. -/
theorem unshown_completion_fails :
    ¬∀ (chief : Chief Unit) (launch : Launch) (raises : Option String) (items : List Progress)
        (orchestra : Orchestra Unit) (desk : Desk), OneOutcome (outcomes desk.events)
      ((runChiefEngineer chief launch fun consumer => play consumer raises items).run (orchestra, desk.fresh)).2.2 := by
  intro always
  let launch : Launch := { plainLaunch with renderer := some silentAtCompletion }
  let items : List Progress :=
    [{ phase := .complete, text := "Codex 认为无需实施代码修改。", agent := "codex", resultStatus := "passed" }]
  have twice : outcomes ((runChiefEngineer idleChief launch fun consumer => play consumer none items).run
      ({ world := () }, emptyDesk.fresh)).2.2.events = [.completed, .failed] := by decide +kernel
  obtain ⟨outcome, once, -⟩ := always idleChief launch none items { world := () } emptyDesk
  rw [twice] at once
  cases once

end Streams

end Wlcodex.Orchestrator
