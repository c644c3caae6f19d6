import Wlcodex.Projector.RunRows

namespace Wlcodex.Projector

open Wlcodex.Lib
open Wlcodex.Relay (Dict str truthy firstTruthy)
open Wlcodex.State

/-! The row of an agent run, but for its token totals, when a log is projected once more. -/

variable {builtins : Builtins}

def agentKind (id : Int) (event : RuntimeEvent) : Option AgentEvent :=
  if event.agentRunId = some id then
    match event.eventType with
    | .agent kind => some kind
    | _ => none
  else none

def flags (id : Int) (event : RuntimeEvent) : Bool :=
  event.agentRunId = some id ∧ event.eventType ∈ securityEvents

/-- `agentStep`, but for tokens. -/
def agentWrite (builtins : Builtins) (id : Int) (row : Option AgentRow) (event : RuntimeEvent) :
    Option AgentRow :=
  (agentKind id event).elim
    (if flags id event then row.map (.flag (securityNote builtins event)) else row)
    fun kind => projectAgentRow builtins event kind row

def AgentRow.bare (row : AgentRow) : AgentRow := { row with tokenInput := 0, tokenOutput := 0 }

theorem AgentRow.noteSession_bare (session : String) (row : AgentRow) :
    (row.noteSession session).bare = row.bare.noteSession session := by
  unfold AgentRow.noteSession
  rw [apply_ite AgentRow.bare]
  rfl

variable {event : RuntimeEvent} {kind : AgentEvent}

theorem AgentRow.write_bare (row : AgentRow) :
    (row.write builtins event kind).bare = row.bare.write builtins event kind := by
  cases kind with
  | activity | heartbeat | completed => exact AgentRow.noteSession_bare _ _
  | queued | started | waitingForApproval | failed | timedOut | orphaned => rfl

theorem upsertAgentRun_bare (event : RuntimeEvent) (row : Option AgentRow) :
    (upsertAgentRun builtins event row).bare = upsertAgentRun builtins event (row.map AgentRow.bare) := by
  cases row with
  | none | some => rfl

theorem projectAgentRow_bare (row : Option AgentRow) :
    (projectAgentRow builtins event kind row).map AgentRow.bare =
      projectAgentRow builtins event kind (row.map AgentRow.bare) := by
  have terminal : (row.map AgentRow.bare).any AgentRow.isTerminal = row.any AgentRow.isTerminal := by
    cases row with
    | none | some => rfl
  unfold projectAgentRow
  rw [terminal]
  split
  · exact congrArg some (upsertAgentRun_bare event row)
  · split
    · split
      · rw [Option.map_map, Option.map_map]
        exact congrArg (row.map ·) (funext (AgentRow.noteSession_bare _))
      · rfl
    · rw [Option.map_some, AgentRow.write_bare, upsertAgentRun_bare]

theorem agentStep_bare (usage : List UsageRow) (id : Int) (row : Option AgentRow) (event : RuntimeEvent) :
    (agentStep builtins usage id row event).map AgentRow.bare =
      agentWrite builtins id (row.map AgentRow.bare) event := by
  have spent (counts : UsageCounts) :
      (row.map (AgentRow.spend counts)).map AgentRow.bare = row.map AgentRow.bare := by
    cases row with
    | none | some => rfl
  have flagged (note : String) : (row.map (AgentRow.flag note)).map AgentRow.bare =
      (row.map AgentRow.bare).map (AgentRow.flag note) := by
    cases row with
    | none | some => rfl
  unfold agentStep agentWrite agentKind flags
  split
  next named =>
    cases type : event.eventType with
    | agent kind => exact projectAgentRow_bare row
    | modelUsageUpdated =>
        rw [if_neg (by simp [securityEvents])]
        cases usageOutcome builtins usage event with
        | counted counts => exact spent counts
        | added counts added => exact spent counts
        | raised => rfl
    | run kind | approval kind | watchdog kind | verification kind | conversation kind
    | approvalSuperseded => simp [securityEvents]
    | other name =>
        by_cases security : EventType.other name ∈ securityEvents
        · simpa [security, named] using flagged _
        · simp [security]
  next other => simp [other]

variable {id : Int}

theorem flags_kind (flagged : flags id event = true) :
    agentKind id event = none := by
  obtain ⟨-, security⟩ := of_decide_eq_true flagged
  unfold agentKind
  split
  · cases type : event.eventType with
    | agent kind =>
        rw [type] at security
        cases kind <;> exact absurd security (by decide)
    | run kind | modelUsageUpdated | approval kind | watchdog kind | verification kind
    | conversation kind | approvalSuperseded | other name => rfl
  · rfl

def AgentRow.closedTo (kind : AgentEvent) (row : AgentRow) : Bool := row.isTerminal && !endsAgent kind

theorem projectAgentRow_write {row : Option AgentRow} (opened : row.any (AgentRow.closedTo kind) = false) :
    projectAgentRow builtins event kind row =
      some ((upsertAgentRun builtins event row).write builtins event kind) := by
  unfold projectAgentRow
  split
  next queued =>
    cases queued
    rfl
  · have both : (row.any AgentRow.isTerminal && !endsAgent kind) = false := by
      cases row with
      | none => rfl
      | some row => exact opened
    rw [if_neg (by simp [both])]

def notes (kind : AgentEvent) : Bool := kind ∈ [.activity, .heartbeat, .completed]

variable {row : AgentRow}

theorem projectAgentRow_closed (closed : row.closedTo kind = true) :
    projectAgentRow builtins event kind (some row) =
      some (if notes kind then row.noteSession (sessionId builtins event.payload) else row) := by
  obtain ⟨terminal, going⟩ := Bool.and_eq_true_iff.mp closed
  unfold projectAgentRow
  rw [Option.any_some, terminal, Bool.true_and]
  cases kind with
  | queued | started | waitingForApproval | activity | heartbeat => rfl
  | completed | failed | timedOut | orphaned => cases going

def statusOf : AgentEvent → Option AgentRowStatus
  | .started | .waitingForApproval => some .running
  | .completed => some .done
  | .failed | .timedOut | .orphaned => some .failed
  | .queued | .activity | .heartbeat => none

theorem AgentRow.write_status (row : AgentRow) :
    (row.write builtins event kind).status = (statusOf kind).getD row.status := by
  cases kind with
  | completed | activity | heartbeat => exact AgentRow.noteSession_status _ _
  | queued | started | waitingForApproval | failed | timedOut | orphaned => rfl

theorem AgentRow.noteSession_summary (session : String) (row : AgentRow) :
    (row.noteSession session).completionSummary = row.completionSummary := by
  unfold AgentRow.noteSession
  split
  · rfl
  · rfl

theorem AgentRow.write_terminal (ends : endsAgent kind = true)
    (row : AgentRow) : (row.write builtins event kind).isTerminal = true := by
  unfold AgentRow.isTerminal
  rw [AgentRow.write_status]
  cases kind with
  | completed | failed | timedOut | orphaned => rfl
  | queued | started | activity | heartbeat | waitingForApproval => cases ends

def completionOf (builtins : Builtins) (event : RuntimeEvent) : String :=
  builtins.textField event.payload "summary"
    (builtins.textField event.payload "completion_summary" "")

theorem AgentRow.write_summary (row : AgentRow) :
    (row.write builtins event kind).completionSummary =
      if kind = .completed then completionOf builtins event else row.completionSummary := by
  cases kind with
  | completed | activity | heartbeat => exact AgentRow.noteSession_summary _ _
  | queued | started | waitingForApproval | failed | timedOut | orphaned => rfl

/-- `_project_session_id`, on the column. -/
def noteText (session : String) (known : Option String) : Option String :=
  if session ≠ "" ∧ known.getD "" = "" then some session else known

theorem AgentRow.noteSession_session (session : String) (row : AgentRow) :
    (row.noteSession session).externalSessionId = noteText session row.externalSessionId := by
  unfold AgentRow.noteSession noteText
  split
  · rfl
  · rfl

def sessionAfter (builtins : Builtins) (event : RuntimeEvent) (kind : AgentEvent)
    (known : Option String) : Option String :=
  if notes kind then noteText (sessionId builtins event.payload) known
  else if kind = .started then
    ((firstTruthy event.payload ["external_session_id"]).map (str builtins.repr)).or known
  else known

theorem AgentRow.write_session (row : AgentRow) :
    (row.write builtins event kind).externalSessionId =
      sessionAfter builtins event kind row.externalSessionId := by
  cases kind with
  | completed | activity | heartbeat => exact AgentRow.noteSession_session _ _
  | started =>
      dsimp only [AgentRow.write]
      unfold sessionAfter
      cases firstTruthy event.payload ["external_session_id"] with
      | none | some => rfl
  | queued | waitingForApproval | failed | timedOut | orphaned => rfl

theorem str_ne_of_truthy (builtins : Builtins) {value : Json} (holds : truthy value = true) :
    str builtins.repr value ≠ "" := by
  cases value with
  | string text => exact of_decide_eq_true holds
  | null | bool value | int value | float literal | nan | infinity sign | array items
  | object members => exact builtins.repr_ne _

theorem truthy_of_firstTruthy {payload : Dict} {keys : List String} {value : Json}
    (found : firstTruthy payload keys = some value) : truthy value = true := by
  obtain ⟨key, -, kept⟩ := List.exists_of_findSome?_eq_some found
  exact (Option.filter_eq_some_iff.mp kept).2

variable {known : Option String} {next : AgentRow}

theorem sessionAfter_known
    (held : known.getD "" ≠ "") : (sessionAfter builtins event kind known).getD "" ≠ "" := by
  unfold sessionAfter
  split
  · unfold noteText
    rw [if_neg fun both => held both.2]
    exact held
  · split
    · cases found : firstTruthy event.payload ["external_session_id"] with
      | none => exact held
      | some value => exact str_ne_of_truthy builtins (truthy_of_firstTruthy found)
    · exact held

theorem noteText_known {session : String} (named : session ≠ "") :
    (noteText session known).getD "" ≠ "" := by
  unfold noteText
  split
  · exact named
  next kept => exact fun empty => kept ⟨named, empty⟩

structure AgentRow.Onward (before after : AgentRow) : Prop where
  terminal : before.isTerminal = true → after.isTerminal = true
  known : before.externalSessionId.getD "" ≠ "" → after.externalSessionId.getD "" ≠ ""

theorem projectAgentRow_onward {event : RuntimeEvent} {kind : AgentEvent} (row : AgentRow) :
    ∃ next, projectAgentRow builtins event kind (some row) = some next ∧ AgentRow.Onward row next := by
  cases closed : row.closedTo kind with
  | true =>
      refine ⟨_, projectAgentRow_closed closed, fun terminal => ?_, fun held => ?_⟩
      · split
        · unfold AgentRow.isTerminal
          rw [AgentRow.noteSession_status]
          exact terminal
        · exact terminal
      · split
        · rw [AgentRow.noteSession_session]
          unfold noteText
          rw [if_neg fun both => held both.2]
          exact held
        · exact held
  | false =>
      refine ⟨_, projectAgentRow_write (by exact closed), fun terminal => ?_, fun held => ?_⟩
      · have last := @projectAgentRow_terminal builtins event kind row terminal
        rw [projectAgentRow_write (by exact closed)] at last
        exact last
      · rw [AgentRow.write_session]
        exact sessionAfter_known held

theorem projectAgentRow_some {event : RuntimeEvent} {kind : AgentEvent} (row : Option AgentRow) :
    ∃ next, projectAgentRow builtins event kind row = some next := by
  cases row with
  | none => exact ⟨_, projectAgentRow_write rfl⟩
  | some row =>
      obtain ⟨next, written, -⟩ := @projectAgentRow_onward builtins event kind row
      exact ⟨next, written⟩

theorem agentWrite_onward (id : Int) (row : AgentRow) (event : RuntimeEvent) :
    ∃ next, agentWrite builtins id (some row) event = some next ∧ AgentRow.Onward row next := by
  unfold agentWrite
  cases agentKind id event with
  | some kind => exact projectAgentRow_onward row
  | none =>
      split
      · exact ⟨_, rfl, fun terminal => terminal, fun held => held⟩
      · exact ⟨row, rfl, fun terminal => terminal, fun held => held⟩

theorem foldl_onward (id : Int) (events : List RuntimeEvent) (row : AgentRow) :
    ∃ last, events.foldl (agentWrite builtins id) (some row) = some last ∧ AgentRow.Onward row last := by
  induction events generalizing row with
  | nil => exact ⟨row, rfl, fun terminal => terminal, fun held => held⟩
  | cons event rest ih =>
      obtain ⟨next, written, onward⟩ := @agentWrite_onward builtins id row event
      obtain ⟨last, ended, later⟩ := ih next
      refine ⟨last, ?_, fun terminal => later.terminal (onward.terminal terminal),
        fun held => later.known (onward.known held)⟩
      rw [List.foldl_cons, written, ended]

structure AgentRow.Follows (id : Int) (events : List RuntimeEvent) (final : AgentRow)
    (now : Option AgentRow) (row : AgentRow) : Prop where
  status : row.status = final.status ∨
    ∃ held, now = some held ∧ row.status = held.status ∧ held.isTerminal = final.isTerminal
  session : row.externalSessionId = final.externalSessionId ∨ final.isTerminal = false ∧
    ∃ held, now = some held ∧ row.externalSessionId = held.externalSessionId
  summary : (∃ event ∈ events, agentKind id event = some .completed) ∨
    (∃ held, now = some held ∧ row.completionSummary = held.completionSummary) ∨
    (∀ event ∈ events, flags id event = false) ∧ row.completionSummary = final.completionSummary

section Step

variable {id : Int} {event : RuntimeEvent} {rest : List RuntimeEvent} {final row : AgentRow}
  {now : Option AgentRow}

theorem AgentRow.Follows.terminal (follows : Follows id rest final now row) :
    row.isTerminal = final.isTerminal := by
  unfold AgentRow.isTerminal
  rcases follows.status with same | ⟨held, -, same, terminal⟩
  · rw [same]
  · rw [same]
    exact terminal

theorem AgentRow.Follows.quiet (follows : Follows id (event :: rest) final now row)
    (other : agentKind id event = none) (quiet : flags id event = false) :
    Follows id rest final now row := by
  refine ⟨follows.status, follows.session, ?_⟩
  rcases follows.summary with ⟨completed, member, named⟩ | same | ⟨clean, last⟩
  · rcases List.mem_cons.mp member with rfl | later
    · rw [other] at named
      cases named
    · exact .inl ⟨completed, later, named⟩
  · exact .inr (.inl same)
  · exact .inr (.inr ⟨fun other member => clean other (.tail event member), last⟩)

theorem AgentRow.Follows.flag (follows : Follows id (event :: rest) final now row)
    (flagged : flags id event = true) (note : String) :
    Follows id rest final (now.map (AgentRow.flag note)) (row.flag note) := by
  refine ⟨follows.status.imp_right ?_, follows.session.imp_right (And.imp_right ?_), ?_⟩
  · rintro ⟨held, rfl, same, terminal⟩
    exact ⟨held.flag note, rfl, same, terminal⟩
  · rintro ⟨held, rfl, same⟩
    exact ⟨held.flag note, rfl, same⟩
  · rcases follows.summary with ⟨completed, member, named⟩ | ⟨held, rfl, same⟩ | ⟨clean, -⟩
    · rcases List.mem_cons.mp member with rfl | later
      · rw [flags_kind flagged] at named
        cases named
      · exact .inl ⟨completed, later, named⟩
    · exact .inr (.inl ⟨held.flag note, rfl, congrArg (· ++ note) same⟩)
    · rw [clean event (.head rest)] at flagged
      cases flagged

variable {kind : AgentEvent} {held : AgentRow}

theorem AgentRow.Follows.summary_rest
    (follows : Follows id (event :: rest) final now row) (named : agentKind id event = some kind)
    (going : kind ≠ .completed) (mine : next.completionSummary = row.completionSummary)
    (theirs : ∀ before, now = some before → held.completionSummary = before.completionSummary) :
    (∃ event ∈ rest, agentKind id event = some .completed) ∨
      (∃ other, some held = some other ∧ next.completionSummary = other.completionSummary) ∨
      (∀ event ∈ rest, flags id event = false) ∧ next.completionSummary = final.completionSummary := by
  rw [mine]
  rcases follows.summary with ⟨completed, member, done⟩ | ⟨before, same, equal⟩ | ⟨clean, last⟩
  · rcases List.mem_cons.mp member with rfl | later
    · rw [named] at done
      cases done
      exact absurd rfl going
    · exact .inl ⟨completed, later, done⟩
  · exact .inr (.inl ⟨held, rfl, equal.trans (theirs before same).symm⟩)
  · exact .inr (.inr ⟨fun other member => clean other (.tail event member), last⟩)

theorem noteText_final {session : String}
    (later : held.Onward final) (names : session ≠ "" → held.externalSessionId.getD "" ≠ "")
    (same : known = final.externalSessionId) : noteText session known = final.externalSessionId := by
  unfold noteText
  split
  next both =>
    refine absurd ?_ (later.known (names both.1))
    rw [← same]
    exact both.2
  · exact same

theorem AgentRow.write_names (brings : notes kind = true) (row : AgentRow)
    (session : sessionId builtins event.payload ≠ "") :
    (row.write builtins event kind).externalSessionId.getD "" ≠ "" := by
  rw [AgentRow.write_session]
  unfold sessionAfter
  rw [if_pos brings]
  exact noteText_known session

theorem projectAgentRow_names (brings : notes kind = true)
    (theirs : projectAgentRow builtins event kind now = some held)
    (session : sessionId builtins event.payload ≠ "") : held.externalSessionId.getD "" ≠ "" := by
  cases closed : now.any (AgentRow.closedTo kind) with
  | false =>
      rw [projectAgentRow_write closed] at theirs
      cases theirs
      exact AgentRow.write_names brings _ session
  | true =>
      cases now with
      | none => cases closed
      | some before =>
          rw [projectAgentRow_closed (by exact closed), if_pos brings] at theirs
          cases theirs
          rw [AgentRow.noteSession_session]
          exact noteText_known session

theorem AgentRow.Follows.closed
    (follows : Follows id (event :: rest) final now row) (named : agentKind id event = some kind)
    (closed : row.closedTo kind = true)
    (theirs : projectAgentRow builtins event kind now = some held) (later : held.Onward final) :
    Follows id rest final (some held)
      (if notes kind then row.noteSession (sessionId builtins event.payload) else row) := by
  obtain ⟨terminal, going⟩ := Bool.and_eq_true_iff.mp closed
  have ended := follows.terminal.symm.trans terminal
  have status : (if notes kind then row.noteSession (sessionId builtins event.payload) else row).status =
      row.status := by
    split
    · exact AgentRow.noteSession_status _ row
    · rfl
  refine ⟨?_, .inl ?_, follows.summary_rest named (fun done => ?_) ?_ ?_⟩
  · rw [status]
    refine follows.status.imp_right ?_
    rintro ⟨before, rfl, same, past⟩
    have shut : before.closedTo kind = true := by
      rw [AgentRow.closedTo, past, ended, going]
      rfl
    rw [projectAgentRow_closed shut] at theirs
    cases theirs
    refine ⟨_, rfl, ?_, ?_⟩
    · split
      · rw [AgentRow.noteSession_status]
        exact same
      · exact same
    · unfold AgentRow.isTerminal at past ⊢
      split
      · rw [AgentRow.noteSession_status]
        exact past
      · exact past
  · have same : row.externalSessionId = final.externalSessionId := by
      refine follows.session.resolve_right fun opened => ?_
      rw [ended] at opened
      cases opened.1
    split
    next brings =>
      rw [AgentRow.noteSession_session]
      exact noteText_final later (projectAgentRow_names brings theirs) same
    · exact same
  · rw [done] at going
    cases going
  · split
    · exact AgentRow.noteSession_summary _ row
    · rfl
  · rintro before rfl
    cases shut : before.closedTo kind with
    | true =>
        rw [projectAgentRow_closed shut] at theirs
        cases theirs
        split
        · exact AgentRow.noteSession_summary _ before
        · rfl
    | false =>
        rw [projectAgentRow_write (by exact shut)] at theirs
        cases theirs
        rw [AgentRow.write_summary, if_neg]
        · rfl
        · rintro rfl
          cases going

theorem AgentRow.Follows.write
    (follows : Follows id (event :: rest) final now row) (named : agentKind id event = some kind)
    (opened : row.closedTo kind = false)
    (later : ((upsertAgentRun builtins event now).write builtins event kind).Onward final) :
    Follows id rest final (some ((upsertAgentRun builtins event now).write builtins event kind))
      (row.write builtins event kind) := by
  refine ⟨?_, ?_, ?_⟩
  · rw [AgentRow.write_status]
    cases written : statusOf kind with
    | some status =>
        refine .inr ⟨_, rfl, ?_, ?_⟩
        · rw [AgentRow.write_status, written]
          rfl
        · cases ended : final.isTerminal with
          | false =>
              rw [Bool.eq_false_iff]
              intro terminal
              rw [later.terminal terminal] at ended
              cases ended
          | true =>
              refine AgentRow.write_terminal ?_ _
              rw [AgentRow.closedTo, follows.terminal, ended, Bool.true_and] at opened
              simpa using opened
    | none =>
        refine follows.status.imp_right ?_
        rintro ⟨before, rfl, same, terminal⟩
        have kept : ((upsertAgentRun builtins event (some before)).write builtins event kind).status =
            before.status := by
          rw [AgentRow.write_status, written]
          rfl
        refine ⟨_, rfl, same.trans kept.symm, ?_⟩
        unfold AgentRow.isTerminal at terminal ⊢
        rw [kept]
        exact terminal
  · rw [AgentRow.write_session]
    rcases follows.session with same | ⟨ended, before, rfl, same⟩
    · unfold sessionAfter
      split
      next brings => exact .inl (noteText_final later (AgentRow.write_names brings _) same)
      · split
        next quiet started =>
          cases found : firstTruthy event.payload ["external_session_id"] with
          | none => exact .inl same
          | some session =>
              refine .inr ⟨?_, _, rfl, ?_⟩
              · rw [← follows.terminal]
                rw [started, AgentRow.closedTo, endsAgent] at opened
                simpa using opened
              · rw [AgentRow.write_session]
                unfold sessionAfter
                rw [if_neg quiet, if_pos started, found]
                rfl
        · exact .inl same
    · refine .inr ⟨ended, _, rfl, ?_⟩
      rw [same, AgentRow.write_session]
      rfl
  · by_cases done : kind = .completed
    · refine .inr (.inl ⟨_, rfl, ?_⟩)
      rw [AgentRow.write_summary, AgentRow.write_summary, if_pos done, if_pos done]
    · refine follows.summary_rest named done ?_ ?_
      · rw [AgentRow.write_summary, if_neg done]
      · rintro before rfl
        rw [AgentRow.write_summary, if_neg done]
        rfl

theorem AgentRow.Follows.project
    (follows : Follows id (event :: rest) final now row) (named : agentKind id event = some kind)
    (theirs : projectAgentRow builtins event kind now = some held) (later : held.Onward final) :
    ∃ next, projectAgentRow builtins event kind (some row) = some next ∧
      Follows id rest final (some held) next := by
  cases closed : row.closedTo kind with
  | true => exact ⟨_, projectAgentRow_closed closed, follows.closed named closed theirs later⟩
  | false =>
      have opened : now.any (AgentRow.closedTo kind) = false := by
        rw [Bool.eq_false_iff]
        intro shut
        cases now with
        | none => cases shut
        | some before =>
            obtain ⟨terminal, going⟩ := Bool.and_eq_true_iff.mp (Option.any_some.symm.trans shut)
            have last := @projectAgentRow_terminal builtins event kind before terminal
            rw [theirs] at last
            rw [AgentRow.closedTo, going, follows.terminal, later.terminal last] at closed
            cases closed
      rw [projectAgentRow_write opened] at theirs
      cases theirs
      exact ⟨_, projectAgentRow_write (by exact closed), follows.write named closed later⟩

end Step

theorem AgentRow.Follows.foldl {events : List RuntimeEvent} {now : Option AgentRow}
    {final : AgentRow} (ends : events.foldl (agentWrite builtins id) now = some final)
    (follows : Follows id events final now row) :
    ∃ last, events.foldl (agentWrite builtins id) (some row) = some last ∧
      Follows id [] final (some final) last := by
  induction events generalizing now row with
  | nil =>
      cases ends
      exact ⟨row, rfl, follows⟩
  | cons event rest ih =>
      rw [List.foldl_cons] at ends ⊢
      cases named : agentKind id event with
      | none =>
          unfold agentWrite at ends ⊢
          rw [named] at ends ⊢
          cases flagged : flags id event with
          | true =>
              rw [flagged, if_pos rfl] at ends
              exact ih ends (follows.flag flagged _)
          | false =>
              rw [flagged, if_neg Bool.false_ne_true] at ends
              exact ih ends (follows.quiet named flagged)
      | some kind =>
          obtain ⟨held, theirs⟩ := @projectAgentRow_some builtins event kind now
          have step (row : Option AgentRow) :
              agentWrite builtins id row event = projectAgentRow builtins event kind row := by
            unfold agentWrite
            rw [named]
            rfl
          rw [step, theirs] at ends
          obtain ⟨last, ended, later⟩ := @foldl_onward builtins id rest held
          cases ended.symm.trans ends
          obtain ⟨next, mine, onward⟩ := follows.project named theirs later
          rw [step, mine]
          exact ih ends onward

theorem agent_fixed {log : List RuntimeEvent} {row : Option AgentRow} {final : AgentRow}
    (ends : log.foldl (agentWrite builtins id) row = some final)
    (covered : (∃ event ∈ log, flags id event = true) →
      ∃ event ∈ log, agentKind id event = some .completed) :
    ∃ last, log.foldl (agentWrite builtins id) (some final) = some last ∧
      last.status = final.status ∧ last.externalSessionId = final.externalSessionId ∧
      last.completionSummary = final.completionSummary := by
  have follows : AgentRow.Follows id log final row final := by
    refine ⟨.inl rfl, .inl rfl, ?_⟩
    by_cases found : ∃ event ∈ log, flags id event = true
    · exact .inl (covered found)
    · refine .inr (.inr ⟨fun event member => ?_, rfl⟩)
      rw [Bool.eq_false_iff]
      exact fun flagged => found ⟨event, member, flagged⟩
  obtain ⟨last, ended, done⟩ := follows.foldl ends
  refine ⟨last, ended, ?_, ?_, ?_⟩
  · rcases done.status with same | ⟨held, equal, same, -⟩
    · exact same
    · cases equal
      exact same
  · rcases done.session with same | ⟨-, held, equal, same⟩
    · exact same
    · cases equal
      exact same
  · rcases done.summary with ⟨event, member, -⟩ | ⟨held, equal, same⟩ | ⟨-, same⟩
    · cases member
    · cases equal
      exact same
    · exact same

/-! ### Findings that no completion overwrites -/

theorem projectAgentRow_summary
    (going : kind ≠ .completed) (written : projectAgentRow builtins event kind (some row) = some next) :
    next.completionSummary = row.completionSummary := by
  cases closed : row.closedTo kind with
  | true =>
      rw [projectAgentRow_closed closed] at written
      cases written
      split
      · exact AgentRow.noteSession_summary _ row
      · rfl
  | false =>
      rw [projectAgentRow_write (by exact closed)] at written
      cases written
      rw [AgentRow.write_summary, if_neg going]
      rfl

theorem securityNote_length (builtins : Builtins) (event : RuntimeEvent) :
    0 < (securityNote builtins event).length := by
  unfold securityNote
  rw [String.length_append, String.length_append, String.length_append]
  exact Nat.lt_add_right _ (Nat.lt_add_right _ (Nat.lt_add_right _ (by decide)))

theorem agentWrite_summary (going : agentKind id event ≠ some .completed)
    (written : agentWrite builtins id (some row) event = some next) :
    row.completionSummary.length + (flags id event).toNat ≤ next.completionSummary.length := by
  unfold agentWrite at written
  cases named : agentKind id event with
  | some kind =>
      rw [named] at written going
      have clean : flags id event = false := by
        rw [Bool.eq_false_iff]
        intro flagged
        rw [flags_kind flagged] at named
        cases named
      rw [projectAgentRow_summary (fun done => going (congrArg some done)) written, clean]
      exact Nat.le_refl _
  | none =>
      rw [named] at written
      cases flagged : flags id event with
      | true =>
          rw [flagged, if_pos rfl] at written
          cases written
          have long := securityNote_length builtins event
          dsimp only [AgentRow.flag]
          rw [String.length_append]
          exact Nat.add_le_add_left long _
      | false =>
          rw [flagged, if_neg Bool.false_ne_true] at written
          cases written
          exact Nat.le_refl _

theorem summary_grows {events : List RuntimeEvent} {last : AgentRow}
    (going : ∀ event ∈ events, agentKind id event ≠ some .completed)
    (ends : events.foldl (agentWrite builtins id) (some row) = some last) :
    row.completionSummary.length + (events.filter (flags id)).length ≤ last.completionSummary.length := by
  induction events generalizing row with
  | nil =>
      cases ends
      exact Nat.le_refl _
  | cons event rest ih =>
      rw [List.forall_mem_cons] at going
      obtain ⟨next, written, -⟩ := @agentWrite_onward builtins id row event
      rw [List.foldl_cons, written] at ends
      have first := agentWrite_summary going.1 written
      have others := ih going.2 ends
      have counted : ((event :: rest).filter (flags id)).length =
          (flags id event).toNat + (rest.filter (flags id)).length := by
        cases flagged : flags id event with
        | true =>
            rw [List.filter_cons_of_pos flagged]
            exact Nat.add_comm _ _
        | false =>
            rw [List.filter_cons_of_neg (by simp [flagged])]
            exact (Nat.zero_add _).symm
      omega

end Wlcodex.Projector
