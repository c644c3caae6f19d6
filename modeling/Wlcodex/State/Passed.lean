import Wlcodex.State.Verified

namespace Wlcodex.State

open Wlcodex.Lib

/-! A conversation has passed only with a completed run of its own. -/

variable {builtins : Builtins}

def HasCompleted (conversationId : Option Int) (runs : List OrchestrationState) : Prop :=
  ∃ run ∈ runs, run.status = .completed ∧ run.conversationId = conversationId

def HasPassed (conversationId : Option Int) (conversations : List ConversationState) : Prop :=
  ∃ conversation ∈ conversations, conversation.state = "passed" ∧
    conversation.conversationId = conversationId

def OthersBack (aggregateId : String) (snapshot : Snapshot) : Prop :=
  let run := runAt aggregateId snapshot.orchestrations
  HasPassed run.conversationId snapshot.conversations →
    HasCompleted run.conversationId
      (snapshot.orchestrations.filter fun other => other.aggregateId ≠ aggregateId)

def KeepsPass (builtins : Builtins) (snapshot : Snapshot) (event : RuntimeEvent) : Prop :=
  let run := runAt event.aggregateId snapshot.orchestrations
  match event.eventType with
  | .run .phaseChanged => builtins.textField event.payload "phase" "" = "completed" →
      run.refuses .phaseChanged = true ∨ event.conversationId = none ∨
        (∀ conversation ∈ snapshot.conversations,
          conversation.isOpenAt event.conversationId = false) ∨
        HasCompleted event.conversationId snapshot.orchestrations
  | .run .completed => run.status = .completed →
      orId event.conversationId run.conversationId = run.conversationId ∨
        OthersBack event.aggregateId snapshot
  | .run .failed | .run .cancelled => run.status = .completed → OthersBack event.aggregateId snapshot
  | _ => True

def RuntimeEvent.setsState (event : RuntimeEvent) : Bool :=
  event.eventType ∈
    [.conversation .activated, .conversation .stateChanged, .conversation .closed]

variable {event : RuntimeEvent} {kind : RunEvent} {conversationId : Option Int}
    {runs : List OrchestrationState}

variable {next : List OrchestrationState}

theorem hasCompleted_of_others
    (others : HasCompleted conversationId
      (runs.filter fun other => other.aggregateId ≠ event.aggregateId))
    (done : upsert (fun run => run.aggregateId = event.aggregateId)
      { aggregateId := event.aggregateId } (OrchestrationState.take builtins event kind) runs =
        some next) : HasCompleted conversationId next := by
  obtain ⟨other, member, completed, same⟩ := others
  obtain ⟨member, apart⟩ := List.mem_filter.mp member
  have held : ∃ run ∈ runs, run.aggregateId ≠ event.aggregateId ∧ run.status = .completed ∧
      run.conversationId = conversationId :=
    ⟨other, member, of_decide_eq_true apart, completed, same⟩
  obtain ⟨run, member, -, completed, same⟩ := exists_upsert (by
    intro run found holds
    have selected := List.find?_some found
    exact absurd (of_decide_eq_true selected) holds.1) held done
  exact ⟨run, member, completed, same⟩

theorem hasCompleted_of_taken (pass : (runAt event.aggregateId runs).lastVerificationResult = "pass")
    (done : upsert (fun run => run.aggregateId = event.aggregateId)
      { aggregateId := event.aggregateId } (OrchestrationState.take builtins event .completed) runs =
        some next) :
    HasCompleted (orId event.conversationId (runAt event.aggregateId runs).conversationId) next := by
  obtain ⟨run, taken, found⟩ := find?_key_upsert
    (fun _ _ taken => (OrchestrationState.taken_of_take taken).key) (by rfl) done
  refine ⟨run, List.mem_of_find?_eq_some found, ?_, (OrchestrationState.taken_of_take taken).conversation⟩
  have passed : (OrchestrationState.touch event (runAt event.aggregateId runs)).lastVerificationResult =
    "pass" := pass
  change OrchestrationState.take builtins event .completed (runAt event.aggregateId runs) = some run
    at taken
  simp only [OrchestrationState.take, passed, ne_eq, not_true_eq_false, if_false] at taken
  cases taken
  rfl

theorem RunsSound.passed_runAt {aggregateId : String}
    (sound : RunsSound runs) (completed : (runAt aggregateId runs).status = .completed) :
    (runAt aggregateId runs).lastVerificationResult = "pass" := by
  unfold runAt at completed ⊢
  cases found : runs.find? fun run => run.aggregateId = aggregateId with
  | none =>
      rw [found] at completed
      cases completed
  | some run =>
      rw [found] at completed
      exact sound.passed run (List.mem_of_find?_eq_some found) completed

theorem hasCompleted_upsert (sound : RunsSound runs)
    (accepts : (runAt event.aggregateId runs).refuses kind = false)
    (done : upsert (fun run => run.aggregateId = event.aggregateId)
      { aggregateId := event.aggregateId } (OrchestrationState.take builtins event kind) runs =
        some next)
    (held : HasCompleted conversationId runs) :
    HasCompleted conversationId next ∨
      kind ∈ [RunEvent.completed, .failed, .cancelled] ∧
        (runAt event.aggregateId runs).status = .completed ∧
        (runAt event.aggregateId runs).conversationId = conversationId := by
  obtain ⟨run, member, completed, same⟩ := held
  by_cases named : run.aggregateId = event.aggregateId
  · have here : runAt event.aggregateId runs = run := named ▸ runAt_of_mem sound.unique member
    rw [here] at accepts ⊢
    refine .inr ⟨?_, completed, same⟩
    by_contra ongoing
    simp [OrchestrationState.refuses, completed, RunStatus.isTerminal, ongoing] at accepts
  · refine .inl (hasCompleted_of_others ⟨run, List.mem_filter.mpr ⟨member, ?_⟩, completed, same⟩ done)
    exact decide_eq_true named

variable {next snapshot : Snapshot}

theorem hasCompleted_step (sound : RunsSound snapshot.orchestrations)
    (keeps : KeepsPass builtins snapshot event) (applied : applyEvent builtins snapshot event = some next)
    (passed : HasPassed conversationId snapshot.conversations)
    (held : HasCompleted conversationId snapshot.orchestrations) :
    HasCompleted conversationId next.orchestrations := by
  have step := runsStep_of_apply applied
  generalize next.orchestrations = runs at step ⊢
  cases step with
  | same undecided => exact held
  | verified kind type named done =>
      refine exists_changeFirst ?_ held done
      intro run found holds next verified
      have spec := OrchestrationState.verified_of_verify verified
      exact ⟨spec.status.trans holds.1, spec.conversation.trans holds.2⟩
  | taken kind type accepts done =>
      rcases hasCompleted_upsert sound accepts done held with stays | ⟨ending, completed, same⟩
      · exact stays
      · have backs : OthersBack event.aggregateId snapshot → HasCompleted conversationId runs := by
          intro others
          refine hasCompleted_of_others ?_ done
          simp only [OthersBack, same] at others
          exact others passed
        simp only [List.mem_cons, List.not_mem_nil, or_false] at ending
        rcases ending with rfl | rfl | rfl
        · simp only [KeepsPass, type] at keeps
          rcases keeps completed with stays | others
          · have again := hasCompleted_of_taken (sound.passed_runAt completed) done
            rw [stays, same] at again
            exact again
          · exact backs others
        · simp only [KeepsPass, type] at keeps
          exact backs (keeps completed)
        · simp only [KeepsPass, type] at keeps
          exact backs (keeps completed)

inductive ConversationsStep (builtins : Builtins) (snapshot : Snapshot) (event : RuntimeEvent) :
    List ConversationState → Prop where
  | same : ConversationsStep builtins snapshot event snapshot.conversations
  | moved (kind : RunEvent) (type : event.eventType = .run kind)
      (accepts : (runAt event.aggregateId snapshot.orchestrations).refuses kind = false)
      (named : event.conversationId ≠ none) {state : String}
      (after : conversationStateAfter builtins event kind
        (runAt event.aggregateId snapshot.orchestrations) = some state) :
      ConversationsStep builtins snapshot event
        (modifyFirst (ConversationState.isOpenAt event.conversationId)
          (ConversationState.moveTo event state) snapshot.conversations)
  | noted (decision : String) :
      ConversationsStep builtins snapshot event
        (modifyFirst (fun conversation => conversation.conversationId = event.conversationId)
          (ConversationState.notePass decision) snapshot.conversations)
  | taken (kind : ConversationEvent) (type : event.eventType = .conversation kind)
      (accepts : (conversationAt event.aggregateId snapshot.conversations).refuses kind = false)
      {next : List ConversationState}
      (done : upsert (fun conversation => conversation.aggregateId = event.aggregateId)
        { aggregateId := event.aggregateId } (ConversationState.take builtins event kind)
        snapshot.conversations = some next) : ConversationsStep builtins snapshot event next

theorem conversationsStep_of_apply (applied : applyEvent builtins snapshot event = some next) :
    ConversationsStep builtins snapshot event next.conversations := by
  unfold applyEvent at applied
  cases type : event.eventType with
  | run kind =>
      rw [type] at applied
      simp only [applyOrchestrationEvent] at applied
      split at applied
      · cases applied
        exact .same
      next accepts =>
        obtain ⟨runs, done, made⟩ := Option.bind_eq_some_iff.mp applied
        cases made
        cases after : conversationStateAfter builtins event kind
          (runAt event.aggregateId snapshot.orchestrations) with
        | none => exact .same
        | some state =>
            unfold propagate
            split
            · exact .same
            next named => exact .moved kind type (Bool.eq_false_iff.mpr accepts) named after
  | agent kind =>
      rw [type] at applied
      simp only [applyAgentEvent] at applied
      split at applied
      · cases applied
        exact .same
      · obtain ⟨agents, -, made⟩ := Option.bind_eq_some_iff.mp applied
        cases made
        exact .same
  | modelUsageUpdated =>
      rw [type] at applied
      obtain ⟨usage, -, onward⟩ := Option.bind_eq_some_iff.mp applied
      obtain ⟨totals, -, made⟩ := Option.bind_eq_some_iff.mp onward
      cases made
      exact .same
  | approval kind =>
      rw [type] at applied
      simp only [applyApprovalEvent] at applied
      split at applied
      · cases applied
        exact .same
      · obtain ⟨approvals, -, made⟩ := Option.bind_eq_some_iff.mp applied
        cases made
        exact .same
  | watchdog kind =>
      rw [type] at applied
      cases applied
      unfold applyTimeoutEvent
      split
      · exact .same
      · exact .same
  | verification kind =>
      rw [type] at applied
      obtain ⟨runs, done, made⟩ := Option.bind_eq_some_iff.mp applied
      cases made
      split
      · exact .noted _
      · exact .same
  | conversation kind =>
      rw [type] at applied
      simp only [applyConversationEvent] at applied
      split at applied
      · cases applied
        exact .same
      next accepts =>
        obtain ⟨conversations, done, made⟩ := Option.bind_eq_some_iff.mp applied
        cases made
        exact .taken kind type (Bool.eq_false_iff.mpr accepts) done
  | approvalSuperseded | other =>
      rw [type] at applied
      cases applied
      exact .same

variable {conversation : ConversationState}

theorem ConversationState.take_conversationId {kind : ConversationEvent}
    {next : ConversationState} (taken : conversation.take builtins event kind = some next) :
    next.conversationId = orId event.conversationId conversation.conversationId := by
  cases kind with
  | started =>
      obtain ⟨chat, -, made⟩ := Option.bind_eq_some_iff.mp taken
      cases made
      rfl
  | activated | stateChanged | closed | modeSwitched | userContextAppended
  | pendingContextRecorded | pendingContextReviewed =>
      cases taken
      rfl

theorem ConversationState.take_state {kind : ConversationEvent}
    {next : ConversationState} (type : event.eventType = .conversation kind)
    (plain : event.setsState = false) (taken : conversation.take builtins event kind = some next) :
    next.state = "new" ∨ next.state = conversation.state := by
  cases kind with
  | started =>
      obtain ⟨chat, -, made⟩ := Option.bind_eq_some_iff.mp taken
      cases made
      exact .inl rfl
  | activated | stateChanged | closed => simp [RuntimeEvent.setsState, type] at plain
  | modeSwitched | userContextAppended | pendingContextRecorded | pendingContextReviewed =>
      cases taken
      exact .inr rfl

theorem orId_of_number {new old : Option Int} (named : new ≠ none) (numbered : new ≠ some 0) :
    orId new old = new := by
  cases new with
  | none => exact absurd rfl named
  | some number =>
      have other : number ≠ 0 := by
        rintro rfl
        exact numbered rfl
      simp [orId, Option.filter, other]

theorem orId_ne_zero {new old : Option Int} (numbered : old ≠ some 0) : orId new old ≠ some 0 := by
  unfold orId
  cases new with
  | none => simpa using numbered
  | some number =>
      by_cases zero : number = 0
      · simpa [zero] using numbered
      · simp [Option.filter, zero]

/-- A conversation carries no zero, and one that has passed has a number and a completed run. -/
structure Backed (runs : List OrchestrationState) (conversation : ConversationState) : Prop where
  numbered : conversation.conversationId ≠ some 0
  passed : conversation.state = "passed" → conversation.conversationId ≠ none ∧
    HasCompleted conversation.conversationId runs

structure PassSound (snapshot : Snapshot) : Prop where
  runs : RunsSound snapshot.orchestrations
  backed : ∀ conversation ∈ snapshot.conversations, Backed snapshot.orchestrations conversation

theorem conversationStateOfPhase_eq_passed {phase : String}
    (passed : conversationStateOfPhase phase = some "passed") : phase = "completed" := by
  unfold conversationStateOfPhase at passed
  split at passed <;> simp_all

theorem upsert_of_apply (type : event.eventType = .run kind)
    (accepts : (runAt event.aggregateId snapshot.orchestrations).refuses kind = false)
    (applied : applyEvent builtins snapshot event = some next) :
    upsert (fun run => run.aggregateId = event.aggregateId) { aggregateId := event.aggregateId }
      (OrchestrationState.take builtins event kind) snapshot.orchestrations =
        some next.orchestrations := by
  simp only [applyEvent, type, applyOrchestrationEvent, accepts] at applied
  obtain ⟨runs, done, made⟩ := Option.bind_eq_some_iff.mp applied
  cases made
  exact done

theorem hasCompleted_of_moved (sound : RunsSound snapshot.orchestrations)
    (numbered : event.conversationId ≠ some 0) (named : event.conversationId ≠ none)
    (keeps : KeepsPass builtins snapshot event) (type : event.eventType = .run kind)
    (accepts : (runAt event.aggregateId snapshot.orchestrations).refuses kind = false)
    (applied : applyEvent builtins snapshot event = some next)
    (member : conversation ∈ snapshot.conversations)
    (opened : conversation.isOpenAt event.conversationId = true)
    (after : conversationStateAfter builtins event kind
      (runAt event.aggregateId snapshot.orchestrations) = some "passed") :
    HasCompleted event.conversationId next.orchestrations := by
  have done := upsert_of_apply type accepts applied
  cases kind with
  | phaseChanged =>
      have phase := conversationStateOfPhase_eq_passed after
      simp only [KeepsPass, type] at keeps
      rcases keeps phase with refused | unnamed | closed | held
      · rw [accepts] at refused
        cases refused
      · exact absurd unnamed named
      · rw [closed conversation member] at opened
        cases opened
      · rcases hasCompleted_upsert sound accepts done held with stays | ⟨ending, -⟩
        · exact stays
        · exact absurd ending (by decide)
  | completed =>
      have pass : (runAt event.aggregateId snapshot.orchestrations).lastVerificationResult = "pass" := by
        by_contra other
        simp [conversationStateAfter, other] at after
      have completed := hasCompleted_of_taken pass done
      rw [orId_of_number named numbered] at completed
      exact completed
  | failed | recoveryRequired | cancelled => simp [conversationStateAfter] at after
  | requested | started | cancelRequested => cases after

theorem PassSound.step (sound : PassSound snapshot)
    (plain : event.setsState = false) (keeps : KeepsPass builtins snapshot event)
    (applied : applyEvent builtins snapshot event = some next) : PassSound next := by
  have kept : ∀ conversation ∈ snapshot.conversations, Backed next.orchestrations conversation := by
    intro conversation member
    have backed := sound.backed conversation member
    refine ⟨backed.numbered, fun passed => ⟨(backed.passed passed).1, ?_⟩⟩
    exact hasCompleted_step sound.runs keeps applied ⟨conversation, member, passed, rfl⟩
      (backed.passed passed).2
  refine ⟨sound.runs.step (runsStep_of_apply applied), ?_⟩
  have step := conversationsStep_of_apply applied
  generalize next.conversations = conversations at step ⊢
  cases step with
  | same => exact kept
  | noted decision =>
      intro conversation member
      rcases mem_modifyFirst member with old | ⟨held, found, rfl⟩
      · exact kept conversation old
      · have backed := kept held (List.mem_of_find?_eq_some found)
        unfold ConversationState.notePass
        split
        · exact ⟨backed.numbered, backed.passed⟩
        · exact backed
  | moved kind type accepts named after =>
      intro conversation member
      rcases mem_modifyFirst member with old | ⟨held, found, rfl⟩
      · exact kept conversation old
      · have inside := List.mem_of_find?_eq_some found
        have opened := List.find?_some found
        have same : held.conversationId = event.conversationId := by
          simp only [ConversationState.isOpenAt, Bool.and_eq_true, decide_eq_true_eq] at opened
          exact opened.1
        have numbered := (kept held inside).numbered
        refine ⟨numbered, ?_⟩
        rintro rfl
        refine ⟨same ▸ named, ?_⟩
        change HasCompleted held.conversationId _
        rw [same] at numbered ⊢
        exact hasCompleted_of_moved sound.runs numbered named keeps type accepts applied inside opened after
  | taken kind type accepts done =>
      refine forall_upsert ?_ kept ?_ done
      · intro conversation found backed taken done
        refine ⟨?_, fun passed => ?_⟩
        · rw [ConversationState.take_conversationId done]
          exact orId_ne_zero backed.numbered
        · -- a conversation that has passed takes no event that does not set its state
          rw [conversationAt, found, Option.getD_some] at accepts
          rcases ConversationState.take_state type plain done with new | same
          · rw [new] at passed
            simp at passed
          · rw [same] at passed
            cases kind with
            | activated | stateChanged | closed => simp [RuntimeEvent.setsState, type] at plain
            | started | modeSwitched | userContextAppended | pendingContextRecorded
            | pendingContextReviewed =>
                simp [ConversationState.refuses, ConversationState.isTerminal, passed] at accepts
      · intro absent taken done
        refine ⟨?_, fun passed => ?_⟩
        · rw [ConversationState.take_conversationId done]
          exact orId_ne_zero (by simp)
        · rcases ConversationState.take_state type plain done with new | same
          · rw [new] at passed
            simp at passed
          · rw [same] at passed
            simp at passed

theorem replay_empty_sound : PassSound {} where
  runs := ⟨List.nodup_nil, fun _ member => by cases member⟩
  backed _ member := by cases member

theorem decided_of_completed {events : List RuntimeEvent}
    (replayed : replayEvents builtins events = some snapshot) {run : OrchestrationState}
    (member : run ∈ snapshot.orchestrations) (completed : run.status = .completed) :
    (decisionsBeforeEnd builtins run.aggregateId {} events).getLast? = some "pass" := by
  have sound := replay_sound replay_empty_sound.runs replayed
  have result : (runAt run.aggregateId snapshot.orchestrations).lastVerificationResult = _ :=
    result_eq_getLast replay_empty_sound.runs replayed
  rw [runAt_of_mem sound.unique member, sound.passed run member completed] at result
  cases last : (decisionsBeforeEnd builtins run.aggregateId {} events).getLast? with
  | none =>
      rw [List.getLastD_eq_getLast?, last] at result
      have nothing : "pass" = "" := result
      exact absurd nothing (by decide)
  | some decision =>
      rw [List.getLastD_eq_getLast?, last] at result
      rw [result, Option.getD_some]

/-- A completed run was let pass by the last decision before its end.  Where no event sets the
state of a conversation by name and every event keeps the passed conversations backed, a
conversation has passed only with such a run. -/
theorem passed_only_when_verified {events : List RuntimeEvent} {snapshot : Snapshot}
    (replayed : replayEvents builtins events = some snapshot) :
    (∀ run ∈ snapshot.orchestrations, run.status = .completed →
      (decisionsBeforeEnd builtins run.aggregateId {} events).getLast? = some "pass") ∧
    ((∀ event ∈ events, event.setsState = false) →
      Along (fun snapshot event => (applyEvent builtins snapshot event).getD snapshot)
        (KeepsPass builtins) {} events →
      ∀ conversation ∈ snapshot.conversations, conversation.state = "passed" →
        conversation.conversationId ≠ none ∧
        ∃ run ∈ snapshot.orchestrations, run.status = .completed ∧
          run.conversationId = conversation.conversationId ∧
          (decisionsBeforeEnd builtins run.aggregateId {} events).getLast? = some "pass") := by
  refine ⟨fun run member completed => decided_of_completed replayed member completed, ?_⟩
  intro plain keeps conversation member passed
  have sound : PassSound snapshot :=
    invariant_foldlM (fun state event next sound ok applied =>
      PassSound.step sound (plain event ok.2) ok.1 applied) replay_empty_sound (along_mem keeps) replayed
  obtain ⟨numbered, run, inside, completed, same⟩ := (sound.backed conversation member).passed passed
  exact ⟨numbered, run, inside, completed, same, decided_of_completed replayed inside completed⟩

def verifiedRun : List RuntimeEvent :=
  [{ id := 1, eventType := .conversation .started, aggregateId := "conversation:1",
     conversationId := some 1 },
   { id := 2, eventType := .run .started, aggregateId := "run:7", conversationId := some 1,
     orchestrationRunId := some 7 },
   { id := 3, eventType := .verification .decisionRecorded, aggregateId := "run:7",
     conversationId := some 1, orchestrationRunId := some 7, payload := [("decision", .string "pass")] },
   { id := 4, eventType := .run .completed, aggregateId := "run:7", conversationId := some 1,
     orchestrationRunId := some 7 }]

theorem verified_run_passes :
    ∃ snapshot, replayEvents sampleBuiltins verifiedRun = some snapshot ∧
      (∃ conversation ∈ snapshot.conversations, conversation.state = "passed") ∧
      ∀ conversation ∈ snapshot.conversations, conversation.state = "passed" →
        conversation.conversationId ≠ none ∧
        ∃ run ∈ snapshot.orchestrations, run.status = .completed ∧
          run.conversationId = conversation.conversationId ∧
          (decisionsBeforeEnd sampleBuiltins run.aggregateId {} verifiedRun).getLast? = some "pass" := by
  refine ⟨_, rfl, ⟨_, List.mem_singleton.mpr rfl, rfl⟩, ?_⟩
  refine (passed_only_when_verified rfl).2 (by decide) ⟨trivial, trivial, trivial, ?_, trivial⟩
  intro completed
  cases completed

def unverifiedRun : List RuntimeEvent :=
  [{ id := 1, eventType := .conversation .started, aggregateId := "conversation:1",
     conversationId := some 1 },
   { id := 2, eventType := .run .phaseChanged, aggregateId := "run:7", conversationId := some 1,
     orchestrationRunId := some 7, payload := [("phase", .string "completed")] }]

theorem phase_passes_unverified_run :
    ∃ snapshot, replayEvents sampleBuiltins unverifiedRun = some snapshot ∧
      (∀ event ∈ unverifiedRun, event.setsState = false) ∧
      ∃ conversation ∈ snapshot.conversations, conversation.state = "passed" ∧
        ∀ run ∈ snapshot.orchestrations, run.status ≠ .completed := by
  refine ⟨_, rfl, by decide, _, List.mem_singleton.mpr rfl, rfl, ?_⟩
  intro run member
  rw [List.mem_singleton.mp member]
  decide

end Wlcodex.State
