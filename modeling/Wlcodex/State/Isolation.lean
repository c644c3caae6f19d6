import Wlcodex.State.Passed

namespace Wlcodex.State

open Wlcodex.Lib

/-! Replay keeps the conversations apart when every id belongs to one of them. -/

variable {builtins : Builtins}

structure Owners where
  aggregate : String → Option Int
  agentRun : Int → Option Int
  orchestrationRun : Int → Option Int

variable {owners : Owners}

structure Owners.Own (owners : Owners) (event : RuntimeEvent) : Prop where
  aggregate : owners.aggregate event.aggregateId = event.conversation
  agentRun : ∀ number, event.agentRunId = some number → number ≠ 0 →
    owners.agentRun number = event.conversation
  orchestrationRun : ∀ number, event.orchestrationRunId = some number → number ≠ 0 →
    owners.orchestrationRun number = event.conversation

structure Belongs (owners : Owners) (aggregateId : String) (conversationId : Option Int) : Prop where
  key : conversationId = owners.aggregate aggregateId
  numbered : conversationId ≠ some 0

structure AgentState.OwnedBy (owners : Owners) (agent : AgentState) : Prop where
  belongs : Belongs owners agent.aggregateId agent.conversationId
  agentRun : ∀ number, agent.agentRunId = some number →
    number ≠ 0 ∧ owners.agentRun number = agent.conversationId

structure OrchestrationState.OwnedBy (owners : Owners) (run : OrchestrationState) : Prop where
  belongs : Belongs owners run.aggregateId run.conversationId
  orchestrationRun : ∀ number, run.orchestrationRunId = some number →
    number ≠ 0 ∧ owners.orchestrationRun number = run.conversationId

structure Snapshot.OwnedBy (owners : Owners) (snapshot : Snapshot) : Prop where
  agents : ∀ agent ∈ snapshot.agents, agent.OwnedBy owners
  orchestrations : ∀ run ∈ snapshot.orchestrations, run.OwnedBy owners
  approvals : ∀ approval ∈ snapshot.approvals,
    Belongs owners approval.aggregateId approval.conversationId
  conversations : ∀ conversation ∈ snapshot.conversations,
    Belongs owners conversation.aggregateId conversation.conversationId

theorem conversation_ne_zero (event : RuntimeEvent) : event.conversation ≠ some 0 := by
  intro zero
  have number := (Option.filter_eq_some_iff.mp zero).2
  exact absurd number (by decide)

variable {event : RuntimeEvent} {conversationId : Option Int}

theorem conversation_of_eq
    (numbered : conversationId ≠ some 0) (same : conversationId = event.conversationId) :
    conversationId = event.conversation := by
  subst same
  unfold RuntimeEvent.conversation
  cases given : event.conversationId with
  | none => rfl
  | some number =>
      have other : number ≠ 0 := by
        rintro rfl
        exact numbered given
      rw [Option.filter_some, if_pos (by simpa using other)]

theorem orId_conversation (same : conversationId = event.conversation) :
    orId event.conversationId conversationId = event.conversation := by
  rw [same]
  change event.conversation.or event.conversation = event.conversation
  cases event.conversation with
  | none | some => rfl

theorem orId_conversation_fresh (event : RuntimeEvent) :
    orId event.conversationId none = event.conversation := by
  change event.conversation.or none = event.conversation
  rw [Option.or_none]

theorem orId_owned {given held : Option Int} {owner : Int → Option Int}
    (new : ∀ number, given = some number → number ≠ 0 → owner number = conversationId)
    (old : ∀ number, held = some number → number ≠ 0 ∧ owner number = conversationId) :
    ∀ number, orId given held = some number → number ≠ 0 ∧ owner number = conversationId := by
  intro number set
  rcases Option.or_eq_some_iff.mp set with here | ⟨-, there⟩
  · obtain ⟨given, nonzero⟩ := Option.filter_eq_some_iff.mp here
    have other : number ≠ 0 := by simpa using nonzero
    exact ⟨other, new number given other⟩
  · exact old number there

theorem Belongs.selected {aggregateId : String}
    (belongs : Belongs owners aggregateId conversationId) (own : owners.Own event)
    (named : aggregateId = event.aggregateId) : conversationId = event.conversation := by
  rw [belongs.key, named, own.aggregate]

theorem Owners.Own.belongs (own : owners.Own event) :
    Belongs owners event.aggregateId event.conversation :=
  ⟨own.aggregate.symm, conversation_ne_zero event⟩

/-- `part` holds the entities of `snapshot` in the conversations of `only`. -/
structure Agrees (only : Option Int → Bool) (snapshot part : Snapshot) : Prop where
  agents : part.agents = snapshot.agents.filter fun agent => only agent.conversationId
  orchestrations : part.orchestrations = snapshot.orchestrations.filter fun run => only run.conversationId
  approvals : part.approvals = snapshot.approvals.filter fun approval => only approval.conversationId
  conversations : part.conversations =
    snapshot.conversations.filter fun conversation => only conversation.conversationId

structure Isolated (owners : Owners) (event : RuntimeEvent) (apply : Snapshot → Option Snapshot)
    (snapshot next : Snapshot) : Prop where
  owned : next.OwnedBy owners
  follows : ∀ (only : Option Int → Bool) (part : Snapshot), only event.conversation = true →
    Agrees only snapshot part → ∃ partNext, apply part = some partNext ∧ Agrees only next partNext
  ignores : ∀ (only : Option Int → Bool) (part : Snapshot), only event.conversation = false →
    Agrees only snapshot part → Agrees only next part

variable {snapshot : Snapshot}

theorem isolated_same (owned : snapshot.OwnedBy owners) :
    Isolated owners event some snapshot snapshot where
  owned := owned
  follows _ part _ agrees := ⟨part, rfl, agrees⟩
  ignores _ _ _ agrees := agrees

variable {part : Snapshot} {only : Option Int → Bool}

/-- What a list of entities does with an event: each of them has a key, belongs to a conversation, and
meets `Owned`. -/
structure Entries {α : Type} (owners : Owners) (event : RuntimeEvent) (key : α → String)
    (group : α → Option Int) (Owned : α → Prop) (take : α → Option α) : Prop where
  belongs : ∀ entry, Owned entry → Belongs owners (key entry) (group entry)
  takes : ∀ entry next, take entry = some next →
    key next = key entry ∧ group next = orId event.conversationId (group entry)

namespace Entries

variable {α : Type} {key : α → String} {group : α → Option Int} {Owned : α → Prop} {take : α → Option α}
  {entries result : List α} {fresh : α}

theorem selected (rows : Entries owners event key group Owned take) (own : owners.Own event)
    (owned : ∀ entry ∈ entries, Owned entry) {entry : α} (member : entry ∈ entries)
    (named : decide (key entry = event.aggregateId) = true) : group entry = event.conversation :=
  (rows.belongs entry (owned entry member)).selected own (of_decide_eq_true named)

theorem find?_filter (rows : Entries owners event key group Owned take) (own : owners.Own event)
    (owned : ∀ entry ∈ entries, Owned entry) (mine : only event.conversation = true) :
    (entries.filter fun entry => only (group entry)).find? (fun entry => key entry = event.aggregateId) =
      entries.find? fun entry => key entry = event.aggregateId :=
  find?_filter_of_kept fun entry member named => by rw [rows.selected own owned member named, mine]

theorem upsert (rows : Entries owners event key group Owned take) (own : owners.Own event)
    (owned : ∀ entry ∈ entries, Owned entry) (unkeyed : key fresh = event.aggregateId ∧ group fresh = none)
    (keeps : ∀ entry next, take entry = some next → Owned entry ∨ entry = fresh → group next = event.conversation →
      Belongs owners (key next) (group next) → (Owned entry → group entry = event.conversation) → Owned next)
    (done : Lib.upsert (fun entry => key entry = event.aggregateId) fresh take entries = some result) :
    (∀ entry ∈ result, Owned entry) ∧ Apart group event.conversation
      (Lib.upsert (fun entry => key entry = event.aggregateId) fresh take) entries result := by
  have stays {entry next : α} (same : group entry = event.conversation) (taken : take entry = some next) :
      group next = event.conversation := by
    rw [(rows.takes entry next taken).2, orId_conversation same]
  have starts {next : α} (taken : take fresh = some next) : group next = event.conversation := by
    rw [(rows.takes fresh next taken).2, unkeyed.2, orId_conversation_fresh]
  refine ⟨forall_upsert ?_ owned ?_ done, apart_upsert (fun entry => rows.selected own owned)
    (fun entry next => stays) (fun next => starts) done⟩
  · intro entry found held next taken
    have same := (rows.belongs entry held).selected own (of_decide_eq_true (by simpa using List.find?_some found))
    refine keeps entry next taken (.inl held) (stays same taken) ?_ fun _ => same
    rw [(rows.takes entry next taken).1, stays same taken, ← same]
    exact rows.belongs entry held
  · intro absent next taken
    refine keeps fresh next taken (.inr rfl) (starts taken) ?_ fun held =>
      (rows.belongs fresh held).selected own unkeyed.1
    rw [(rows.takes fresh next taken).1, unkeyed.1, starts taken]
    exact own.belongs

end Entries

theorem agentEntries (kind : AgentEvent) : Entries owners event AgentState.aggregateId AgentState.conversationId
    (AgentState.OwnedBy owners) fun agent => some (agent.take builtins event kind) where
  belongs _ held := held.belongs
  takes agent next taken := by
    cases taken
    cases kind <;> exact ⟨rfl, rfl⟩

theorem AgentState.take_agentRunId (event : RuntimeEvent) (kind : AgentEvent) (agent : AgentState) :
    (agent.take builtins event kind).agentRunId = orId event.agentRunId agent.agentRunId := by
  cases kind <;> rfl

variable {next : Snapshot}

theorem isolated_agent {kind : AgentEvent} (owned : snapshot.OwnedBy owners) (own : owners.Own event)
    (applied : applyAgentEvent builtins snapshot event kind = some next) :
    Isolated owners event (fun snapshot => applyAgentEvent builtins snapshot event kind)
      snapshot next := by
  have rows := @agentEntries builtins owners event kind
  have found {only : Option Int → Bool} {part : Snapshot} (mine : only event.conversation = true)
      (agrees : Agrees only snapshot part) :
      agentAt event.aggregateId part.agents = agentAt event.aggregateId snapshot.agents := by
    rw [agentAt, agrees.agents, rows.find?_filter own owned.agents mine, agentAt]
  unfold applyAgentEvent at applied
  split at applied
  next refused =>
    cases applied
    refine ⟨owned, fun only part mine agrees => ⟨part, ?_, agrees⟩, fun _ _ _ agrees => agrees⟩
    rw [applyAgentEvent, found mine agrees, if_pos refused]
  next accepts =>
    obtain ⟨agents, done, made⟩ := Option.bind_eq_some_iff.mp applied
    cases made
    obtain ⟨kept, apart⟩ := rows.upsert own owned.agents ⟨rfl, rfl⟩ (fun agent next taken old mine belongs same => by
      cases taken
      refine ⟨belongs, ?_⟩
      rw [AgentState.take_agentRunId, mine]
      rcases old with held | rfl
      · exact orId_owned own.agentRun (same held ▸ held.agentRun)
      · exact orId_owned own.agentRun (by simp)) done
    refine ⟨{ owned with agents := kept }, fun only part mine agrees => ?_, fun only part other agrees => ?_⟩
    · refine ⟨{ part with agents := agents.filter fun agent => only agent.conversationId }, ?_,
        { agrees with agents := rfl }⟩
      rw [applyAgentEvent, found mine agrees, if_neg accepts, agrees.agents, apart.follows only mine]
      rfl
    · exact { agrees with agents := agrees.agents.trans (apart.ignores only other).symm }

theorem AgentState.OwnedBy.of_agentRun {agent : AgentState}
    (held : agent.OwnedBy owners) (own : owners.Own event) (named : event.agentRunId ≠ none)
    (same : agent.agentRunId = event.agentRunId) : agent.conversationId = event.conversation := by
  obtain ⟨number, given⟩ := Option.ne_none_iff_exists'.mp named
  obtain ⟨nonzero, mine⟩ := held.agentRun number (same.trans given)
  rw [← mine, own.agentRun number given nonzero]

theorem isolated_namedAgent (selected : AgentState → Bool)
    (change : AgentState → AgentState) (owned : snapshot.OwnedBy owners) (own : owners.Own event)
    (named : event.agentRunId ≠ none)
    (selects : ∀ agent, selected agent = true → agent.agentRunId = event.agentRunId)
    (keeps : ∀ agent, (change agent).aggregateId = agent.aggregateId ∧
      (change agent).conversationId = agent.conversationId ∧
      (change agent).agentRunId = agent.agentRunId) :
    (∀ agent ∈ modifyFirst selected change snapshot.agents, agent.OwnedBy owners) ∧
      Apart AgentState.conversationId event.conversation
        (fun agents => some (modifyFirst selected change agents)) snapshot.agents
        (modifyFirst selected change snapshot.agents) := by
  constructor
  · intro agent member
    rcases mem_modifyFirst member with old | ⟨held, found, rfl⟩
    · exact owned.agents agent old
    · have before := owned.agents held (List.mem_of_find?_eq_some found)
      obtain ⟨key, conversation, run⟩ := keeps held
      refine ⟨?_, ?_⟩
      · rw [key, conversation]
        exact before.belongs
      · rw [run, conversation]
        exact before.agentRun
  · refine apart_modifyFirst (fun agent member chosen => ?_) (fun agent => (keeps agent).2.1)
    exact (owned.agents agent member).of_agentRun own named (selects agent chosen)

theorem isolated_usage (owned : snapshot.OwnedBy owners) (own : owners.Own event)
    (applied : applyUsageEvent builtins snapshot event = some next) :
    Isolated owners event (fun snapshot => applyUsageEvent builtins snapshot event) snapshot next := by
  obtain ⟨usage, read, onward⟩ := Option.bind_eq_some_iff.mp applied
  obtain ⟨totals, spent, made⟩ := Option.bind_eq_some_iff.mp onward
  cases made
  -- the totals are kept for each agent's name, over all conversations, and never raise
  have runs : ∀ (part : Snapshot), ∃ totals, applyUsageEvent builtins part event = some
      { part with
        agents := if event.agentRunId = none then part.agents
          else modifyFirst (fun agent => agent.agentRunId = event.agentRunId)
            (AgentState.spend builtins event usage) part.agents
        tokenTotals := totals } := by
    intro part
    obtain ⟨totals, done⟩ := upsert_some (fun totals : TokenTotals =>
      totals.agent = builtins.textField event.payload "agent" event.actor)
      { agent := builtins.textField event.payload "agent" event.actor } (TokenTotals.spend usage)
      part.tokenTotals
    refine ⟨totals, ?_⟩
    simp only [applyUsageEvent, Option.bind_eq_bind, read, Option.bind_some, done]
    rfl
  by_cases unnamed : event.agentRunId = none
  · simp only [if_pos unnamed] at runs ⊢
    refine ⟨{ owned with }, fun only part mine agrees => ?_, fun only part other agrees => { agrees with }⟩
    obtain ⟨totals, done⟩ := runs part
    exact ⟨_, done, { agrees with }⟩
  · simp only [if_neg unnamed] at runs ⊢
    obtain ⟨kept, apart⟩ := isolated_namedAgent
      (fun agent => agent.agentRunId = event.agentRunId) (AgentState.spend builtins event usage)
      owned own unnamed (fun agent named => of_decide_eq_true named) (fun agent => ⟨rfl, rfl, rfl⟩)
    refine ⟨{ owned with agents := kept }, fun only part mine agrees => ?_, fun only part other agrees => ?_⟩
    · obtain ⟨totals, done⟩ := runs part
      have same := apart.follows only mine
      rw [Option.some.injEq] at same
      exact ⟨_, done, { agrees with agents := by rw [agrees.agents]; exact same }⟩
    · exact { agrees with agents := agrees.agents.trans (apart.ignores only other).symm }

theorem isolated_timeout {kind : TimeoutEvent} (owned : snapshot.OwnedBy owners) (own : owners.Own event) :
    Isolated owners event (fun snapshot => some (applyTimeoutEvent snapshot event kind)) snapshot
      (applyTimeoutEvent snapshot event kind) := by
  unfold applyTimeoutEvent
  by_cases unnamed : event.agentRunId = none
  · simp only [if_pos unnamed]
    exact isolated_same owned
  · simp only [if_neg unnamed]
    obtain ⟨kept, apart⟩ := isolated_namedAgent
      (fun agent => agent.agentRunId = event.agentRunId && !agent.status.isTerminal)
      (AgentState.expire event kind) owned own unnamed
      (fun agent named => of_decide_eq_true (Bool.and_eq_true_iff.mp named).1)
      (fun agent => by cases kind <;> exact ⟨rfl, rfl, rfl⟩)
    refine ⟨{ owned with agents := kept }, fun only part mine agrees => ⟨_, rfl, ?_⟩,
      fun only part other agrees => ?_⟩
    · have same := apart.follows only mine
      rw [Option.some.injEq] at same
      exact { agrees with agents := by rw [agrees.agents]; exact same }
    · exact { agrees with agents := agrees.agents.trans (apart.ignores only other).symm }

theorem approvalEntries (kind : ApprovalEvent) : Entries owners event ApprovalState.aggregateId
    ApprovalState.conversationId (fun approval => Belongs owners approval.aggregateId approval.conversationId)
    fun approval => some (approval.take builtins event kind) where
  belongs _ held := held
  takes approval next taken := by
    cases taken
    cases kind <;> exact ⟨rfl, rfl⟩

theorem isolated_approval {kind : ApprovalEvent} (owned : snapshot.OwnedBy owners) (own : owners.Own event)
    (applied : applyApprovalEvent builtins snapshot event kind = some next) :
    Isolated owners event (fun snapshot => applyApprovalEvent builtins snapshot event kind)
      snapshot next := by
  have rows := @approvalEntries builtins owners event kind
  have found {only : Option Int → Bool} {part : Snapshot} (mine : only event.conversation = true)
      (agrees : Agrees only snapshot part) :
      approvalAt event.aggregateId part.approvals = approvalAt event.aggregateId snapshot.approvals := by
    rw [approvalAt, agrees.approvals, rows.find?_filter own owned.approvals mine, approvalAt]
  unfold applyApprovalEvent at applied
  split at applied
  next refused =>
    cases applied
    refine ⟨owned, fun only part mine agrees => ⟨part, ?_, agrees⟩, fun _ _ _ agrees => agrees⟩
    rw [applyApprovalEvent, found mine agrees, if_pos refused]
  next accepts =>
    obtain ⟨approvals, done, made⟩ := Option.bind_eq_some_iff.mp applied
    cases made
    obtain ⟨kept, apart⟩ := rows.upsert own owned.approvals ⟨rfl, rfl⟩ (fun _ _ _ _ _ belongs _ => belongs) done
    refine ⟨{ owned with approvals := kept }, fun only part mine agrees => ?_, fun only part other agrees => ?_⟩
    · refine ⟨{ part with approvals := approvals.filter fun approval => only approval.conversationId },
        ?_, { agrees with approvals := rfl }⟩
      rw [applyApprovalEvent, found mine agrees, if_neg accepts, agrees.approvals, apart.follows only mine]
      rfl
    · exact { agrees with approvals := agrees.approvals.trans (apart.ignores only other).symm }

theorem isolated_superseded (owned : snapshot.OwnedBy owners) :
    Isolated owners event (fun snapshot => some (applyApprovalSuperseded snapshot event)) snapshot
      (applyApprovalSuperseded snapshot event) := by
  have apart : Apart ApprovalState.conversationId event.conversation _ snapshot.approvals
      (applyApprovalSuperseded snapshot event).approvals :=
    apart_map
      (fun approval member other => if_neg fun chosen =>
        other (conversation_of_eq (owned.approvals approval member).numbered chosen.1))
      (fun approval => by
        split
        · rfl
        · rfl)
  refine ⟨{ owned with approvals := ?_ }, fun only part mine agrees => ⟨_, rfl, ?_⟩,
    fun only part other agrees => ?_⟩
  · intro approval member
    obtain ⟨held, inside, rfl⟩ := List.mem_map.mp member
    have before := owned.approvals held inside
    split
    · exact before
    · exact before
  · have same := apart.follows only mine
    rw [Option.some.injEq] at same
    exact { agrees with approvals := by rw [applyApprovalSuperseded, agrees.approvals]; exact same }
  · exact { agrees with approvals := agrees.approvals.trans (apart.ignores only other).symm }

theorem ConversationState.take_aggregateId {kind : ConversationEvent}
    {conversation next : ConversationState} (taken : conversation.take builtins event kind = some next) :
    next.aggregateId = conversation.aggregateId := by
  cases kind with
  | started =>
      obtain ⟨chat, -, made⟩ := Option.bind_eq_some_iff.mp taken
      cases made
      rfl
  | activated | stateChanged | closed | modeSwitched | userContextAppended
  | pendingContextRecorded | pendingContextReviewed =>
      cases taken
      rfl

theorem conversationEntries (kind : ConversationEvent) : Entries owners event ConversationState.aggregateId
    ConversationState.conversationId
    (fun conversation => Belongs owners conversation.aggregateId conversation.conversationId)
    (ConversationState.take builtins event kind) where
  belongs _ held := held
  takes _ _ taken := ⟨ConversationState.take_aggregateId taken, ConversationState.take_conversationId taken⟩

theorem isolated_conversation {kind : ConversationEvent} (owned : snapshot.OwnedBy owners) (own : owners.Own event)
    (applied : applyConversationEvent builtins snapshot event kind = some next) :
    Isolated owners event (fun snapshot => applyConversationEvent builtins snapshot event kind)
      snapshot next := by
  have rows := @conversationEntries builtins owners event kind
  have found {only : Option Int → Bool} {part : Snapshot} (mine : only event.conversation = true)
      (agrees : Agrees only snapshot part) :
      conversationAt event.aggregateId part.conversations =
        conversationAt event.aggregateId snapshot.conversations := by
    rw [conversationAt, agrees.conversations, rows.find?_filter own owned.conversations mine, conversationAt]
  unfold applyConversationEvent at applied
  split at applied
  next refused =>
    cases applied
    refine ⟨owned, fun only part mine agrees => ⟨part, ?_, agrees⟩, fun _ _ _ agrees => agrees⟩
    rw [applyConversationEvent, found mine agrees, if_pos refused]
  next accepts =>
    obtain ⟨conversations, done, made⟩ := Option.bind_eq_some_iff.mp applied
    cases made
    obtain ⟨kept, apart⟩ := rows.upsert own owned.conversations ⟨rfl, rfl⟩ (fun _ _ _ _ _ belongs _ => belongs) done
    refine ⟨{ owned with conversations := kept }, fun only part mine agrees => ?_, fun only part other agrees => ?_⟩
    · refine ⟨{ part with conversations :=
          conversations.filter fun conversation => only conversation.conversationId },
        ?_, { agrees with conversations := rfl }⟩
      rw [applyConversationEvent, found mine agrees, if_neg accepts, agrees.conversations,
        apart.follows only mine]
      rfl
    · exact { agrees with conversations := agrees.conversations.trans (apart.ignores only other).symm }

theorem isolated_namedConversation
    (selected : ConversationState → Bool) (change : ConversationState → ConversationState)
    (owned : snapshot.OwnedBy owners)
    (selects : ∀ conversation, selected conversation = true →
      conversation.conversationId = event.conversationId)
    (keeps : ∀ conversation, (change conversation).aggregateId = conversation.aggregateId ∧
      (change conversation).conversationId = conversation.conversationId) :
    (∀ conversation ∈ modifyFirst selected change snapshot.conversations,
      Belongs owners conversation.aggregateId conversation.conversationId) ∧
      Apart ConversationState.conversationId event.conversation
        (fun conversations => some (modifyFirst selected change conversations)) snapshot.conversations
        (modifyFirst selected change snapshot.conversations) := by
  constructor
  · intro conversation member
    rcases mem_modifyFirst member with old | ⟨held, found, rfl⟩
    · exact owned.conversations conversation old
    · rw [(keeps held).1, (keeps held).2]
      exact owned.conversations held (List.mem_of_find?_eq_some found)
  · refine apart_modifyFirst (fun conversation member chosen => ?_)
      (fun conversation => (keeps conversation).2)
    exact conversation_of_eq (owned.conversations conversation member).numbered
      (selects conversation chosen)

theorem isolated_propagate (event : RuntimeEvent) (state : Option String) (owned : snapshot.OwnedBy owners) :
    (∀ conversation ∈ (state.map fun state => propagate event state snapshot.conversations).getD
        snapshot.conversations, Belongs owners conversation.aggregateId conversation.conversationId) ∧
      Apart ConversationState.conversationId event.conversation
        (fun conversations => some
          ((state.map fun state => propagate event state conversations).getD conversations))
        snapshot.conversations
        ((state.map fun state => propagate event state snapshot.conversations).getD
          snapshot.conversations) := by
  cases state with
  | none => exact ⟨owned.conversations, apart_same snapshot.conversations⟩
  | some state =>
      simp only [Option.map_some, Option.getD_some, propagate]
      by_cases unnamed : event.conversationId = none
      · simp only [if_pos unnamed]
        exact ⟨owned.conversations, apart_same snapshot.conversations⟩
      · simp only [if_neg unnamed]
        refine isolated_namedConversation _ _ owned (fun conversation opened => ?_)
          (fun conversation => ⟨rfl, rfl⟩)
        exact of_decide_eq_true (Bool.and_eq_true_iff.mp opened).1

theorem orchestrationEntries (kind : RunEvent) : Entries owners event OrchestrationState.aggregateId
    OrchestrationState.conversationId (OrchestrationState.OwnedBy owners)
    (OrchestrationState.take builtins event kind) where
  belongs _ held := held.belongs
  takes _ _ taken :=
    have spec := OrchestrationState.taken_of_take taken
    ⟨spec.key, spec.conversation⟩

theorem isolated_orchestration {kind : RunEvent} (owned : snapshot.OwnedBy owners) (own : owners.Own event)
    (applied : applyOrchestrationEvent builtins snapshot event kind = some next) :
    Isolated owners event (fun snapshot => applyOrchestrationEvent builtins snapshot event kind)
      snapshot next := by
  have rows := @orchestrationEntries builtins owners event kind
  have found {only : Option Int → Bool} {part : Snapshot} (mine : only event.conversation = true)
      (agrees : Agrees only snapshot part) :
      runAt event.aggregateId part.orchestrations = runAt event.aggregateId snapshot.orchestrations := by
    rw [runAt, agrees.orchestrations, rows.find?_filter own owned.orchestrations mine, runAt]
  simp only [applyOrchestrationEvent] at applied
  split at applied
  next refused =>
    cases applied
    refine ⟨owned, fun only part mine agrees => ⟨part, ?_, agrees⟩, fun _ _ _ agrees => agrees⟩
    simp only [applyOrchestrationEvent, found mine agrees, refused, if_true]
  next accepts =>
    obtain ⟨runs, done, made⟩ := Option.bind_eq_some_iff.mp applied
    cases made
    obtain ⟨keptRuns, apart⟩ := rows.upsert own owned.orchestrations ⟨rfl, rfl⟩
      (fun run next taken old mine belongs same => by
        refine ⟨belongs, ?_⟩
        rw [(OrchestrationState.taken_of_take taken).runId, mine]
        rcases old with held | rfl
        · exact orId_owned own.orchestrationRun (same held ▸ held.orchestrationRun)
        · exact orId_owned own.orchestrationRun (by simp)) done
    obtain ⟨kept, moved⟩ := isolated_propagate event (conversationStateAfter builtins event kind
      (runAt event.aggregateId snapshot.orchestrations)) owned
    refine ⟨{ owned with orchestrations := keptRuns, conversations := kept },
      fun only part mine agrees => ?_, fun only part other agrees => ?_⟩
    · have same := moved.follows only mine
      rw [Option.some.injEq] at same
      refine ⟨{ part with
          orchestrations := runs.filter fun run => only run.conversationId
          conversations := _ }, ?_, { agrees with orchestrations := rfl, conversations := same }⟩
      have at_ := found mine agrees
      rw [agrees.orchestrations] at at_
      simp only [applyOrchestrationEvent, agrees.orchestrations, at_, accepts,
        apart.follows only mine, agrees.conversations]
      rfl
    · exact { agrees with
        orchestrations := agrees.orchestrations.trans (apart.ignores only other).symm
        conversations := agrees.conversations.trans (moved.ignores only other).symm }

theorem OrchestrationState.OwnedBy.of_orchestrationRun {run : OrchestrationState}
    (held : run.OwnedBy owners) (own : owners.Own event) (named : event.orchestrationRunId ≠ none)
    (same : run.orchestrationRunId = event.orchestrationRunId) :
    run.conversationId = event.conversation := by
  obtain ⟨number, given⟩ := Option.ne_none_iff_exists'.mp named
  obtain ⟨nonzero, mine⟩ := held.orchestrationRun number (same.trans given)
  rw [← mine, own.orchestrationRun number given nonzero]

theorem isolated_verifiedRuns {kind : VerificationEvent}
    {runs : List OrchestrationState} (owned : snapshot.OwnedBy owners) (own : owners.Own event)
    (done : verifiedRuns builtins event kind snapshot.orchestrations = some runs) :
    (∀ run ∈ runs, run.OwnedBy owners) ∧
      Apart OrchestrationState.conversationId event.conversation (verifiedRuns builtins event kind)
        snapshot.orchestrations runs := by
  unfold verifiedRuns at done ⊢
  by_cases unnamed : event.orchestrationRunId = none
  · simp only [if_pos unnamed] at done ⊢
    cases done
    exact ⟨owned.orchestrations, apart_same snapshot.orchestrations⟩
  · simp only [if_neg unnamed] at done ⊢
    constructor
    · refine forall_changeFirst ?_ owned.orchestrations done
      intro run found held next verified
      have spec := OrchestrationState.verified_of_verify verified
      refine ⟨?_, ?_⟩
      · rw [spec.key, spec.conversation]
        exact held.belongs
      · rw [spec.runId, spec.conversation]
        exact held.orchestrationRun
    · refine apart_changeFirst (fun run member opened => ?_) (fun run next same verified => ?_) done
      · exact (owned.orchestrations run member).of_orchestrationRun own unnamed
          (of_decide_eq_true (Bool.and_eq_true_iff.mp opened).1)
      · rw [(OrchestrationState.verified_of_verify verified).conversation, same]

theorem isolated_verification {kind : VerificationEvent} (owned : snapshot.OwnedBy owners) (own : owners.Own event)
    (applied : applyVerificationEvent builtins snapshot event kind = some next) :
    Isolated owners event (fun snapshot => applyVerificationEvent builtins snapshot event kind)
      snapshot next := by
  obtain ⟨runs, done, made⟩ := Option.bind_eq_some_iff.mp applied
  cases made
  obtain ⟨keptRuns, apart⟩ := isolated_verifiedRuns owned own done
  by_cases decided : kind = .decisionRecorded ∧ event.conversationId ≠ none
  · obtain ⟨kept, noted⟩ := isolated_namedConversation
      (fun conversation => conversation.conversationId = event.conversationId)
      (ConversationState.notePass (builtins.textField event.payload "decision" "")) owned
      (fun conversation named => of_decide_eq_true named) (fun conversation => by
        unfold ConversationState.notePass
        split
        · exact ⟨rfl, rfl⟩
        · exact ⟨rfl, rfl⟩)
    simp only [if_pos decided]
    refine ⟨{ owned with orchestrations := keptRuns, conversations := kept },
      fun only part mine agrees => ?_, fun only part other agrees => ?_⟩
    · have same := noted.follows only mine
      rw [Option.some.injEq] at same
      refine ⟨{ part with
          orchestrations := runs.filter fun run => only run.conversationId
          conversations := _ }, ?_, { agrees with orchestrations := rfl, conversations := same }⟩
      simp only [applyVerificationEvent, agrees.orchestrations, apart.follows only mine,
        agrees.conversations, if_pos decided]
      rfl
    · exact { agrees with
        orchestrations := agrees.orchestrations.trans (apart.ignores only other).symm
        conversations := agrees.conversations.trans (noted.ignores only other).symm }
  · simp only [if_neg decided]
    refine ⟨{ owned with orchestrations := keptRuns },
      fun only part mine agrees => ?_, fun only part other agrees => ?_⟩
    · refine ⟨{ part with orchestrations := runs.filter fun run => only run.conversationId }, ?_,
        { agrees with orchestrations := rfl }⟩
      simp only [applyVerificationEvent, agrees.orchestrations, apart.follows only mine, if_neg decided]
      rfl
    · exact { agrees with
        orchestrations := agrees.orchestrations.trans (apart.ignores only other).symm }

theorem Isolated.of_handler {handler : Snapshot → Option Snapshot}
    (calls : ∀ snapshot, applyEvent builtins snapshot event =
      handler { snapshot with lastEventId := event.id, lastEventAt := event.occurredAt })
    (isolated : Isolated owners event handler
      { snapshot with lastEventId := event.id, lastEventAt := event.occurredAt } next) :
    Isolated owners event (fun snapshot => applyEvent builtins snapshot event) snapshot next := by
  refine ⟨isolated.owned, fun only part mine agrees => ?_, fun only part other agrees => ?_⟩
  · obtain ⟨partNext, done, agrees⟩ := isolated.follows only
      { part with lastEventId := event.id, lastEventAt := event.occurredAt } mine { agrees with }
    exact ⟨partNext, (calls part).trans done, agrees⟩
  · exact isolated.ignores only part other { agrees with }

theorem Isolated.of_apply (owned : snapshot.OwnedBy owners) (own : owners.Own event)
    (applied : applyEvent builtins snapshot event = some next) :
    Isolated owners event (fun snapshot => applyEvent builtins snapshot event) snapshot next := by
  have noted : ({ snapshot with lastEventId := event.id, lastEventAt := event.occurredAt } :
    Snapshot).OwnedBy owners := { owned with }
  unfold applyEvent at applied
  cases type : event.eventType with
  | run kind =>
      rw [type] at applied
      exact .of_handler (fun _ => by rw [applyEvent, type]) (isolated_orchestration noted own applied)
  | agent kind =>
      rw [type] at applied
      exact .of_handler (fun _ => by rw [applyEvent, type]) (isolated_agent noted own applied)
  | modelUsageUpdated =>
      rw [type] at applied
      exact .of_handler (fun _ => by rw [applyEvent, type]) (isolated_usage noted own applied)
  | approval kind =>
      rw [type] at applied
      exact .of_handler (fun _ => by rw [applyEvent, type]) (isolated_approval noted own applied)
  | watchdog kind =>
      rw [type] at applied
      cases applied
      exact .of_handler (fun _ => by rw [applyEvent, type]) (isolated_timeout noted own)
  | verification kind =>
      rw [type] at applied
      exact .of_handler (fun _ => by rw [applyEvent, type]) (isolated_verification noted own applied)
  | conversation kind =>
      rw [type] at applied
      exact .of_handler (fun _ => by rw [applyEvent, type]) (isolated_conversation noted own applied)
  | approvalSuperseded =>
      rw [type] at applied
      cases applied
      exact .of_handler (fun _ => by rw [applyEvent, type]) (isolated_superseded noted)
  | other name =>
      rw [type] at applied
      cases applied
      exact .of_handler (fun _ => by rw [applyEvent, type]) (isolated_same noted)

theorem empty_owned : Snapshot.OwnedBy owners {} where
  agents _ member := by cases member
  orchestrations _ member := by cases member
  approvals _ member := by cases member
  conversations _ member := by cases member

theorem replay_owned {events : List RuntimeEvent} (own : ∀ event ∈ events, owners.Own event)
    (replayed : replayEvents builtins events = some snapshot) : snapshot.OwnedBy owners :=
  invariant_foldlM (fun _ event _ owned ok applied => (Isolated.of_apply owned (own event ok.2) applied).owned)
    empty_owned (along_mem (along_true _ events)) replayed

theorem replay_filter {events : List RuntimeEvent} {final : Snapshot} (owned : snapshot.OwnedBy owners)
    (own : ∀ event ∈ events, owners.Own event) (agrees : Agrees only snapshot part)
    (replayed : events.foldlM (applyEvent builtins) snapshot = some final) :
    ∃ partFinal, (events.filter fun event => only event.conversation).foldlM (applyEvent builtins)
      part = some partFinal ∧ Agrees only final partFinal := by
  induction events generalizing snapshot part with
  | nil =>
      cases replayed
      exact ⟨part, rfl, agrees⟩
  | cons event rest ih =>
      obtain ⟨next, applied, onward⟩ := Option.bind_eq_some_iff.mp replayed
      rw [List.forall_mem_cons] at own
      have isolated := Isolated.of_apply owned own.1 applied
      cases mine : only event.conversation with
      | true =>
          obtain ⟨partNext, partApplied, agrees⟩ := isolated.follows only part mine agrees
          obtain ⟨partFinal, done, agrees⟩ := ih isolated.owned own.2 agrees onward
          refine ⟨partFinal, ?_, agrees⟩
          rw [List.filter_cons, mine, if_pos rfl, List.foldlM_cons, partApplied]
          exact done
      | false =>
          rw [List.filter_cons, mine, if_neg Bool.false_ne_true]
          exact ih isolated.owned own.2 (isolated.ignores only part mine agrees) onward

structure Entities where
  agents : List AgentState
  orchestrations : List OrchestrationState
  approvals : List ApprovalState
  conversations : List ConversationState

def Snapshot.within (only : Option Int → Bool) (snapshot : Snapshot) : Entities where
  agents := snapshot.agents.filter fun agent => only agent.conversationId
  orchestrations := snapshot.orchestrations.filter fun run => only run.conversationId
  approvals := snapshot.approvals.filter fun approval => only approval.conversationId
  conversations := snapshot.conversations.filter fun conversation => only conversation.conversationId

theorem Agrees.within
    (agrees : Agrees only snapshot part) : part.within only = snapshot.within only := by
  simp only [Snapshot.within, agrees.agents, agrees.orchestrations, agrees.approvals,
    agrees.conversations, List.filter_filter, Bool.and_self]

theorem Isolated.within {apply : Snapshot → Option Snapshot} (isolated : Isolated owners event apply snapshot next) (other : only event.conversation = false) :
    next.within only = snapshot.within only := by
  have agrees := isolated.ignores only
    { agents := snapshot.agents.filter fun agent => only agent.conversationId
      orchestrations := snapshot.orchestrations.filter fun run => only run.conversationId
      approvals := snapshot.approvals.filter fun approval => only approval.conversationId
      conversations := snapshot.conversations.filter fun conversation => only conversation.conversationId }
    other ⟨rfl, rfl, rfl, rfl⟩
  simp only [Snapshot.within, ← agrees.agents, ← agrees.orchestrations, ← agrees.approvals,
    ← agrees.conversations]

theorem conversation_eq_some_iff {number : Int} (numbered : number ≠ 0) :
    event.conversation = some number ↔ event.conversationId = some number := by
  unfold RuntimeEvent.conversation
  simp [numbered]

/-- Where every id belongs to one conversation, or to none, the agents, runs, approvals and
conversations that are replayed of a conversation are those that its own events give; no other
event changes them, and its events change no others. -/
theorem replay_isolates_conversations {events : List RuntimeEvent} {snapshot : Snapshot}
    (own : ∀ event ∈ events, owners.Own event)
    (replayed : replayEvents builtins events = some snapshot) {number : Int} (numbered : number ≠ 0) :
    (∃ part, replayEvents builtins (events.filter fun event => event.conversationId = some number) =
        some part ∧ part.within (· = some number) = snapshot.within (· = some number)) ∧
      ∀ (earlier later : List RuntimeEvent) (event : RuntimeEvent) (state next : Snapshot),
        events = earlier ++ event :: later → replayEvents builtins earlier = some state →
        applyEvent builtins state event = some next →
        (event.conversationId ≠ some number →
          next.within (· = some number) = state.within (· = some number)) ∧
        (event.conversationId = some number →
          next.within (· ≠ some number) = state.within (· ≠ some number)) := by
  constructor
  · have nothing : Agrees (· = some number) {} {} := ⟨rfl, rfl, rfl, rfl⟩
    obtain ⟨part, done, agrees⟩ := replay_filter empty_owned own nothing replayed
    refine ⟨part, ?_, agrees.within⟩
    rw [← done, replayEvents]
    simp only [conversation_eq_some_iff numbered]
  · rintro earlier later event state next rfl before applied
    have owned := replay_owned (fun event member => own event (List.mem_append_left _ member)) before
    have isolated := Isolated.of_apply owned (own event (by simp)) applied
    constructor
    · intro other
      refine isolated.within (decide_eq_false ?_)
      rw [conversation_eq_some_iff numbered]
      exact other
    · intro mine
      refine isolated.within (decide_eq_false ?_)
      rw [not_not, conversation_eq_some_iff numbered]
      exact mine

def twoConversations : List RuntimeEvent :=
  [{ id := 1, eventType := .agent .started, aggregateId := "agent:5", conversationId := some 1,
     agentRunId := some 5 },
   { id := 2, eventType := .approval .requested, aggregateId := "approval:9", conversationId := some 2 },
   { id := 3, eventType := .modelUsageUpdated, aggregateId := "agent:5", conversationId := some 1,
     agentRunId := some 5, payload := [("input_tokens", .int 7)] },
   { id := 4, eventType := .approvalSuperseded, aggregateId := "approval:9", conversationId := some 2 }]

def twoOwners : Owners where
  aggregate aggregateId := if aggregateId = "agent:5" then some 1 else some 2
  agentRun _ := some 1
  orchestrationRun _ := none

theorem two_conversations_apart :
    ∃ snapshot, replayEvents sampleBuiltins twoConversations = some snapshot ∧
      ∃ part, replayEvents sampleBuiltins
          (twoConversations.filter fun event => event.conversationId = some 1) = some part ∧
        part.within (· = some 1) = snapshot.within (· = some 1) := by
  refine ⟨_, rfl, (@replay_isolates_conversations _ twoOwners _ _ ?_ rfl 1 (by decide)).1⟩
  have unnamed : ∀ number : Int, none = some number → number ≠ 0 → twoOwners.agentRun number = some 2 :=
    fun _ impossible => by cases impossible
  have unrun : ∀ (conversation : Option Int) (number : Int), none = some number → number ≠ 0 →
      twoOwners.orchestrationRun number = conversation := fun _ _ impossible => by cases impossible
  intro event member
  simp only [twoConversations, List.mem_cons, List.not_mem_nil, or_false] at member
  rcases member with rfl | rfl | rfl | rfl
  · exact ⟨rfl, fun _ _ _ => rfl, unrun _⟩
  · exact ⟨rfl, unnamed, unrun _⟩
  · exact ⟨rfl, fun _ _ _ => rfl, unrun _⟩
  · exact ⟨rfl, unnamed, unrun _⟩

end Wlcodex.State
