import Wlcodex.Codex.MirrorOnce
import Wlcodex.Native.History

namespace Wlcodex.Native

open Wlcodex.Lib
open Wlcodex.Codex (StoredEvent lookup_redactMembers maxPayloadStringLength nativeFields)
open Wlcodex.Relay (Dict)
open Wlcodex.Relay.StreamState (isText lookup_set_of_ne)
open Wlcodex.Runtime (WordClass plainWords redactPayload redactPayloadValue)
open Wlcodex.Timeline (EventType)

/-! The outcomes of commands, told live and by readings of the history. -/

inductive NativeStep where
  | completed (payload : Dict)
  | history (detail : Dict)
  | restart

def isEnd (type : EventType) : Bool := type = .commandCompleted ∨ type = .commandFailed

/-- The item of which the call says that it ended, if that is a command. -/
def BackendCall.endedItem? (call : BackendCall) : Option Dict :=
  let item := nested? call.payload "item"
  match call.kind with
  | .commandFailed => item
  | .itemCompleted => item.filter fun item => isText (item.lookup "type") "commandExecution"
  | _ => none

section Python

variable (words : WordClass) (python : Python)

def NativeStep.calls : NativeStep → List BackendCall
  | .completed payload => (notificationCall? python "item/completed" payload).toList
  | .history detail => historyCalls python detail
  | .restart => []

def NativeStep.take (step : NativeStep) (projector : Projector) : Projector :=
  match step with
  | .completed payload => (projector.projectNotification words python "item/completed" payload).1
  | .history detail => (projector.projectHistory words python detail).1
  | .restart => projector.restarted

def runtimeLog (thread : String) (steps : List NativeStep) : List StoredEvent :=
  (steps.foldl (fun projector step => NativeStep.take words python step projector)
    ({ logs := fun _ => [] } : Projector)).logs thread

def describedCommands (thread : String) (steps : List NativeStep) : List Dict :=
  ((steps.flatMap (·.calls python)).filter fun call => call.nativeThreadId = thread).filterMap (·.endedItem?)

def hasFailed (item : Dict) : Bool :=
  python.plainText (item.getOrNull "status") = "failed" ∨ ¬isQuietExit (item.getOrNull "exitCode")

def outcome (item : Dict) : EventType := if hasFailed python item then .commandFailed else .commandCompleted

def eventItemId (event : StoredEvent) : String := python.plainText (event.payload.getOrNull "itemId")

/-- The id under which the outcome of an item is stored: redacted, and a text where it failed. -/
def storedItemId (item : Dict) : String :=
  python.plainText (redactPayloadValue words (some maxPayloadStringLength)
    (if hasFailed python item then .string (python.plainText (item.getOrNull "id")) else field item "id"))

/-- Items that are stored under one id have one outcome. -/
def Consistent (items : List Dict) : Prop :=
  ∀ first ∈ items, ∀ second ∈ items, storedItemId words python first = storedItemId words python second →
    outcome python first = outcome python second

structure OneOutcome (items : List Dict) (log : List StoredEvent) : Prop where
  once : ∀ first ∈ log, ∀ second ∈ log, isEnd first.eventType = true → isEnd second.eventType = true →
    eventItemId python first = eventItemId python second → first.eventType = second.eventType
  right : ∀ event ∈ log, isEnd event.eventType = true → ∀ item ∈ items,
    eventItemId python event = storedItemId words python item → event.eventType = outcome python item

/-- What the call says of a command is its outcome. -/
structure Truthful (call : BackendCall) : Prop where
  failed : call.kind = .commandFailed → ∃ item, nested? call.payload "item" = some item ∧
    hasFailed python item = true ∧
    field call.payload "itemId" = .string (python.plainText (item.getOrNull "id"))
  completed : call.kind = .itemCompleted → ∀ item, call.endedItem? = some item →
    hasFailed python item = false

variable {words python}

section Calls

variable {call : BackendCall} {payload item : Dict}

theorem truthful_of_kind (other : call.kind ≠ .itemCompleted) (notFailed : call.kind ≠ .commandFailed) :
    Truthful python call :=
  ⟨fun same => absurd same notFailed, fun same => absurd same other⟩

theorem mem_notificationCall? {method : String}
    (member : call ∈ (notificationCall? python method payload).toList) :
    methodKind method = some call.kind ∧ call.payload = normalizedPayload python payload := by
  unfold notificationCall? at member
  split at member
  · cases member
  next kind known =>
    dsimp only at member
    split at member
    · cases member
    · rw [Option.toList_some, List.mem_singleton] at member
      subst member
      exact ⟨known, rfl⟩

theorem truthful_notification {method : String} (other : methodKind method ≠ some .itemCompleted)
    (notFailed : methodKind method ≠ some .commandFailed) :
    ∀ call ∈ (notificationCall? python method payload).toList, Truthful python call := by
  intro call member
  obtain ⟨known, _⟩ := mem_notificationCall? member
  exact truthful_of_kind (fun same => other (same ▸ known)) fun same => notFailed (same ▸ known)

theorem nested?_normalizedPayload (payload : Dict) :
    nested? (normalizedPayload python payload) "item" = nested? payload "item" := by
  have named := fun thread turn => lookup_overlaid_of_ne
    (show "item" ∉ [("threadId", thread), ("turnId", turn)].map (Prod.fst (β := Json)) by simp) payload
  unfold normalizedPayload nested?
  dsimp only
  split_ifs
  · rw [lookup_set_of_ne _ (by decide), named]
  · rw [named]

theorem truthful_textCall {method : String} (other : methodKind method ≠ some .itemCompleted)
    (notFailed : methodKind method ≠ some .commandFailed) (base : Dict) (key : String) (keys : List String) :
    ∀ call ∈ textCall python method base item key keys, Truthful python call := by
  unfold textCall
  dsimp only
  split_ifs
  · exact List.forall_mem_nil _
  · exact truthful_notification other notFailed

theorem truthful_commandCalls {thread turn itemId : String} {base : Dict}
    (told : nested? base "item" = some item) (named : field base "itemId" = .string itemId)
    (same : itemId = python.plainText (item.getOrNull "id")) :
    ∀ call ∈ commandCalls python thread turn base item, Truthful python call := by
  intro call member
  rcases List.mem_append.mp member with early | last
  · rcases List.mem_append.mp early with started | shown
    · exact truthful_notification (by simp [methodKind]) (by simp [methodKind]) call started
    · split_ifs at shown
      · cases shown
      · exact truthful_notification (by simp [methodKind]) (by simp [methodKind]) call shown
  · split_ifs at last with failed
    · cases List.mem_singleton.mp last
      exact ⟨fun _ => ⟨item, told, decide_eq_true failed, by rw [named, same]⟩, nofun⟩
    · obtain ⟨known, shape⟩ := mem_notificationCall? last
      have kind : call.kind = .itemCompleted := (Option.some.inj known).symm
      refine ⟨fun other => ?_, fun _ ended found => ?_⟩
      · rw [kind] at other
        cases other
      · rw [BackendCall.endedItem?, kind, shape, nested?_normalizedPayload, told] at found
        cases (Option.filter_eq_some_iff.mp found).1
        exact decide_eq_false failed

theorem truthful_item (thread turn : String) (item : Dict) :
    ∀ call ∈ historyItemCalls python thread turn item, Truthful python call := by
  have single : ∀ call : BackendCall, call.kind ≠ .itemCompleted → call.kind ≠ .commandFailed →
      ∀ other ∈ [call], Truthful python other := by
    intro call other notFailed
    exact List.forall_mem_singleton.mpr (truthful_of_kind other notFailed)
  unfold historyItemCalls
  dsimp only
  split
  · split_ifs
    · exact List.forall_mem_nil _
    · exact single _ nofun nofun
  · split_ifs
    · exact List.forall_mem_nil _
    · exact single _ nofun nofun
  · unfold planCalls
    dsimp only
    split_ifs
    · exact List.forall_mem_nil _
    all_goals exact truthful_notification (by simp [methodKind]) (by simp [methodKind])
  · exact truthful_commandCalls rfl rfl rfl
  · unfold fileChangeCalls
    split_ifs
    · exact truthful_textCall (by simp [methodKind]) (by simp [methodKind]) _ _ _
    · exact truthful_textCall (by simp [methodKind]) (by simp [methodKind]) _ _ _
  · exact truthful_textCall (by simp [methodKind]) (by simp [methodKind]) _ _ _
  · exact List.forall_mem_nil _

theorem truthful_history (detail : Dict) : ∀ call ∈ historyCalls python detail, Truthful python call := by
  unfold historyCalls
  split
  · exact List.forall_mem_nil _
  · dsimp only
    split_ifs
    · exact List.forall_mem_nil _
    · refine List.forall_mem_flatMap.mpr fun turn _ => ?_
      unfold historyTurnCalls
      dsimp only
      split_ifs
      · exact List.forall_mem_nil _
      · intro call member
        rcases List.mem_append.mp member with early | last
        · rcases List.mem_append.mp early with first | inside
          · exact truthful_notification (by simp [methodKind]) (by simp [methodKind]) call first
          · obtain ⟨item, _, told⟩ := List.mem_flatMap.mp inside
            exact truthful_item _ _ item call told
        · exact truthful_notification (by simp [methodKind]) (by simp [methodKind]) call last

theorem quiet_mapEvent {kind : BackendKind} (other : kind ≠ .itemCompleted) (notFailed : kind ≠ .commandFailed) :
    ∀ event ∈ mapEvent python kind payload, isEnd event.1 = false := by
  cases kind with
  | itemCompleted | commandFailed => contradiction
  | itemStarted =>
      unfold mapEvent mapItemStarted
      dsimp only
      split
      · exact List.forall_mem_nil _
      · split_ifs
        · exact List.forall_mem_singleton.mpr rfl
        · exact List.forall_mem_nil _
  | tokenUsageUpdated =>
      unfold mapEvent mapTokenUsage
      dsimp only
      split_ifs
      · exact List.forall_mem_nil _
      · exact List.forall_mem_singleton.mpr rfl
  | agentMessage | agentMessageDelta =>
      exact List.forall_mem_cons.mpr ⟨rfl, List.forall_mem_singleton.mpr rfl⟩
  | _ => exact List.forall_mem_singleton.mpr rfl

/-- Only the end of an item, and a failure, are mapped to the end of a command. -/
theorem mapEvent_isEnd {event : RuntimeEvent} (member : event ∈ mapEvent python call.kind call.payload)
    (ends : isEnd event.1 = true) :
    (event.1 = .commandFailed ∧ call.kind = .commandFailed ∧
        event.2.lookup "itemId" = some (field call.payload "itemId")) ∨
      event.1 = .commandCompleted ∧ call.kind = .itemCompleted ∧
        ∃ item, call.endedItem? = some item ∧ event.2.lookup "itemId" = some (field item "id") := by
  by_cases completed : call.kind = .itemCompleted
  · rw [completed] at member
    unfold mapEvent mapItemCompleted at member
    dsimp only at member
    split at member
    · cases member
    next item told =>
      split_ifs at member with message visible command
      · rcases List.mem_cons.mp member with rfl | second
        · cases ends
        · cases List.mem_singleton.mp second
          cases ends
      · cases member
      · cases List.mem_singleton.mp member
        refine .inr ⟨rfl, completed, item, ?_, rfl⟩
        rw [BackendCall.endedItem?, completed, told]
        exact Option.filter_eq_some_iff.mpr ⟨rfl, command⟩
      · cases member
  · by_cases failed : call.kind = .commandFailed
    · rw [failed] at member
      cases List.mem_singleton.mp member
      exact .inl ⟨rfl, failed, rfl⟩
    · rw [quiet_mapEvent completed failed event member] at ends
      cases ends

theorem lookup_itemId_mapped (event : RuntimeEvent) :
    (call.mappedEvent words python event).stored.payload.getOrNull "itemId" =
      ((event.2.lookup "itemId").map (redactPayloadValue words (some maxPayloadStringLength))).getD .null := by
  have apart : "itemId" ∉ (nativeFields call.nativeThreadId call.nativeTurnId).map Prod.fst := by
    simp [nativeFields]
  change ((redactPayload words _ (overlaid event.2 _)).lookup "itemId").getD .null = _
  rw [redactPayload, lookup_redactMembers _ (by decide), lookup_overlaid_of_ne apart]

/-- An end of a command in the log is that of an item, under its id. -/
theorem stored_isEnd (truthful : Truthful python call) {candidate : Candidate}
    (member : candidate ∈ call.candidates words python) (ends : isEnd candidate.stored.eventType = true) :
    ∃ item, call.endedItem? = some item ∧ candidate.stored.eventType = outcome python item ∧
      eventItemId python candidate.stored = storedItemId words python item := by
  rcases List.mem_cons.mp member with rfl | mapped
  · cases ends
  · obtain ⟨event, listed, rfl⟩ := List.mem_map.mp mapped
    unfold eventItemId storedItemId outcome
    rw [lookup_itemId_mapped]
    rcases mapEvent_isEnd listed ends with ⟨type, kind, found⟩ | ⟨type, kind, item, told, found⟩
    · obtain ⟨item, told, failed, named⟩ := truthful.failed kind
      refine ⟨item, ?_, ?_, ?_⟩
      · rw [BackendCall.endedItem?, kind, told]
      · rw [failed]
        exact type
      · rw [found, named, failed]
        rfl
    · have quiet := truthful.completed kind item told
      refine ⟨item, told, ?_, ?_⟩
      · rw [quiet]
        exact type
      · rw [found, quiet]
        rfl

end Calls

section Runs

variable {thread : String} {event : StoredEvent} {projector : Projector}

theorem mem_logs_store {other : String} {candidates : List Candidate}
    (member : event ∈ (projector.store words python other candidates).1.logs thread) :
    event ∈ projector.logs thread ∨ other = thread ∧ ∃ candidate ∈ candidates, candidate.stored = event := by
  by_cases same : other = thread
  · subst same
    rw [Projector.logs_store] at member
    refine (List.mem_append.mp member).imp_right fun new => ⟨rfl, ?_⟩
    obtain ⟨candidate, unseen, stored⟩ := List.mem_map.mp new
    exact ⟨candidate, mem_of_mem_unseen unseen, stored⟩
  · unfold Projector.store at member
    split_ifs at member
    · exact .inl member
    · simp only [Projector.write, Function.update_of_ne (Ne.symm same), Projector.logs_load] at member
      exact .inl member

theorem mem_logs_appendEach {calls : List BackendCall}
    (member : event ∈ (projector.appendEach words python calls).1.logs thread) :
    event ∈ projector.logs thread ∨ ∃ call ∈ calls, call.nativeThreadId = thread ∧
      ∃ candidate ∈ call.candidates words python, candidate.stored = event := by
  induction calls generalizing projector with
  | nil => exact .inl member
  | cons call calls ih =>
      rcases ih member with early | ⟨later, listed, found⟩
      · refine (mem_logs_store early).imp_right fun ⟨own, found⟩ => ?_
        exact ⟨call, List.mem_cons_self, own, found⟩
      · exact .inr ⟨later, List.mem_cons_of_mem _ listed, found⟩

theorem mem_logs_take {step : NativeStep} (member : event ∈ (step.take words python projector).logs thread) :
    event ∈ projector.logs thread ∨ ∃ call ∈ step.calls python, call.nativeThreadId = thread ∧
      ∃ candidate ∈ call.candidates words python, candidate.stored = event := by
  cases step with
  | completed | history => exact mem_logs_appendEach member
  | restart => exact .inl member

theorem mem_runtimeLog {steps : List NativeStep} (member : event ∈ runtimeLog words python thread steps) :
    ∃ call ∈ steps.flatMap (·.calls python), call.nativeThreadId = thread ∧
      ∃ candidate ∈ call.candidates words python, candidate.stored = event := by
  induction steps using List.reverseRecOn with
  | nil => cases member
  | append_singleton steps step ih =>
      rw [runtimeLog, List.foldl_append] at member
      rw [List.flatMap_append, List.flatMap_singleton]
      rcases mem_logs_take member with early | ⟨call, told, found⟩
      · obtain ⟨call, told, found⟩ := ih early
        exact ⟨call, List.mem_append_left _ told, found⟩
      · exact ⟨call, List.mem_append_right _ told, found⟩

/-- A live `item/completed` tells of no failure, for its command is always mapped to a completed one. -/
def LiveSucceeds (python : Python) (step : NativeStep) : Prop :=
  ∀ payload, step = .completed payload → ∀ call ∈ step.calls python, ∀ item, call.endedItem? = some item →
    hasFailed python item = false

theorem truthful_step {step : NativeStep} (succeeds : LiveSucceeds python step) :
    ∀ call ∈ step.calls python, Truthful python call := by
  cases step with
  | completed payload =>
      refine fun call told => ⟨fun failed => ?_, fun _ => succeeds payload rfl call told⟩
      obtain ⟨known, _⟩ := mem_notificationCall? told
      rw [failed] at known
      cases known
  | history detail => exact truthful_history detail
  | restart => exact List.forall_mem_nil _

def commandItem (exitCode : Int) : Dict :=
  [("id", .string "c"), ("type", .string "commandExecution"), ("command", .string "ls"), ("exitCode", .int exitCode)]

def commandStep (exitCode : Int) : NativeStep :=
  .completed [("threadId", .string "t"), ("turnId", .string "u"), ("item", .object (commandItem exitCode))]

theorem consistent_commandStep (exitCode : Int) :
    Consistent plainWords samplePython (describedCommands samplePython "t" [commandStep exitCode]) := by
  intro first firstMember second secondMember _
  rw [List.mem_singleton.mp firstMember, List.mem_singleton.mp secondMember]

end Runs

end Python

end Wlcodex.Native
