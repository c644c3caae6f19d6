import Wlcodex.Timeline.Store

namespace Wlcodex.Timeline

open Wlcodex.Lib
open Wlcodex.Relay (Dict blank str strip truthy)

/-! `NativeTimelineStore.project_runtime_event`, with the commits of each call. -/

/-- What the projection uses of Python: `repr` of values that are no text,
`str.lower`, and the first sixteen digits of a SHA-1. -/
structure Builtins where
  repr : Json → String
  lower : String → String
  fingerprint : String → String

structure RuntimeEvent where
  id : Nat
  eventType : EventType
  aggregateId : String
  agentRunId : Option Nat
  source : String
  payload : Dict

def orText (first second : String) : String := if first = "" then second else first

/-- `normalize_turn_status`, and `strip().lower()` elsewhere. -/
def Builtins.normalize (builtins : Builtins) (text : String) : String := builtins.lower (strip text)

structure Place where
  provider : String
  nativeThreadId : String
  turnKey : String
  deriving DecidableEq

def Place.key (place : Place) (itemKey : String) : RowKey :=
  ⟨place.provider, place.nativeThreadId, place.turnKey, itemKey⟩

/-- `_compact_payload`: the keys that are kept, in this order. -/
def compactKeys : List String :=
  ["text", "delta", "summary", "prompt", "message", "title", "action", "plan", "request_id", "requestId",
    "codexRequestId", "itemId", "item_id", "native_turn_id", "turn_id", "status", "role", "local", "images",
    "command", "output"]

def compactImage : Json → Json
  | .object image => .object (["filename", "mime_type"].filterMap fun key =>
      ((image.lookup key).filter truthy).map fun value => (key, value))
  | _ => .object []

def compactValue (key : String) : Json → Option Json
  | .array items =>
      if key = "plan" then some (.array (items.take 50))
      else if key = "images" then some (.array ((items.take 8).map compactImage))
      else none
  | .object _ => none
  | value => some value

def compactPayload (payload : Dict) : Dict :=
  compactKeys.filterMap fun key =>
    ((payload.lookup key).bind (compactValue key)).map fun value => (key, value)

def isCompatibilityProjection (payload : Dict) : Bool :=
  truthy (payload.getOrNull "compatibility_projection")

def endsWithDelta (text delta : String) : Bool := delta ≠ "" ∧ delta.toList.isSuffixOf text.toList

def isTerminalType : EventType → Bool
  | .agentRunCompleted | .agentRunFailed | .agentRunTimedOut | .agentRunOrphaned | .runCompleted
  | .runFailed | .runCancelled => true
  | _ => false

def isActiveType : EventType → Bool
  | .agentRunQueued | .agentRunStarted | .agentRunActivity | .agentRunHeartbeat
  | .agentRunWaitingForApproval => true
  | _ => false

section Projection

variable (builtins : Builtins)

def normalizeProvider (provider : String) : String := orText (builtins.normalize provider) "codex"

def firstText (payload : Dict) (keys : List String) : String :=
  match keys.findSome? fun key => (payload.lookup key).filter fun value => !blank value with
  | some value => str builtins.repr value
  | none => ""

def textOf : Json → String
  | .string text => text
  | .array items =>
      let parts := (items.map fun item => strip (str builtins.repr item)).filter (· ≠ "")
      if parts = [] then builtins.repr (.array items) else "\n".intercalate parts
  | .object members => String.ofList ((Json.object members).sortKeys.write .spaced)
  | value => builtins.repr value

def timelineText (payload : Dict) (keys : List String) : String :=
  match keys.findSome? fun key => (payload.lookup key).filter fun value => !blank value with
  | some value => textOf builtins value
  | none => ""

def isFailedTurnStatus (status : String) : Bool :=
  builtins.normalize status ∈ ItemTable.failedTurnStatuses

def turnTerminalLabel (status : String) : String :=
  let normalized := builtins.normalize status
  if normalized ∈ ["interrupted", "cancelled", "canceled", "aborted"] then "已中断"
  else if normalized ∈ ["timed_out", "timeout"] then "已超时"
  else "执行失败"

def isTerminalTurnPayload (payload : Dict) : Bool :=
  builtins.normalize (firstText builtins payload ["action"]) ∈
    ["turn_completed", "turn_failed", "turn_cancelled", "turn_interrupted"]

def isFailedTurnLifecycle (payload : Dict) : Bool :=
  isTerminalTurnPayload builtins payload &&
    (isFailedTurnStatus builtins (builtins.normalize (firstText builtins payload ["status"])) ||
      builtins.normalize (firstText builtins payload ["action"]) ∈
        ["turn_failed", "turn_cancelled", "turn_interrupted"])

def terminalTurnStatus (eventType : EventType) (payload : Dict) : String :=
  let status := builtins.normalize (firstText builtins payload ["status"])
  if status ≠ "" then status
  else
    match eventType with
    | .agentRunCompleted | .runCompleted => "completed"
    | .agentRunTimedOut => "timed_out"
    | .agentRunOrphaned => "orphaned"
    | .runCancelled => "cancelled"
    | _ => "failed"

def shouldProjectFailedLifecycle (eventType : EventType) (payload : Dict) : Bool :=
  if eventType = .agentRunActivity then isFailedTurnLifecycle builtins payload
  else if isTerminalType eventType then
    isFailedTurnStatus builtins (terminalTurnStatus builtins eventType payload)
  else false

def turnKeys : List String := ["native_turn_id", "turnId", "turn_id", "active_turn_id"]

/-- `str(event.aggregate_id or event.agent_run_id or "turn")`. -/
def fallbackTurn (event : RuntimeEvent) : String :=
  if event.aggregateId ≠ "" then event.aggregateId
  else
    match event.agentRunId with
    | some (run + 1) => toString (run + 1)
    | _ => "turn"

def place? (event : RuntimeEvent) : Option Place :=
  let nativeThreadId := firstText builtins event.payload
    ["native_thread_id", "native_session_id", "thread_id", "session_id"]
  if nativeThreadId = "" then none
  else
    some {
      provider := normalizeProvider builtins
        (orText (firstText builtins event.payload ["provider", "native_provider"]) event.source)
      nativeThreadId
      turnKey := orText (firstText builtins event.payload turnKeys) (fallbackTurn event) }

structure Projection where
  write : ItemWrite
  kind : EventKind

def messageIds : List String := ["itemId", "item_id", "message_id"]

def userMessage (place : Place) (payload : Dict) : Projection :=
  let text := firstText builtins payload ["text", "content", "message", "body"]
  let itemKey := orText (firstText builtins payload messageIds) ("user-" ++ builtins.fingerprint text)
  let images : Dict :=
    match payload.lookup "images" with
    | some (.array images) => [("images", .array images)]
    | _ => []
  { kind := .userMessage
    write := {
      key := place.key itemKey
      role := .user
      kind := .userMessage
      text
      status := "completed"
      payload := [("text", .string text), ("itemId", .string itemKey),
        ("native_turn_id", .string place.turnKey)] ++ images
      sourcePriority := 100
      mergeLocal := true } }

def messageKey (place : Place) (payload : Dict) : RowKey :=
  place.key (orText (firstText builtins payload messageIds) ("assistant-" ++ place.turnKey))

def textDelta (table : ItemTable) (place : Place) (payload : Dict) : Option Projection :=
  let delta := firstText builtins payload ["delta", "text", "content"]
  let key := messageKey builtins place payload
  let existing := table.find? key
  if delta = "" then none
  else if existing.any fun row => row.status = "completed" ∧ row.sourcePriority > 50 then none
  else if existing.any fun row => isCompatibilityProjection payload ∧ endsWithDelta row.text delta then none
  else
    some {
      kind := .textDelta
      write := {
        key
        role := .assistant
        kind := .message
        text := (existing.map fun row => row.text).getD "" ++ delta
        status := "streaming"
        payload := [("delta", .string delta), ("itemId", .string key.itemKey),
          ("native_turn_id", .string place.turnKey)]
        sourcePriority := 50 } }

def completedText (payload : Dict) : String :=
  firstText builtins payload ["text", "content", "message", "summary"]

def messageCompleted (place : Place) (payload : Dict) : Projection :=
  let text := completedText builtins payload
  let key := messageKey builtins place payload
  { kind := .messageCompleted
    write := {
      key
      role := .assistant
      kind := .message
      text
      status := "completed"
      payload := [("text", .string text), ("itemId", .string key.itemKey),
        ("native_turn_id", .string place.turnKey)]
      sourcePriority := 90 } }

def reasoningDelta (table : ItemTable) (place : Place) (payload : Dict) : Option Projection :=
  let delta := firstText builtins payload ["delta", "text", "content", "summary"]
  let key := place.key (orText (firstText builtins payload messageIds) ("reasoning-" ++ place.turnKey))
  let text := ((table.find? key).map fun row => row.text).getD "" ++ delta
  if delta = "" then none
  else
    some {
      kind := .reasoningDelta
      write := {
        key
        role := .assistant
        kind := .reasoning
        text
        status := "streaming"
        payload := [("delta", .string delta), ("text", .string text), ("itemId", .string key.itemKey),
          ("native_turn_id", .string place.turnKey)]
        sourcePriority := 40 } }

def planUpdated (place : Place) (payload : Dict) : Option Projection :=
  let text := timelineText builtins payload ["text", "summary", "title", "plan"]
  let itemKey := orText (firstText builtins payload ["itemId", "item_id", "plan_id"]) ("plan-" ++ place.turnKey)
  let status := orText (firstText builtins payload ["status"]) "completed"
  if text = "" then none
  else
    some {
      kind := .activity
      write := {
        key := place.key itemKey
        role := .assistant
        kind := .activity
        text
        status
        payload := [("text", .string text), ("action", .string "plan_updated"),
          ("plan", payload.getOrNull "plan"), ("title", .string (firstText builtins payload ["title"])),
          ("native_turn_id", .string place.turnKey), ("itemId", .string itemKey),
          ("status", .string status)]
        sourcePriority := 70 } }

def failedLifecycle (place : Place) (eventType : EventType) (payload : Dict) : Projection :=
  let status := terminalTurnStatus builtins eventType payload
  let text := turnTerminalLabel builtins status
  let itemKey := orText (firstText builtins payload ["itemId", "item_id"]) ("lifecycle-" ++ place.turnKey)
  { kind := .lifecycle
    write := {
      key := place.key itemKey
      role := .system
      kind := .lifecycle
      text
      status
      payload := [("text", .string text), ("action", .string (firstText builtins payload ["action"])),
        ("native_turn_id", .string place.turnKey), ("itemId", .string itemKey), ("status", .string status)]
      sourcePriority := 80 } }

def approvalIds : List String :=
  ["itemId", "item_id", "request_id", "requestId", "codexRequestId", "approval_id"]

def approvalItemKey (place : Place) (payload : Dict) : String :=
  orText (firstText builtins payload approvalIds) ("approval-" ++ place.turnKey)

def approvalTexts : List String := ["text", "summary", "prompt", "message", "title"]

def requestIds : List String := ["request_id", "requestId", "codexRequestId"]

def approvalRequested (place : Place) (payload : Dict) : Projection :=
  let text := timelineText builtins payload approvalTexts
  let itemKey := approvalItemKey builtins place payload
  { kind := .approvalRequested
    write := {
      key := place.key itemKey
      role := .system
      kind := .approvalRequested
      text
      status := "pending"
      payload := [("text", .string text), ("summary", .string (firstText builtins payload ["summary"])),
        ("prompt", .string (firstText builtins payload ["prompt"])),
        ("request_id", .string (firstText builtins payload requestIds)),
        ("native_turn_id", .string place.turnKey), ("itemId", .string itemKey), ("status", .string "pending")]
      sourcePriority := 70 } }

def approvalResolved (place : Place) (eventType : EventType) (payload : Dict) : Projection :=
  let status := if eventType = .approvalExpired then "expired" else "resolved"
  let text := timelineText builtins payload approvalTexts
  let itemKey := approvalItemKey builtins place payload
  { kind := .approvalResolved
    write := {
      key := place.key itemKey
      role := .system
      kind := .approvalRequested
      text
      status
      payload := [("text", .string text), ("summary", .string (firstText builtins payload ["summary"])),
        ("request_id", .string (firstText builtins payload requestIds)),
        ("native_turn_id", .string place.turnKey), ("itemId", .string itemKey), ("status", .string status)]
      sourcePriority := 80 } }

def commandIds : List String := ["command_id", "call_id", "itemId", "item_id"]

def command (table : ItemTable) (place : Place) (eventType : EventType) (kind : EventKind)
    (payload : Dict) : Projection :=
  let itemKey := orText (firstText builtins payload commandIds) ("command-" ++ place.turnKey)
  let key := place.key itemKey
  let status :=
    if eventType = .commandFailed then "failed"
    else if eventType = .commandCompleted then "completed"
    else "streaming"
  let shown := timelineText builtins payload ["delta", "output", "command", "summary", "text"]
  let text :=
    if eventType = .commandOutputDelta then ((table.find? key).map fun row => row.text).getD "" ++ shown
    else shown
  { kind
    write := {
      key
      role := .system
      kind := .command
      text
      status
      payload := [("text", .string text), ("delta", .string (firstText builtins payload ["delta", "output"])),
        ("command", .string (firstText builtins payload ["command"])),
        ("summary", .string (firstText builtins payload ["summary"])),
        ("native_turn_id", .string place.turnKey), ("itemId", .string itemKey), ("status", .string status)]
      sourcePriority := 50 } }

def isPlanUpdate (payload : Dict) : Bool :=
  match payload.lookup "action" with
  | some (.string action) => action = "plan_updated"
  | _ => false

def projection? (table : ItemTable) (place : Place) (event : RuntimeEvent) : Option Projection :=
  let payload := event.payload
  match event.eventType with
  | .userMessageReceived => some (userMessage builtins place payload)
  | .providerDisplayDelta | .modelTextDelta => textDelta builtins table place payload
  | .modelReasoningDelta => reasoningDelta builtins table place payload
  | .approvalRequested | .agentRunWaitingForApproval => some (approvalRequested builtins place payload)
  | .approvalResolved | .approvalExpired => some (approvalResolved builtins place event.eventType payload)
  | .commandStarted => some (command builtins table place event.eventType .commandStarted payload)
  | .commandOutputDelta => some (command builtins table place event.eventType .commandOutput payload)
  | .commandCompleted => some (command builtins table place event.eventType .commandCompleted payload)
  | .commandFailed => some (command builtins table place event.eventType .commandFailed payload)
  | eventType =>
      if eventType = .agentRunActivity ∧ isPlanUpdate payload then planUpdated builtins place payload
      else if shouldProjectFailedLifecycle builtins eventType payload then
        some (failedLifecycle builtins place eventType payload)
      else none

inductive Written (event : RuntimeEvent) : ItemRole → ItemKind → String → Nat → Prop
  | userMessage (type : event.eventType = .userMessageReceived) :
      Written event .user .userMessage "completed" 100
  | textDelta (type : event.eventType = .providerDisplayDelta ∨ event.eventType = .modelTextDelta) :
      Written event .assistant .message "streaming" 50
  | reasoningDelta (type : event.eventType = .modelReasoningDelta) :
      Written event .assistant .reasoning "streaming" 40
  | planUpdated (type : event.eventType = .agentRunActivity) (plan : isPlanUpdate event.payload) :
      Written event .assistant .activity (orText (firstText builtins event.payload ["status"]) "completed") 70
  | failedLifecycle (failed : shouldProjectFailedLifecycle builtins event.eventType event.payload)
      (noPlan : ¬ (event.eventType = .agentRunActivity ∧ isPlanUpdate event.payload)) :
      Written event .system .lifecycle (terminalTurnStatus builtins event.eventType event.payload) 80
  | approvalRequested
      (type : event.eventType = .approvalRequested ∨ event.eventType = .agentRunWaitingForApproval) :
      Written event .system .approvalRequested "pending" 70
  | approvalResolved (type : event.eventType = .approvalResolved) :
      Written event .system .approvalRequested "resolved" 80
  | approvalExpired (type : event.eventType = .approvalExpired) :
      Written event .system .approvalRequested "expired" 80
  | commandRunning (type : event.eventType = .commandStarted ∨ event.eventType = .commandOutputDelta) :
      Written event .system .command "streaming" 50
  | commandCompleted (type : event.eventType = .commandCompleted) :
      Written event .system .command "completed" 50
  | commandFailed (type : event.eventType = .commandFailed) : Written event .system .command "failed" 50

def Projection.IsOf (projection : Projection) (place : Place) (event : RuntimeEvent) : Prop :=
  (∃ itemKey, projection.write.key = place.key itemKey) ∧
    Written builtins event projection.write.role projection.write.kind projection.write.status
      projection.write.sourcePriority

section Branches

variable {builtins} {table : ItemTable} {place : Place} {event : RuntimeEvent} {projection : Projection}

theorem textDelta_isOf (type : event.eventType = .providerDisplayDelta ∨ event.eventType = .modelTextDelta)
    (found : textDelta builtins table place event.payload = some projection) :
    projection.IsOf builtins place event := by
  simp only [textDelta, Option.ite_none_left_eq_some, Option.some.injEq] at found
  obtain ⟨_, _, _, rfl⟩ := found
  exact ⟨⟨_, rfl⟩, .textDelta type⟩

theorem reasoningDelta_isOf (type : event.eventType = .modelReasoningDelta)
    (found : reasoningDelta builtins table place event.payload = some projection) :
    projection.IsOf builtins place event := by
  simp only [reasoningDelta, Option.ite_none_left_eq_some, Option.some.injEq] at found
  obtain ⟨_, rfl⟩ := found
  exact ⟨⟨_, rfl⟩, .reasoningDelta type⟩

theorem planUpdated_isOf (type : event.eventType = .agentRunActivity) (plan : isPlanUpdate event.payload)
    (found : planUpdated builtins place event.payload = some projection) :
    projection.IsOf builtins place event := by
  simp only [planUpdated, Option.ite_none_left_eq_some, Option.some.injEq] at found
  obtain ⟨_, rfl⟩ := found
  exact ⟨⟨_, rfl⟩, .planUpdated type plan⟩

theorem projection?_isOf (projects : projection? builtins table place event = some projection) :
    projection.IsOf builtins place event := by
  unfold projection? at projects
  simp only at projects
  split at projects
  case h_1 type => cases projects; exact ⟨⟨_, rfl⟩, .userMessage type⟩
  case h_2 type => exact textDelta_isOf (.inl type) projects
  case h_3 type => exact textDelta_isOf (.inr type) projects
  case h_4 type => exact reasoningDelta_isOf type projects
  case h_5 type => cases projects; exact ⟨⟨_, rfl⟩, .approvalRequested (.inl type)⟩
  case h_6 type => cases projects; exact ⟨⟨_, rfl⟩, .approvalRequested (.inr type)⟩
  case h_7 type => cases projects; rw [type]; exact ⟨⟨_, rfl⟩, .approvalResolved type⟩
  case h_8 type => cases projects; rw [type]; exact ⟨⟨_, rfl⟩, .approvalExpired type⟩
  case h_9 type => cases projects; rw [type]; exact ⟨⟨_, rfl⟩, .commandRunning (.inl type)⟩
  case h_10 type => cases projects; rw [type]; exact ⟨⟨_, rfl⟩, .commandRunning (.inr type)⟩
  case h_11 type => cases projects; rw [type]; exact ⟨⟨_, rfl⟩, .commandCompleted type⟩
  case h_12 type => cases projects; rw [type]; exact ⟨⟨_, rfl⟩, .commandFailed type⟩
  case h_13 =>
      split at projects
      · rename_i plan
        exact planUpdated_isOf plan.1 plan.2 projects
      · rename_i noPlan
        split at projects
        · rename_i failed
          cases projects
          exact ⟨⟨_, rfl⟩, .failedLifecycle failed noPlan⟩
        · cases projects

end Branches

inductive Shaped : ItemRole → ItemKind → String → Nat → Prop
  | userMessage : Shaped .user .userMessage "completed" 100
  | textDelta : Shaped .assistant .message "streaming" 50
  | messageCompleted : Shaped .assistant .message "completed" 90
  | reasoningDelta : Shaped .assistant .reasoning "streaming" 40
  | plan (status : String) : Shaped .assistant .activity status 70
  | failure (status : String) : Shaped .system .lifecycle status 80
  | requested : Shaped .system .approvalRequested "pending" 70
  | resolved : Shaped .system .approvalRequested "resolved" 80
  | expired : Shaped .system .approvalRequested "expired" 80
  | commandRunning : Shaped .system .command "streaming" 50
  | commandCompleted : Shaped .system .command "completed" 50
  | commandFailed : Shaped .system .command "failed" 50

def ItemWrite.IsShaped (write : ItemWrite) : Prop :=
  Shaped write.role write.kind write.status write.sourcePriority

theorem messageCompleted_shaped (place : Place) (payload : Dict) :
    (messageCompleted builtins place payload).write.IsShaped := .messageCompleted

namespace Written

variable {builtins} {event : RuntimeEvent} {role : ItemRole} {kind : ItemKind} {status : String}
  {priority : Nat}

theorem shaped (written : Written builtins event role kind status priority) :
    Shaped role kind status priority := by
  cases written with
  | userMessage => exact .userMessage
  | textDelta => exact .textDelta
  | reasoningDelta => exact .reasoningDelta
  | planUpdated => exact .plan _
  | failedLifecycle => exact .failure _
  | approvalRequested => exact .requested
  | approvalResolved => exact .resolved
  | approvalExpired => exact .expired
  | commandRunning => exact .commandRunning
  | commandCompleted => exact .commandCompleted
  | commandFailed => exact .commandFailed

theorem not_completed (written : Written builtins event role kind status priority) :
    ¬ (kind = .message ∧ status = "completed") := by
  cases written <;> simp

end Written

variable (store : TimelineStore)

def eventFromRuntime (place : Place) (event : RuntimeEvent) (itemRowId : Nat)
    (projection : Projection) : TimelineStore :=
  store.appendEvent place.provider place.nativeThreadId (some itemRowId) event.id event.eventType
    projection.kind (compactPayload projection.write.payload)

def record (place : Place) (event : RuntimeEvent) (projection : Projection) :
    List TimelineStore :=
  match store.items.upsertItem projection.write with
  | none => []
  | some (items, id) =>
      let written := { store with items }
      [written, eventFromRuntime written place event id projection]

def recordCompleted (place : Place) (event : RuntimeEvent) : List TimelineStore :=
  let projection := messageCompleted builtins place event.payload
  let repeated := (store.items.find? projection.write.key).any fun row =>
    isCompatibilityProjection event.payload ∧ row.text = projection.write.text
  if repeated then []
  else
    match store.items.upsertItem projection.write with
    | none => []
    | some (items, id) =>
        let written := { store with items }
        let superseded :=
          { store with items := items.suppressFailedLifecycleForCompletedTurn projection.write.key }
        [written, superseded, eventFromRuntime superseded place event id projection]

def duplicate? (table : ItemTable) (place : Place) (payload : Dict) : Option ItemRow :=
  let key := messageKey builtins place payload
  (table.findCompletedMessageByTurnText key (completedText builtins payload)).filter fun row =>
    row.key.itemKey ≠ key.itemKey

def completed (place : Place) (event : RuntimeEvent) : List TimelineStore :=
  if completedText builtins event.payload = "" then []
  else
    match duplicate? builtins store.items place event.payload with
    | none => recordCompleted builtins store place event
    | some duplicate =>
        if ItemTable.isJsonlAssistantFinalItemKey (messageKey builtins place event.payload).itemKey then []
        else if ItemTable.isJsonlAssistantFinalItemKey duplicate.key.itemKey then
          let hidden := { store with items := store.items.suppressConversationItem duplicate.id }
          hidden :: recordCompleted builtins hidden place event
        else []

def isCompletionType : EventType → Bool
  | .providerDisplayCompleted | .modelMessageCompleted => true
  | _ => false

/-- The stores after each commit of `project_runtime_event`. -/
def commits (event : RuntimeEvent) : List TimelineStore :=
  if event.eventType = .providerRawFrame then []
  else
    match place? builtins event with
    | none => []
    | some place =>
        if isCompletionType event.eventType then completed builtins store place event
        else
          match projection? builtins store.items place event with
          | none => []
          | some projection => record store place event projection

def projectRuntimeEvent (event : RuntimeEvent) : TimelineStore :=
  (commits builtins store event).getLastD store

end Projection

end Wlcodex.Timeline
