import Wlcodex.Timeline.Projection

namespace Wlcodex.Timeline

open Wlcodex.Lib
open Wlcodex.Relay (Dict strip)

/-! `latest_turn_run_state` with its repair, and the runs of the store. -/

/-- A row of `runtime_events` that the query returns, newest first. -/
structure StateRow where
  id : Nat
  eventType : EventType
  payload : Dict

structure TurnRunState where
  active : Bool
  status : String
  activeTurnId : String
  deriving DecidableEq

def TurnRunState.idle : TurnRunState := ⟨false, "idle", ""⟩

/-- `_VISIBLE_CONVERSATION_ITEM_KINDS`. -/
def isVisibleConversationItemKind : ItemKind → Bool
  | .userMessage | .message | .lifecycle | .activity | .approvalRequested => true
  | _ => false

def latestVisibleItemForRunState (table : ItemTable) (provider nativeThreadId : String) : Option ItemRow :=
  (table.rows.rows.filter fun row =>
    row.key.provider = provider ∧ row.key.nativeThreadId = nativeThreadId ∧
      isVisibleConversationItemKind row.kind).argmax fun row => toLex (row.lastSequence, row.id)

section RunState

variable (builtins : Builtins)

def isActiveTurnStatus (status : String) : Bool :=
  builtins.normalize status ∈ ["queued", "streaming", "waiting", "pending", "running"]

def activeTurnStatus (eventType : EventType) (payload : Dict) : String :=
  let status := builtins.normalize (firstText builtins payload ["status"])
  if status ≠ "" ∧ status ∉ ["completed", "done", "succeeded", "success"] then status
  else
    match eventType with
    | .agentRunQueued => "queued"
    | .agentRunWaitingForApproval => "waiting"
    | _ => "running"

def StateRow.isOf (row : StateRow) (provider nativeThreadId : String) : Bool :=
  normalizeProvider builtins (orText (firstText builtins row.payload ["provider", "native_provider"]) provider) =
      provider ∧
    firstText builtins row.payload
      ["native_thread_id", "native_session_id", "thread_id", "threadId", "session_id"] = nativeThreadId

def ensureFailedLifecycleItem (store : TimelineStore) (place : Place) (row : StateRow) :
    List TimelineStore :=
  let projection := failedLifecycle builtins place row.eventType row.payload
  if place.turnKey = "" then []
  else if (store.items.find? projection.write.key).isSome then []
  else
    match store.items.upsertItem projection.write with
    | none => []
    | some (items, id) =>
        let written := { store with items }
        [written, written.appendEvent place.provider place.nativeThreadId (some id) row.id row.eventType
          projection.kind (compactPayload projection.write.payload)]

def terminalTurnRunState (store : TimelineStore) (place : Place) (row : StateRow) :
    List TimelineStore × TurnRunState :=
  let state : TurnRunState := ⟨false, terminalTurnStatus builtins row.eventType row.payload, ""⟩
  if shouldProjectFailedLifecycle builtins row.eventType row.payload then
    if store.items.completedMessageForTurnExists place.provider place.nativeThreadId place.turnKey then
      ([{ store with items := store.items.suppressFailedLifecycleForCompletedTurn (place.key "") }], .idle)
    else (ensureFailedLifecycleItem builtins store place row, state)
  else ([], state)

/-- `latest_turn_run_state` over the rows of its query: the commits that `repair`
makes, and the state that is returned. -/
def latestTurnRunState (store : TimelineStore) (provider nativeThreadId : String) (rows : List StateRow) :
    List TimelineStore × TurnRunState :=
  let provider := normalizeProvider builtins provider
  let nativeThreadId := strip nativeThreadId
  match rows.find? fun row => row.isOf builtins provider nativeThreadId with
  | none => ([], .idle)
  | some row =>
      let place : Place := ⟨provider, nativeThreadId, firstText builtins row.payload turnKeys⟩
      if isTerminalType row.eventType ∨ isTerminalTurnPayload builtins row.payload then
        terminalTurnRunState builtins store place row
      else
        match (latestVisibleItemForRunState store.items provider nativeThreadId).filter fun item =>
          item.key.turnKey ≠ place.turnKey with
        | none => ([], ⟨true, activeTurnStatus builtins row.eventType row.payload, place.turnKey⟩)
        | some item =>
            let status := builtins.normalize item.status
            if isActiveTurnStatus builtins status then ([], ⟨true, status, item.key.turnKey⟩)
            else ([], .idle)

inductive TimelineCall where
  | project (event : RuntimeEvent)
  | suppressDuplicates (provider nativeThreadId : String)
  | repair (provider nativeThreadId : String) (rows : List StateRow)

def callCommits (store : TimelineStore) : TimelineCall → List TimelineStore
  | .project event => commits builtins store event
  | .suppressDuplicates provider nativeThreadId =>
      [{ store with
        items := store.items.suppressDuplicateCompletedMessages (normalizeProvider builtins provider)
          (strip nativeThreadId) }]
  | .repair provider nativeThreadId rows =>
      (latestTurnRunState builtins store provider nativeThreadId rows).1

inductive TimelineOp where
  | call (call : TimelineCall)
  | die (call : TimelineCall) (made : Nat)

def step (store : TimelineStore) : TimelineOp → TimelineStore
  | .call call => (callCommits builtins store call).getLastD store
  | .die call made => ((callCommits builtins store call).take made).getLastD store

def run (ops : List TimelineOp) : TimelineStore := ops.foldl (step builtins) .empty

theorem step_keeps {Inv : TimelineStore → Prop}
    (keeps : ∀ store call, Inv store → ∀ next ∈ callCommits builtins store call, Inv next)
    {store : TimelineStore} (holds : Inv store) (op : TimelineOp) : Inv (step builtins store op) := by
  have last : ∀ stores : List TimelineStore, (∀ next ∈ stores, Inv next) → Inv (stores.getLastD store) := by
    intro stores each
    rcases List.eq_nil_or_concat stores with rfl | ⟨rest, next, rfl⟩
    · exact holds
    · rw [List.concat_eq_append, List.getLastD_concat]
      exact each next (by simp)
  cases op with
  | call call => exact last _ (keeps store call holds)
  | die call made => exact last _ fun next member => keeps store call holds next (List.mem_of_mem_take member)

theorem run_keeps {Inv : TimelineStore → Prop}
    (keeps : ∀ store call, Inv store → ∀ next ∈ callCommits builtins store call, Inv next)
    (initial : Inv .empty) (ops : List TimelineOp) : Inv (run builtins ops) := by
  have kept : ∀ store op, Inv store → True → Inv (step builtins store op) :=
    fun _ op holds _ => step_keeps builtins keeps holds op
  exact @invariant_foldl _ _ _ _ Inv kept _ _ initial (along_true _ ops)

end RunState

end Wlcodex.Timeline
