import Wlcodex.Codex.TranscriptMirror
import Wlcodex.Lib.Once
import Wlcodex.Native.Mapping

namespace Wlcodex.Native

open Wlcodex.Lib
open Wlcodex.Codex (EventKey StoredEvent dedupeKey maxPayloadStringLength nativeFields rawFields rawKey)
open Wlcodex.Relay (Dict truthy)
open Wlcodex.Relay.StreamState (isText)
open Wlcodex.Runtime (WordClass redactPayload)

/-! `NativeCodexEventProjector`. -/

/-- What an entry of `_seen_event_keys` is the SHA-256 of. -/
structure SeenKey where
  nativeThreadId : String
  event : EventKey
  deriving DecidableEq

structure Projector where
  seenEventKeys : List SeenKey := []
  /-- The threads whose agent runs are in `_loaded_seen_agent_run_ids`. -/
  loadedThreads : List String := []
  /-- The stored events by thread, the oldest first. -/
  logs : String → List StoredEvent

def Projector.restarted (projector : Projector) : Projector := { logs := projector.logs }

structure Candidate where
  key : SeenKey
  stored : StoredEvent

/-- The arguments of `_append_backend_event`. -/
structure BackendCall where
  kind : BackendKind
  nativeThreadId : String
  nativeTurnId : String
  payload : Dict

section Python

variable (words : WordClass) (python : Python)

def BackendCall.rawFrame (call : BackendCall) : Candidate where
  key := ⟨call.nativeThreadId, rawKey call.nativeTurnId (rawFields call.kind.name call.payload)⟩
  stored := ⟨.providerRawFrame, rawFields call.kind.name call.payload ++
    redactPayload words (some maxPayloadStringLength)
      ([("threadId", .string call.nativeThreadId), ("turnId", .string call.nativeTurnId)] ++
        nativeFields call.nativeThreadId call.nativeTurnId)⟩

def BackendCall.nativePayload (call : BackendCall) (event : RuntimeEvent) : Dict :=
  overlaid event.2 (nativeFields call.nativeThreadId call.nativeTurnId)

def BackendCall.mappedEvent (call : BackendCall) (event : RuntimeEvent) : Candidate where
  key := ⟨call.nativeThreadId,
    dedupeKey words python.toBuiltins event.1 call.nativeTurnId (call.nativePayload event)⟩
  stored := ⟨event.1, redactPayload words (some maxPayloadStringLength) (call.nativePayload event)⟩

def BackendCall.candidates (call : BackendCall) : List Candidate :=
  call.rawFrame words ::
    (mapEvent python call.kind call.payload).map (call.mappedEvent words python)

def persistedKey (event : StoredEvent) : Option SeenKey :=
  let payload := event.payload
  let thread := python.plainText (payload.getOrNull "native_thread_id")
  let turn := python.plainText (payload.getOrNull "native_turn_id")
  if ¬isText (payload.lookup "source_kind") "codex_native" ∨ thread = "" then none
  else if event.eventType = .providerRawFrame then
    some ⟨thread, rawKey turn [("raw_kind", field payload "raw_kind"),
      ("raw_payload_hash", field payload "raw_payload_hash")]⟩
  else some ⟨thread, dedupeKey words python.toBuiltins event.eventType turn payload⟩

/-- `list_by_agent_run(agent_run_id, limit=50000)`, as keys. -/
def persistedKeys (log : List StoredEvent) : List SeenKey :=
  (log.take 50000).filterMap (persistedKey words python)

namespace Projector

/-- `_load_persisted_seen_event_keys`. -/
def load (projector : Projector) (thread : String) : Projector :=
  if thread ∈ projector.loadedThreads then projector
  else
    { projector with
      seenEventKeys := projector.seenEventKeys ++ persistedKeys words python (projector.logs thread)
      loadedThreads := thread :: projector.loadedThreads }

def write (thread : String) (candidates : List Candidate) (known : Projector) :
    Projector × List StoredEvent :=
  let stored := (unseen Candidate.key known.seenEventKeys candidates).map Candidate.stored
  ({ known with
      seenEventKeys := remembered Candidate.key known.seenEventKeys candidates
      logs := Function.update known.logs thread (known.logs thread ++ stored) }, stored)

def store (thread : String) (candidates : List Candidate) (projector : Projector) :
    Projector × List StoredEvent :=
  if candidates.isEmpty then (projector, [])
  else (projector.load words python thread).write thread candidates

/-- `_append_backend_event`. -/
def append (call : BackendCall) (projector : Projector) : Projector × List StoredEvent :=
  projector.store words python call.nativeThreadId (call.candidates words python)

def appendEach : List BackendCall → Projector → Projector × List StoredEvent
  | [], projector => (projector, [])
  | call :: calls, projector =>
      let first := projector.append words python call
      let later := appendEach calls first.1
      (later.1, first.2 ++ later.2)

end Projector

/-- `_METHOD_TO_BACKEND_EVENT`. -/
def methodKind : String → Option BackendKind
  | "thread/started" => some .threadStarted
  | "thread/status/changed" => some .threadStatusChanged
  | "thread/tokenUsage/updated" => some .tokenUsageUpdated
  | "turn/started" => some .turnStarted
  | "turn/completed" => some .turnCompleted
  | "turn/diff/updated" => some .diffUpdated
  | "turn/plan/updated" => some .planUpdated
  | "item/started" => some .itemStarted
  | "item/completed" => some .itemCompleted
  | "item/agentMessage/delta" => some .agentMessageDelta
  | "item/commandExecution/outputDelta" => some .commandOutputDelta
  | "item/fileChange/outputDelta" => some .fileChangeDelta
  | "item/fileChange/patchUpdated" => some .fileChangePatchUpdated
  | "item/reasoning/textDelta" => some .reasoningDelta
  | "item/reasoning/summaryTextDelta" => some .reasoningDelta
  | "item/tool/requestUserInput" => some .toolRequestUserInput
  | _ => none

/-- `normalized_payload` of `project_notification`. -/
def normalizedPayload (payload : Dict) : Dict :=
  let named := overlaid payload [("threadId", .string (threadId python.toBuiltins payload)),
    ("turnId", .string (turnId python.toBuiltins payload))]
  let item := nestedId payload "item"
  if (named.lookup "itemId").isNone ∧ truthy item then named.set "itemId" item else named

/-- The call that `project_notification` makes, if it makes one. -/
def notificationCall? (method : String) (payload : Dict) : Option BackendCall :=
  match methodKind method with
  | none => none
  | some kind =>
      let thread := threadId python.toBuiltins payload
      if thread = "" then none
      else some ⟨kind, thread, turnId python.toBuiltins payload, normalizedPayload python payload⟩

namespace Projector

def projectNotification (method : String) (payload : Dict) (projector : Projector) :
    Projector × List StoredEvent :=
  projector.appendEach words python (notificationCall? python method payload).toList

end Projector

variable {words python}

def Names (thread : String) (payload : Dict) : Prop :=
  payload.lookup "threadId" = some (.string thread)

variable {thread : String} {candidates : List Candidate}

theorem Names.overlaid {payload fields : Dict} (names : Names thread payload)
    (apart : "threadId" ∉ fields.map Prod.fst) : Names thread (overlaid payload fields) :=
  (lookup_overlaid_of_ne apart payload).trans names

theorem Names.threadId {payload : Dict} (names : Names thread payload)
    (some_ : thread ≠ "") : threadId python.toBuiltins payload = thread := by
  have own : payload.getOrNull "threadId" = .string thread := by
    rw [Dict.getOrNull, names]
    rfl
  have counts : truthy (.string thread) = true := decide_eq_true some_
  rw [Native.threadId, idText, own, if_pos counts]
  exact if_pos counts

namespace Projector

theorem load_of_mem {projector : Projector}
    (loaded : thread ∈ projector.loadedThreads) : projector.load words python thread = projector :=
  if_pos loaded

theorem store_nil (thread : String) (projector : Projector) :
    projector.store words python thread [] = (projector, []) := rfl

theorem store_of_ne_nil (some_ : candidates ≠ []) (thread : String) (projector : Projector) :
    projector.store words python thread candidates =
      (projector.load words python thread).write thread candidates := by
  rw [store, if_neg]
  simpa using some_

theorem loadedThreads_load (thread : String) (projector : Projector) :
    thread ∈ (projector.load words python thread).loadedThreads := by
  unfold load
  split_ifs with loaded
  · exact loaded
  · exact List.mem_cons_self

theorem logs_load (thread : String) (projector : Projector) :
    (projector.load words python thread).logs = projector.logs := by
  unfold load
  split_ifs <;> rfl

theorem load_write (thread : String) (candidates : List Candidate) (projector : Projector) :
    ((projector.load words python thread).write thread candidates).1.load words python thread =
      ((projector.load words python thread).write thread candidates).1 :=
  load_of_mem (loadedThreads_load thread projector)

theorem write_append (thread : String) (first second : List Candidate) (known : Projector) :
    known.write thread (first ++ second) =
      (((known.write thread first).1.write thread second).1,
        (known.write thread first).2 ++ ((known.write thread first).1.write thread second).2) := by
  unfold write
  dsimp only
  rw [unseen_append, remembered_append, List.map_append, Function.update_self,
    Function.update_idem, List.append_assoc]

theorem store_append (thread : String) (first second : List Candidate) (projector : Projector) :
    projector.store words python thread (first ++ second) =
      (((projector.store words python thread first).1.store words python thread second).1,
        (projector.store words python thread first).2 ++
          ((projector.store words python thread first).1.store words python thread second).2) := by
  by_cases noFirst : first = []
  · subst noFirst
    rfl
  by_cases noSecond : second = []
  · subst noSecond
    rw [List.append_nil, store_nil, List.append_nil]
  rw [store_of_ne_nil (List.append_ne_nil_of_left_ne_nil noFirst second), store_of_ne_nil noFirst,
    store_of_ne_nil noSecond, load_write]
  exact write_append thread first second _

theorem appendEach_of_thread {calls : List BackendCall}
    (same : ∀ call ∈ calls, call.nativeThreadId = thread) (projector : Projector) :
    projector.appendEach words python calls =
      projector.store words python thread (calls.flatMap (·.candidates words python)) := by
  induction calls generalizing projector with
  | nil => rfl
  | cons call calls ih =>
      rw [List.forall_mem_cons] at same
      rw [appendEach, List.flatMap_cons, store_append, ih same.2, append, same.1]

theorem store_eq_nil_iff (thread : String) (candidates : List Candidate) (projector : Projector) :
    (projector.store words python thread candidates).2 = [] ↔
      ∀ candidate ∈ candidates,
        candidate.key ∈ (projector.load words python thread).seenEventKeys := by
  by_cases none_ : candidates = []
  · subst none_
    simp [store_nil]
  · rw [store_of_ne_nil none_, write, List.map_eq_nil_iff, unseen_eq_nil_iff]

theorem mem_store_snd {projector : Projector}
    {event : StoredEvent} (member : event ∈ (projector.store words python thread candidates).2) :
    ∃ candidate ∈ candidates, candidate.stored = event := by
  by_cases none_ : candidates = []
  · subst none_
    cases member
  · rw [store_of_ne_nil none_] at member
    obtain ⟨candidate, new, rfl⟩ := List.mem_map.mp member
    exact ⟨candidate, mem_of_mem_unseen new, rfl⟩

theorem store_again (thread : String) (candidates : List Candidate) (projector : Projector) :
    ((projector.store words python thread candidates).1.store words python thread candidates).2 =
      [] := by
  rw [store_eq_nil_iff]
  by_cases none_ : candidates = []
  · subst none_
    intro candidate member
    cases member
  · rw [store_of_ne_nil none_, load_write]
    intro candidate member
    exact (mem_remembered candidates _).mpr (.inr ⟨candidate, member, rfl⟩)

end Projector

section Restart

variable (words python)

def Projector.newRows (projector : Projector) (thread : String) (candidates : List Candidate) :
    List StoredEvent :=
  (unseen Candidate.key (projector.load words python thread).seenEventKeys candidates).map
    Candidate.stored

def ReadBack (log newRows : List StoredEvent) (key : SeenKey) : Prop :=
  (∃ row ∈ log.take 50000, persistedKey words python row = some key) ∨
    ∃ row ∈ newRows.take (50000 - log.length), persistedKey words python row = some key

variable {words python}

namespace Projector

theorem logs_store (thread : String) (candidates : List Candidate) (projector : Projector) :
    (projector.store words python thread candidates).1.logs thread =
      projector.logs thread ++ projector.newRows words python thread candidates := by
  by_cases none_ : candidates = []
  · subst none_
    exact (List.append_nil _).symm
  · rw [store_of_ne_nil none_, newRows, ← @logs_load words python thread projector]
    exact Function.update_self _ _ _

theorem seenEventKeys_restarted (thread : String) (projector : Projector) :
    (projector.restarted.load words python thread).seenEventKeys =
      persistedKeys words python (projector.logs thread) := rfl

theorem mem_persistedKeys_append (log newRows : List StoredEvent) (key : SeenKey) :
    key ∈ persistedKeys words python (log ++ newRows) ↔ ReadBack words python log newRows key := by
  rw [persistedKeys, List.take_append, List.filterMap_append, List.mem_append, List.mem_filterMap,
    List.mem_filterMap]
  rfl

theorem store_restarted_iff (thread : String) (candidates : List Candidate) (projector : Projector) :
    ((projector.store words python thread candidates).1.restarted.store words python thread
        candidates).2 = [] ↔
      ∀ candidate ∈ candidates, ReadBack words python (projector.logs thread)
        (projector.newRows words python thread candidates) candidate.key := by
  rw [store_eq_nil_iff, seenEventKeys_restarted, logs_store]
  apply forall₂_congr
  intro candidate _
  exact mem_persistedKeys_append _ _ _

end Projector

theorem readBack_of_stable {log : List StoredEvent}
    (fits : log.length + (unseen Candidate.key (persistedKeys words python log) candidates).length ≤
      50000)
    (stable : ∀ candidate ∈ candidates,
      persistedKey words python candidate.stored = some candidate.key) :
    ∀ candidate ∈ candidates, ReadBack words python log
      ((unseen Candidate.key (persistedKeys words python log) candidates).map Candidate.stored)
      candidate.key := by
  intro candidate member
  have known : candidate.key ∈ remembered Candidate.key (persistedKeys words python log) candidates :=
    (mem_remembered candidates _).mpr (.inr ⟨candidate, member, rfl⟩)
  rcases List.mem_append.mp known with old | new
  · exact .inl (List.mem_filterMap.mp old)
  · obtain ⟨stored, unseen_, same⟩ := List.mem_map.mp new
    refine .inr ⟨stored.stored, ?_, ?_⟩
    · rw [List.take_of_length_le (by rw [List.length_map]; omega)]
      exact List.mem_map_of_mem unseen_
    · rw [stable stored (mem_of_mem_unseen unseen_), same]

end Restart

end Python

end Wlcodex.Native
