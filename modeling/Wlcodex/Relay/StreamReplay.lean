import Mathlib.Data.List.Pairwise
import Wlcodex.Relay.StreamEvents

namespace Wlcodex.Relay

open Wlcodex.Lib

/-! Live and replayed role output over whole runs. -/

namespace StreamState

def isText (value : Option Json) (text : String) : Bool :=
  match value with
  | some (.string own) => own = text
  | _ => false

/-- `RuntimeEventStore.append`, with the payload that it stores. -/
def appendRuntimeEvent (state : StreamState) (eventType : String) (agentRunId : Option Int)
    (payload : Dict) : StreamState :=
  { state with
    runtimeEvents := state.runtimeEvents ++
      [⟨state.runtimeEvents.length + 1, eventType, agentRunId, payload⟩] }

def correctedPayload (payload : Dict) (nativeTurnId nativeThreadId : String) : Dict :=
  let next := (payload.set "native_turn_id" (.string nativeTurnId)).set "turnId"
    (.string nativeTurnId)
  if nativeThreadId = "" then next
  else
    (next.set "native_thread_id" (.string nativeThreadId)).set "threadId" (.string nativeThreadId)

def correctedEvent (agentRunId : Int) (itemId nativeTurnId nativeThreadId : String)
    (event : RuntimeRow) : RuntimeRow :=
  if event.agentRunId = some agentRunId ∧ (isText (event.payload.lookup "itemId") itemId ∨
      isText (event.payload.lookup "item_id") itemId) then
    { event with payload := correctedPayload event.payload nativeTurnId nativeThreadId }
  else event

/-- `correct_payload_item_turn_id`, the one write to stored runtime events. -/
def correctPayloadItemTurnId (state : StreamState) (agentRunId : Int)
    (itemId nativeTurnId nativeThreadId : String) : StreamState :=
  if itemId = "" ∨ nativeTurnId = "" then state
  else
    { state with
      runtimeEvents := state.runtimeEvents.map
        (correctedEvent agentRunId itemId nativeTurnId nativeThreadId) }

section Projection

variable (repr : Json → String)

/-- The payload of `role.output_delta`. -/
def deltaPayload (event : RuntimeRow) (role : String) (roundId : Nat) : Dict :=
  [("role", .string role), ("agent_run_id", (event.agentRunId.map Json.int).getD .null),
    ("runtime_event_id", .int event.id), ("delta", .string (runtimeEventText repr event.payload)),
    ("round_id", .int roundId)] ++ runtimeEventStreamFields repr event.payload

/-- `_project_runtime_delta` on a stored event, for the role that its agent run
belongs to. -/
def projectRuntimeDelta (state : StreamState) (runtimeEventId taskId : Nat) (role : String)
    (roundId : Nat) : Option RelayEvent × StreamState :=
  match state.runtimeEvents.find? fun event => event.id = runtimeEventId with
  | none => (none, state)
  | some event =>
      if event.IsCompatibility ∨ ¬ event.IsDelta then (none, state)
      else state.emit taskId "role.output_delta" role none (deltaPayload repr event role roundId)

end Projection

end StreamState

inductive StreamInput where
  | append (eventType : String) (agentRunId : Option Int) (payload : Dict)
  | correctTurn (agentRunId : Int) (itemId nativeTurnId nativeThreadId : String)
  | project (runtimeEventId taskId : Nat) (role : String) (roundId : Nat)
  /-- Any other event of the relay. -/
  | emit (taskId : Nat) (eventType role : String) (jobId : Option Int) (payload : Dict)
  /-- The bus is in memory only. -/
  | restart
  | elapse (time : Nat)

namespace StreamState

section Run

variable (repr : Json → String)

def step (state : StreamState) : StreamInput → StreamState
  | .append eventType agentRunId payload => state.appendRuntimeEvent eventType agentRunId payload
  | .correctTurn agentRunId itemId turnId threadId =>
      state.correctPayloadItemTurnId agentRunId itemId turnId threadId
  | .project runtimeEventId taskId role roundId =>
      (state.projectRuntimeDelta repr runtimeEventId taskId role roundId).2
  | .emit taskId eventType role jobId payload => (state.emit taskId eventType role jobId payload).2
  | .restart => { state with bus := [] }
  | .elapse time => { state with now := state.now + time }

def emptyStream : StreamState := ⟨0, [], [], []⟩

def after (inputs : List StreamInput) : StreamState := inputs.foldl (step repr) emptyStream

end Run

/-- The text is a non-empty string under `delta`, or under `text` while `delta` has
nothing; or there is no text under any key. -/
def Worded (payload : Dict) (text : String) : Prop :=
  (text ≠ "" ∧ payload.lookup "delta" = some (.string text)) ∨
    (text ≠ "" ∧ (payload.lookup "delta").filter truthy = none ∧
      payload.lookup "text" = some (.string text)) ∨
    (text = "" ∧ ∀ key ∈ ["delta", "text", "message", "content", "output", "chunk", "summary",
      "body"], (payload.lookup key).filter truthy = none)

variable {text : String}

theorem filter_truthy_string (some_ : text ≠ "") :
    (some (Json.string text)).filter truthy = some (.string text) := by
  simp [Option.filter, truthy, some_]

variable {payload : Dict}

theorem runtimeEventText_worded (repr : Json → String)
    (worded : Worded payload text) : runtimeEventText repr payload = text := by
  rcases worded with ⟨some_, delta⟩ | ⟨some_, delta, own⟩ | ⟨rfl, silent⟩
  · simp [runtimeEventText, firstTruthy, delta, filter_truthy_string some_, str]
  · simp [runtimeEventText, firstTruthy, delta, own, filter_truthy_string some_, str]
  · have nothing : firstTruthy payload ["delta", "text", "message", "content", "output", "chunk"] =
        none := by
      refine List.findSome?_eq_none_iff.mpr fun key member => silent key ?_
      simp only [List.mem_cons, List.not_mem_nil, or_false] at member ⊢
      tauto
    simp [runtimeEventText, nothing]

theorem someText_of_falsy {value : Option Json} (falsy : value.filter truthy = none) :
    someText value = none := by
  cases value with
  | none => rfl
  | some value =>
      cases value with
      | string text => simpa [Option.filter, truthy, someText] using falsy
      | _ => rfl

theorem runtimePayloadText_worded (worded : Worded payload text) :
    runtimePayloadText payload = text := by
  rcases worded with ⟨some_, delta⟩ | ⟨some_, delta, own⟩ | ⟨rfl, silent⟩
  · simp [runtimePayloadText, delta, someText, some_]
  · have found : someText (payload.lookup "text") = some text := by simp [own, someText, some_]
    simp [runtimePayloadText, someText_of_falsy delta, found]
  · simp [runtimePayloadText, someText_of_falsy (silent "delta" (by decide)),
      someText_of_falsy (silent "text" (by decide)), someText_of_falsy (silent "summary" (by decide)),
      someText_of_falsy (silent "body" (by decide))]

def Lacks (dict : Dict) (key : String) : Prop := ∀ member ∈ dict, member.1 ≠ key

variable {key : String} {dict : Dict}

theorem lookup_of_lacks (lacks : Lacks dict key) :
    dict.lookup key = none := by
  refine List.lookup_eq_none_iff.mpr fun member inside => ?_
  simpa using (lacks member inside).symm

theorem lacks_append {first second : Dict} (lacks : Lacks first key)
    (tail : Lacks second key) : Lacks (first ++ second) key := by
  intro member inside
  exact (List.mem_append.mp inside).elim (lacks member) (tail member)

variable {other : String}

theorem lacks_setDefault (lacks : Lacks dict key)
    (apart : other ≠ key) (value : Json) : Lacks (dict.setDefault other value) key := by
  unfold Dict.setDefault
  split
  · exact lacks
  · exact lacks_append lacks fun member inside => by rw [List.mem_singleton.mp inside]; exact apart

theorem lacks_set (lacks : Lacks dict key) (apart : other ≠ key)
    (value : Json) : Lacks (dict.set other value) key := by
  unfold Dict.set
  split
  · intro member inside
    obtain ⟨old, stored, rfl⟩ := List.mem_map.mp inside
    split
    · exact apart
    · exact lacks old stored
  · exact lacks_append lacks fun member inside => by rw [List.mem_singleton.mp inside]; exact apart

theorem lacks_inherit {keys : List String} {source : Dict}
    (lacks : Lacks payload key) (apart : key ∉ keys) : Lacks (inherit keys payload source) key := by
  unfold inherit
  induction keys generalizing payload with
  | nil => exact lacks
  | cons next rest ih =>
      rw [List.foldl_cons]
      refine ih ?_ fun inside => apart (List.mem_cons_of_mem _ inside)
      split
      · exact lacks_setDefault lacks (fun same => apart (same ▸ List.mem_cons_self)) _
      · exact lacks

theorem lacks_storage {id : Int} (numbered : runtimeEventIdFromPayload payload = some id) :
    Lacks (relayStreamPayloadForStorage "role.output_delta" payload) "delta" := by
  have kept : Lacks ((["role", "agent_run_id", "runtime_event_id", "round_id", "kind"] ++
      messageKeys).filterMap fun key => (payload.lookup key).map fun value => (key, value)) "delta" := by
    intro member inside same
    obtain ⟨key, listed, found⟩ := List.mem_filterMap.mp inside
    obtain ⟨value, _, rfl⟩ := Option.map_eq_some_iff.mp found
    dsimp only at same
    rw [same] at listed
    exact absurd listed (by decide)
  simp only [relayStreamPayloadForStorage, numbered]
  intro member inside
  refine lacks_set ?_ (by decide) (.int id) member (List.mem_filter.mp inside).1
  split
  · have defaulted := fun first second third => lacks_setDefault (lacks_setDefault
      (lacks_setDefault kept (show "kind" ≠ "delta" by decide) first)
      (show "agent_run_id" ≠ "delta" by decide) second)
      (show "runtime_event_id" ≠ "delta" by decide) third
    split
    · exact lacks_inherit (defaulted _ _ _) (by decide)
    · exact defaulted _ _ _
  · exact kept

theorem lookup_set_of_ne (value : Json) (apart : other ≠ key) (dict : Dict) :
    (dict.set key value).lookup other = dict.lookup other := by
  have replaced : (dict.map fun member => if member.1 = key then (key, value) else member).lookup
      other = dict.lookup other := by
    induction dict with
    | nil => rfl
    | cons member rest ih =>
        obtain ⟨name, own⟩ := member
        rw [List.map_cons]
        by_cases same : name = key
        · subst same
          rw [if_pos rfl, List.lookup_cons, List.lookup_cons, beq_eq_false_iff_ne.mpr apart]
          exact ih
        · rw [if_neg same, List.lookup_cons, List.lookup_cons, ih]
  unfold Dict.set
  split
  · exact replaced
  · rw [List.lookup_append, List.lookup_cons, beq_eq_false_iff_ne.mpr apart, List.lookup_nil,
      Option.or_none]

theorem lookup_set_self (payload : Dict) (key : String) (value : Json) :
    (payload.set key value).lookup key = some value := by
  unfold Dict.set
  split_ifs with present
  · induction payload with
    | nil => cases present
    | cons member payload ih =>
        obtain ⟨name, own⟩ := member
        rw [List.map_cons]
        by_cases same : name = key
        · subst same
          rw [if_pos rfl, List.lookup_cons_self]
        · have apart : (key == name) = false := beq_eq_false_iff_ne.mpr (Ne.symm same)
          rw [List.lookup_cons, apart] at present
          rw [if_neg same, List.lookup_cons, apart]
          exact ih present
  · have absent : payload.lookup key = none := Option.not_isSome_iff_eq_none.mp present
    rw [List.lookup_append, absent, Option.none_or]
    exact List.lookup_cons_self

theorem lookup_setDefault (absent : dict.lookup key = none)
    (value : Json) : (dict.setDefault key value).lookup key = some value := by
  simp [Dict.setDefault, absent, List.lookup_append]

theorem runtimePayloadText_corrected (payload : Dict) (turnId threadId : String) :
    runtimePayloadText (correctedPayload payload turnId threadId) = runtimePayloadText payload := by
  have textKeys : ∀ key ∈ ["delta", "text", "summary", "body"],
      ∀ other ∈ ["native_turn_id", "turnId", "native_thread_id", "threadId"], key ≠ other := by
    decide
  have same : ∀ key ∈ ["delta", "text", "summary", "body"],
      (correctedPayload payload turnId threadId).lookup key = payload.lookup key := by
    intro key listed
    have apart := textKeys key listed
    unfold correctedPayload
    split
    · rw [lookup_set_of_ne _ (apart _ (by decide)), lookup_set_of_ne _ (apart _ (by decide))]
    · rw [lookup_set_of_ne _ (apart _ (by decide)), lookup_set_of_ne _ (apart _ (by decide)),
        lookup_set_of_ne _ (apart _ (by decide)), lookup_set_of_ne _ (apart _ (by decide))]
  simp only [runtimePayloadText, List.findSome?_cons, List.findSome?_nil, same "delta" (by decide),
    same "text" (by decide), same "summary" (by decide), same "body" (by decide)]

theorem correctedEvent_id (agentRunId : Int) (itemId turnId threadId : String) (event : RuntimeRow) :
    (correctedEvent agentRunId itemId turnId threadId event).id = event.id := by
  unfold correctedEvent
  split
  · rfl
  · rfl

theorem runtimePayloadText_correctedEvent (agentRunId : Int) (itemId turnId threadId : String)
    (event : RuntimeRow) :
    runtimePayloadText (correctedEvent agentRunId itemId turnId threadId event).payload =
      runtimePayloadText event.payload := by
  unfold correctedEvent
  split
  · exact runtimePayloadText_corrected event.payload turnId threadId
  · rfl

def Matches (taskId : Nat) (eventType role : String) (id : Int) (row : StreamRow) : Prop :=
  row.taskId = taskId ∧ row.eventType = eventType ∧ row.role = role ∧ row.runtimeEventId = some id

instance (taskId : Nat) (eventType role : String) (id : Int) :
    DecidablePred (Matches taskId eventType role id) := fun row =>
  inferInstanceAs (Decidable (row.taskId = taskId ∧ row.eventType = eventType ∧ row.role = role ∧
    row.runtimeEventId = some id))

/-- Rows of a task are numbered from one without gaps, a runtime event has one row in
an output, and that row does not hold its text. -/
structure Ordered (state : StreamState) : Prop where
  contiguous : ∀ taskId, (state.rows.filter fun row => row.taskId = taskId).map StreamRow.sequence =
    List.range' 1 (state.rows.filter fun row => row.taskId = taskId).length
  single : ∀ taskId eventType role id,
    (state.rows.filter (Matches taskId eventType role id)).length ≤ 1
  textless : ∀ row ∈ state.rows, row.eventType = "role.output_delta" → row.runtimeEventId ≠ none →
    Lacks row.payload "delta"
  numbered : state.runtimeEvents.map RuntimeRow.id = List.range' 1 state.runtimeEvents.length

theorem foldr_max_range' (count : Nat) : (List.range' 1 count).foldr max 0 = count := by
  have bounded : ∀ (numbers : List Nat) (bound : Nat), (∀ number ∈ numbers, number ≤ bound) →
      numbers.foldr max bound = bound := by
    intro numbers bound below
    induction numbers with
    | nil => rfl
    | cons number rest ih =>
        rw [List.foldr_cons, ih fun other inside => below other (List.mem_cons_of_mem _ inside)]
        exact max_eq_right (below number List.mem_cons_self)
  cases count with
  | zero => rfl
  | succ count =>
      rw [List.range'_concat, List.foldr_append, List.foldr_cons, List.foldr_nil, Nat.max_zero,
        Nat.one_mul]
      rw [bounded _ (1 + count) fun number inside => ?_, Nat.add_comm]
      have range := List.mem_range'_1.mp inside
      omega

variable {state : StreamState}

theorem nextSequence_eq (ordered : Ordered state) (taskId : Nat) :
    state.nextSequence taskId = (state.rows.filter fun row => row.taskId = taskId).length + 1 := by
  rw [nextSequence, ordered.contiguous, foldr_max_range']

theorem rows_append (state : StreamState) (taskId : Nat) (eventType role : String)
    (jobId : Option Int) (payload : Dict) :
    (∃ id, runtimeEventIdFromPayload payload = some id ∧
        (∃ row ∈ state.rows, Matches taskId eventType role id row) ∧
        (state.appendStreamEvent taskId eventType role jobId payload).2 = state) ∨
      ((∀ id, runtimeEventIdFromPayload payload = some id →
          ∀ row ∈ state.rows, ¬ Matches taskId eventType role id row) ∧
        (state.appendStreamEvent taskId eventType role jobId payload).2 =
          { state with
            rows := state.rows ++ [⟨taskId, state.nextSequence taskId, eventType, role, jobId,
              runtimeEventIdFromPayload payload, relayStreamPayloadForStorage eventType payload,
              state.now⟩] }) := by
  unfold appendStreamEvent
  dsimp only
  cases found : (runtimeEventIdFromPayload payload).bind (state.existing? taskId eventType role) with
  | some row =>
      obtain ⟨id, numbered, known⟩ := Option.bind_eq_some_iff.mp found
      have matching : Matches taskId eventType role id row := by
        simpa [Matches] using List.find?_some known
      exact .inl ⟨id, numbered, ⟨row, List.mem_of_find?_eq_some known, matching⟩, rfl⟩
  | none =>
      refine .inr ⟨fun id numbered row stored matching => ?_, rfl⟩
      rw [numbered, Option.bind_some] at found
      have skipped := List.find?_eq_none.mp found row stored
      exact skipped (by simpa [Matches] using matching)

theorem ordered_row (ordered : Ordered state) {row : StreamRow}
    (next : row.sequence = state.nextSequence row.taskId)
    (fresh : ∀ id, row.runtimeEventId = some id →
      ∀ other ∈ state.rows, ¬ Matches row.taskId row.eventType row.role id other)
    (textless : row.eventType = "role.output_delta" → row.runtimeEventId ≠ none →
      Lacks row.payload "delta") : Ordered { state with rows := state.rows ++ [row] } := by
  refine ⟨fun taskId => ?_, fun taskId eventType role id => ?_, fun other member => ?_,
    ordered.numbered⟩
  · rw [List.filter_append, List.map_append, List.length_append, ordered.contiguous taskId]
    by_cases own : row.taskId = taskId
    · subst own
      simp only [List.filter_cons, decide_true, if_true, List.filter_nil, List.map_cons,
        List.map_nil, List.length_singleton]
      rw [List.range'_concat, next, nextSequence_eq ordered, Nat.one_mul, Nat.add_comm 1]
    · simp [own]
  · rw [List.filter_append, List.length_append]
    by_cases own : Matches taskId eventType role id row
    · obtain ⟨rfl, rfl, rfl, numbered⟩ := own
      have none_ : state.rows.filter (Matches row.taskId row.eventType row.role id) = [] :=
        List.filter_eq_nil_iff.mpr fun other stored => by simpa using fresh id numbered other stored
      rw [none_, List.length_nil, Nat.zero_add]
      exact List.length_filter_le _ [row]
    · have unmatched : [row].filter (Matches taskId eventType role id) = [] := by simp [own]
      rw [unmatched]
      exact ordered.single taskId eventType role id
  · rcases List.mem_append.mp member with old | new
    · exact ordered.textless other old
    · rw [List.mem_singleton.mp new]
      exact textless

theorem ordered_append (ordered : Ordered state) (taskId : Nat)
    (eventType role : String) (jobId : Option Int) (payload : Dict) :
    Ordered (state.appendStreamEvent taskId eventType role jobId payload).2 := by
  rcases rows_append state taskId eventType role jobId payload with ⟨_, _, _, same⟩ | ⟨fresh, grown⟩
  · rw [same]
    exact ordered
  · rw [grown]
    refine ordered_row ordered rfl fresh fun delta named => ?_
    obtain ⟨id, numbered⟩ := Option.ne_none_iff_exists'.mp named
    dsimp only at delta ⊢
    rw [delta]
    exact lacks_storage numbered

theorem emit_snd (state : StreamState) (taskId : Nat) (eventType role : String) (jobId : Option Int)
    (payload : Dict) :
    ∃ bus, (state.emit taskId eventType role jobId payload).2 =
      { (state.appendStreamEvent taskId eventType role jobId payload).2 with bus } := by
  unfold emit
  dsimp only
  split
  · exact ⟨_, rfl⟩
  · exact ⟨_, rfl⟩

theorem ordered_bus (ordered : Ordered state) (bus : List RelayEvent) :
    Ordered { state with bus } :=
  ⟨ordered.contiguous, ordered.single, ordered.textless, ordered.numbered⟩

theorem ordered_emit (ordered : Ordered state) (taskId : Nat)
    (eventType role : String) (jobId : Option Int) (payload : Dict) :
    Ordered (state.emit taskId eventType role jobId payload).2 := by
  obtain ⟨bus, eq⟩ := state.emit_snd taskId eventType role jobId payload
  rw [eq]
  exact ordered_bus (ordered_append ordered taskId eventType role jobId payload) bus

theorem projectRuntimeDelta_snd (repr : Json → String) (state : StreamState)
    (runtimeEventId taskId : Nat) (role : String) (roundId : Nat) :
    (state.projectRuntimeDelta repr runtimeEventId taskId role roundId).2 = state ∨
      ∃ event ∈ state.runtimeEvents, event.id = runtimeEventId ∧
        (state.projectRuntimeDelta repr runtimeEventId taskId role roundId).2 =
          (state.emit taskId "role.output_delta" role none
            (deltaPayload repr event role roundId)).2 := by
  unfold projectRuntimeDelta
  split
  · exact .inl rfl
  next event found =>
    split
    · exact .inl rfl
    · exact .inr ⟨event, List.mem_of_find?_eq_some found, by simpa using List.find?_some found, rfl⟩

theorem ordered_step (repr : Json → String) (ordered : Ordered state)
    (input : StreamInput) : Ordered (state.step repr input) := by
  cases input with
  | append eventType agentRunId payload =>
      refine ⟨ordered.contiguous, ordered.single, ordered.textless, ?_⟩
      simp only [step, appendRuntimeEvent]
      rw [List.map_append, ordered.numbered, List.length_append, List.length_singleton,
        List.range'_concat, Nat.one_mul, List.map_singleton, Nat.add_comm 1]
  | correctTurn agentRunId itemId turnId threadId =>
      simp only [step, correctPayloadItemTurnId]
      split
      · exact ordered
      · refine ⟨ordered.contiguous, ordered.single, ordered.textless, ?_⟩
        rw [List.length_map, ← ordered.numbered, List.map_map]
        exact List.map_congr_left fun event _ => correctedEvent_id agentRunId itemId turnId threadId event
  | project runtimeEventId taskId role roundId =>
      rcases projectRuntimeDelta_snd repr state runtimeEventId taskId role roundId with
        same | ⟨event, _, _, emitted⟩
      · rw [step, same]
        exact ordered
      · rw [step, emitted]
        exact ordered_emit ordered _ _ _ _ _
  | emit taskId eventType role jobId payload => exact ordered_emit ordered _ _ _ _ _
  | restart => exact ordered_bus ordered []
  | elapse time => exact ⟨ordered.contiguous, ordered.single, ordered.textless, ordered.numbered⟩

theorem ordered_empty : Ordered emptyStream :=
  ⟨fun _ => rfl, fun _ _ _ _ => Nat.zero_le 1, fun _ member => (by cases member), rfl⟩

theorem ordered_after (repr : Json → String) (inputs : List StreamInput) :
    Ordered (after repr inputs) := by
  have keeps : ∀ state input, Ordered state → True → Ordered (step repr state input) :=
    fun _ input ordered _ => ordered_step repr ordered input
  exact invariant_foldl keeps ordered_empty (along_true _ inputs)

def HasText (state : StreamState) (id : Nat) (text : String) : Prop :=
  ∃ event, (state.runtimeEvents.find? fun event => event.id = id) = some event ∧
    runtimePayloadText event.payload = text

def Filed (state : StreamState) (id taskId : Nat) (role : String) : Prop :=
  ∃ row ∈ state.rows, Matches taskId "role.output_delta" role id row

theorem rows_emit (state : StreamState) (taskId : Nat) (eventType role : String)
    (jobId : Option Int) (payload : Dict) :
    state.rows <+: (state.emit taskId eventType role jobId payload).2.rows ∧
      (state.emit taskId eventType role jobId payload).2.runtimeEvents = state.runtimeEvents := by
  obtain ⟨bus, eq⟩ := state.emit_snd taskId eventType role jobId payload
  rw [eq]
  rcases rows_append state taskId eventType role jobId payload with ⟨_, _, _, same⟩ | ⟨_, grown⟩
  · rw [same]
    exact ⟨List.prefix_refl _, rfl⟩
  · rw [grown]
    exact ⟨List.prefix_append _ _, rfl⟩

theorem rows_step (repr : Json → String) (state : StreamState) (input : StreamInput) :
    state.rows <+: (state.step repr input).rows := by
  cases input with
  | append | restart | elapse => exact List.prefix_refl _
  | correctTurn agentRunId itemId turnId threadId =>
      simp only [step, correctPayloadItemTurnId]
      split
      · exact List.prefix_refl _
      · exact List.prefix_refl _
  | project runtimeEventId taskId role roundId =>
      rcases projectRuntimeDelta_snd repr state runtimeEventId taskId role roundId with
        same | ⟨event, _, _, emitted⟩
      · simp only [step, same, List.prefix_refl]
      · rw [step, emitted]
        exact (state.rows_emit _ _ _ _ _).1
  | emit taskId eventType role jobId payload => exact (state.rows_emit _ _ _ _ _).1

variable {id : Nat}

theorem hasText_step (repr : Json → String)
    (has : HasText state id text) (input : StreamInput) : HasText (state.step repr input) id text := by
  obtain ⟨event, found, own⟩ := has
  cases input with
  | append eventType agentRunId payload =>
      refine ⟨event, ?_, own⟩
      simp only [step, appendRuntimeEvent, List.find?_append, found, Option.some_or]
  | correctTurn agentRunId itemId turnId threadId =>
      simp only [step, correctPayloadItemTurnId]
      split
      · exact ⟨event, found, own⟩
      · refine ⟨correctedEvent agentRunId itemId turnId threadId event, ?_, ?_⟩
        · simp only [List.find?_map, Function.comp_def, correctedEvent_id, found, Option.map_some]
        · rw [runtimePayloadText_correctedEvent, own]
  | project runtimeEventId taskId role roundId =>
      rcases projectRuntimeDelta_snd repr state runtimeEventId taskId role roundId with
        same | ⟨_, _, _, emitted⟩
      · rw [step, same]
        exact ⟨event, found, own⟩
      · rw [step, emitted, HasText, (state.rows_emit _ _ _ _ _).2]
        exact ⟨event, found, own⟩
  | emit taskId eventType role jobId payload =>
      rw [step, HasText, (state.rows_emit _ _ _ _ _).2]
      exact ⟨event, found, own⟩
  | restart | elapse => exact ⟨event, found, own⟩

variable {role : String} {taskId : Nat}

theorem replayed_after (repr : Json → String) (ordered : Ordered state) (filed : Filed state id taskId role)
    (has : HasText state id text) (inputs : List StreamInput) :
    Ordered (inputs.foldl (step repr) state) ∧ Filed (inputs.foldl (step repr) state) id taskId role ∧
      HasText (inputs.foldl (step repr) state) id text := by
  have keeps : ∀ state input,
      (Ordered state ∧ Filed state id taskId role ∧ HasText state id text) → True →
      Ordered (step repr state input) ∧ Filed (step repr state input) id taskId role ∧
        HasText (step repr state input) id text := by
    rintro state input ⟨ordered, ⟨row, stored, matching⟩, has⟩ -
    exact ⟨ordered_step repr ordered input,
      ⟨row, (rows_step repr state input).subset stored, matching⟩, hasText_step repr has input⟩
  exact invariant_foldl keeps ⟨ordered, filed, has⟩ (along_true _ inputs)

/-- The text of an output event; an event without text has no `delta`. -/
def deltaText (event : RelayEvent) : String :=
  match event.payload.lookup "delta" with
  | some (.string text) => text
  | _ => ""

variable {event : RuntimeRow}

theorem runtimeEventIdFromPayload_delta (repr : Json → String)
    (positive : 0 < event.id) (role : String) (roundId : Nat) :
    runtimeEventIdFromPayload (deltaPayload repr event role roundId) = some event.id := by
  have apart : event.id ≠ 0 := by omega
  simp [runtimeEventIdFromPayload, deltaPayload, Dict.getOrNull, List.lookup_cons, blank, apart]

theorem filed_project (repr : Json → String)
    (found : (state.runtimeEvents.find? fun other => other.id = event.id) = some event)
    (positive : 0 < event.id) (delta : event.IsDelta) (plain : event.IsCompatibility = false)
    (taskId : Nat) (role : String) (roundId : Nat) :
    Filed (state.projectRuntimeDelta repr event.id taskId role roundId).2 event.id taskId role := by
  have numbered := runtimeEventIdFromPayload_delta repr positive role roundId
  simp only [projectRuntimeDelta, found, plain, delta, Bool.false_eq_true, not_true_eq_false,
    or_self, if_false]
  obtain ⟨bus, eq⟩ := state.emit_snd taskId "role.output_delta" role none
    (deltaPayload repr event role roundId)
  rw [eq]
  rcases rows_append state taskId "role.output_delta" role none
      (deltaPayload repr event role roundId) with ⟨id, same, ⟨row, stored, matching⟩, kept⟩ |
    ⟨_, grown⟩
  · rw [numbered] at same
    cases same
    rw [kept]
    exact ⟨row, stored, matching⟩
  · rw [grown]
    exact ⟨_, List.mem_append_right _ List.mem_cons_self, rfl, rfl, rfl, numbered⟩

theorem project_filed (repr : Json → String)
    (ordered : Ordered state) (filed : Filed state id taskId role) (roundId : Nat) :
    (state.step repr (.project id taskId role roundId)).rows = state.rows ∧
      (state.step repr (.project id taskId role roundId)).runtimeEvents = state.runtimeEvents := by
  rcases projectRuntimeDelta_snd repr state id taskId role roundId with
    same | ⟨event, stored, rfl, emitted⟩
  · rw [step, same]
    exact ⟨rfl, rfl⟩
  · have positive : 0 < event.id := by
      have inside := List.mem_map_of_mem (f := RuntimeRow.id) stored
      rw [ordered.numbered] at inside
      exact (List.mem_range'_1.mp inside).1
    have numbered := runtimeEventIdFromPayload_delta repr positive role roundId
    rw [step, emitted]
    obtain ⟨bus, eq⟩ := state.emit_snd taskId "role.output_delta" role none
      (deltaPayload repr event role roundId)
    rw [eq]
    rcases rows_append state taskId "role.output_delta" role none
        (deltaPayload repr event role roundId) with ⟨_, _, _, kept⟩ | ⟨fresh, _⟩
    · rw [kept]
      exact ⟨rfl, rfl⟩
    · obtain ⟨row, present, matching⟩ := filed
      exact absurd matching (fresh event.id numbered row present)

theorem lacks_hydrated (lacks : Lacks payload "delta") (source : Dict) (first second : Json) :
    Lacks (inherit (messageKeys ++ ["display_source"])
      ((payload.setDefault "agent_run_id" first).setDefault "runtime_event_id" second) source)
      "delta" :=
  lacks_inherit (lacks_setDefault (lacks_setDefault lacks (by decide) first) (by decide) second)
    (by decide)

theorem deltaText_streamEvent
    {row : StreamRow} (has : HasText state id text) (lacks : Lacks row.payload "delta")
    (matching : Matches taskId "role.output_delta" role id row) :
    deltaText (state.streamEvent row) = text := by
  obtain ⟨event, found, rfl⟩ := has
  obtain ⟨_, output, _, numbered⟩ := matching
  have found : (state.runtimeEvents.find? fun event => (event.id : Int) = id) = some event := by
    simpa only [Int.natCast_inj] using found
  have textless := lacks_hydrated
    (lacks_setDefault lacks (show "runtime_event_id" ≠ "delta" by decide) (.int id)) event.payload
  simp only [deltaText, streamEvent, numbered, output, hydrateStreamEventPayload, found, if_true]
  split_ifs with silent
  · rw [lookup_of_lacks (textless _ _), silent]
  · rw [lookup_setDefault (lookup_of_lacks (textless _ _))]

theorem filed_row (ordered : Ordered state) (filed : Filed state id taskId role) :
    ∃ row, state.rows.filter (Matches taskId "role.output_delta" role id) = [row] ∧
      Matches taskId "role.output_delta" role id row ∧
      state.streamEvent row ∈ state.listStreamEvents taskId 0 := by
  obtain ⟨row, stored, matching⟩ := filed
  have kept : row ∈ state.rows.filter (Matches taskId "role.output_delta" role id) :=
    List.mem_filter.mpr ⟨stored, by simpa using matching⟩
  have alone := ordered.single taskId "role.output_delta" role id
  have positive : 0 < row.sequence := by
    have ofTask : row ∈ state.rows.filter fun row => row.taskId = taskId :=
      List.mem_filter.mpr ⟨stored, by simpa using matching.1⟩
    have inside := List.mem_map_of_mem (f := StreamRow.sequence) ofTask
    rw [ordered.contiguous] at inside
    exact (List.mem_range'_1.mp inside).1
  refine ⟨row, ?_, matching, List.mem_map_of_mem ((List.mem_insertionSort _).mpr ?_)⟩
  · obtain ⟨first, single⟩ := List.length_eq_one_iff.mp
      (le_antisymm alone (List.length_pos_of_mem kept))
    rw [single] at kept ⊢
    rw [List.mem_singleton.mp kept]
  · exact List.mem_filter.mpr ⟨stored, by simpa using ⟨matching.1, positive⟩⟩

theorem find?_of_mem (ordered : Ordered state) (stored : event ∈ state.runtimeEvents) :
    (state.runtimeEvents.find? fun other => other.id = event.id) = some event := by
  have distinct : state.runtimeEvents.Pairwise fun first second => first.id ≠ second.id := by
    rw [← List.pairwise_map, ordered.numbered]
    exact List.nodup_range'
  have present : (state.runtimeEvents.find? fun other => other.id = event.id).isSome :=
    List.find?_isSome.mpr ⟨event, stored, by simp⟩
  obtain ⟨other, found⟩ := Option.isSome_iff_exists.mp present
  have same : other.id = event.id := by simpa using List.find?_some found
  have symmetric : Std.Symm fun first second : RuntimeRow => first.id ≠ second.id :=
    ⟨fun _ _ => Ne.symm⟩
  rw [found]
  by_contra different
  exact distinct.forall (List.mem_of_find?_eq_some found) stored
    (fun eq => different (congrArg some eq)) same

theorem deltaText_projected (repr : Json → String)
    (found : (state.runtimeEvents.find? fun other => other.id = event.id) = some event) {roundId : Nat} {live : RelayEvent}
    (delivered : (state.projectRuntimeDelta repr event.id taskId role roundId).1 = some live) :
    deltaText live = runtimeEventText repr event.payload := by
  have carried : live.payload = deltaPayload repr event role roundId := by
    simp only [projectRuntimeDelta, found] at delivered
    split at delivered
    · cases delivered
    · simp only [emit] at delivered
      split at delivered
      · cases delivered
      · cases delivered
        rfl
  simp [deltaText, carried, deltaPayload, List.lookup_cons]

/-- A runtime event that is projected at some moment, its text under `delta` or
`text`: what is delivered live is what the one row of the event gives at every later
moment, the rows of the task are numbered from one without gaps, and projecting the
event again changes nothing. -/
theorem stream_replays_live (repr : Json → String) (earlier later : List StreamInput)
    (event : RuntimeRow) (taskId : Nat) (role : String) (roundId : Nat) (text : String)
    (stored : event ∈ (after repr earlier).runtimeEvents) (delta : event.IsDelta)
    (plain : event.IsCompatibility = false) (worded : Worded event.payload text) :
    let projection : StreamInput := .project event.id taskId role roundId
    let final := after repr (earlier ++ projection :: later)
    (∀ live ∈ ((after repr earlier).projectRuntimeDelta repr event.id taskId role roundId).1,
        deltaText live = text) ∧
      (∃ row, final.rows.filter (Matches taskId "role.output_delta" role event.id) = [row] ∧
        final.streamEvent row ∈ final.listStreamEvents taskId 0 ∧
        deltaText (final.streamEvent row) = text) ∧
      (final.rows.filter fun row => row.taskId = taskId).map StreamRow.sequence =
        List.range' 1 (final.rows.filter fun row => row.taskId = taskId).length ∧
      ∀ anotherRound task since,
        (final.step repr (.project event.id taskId role anotherRound)).rows = final.rows ∧
          (final.step repr (.project event.id taskId role anotherRound)).listStreamEvents task since =
            final.listStreamEvents task since := by
  intro projection final
  have ordered := ordered_after repr earlier
  have found := find?_of_mem ordered stored
  have positive : 0 < event.id := by
    have inside := List.mem_map_of_mem (f := RuntimeRow.id) stored
    rw [ordered.numbered] at inside
    exact (List.mem_range'_1.mp inside).1
  have has : HasText (after repr earlier) event.id text :=
    ⟨event, found, runtimePayloadText_worded worded⟩
  have filed := filed_project repr found positive delta plain taskId role roundId
  have split : final = later.foldl (step repr) (step repr (after repr earlier) projection) := by
    simp only [final, after, List.foldl_append, List.foldl_cons]
  obtain ⟨finalOrdered, finalFiled, finalText⟩ := replayed_after repr
    (ordered_step repr ordered projection) filed (hasText_step repr has projection) later
  rw [← split] at finalOrdered finalFiled finalText
  refine ⟨fun live delivered => ?_, ?_, finalOrdered.contiguous taskId, fun anotherRound task since => ?_⟩
  · rw [deltaText_projected repr found delivered, runtimeEventText_worded repr worded]
  · obtain ⟨row, only, matching, listed⟩ := filed_row finalOrdered finalFiled
    have member : row ∈ final.rows := by
      have kept : row ∈ final.rows.filter (Matches taskId "role.output_delta" role event.id) := by
        rw [only]
        exact List.mem_cons_self
      exact (List.mem_filter.mp kept).1
    have named : row.runtimeEventId ≠ none := by simp [matching.2.2.2]
    exact ⟨row, only, listed, deltaText_streamEvent finalText
      (finalOrdered.textless row member matching.2.1 named) matching⟩
  · obtain ⟨sameRows, sameEvents⟩ := project_filed repr finalOrdered finalFiled anotherRound
    refine ⟨sameRows, ?_⟩
    have sameEvent : (final.step repr (.project event.id taskId role anotherRound)).streamEvent =
        final.streamEvent := by
      funext row
      simp only [streamEvent, hydrateStreamEventPayload, sameEvents]
    rw [listStreamEvents, sameRows, sameEvent, listStreamEvents]

def saidHi : RuntimeRow := ⟨1, "model.text.delta", some 11, [("delta", .string "hi")]⟩

theorem stream_replays_live_hi :
    let repr : Json → String := fun value => String.ofList (Json.write .spaced value)
    let final := after repr [.append "model.text.delta" (some 11) [("delta", .string "hi")],
      .project 1 7 "director" 1, .restart, .emit 7 "role.status" "director" none []]
    ∃ row, final.rows.filter (Matches 7 "role.output_delta" "director" 1) = [row] ∧
      final.streamEvent row ∈ final.listStreamEvents 7 0 ∧
      deltaText (final.streamEvent row) = "hi" := by
  intro repr final
  exact (stream_replays_live repr [.append "model.text.delta" (some 11) [("delta", .string "hi")]]
    [.restart, .emit 7 "role.status" "director" none []] saidHi 7 "director" 1 "hi"
    List.mem_cons_self (by decide) rfl (.inl ⟨by decide, rfl⟩)).2.1

/-- The roles of a task share its numbers: the first row of the second role is row
two. -/
theorem role_sequences_have_gaps :
    let final := after (fun value => String.ofList (Json.write .spaced value))
      [.append "model.text.delta" (some 11) [("delta", .string "hi")], .project 1 7 "director" 1,
        .append "model.text.delta" (some 12) [("delta", .string "plan")],
        .project 2 7 "architect" 1]
    (final.rows.filter fun row => row.taskId = 7 ∧ row.role = "architect").map StreamRow.sequence ≠
      List.range' 1 (final.rows.filter fun row => row.taskId = 7 ∧ row.role = "architect").length := by
  decide +kernel

end StreamState

end Wlcodex.Relay
