import Wlcodex.Runtime.FrameKeeping
import Wlcodex.Runtime.RedactedPayloads

namespace Wlcodex.Runtime

open Wlcodex.Lib

/-! `get_provider_raw_frame` gives the same frame from the hot table and from an
archive. -/

section Payload

variable (words : WordClass)

theorem archivedPayload_eq (id : Nat) (input : FrameInput) :
    archivedPayload words (FrameStore.newFrame words id input) =
      some (redactPayload words none input.rawPayload.members) := by
  rw [archivedPayload_newFrame]
  exact congrArg some (redactMembers_idem words input.rawPayload.members)

end Payload

def ProviderRawFrame.canonical (frame : ProviderRawFrame) : ProviderRawFrame :=
  { frame with rawPayload := Json.sortedMembers frame.rawPayload }

theorem sortedMembers_sortedMembers (members : List (String × Json)) :
    Json.sortedMembers (Json.sortedMembers members) = Json.sortedMembers members := by
  have twice := Json.sortKeys_sortKeys (.object members)
  exact Json.object.inj twice

theorem sortKeys_optionalInt (value : Option Int) :
    (optionalInt value).sortKeys = optionalInt value := by
  cases value <;> rfl

theorem optionalIntOf_optionalInt (value : Option Int) :
    optionalIntOf (some (optionalInt value)) = value := by
  cases value <;> rfl

section Reading

variable {words : WordClass} {sha256 : List Char → String}

def hotFrame (row : RawFrameRow) (payload : List (String × Json)) : ProviderRawFrame :=
  { id := row.id, provider := row.turn.provider, providerEngine := row.turn.providerEngine
    nativeSessionId := row.turn.nativeSessionId, nativeTurnId := row.turn.nativeTurnId
    sequence := row.sequence, rawKind := row.rawKind, rawPayload := payload
    occurredAt := row.occurredAt, conversationId := row.conversationId
    orchestrationRunId := row.orchestrationRunId, agentRunId := row.agentRunId
    taskId := row.taskId }

theorem rowToProviderRawFrame_newFrame (id : Nat) (input : FrameInput) :
    rowToProviderRawFrame (FrameStore.newFrame words id input) =
      some (hotFrame (FrameStore.newFrame words id input)
        (redactPayload words none input.rawPayload.members)) := by
  have loaded : Json.loads (FrameStore.newFrame words id input).rawPayloadJson =
      some (.object (redactObject words none input.rawPayload).members) :=
    Json.loads_write .spaced (redactObject words none input.rawPayload).keyed
  rw [rowToProviderRawFrame, loaded, Option.map_some]
  rfl

variable {row : RawFrameRow}

theorem frame_of_recorded {payload : JsonObject} :
    archiveRecordToProviderRawFrame (Json.sortedMembers (recordOf sha256 row payload.members)) =
      hotFrame row (Json.sortedMembers payload.members) := by
  have read : ∀ key value, (key, value) ∈ recordOf sha256 row payload.members →
      member? (Json.sortedMembers (recordOf sha256 row payload.members)) key =
        some value.sortKeys := fun _ _ inside => Recorded.lookup inside
  rw [archiveRecordToProviderRawFrame,
    read "id" (.int row.id) (by simp [recordOf]),
    read "provider" (.string row.turn.provider) (by simp [recordOf]),
    read "provider_engine" (.string row.turn.providerEngine) (by simp [recordOf]),
    read "native_session_id" (.string row.turn.nativeSessionId) (by simp [recordOf]),
    read "native_turn_id" (.string row.turn.nativeTurnId) (by simp [recordOf]),
    read "sequence" (.int row.sequence) (by simp [recordOf]),
    read "raw_kind" (.string row.rawKind) (by simp [recordOf]),
    read "raw_payload" (.object payload.members) (by simp [recordOf]),
    read "occurred_at" (.string row.occurredAt) (by simp [recordOf]),
    read "conversation_id" (optionalInt row.conversationId) (by simp [recordOf]),
    read "orchestration_run_id" (optionalInt row.orchestrationRunId) (by simp [recordOf]),
    read "agent_run_id" (optionalInt row.agentRunId) (by simp [recordOf]),
    read "task_id" (optionalInt row.taskId) (by simp [recordOf])]
  simp only [Json.sortKeys_int, Json.sortKeys_string, Json.sortKeys_object, sortKeys_optionalInt,
    optionalIntOf_optionalInt]
  rfl

variable (sha256) in
theorem archived_canonical (written : Written words row) :
    ∃ frame, rowToProviderRawFrame row = some frame ∧
      ∀ record, Recorded words sha256 row record →
        (archiveRecordToProviderRawFrame record).canonical = frame.canonical := by
  obtain ⟨input, eq⟩ := written
  have hot : rowToProviderRawFrame row =
      some (hotFrame row (redactPayload words none input.rawPayload.members)) := by
    rw [eq]
    exact rowToProviderRawFrame_newFrame row.id input
  refine ⟨_, hot, fun record recorded => ?_⟩
  obtain ⟨payload, archived, recordEq⟩ := recorded
  have same : payload.members = redactPayload words none input.rawPayload.members := by
    rw [eq, archivedPayload_eq] at archived
    exact (Option.some.inj archived).symm
  rw [recordEq, frame_of_recorded, same]
  simp only [ProviderRawFrame.canonical, hotFrame, sortedMembers_sortedMembers]

theorem getProviderRawFrame_hot {store : FrameStore} {files : ArchiveFiles} (hot : row ∈ store.frames) :
    getProviderRawFrame sha256 store files row.id = rowToProviderRawFrame row := by
  rw [getProviderRawFrame, Keyed.find?_eq_some_iff.mpr ⟨hot, rfl⟩]

theorem getProviderRawFrame_shelved {store : FrameStore} {files : ArchiveFiles}
    (cold : store.frames.find? row.id = none) {record : List (String × Json)} {entry : IndexRow}
    {archive : ArchiveRow} (shelved : Shelved words sha256 store files row record entry archive) :
    getProviderRawFrame sha256 store files row.id =
      some (archiveRecordToProviderRawFrame record) := by
  rw [getProviderRawFrame, cold]
  rw [shelved.read]

end Reading

namespace Retention

variable {words : WordClass} {sha256 : List Char → String} {texts : Set (List Char)}
  {lifetime : Nat} {state next : Retention}

theorem Change.old_rows (sound : Sound words sha256 texts state)
    (change : Change words sha256 texts state next) :
    state.frames.lastId ≤ next.frames.lastId ∧
      ∀ row ∈ next.frames.frames, row.id ≤ state.frames.lastId → row ∈ state.frames.frames := by
  cases change with
  | files frames =>
      rw [frames]
      exact ⟨le_rfl, fun row member _ => member⟩
  | install frames =>
      rw [frames]
      exact ⟨le_rfl, fun row member _ => member⟩
  | append input frames =>
      obtain ⟨_, _, eq⟩ := FrameStore.appendProviderRawFrame_eq words sound.held.fresh input
      refine ⟨by rw [frames, eq]; exact Nat.le_succ _, fun row member old => ?_⟩
      rw [frames] at member
      rcases (FrameStore.mem_appendProviderRawFrame sound.held.fresh input row).mp member with
        rfl | stored
      · exact absurd old (Nat.not_succ_le_self _)
      · exact stored
  | commit batch manifest prepared hot present sealed valid moved =>
      obtain ⟨lastId, _⟩ := archives_commit moved
      exact ⟨lastId.ge, fun row member _ => ((FrameStore.mem_archived moved row).mp member).1⟩
  | mark target now due past frames =>
      rw [frames]
      exact ⟨le_rfl, fun row member _ => member⟩
  | drop target dead frames =>
      rw [frames]
      exact ⟨le_rfl, fun row member _ => member⟩

theorem old_rows_after (apart : Set.InjOn sha256 texts) (events : List RetentionEvent)
    (named : archiveTexts words sha256 lifetime events ⊆ texts) {earlier : List RetentionEvent}
    (before : earlier <+: events) :
    (after words sha256 lifetime earlier).frames.lastId ≤
        (after words sha256 lifetime events).frames.lastId ∧
      ∀ row ∈ (after words sha256 lifetime events).frames.frames,
        row.id ≤ (after words sha256 lifetime earlier).frames.lastId →
          row ∈ (after words sha256 lifetime earlier).frames.frames := by
  induction events using List.reverseRecOn with
  | nil =>
      rw [List.prefix_nil.mp before]
      exact ⟨le_rfl, fun row member _ => member⟩
  | append_singleton events event ih =>
      rcases List.prefix_concat_iff.mp before with rfl | inside
      · exact ⟨le_rfl, fun row member _ => member⟩
      · obtain ⟨left, here⟩ := archiveTexts_concat named
        have sound := sound_after apart events left
        obtain ⟨grown, old⟩ := (change_step sound apart event here).1.old_rows sound
        obtain ⟨earlierGrown, earlierOld⟩ := ih left inside
        rw [after_concat]
        exact ⟨earlierGrown.trans grown, fun row member given =>
          earlierOld row (old row member (given.trans earlierGrown)) given⟩

/-- Whatever has become of a frame, a reader gets what the hot row gave, until the
archive is retired. -/
theorem archived_frame_reads_alike (words : WordClass) (sha256 : List Char → String)
    (lifetime : Nat) (events : List RetentionEvent)
    (collisionFree : Set.InjOn sha256 (archiveTexts words sha256 lifetime events))
    (earlier : List RetentionEvent) (before : earlier <+: events) (row : RawFrameRow)
    (stored : row ∈ (after words sha256 lifetime earlier).frames.frames) :
    ∃ frame, getProviderRawFrame sha256 (after words sha256 lifetime earlier).frames
        (after words sha256 lifetime earlier).files row.id = some frame ∧
      (RetiredIn words sha256 lifetime events row.id ∨
        ∃ later, getProviderRawFrame sha256 (after words sha256 lifetime events).frames
            (after words sha256 lifetime events).files row.id = some later ∧
          later.canonical = frame.canonical) := by
  have earlierTexts : archiveTexts words sha256 lifetime earlier ⊆
      archiveTexts words sha256 lifetime events := by
    rintro text ⟨moment, inside, batch⟩
    exact ⟨moment, inside.trans before, batch⟩
  have sound := sound_after collisionFree earlier earlierTexts
  have written := sound.written row stored
  obtain ⟨frame, hot, archived⟩ := archived_canonical sha256 written
  refine ⟨frame, (getProviderRawFrame_hot stored).trans hot, ?_⟩
  cases found : (after words sha256 lifetime events).frames.frames.find? row.id with
  | some other =>
      -- the hot row under this id is still the same one
      obtain ⟨member, sameId⟩ := Keyed.find?_eq_some_iff.mp found
      have old := (old_rows_after collisionFree events subset_rfl before).2 other member
        (sameId ▸ sound.held.fresh row stored)
      have same : other = row :=
        (after words sha256 lifetime earlier).frames.frames.eq_of_key old stored sameId
      refine .inr ⟨frame, ?_, rfl⟩
      rw [← sameId, getProviderRawFrame_hot member, same]
      exact hot
  | none =>
      rcases placed_after collisionFree events subset_rfl before stored with
        stays | ⟨record, entry, archive, shelved⟩ | retired
      · exact absurd rfl (Keyed.find?_eq_none_iff.mp found row stays)
      · exact .inr ⟨_, getProviderRawFrame_shelved found shelved, archived record shelved.recorded⟩
      · exact .inl retired

theorem archived_frame_reads_alike_once :
    let earlier : List RetentionEvent := [.install, .append keptInput]
    let events : List RetentionEvent := earlier ++ [.begin false none, .batch [1] "2024-01-01",
      .advance true, .advance true, .advance true]
    ∃ frame, getProviderRawFrame keptDigest (after plainWords keptDigest 5 earlier).frames
        (after plainWords keptDigest 5 earlier).files 1 = some frame ∧
      (RetiredIn plainWords keptDigest 5 events 1 ∨
        ∃ later, getProviderRawFrame keptDigest (after plainWords keptDigest 5 events).frames
            (after plainWords keptDigest 5 events).files 1 = some later ∧
          later.canonical = frame.canonical) := by
  intro earlier events
  refine archived_frame_reads_alike plainWords keptDigest 5 events keptDigest_injective.injOn earlier
    (List.prefix_append _ _) (FrameStore.newFrame plainWords 1 keptInput) ?_
  exact (FrameStore.mem_appendProviderRawFrame held_initial.fresh keptInput _).mpr (.inl rfl)

end Retention

end Wlcodex.Runtime
