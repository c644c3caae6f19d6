import Wlcodex.Runtime.Retention

namespace Wlcodex.Runtime

open Wlcodex.Lib

/-! What is read back from the file of a batch. -/

section Redacted

variable (words : WordClass) (limit : Option Nat)

theorem keys_redactMembers (members : List (String × Json)) :
    (redactMembers words limit members).map Prod.fst = members.map Prod.fst := by
  induction members with
  | nil => rfl
  | cons member members ih =>
      rw [redactMembers, List.map_cons, List.map_cons, ih]

mutual

theorem wellKeyed_redactPayloadValue : ∀ {value : Json}, value.WellKeyed →
    (redactPayloadValue words limit value).WellKeyed
  | .null, keyed => keyed
  | .bool _, keyed => keyed
  | .int _, keyed => keyed
  | .float _, keyed => keyed
  | .nan, keyed => keyed
  | .infinity _, keyed => keyed
  | .string _, _ => trivial
  | .array items, keyed => by
      rw [redactPayloadValue]
      exact wellKeyed_redactItems keyed
  | .object members, keyed => by
      rw [redactPayloadValue]
      refine ⟨?_, wellKeyed_redactMembers keyed.2⟩
      rw [keys_redactMembers]
      exact keyed.1

theorem wellKeyed_redactItems : ∀ {items : List Json}, Json.WellKeyedItems items →
    Json.WellKeyedItems (redactItems words limit items)
  | [], keyed => keyed
  | _ :: _, keyed => ⟨wellKeyed_redactPayloadValue keyed.1, wellKeyed_redactItems keyed.2⟩

theorem wellKeyed_redactMembers : ∀ {members : List (String × Json)},
    Json.WellKeyedMembers members → Json.WellKeyedMembers (redactMembers words limit members)
  | [], keyed => keyed
  | (key, value) :: members, keyed => by
      rw [redactMembers]
      refine ⟨?_, wellKeyed_redactMembers keyed.2⟩
      dsimp only
      split
      · trivial
      · exact wellKeyed_redactPayloadValue keyed.1

end

/-- `redact_payload` of a dict. -/
def redactObject (object : JsonObject) : JsonObject where
  members := redactPayload words limit object.members
  keyed := by
    have keyed := wellKeyed_redactPayloadValue words limit object.keyed
    rwa [redactPayloadValue] at keyed

end Redacted

section Records

variable (words : WordClass) (sha256 : List Char → String)

/-- The row was written by `append_provider_raw_frame`. -/
def Written (row : RawFrameRow) : Prop := ∃ input, row = FrameStore.newFrame words row.id input

theorem archivedPayload_newFrame (id : Nat) (input : FrameInput) :
    archivedPayload words (FrameStore.newFrame words id input) =
      some (redactObject words none (redactObject words none input.rawPayload)).members := by
  have loaded : Json.loads (FrameStore.newFrame words id input).rawPayloadJson =
      some (.object (redactObject words none input.rawPayload).members) :=
    Json.loads_write .spaced (redactObject words none input.rawPayload).keyed
  rw [archivedPayload, loaded, Option.map_some]
  rfl

theorem keys_recordOf (row : RawFrameRow) (payload : List (String × Json)) :
    ((recordOf sha256 row payload).map Prod.fst).Nodup := by
  have keys : (recordOf sha256 row payload).map Prod.fst =
      ["format_version", "id", "provider", "provider_engine", "native_session_id",
        "native_turn_id", "sequence", "raw_kind", "raw_payload", "payload_sha256", "occurred_at",
        "conversation_id", "orchestration_run_id", "agent_run_id", "task_id"] := rfl
  rw [keys]
  decide

theorem wellKeyed_optionalInt (value : Option Int) : (optionalInt value).WellKeyed := by
  cases value <;> trivial

theorem wellKeyed_recordOf (row : RawFrameRow) (payload : JsonObject) :
    (Json.object (recordOf sha256 row payload.members)).WellKeyed := by
  refine ⟨keys_recordOf sha256 row payload.members, ?_⟩
  rw [Json.wellKeyedMembers_iff]
  intro member inside
  simp only [recordOf, List.mem_cons, List.not_mem_nil, or_false] at inside
  rcases inside with rfl | rfl | rfl | rfl | rfl | rfl | rfl | rfl | rfl | rfl | rfl | rfl | rfl |
    rfl | rfl
  all_goals first
    | exact payload.keyed
    | exact wellKeyed_optionalInt _
    | trivial

variable {words sha256}

variable {records : List (List (String × Json))} {row : RawFrameRow}

variable (sha256) in
theorem archiveRecord_written (written : Written words row) :
    ∃ payload : JsonObject, archivedPayload words row = some payload.members ∧
      archiveRecord words sha256 row = some (recordOf sha256 row payload.members) := by
  obtain ⟨input, eq⟩ := written
  have payload := archivedPayload_newFrame words row.id input
  rw [← eq] at payload
  exact ⟨_, payload, by rw [archiveRecord, payload, Option.map_some]⟩

def Recorded (words : WordClass) (sha256 : List Char → String) (row : RawFrameRow)
    (record : List (String × Json)) : Prop :=
  ∃ payload : JsonObject, archivedPayload words row = some payload.members ∧
    record = Json.sortedMembers (recordOf sha256 row payload.members)

theorem Recorded.lookup {payload : JsonObject} {key : String} {value : Json}
    (member : (key, value) ∈ recordOf sha256 row payload.members) :
    member? (Json.sortedMembers (recordOf sha256 row payload.members)) key = some value.sortKeys :=
  Json.lookup_sortedMembers (keys_recordOf sha256 row payload.members) member

theorem Recorded.id {record : List (String × Json)}
    (recorded : Recorded words sha256 row record) : member? record "id" = some (.int row.id) := by
  obtain ⟨payload, _, eq⟩ := recorded
  have inside : ("id", Json.int row.id) ∈ recordOf sha256 row payload.members := by simp [recordOf]
  have found := Recorded.lookup inside
  rwa [Json.sortKeys_int, ← eq] at found

theorem mapM_archiveRecord {rows : List RawFrameRow} (written : ∀ row ∈ rows, Written words row)
    (recorded : rows.mapM (archiveRecord words sha256) = some records) :
    (∀ record ∈ records, (Json.object record).WellKeyed) ∧
      List.Forall₂ (Recorded words sha256) rows (records.map Json.sortedMembers) := by
  induction rows generalizing records with
  | nil =>
      cases recorded
      refine ⟨?_, .nil⟩
      intro record member
      cases member
  | cons row rows ih =>
      rw [List.forall_mem_cons] at written
      obtain ⟨payload, archived, own⟩ := archiveRecord_written sha256 written.1
      cases later : rows.mapM (archiveRecord words sha256) with
      | none => simp [List.mapM_cons, own, later] at recorded
      | some rest =>
          obtain ⟨keyed, aligned⟩ := ih written.2 later
          rw [List.mapM_cons, own, later] at recorded
          cases recorded
          refine ⟨List.forall_mem_cons.mpr ⟨wellKeyed_recordOf sha256 row payload, keyed⟩, ?_⟩
          exact .cons ⟨payload, archived, rfl⟩ aligned

variable (sha256) in
theorem iterArchiveRecords_archiveBytes (keyed : ∀ record ∈ records, (Json.object record).WellKeyed) :
    iterArchiveRecords sha256 (archiveBytes records) (sha256 (archiveBytes records)) =
      some (records.map Json.sortedMembers) := by
  have lines := Json.fileLines_documents .compact (records.map fun record =>
    (Json.object record).sortKeys)
  rw [List.flatMap_map, List.map_map] at lines
  rw [iterArchiveRecords, if_neg (not_not.mpr rfl)]
  unfold archiveBytes archiveLine
  rw [lines, List.mapM_map]
  apply mapM_of_forall
  intro record member
  dsimp only [Function.comp_apply]
  rw [Json.loads_line .compact (Json.wellKeyed_sortKeys (keyed record member)),
    Json.sortKeys_object]

theorem readArchiveRecordAt_batch {rows : List RawFrameRow} (written : ∀ row ∈ rows, Written words row)
    (recorded : rows.mapM (archiveRecord words sha256) = some records) {position : Nat} (placed : rows[position]? = some row) :
    ∃ record, Recorded words sha256 row record ∧
      readArchiveRecordAt sha256 (archiveBytes records) (sha256 (archiveBytes records))
        (position + 1) = some record := by
  obtain ⟨keyed, aligned⟩ := mapM_archiveRecord written recorded
  obtain ⟨inside, rowEq⟩ := List.getElem?_eq_some_iff.mp placed
  have within : position < (records.map Json.sortedMembers).length := aligned.length_eq ▸ inside
  refine ⟨(records.map Json.sortedMembers)[position], ?_, ?_⟩
  · have pair := aligned.get inside within
    rwa [List.get_eq_getElem, List.get_eq_getElem, rowEq] at pair
  · rw [readArchiveRecordAt, if_neg (Nat.succ_ne_zero position),
      iterArchiveRecords_archiveBytes sha256 keyed, Option.bind_some, Nat.add_sub_cancel]
    exact List.getElem?_eq_getElem within

theorem ids_of_recorded {first second : List RawFrameRow}
    (firstAligned : List.Forall₂ (Recorded words sha256) first records)
    (secondAligned : List.Forall₂ (Recorded words sha256) second records) :
    first.map RawFrameRow.id = second.map RawFrameRow.id := by
  induction firstAligned generalizing second with
  | nil =>
      cases secondAligned
      rfl
  | cons own aligned ih =>
      cases secondAligned with
      | cons other rest =>
          have same := own.id.symm.trans other.id
          simp only [Option.some.injEq, Json.int.injEq, Int.natCast_inj] at same
          rw [List.map_cons, List.map_cons, same, ih rest]

theorem ids_of_archiveBytes {first second : List RawFrameRow}
    (firstWritten : ∀ row ∈ first, Written words row) (secondWritten : ∀ row ∈ second, Written words row)
    {firstRecords secondRecords : List (List (String × Json))}
    (firstRecorded : first.mapM (archiveRecord words sha256) = some firstRecords)
    (secondRecorded : second.mapM (archiveRecord words sha256) = some secondRecords)
    (same : archiveBytes firstRecords = archiveBytes secondRecords) :
    first.map RawFrameRow.id = second.map RawFrameRow.id := by
  obtain ⟨firstKeyed, firstAligned⟩ := mapM_archiveRecord firstWritten firstRecorded
  obtain ⟨secondKeyed, secondAligned⟩ := mapM_archiveRecord secondWritten secondRecorded
  have firstRead := iterArchiveRecords_archiveBytes sha256 firstKeyed
  have secondRead := iterArchiveRecords_archiveBytes sha256 secondKeyed
  rw [same, secondRead, Option.some.injEq] at firstRead
  rw [firstRead] at secondAligned
  exact ids_of_recorded firstAligned secondAligned

end Records

section Shelf

variable (words : WordClass) (sha256 : List Char → String)

structure Shelved (store : FrameStore) (files : ArchiveFiles) (row : RawFrameRow)
    (record : List (String × Json)) (entry : IndexRow) (archive : ArchiveRow) : Prop where
  recorded : Recorded words sha256 row record
  indexed : store.index.find? row.id = some entry
  listed : store.archives.find? entry.archiveId = some archive
  live : archive.purgePendingAt = none
  hashed : archive.manifest.sha256 = archive.archiveId
  sealed : ∃ manifest, files.manifests archive.manifest.relativePath = some manifest ∧
    ManifestValid manifest archive.archiveId archive.manifest.relativePath
  placed : ∃ content, files.archives archive.manifest.relativePath = some content ∧
    readArchiveRecordAt sha256 content archive.archiveId entry.archiveLine = some record

variable {words sha256} {store : FrameStore} {files : ArchiveFiles} {row : RawFrameRow}
  {record : List (String × Json)} {entry : IndexRow} {archive : ArchiveRow}

theorem Recorded.payload (recorded : Recorded words sha256 row record) :
    ∃ payload : JsonObject, archivedPayload words row = some payload.members ∧
      payloadObject ((member? record "raw_payload").getD .null) =
        Json.sortedMembers payload.members ∧
      member? record "payload_sha256" =
        some (.string (payloadSha256 sha256 (Json.sortedMembers payload.members))) := by
  obtain ⟨payload, archived, eq⟩ := recorded
  have stored : ("raw_payload", Json.object payload.members) ∈
      recordOf sha256 row payload.members := by simp [recordOf]
  have hashed : ("payload_sha256", Json.string (payloadSha256 sha256 payload.members)) ∈
      recordOf sha256 row payload.members := by simp [recordOf]
  have foundPayload := Recorded.lookup stored
  have foundHash := Recorded.lookup hashed
  rw [← eq, Json.sortKeys_object] at foundPayload
  rw [← eq, Json.sortKeys_string] at foundHash
  refine ⟨payload, archived, ?_, ?_⟩
  · rw [foundPayload]
    rfl
  · rw [foundHash, payloadSha256, payloadSha256, ← Json.sortKeys_object, Json.sortKeys_sortKeys]

theorem Shelved.read (shelved : Shelved words sha256 store files row record entry archive) :
    readArchivedProviderRawFrame sha256 store files row.id = .found record := by
  obtain ⟨manifest, sealed, valid⟩ := shelved.sealed
  obtain ⟨content, present, placed⟩ := shelved.placed
  obtain ⟨payload, _, payloadRead, hashRead⟩ := shelved.recorded.payload
  rw [readArchivedProviderRawFrame, shelved.indexed]
  dsimp only
  rw [shelved.listed]
  dsimp only
  rw [shelved.live, if_neg (by decide), if_neg (not_not.mpr shelved.hashed), sealed, present]
  dsimp only
  rw [if_neg (not_not.mpr valid), placed]
  dsimp only
  rw [payloadRead, shelved.recorded.id, hashRead]
  dsimp only
  rw [if_neg (not_not.mpr rfl), if_neg (not_not.mpr rfl)]

end Shelf

end Wlcodex.Runtime
