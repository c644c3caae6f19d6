import Wlcodex.Lib.JsonLines
import Wlcodex.Runtime.RawFrames

namespace Wlcodex.Runtime

open Wlcodex.Lib

/-! Archive files: gzip JSONL, named by the hash of their content. -/

def archiveFormatVersion : Nat := 1

/-- A frame as `get_provider_raw_frame` returns it. -/
structure ProviderRawFrame where
  id : Int
  provider : String
  providerEngine : String
  nativeSessionId : String
  nativeTurnId : String
  sequence : Int
  rawKind : String
  rawPayload : List (String × Json)
  occurredAt : String
  conversationId : Option Int
  orchestrationRunId : Option Int
  agentRunId : Option Int
  taskId : Option Int

structure ArchiveFiles where
  archives : String → Option (List Char)
  manifests : String → Option ArchiveManifest

/-- `json.loads`, and the value wrapped in a dict if it is none. -/
def payloadObject (value : Json) : List (String × Json) :=
  match value with
  | .object members => members
  | other => [("value", other)]

def optionalInt : Option Int → Json
  | none => .null
  | some value => .int value

section Writing

variable (words : WordClass) (sha256 : List Char → String)

def payloadSha256 (payload : List (String × Json)) : String :=
  sha256 (Json.write .compact (Json.object payload).sortKeys)

def archivedPayload (row : RawFrameRow) : Option (List (String × Json)) :=
  (Json.loads row.rawPayloadJson).map fun value => redactPayload words none (payloadObject value)

/-- The dict of `_archive_record`. -/
def recordOf (row : RawFrameRow) (payload : List (String × Json)) : List (String × Json) :=
  [ ("format_version", .int archiveFormatVersion),
    ("id", .int row.id),
    ("provider", .string row.turn.provider),
    ("provider_engine", .string row.turn.providerEngine),
    ("native_session_id", .string row.turn.nativeSessionId),
    ("native_turn_id", .string row.turn.nativeTurnId),
    ("sequence", .int row.sequence),
    ("raw_kind", .string row.rawKind),
    ("raw_payload", .object payload),
    ("payload_sha256", .string (payloadSha256 sha256 payload)),
    ("occurred_at", .string row.occurredAt),
    ("conversation_id", optionalInt row.conversationId),
    ("orchestration_run_id", optionalInt row.orchestrationRunId),
    ("agent_run_id", optionalInt row.agentRunId),
    ("task_id", optionalInt row.taskId) ]

/-- `_archive_record`; `none` is a payload that is not JSON. -/
def archiveRecord (row : RawFrameRow) : Option (List (String × Json)) :=
  (archivedPayload words row).map (recordOf sha256 row)

/-- One line of `_archive_bytes`. -/
def archiveLine (record : List (String × Json)) : List Char :=
  Json.write .compact (Json.object record).sortKeys ++ ['\n']

def archiveBytes (records : List (List (String × Json))) : List Char := records.flatMap archiveLine

def archiveRelativePath (archiveDate : String) (minFrameId maxFrameId : Nat) (archiveId : String) :
    String :=
  archiveDate ++ "/provider-raw-frames-v1-" ++ toString minFrameId ++ "-" ++ toString maxFrameId ++
    "-" ++ String.ofList (archiveId.toList.take 16) ++ ".jsonl.gz"

/-- The manifest of a batch that is archived at `now`. -/
def batchManifest (rows : List RawFrameRow) (archiveId archiveDate : String) (now lifetime : Nat) :
    ArchiveManifest :=
  let ids := rows.map RawFrameRow.id
  let times := rows.map RawFrameRow.occurredAt
  let minId := ids.min?.getD 0
  let maxId := ids.max?.getD 0
  { formatVersion := archiveFormatVersion, archiveId, archiveDate
    relativePath := archiveRelativePath archiveDate minId maxId archiveId
    sha256 := archiveId, frameCount := rows.length, minFrameId := minId, maxFrameId := maxId
    minOccurredAt := times.foldl min (times.headD ""), maxOccurredAt := times.foldl max ""
    createdAt := now, expiresAt := now + lifetime }

end Writing

section Reading

variable (sha256 : List Char → String)

/-- `_iter_archive_records`, run to its end: every line is an object, and the hash
of the file is the archive's id. -/
def iterArchiveRecords (content : List Char) (expectedArchiveId : String) :
    Option (List (List (String × Json))) :=
  if sha256 content ≠ expectedArchiveId then none
  else (fileLines content).mapM fun line =>
    match Json.loads line with
    | some (.object members) => some members
    | _ => none

/-- `_read_archive_manifest`: what it requires of a manifest that parses. -/
def ManifestValid (manifest : ArchiveManifest) (archiveId relativePath : String) : Prop :=
  manifest.formatVersion = archiveFormatVersion ∧ manifest.archiveId = archiveId ∧
    manifest.sha256 = archiveId ∧ manifest.relativePath = relativePath

instance (manifest : ArchiveManifest) (archiveId relativePath : String) :
    Decidable (ManifestValid manifest archiveId relativePath) := by
  unfold ManifestValid
  infer_instance

def readArchiveRecordAt (content : List Char) (archiveId : String) (line : Nat) :
    Option (List (String × Json)) :=
  if line = 0 then none
  else (iterArchiveRecords sha256 content archiveId).bind fun records => records[line - 1]?

def member? (record : List (String × Json)) (key : String) : Option Json := record.lookup key

inductive ArchiveRead where
  | missing
  | corrupt
  | found (record : List (String × Json))

def readArchivedProviderRawFrame (store : FrameStore) (files : ArchiveFiles) (frameId : Nat) :
    ArchiveRead :=
  match store.index.find? frameId with
  | none => .missing
  | some entry =>
      match store.archives.find? entry.archiveId with
      | none => .missing
      | some archive =>
          if archive.purgePendingAt.isSome then .missing
          else if archive.manifest.sha256 ≠ archive.archiveId then .corrupt
          else
            match files.manifests archive.manifest.relativePath,
              files.archives archive.manifest.relativePath with
            | some manifest, some content =>
                if ¬ ManifestValid manifest archive.archiveId archive.manifest.relativePath then
                  .corrupt
                else
                  match readArchiveRecordAt sha256 content archive.archiveId entry.archiveLine with
                  | none => .corrupt
                  | some record =>
                      let payload := payloadObject ((member? record "raw_payload").getD .null)
                      match member? record "id", member? record "payload_sha256" with
                      | some (.int id), some (.string digest) =>
                          if id ≠ frameId then .corrupt
                          else if digest ≠ payloadSha256 sha256 payload then .corrupt
                          else .found record
                      | _, _ => .corrupt
            | _, _ => .corrupt

def textOf : Option Json → String
  | some (.string text) => text
  | _ => ""

def intOf : Option Json → Int
  | some (.int value) => value
  | _ => 0

def optionalIntOf : Option Json → Option Int
  | some (.int value) => some value
  | _ => none

/-- `_archive_record_to_provider_raw_frame`, on a record as archives hold it. -/
def archiveRecordToProviderRawFrame (record : List (String × Json)) : ProviderRawFrame :=
  { id := intOf (member? record "id")
    provider := textOf (member? record "provider")
    providerEngine := textOf (member? record "provider_engine")
    nativeSessionId := textOf (member? record "native_session_id")
    nativeTurnId := textOf (member? record "native_turn_id")
    sequence := intOf (member? record "sequence")
    rawKind := textOf (member? record "raw_kind")
    rawPayload := payloadObject ((member? record "raw_payload").getD .null)
    occurredAt := textOf (member? record "occurred_at")
    conversationId := optionalIntOf (member? record "conversation_id")
    orchestrationRunId := optionalIntOf (member? record "orchestration_run_id")
    agentRunId := optionalIntOf (member? record "agent_run_id")
    taskId := optionalIntOf (member? record "task_id") }

/-- `_row_to_provider_raw_frame`; `none` is a payload that is not JSON. -/
def rowToProviderRawFrame (row : RawFrameRow) : Option ProviderRawFrame :=
  (Json.loads row.rawPayloadJson).map fun value =>
    { id := row.id, provider := row.turn.provider, providerEngine := row.turn.providerEngine
      nativeSessionId := row.turn.nativeSessionId, nativeTurnId := row.turn.nativeTurnId
      sequence := row.sequence, rawKind := row.rawKind, rawPayload := payloadObject value
      occurredAt := row.occurredAt, conversationId := row.conversationId
      orchestrationRunId := row.orchestrationRunId, agentRunId := row.agentRunId
      taskId := row.taskId }

/-- `get_provider_raw_frame`; `none` is any exception. -/
def getProviderRawFrame (store : FrameStore) (files : ArchiveFiles) (frameId : Nat) :
    Option ProviderRawFrame :=
  match store.frames.find? frameId with
  | some row => rowToProviderRawFrame row
  | none =>
      match readArchivedProviderRawFrame sha256 store files frameId with
      | .found record => some (archiveRecordToProviderRawFrame record)
      | _ => none

end Reading

end Wlcodex.Runtime
