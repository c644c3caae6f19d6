import Wlcodex.Lib.JsonRoundTrip
import Wlcodex.Lib.Keyed
import Wlcodex.Runtime.Redaction

namespace Wlcodex.Runtime

open Wlcodex.Lib

/-! The tables of provider raw frames. -/

structure TurnKey where
  provider : String
  providerEngine : String
  nativeSessionId : String
  nativeTurnId : String
  deriving DecidableEq, Repr

/-- UTC microseconds; `isoformat` texts of one length and zone compare alike. -/
abbrev Instant := Nat

/-- A row of `provider_raw_frames`. -/
structure RawFrameRow where
  id : Nat
  turn : TurnKey
  sequence : Int
  rawKind : String
  rawPayloadJson : List Char
  occurredAt : String
  conversationId : Option Int
  orchestrationRunId : Option Int
  agentRunId : Option Int
  taskId : Option Int
  deriving DecidableEq

/-- A row of `provider_raw_frame_sequence_cursors`. -/
structure SequenceCursor where
  turn : TurnKey
  lastSequence : Int
  deriving DecidableEq

structure ArchiveManifest where
  formatVersion : Nat
  archiveId : String
  archiveDate : String
  relativePath : String
  sha256 : String
  frameCount : Nat
  minFrameId : Nat
  maxFrameId : Nat
  minOccurredAt : String
  maxOccurredAt : String
  createdAt : Instant
  expiresAt : Instant
  deriving DecidableEq

/-- A row of `provider_raw_frame_archives`. -/
structure ArchiveRow where
  manifest : ArchiveManifest
  purgePendingAt : Option Instant
  deriving DecidableEq

def ArchiveRow.archiveId (row : ArchiveRow) : String := row.manifest.archiveId

/-- A row of `provider_raw_frame_archive_index`. -/
structure IndexRow where
  frameId : Nat
  archiveId : String
  archiveLine : Nat
  turn : TurnKey
  sequence : Int
  deriving DecidableEq

structure FrameStore where
  frames : Keyed RawFrameRow.id
  /-- `sqlite_sequence`: the greatest id ever given. -/
  lastId : Nat
  /-- Whether the retention tables exist. -/
  installed : Bool
  cursors : Keyed SequenceCursor.turn
  archives : Keyed ArchiveRow.archiveId
  index : Keyed IndexRow.frameId

/-- The frame as `append_provider_raw_frame` gets it. -/
structure FrameInput where
  turn : TurnKey
  sequence : Int
  rawKind : String
  rawPayload : JsonObject
  occurredAt : String
  conversationId : Option Int := none
  orchestrationRunId : Option Int := none
  agentRunId : Option Int := none
  taskId : Option Int := none

namespace FrameStore

/-- `COALESCE(MAX(sequence), 0)`. -/
def maxSequence (sequences : List Int) : Int := sequences.max?.getD 0

def hotSequence (store : FrameStore) (turn : TurnKey) : Int :=
  maxSequence ((store.frames.rows.filter fun row => row.turn = turn).map RawFrameRow.sequence)

def archiveSequence (store : FrameStore) (turn : TurnKey) : Int :=
  maxSequence ((store.index.rows.filter fun row => row.turn = turn).map IndexRow.sequence)

def cursorSequence (store : FrameStore) (turn : TurnKey) : Int :=
  ((store.cursors.find? turn).map SequenceCursor.lastSequence).getD 0

def nextProviderRawFrameSequence (store : FrameStore) (turn : TurnKey) : Int :=
  max (max (store.cursorSequence turn) (store.hotSequence turn)) (store.archiveSequence turn) + 1

/-- `INSERT ... ON CONFLICT DO UPDATE SET last_sequence = MAX(...)`. -/
def raiseCursor (cursors : Keyed SequenceCursor.turn) (turn : TurnKey) (sequence : Int) :
    Keyed SequenceCursor.turn :=
  match cursors.insert? ⟨turn, sequence⟩ with
  | some inserted => inserted
  | none =>
      cursors.update (fun row => row.turn = turn)
        ⟨fun row => { row with lastSequence := max row.lastSequence sequence }, fun _ => rfl⟩

variable (words : WordClass)

def newFrame (id : Nat) (input : FrameInput) : RawFrameRow :=
  { id, turn := input.turn, sequence := input.sequence, rawKind := input.rawKind
    rawPayloadJson := Json.write .spaced (.object (redactPayload words none input.rawPayload.members))
    occurredAt := input.occurredAt, conversationId := input.conversationId
    orchestrationRunId := input.orchestrationRunId, agentRunId := input.agentRunId
    taskId := input.taskId }

/-- `append_provider_raw_frame`.  Without the retention tables the cursor is
skipped. -/
def appendProviderRawFrame (store : FrameStore) (input : FrameInput) : FrameStore :=
  match store.frames.insert? (newFrame words (store.lastId + 1) input) with
  | none => store
  | some frames =>
      { store with
        frames
        lastId := store.lastId + 1
        cursors := if store.installed then raiseCursor store.cursors input.turn input.sequence
          else store.cursors }

def recordFrame (store : FrameStore) (input : FrameInput) : FrameStore :=
  store.appendProviderRawFrame words
    { input with sequence := store.nextProviderRawFrameSequence input.turn }

def applyRetentionSchema (store : FrameStore) : FrameStore := { store with installed := true }

def indexRows (archiveId : String) : Nat → List RawFrameRow → List IndexRow
  | _, [] => []
  | line, row :: rows =>
      { frameId := row.id, archiveId, archiveLine := line, turn := row.turn
        sequence := row.sequence } :: indexRows archiveId (line + 1) rows

/-- `ON CONFLICT(frame_id) DO NOTHING`. -/
def insertIndex (index : Keyed IndexRow.frameId) (row : IndexRow) : Keyed IndexRow.frameId :=
  (index.insert? row).getD index

def insertArchive (archives : Keyed ArchiveRow.archiveId) (manifest : ArchiveManifest) :
    Option (Keyed ArchiveRow.archiveId) :=
  if ∃ row ∈ archives.rows, row.archiveId = manifest.archiveId then some archives
  else if ∃ row ∈ archives.rows, row.manifest.relativePath = manifest.relativePath then none
  else archives.insert? ⟨manifest, none⟩

/-- The transaction of `_archive_batch`: manifest and index in, cursors raised, hot
rows out.  `none` is a rollback. -/
def archiveRows (store : FrameStore) (rows : List RawFrameRow) (manifest : ArchiveManifest) :
    Option FrameStore :=
  if store.installed = false then none
  else
    match insertArchive store.archives manifest with
    | none => none
    | some archives =>
        let wanted := indexRows manifest.archiveId 1 rows
        let index := wanted.foldl insertIndex store.index
        let stored := archives.find? manifest.archiveId
        if (∃ row ∈ stored, row.manifest.relativePath = manifest.relativePath ∧
              row.manifest.sha256 = manifest.archiveId ∧
              row.manifest.frameCount = rows.length) ∧
            ∀ entry ∈ wanted, ∃ found ∈ index.find? entry.frameId,
              found.archiveId = manifest.archiveId ∧ found.archiveLine = entry.archiveLine then
          some
            { store with
              frames := store.frames.erase fun row => row.id ∈ rows.map RawFrameRow.id
              cursors := rows.foldl (fun cursors row => raiseCursor cursors row.turn row.sequence)
                store.cursors
              archives
              index }
        else none

def markPurge (store : FrameStore) (archiveId : String) (now : Instant) : FrameStore :=
  { store with
    archives := store.archives.update (fun row => row.archiveId = archiveId)
      ⟨fun row => { row with purgePendingAt := some (row.purgePendingAt.getD now) },
        fun _ => rfl⟩ }

def dropArchive (store : FrameStore) (archiveId : String) : FrameStore :=
  { store with
    index := store.index.erase fun row => row.archiveId = archiveId
    archives := store.archives.erase fun row => row.archiveId = archiveId }

end FrameStore

end Wlcodex.Runtime
