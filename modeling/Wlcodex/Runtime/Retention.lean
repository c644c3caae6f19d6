import Wlcodex.Runtime.Archive
import Wlcodex.Runtime.Maintenance

namespace Wlcodex.Runtime

open Wlcodex.Lib
open Wlcodex.Relay (strip)

/-! `RuntimeRawFrameRetention` as a machine. -/

/-- A row of `native_agent_sessions`. -/
structure AgentSession where
  provider : String
  providerEngine : String
  nativeSessionId : String
  status : String
  lastTurnId : String
  deriving DecidableEq

structure NativeTurnGuardObservation where
  observedCodexTurns : List (String × String) := []
  activeCodexTurns : List (String × String) := []
  unverifiedCodexSessions : List String := []
  allCodexSessionsUnverified : Bool := false
  deriving DecidableEq

structure GuardTables where
  agentRuns : List AgentRun := []
  agentSessions : List AgentSession := []
  maintenance : MaintenanceDb := {}

def activeRunStatuses : List String := ["running", "waiting_approval", "paused"]

def activeNativeSessionStatuses : List String :=
  ["running", "active", "waiting_user", "waiting_approval", "paused"]

structure TurnGuards where
  turns : List TurnKey := []
  sessions : List (String × String × String) := []

namespace TurnGuards

def addRow (guards : TurnGuards) (provider providerEngine nativeSessionId nativeTurnId : String) :
    TurnGuards :=
  if strip nativeTurnId ≠ "" then
    { guards with
      turns := ⟨provider, providerEngine, nativeSessionId, strip nativeTurnId⟩ :: guards.turns }
  else
    { guards with sessions := (provider, providerEngine, nativeSessionId) :: guards.sessions }

def lookupLast (pairs : List (String × String)) (key : String) : Option String :=
  pairs.reverse.lookup key

def addCodexSession (observation : Option NativeTurnGuardObservation) (guards : TurnGuards)
    (session : CodexSession) : TurnGuards :=
  let threadId := session.nativeThreadId
  let cachedTurnId := strip session.lastTurnId
  match observation with
  | none => guards.addRow "codex" "app-server" threadId cachedTurnId
  | some observed =>
      if observed.allCodexSessionsUnverified ∨ threadId ∈ observed.unverifiedCodexSessions then
        guards.addRow "codex" "app-server" threadId ""
      else
        match lookupLast observed.activeCodexTurns threadId with
        | some activeTurnId => guards.addRow "codex" "app-server" threadId activeTurnId
        | none =>
            if lookupLast observed.observedCodexTurns threadId = some cachedTurnId then guards
            else guards.addRow "codex" "app-server" threadId cachedTurnId

end TurnGuards

namespace GuardTables

variable (tables : GuardTables) (observation : Option NativeTurnGuardObservation)

/-- `_active_native_turn_guards`.  The statuses are compared as they are stored. -/
def activeNativeTurnGuards : TurnGuards :=
  let sessions := tables.agentSessions.filter fun session =>
    session.status ∈ activeNativeSessionStatuses
  let codex := tables.maintenance.codexSessions.filter fun session =>
    session.status ∈ activeNativeSessionStatuses
  codex.foldl (TurnGuards.addCodexSession observation)
    (sessions.foldl (fun guards session => guards.addRow session.provider session.providerEngine
      session.nativeSessionId session.lastTurnId) {})

def ActiveFrame (row : RawFrameRow) : Prop :=
  (∃ runId ∈ row.agentRunId, ∃ run ∈ tables.agentRuns, run.id = runId ∧
      run.status ∈ activeRunStatuses) ∨
    (row.turn.provider, row.turn.providerEngine, row.turn.nativeSessionId) ∈
      (tables.activeNativeTurnGuards observation).sessions ∨
    row.turn ∈ (tables.activeNativeTurnGuards observation).turns

instance (row : RawFrameRow) : Decidable (tables.ActiveFrame observation row) := by
  unfold ActiveFrame
  infer_instance

def maintenanceNativeTurnObservation : NativeTurnGuardObservation :=
  let db := tables.maintenance
  if db.window.submissionsFrozen = false ∨ db.window.openedAt = "" then
    { allCodexSessionsUnverified := true }
  else
    (db.candidates.filter fun candidate =>
      candidate.maintenanceOpenedAt = db.window.openedAt ∧ candidate.provider = "codex").foldl
        (fun observed candidate =>
          let threadId := strip candidate.nativeThreadId
          let cached := ((db.codexSessions.find? fun session =>
            session.nativeThreadId = candidate.nativeThreadId).map CodexSession.lastTurnId).getD ""
          let probe := db.probes.find? fun probe =>
            probe.maintenanceOpenedAt = candidate.maintenanceOpenedAt ∧
              probe.provider = candidate.provider ∧
              probe.nativeThreadId = candidate.nativeThreadId
          if threadId = "" then observed
          else
            match probe.map TurnProbe.verdict with
            | some .terminal =>
                { observed with
                  observedCodexTurns := observed.observedCodexTurns ++ [(threadId, strip cached)] }
            | some .active =>
                { observed with
                  activeCodexTurns := observed.activeCodexTurns ++
                    [(threadId, strip ((probe.map TurnProbe.nativeTurnId).getD ""))] }
            | _ =>
                { observed with
                  unverifiedCodexSessions := observed.unverifiedCodexSessions ++ [threadId] }) {}

end GuardTables

/-- What one call of `run` fixes at its start. -/
structure RunContext where
  now : Instant
  requireMaintenance : Bool
  observation : Option NativeTurnGuardObservation

structure Batch where
  rows : List RawFrameRow
  bytes : List Char
  manifest : ArchiveManifest

structure PurgeTarget where
  archiveId : String
  relativePath : String
  deriving DecidableEq

inductive Worker where
  | idle
  | running (context : RunContext)
  | batched (context : RunContext) (batch : Batch)
  | archived (context : RunContext) (batch : Batch)
  | sealed (context : RunContext) (batch : Batch) (manifest : ArchiveManifest)
  | purging (context : RunContext) (targets : List PurgeTarget)
  | tombstoned (context : RunContext) (target : PurgeTarget) (targets : List PurgeTarget)
  | unlinked (context : RunContext) (target : PurgeTarget) (failed : Bool)
      (targets : List PurgeTarget)
  | cleared (context : RunContext) (target : PurgeTarget) (failed : Bool)
      (targets : List PurgeTarget)

structure Retention where
  frames : FrameStore
  tables : GuardTables
  files : ArchiveFiles
  worker : Worker
  clock : Instant

inductive RetentionEvent where
  /-- A provider takes the next number of its turn and appends a frame. -/
  | record (input : FrameInput)
  /-- A provider appends a frame under a number of its own. -/
  | append (input : FrameInput)
  /-- Runs, sessions and the maintenance window change. -/
  | update (tables : GuardTables)
  | elapse (time : Nat)
  | install
  /-- `run` begins.  The observer is the scheduled one; maintenance has its own. -/
  | begin (requireMaintenance : Bool) (observer : Option NativeTurnGuardObservation)
  /-- `_archive_batch` reads these frames.  Which frames are old enough is open. -/
  | batch (ids : List Nat) (archiveDate : String)
  /-- `_purge_expired_archives` reads the expired archives. -/
  | purge
  /-- The next durable step of the worker; it may fail. -/
  | advance (ok : Bool)
  | crash

namespace Retention

variable (words : WordClass) (sha256 : List Char → String) (lifetime : Nat)

variable (state : Retention)

def safeRows (context : RunContext) (ids : List Nat) : List RawFrameRow :=
  ((state.frames.frames.rows.filter fun row => row.id ∈ ids).filter fun row =>
    ¬ state.tables.ActiveFrame context.observation row).insertionSort fun first second =>
      first.id ≤ second.id

/-- The batch of these rows; `none` is a payload that is not JSON. -/
def prepare (context : RunContext) (rows : List RawFrameRow) (archiveDate : String) :
    Option Batch :=
  (rows.mapM (archiveRecord words sha256)).map fun records =>
    let bytes := archiveBytes records
    { rows, bytes, manifest := batchManifest rows (sha256 bytes) archiveDate context.now lifetime }

/-- `_archive_batch` up to its first durable step. -/
def beginBatch (context : RunContext) (ids : List Nat) (archiveDate : String) :
    Worker :=
  let rows := state.safeRows context ids
  if rows = [] then .running context
  else
    match prepare words sha256 lifetime context rows archiveDate with
    | none => .idle
    | some batch => .batched context batch

/-- `_ensure_archive_files`, the archive: an existing file must be the same
archive. -/
def ensureArchive (context : RunContext) (batch : Batch) (ok : Bool) :
    Retention :=
  let path := batch.manifest.relativePath
  match state.files.archives path with
  | some content =>
      if (iterArchiveRecords sha256 content batch.manifest.archiveId).isSome then
        { state with worker := .archived context batch }
      else { state with worker := .idle }
  | none =>
      if ok then
        { state with
          files := { state.files with
            archives := Function.update state.files.archives path (some batch.bytes) }
          worker := .archived context batch }
      else { state with worker := .idle }

/-- `_assert_manifest_matches` on the fields that a retry may not change. -/
def SameArchive (existing manifest : ArchiveManifest) : Prop :=
  { existing with createdAt := manifest.createdAt, expiresAt := manifest.expiresAt } = manifest

instance (existing manifest : ArchiveManifest) : Decidable (SameArchive existing manifest) := by
  unfold SameArchive
  infer_instance

/-- `_ensure_archive_files`, the manifest: a retry keeps the one that is there. -/
def ensureManifest (context : RunContext) (batch : Batch) (ok : Bool) :
    Retention :=
  let path := batch.manifest.relativePath
  match state.files.manifests path with
  | some existing =>
      if ManifestValid existing batch.manifest.archiveId path ∧
          SameArchive existing batch.manifest then
        { state with worker := .sealed context batch existing }
      else { state with worker := .idle }
  | none =>
      if ok then
        { state with
          files := { state.files with
            manifests := Function.update state.files.manifests path (some batch.manifest) }
          worker := .sealed context batch batch.manifest }
      else { state with worker := .idle }

/-- The transaction of `_archive_batch`, with its two checks. -/
def moveBatch (context : RunContext) (batch : Batch)
    (manifest : ArchiveManifest) (ok : Bool) : Retention :=
  if ok = false ∨ (context.requireMaintenance ∧ ¬ state.tables.maintenance.Ready) then
    { state with worker := .idle }
  else if ∃ row ∈ batch.rows, state.tables.ActiveFrame context.observation row then
    { state with worker := .running context }
  else
    match state.frames.archiveRows batch.rows manifest with
    | none => { state with worker := .idle }
    | some frames => { state with frames, worker := .running context }

def expiredArchives (now : Instant) : List PurgeTarget :=
  (state.frames.archives.rows.filter fun row => row.manifest.expiresAt ≤ now).map fun row =>
    ⟨row.archiveId, row.manifest.relativePath⟩

def advance (ok : Bool) : Retention :=
  match state.worker with
  | .idle => state
  | .running _ => state
  | .batched context batch => state.ensureArchive sha256 context batch ok
  | .archived context batch => state.ensureManifest context batch ok
  | .sealed context batch manifest => state.moveBatch context batch manifest ok
  | .purging context [] => { state with worker := .running context }
  | .purging context (target :: targets) =>
      if ok then
        { state with
          frames := state.frames.markPurge target.archiveId context.now
          worker := .tombstoned context target targets }
      else { state with worker := .idle }
  | .tombstoned context target targets =>
      if ok then
        { state with
          files := { state.files with
            archives := Function.update state.files.archives target.relativePath none }
          worker := .unlinked context target false targets }
      else { state with worker := .unlinked context target true targets }
  | .unlinked context target failed targets =>
      if ok then
        { state with
          files := { state.files with
            manifests := Function.update state.files.manifests target.relativePath none }
          worker := .cleared context target failed targets }
      else { state with worker := .cleared context target true targets }
  | .cleared context target failed targets =>
      if failed then { state with worker := .purging context targets }
      else if ok then
        { state with
          frames := state.frames.dropArchive target.archiveId
          worker := .purging context targets }
      else { state with worker := .idle }

def observationFor (requireMaintenance : Bool)
    (observer : Option NativeTurnGuardObservation) : Option NativeTurnGuardObservation :=
  if requireMaintenance then some state.tables.maintenanceNativeTurnObservation else observer

def step : RetentionEvent → Retention
  | .record input => { state with frames := state.frames.recordFrame words input }
  | .append input => { state with frames := state.frames.appendProviderRawFrame words input }
  | .update tables => { state with tables }
  | .elapse time => { state with clock := state.clock + time }
  | .install => { state with frames := state.frames.applyRetentionSchema }
  | .begin requireMaintenance observer =>
      if requireMaintenance ∧ ¬ state.tables.maintenance.Ready then { state with worker := .idle }
      else
        let observation := state.observationFor requireMaintenance observer
        { state with worker := .running ⟨state.clock, requireMaintenance, observation⟩ }
  | .batch ids archiveDate =>
      match state.worker with
      | .running context =>
          { state with worker := state.beginBatch words sha256 lifetime context ids archiveDate }
      | _ => state
  | .purge =>
      match state.worker with
      | .running context =>
          if context.requireMaintenance ∧ ¬ state.tables.maintenance.Ready then
            { state with worker := .idle }
          else
            { state with worker := .purging context (state.expiredArchives context.now) }
      | _ => state
  | .advance ok => state.advance sha256 ok
  | .crash => { state with worker := .idle }

def initial : Retention :=
  { frames :=
      { frames := Keyed.empty, lastId := 0, installed := false, cursors := Keyed.empty
        archives := Keyed.empty, index := Keyed.empty }
    tables := {}, files := ⟨fun _ => none, fun _ => none⟩, worker := .idle, clock := 0 }

def after (events : List RetentionEvent) : Retention :=
  events.foldl (step words sha256 lifetime) initial

end Retention

end Wlcodex.Runtime
