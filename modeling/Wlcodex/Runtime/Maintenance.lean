import Wlcodex.Relay.Vocabulary
import Mathlib.Data.List.Basic

namespace Wlcodex.Runtime

open Wlcodex.Relay (strip)

/-! `maintenance.py`. -/

/-- SQLite's `lower`, which folds ASCII only. -/
def sqlLower (text : String) : String := String.ofList (text.toList.map Char.toLower)

/-- SQLite's `trim`, which removes spaces only. -/
def sqlTrim (text : String) : String :=
  String.ofList (((text.toList.dropWhile (· == ' ')).reverse.dropWhile (· == ' ')).reverse)

/-- `LIKE '%suffix'`, where the case of ASCII letters does not count. -/
def sqlEndsWith (text suffix : String) : Bool :=
  (sqlLower suffix).toList.isSuffixOf (sqlLower text).toList

structure AgentRun where
  id : Int
  status : String
  role : String
  deriving DecidableEq

/-- A row of `runtime_events`, as far as queued runs go. -/
structure QueueEvent where
  id : Int
  eventType : String
  causationId : Option Int
  deriving DecidableEq

/-- The tables of `_ACTIVE_WORK_QUERIES`: statuses, or how many rows there are. -/
structure WorkTables where
  tasks : List String := []
  approvalRequests : List String := []
  agentRuns : List AgentRun := []
  orchestrationRuns : List String := []
  teamRuns : List String := []
  relayPendingInputs : List String := []
  relayWorkspaceQueueLeases : Nat := 0
  relayWorkspaceQueueLocks : Nat := 0
  relayWorkspaceCreationLeases : Nat := 0
  relayCompletionClaims : List String := []
  relayCompletionEventClaims : List String := []
  runtimeEvents : List QueueEvent := []
  relayMutations : List String := []
  backendRequests : List String := []
  collaborationWorkflowRuns : List String := []

structure CodexSession where
  nativeThreadId : String
  status : String
  lastTurnId : String
  deriving DecidableEq

structure MaintenanceWindow where
  submissionsFrozen : Bool := false
  openedAt : String := ""
  deriving DecidableEq

structure TurnCandidate where
  maintenanceOpenedAt : String
  provider : String
  nativeThreadId : String
  deriving DecidableEq

inductive ProbeVerdict where
  | active
  | terminal
  | unknown
  deriving DecidableEq, Repr

structure TurnProbe where
  maintenanceOpenedAt : String
  provider : String
  nativeThreadId : String
  nativeTurnId : String
  verdict : ProbeVerdict
  deriving DecidableEq

structure MaintenanceDb where
  work : WorkTables := {}
  codexSessions : List CodexSession := []
  window : MaintenanceWindow := {}
  candidates : List TurnCandidate := []
  probes : List TurnProbe := []

namespace WorkTables

def countIn (statuses wanted : List String) : Nat := statuses.countP (· ∈ wanted)

def countNotIn (statuses ended : List String) : Nat := statuses.countP (· ∉ ended)

def legacyQueuedRuns (events : List QueueEvent) : Nat :=
  events.countP fun queued =>
    queued.eventType = "run.queued" ∧ ¬ ∃ outcome ∈ events,
      outcome.causationId = some queued.id ∧
        outcome.eventType ∈ ["run.queued.consumed", "run.started", "run.recovery.required"]

def activeWorkQueries (tables : WorkTables) : List (String × Nat) :=
  [ ("tasks", countNotIn tables.tasks
      ["done", "failed", "aborted", "archived", "completed", "interrupted", "cancelled",
        "superseded"]),
    ("approvals", countIn tables.approvalRequests ["pending"]),
    ("agent_runs", tables.agentRuns.countP fun run =>
      run.status ∉ ["done", "failed", "aborted", "completed", "interrupted", "cancelled",
        "superseded"] ∧ sqlEndsWith run.role "_native" = false),
    ("orchestration_runs", countNotIn tables.orchestrationRuns
      ["passed", "failed", "aborted", "completed", "interrupted", "cancelled", "superseded"]),
    ("Relay task runs", countIn tables.teamRuns ["queued", "running", "waiting_approval", "paused"]),
    ("Relay queued inputs", countIn tables.relayPendingInputs ["pending", "claimed", "steered"]),
    ("Relay queue leases", tables.relayWorkspaceQueueLeases),
    ("Relay workspace queue locks", tables.relayWorkspaceQueueLocks),
    ("Relay workspace creation leases", tables.relayWorkspaceCreationLeases),
    ("Relay completion claims", countIn tables.relayCompletionClaims ["claimed"]),
    ("Relay completion event claims", countIn tables.relayCompletionEventClaims ["claimed"]),
    ("legacy queued runs", legacyQueuedRuns tables.runtimeEvents),
    ("Relay mutations", countIn tables.relayMutations ["in_progress"]),
    ("backend requests", countIn tables.backendRequests ["pending"]),
    ("workflow handoffs", countNotIn tables.collaborationWorkflowRuns
      ["done", "completed", "failed", "error", "aborted", "interrupted", "cancelled",
        "superseded"]) ]

end WorkTables

def nativeTurnCandidateStatuses : List String :=
  ["running", "active", "waiting_user", "waiting_approval", "paused"]

namespace MaintenanceDb

variable (db : MaintenanceDb)

def nativeTurnProbeCandidates : List String :=
  ((db.codexSessions.filter fun session =>
    sqlLower session.status ∈ nativeTurnCandidateStatuses).map CodexSession.nativeThreadId).filter
      fun threadId => strip threadId ≠ ""

def verdict? (openedAt threadId : String) : Option ProbeVerdict :=
  (db.probes.find? fun probe => probe.maintenanceOpenedAt = openedAt ∧ probe.provider = "codex" ∧
    probe.nativeThreadId = threadId).map TurnProbe.verdict

def windowCandidates (openedAt : String) : List String :=
  ((db.candidates.filter fun candidate => candidate.maintenanceOpenedAt = openedAt ∧
    candidate.provider = "codex").map TurnCandidate.nativeThreadId).filter
      fun threadId => strip threadId ≠ ""

def nativeTurnProbeWork (openedAt : String) : List (String × Nat) :=
  let candidates := db.windowCandidates openedAt
  [ ("native Codex turns",
      candidates.countP fun threadId => db.verdict? openedAt threadId = some .active),
    ("native Codex turn probes pending", candidates.countP fun threadId =>
      db.verdict? openedAt threadId ∉ [some .active, some .terminal]) ]

/-- `active_work_counts`: the counts that are not zero. -/
def activeWorkCounts : List (String × Nat) :=
  (db.work.activeWorkQueries ++
    if db.window.submissionsFrozen ∧ db.window.openedAt ≠ "" then
      db.nativeTurnProbeWork db.window.openedAt
    else []).filter fun count => count.2 ≠ 0

/-- `assert_maintenance_window_ready` succeeds. -/
def Ready : Prop :=
  db.window.submissionsFrozen ∧ db.activeWorkCounts = []

instance (db : MaintenanceDb) : Decidable db.Ready := by
  unfold Ready
  infer_instance

/-- `begin_maintenance_window`: an open window keeps its start, and every session
that looks live becomes a candidate. -/
def beginMaintenanceWindow (now : String) : MaintenanceDb :=
  let openedAt :=
    if db.window.submissionsFrozen ∧ db.window.openedAt ≠ "" then db.window.openedAt else now
  let captured := (db.codexSessions.filter fun session =>
    sqlLower session.status ∈ nativeTurnCandidateStatuses ∧
      sqlTrim session.nativeThreadId ≠ "").map fun session =>
        (⟨openedAt, "codex", session.nativeThreadId⟩ : TurnCandidate)
  { db with
    window := ⟨true, openedAt⟩
    candidates := db.candidates ++ captured.filter (· ∉ db.candidates) }

def cancelMaintenanceWindow : MaintenanceDb :=
  { db with window := { db.window with submissionsFrozen := false } }

def recordNativeTurnProbe (openedAt threadId turnId : String)
    (verdict : ProbeVerdict) : MaintenanceDb :=
  let probe : TurnProbe := ⟨openedAt, "codex", strip threadId, strip turnId, verdict⟩
  { db with
    probes := probe :: db.probes.filter fun other =>
      ¬ (other.maintenanceOpenedAt = openedAt ∧ other.provider = "codex" ∧
        other.nativeThreadId = strip threadId) }

end MaintenanceDb

end Wlcodex.Runtime
