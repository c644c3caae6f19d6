import Mathlib.Algebra.Ring.Int.Defs
import Wlcodex.Claude.StreamParser
import Wlcodex.Lib.Latest
import Wlcodex.State.Events

namespace Wlcodex.Relay.TokenStats

open Wlcodex.Lib
open Wlcodex.Claude (startsWith)

/-! `_relay_token_stats` for a task. -/

structure TeamRun where
  id : Nat
  isRelay : Bool

/-- A row of `team_agent_jobs`. -/
structure AgentJob where
  teamRunId : Nat
  role : String
  modelProfile : String
  agentRunId : Option Int

structure Tokens where
  total : Int
  input : Int
  cachedInput : Int
  output : Int
  reasoningOutput : Int

structure UsageRow where
  id : Nat
  taskId : Option Nat
  agentRunId : Option Int
  agent : String
  role : String
  externalTurnId : Option String
  tokens : Tokens
  isToday : Bool

structure RuntimeRow where
  id : Nat
  isUsageUpdated : Bool
  taskId : Option Nat
  agentRunId : Option Int
  actor : Option String
  payload : Dict
  isToday : Bool

structure Tables where
  teamRuns : Keyed TeamRun.id
  agentJobs : List AgentJob
  usageEvents : Keyed UsageRow.id
  runtimeEvents : Keyed RuntimeRow.id

/-- Built-in functions: `str.lower`, `repr`, `json_valid`, and `int(float(text))`, which is zero where
the text is no number, and `none` where it is infinite. -/
structure Builtins where
  lower : String → String
  repr : Json → String
  jsonValid : Dict → Bool
  intOfFloat : FloatLiteral → Int
  intOfText : String → Option Int

namespace Tables

/-- `team_runs.id = ? AND team_runs.route = 'relay'`. -/
def relayRun? (tables : Tables) (id : Option Nat) : Option Nat :=
  (id.bind tables.teamRuns.find?).bind fun run => if run.isRelay then some run.id else none

def jobsOf (tables : Tables) (agentRunId : Option Int) : List (Option AgentJob) :=
  match tables.agentJobs.filter fun job => job.agentRunId.isSome ∧ job.agentRunId = agentRunId with
  | [] => [none]
  | jobs => jobs.map some

/-- `COALESCE(task_run.id, job_run.id)`. -/
def relayTaskId? (tables : Tables) (taskId : Option Nat) (job : Option AgentJob) : Option Nat :=
  (tables.relayRun? taskId).or (tables.relayRun? (job.map AgentJob.teamRunId))

def joined (tables : Tables) (task : Nat) (taskId : Option Nat) (agentRunId : Option Int) : List (Option AgentJob) :=
  (tables.jobsOf agentRunId).filter fun job => tables.relayTaskId? taskId job = some task

end Tables

section Payloads

variable (builtins : Builtins)

/-- `_relay_usage_agent_key`. -/
def usageAgentKey (agent role : String) : String :=
  let value := builtins.lower (strip agent)
  let roleValue := builtins.lower (strip role)
  if value ∈ ["codex", "codex_native", "app-server", "gpt-5"] then "codex"
  else if startsWith value "claude" ∨ value ∈ ["sdk-deepseek", "deepseek"] then "claude"
  else if startsWith value "antigravity" then "antigravity"
  else if roleValue ≠ "" then roleValue
  else State.orText value "unknown"

/-- What one key adds; `none` is an `int` that raises. -/
def numberAt (payload : Dict) (key : String) : Option Int :=
  match payload.lookup key with
  | some (.int value) => some value
  | some (.float literal) => some (builtins.intOfFloat literal)
  | some .nan => none
  | some (.infinity _) => none
  | some (.string text) => builtins.intOfText (strip text)
  | _ => some 0

/-- `_relay_payload_int`. -/
def payloadInt (payload : Dict) (keys : List String) : Option Int :=
  (keys.mapM (numberAt builtins payload)).map fun numbers => max 0 numbers.sum

def totalKeys : List String := ["total_tokens", "totalTokens", "tokens", "consumed_tokens"]

def inputKeys : List String := ["input_tokens", "inputTokens"]

def outputKeys : List String := ["output_tokens", "outputTokens"]

def cachedInputKeys : List String :=
  ["cached_input_tokens", "cachedInputTokens", "cache_read_input_tokens", "cache_creation_input_tokens",
    "cacheCreationInputTokens", "cacheReadInputTokens"]

def reasoningOutputKeys : List String := ["reasoning_output_tokens", "reasoningOutputTokens"]

def objectAt? (payload : Dict) (key : String) : Option Dict :=
  match payload.lookup key with
  | some (.object members) => some members
  | _ => none

def candidates (payload : Dict) : List Dict :=
  payload :: ((objectAt? payload "usage").toList ++
    ((objectAt? payload "usage").bind fun usage => objectAt? usage "total").toList ++
      (objectAt? payload "total").toList)

def firstCounted : List Dict → Option (Option Dict)
  | [] => some none
  | candidate :: rest =>
      (payloadInt builtins candidate totalKeys).bind fun total =>
        if total ≠ 0 then some (some candidate) else firstCounted rest

/-- `_relay_usage_payload_candidate`. -/
def usagePayloadCandidate (payload : Dict) : Option Dict :=
  (firstCounted builtins (candidates payload)).map fun counted =>
    counted.getD (((candidates payload)[1]?).getD payload)

/-- `_relay_usage_tokens_from_payload`. -/
def usageTokensFromPayload (payload : Dict) : Option Tokens := do
  let candidate ← usagePayloadCandidate builtins payload
  let input ← payloadInt builtins candidate inputKeys
  let output ← payloadInt builtins candidate outputKeys
  let cachedInput ← payloadInt builtins candidate cachedInputKeys
  let reasoningOutput ← payloadInt builtins candidate reasoningOutputKeys
  let total ← payloadInt builtins candidate totalKeys
  return {
    total := if total ≤ 0 then input + cachedInput + output + reasoningOutput else total
    input, cachedInput, output, reasoningOutput }

end Payloads

/-- The arguments of `add_row`. -/
structure AddedRow where
  agent : String
  role : String
  tokens : Tokens
  isToday : Bool

inductive Source where
  | usage (id : Nat)
  | runtime (id : Nat)
  deriving DecidableEq

structure TurnKey where
  relayTaskId : Nat
  agentRunId : Int
  agent : String
  turnId : String
  deriving DecidableEq

structure TurnUsage where
  eventId : Nat
  payload : Dict
  role : String
  agent : String
  isToday : Bool

section Rows

variable (builtins : Builtins) (tables : Tables) (task : Nat)

namespace UsageRow

variable (row : UsageRow)

/-- `COALESCE(job.role, u.role, '')`, or the row's own role. -/
def relayRole (job : Option AgentJob) : String := State.orText ((job.map AgentJob.role).getD row.role) row.role

def relayAgent (job : Option AgentJob) : String :=
  usageAgentKey builtins (State.orText row.agent ((job.map AgentJob.modelProfile).getD "")) (row.relayRole job)

def turnKey? (job : Option AgentJob) : Option TurnKey :=
  if row.agentRunId.getD 0 ≠ 0 ∧ row.externalTurnId.getD "" ≠ "" then
    some ⟨task, row.agentRunId.getD 0, row.relayAgent builtins job, row.externalTurnId.getD ""⟩
  else none

def added (job : Option AgentJob) : AddedRow :=
  ⟨row.relayAgent builtins job, row.relayRole job, row.tokens, row.isToday⟩

end UsageRow

/-- The joined rows of `usage_events`. -/
def usageRows : List (UsageRow × Option AgentJob) :=
  tables.usageEvents.ordered.flatMap fun row => (tables.joined task row.taskId row.agentRunId).map fun job => (row, job)

def usageTurnKeys : List TurnKey :=
  (usageRows tables task).filterMap fun (row, job) => row.turnKey? builtins task job

namespace RuntimeRow

variable (row : RuntimeRow)

def isSelected : Bool :=
  row.isUsageUpdated ∨
    (builtins.jsonValid row.payload ∧
      ((row.payload.lookup "usage").isSome ∨ (row.payload.lookup "total_tokens").isSome ∨
        (row.payload.lookup "totalTokens").isSome))

def relayRole (job : Option AgentJob) : String := (job.map AgentJob.role).getD ""

def relayAgent (job : Option AgentJob) : String :=
  usageAgentKey builtins
    (((firstTruthy row.payload ["provider", "agent", "source_kind"]).map (str builtins.repr)).getD
      (State.orText ((job.map AgentJob.modelProfile).getD "") (row.actor.getD "")))
    (relayRole job)

def turnId : String :=
  State.orText (((firstTruthy row.payload ["native_turn_id", "external_turn_id", "turn_id"]).map (str builtins.repr)).getD "")
    ("event:" ++ toString row.id)

def turn (job : Option AgentJob) : TurnKey × TurnUsage :=
  (⟨task, row.agentRunId.getD 0, row.relayAgent builtins job, row.turnId builtins⟩,
    ⟨row.id, row.payload, relayRole job, row.relayAgent builtins job, row.isToday⟩)

end RuntimeRow

/-- The joined rows of `runtime_events`, oldest first. -/
def turnRows : List (TurnKey × TurnUsage) :=
  (tables.runtimeEvents.ordered.filter fun row => row.isSelected builtins ∧ row.payload ≠ []).flatMap fun row =>
    (tables.joined task row.taskId row.agentRunId).map fun job => row.turn builtins task job

def assignTurn (latest : List (TurnKey × TurnUsage)) (turn : TurnKey × TurnUsage) : List (TurnKey × TurnUsage) :=
  if latest.any (·.1 = turn.1) then latest.map fun entry => if entry.1 = turn.1 then turn else entry
  else latest ++ [turn]

def latestRuntimeByTurn : List (TurnKey × TurnUsage) := (turnRows builtins tables task).foldl assignTurn []

/-- The turns that no row of `usage_events` names. -/
def openTurns : List (TurnKey × TurnUsage) :=
  (latestRuntimeByTurn builtins tables task).filter fun entry => entry.1 ∉ usageTurnKeys builtins tables task

def TurnUsage.added? (usage : TurnUsage) : Option AddedRow :=
  (usageTokensFromPayload builtins usage.payload).map fun tokens => ⟨usage.agent, usage.role, tokens, usage.isToday⟩

def addedRows? : Option (List (Source × AddedRow)) :=
  ((openTurns builtins tables task).mapM fun (entry : TurnKey × TurnUsage) =>
    (entry.2.added? builtins).map fun added => (Source.runtime entry.2.eventId, added)).map fun turns =>
      (usageRows tables task).map (fun (row, job) => (Source.usage row.id, row.added builtins job)) ++ turns

end Rows

structure Bucket where
  agent : String
  todayTokens : Int
  totalTokens : Int
  todayInputTokens : Int
  todayOutputTokens : Int
  inputTokens : Int
  cachedInputTokens : Int
  outputTokens : Int
  reasoningOutputTokens : Int

def Bucket.empty (agent : String) : Bucket := ⟨agent, 0, 0, 0, 0, 0, 0, 0, 0⟩

def Bucket.add (bucket : Bucket) (added : AddedRow) : Bucket where
  agent := bucket.agent
  todayTokens := bucket.todayTokens + if added.isToday then added.tokens.total else 0
  totalTokens := bucket.totalTokens + added.tokens.total
  todayInputTokens := bucket.todayInputTokens + if added.isToday then max 0 added.tokens.input else 0
  todayOutputTokens := bucket.todayOutputTokens + if added.isToday then max 0 added.tokens.output else 0
  inputTokens := bucket.inputTokens + max 0 added.tokens.input
  cachedInputTokens := bucket.cachedInputTokens + max 0 added.tokens.cachedInput
  outputTokens := bucket.outputTokens + max 0 added.tokens.output
  reasoningOutputTokens := bucket.reasoningOutputTokens + max 0 added.tokens.reasoningOutput

/-- `buckets.setdefault(agent, ...)`, and the row added there. -/
def addToBucket (agent : String) (added : AddedRow) : List Bucket → List Bucket
  | [] => [(Bucket.empty agent).add added]
  | bucket :: rest =>
      if bucket.agent = agent then bucket.add added :: rest else bucket :: addToBucket agent added rest

structure Stats where
  consumedTokens : Int
  totalConsumedTokens : Int
  agents : List Bucket

section Stats

variable (builtins : Builtins)

def addRow (stats : Stats) (added : AddedRow) : Stats :=
  if added.tokens.total ≤ 0 then stats
  else {
    consumedTokens := stats.consumedTokens + if added.isToday then added.tokens.total else 0
    totalConsumedTokens := stats.totalConsumedTokens + added.tokens.total
    agents := addToBucket (usageAgentKey builtins added.agent added.role) added stats.agents }

def Bucket.precedes (first second : Bucket) : Bool :=
  first.todayTokens > second.todayTokens ∨
    first.todayTokens = second.todayTokens ∧
      (first.totalTokens > second.totalTokens ∨
        first.totalTokens = second.totalTokens ∧ first.agent ≤ second.agent)

def statsOf (rows : List (Source × AddedRow)) : Stats :=
  let stats := rows.foldl (fun stats row => addRow builtins stats row.2) ⟨0, 0, []⟩
  { stats with agents := stats.agents.insertionSort fun first second => first.precedes second }

def taskTokenStats (tables : Tables) (task : Nat) : Option Stats :=
  (addedRows? builtins tables task).map (statsOf builtins)

end Stats

end Wlcodex.Relay.TokenStats
