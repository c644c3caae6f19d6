import Mathlib.Data.List.Infix
import Mathlib.Data.String.Basic
import Wlcodex.Relay.StreamEvents

namespace Wlcodex.Relay

open Wlcodex.Lib

/-! The state a relay task is shown in, computed twice: in SQL and in Python. -/

inductive PresentationState where
  | running
  | stale
  | waitingUser
  | waitingApproval
  | blocked
  | failed
  | completed
  | interrupted
  deriving DecidableEq, Repr

structure RunRow where
  status : String
  updatedAt : String

structure RoundRow where
  roundId : Int
  status : String
  waitingReason : String
  confirmationSource : String
  confirmationKind : String

structure JobRow where
  role : String
  status : String

/-- A row of `team_artifacts`; `payload` is `payload_json` as read. -/
structure ArtifactRow where
  artifactType : String
  summary : String
  payload : Dict

structure TaskRows where
  run : RunRow
  rounds : List RoundRow
  -- `UNIQUE(team_run_id, round_id)`
  rounds_nodup : (rounds.map RoundRow.roundId).Nodup
  jobs : List JobRow
  artifacts : List ArtifactRow

def approvalReasons : List String := ["plan_approval", "provider_approval"]

def recoverySources : List String := ["provider_native_resolving", "provider_native_superseding"]

def freshFor : Int := 30 * 60 * 1000000

def latestRoundId? (rounds : List RoundRow) : Option Int := (rounds.map RoundRow.roundId).max?

def liveRounds (rounds : List RoundRow) : List RoundRow :=
  rounds.filter fun round => round.status ≠ "superseded"

namespace TaskRows

def round? (rows : TaskRows) (roundId : Int) : Option RoundRow :=
  rows.rounds.find? fun round => round.roundId = roundId

def currentRound? (rows : TaskRows) : Option RoundRow :=
  (latestRoundId? (liveRounds rows.rounds)).bind rows.round?

/-- `kind LIKE '%\_approval' ESCAPE '\'`: letters of either case. -/
def likeApproval (kind : String) : Bool :=
  "_approval".toList <:+ kind.toList.map Char.toLower

/-- `presentation_state` of `_task_presentation_cte`. -/
def presentationState (julianday : String → Option Int) (now : Int) (rows : TaskRows) :
    PresentationState :=
  let round := rows.currentRound?
  let source := (round.map RoundRow.confirmationSource).getD ""
  let reason := (round.map RoundRow.waitingReason).getD ""
  let kind := (round.map RoundRow.confirmationKind).getD ""
  let status := rows.run.status
  if source ∈ recoverySources then .blocked
  else if status ∈ ["queued", "running"] ∧
      (rows.run.updatedAt = "" ∨
        (julianday rows.run.updatedAt).all fun updatedAt => now - updatedAt > freshFor) then .stale
  else if status ∈ ["queued", "running"] then .running
  else if status = "waiting_user" ∧ (reason ∈ approvalReasons ∨ likeApproval kind) then
    .waitingApproval
  else if status = "waiting_user" then .waitingUser
  else if status = "blocked" then .blocked
  else if status = "failed" then .failed
  else if status = "completed" then .completed
  else if status = "interrupted" then .interrupted
  else .stale

end TaskRows

/-- `str` of values that are no text and `int` of values that are no whole numbers. -/
structure Conversions where
  repr : Json → String
  int? : Json → Option Int

section Card

variable (convert : Conversions)

def textOf (artifact : Dict) (keys : List String) : String :=
  ((firstTruthy artifact keys).map (str convert.repr)).getD ""

def coerceRoundId : Json → Nat
  | .null => 0
  | .int value => value.toNat
  | .bool value => value.toNat
  | value => ((convert.int? value).getD 0).toNat

/-- An artifact as `_relay_artifacts` hands it on: the payload may bring its own type and
summary. -/
def relayArtifact (row : ArtifactRow) : Dict :=
  row.payload ++ [("artifact_type", .string row.artifactType), ("summary", .string row.summary)]

/-- `_annotate_artifact_rounds`: every artifact with the round it belongs to. -/
def annotateArtifactRounds (currentRound : Nat) : List Dict → List (Nat × Dict)
  | [] => []
  | artifact :: rest =>
    let explicitRound := coerceRoundId convert (artifact.getOrNull "round_id")
    let round :=
      if explicitRound ≠ 0 then explicitRound
      else if textOf convert artifact ["artifact_type"] = "user_followup" then currentRound + 1
      else currentRound
    (round, artifact) :: annotateArtifactRounds round rest

def relayArtifacts (rows : TaskRows) : List (Nat × Dict) :=
  annotateArtifactRounds convert 1 (rows.artifacts.map relayArtifact)

/-- `_active_round_id`, with the newest round of the artifacts as the fallback. -/
def currentRoundIdReadonly (rows : TaskRows) : Int :=
  match latestRoundId? (liveRounds rows.rounds) with
  | some roundId => roundId
  | none =>
    match latestRoundId? rows.rounds with
    | some roundId => roundId
    | none => max 1 (((relayArtifacts convert rows).map Prod.fst).max?.getD 1 : Nat)

def artifactsForRound (artifacts : List (Nat × Dict)) (roundId : Int) : List Dict :=
  (artifacts.filter fun artifact => (artifact.1 : Int) = max 1 roundId).map Prod.snd

def artifactResolvesRoleError (artifact : Dict) : Bool :=
  let artifactType := textOf convert artifact ["artifact_type"]
  let status := strip (textOf convert artifact ["status"])
  if artifactType ∉ ["architecture_plan", "implementation_report", "test_report", "audit_report",
      "final_summary", "followup_response", "routing_decision"] then false
  else if status ≠ "" then status ∈ ["passed", "completed", "success", "succeeded", "done"]
  else artifactType ∈ ["followup_response", "final_summary"]

/-- Whether `artifact_type` is exactly the text `role_error`. -/
def isRoleError (artifact : Dict) : Bool :=
  match artifact.lookup "artifact_type" with
  | some (.string text) => text = "role_error"
  | _ => false

def latestErrorByRole (artifacts : List Dict) (role : String) : Option Dict :=
  artifacts.foldl (fun error artifact =>
    if role = "" ∨ textOf convert artifact ["relay_role"] ≠ role then error
    else if isRoleError artifact then some artifact
    else if artifactResolvesRoleError convert artifact then none
    else error) none

/-- `error_message` of a job of `_role_jobs`: only a stopped job shows one. -/
def errorMessage (artifacts : List Dict) (job : JobRow) : String :=
  if job.status ∉ ["blocked", "failed", "interrupted"] then ""
  else ((latestErrorByRole convert artifacts job.role).map fun error =>
    textOf convert error ["error", "summary"]).getD ""

/-- What `round_execution` says of waiting and confirmation. -/
structure RoundExecution where
  waitingReason : String
  confirmationSource : String
  confirmationKind : String

def roundExecution (rows : TaskRows) (roundId : Int) : RoundExecution :=
  match rows.round? roundId with
  | none => ⟨"none", "", ""⟩
  | some round =>
    ⟨if round.waitingReason = "" then "none" else round.waitingReason, round.confirmationSource,
      round.confirmationKind⟩

def contains (text part : String) : Bool := part.toList <:+: text.toList

def recoveryMarkers : List String := ["派发结果无法验证：", "任务只完成了部分中断："]

structure RelayPresentation where
  state : PresentationState
  staleReason : String
  recoveryRequired : Bool
  allowedActions : List String

/-- `_presentation_stale_reason` of a timestamp that is readable. -/
def presentationStaleReason (now updatedAt : Int) : String :=
  if now - updatedAt > freshFor then "超过 30 分钟未收到新的 Relay 状态" else ""

def presentationAllowedActions (state : PresentationState) (recoveryRequired : Bool) :
    List String :=
  if recoveryRequired then ["refresh"]
  else match state with
    | .running => ["add_input", "interrupt"]
    | .waitingUser | .waitingApproval => ["add_input", "resolve"]
    | .blocked | .failed => ["resume", "add_input", "archive"]
    | .completed | .interrupted => ["add_input", "archive"]
    | .stale => ["refresh"]

/-- `{"queued": "running", ...}.get(raw_status, "stale")`. -/
def rawState (rawStatus : String) (approvalWait : Bool) : PresentationState :=
  if rawStatus ∈ ["queued", "running"] then .running
  else if rawStatus = "waiting_user" then if approvalWait then .waitingApproval else .waitingUser
  else if rawStatus = "blocked" then .blocked
  else if rawStatus = "failed" then .failed
  else if rawStatus = "completed" then .completed
  else if rawStatus = "interrupted" then .interrupted
  else .stale

/-- `build_relay_presentation`.  The texts that come from the board and the handoff are left
out. -/
def buildRelayPresentation (now : Int) (status : String) (updatedAt : Int)
    (errorMessages : List String) (execution : RoundExecution) : RelayPresentation :=
  let rawStatus := strip status
  let waitingReason := strip execution.waitingReason
  let confirmationKind := strip execution.confirmationKind
  let confirmationSource := strip execution.confirmationSource
  let recoveryRequired : Bool := confirmationSource ∈ recoverySources ∨
    errorMessages.any fun message => recoveryMarkers.any (contains message)
  let approvalWait : Bool := waitingReason ∈ approvalReasons ∨
    "_approval".toList <:+ confirmationKind.toList
  let state := if recoveryRequired then .blocked else rawState rawStatus approvalWait
  let staleReason := if state = .running then presentationStaleReason now updatedAt else ""
  let state := if staleReason ≠ "" ∧ state = .running then .stale else state
  let staleReason :=
    if state = .stale ∧ staleReason = "" then
      "未知的 Relay 状态：" ++ (if rawStatus = "" then "empty" else rawStatus)
    else staleReason
  { state, staleReason, recoveryRequired
    allowedActions := presentationAllowedActions state recoveryRequired }

/-- `_summary_from_task_row`; it raises when `updated_at` is no ISO timestamp.  A timestamp
that was read is written and read again unchanged. -/
def summaryFromTaskRow (fromisoformat : String → Option Int) (now : Int) (rows : TaskRows) :
    Option RelayPresentation := do
  let updatedAt ← fromisoformat rows.run.updatedAt
  let roundId := currentRoundIdReadonly convert rows
  let artifacts := artifactsForRound (relayArtifacts convert rows) roundId
  let messages := rows.jobs.map (errorMessage convert artifacts)
  return buildRelayPresentation now rows.run.status updatedAt messages (roundExecution rows roundId)

end Card

end Wlcodex.Relay
