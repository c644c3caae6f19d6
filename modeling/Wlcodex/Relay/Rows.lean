import Mathlib.Data.List.MinMax
import Wlcodex.Lib.FirstMatch
import Wlcodex.Relay.CompletionClaim

namespace Wlcodex.Relay

open Wlcodex.Lib

/-! The durable state of one relay task. -/

/-- The `confirmation_*` columns of a round. -/
structure Confirmation where
  source : ConfirmationSource
  kind : ConfirmationKind
  /-- `none` is the empty text. -/
  role : Option Role
  provider : String
  providerRequestId : String
  runtimeEventId : Int
  nativeSessionId : String
  agentRunId : Option Int
  turnId : String
  deriving DecidableEq, Repr

/-- What `clear_round_confirmation` and a finalized approval leave. -/
def Confirmation.none : Confirmation where
  source := .empty
  kind := .empty
  role := Option.none
  provider := ""
  providerRequestId := ""
  runtimeEventId := 0
  nativeSessionId := ""
  agentRunId := Option.none
  turnId := ""

structure Round where
  roundId : Nat
  status : Status
  triggerKind : TriggerKind
  triggerArtifactId : Option Nat
  route : Route
  requiredRoles : List Role
  executionMode : ExecutionMode
  executionGoal : String
  /-- `acceptance_criteria` of the execution strategy. -/
  acceptanceCriteria : List String
  waitingReason : WaitingReason
  confirmation : Confirmation
  deriving DecidableEq, Repr

structure Attempt where
  roundId : Nat
  role : Role
  attemptNo : Nat
  status : Status
  provider : String
  nativeSessionId : String
  agentRunId : Option Int
  turnId : String
  activeTurnId : String
  dispatchArtifactId : Option Nat
  completionEventId : Option Nat
  completionArtifactId : Option Nat
  errorArtifactId : Option Nat
  retryCount : Nat
  executionMode : ExecutionMode
  updatedAt : Nat
  deriving DecidableEq, Repr

/-- A row of `team_agent_jobs`: the current-round mirror of a role. -/
structure Job where
  role : Role
  status : Status
  agentRunId : Option Int
  deriving DecidableEq, Repr

inductive RetryKind where
  | format
  | guardrail
  deriving DecidableEq, Repr

/-- The fields of a stored payload that the relay reads.  `none` and the empty
text are missing or falsy values. -/
structure Payload where
  relayRole : Option Role := none
  role : Option Role := none
  roundId : Option Int := none
  artifactType : Option ArtifactType := none
  status : Option Status := none
  handoffTo : Option Role := none
  route : Route := .none
  requiredRoles : List Role := []
  confirmationSource : ConfirmationSource := .empty
  confirmationKind : ConfirmationKind := .empty
  provider : String := ""
  providerRequestId : String := ""
  runtimeEventId : Int := 0
  nativeSessionId : String := ""
  agentRunId : Option Int := none
  turnId : String := ""
  activeTurnId : String := ""
  /-- `execution_mode` of the nested `provider_mode`. -/
  providerExecutionMode : ExecutionMode := .standard
  dispatchVerified : Option Bool := none
  evidenceRefs : List String := []
  implementationRunId : Option Int := none
  /-- `retry_kind` of a role error. -/
  retryKind : Option RetryKind := none
  pendingInputId : Nat := 0
  /-- `source_round_id` of a pending-input transition; zero when unusable. -/
  sourceRoundId : Nat := 0
  /-- Why a role error was stored. -/
  error : String := ""
  deriving DecidableEq, Repr

namespace Payload

/-- `payload.get("relay_role") or payload.get("role")`. -/
def actor (payload : Payload) : Option Role := payload.relayRole.or payload.role

/-- `_coerce_round_id(payload.get("round_id"))`; zero when unusable. -/
def explicitRound (payload : Payload) : Nat := (payload.roundId.getD 0).toNat

end Payload

structure Artifact where
  id : Nat
  /-- The `artifact_type` column; the payload repeats it unless it brought its own. -/
  artifactType : ArtifactType
  payload : Payload
  deriving DecidableEq, Repr

/-- `artifact_type` as every reader of a stored payload sees it. -/
def Artifact.type (artifact : Artifact) : ArtifactType :=
  artifact.payload.artifactType.getD artifact.artifactType

inductive AcceptanceStatus where
  | passed
  | failed
  | notRun
  deriving DecidableEq, Repr

/-- A row of the append-only `relay_goal_acceptance_records`. -/
structure GoalAcceptanceRecord where
  roundId : Nat
  implementationArtifactId : Option Nat
  implementationRunId : Option Nat
  verifierArtifactId : Nat
  verifierRole : Role
  attemptNo : Nat
  /-- `criteria` of the stored test declaration. -/
  criteria : List String
  /-- The stored test declaration has a `test`. -/
  declaresTest : Bool
  /-- `executed` of the stored test execution. -/
  executed : Bool
  exitCode : Option Int
  status : AcceptanceStatus
  evidenceStatus : AcceptanceStatus
  deriving DecidableEq, Repr

inductive StatusWrite where
  | round (roundId : Nat) (status : Status)
  | attempt (roundId : Nat) (role : Role) (attemptNo : Nat) (status : Status)
  deriving DecidableEq, Repr

/-- `relay_rounds` of the task, unique by `round_id`. -/
structure RoundTable where
  rows : List Round
  unique : rows.Pairwise fun first second => first.roundId ≠ second.roundId
  deriving DecidableEq

namespace RoundTable

def empty : RoundTable := ⟨[], .nil⟩

def find? (table : RoundTable) (roundId : Nat) : Option Round :=
  table.rows.find? fun row => row.roundId = roundId

def insertNew (table : RoundTable) (row : Round) : RoundTable :=
  if fresh : ∀ stored ∈ table.rows, row.roundId ≠ stored.roundId then
    ⟨row :: table.rows, .cons fresh table.unique⟩
  else table

theorem insertNew_rows {table : RoundTable} {row : Round}
    (absent : table.find? row.roundId = none) : (table.insertNew row).rows = row :: table.rows := by
  unfold insertNew
  rw [dif_pos]
  intro stored member same
  have missing := List.find?_eq_none.mp absent stored member
  simp [same] at missing

/-- An `UPDATE` that leaves `round_id` alone. -/
def modify (table : RoundTable) (change : Round → Round)
    (sameId : ∀ row, (change row).roundId = row.roundId) : RoundTable where
  rows := table.rows.map change
  unique := by
    rw [List.pairwise_map]
    refine table.unique.imp ?_
    intro first second different
    rw [sameId, sameId]
    exact different

theorem roundId_of_find? {table : RoundTable} {roundId : Nat} {row : Round}
    (found : table.find? roundId = some row) : row.roundId = roundId := by
  simpa using List.find?_some found

theorem find?_of_mem {table : RoundTable} {row : Round} (member : row ∈ table.rows) :
    table.find? row.roundId = some row := by
  unfold find?
  cases found : table.rows.find? fun stored => stored.roundId = row.roundId with
  | none =>
      have missing := List.find?_eq_none.mp found row member
      simp at missing
  | some stored =>
      have sameId : stored.roundId = row.roundId := by simpa using List.find?_some found
      by_contra different
      have apart : Std.Symm fun first second : Round => first.roundId ≠ second.roundId :=
        ⟨fun _ _ => Ne.symm⟩
      exact table.unique.forall (List.mem_of_find?_eq_some found) member
        (fun same => different (congrArg some same)) sameId

/-- The greatest `round_id` among the rows that a query keeps. -/
def greatest? (table : RoundTable) (kept : Round → Bool) : Option Nat :=
  ((table.rows.filter kept).map Round.roundId).max?

end RoundTable

abbrev KeepsKey (change : Attempt → Attempt) : Prop :=
  ∀ row, (change row).roundId = row.roundId ∧ (change row).role = row.role ∧
    (change row).attemptNo = row.attemptNo

/-- `relay_role_attempts` of the task, newest first: a row of a round and role
is numbered above the rows of that round and role behind it. -/
structure AttemptTable where
  rows : List Attempt
  ordered : rows.Pairwise fun newer older =>
    newer.roundId = older.roundId → newer.role = older.role → older.attemptNo < newer.attemptNo
  deriving DecidableEq

namespace AttemptTable

def empty : AttemptTable := ⟨[], .nil⟩

/-- `_latest_attempt_row`: `ORDER BY attempt_no DESC LIMIT 1`. -/
def latest? (table : AttemptTable) (roundId : Nat) (role : Role) : Option Attempt :=
  table.rows.find? fun row => row.roundId = roundId ∧ row.role = role

def nextNo (table : AttemptTable) (roundId : Nat) (role : Role) : Nat :=
  ((table.latest? roundId role).map Attempt.attemptNo).getD 0 + 1

theorem attemptNo_le_of_latest? {table : AttemptTable} {roundId : Nat} {role : Role} {latest row : Attempt}
    (latestEquation : table.latest? roundId role = some latest) (member : row ∈ table.rows)
    (sameRound : row.roundId = roundId) (sameRole : row.role = role) :
    row.attemptNo ≤ latest.attemptNo := by
  obtain ⟨rows, ordered⟩ := table
  simp only [latest?] at latestEquation
  induction rows with
  | nil => cases member
  | cons head rest ih =>
      obtain ⟨headNewer, restOrdered⟩ := List.pairwise_cons.mp ordered
      by_cases chosen : head.roundId = roundId ∧ head.role = role
      · simp only [List.find?_cons, chosen, and_self, decide_true, Option.some.injEq]
          at latestEquation
        subst latestEquation
        rcases List.mem_cons.mp member with rfl | member
        · exact le_rfl
        · exact le_of_lt (headNewer row member (chosen.1.trans sameRound.symm)
            (chosen.2.trans sameRole.symm))
      · simp only [List.find?_cons, chosen, decide_false] at latestEquation
        rcases List.mem_cons.mp member with rfl | member
        · exact absurd ⟨sameRound, sameRole⟩ chosen
        · exact ih restOrdered latestEquation member

/-- `INSERT` of the next attempt of a round and role. -/
def insertNext (table : AttemptTable) (row : Attempt) : AttemptTable where
  rows := { row with attemptNo := table.nextNo row.roundId row.role } :: table.rows
  ordered := by
    refine .cons ?_ table.ordered
    intro older member sameRound sameRole
    simp only at sameRound sameRole ⊢
    unfold nextNo
    cases latestEquation : table.latest? row.roundId row.role with
    | none =>
        have missing := List.find?_eq_none.mp latestEquation older member
        simp [← sameRound, ← sameRole] at missing
    | some latest =>
        have bound := attemptNo_le_of_latest? latestEquation member sameRound.symm sameRole.symm
        simp only [Option.map_some, Option.getD_some]
        omega

/-- `UPDATE ... WHERE id = ?` of the latest row. -/
def modifyLatest (table : AttemptTable) (roundId : Nat) (role : Role) (change : Attempt → Attempt)
    (sameKey : ∀ row, (change row).roundId = row.roundId ∧ (change row).role = row.role ∧
      (change row).attemptNo = row.attemptNo) : AttemptTable where
  rows := modifyFirst (fun row => row.roundId = roundId ∧ row.role = role) change table.rows
  ordered := by
    refine pairwise_modifyFirst ?_ ?_ table.ordered
    · intro row other newer
      rw [(sameKey row).1, (sameKey row).2.1, (sameKey row).2.2]
      exact newer
    · intro row other newer
      rw [(sameKey row).1, (sameKey row).2.1, (sameKey row).2.2]
      exact newer

/-- `UPDATE ... WHERE` over any rows. -/
def modify (table : AttemptTable) (change : Attempt → Attempt)
    (sameKey : ∀ row, (change row).roundId = row.roundId ∧ (change row).role = row.role ∧
      (change row).attemptNo = row.attemptNo) : AttemptTable where
  rows := table.rows.map change
  ordered := by
    rw [List.pairwise_map]
    refine table.ordered.imp ?_
    intro first second newer
    rw [(sameKey first).1, (sameKey first).2.1, (sameKey first).2.2,
      (sameKey second).1, (sameKey second).2.1, (sameKey second).2.2]
    exact newer

end AttemptTable

/-- `team_artifacts` of the task in id order.  Ids come from one counter shared
with the other tasks of the database. -/
structure ArtifactLog where
  rows : List Artifact
  lastId : Nat
  ascending : rows.Pairwise fun earlier later => earlier.id < later.id
  bounded : ∀ row ∈ rows, 0 < row.id ∧ row.id ≤ lastId
  deriving DecidableEq

namespace ArtifactLog

def empty : ArtifactLog := ⟨[], 0, .nil, by simp⟩

def append (log : ArtifactLog) (type : ArtifactType) (payload : Payload) : ArtifactLog where
  rows := log.rows ++ [⟨log.lastId + 1, type, payload⟩]
  lastId := log.lastId + 1
  ascending := by
    refine List.pairwise_append.mpr ⟨log.ascending, List.pairwise_singleton _ _, ?_⟩
    intro earlier earlierMember later laterMember
    have bound := log.bounded earlier earlierMember
    simp only [List.mem_singleton] at laterMember
    subst laterMember
    simp only
    omega
  bounded := by
    intro row member
    rcases List.mem_append.mp member with old | new
    · exact ⟨(log.bounded row old).1, Nat.le_succ_of_le (log.bounded row old).2⟩
    · simp only [List.mem_singleton] at new
      subst new
      exact ⟨Nat.succ_pos _, le_rfl⟩

/-- `UPDATE team_artifacts SET payload_json = ? WHERE id = ?`. -/
def rewrite (log : ArtifactLog) (id : Nat) (change : Payload → Payload) : ArtifactLog where
  rows := log.rows.map fun row =>
    if row.id = id then { row with payload := change row.payload } else row
  lastId := log.lastId
  ascending := by
    rw [List.pairwise_map]
    refine log.ascending.imp ?_
    intro earlier later ordered
    split_ifs <;> exact ordered
  bounded := by
    intro row member
    obtain ⟨stored, storedMember, rfl⟩ := List.mem_map.mp member
    split_ifs <;> exact log.bounded stored storedMember

def skip (log : ArtifactLog) (count : Nat) : ArtifactLog where
  rows := log.rows
  lastId := log.lastId + count
  ascending := log.ascending
  bounded row member :=
    ⟨(log.bounded row member).1, Nat.le_add_right_of_le (log.bounded row member).2⟩

end ArtifactLog

/-- The durable state of one task.  `now` is what the next `_now()` returns. -/
structure TaskState where
  now : Nat
  /-- `team_runs.status`. -/
  status : Status
  jobs : List Job
  artifacts : ArtifactLog
  rounds : RoundTable
  attempts : AttemptTable
  claims : ClaimTable
  records : List GoalAcceptanceRecord
  journal : List StatusWrite
  deriving DecidableEq

end Wlcodex.Relay
