import Wlcodex.Relay.Store
import Wlcodex.Runtime.Maintenance

/-! What readiness for maintenance says about a relay task. -/

namespace Wlcodex.Relay

def Status.text : Status → String
  | .idle => "idle"
  | .queued => "queued"
  | .dispatching => "dispatching"
  | .streaming => "streaming"
  | .running => "running"
  | .passed => "passed"
  | .waiting => "waiting"
  | .waitingUser => "waiting_user"
  | .blocked => "blocked"
  | .failed => "failed"
  | .completed => "completed"
  | .interrupted => "interrupted"
  | .superseded => "superseded"
  | .other text => text

def ClaimStatus.text : ClaimStatus → String
  | .claimed => "claimed"
  | .applied => "applied"
  | .ignoredStale => "ignored_stale"

namespace TaskState

def AwaitsNativeApproval (task : TaskState) : Prop :=
  ∃ round ∈ task.rounds.rows, round.confirmation.source ∈
    [.providerNativeApproval, .providerNativeResolving, .providerNativeSuperseding]

def HasLiveAttempt (task : TaskState) (live : Attempt → Prop) : Prop :=
  ∃ attempt ∈ task.attempts.rows, attempt.status = .dispatching ∨ attempt.status = .streaming ∨
    (attempt.status = .waiting ∧ live attempt)

def Busy (task : TaskState) (live : Attempt → Prop) : Prop :=
  task.AwaitsNativeApproval ∨ task.HasLiveAttempt live

def Counted (task : TaskState) : Prop :=
  task.status.text ∈ ["queued", "running", "waiting_approval", "paused"] ∨
    ∃ claim ∈ task.claims.rows, claim.status = .claimed

end TaskState

end Wlcodex.Relay

namespace Wlcodex.Runtime

open Wlcodex.Relay (TaskState Attempt)

def WorkTables.Lists (work : WorkTables) (task : TaskState) : Prop :=
  task.status.text ∈ work.teamRuns ∧
    ∀ claim ∈ task.claims.rows, claim.status.text ∈ work.relayCompletionEventClaims

namespace MaintenanceDb

def TurnsEnded (db : MaintenanceDb) : Prop :=
  db.window.openedAt ≠ "" → ∀ threadId ∈ db.windowCandidates db.window.openedAt,
    db.verdict? db.window.openedAt threadId = some .terminal

theorem nativeTurnProbeWork_eq_zero_iff (db : MaintenanceDb) (openedAt : String) :
    (∀ count ∈ db.nativeTurnProbeWork openedAt, count.2 = 0) ↔
      ∀ threadId ∈ db.windowCandidates openedAt,
        db.verdict? openedAt threadId = some .terminal := by
  simp only [nativeTurnProbeWork, List.forall_mem_cons, List.countP_eq_zero, decide_eq_true_eq]
  constructor
  · rintro ⟨noneActive, nonePending, _⟩ threadId member
    have known := nonePending threadId member
    rw [not_not] at known
    rcases List.mem_cons.mp known with active | known
    · exact absurd active (noneActive threadId member)
    · exact List.mem_singleton.mp known
  · intro ended
    refine ⟨fun threadId member active => ?_, fun threadId member pending => ?_,
      fun _ member => by cases member⟩
    · rw [ended threadId member] at active
      cases active
    · exact pending (by rw [ended threadId member]; decide)

theorem ready_iff (db : MaintenanceDb) :
    db.Ready ↔ db.window.submissionsFrozen = true ∧
      (∀ count ∈ db.work.activeWorkQueries, count.2 = 0) ∧ db.TurnsEnded := by
  unfold Ready activeWorkCounts TurnsEnded
  refine and_congr_right fun frozen => ?_
  simp only [frozen, true_and]
  simp only [List.filter_eq_nil_iff, List.forall_mem_append, decide_not, Bool.not_eq_true',
    decide_eq_false_iff_not, not_not]
  refine and_congr_right fun _ => ?_
  split
  next opened => simp only [opened, not_false_eq_true, forall_const,
    ← nativeTurnProbeWork_eq_zero_iff, ne_eq]
  next closed =>
    constructor
    · exact fun _ opened => absurd opened closed
    · exact fun _ _ member => by cases member

end MaintenanceDb

namespace WorkTables

variable {work : WorkTables} {task : TaskState}

theorem countIn_eq_zero_iff {statuses wanted : List String} :
    countIn statuses wanted = 0 ↔ ∀ status ∈ statuses, status ∉ wanted := by
  simp [countIn, List.countP_eq_zero]

theorem not_drained_of_counted (lists : work.Lists task) (counted : task.Counted) :
    ¬ ∀ count ∈ work.activeWorkQueries, count.2 = 0 := by
  intro drained
  rcases counted with status | ⟨claim, stored, claimed⟩
  · have noRuns : countIn work.teamRuns ["queued", "running", "waiting_approval", "paused"] = 0 :=
      drained ("Relay task runs", countIn work.teamRuns _) (by simp [activeWorkQueries])
    exact countIn_eq_zero_iff.mp noRuns _ lists.1 status
  · have noClaims : countIn work.relayCompletionEventClaims ["claimed"] = 0 :=
      drained ("Relay completion event claims", countIn work.relayCompletionEventClaims _)
        (by simp [activeWorkQueries])
    have listed := lists.2 claim stored
    rw [claimed] at listed
    exact countIn_eq_zero_iff.mp noClaims _ listed (by decide)

def only (task : TaskState) : WorkTables where
  teamRuns := [task.status.text]
  relayCompletionEventClaims := task.claims.rows.map fun claim => claim.status.text

theorem lists_only (task : TaskState) : (only task).Lists task :=
  ⟨List.mem_singleton.mpr rfl, fun _ stored => List.mem_map_of_mem stored⟩

theorem drained_only (uncounted : ¬ task.Counted) :
    ∀ count ∈ (only task).activeWorkQueries, count.2 = 0 := by
  have noRuns : countIn [task.status.text] ["queued", "running", "waiting_approval", "paused"] = 0 := by
    refine countIn_eq_zero_iff.mpr fun status member wanted => uncounted (.inl ?_)
    rwa [← List.mem_singleton.mp member]
  have noClaims : countIn (task.claims.rows.map fun claim => claim.status.text) ["claimed"] = 0 := by
    refine countIn_eq_zero_iff.mpr fun status member wanted => uncounted (.inr ?_)
    obtain ⟨claim, stored, rfl⟩ := List.mem_map.mp member
    refine ⟨claim, stored, ?_⟩
    cases status : claim.status with
    | claimed => rfl
    | applied | ignoredStale => simp [status, Relay.ClaimStatus.text] at wanted
  simp only [only, activeWorkQueries, List.forall_mem_cons, noRuns, noClaims]
  simp [countIn, countNotIn, legacyQueuedRuns]

end WorkTables

theorem vouches_iff (task : TaskState) (live : Attempt → Prop) (db : MaintenanceDb) :
    (∀ work : WorkTables, work.Lists task → ({ db with work } : MaintenanceDb).Ready →
        ¬ task.Busy live) ↔
      (task.Busy live → db.window.submissionsFrozen = true → db.TurnsEnded → task.Counted) := by
  constructor
  · intro vouches busy frozen ended
    by_contra uncounted
    refine vouches (WorkTables.only task) (WorkTables.lists_only task) ?_ busy
    exact (MaintenanceDb.ready_iff _).mpr ⟨frozen, WorkTables.drained_only uncounted, ended⟩
  · intro counted work lists ready busy
    obtain ⟨frozen, drained, ended⟩ := (MaintenanceDb.ready_iff _).mp ready
    exact WorkTables.not_drained_of_counted lists (counted busy frozen ended) drained

/-- After every run of the relay, and whatever the other tables hold: readiness
vouches for a task exactly when the drain counts it while it is busy. -/
theorem readiness_vouches_iff (start : Nat) (ops : List Relay.StoreOp) (live : Attempt → Prop)
    (db : MaintenanceDb) :
    let task := TaskState.after start ops
    (∀ work : WorkTables, work.Lists task → ({ db with work } : MaintenanceDb).Ready →
        ¬ task.Busy live) ↔
      (task.Busy live → db.window.submissionsFrozen = true → db.TurnsEnded → task.Counted) :=
  vouches_iff (TaskState.after start ops) live db

/-! ### An approval that the drain does not see -/

def approvalRequest : Relay.ApprovalRequest where
  role := .director
  provider := "codex"
  requestId := "req-1"
  eventId := 5
  nativeSessionId := "s"
  agentRunId := some 11
  turnId := "t"
  kind := .commandApproval

def approvalRun : List Relay.StoreOp :=
  [.claimQueuedAttemptDispatch 1 .director,
    .updateRoleMetadata .director
      { provider := "codex", nativeSessionId := "s", agentRunId := some 11, turnId := "t"
        activeTurnId := "t", dispatchVerified := true },
    .replaceApproval 1 approvalRequest none]

def approvalDb (task : TaskState) : MaintenanceDb where
  work := { WorkTables.only task with agentRuns := [⟨11, "queued", "codex_native"⟩] }
  codexSessions := [⟨"s", "waiting_approval", "t"⟩]
  window := ⟨true, "2024-01-01T00:00:00+00:00"⟩

/-- Maintenance is ready while a round waits on a provider-native approval. -/
theorem ready_with_open_approval :
    let task := TaskState.after 0 approvalRun
    (approvalDb task).work.Lists task ∧ (approvalDb task).Ready ∧ task.AwaitsNativeApproval := by
  refine ⟨⟨?_, ?_⟩, ?_, ?_⟩
  · decide +kernel
  · decide +kernel
  · decide +kernel
  · exact ⟨_, List.mem_cons_self, by decide +kernel⟩

end Wlcodex.Runtime
