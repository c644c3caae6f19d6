import Wlcodex.Relay.CompletionReplay
import Wlcodex.Relay.Ledgers

namespace Wlcodex.Relay

/-! A new completion of an open attempt. -/

def StoreOp.claimedEvent : StoreOp → Option Int
  | .claimCompletion _ _ runtimeEventId _ _ => some runtimeEventId
  | _ => none

def NeverClaimed (runtimeEventId : Int) (ops : List StoreOp) : Prop :=
  ∀ op ∈ ops, op.claimedEvent ≠ some runtimeEventId

instance (runtimeEventId : Int) : DecidablePred (NeverClaimed runtimeEventId) := fun ops =>
  inferInstanceAs (Decidable (∀ op ∈ ops, op.claimedEvent ≠ some runtimeEventId))

theorem runId_ofCall {run : Int} (positive : 0 < run) (runtimeEventId : Int) :
    (Identity.ofCall runtimeEventId (some run)).runId = some run.toNat := by
  simp [Identity.ofCall, Option.filter, positive]

theorem runId_ofCall_of_nonpos {run : Int} (nonpositive : ¬ 0 < run) (runtimeEventId : Int) :
    (Identity.ofCall runtimeEventId (some run)).runId = none := by
  simp [Identity.ofCall, Option.filter, nonpositive]

namespace TaskState

def OpenAttempt (state : TaskState) (role : Role) (attempt : Attempt) : Prop :=
  state.attempts.latest? (state.activeRoundId 1) role = some attempt ∧
    attempt.status ∉ Status.attemptTerminal

instance (state : TaskState) (role : Role) (attempt : Attempt) :
    Decidable (state.OpenAttempt role attempt) :=
  inferInstanceAs (Decidable (_ ∧ _))

def Acquires (state : TaskState) (roundId : Int) (role : Role) (runtimeEventId : Int)
    (agentRunId : Option Int) (leaseSeconds : Int) : Prop :=
  ∃ claim next,
    claimCompletionEventResult state.claims state.now roundId (some role) runtimeEventId agentRunId
      leaseSeconds = .ok (claim, next) ∧ claim.acquired = true

def RunSpent (state : TaskState) (agentRunId : Option Int) (leaseSeconds : Int) : Prop :=
  ∃ row ∈ state.claims.rows, ∃ run ∈ agentRunId,
    0 < run ∧ row.agentRunId = some run.toNat ∧ ¬ row.Expired state.now leaseSeconds

theorem claimed_event_step (state : TaskState) (op : StoreOp) {row : ClaimRow}
    (member : row ∈ (state.step op).claims.rows) (named : row.runtimeEventId ≠ 0) :
    op.claimedEvent = some (row.runtimeEventId : Int) ∨
      ∃ stored ∈ state.claims.rows, stored.runtimeEventId = row.runtimeEventId := by
  have unchanged : (state.step op).claims = state.claims →
      op.claimedEvent = some (row.runtimeEventId : Int) ∨
        ∃ stored ∈ state.claims.rows, stored.runtimeEventId = row.runtimeEventId := by
    intro kept
    rw [kept] at member
    exact .inr ⟨row, member, rfl⟩
  cases op with
  | saveArtifact role type payload => exact unchanged (claims_saveArtifact state role type payload)
  | updateRoleStatus role status =>
      exact unchanged (claims_eq_of_ledgers (ledgers_updateRoleStatus state role status))
  | updateTaskStatus status =>
      exact unchanged (claims_eq_of_ledgers (ledgers_updateTaskStatus state status))
  | updateRoleMetadata role metadata =>
      exact unchanged (claims_updateRoleMetadata state role metadata)
  | startFollowupRound trigger =>
      exact unchanged (claims_eq_of_ledgers (ledgers_startFollowupRound state trigger))
  | setRoundExecution roundId mode goal criteria reason =>
      exact unchanged
        (claims_eq_of_ledgers (ledgers_setRoundExecution state roundId mode goal criteria reason))
  | setRoundConfirmation roundId confirmation =>
      exact unchanged
        (claims_eq_of_ledgers (ledgers_setRoundConfirmation state roundId confirmation))
  | clearRoundConfirmation roundId =>
      exact unchanged (claims_eq_of_ledgers (ledgers_setRoundConfirmation state roundId _))
  | claimQueuedAttemptDispatch roundId role =>
      exact unchanged
        (claims_eq_of_ledgers (ledgers_claimQueuedAttemptDispatch state roundId role))
  | quarantineStaleUnverifiedDispatches | annotateQuestion | elsewhere => exact unchanged rfl
  | claimApproval roundId requestId eventId action =>
      exact unchanged (claims_eq_of_ledgers (ledgers_moveApproval state roundId _ _ _))
  | restoreApproval roundId requestId eventId action =>
      exact unchanged (claims_eq_of_ledgers (ledgers_moveApproval state roundId _ _ _))
  | replaceApproval roundId request expected =>
      exact unchanged (claims_eq_of_ledgers
        (ledgers_replaceProviderNativeApproval state roundId request expected))
  | finalizeApproval roundId role requestId eventId interrupted =>
      exact unchanged (claims_eq_of_ledgers (ledgers_finalizeProviderNativeApprovalAction state
        roundId role requestId eventId interrupted))
  | claimCompletion roundId role event run lease =>
      have called : ((Identity.ofCall event run).eventId : Int) = row.runtimeEventId →
          StoreOp.claimedEvent (.claimCompletion roundId role event run lease) =
            some (row.runtimeEventId : Int) := by
        intro sameEvent
        have positive : (Identity.ofCall event run).eventId ≠ 0 := by omega
        simp only [Identity.ofCall] at sameEvent positive
        simp only [StoreOp.claimedEvent, Option.some.injEq]
        omega
      rcases claim_cases state.claims state.now roundId role event run lease with
        ⟨_, claim, outcome, _⟩ | ⟨key, next, _, _, nextRows, claim, outcome, _⟩ |
        ⟨_, _, _, claim, outcome, _⟩ | ⟨picked, next, _, _, _, nextRows, claim, outcome, _⟩ |
        ⟨_, _, _, _, outcome⟩
      · exact unchanged (by simp only [step, outcome])
      · simp only [step, outcome, nextRows] at member
        rcases List.mem_cons.mp member with rfl | old
        · exact .inl (called rfl)
        · exact .inr ⟨row, old, rfl⟩
      · exact unchanged (by simp only [step, outcome])
      · simp only [step, outcome, nextRows] at member
        obtain ⟨stored, storedMember, rfl⟩ := List.mem_map.mp member
        by_cases recovered : stored.eventKey = picked.eventKey
        · simp only [recovered, ↓reduceIte, ClaimRow.recover] at called named ⊢
          split_ifs at called named ⊢ with fills
          · exact .inr ⟨stored, storedMember, rfl⟩
          · exact .inl (called rfl)
        · simp only [recovered, ↓reduceIte]
          exact .inr ⟨stored, storedMember, rfl⟩
      · exact unchanged (by simp only [step, outcome])
  | markCompletionApplied | markCompletionIgnoredStale =>
      obtain ⟨stored, storedMember, rfl⟩ := List.mem_map.mp member
      refine .inr ⟨stored, storedMember, ?_⟩
      split <;> rfl
  | releaseCompletion event run =>
      exact .inr ⟨row, List.mem_of_mem_filter member, rfl⟩
  | recordGoalAcceptance attempt =>
      refine unchanged ?_
      simp only [step, recordGoalAcceptance]
      split <;> rfl
  | backfillTask => exact unchanged (claims_eq_of_ledgers (ledgers_backfillTask state))

theorem claims_created (start : Nat) : (created start).claims = .empty :=
  (claims_saveArtifact _ _ _ _).trans (claims_eq_of_ledgers (ledgers_createInitialRound _))

theorem exists_claim_of_row (start : Nat) (ops : List StoreOp) {row : ClaimRow}
    (member : row ∈ (after start ops).claims.rows) (named : row.runtimeEventId ≠ 0) :
    ∃ op ∈ ops, op.claimedEvent = some (row.runtimeEventId : Int) := by
  unfold after at member
  induction ops using List.reverseRecOn generalizing row with
  | nil =>
      rw [List.foldl_nil, claims_created] at member
      cases member
  | append_singleton earlier op ih =>
      rw [List.foldl_append] at member
      rcases claimed_event_step _ op member named with called | ⟨stored, storedMember, sameEvent⟩
      · exact ⟨op, by simp, called⟩
      · obtain ⟨other, otherMember, called⟩ := ih storedMember (by rwa [sameEvent])
        exact ⟨other, by simp [otherMember], by rwa [sameEvent] at called⟩

theorem runtimeEventId_ne_of_neverClaimed {start : Nat} {ops : List StoreOp}
    {runtimeEventId : Int} (positive : 0 < runtimeEventId)
    (fresh : NeverClaimed runtimeEventId ops) {row : ClaimRow}
    (member : row ∈ (after start ops).claims.rows) :
    row.runtimeEventId ≠ runtimeEventId.toNat := by
  intro sameEvent
  obtain ⟨op, opMember, called⟩ := exists_claim_of_row start ops member (by omega)
  refine fresh op opMember ?_
  rw [called, sameEvent, Int.toNat_of_nonneg (by omega)]

theorem acquires_iff {state : TaskState} {runtimeEventId : Int} (positive : 0 < runtimeEventId)
    (unnamed : ∀ row ∈ state.claims.rows, row.runtimeEventId ≠ runtimeEventId.toNat)
    (roundId : Int) (role : Role) (agentRunId : Option Int) (leaseSeconds : Int) :
    state.Acquires roundId role runtimeEventId agentRunId leaseSeconds ↔
      ¬ state.RunSpent agentRunId leaseSeconds := by
  have selects : ∀ row ∈ state.claims.rows,
      (Identity.ofCall runtimeEventId agentRunId).Selects row →
        ∃ run ∈ agentRunId, 0 < run ∧ row.agentRunId = some run.toNat := by
    intro row member selected
    rcases (Identity.selects_iff_sharesId (state.claims.keyed row member)).mp selected with
      ⟨_, sameEvent⟩ | ⟨named, sameRun⟩
    · exact absurd sameEvent (unnamed row member)
    · cases agentRunId with
      | none => exact absurd rfl named
      | some run =>
          by_cases runPositive : 0 < run
          · exact ⟨run, rfl, runPositive, sameRun.trans (runId_ofCall runPositive _)⟩
          · exact absurd (runId_ofCall_of_nonpos runPositive _) named
  have spends : ∀ row ∈ state.claims.rows, ∀ run ∈ agentRunId, 0 < run →
      row.agentRunId = some run.toNat →
        pickRow? state.claims (Identity.ofCall runtimeEventId agentRunId) = some row := by
    intro row member run runEquation runPositive sameRun
    cases runEquation
    cases picked : pickRow? state.claims (Identity.ofCall runtimeEventId (some run)) with
    | none =>
        have callRun := runId_ofCall runPositive runtimeEventId
        refine absurd (.inr (.inr ⟨?_, ?_⟩)) (pickRow?_eq_none_iff.mp picked row member)
        · rw [callRun]
          exact Option.some_ne_none _
        · rw [callRun, sameRun]
    | some other =>
        obtain ⟨otherRun, otherEquation, _, otherSame⟩ :=
          selects other (pickRow?_mem picked) (pickRow?_selects picked)
        cases otherEquation
        by_contra different
        have apart := state.claims.distinct_of_mem (pickRow?_mem picked) member
          (fun same => different (by rw [same]))
        rcases apart.2.2 with unnamedRun | differentRun
        · rw [otherSame] at unnamedRun
          cases unnamedRun
        · exact differentRun (otherSame.trans sameRun.symm)
  rcases claim_cases state.claims state.now roundId (some role) runtimeEventId agentRunId
      leaseSeconds with
    ⟨unkeyed, _⟩ | ⟨_, next, _, nonePicked, _, claim, outcome, acquired, _⟩ |
    ⟨row, picked, live, claim, outcome, refused, _⟩ |
    ⟨row, next, picked, expired, _, _, claim, outcome, acquired, _⟩ |
    ⟨row, picked, _, ⟨other, otherMember, _, collides⟩, _⟩
  · exfalso
    unfold Identity.eventKey? at unkeyed
    split at unkeyed
    · cases unkeyed
    · split at unkeyed
      · cases unkeyed
      · rename_i unpositive
        simp only [Identity.ofCall] at unpositive
        omega
  · refine iff_of_true ⟨claim, next, outcome, acquired⟩ ?_
    rintro ⟨row, member, run, runEquation, runPositive, sameRun, _⟩
    rw [spends row member run runEquation runPositive sameRun] at nonePicked
    cases nonePicked
  · refine iff_of_false ?_ ?_
    · rintro ⟨_, _, other, acquired⟩
      rw [outcome] at other
      cases other
      rw [refused] at acquired
      cases acquired
    · obtain ⟨run, runEquation, runPositive, sameRun⟩ :=
        selects row (pickRow?_mem picked) (pickRow?_selects picked)
      exact fun unspent => unspent
        ⟨row, pickRow?_mem picked, run, runEquation, runPositive, sameRun, live⟩
  · refine iff_of_true ⟨claim, next, outcome, acquired⟩ ?_
    rintro ⟨other, member, run, runEquation, runPositive, sameRun, live⟩
    rw [spends other member run runEquation runPositive sameRun] at picked
    cases picked
    exact live expired
  · exfalso
    have sharesRun := selects other otherMember (.inr collides.sharesId)
    obtain ⟨run, runEquation, runPositive, sameRun⟩ := sharesRun
    have pickedOther := spends other otherMember run runEquation runPositive sameRun
    rw [picked] at pickedOther
    cases pickedOther
    contradiction

/-- In every reachable state a completion of the open attempt, under an event
never claimed before, is acquired exactly when the attempt's agent run has no
settled or live claim. -/
theorem new_completion_acquirable_iff (start : Nat) (ops : List StoreOp) (roundId : Int)
    (role : Role) (attempt : Attempt) (runtimeEventId leaseSeconds : Int) :
    (after start ops).OpenAttempt role attempt → 0 < runtimeEventId →
      NeverClaimed runtimeEventId ops →
        ((after start ops).Acquires roundId role runtimeEventId attempt.agentRunId leaseSeconds ↔
          ¬ (after start ops).RunSpent attempt.agentRunId leaseSeconds) := by
  intro _ positive fresh
  exact acquires_iff positive (fun _ member => runtimeEventId_ne_of_neverClaimed positive fresh member)
    roundId role attempt.agentRunId leaseSeconds

def testerTurn (run : Int) : List StoreOp :=
  [.updateRoleStatus .tester .queued, .claimQueuedAttemptDispatch 1 .tester,
    .updateRoleMetadata .tester { agentRunId := some run, dispatchVerified := true }]

def testerPasses (run event : Int) : List StoreOp :=
  [.claimCompletion 1 (some .tester) event (some run) 900,
    .saveArtifact (some .tester) .testReport { status := some .passed, runtimeEventId := event },
    .markCompletionApplied event (some run) none]

theorem new_completion_acquirable_second_run :
    let ops := testerTurn 7 ++ testerPasses 7 10 ++ testerTurn 8
    ∃ attempt, (after 0 ops).OpenAttempt .tester attempt ∧ NeverClaimed 11 ops ∧
      (after 0 ops).Acquires 1 .tester 11 attempt.agentRunId 900 := by
  intro ops
  have opened : ((after 0 ops).attempts.latest? ((after 0 ops).activeRoundId 1) .tester).map
      (fun attempt => (attempt.status, attempt.agentRunId)) = some (.streaming, some 8) := by
    decide +kernel
  obtain ⟨attempt, latest, fields⟩ := Option.map_eq_some_iff.mp opened
  simp only [Prod.mk.injEq] at fields
  have isOpen : (after 0 ops).OpenAttempt .tester attempt := by
    refine ⟨latest, ?_⟩
    rw [fields.1]
    decide
  have fresh : NeverClaimed 11 ops := by decide
  refine ⟨attempt, isOpen, fresh, ?_⟩
  rw [new_completion_acquirable_iff 0 ops 1 .tester attempt 11 900 isOpen (by decide) fresh]
  have rows : ∀ row ∈ (after 0 ops).claims.rows, row.agentRunId = some 7 := by decide +kernel
  rintro ⟨row, member, run, runEquation, _, sameRun, _⟩
  rw [fields.2] at runEquation
  cases runEquation
  rw [rows row member] at sameRun
  cases sameRun

/-- A second turn of the same run streams as attempt 2; its completion, event
11, is refused because event 10 of that run is applied. -/
theorem second_turn_of_run_loses_completion :
    let ops := testerTurn 7 ++ testerPasses 7 10 ++ testerTurn 7
    ∃ attempt, (after 0 ops).OpenAttempt .tester attempt ∧ attempt.attemptNo = 2 ∧
      NeverClaimed 11 ops ∧ ¬ (after 0 ops).Acquires 1 .tester 11 attempt.agentRunId 900 := by
  intro ops
  have opened : ((after 0 ops).attempts.latest? ((after 0 ops).activeRoundId 1) .tester).map
      (fun attempt => (attempt.status, attempt.attemptNo, attempt.agentRunId)) =
        some (.streaming, 2, some 7) := by
    decide +kernel
  obtain ⟨attempt, latest, fields⟩ := Option.map_eq_some_iff.mp opened
  simp only [Prod.mk.injEq] at fields
  refine ⟨attempt, ⟨latest, ?_⟩, fields.2.1, by decide, ?_⟩
  · rw [fields.1]
    decide
  · rintro ⟨claim, next, outcome, acquired⟩
    rw [fields.2.2] at outcome
    have refused : (claimCompletionEventResult (after 0 ops).claims (after 0 ops).now 1
        (some .tester) 11 (some 7) 900).toOption.map (fun answer => answer.1.acquired) =
          some false := by
      decide +kernel
    rw [outcome] at refused
    simp only [Except.toOption, Option.map_some, Option.some.injEq] at refused
    rw [acquired] at refused
    cases refused

end TaskState

end Wlcodex.Relay
