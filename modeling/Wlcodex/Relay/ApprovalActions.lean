import Wlcodex.Lib.Run
import Wlcodex.Relay.LifecycleFrames
import Wlcodex.Relay.Store

namespace Wlcodex.Relay

open Wlcodex.Lib

/-! External actions on one native approval. -/

namespace TaskState

def Actionable (state : TaskState) (roundId : Nat) (key : ApprovalKey) : Prop :=
  ∃ confirmation ∈ state.confirmationAt roundId,
    confirmation.source = .providerNativeApproval ∧ key.Names confirmation

instance (state : TaskState) (roundId : Nat) (key : ApprovalKey) :
    Decidable (state.Actionable roundId key) :=
  inferInstanceAs (Decidable (∃ confirmation ∈ state.confirmationAt roundId, _ ∧ _))

section Calls

variable (state : TaskState) (roundId : Nat)

theorem moveApproval_cases (key : Option ApprovalKey) (before after : ConfirmationSource) :
    ((state.moveApproval roundId key before after).1 = true ∧
      ∃ named confirmation, key = some named ∧
        state.confirmationAt roundId = some confirmation ∧ confirmation.source = before ∧
        named.Names confirmation ∧
        ∀ other, (state.moveApproval roundId key before after).2.confirmationAt other =
          if other = roundId then some { confirmation with source := after }
          else state.confirmationAt other) ∨
    state.moveApproval roundId key before after = (false, state) := by
  unfold moveApproval
  cases key with
  | none => exact .inr rfl
  | some named =>
      cases found : state.rounds.find? roundId with
      | none => exact .inr rfl
      | some row =>
          simp only
          split
          · rename_i admitted
            refine .inl ⟨rfl, named, row.confirmation, rfl, ?_, admitted.1, admitted.2, ?_⟩
            · simp [confirmationAt, found]
            · refine confirmationAt_modifyRound found _ ?_
              exact fun _ => rfl
          · exact .inr rfl

theorem replaceProviderNativeApproval_cases (request : ApprovalRequest) (expected : Option ApprovalKey) :
    ((state.replaceProviderNativeApproval roundId request expected).1 = .applied ∧
      ∃ key confirmation, ApprovalKey.ofCall request.requestId request.eventId = some key ∧
        state.confirmationAt roundId = some confirmation ∧
        replaceOutcome confirmation key expected = .applied ∧
        ∀ other,
          (state.replaceProviderNativeApproval roundId request expected).2.confirmationAt other =
            if other = roundId then some request.confirmation
            else state.confirmationAt other) ∨
    (state.replaceProviderNativeApproval roundId request expected).1 ≠ .applied ∧
      (state.replaceProviderNativeApproval roundId request expected).2 = state := by
  unfold replaceProviderNativeApproval
  cases keyEquation : ApprovalKey.ofCall request.requestId request.eventId with
  | none => exact .inr ⟨by simp, rfl⟩
  | some key =>
      cases found : state.rounds.find? roundId with
      | none => exact .inr ⟨by simp, rfl⟩
      | some row =>
          simp only
          split
          · rename_i outcome
            refine .inl ⟨rfl, key, row.confirmation, rfl, ?_, outcome, ?_⟩
            · simp [confirmationAt, found]
            · intro other
              have moved : (state.putRoundStatus roundId .waitingUser).rounds.find? roundId =
                  some { row with status := .waitingUser } := by
                rw [find?_of_map rfl (by intro row; split <;> rfl) roundId, found]
                simp [RoundTable.roundId_of_find? found]
              have stored : ∀ current : TaskState,
                  ((current.awaitApproval roundId request).projectApproval request.role
                    .waitingUser .waiting).confirmationAt other =
                  current.confirmationAt other := by
                intro current
                unfold awaitApproval
                split <;> rfl
              rw [stored, confirmationAt_modifyRound moved]
              split
              · rfl
              · exact confirmationAt_of_map rfl (by intro row; split <;> rfl)
                  (by intro row; split <;> rfl) other
          · rename_i refused
            exact .inr ⟨refused, rfl⟩

theorem finalizeProviderNativeApprovalAction_cases (role : Role) (requestId : String)
    (eventId : Int) (interrupted : Bool) :
    ((state.finalizeProviderNativeApprovalAction roundId role requestId eventId interrupted).1 =
        true ∧
      ∃ key confirmation, ApprovalKey.ofCall requestId eventId = some key ∧
        state.confirmationAt roundId = some confirmation ∧
        confirmation.source = .providerNativeResolving ∧ key.Names confirmation ∧
        ∀ other, (state.finalizeProviderNativeApprovalAction roundId role requestId eventId
            interrupted).2.confirmationAt other =
          if other = roundId then some .none else state.confirmationAt other) ∨
    state.finalizeProviderNativeApprovalAction roundId role requestId eventId interrupted =
      (false, state) := by
  unfold finalizeProviderNativeApprovalAction
  cases keyEquation : ApprovalKey.ofCall requestId eventId with
  | none => exact .inr rfl
  | some key =>
      cases found : state.rounds.find? roundId with
      | none => exact .inr rfl
      | some row =>
          simp only
          split
          · rename_i resolving
            refine .inl ⟨rfl, key, row.confirmation, rfl, ?_, resolving.1, resolving.2, ?_⟩
            · simp [confirmationAt, found]
            · intro other
              let status : Status := if interrupted then .interrupted else .running
              have moved : (state.putRoundStatus roundId status).rounds.find? roundId =
                  some { row with status := status } := by
                rw [find?_of_map rfl (by intro row; split <;> rfl) roundId, found]
                simp [RoundTable.roundId_of_find? found]
              let cleared : Round → Round := fun row =>
                { row with waitingReason := .none, confirmation := .none }
              refine (confirmationAt_modifyRound moved cleared (fun _ => rfl) other).trans ?_
              split
              · rfl
              · exact confirmationAt_of_map rfl (by intro row; split <;> rfl)
                  (by intro row; split <;> rfl) other
          · exact .inr rfl

end Calls

end TaskState

inductive ApprovalOp where
  | claim (requestId : String) (eventId : Int) (action : ApprovalAction)
  | restore (requestId : String) (eventId : Int) (action : ApprovalAction)
  | replace (request : ApprovalRequest) (expectedPrevious : Option ApprovalKey)
  | finalize (role : Role) (requestId : String) (eventId : Int) (interrupted : Bool)
  deriving DecidableEq, Repr

namespace ApprovalOp

variable (roundId : Nat) (state : TaskState)

def perform : ApprovalOp → TaskState
  | .claim requestId eventId action =>
      (state.claimProviderNativeApprovalAction roundId requestId eventId action).2
  | .restore requestId eventId action =>
      (state.restoreProviderNativeApprovalAction roundId requestId eventId action).2
  | .replace request expected => (state.replaceProviderNativeApproval roundId request expected).2
  | .finalize role requestId eventId interrupted =>
      (state.finalizeProviderNativeApprovalAction roundId role requestId eventId interrupted).2

def claimed? : ApprovalOp → Option ApprovalKey
  | .claim requestId eventId action =>
      if (state.claimProviderNativeApprovalAction roundId requestId eventId action).1 then
        ApprovalKey.ofCall requestId eventId
      else none
  | _ => none

def restored? : ApprovalOp → Option ApprovalKey
  | .restore requestId eventId action =>
      if (state.restoreProviderNativeApprovalAction roundId requestId eventId action).1 then
        ApprovalKey.ofCall requestId eventId
      else none
  | _ => none

def stored? : ApprovalOp → Option ApprovalKey
  | .replace request expected =>
      if (state.replaceProviderNativeApproval roundId request expected).1 = .applied then
        ApprovalKey.ofCall request.requestId request.eventId
      else none
  | _ => none

end ApprovalOp

/-- A round under any number of workers, with the approvals whose external
action was started and not taken back since. -/
structure ApprovalRun where
  task : TaskState
  outstanding : List ApprovalKey

namespace ApprovalRun

variable (roundId : Nat)

variable (run : ApprovalRun)

def step (op : ApprovalOp) : ApprovalRun where
  task := op.perform roundId run.task
  outstanding :=
    (op.claimed? roundId run.task).toList ++
      run.outstanding.filter fun key => op.restored? roundId run.task ≠ some key

def KeepsOutstanding (op : ApprovalOp) : Prop :=
  ∀ key ∈ op.stored? roundId run.task, key ∉ run.outstanding

instance (run : ApprovalRun) (op : ApprovalOp) : Decidable (KeepsOutstanding roundId run op) :=
  inferInstanceAs (Decidable (∀ key ∈ op.stored? roundId run.task, key ∉ run.outstanding))

def Withheld : Prop :=
  ∀ key ∈ run.outstanding, ¬ run.task.Actionable roundId key

variable {roundId}

theorem task_foldl (ops : List ApprovalOp) :
    (ops.foldl (step roundId) run).task = ops.foldl (ApprovalOp.perform roundId) run.task := by
  induction ops generalizing run with
  | nil => rfl
  | cons op rest ih => exact ih (run.step roundId op)

variable {key : ApprovalKey}

theorem actionable_step (op : ApprovalOp)
    (offered : (op.perform roundId run.task).Actionable roundId key) :
    op.claimed? roundId run.task = none ∧
      (op.restored? roundId run.task = some key ∨ op.stored? roundId run.task = some key ∨
        run.task.Actionable roundId key) := by
  obtain ⟨confirmation, current, source, names⟩ := offered
  have same : ∀ other : ApprovalKey, other.Names confirmation → some other = some key := by
    intro other otherNames
    rw [Option.some.injEq, ApprovalKey.mk.injEq]
    exact ⟨otherNames.1.symm.trans names.1, otherNames.2.symm.trans names.2⟩
  cases op with
  | claim requestId eventId action =>
      rcases run.task.moveApproval_cases roundId (ApprovalKey.ofCall requestId eventId)
          .providerNativeApproval action.source with
        ⟨_, _, stored, _, _, _, _, moved⟩ | refused
      · have reserved := moved roundId
        rw [if_pos rfl] at reserved
        simp only [ApprovalOp.perform, TaskState.claimProviderNativeApprovalAction] at current
        rw [reserved, Option.mem_some_iff] at current
        subst current
        cases action <;> cases source
      · simp only [ApprovalOp.perform, TaskState.claimProviderNativeApprovalAction, refused]
          at current
        simp only [ApprovalOp.claimed?, TaskState.claimProviderNativeApprovalAction, refused]
        exact ⟨rfl, .inr (.inr ⟨confirmation, current, source, names⟩)⟩
  | restore requestId eventId action =>
      refine ⟨rfl, ?_⟩
      rcases run.task.moveApproval_cases roundId (ApprovalKey.ofCall requestId eventId)
          action.source .providerNativeApproval with
        ⟨succeeded, named, stored, keyEquation, _, _, storedNames, moved⟩ | refused
      · left
        have restored := moved roundId
        rw [if_pos rfl] at restored
        simp only [ApprovalOp.perform, TaskState.restoreProviderNativeApprovalAction] at current
        rw [restored, Option.mem_some_iff] at current
        subst current
        simp only [ApprovalOp.restored?, TaskState.restoreProviderNativeApprovalAction, succeeded,
          ↓reduceIte]
        rw [keyEquation]
        exact same named storedNames
      · simp only [ApprovalOp.perform, TaskState.restoreProviderNativeApprovalAction, refused]
          at current
        exact .inr (.inr ⟨confirmation, current, source, names⟩)
  | replace request expected =>
      refine ⟨rfl, .inr ?_⟩
      rcases run.task.replaceProviderNativeApproval_cases roundId request expected with
        ⟨succeeded, stored, _, keyEquation, _, _, moved⟩ | ⟨_, unchanged⟩
      · left
        have replaced := moved roundId
        rw [if_pos rfl] at replaced
        simp only [ApprovalOp.perform] at current
        rw [replaced, Option.mem_some_iff] at current
        subst current
        simp only [ApprovalOp.stored?, succeeded, ↓reduceIte]
        rw [keyEquation]
        refine same stored ?_
        unfold ApprovalKey.ofCall at keyEquation
        split at keyEquation
        · cases keyEquation
        · cases keyEquation
          exact ⟨rfl, rfl⟩
      · simp only [ApprovalOp.perform, unchanged] at current
        exact .inr ⟨confirmation, current, source, names⟩
  | finalize role requestId eventId interrupted =>
      refine ⟨rfl, .inr (.inr ?_)⟩
      rcases run.task.finalizeProviderNativeApprovalAction_cases roundId role requestId eventId
          interrupted with ⟨_, _, _, _, _, _, _, moved⟩ | refused
      · have emptied := moved roundId
        rw [if_pos rfl] at emptied
        simp only [ApprovalOp.perform] at current
        rw [emptied, Option.mem_some_iff] at current
        subst current
        cases source
      · simp only [ApprovalOp.perform, refused] at current
        exact ⟨confirmation, current, source, names⟩

theorem actionable_of_claimed {state : TaskState} {op : ApprovalOp}
    (claimed : op.claimed? roundId state = some key) : state.Actionable roundId key := by
  cases op with
  | claim requestId eventId action =>
      rcases state.moveApproval_cases roundId (ApprovalKey.ofCall requestId eventId)
          .providerNativeApproval action.source with
        ⟨succeeded, named, stored, keyEquation, current, source, names, _⟩ | refused
      · simp only [ApprovalOp.claimed?, TaskState.claimProviderNativeApprovalAction, succeeded,
          ↓reduceIte] at claimed
        rw [keyEquation, Option.some.injEq] at claimed
        subst claimed
        exact ⟨stored, current, source, names⟩
      · simp only [ApprovalOp.claimed?, TaskState.claimProviderNativeApprovalAction, refused]
          at claimed
        cases claimed
  | restore | replace | finalize => cases claimed

theorem withheld_step (op : ApprovalOp) (withheld : Withheld roundId run)
    (keeps : KeepsOutstanding roundId run op) : Withheld roundId (run.step roundId op) := by
  intro key member offered
  obtain ⟨unclaimed, restored | stored | before⟩ := actionable_step run op offered
  · simp [step, unclaimed, restored] at member
  · simp only [step, unclaimed, Option.toList_none, List.nil_append] at member
    exact keeps key stored (List.mem_of_mem_filter member)
  · simp only [step, unclaimed, Option.toList_none, List.nil_append] at member
    exact withheld key (List.mem_of_mem_filter member) before

theorem outstanding_until_restored (ops : List ApprovalOp) (outstanding : key ∈ run.outstanding) :
    key ∈ (ops.foldl (step roundId) run).outstanding ∨
      ∃ earlier op later, ops = earlier ++ op :: later ∧
        op.restored? roundId (earlier.foldl (ApprovalOp.perform roundId) run.task) = some key := by
  induction ops generalizing run with
  | nil => exact .inl outstanding
  | cons op rest ih =>
      by_cases restored : op.restored? roundId run.task = some key
      · exact .inr ⟨[], op, rest, rfl, restored⟩
      · have kept : key ∈ (run.step roundId op).outstanding := by
          refine List.mem_append_right _ (List.mem_filter.mpr ⟨outstanding, ?_⟩)
          simpa using restored
        rcases ih (run.step roundId op) kept with still | ⟨earlier, found, later, split, back⟩
        · exact .inl still
        · exact .inr ⟨op :: earlier, found, later, by rw [split, List.cons_append], back⟩

end ApprovalRun

open ApprovalRun

/-- In every interleaving in which no call makes an approval current while its
external action is outstanding, two claims of one approval have a restore of it
between them. -/
theorem native_approval_claims_separated (roundId : Nat) (state : TaskState)
    (before middle after : List ApprovalOp) (first second : ApprovalOp) (key : ApprovalKey)
    (admissible : Along (ApprovalRun.step roundId) (KeepsOutstanding roundId) ⟨state, []⟩
      (before ++ first :: middle ++ second :: after))
    (firstClaims : first.claimed? roundId (before.foldl (ApprovalOp.perform roundId) state) =
      some key)
    (secondClaims : second.claimed? roundId
      ((before ++ first :: middle).foldl (ApprovalOp.perform roundId) state) = some key) :
    ∃ earlier op later, middle = earlier ++ op :: later ∧
      op.restored? roundId
        ((before ++ first :: earlier).foldl (ApprovalOp.perform roundId) state) = some key := by
  let start : ApprovalRun := ⟨state, []⟩
  let claimed := (before.foldl (step roundId) start).step roundId first
  have claimedTask : claimed.task =
      (before ++ [first]).foldl (ApprovalOp.perform roundId) state := by
    rw [List.foldl_append, ← task_foldl start before]
    rfl
  have outstanding : key ∈ claimed.outstanding := by
    refine List.mem_append_left _ ?_
    rw [task_foldl, firstClaims]
    simp
  rcases outstanding_until_restored claimed middle outstanding with
    still | ⟨earlier, op, later, splitEquation, restored⟩
  · exfalso
    have reached : middle.foldl (step roundId) claimed =
        (before ++ first :: middle).foldl (step roundId) start := by
      rw [List.foldl_append]
      rfl
    have withheld : Withheld roundId ((before ++ first :: middle).foldl (step roundId) start) :=
      invariant_foldl withheld_step (by simp [Withheld, start])
        ((along_append start (before ++ first :: middle) (second :: after)).mp admissible).1
    rw [reached] at still
    refine withheld key still ?_
    rw [task_foldl]
    exact actionable_of_claimed secondClaims
  · refine ⟨earlier, op, later, splitEquation, ?_⟩
    rw [claimedTask, ← List.foldl_append] at restored
    simpa using restored

def commandApproval : ApprovalRequest where
  role := .implementer
  provider := "codex"
  requestId := "approve-1"
  eventId := 5
  nativeSessionId := "native-1"
  agentRunId := some 7
  turnId := "turn-1"
  kind := .commandApproval

theorem native_approval_claims_separated_retry :
    let before : List ApprovalOp := [.replace commandApproval none]
    let first : ApprovalOp := .claim "approve-1" 5 .resolving
    let middle : List ApprovalOp :=
      [.restore "approve-1" 5 .resolving, .replace commandApproval none]
    let second : ApprovalOp := .claim "approve-1" 5 .superseding
    Along (ApprovalRun.step 1) (KeepsOutstanding 1) ⟨.created 0, []⟩
        (before ++ first :: middle ++ [second]) ∧
      ∃ earlier op later, middle = earlier ++ op :: later ∧
        op.restored? 1 ((before ++ first :: earlier).foldl (ApprovalOp.perform 1) (.created 0)) =
          some ⟨"approve-1", 5⟩ := by
  intro before first middle second
  have admissible : Along (ApprovalRun.step 1) (KeepsOutstanding 1) ⟨.created 0, []⟩
      (before ++ first :: middle ++ [second]) := by
    decide +kernel
  exact ⟨admissible, native_approval_claims_separated 1 (.created 0) before middle [] first second
    ⟨"approve-1", 5⟩ admissible (by decide +kernel) (by decide +kernel)⟩

/-- The request is redelivered while its resolution is in flight: it is stored
again and a second worker claims it, with no restore in between. -/
theorem redelivered_approval_claimed_twice :
    let before : List ApprovalOp := [.replace commandApproval none]
    let first : ApprovalOp := .claim "approve-1" 5 .resolving
    let middle : List ApprovalOp := [.replace commandApproval none]
    let second : ApprovalOp := .claim "approve-1" 5 .superseding
    first.claimed? 1 (before.foldl (ApprovalOp.perform 1) (.created 0)) =
        some ⟨"approve-1", 5⟩ ∧
      second.claimed? 1 ((before ++ first :: middle).foldl (ApprovalOp.perform 1) (.created 0)) =
        some ⟨"approve-1", 5⟩ ∧
      ∀ earlier op later, middle = earlier ++ op :: later →
        op.restored? 1 ((before ++ first :: earlier).foldl (ApprovalOp.perform 1) (.created 0)) ≠
          some ⟨"approve-1", 5⟩ := by
  intro before first middle second
  refine ⟨by decide +kernel, by decide +kernel, ?_⟩
  intro earlier op later splitEquation
  have member : op ∈ middle := by
    rw [splitEquation]
    simp
  rw [List.mem_singleton.mp member]
  exact Option.some_ne_none _ ∘ Eq.symm

end Wlcodex.Relay
