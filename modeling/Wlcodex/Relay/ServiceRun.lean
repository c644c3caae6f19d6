import Wlcodex.Relay.ControlCalls

namespace Wlcodex.Relay

open Wlcodex.Lib

/-! Runs of the service on one task. -/

/-- What `create_task` is asked for. -/
structure TaskRequest where
  mode : ExecutionMode
  goal : String := ""
  acceptanceCriteria : List String := []
  /-- Images or files are attached. -/
  attachments : Bool := false
  /-- Goal mode needs a goal and acceptance criteria. -/
  stated : mode = .goal → strip goal ≠ "" ∧ normalizeAcceptanceCriteria acceptanceCriteria ≠ []

inductive ServiceInput where
  /-- The director is dispatched, as after the creation. -/
  | dispatch (world : World)
  | roleOutput (world : World) (role : Role) (known : role ∈ relayRoleIds) (output : RoleOutput)
      (dispatchNext : Bool) (runtimeEventId : Int)
  | nativeCompletion (world : World) (completion : Completion)
      (known : completion.role ∈ relayRoleIds)
  | roundControl (world : World) (control : RoundControl) (answer : ResolveAnswer)
  | userMessage (world : World) (answer : FollowupAnswer)
  | elsewhere (elapsed artifacts : Nat)

def ServiceInput.role : ServiceInput → Role
  | .roleOutput _ role _ _ _ _ => role
  | .nativeCompletion _ completion _ => completion.role
  | _ => .director

def ServiceInput.message? : ServiceInput → Option RoleMessage
  | .roleOutput _ _ _ (.message message) _ _ => some message
  | .nativeCompletion _ completion _ =>
      match completion.output with
      | some (.message message) => some message
      | _ => none
  | _ => none

namespace Service

open Script TaskState

/-- `create_task`, after the store has created the task. -/
def createTask (request : TaskRequest) : Handler Unit := do
  perform (.setRoundExecution 1 request.mode (strip request.goal)
    (normalizeAcceptanceCriteria request.acceptanceCriteria) .none)
  if request.attachments then
    let _ ← saveArtifact (some .director) .userAttachments {}
    let _ ← getTaskDetail
    let _ ← saveArtifact (some .director) .relayBoard {}
  let _ ← getTaskDetail

def opened (start : Nat) (request : TaskRequest) : TaskState :=
  (createTask request).final TaskState.step (created start)

def handler : ServiceInput → Handler Unit
  | .dispatch world => dispatchRole world .director
  | .roleOutput world role _ output dispatchNext runtimeEventId =>
      handleRoleOutput world role output dispatchNext runtimeEventId
  | .nativeCompletion world completion _ => applyNativeCompletionOutput world completion
  | .roundControl world control answer => applyRoundControl world control answer
  | .userMessage world answer => addUserMessage world answer
  | .elsewhere elapsed artifacts => perform (.elsewhere elapsed artifacts)

def callsOf (state : TaskState) (input : ServiceInput) : List StoreOp :=
  (handler input).calls TaskState.step state

def serve (state : TaskState) (input : ServiceInput) : TaskState :=
  (handler input).final TaskState.step state

def report (status : EnvelopeStatus) (role : Role) (type : ArtifactType) (handoffTo : Option Role := none)
    (goalAcceptance : Except String GoalDeclaration := .error "")
    (knownRole : role ∈ relayRoleIds := by decide) (knownType : type ∈ ArtifactType.roleEnvelope := by decide)
    (knownTarget : ∀ target ∈ handoffTo, target ∈ relayRoleIds := by decide) : RoleMessage where
  envelope := ⟨status, role, type, handoffTo, ["evidence"], [], false, knownRole, knownType,
    knownTarget⟩
  routing := {}
  goalAcceptance := goalAcceptance

def decision (requiredRoles : List Role) : RoleMessage where
  envelope := (report .passed .director .routingDecision).envelope
  routing := {
    complexity := some "small"
    risk := some "low"
    route := some .fullRelay
    requiredRoles := some requiredRoles
    acceptanceCriteria := some ["tests pass"]
    stopConditions := some []
    requiresUserApproval := some false }
  goalAcceptance := .error ""

def smoothWorld : World where
  dispatch := .verified { agentRunId := some 11, dispatchVerified := true }
  test := ⟨true, some .passed, some 0, ""⟩

def answers (role : Role) (message : RoleMessage) (known : role ∈ relayRoleIds := by decide) :
    ServiceInput :=
  .roleOutput smoothWorld role known (.message message) true 0

variable {mode : ExecutionMode} {speaks : Nat → Role → Prop}

theorem inOrder_first {status : Status} (open_ : status ≠ .superseded) :
    InOrder mode 1 status [(1, status, mode)] where
  ids := by
    simp only [List.map_cons, List.map_nil, List.mem_singleton]
    omega
  active := List.mem_singleton.mpr rfl
  open_ := open_
  prior := by simp

theorem current_createInitialRound (start : Nat) (directed : speaks 1 .director) :
    Current .standard speaks 1 (blank start).createInitialRound where
  order :=
    have running : InOrder .standard 1 .running [(1, .running, .standard)] :=
      inOrder_first (by decide)
    running
  filed := by
    intro artifact member
    cases member
  voices := by
    have rows : (blank start).createInitialRound.attempts.rows.map
        (fun row => (row.roundId, row.role)) = [(1, .director)] := rfl
    intro row member
    have key := List.mem_map_of_mem (f := fun row => (row.roundId, row.role)) member
    rw [rows, List.mem_singleton, Prod.mk.injEq] at key
    rw [key.1, key.2]
    exact directed

theorem current_setRoundExecution {state : TaskState} {before : ExecutionMode}
    (current : Current before speaks 1 state) (mode : ExecutionMode) (goal : String)
    (criteria : List String) (reason : WaitingReason) :
    Current mode speaks 1 (state.setRoundExecution 1 mode goal criteria reason) := by
  have order := current.order
  have only : ∀ row ∈ state.rounds.rows, row.roundId = 1 := by
    intro row member
    have known := order.hasRound_iff_le.mp (hasRound_iff.mpr ⟨row, RoundTable.find?_of_mem member⟩)
    omega
  have contracts : (state.setRoundExecution 1 mode goal criteria reason).contracts =
      state.contracts.map fun entry => (entry.1, entry.2.1, mode) := by
    unfold TaskState.setRoundExecution
    rw [ensureRound_of_hasRound order.hasRound]
    unfold TaskState.contracts modifyRound RoundTable.modify
    simp only [List.map_map]
    refine List.map_congr_left fun row member => ?_
    simp only [Function.comp_apply, only row member, ↓reduceIte]
  have writes : Extends (Spoken speaks fun _ => True) state
      (state.setRoundExecution 1 mode goal criteria reason) :=
    extends_setRoundExecution state 1 (fun _ => trivial) mode goal criteria reason
  have sameStatus : (state.setRoundExecution 1 mode goal criteria reason).status =
      state.status := by
    unfold TaskState.setRoundExecution
    rw [ensureRound_of_hasRound order.hasRound]
    rfl
  refine ⟨?_, ?_, current.voices_of_extends writes⟩
  · rw [contracts, sameStatus]
    refine ⟨?_, ?_, order.open_, ?_⟩
    · intro other
      rw [← order.ids other, List.map_map]
      rfl
    · exact List.mem_map.mpr ⟨_, order.active, rfl⟩
    · intro entry member
      obtain ⟨stored, storedMember, rfl⟩ := List.mem_map.mp member
      exact ⟨rfl, (order.prior stored storedMember).2⟩
  · intro artifact member
    rw [artifacts_eq_of_ledgers (ledgers_setRoundExecution _ _ _ _ _ _)] at member
    obtain ⟨positive, known, voiced⟩ := current.filed artifact member
    exact ⟨positive, writes.rounds _ known, voiced⟩

theorem current_opened (start : Nat) (request : TaskRequest)
    (directed : ∀ roundId, speaks roundId .director) :
    Current request.mode speaks 1 (opened start request) := by
  have first : Stays .standard speaks 1 (fun _ => True) _ (created start) :=
    (current_createInitialRound start (directed 1)).saveArtifact (some .director) .relayBoard {}
      rfl ⟨Nat.one_pos, le_rfl⟩ fun booked => absurd booked (by decide)
  have contracted := current_setRoundExecution first.current request.mode (strip request.goal)
    (normalizeAcceptanceCriteria request.acceptanceCriteria) .none
  have read : Within request.mode speaks 1 Unfinished (do let _ ← getTaskDetail)
      fun _ => True := within_getTaskDetail.bind fun _ _ => keeps_pure trivial
  have saved : ∀ type : ArtifactType, type ∉ ArtifactType.booked →
      Within request.mode speaks 1 Unfinished (saveArtifact (some .director) type {})
        fun _ => True := fun type unbooked =>
    within_saveArtifact rfl ⟨Nat.one_pos, le_rfl⟩ fun booked => absurd booked unbooked
  have within : Within request.mode speaks 1 Unfinished (do
      if request.attachments then
        let _ ← saveArtifact (some .director) .userAttachments {}
        let _ ← getTaskDetail
        let _ ← saveArtifact (some .director) .relayBoard {}
      let _ ← getTaskDetail) fun _ => True := by
    refine keeps_ite (fun _ => ?_) fun _ => read
    refine (saved .userAttachments (by decide)).bind fun _ _ => ?_
    refine within_getTaskDetail.bind fun _ _ => ?_
    exact (saved .relayBoard (by decide)).bind fun _ _ => read
  have finished := final_of_keeps within contracted
  exact finished

end Service

end Wlcodex.Relay
