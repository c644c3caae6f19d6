import Wlcodex.Relay.LifecycleFrames
import Wlcodex.Relay.Store

namespace Wlcodex.Relay

open Wlcodex.Lib

/-- The artifacts that `observe_artifact` books on an attempt. -/
def ArtifactType.booked : List ArtifactType :=
  [.roleDispatchMetadata, .roleError, .roleArtifactInvalid] ++ ArtifactType.result

/-! What a call adds: it never deletes a round. -/

namespace TaskState

structure Extends (allowed : StatusWrite → Prop) (before after : TaskState) : Prop where
  rounds : ∀ roundId, before.HasRound roundId → after.HasRound roundId
  journal : ∃ writes, after.journal = writes ++ before.journal ∧ ∀ write ∈ writes, allowed write
  attempts : ∀ row ∈ after.attempts.rows,
    (∃ old ∈ before.attempts.rows, old.roundId = row.roundId ∧ old.role = row.role) ∨
      ∃ attemptNo status, allowed (.attempt row.roundId row.role attemptNo status)

variable {allowed : StatusWrite → Prop}

section Composition

variable {state next last : TaskState}

theorem Extends.refl (state : TaskState) : Extends allowed state state where
  rounds _ known := known
  journal := ⟨[], rfl, by simp⟩
  attempts row member := .inl ⟨row, member, rfl, rfl⟩

theorem Extends.trans (first : Extends allowed state next) (second : Extends allowed next last) :
    Extends allowed state last where
  rounds roundId known := second.rounds roundId (first.rounds roundId known)
  journal := by
    obtain ⟨earlier, earlierEquation, earlierAllowed⟩ := first.journal
    obtain ⟨later, laterEquation, laterAllowed⟩ := second.journal
    refine ⟨later ++ earlier, by rw [laterEquation, earlierEquation, List.append_assoc], ?_⟩
    intro write member
    rcases List.mem_append.mp member with isLater | isEarlier
    · exact laterAllowed write isLater
    · exact earlierAllowed write isEarlier
  attempts row member := by
    rcases second.attempts row member with ⟨middle, middleMember, sameRound, sameRole⟩ | opened
    · rw [← sameRound, ← sameRole]
      exact first.attempts middle middleMember
    · exact .inr opened

theorem Extends.mono {more : StatusWrite → Prop} (extends_ : Extends allowed state next)
    (weaker : ∀ write, allowed write → more write) : Extends more state next where
  rounds := extends_.rounds
  journal := by
    obtain ⟨writes, equation, allWrites⟩ := extends_.journal
    exact ⟨writes, equation, fun write member => weaker write (allWrites write member)⟩
  attempts row member := by
    rcases extends_.attempts row member with old | ⟨attemptNo, status, opened⟩
    · exact .inl old
    · exact .inr ⟨attemptNo, status, weaker _ opened⟩

def written (before after : TaskState) : List StatusWrite :=
  after.journal.take (after.journal.length - before.journal.length)

theorem Extends.allowed_of_written {write : StatusWrite} (extends_ : Extends allowed state next)
    (member : write ∈ written state next) : allowed write := by
  obtain ⟨writes, equation, allWrites⟩ := extends_.journal
  unfold written at member
  rw [equation, List.length_append, Nat.add_sub_cancel, List.take_left] at member
  exact allWrites write member

theorem Extends.of_same (rounds : next.rounds = state.rounds)
    (journal : next.journal = state.journal) (attempts : next.attempts = state.attempts) :
    Extends allowed state next where
  rounds roundId known := by
    rw [hasRound_congr (roundStatuses_of_rounds rounds)]
    exact known
  journal := ⟨[], journal, by simp⟩
  attempts row member := .inl ⟨row, attempts ▸ member, rfl, rfl⟩

end Composition

section Primitives

variable (state : TaskState) (roundId : Nat)

theorem extends_modifyRound {change : Round → Round} (sameId : ∀ row, (change row).roundId = row.roundId) :
    Extends allowed state (state.modifyRound roundId change sameId) where
  rounds other known := (hasRound_of_map rfl (by intro row; split <;> simp [sameId]) other).mpr known
  journal := ⟨[], rfl, by simp⟩
  attempts row member := .inl ⟨row, member, rfl, rfl⟩

theorem extends_ensureRound (trigger : TriggerKind) (artifact : Option Nat)
    (opens : ¬ state.HasRound roundId → allowed (.round roundId .running)) :
    Extends allowed state (state.ensureRound roundId trigger artifact) where
  rounds other known := (hasRound_ensureRound trigger artifact other).mpr (.inr known)
  journal := by
    unfold ensureRound
    cases found : state.rounds.find? roundId with
    | none =>
        refine ⟨[.round roundId .running], rfl, ?_⟩
        simp only [List.mem_singleton, forall_eq]
        refine opens fun known => ?_
        obtain ⟨row, rowEquation⟩ := hasRound_iff.mp known
        rw [found] at rowEquation
        cases rowEquation
    | some row => exact ⟨[], rfl, by simp⟩
  attempts row member := .inl ⟨row, by simpa using member, rfl, rfl⟩

theorem extends_putRoundStatus (status : Status)
    (writes : state.HasRound roundId → state.roundStatus roundId ≠ status →
      allowed (.round roundId status)) :
    Extends allowed state (state.putRoundStatus roundId status) where
  rounds other known := (hasRound_putRoundStatus status other).mpr known
  journal := by
    unfold putRoundStatus
    split
    · rename_i moved
      refine ⟨[.round roundId status], rfl, ?_⟩
      simp only [List.mem_singleton, forall_eq]
      cases found : state.rounds.find? roundId with
      | none => simp [found] at moved
      | some row =>
          refine writes (hasRound_iff.mpr ⟨row, found⟩) ?_
          simpa [roundStatus, found] using moved
    · exact ⟨[], rfl, by simp⟩
  attempts row member := .inl ⟨row, member, rfl, rfl⟩

theorem extends_syncLegacyProjection : Extends allowed state state.syncLegacyProjection :=
  .of_same rfl rfl rfl

theorem extends_projectApproval (role : Role) (taskStatus roleStatus : Status) :
    Extends allowed state (state.projectApproval role taskStatus roleStatus) :=
  .of_same rfl rfl rfl

theorem extends_appendArtifact (type : ArtifactType) (payload : Payload) :
    Extends allowed state { state with artifacts := state.artifacts.append type payload } :=
  .of_same rfl rfl rfl

theorem extends_supersedeRounds (closing : Nat → Bool)
    (rounds : ∀ other, closing other → state.HasRound other →
      state.roundStatus other ∉ roundClosed → allowed (.round other .superseded))
    (attempts : ∀ row ∈ state.attempts.rows,
      allowed (.attempt row.roundId row.role row.attemptNo .superseded)) :
    Extends allowed state (state.supersedeRounds closing) where
  rounds _ known := (hasRound_supersedeRounds closing).mpr known
  journal := by
    refine ⟨_, rfl, ?_⟩
    intro write member
    rcases List.mem_append.mp member with isAttempt | isRound
    · obtain ⟨row, rowMember, rfl⟩ := List.mem_map.mp isAttempt
      exact attempts row (List.mem_filter.mp rowMember).1
    · obtain ⟨row, rowMember, rfl⟩ := List.mem_map.mp isRound
      obtain ⟨stored, closes⟩ := List.mem_filter.mp rowMember
      simp only [decide_eq_true_eq] at closes
      have found := RoundTable.find?_of_mem stored
      refine rounds row.roundId closes.1 (hasRound_iff.mpr ⟨row, found⟩) ?_
      simpa [roundStatus, found] using closes.2
  attempts row member := by
    obtain ⟨old, oldMember, rfl⟩ := List.mem_map.mp member
    refine .inl ⟨old, oldMember, ?_⟩
    split <;> exact ⟨rfl, rfl⟩

theorem extends_insertAttempt (row : Attempt)
    (writes : ∀ attemptNo, allowed (.attempt row.roundId row.role attemptNo row.status)) :
    Extends allowed state (state.insertAttempt row) where
  rounds _ known := known
  journal := ⟨[_], rfl, by simpa using writes _⟩
  attempts stored member := by
    rcases List.mem_cons.mp member with rfl | old
    · exact .inr ⟨1, row.status, writes 1⟩
    · exact .inl ⟨stored, old, rfl, rfl⟩

theorem extends_modifyLatestAttempt (role : Role) (change : Attempt → Attempt)
    (sameKey : KeepsKey change)
    (writes : ∀ row, state.attempts.latest? roundId role = some row →
      (change row).status ≠ row.status →
        allowed (.attempt roundId role row.attemptNo (change row).status)) :
    Extends allowed state (state.modifyLatestAttempt roundId role change sameKey) where
  rounds _ known := known
  journal := by
    unfold modifyLatestAttempt
    cases latestEquation : state.attempts.latest? roundId role with
    | none => exact ⟨[], rfl, by simp⟩
    | some row =>
        simp only
        split
        · exact ⟨[], rfl, by simp⟩
        · rename_i moved
          exact ⟨[_], rfl, by simpa using writes row latestEquation moved⟩
  attempts row member := by
    rcases mem_modifyFirst member with old | ⟨found, foundEquation, rfl⟩
    · exact .inl ⟨row, old, rfl, rfl⟩
    · exact .inl ⟨found, List.mem_of_find?_eq_some foundEquation, (sameKey found).1.symm,
        (sameKey found).2.1.symm⟩

end Primitives

section Lifecycle

variable (state : TaskState) (roundId : Nat)

theorem extends_setRoundStatus (status : Status)
    (opens : ¬ state.HasRound roundId → allowed (.round roundId .running))
    (writes : state.roundStatus roundId ≠ status → allowed (.round roundId status)) :
    Extends allowed state (state.setRoundStatus roundId status) := by
  refine (extends_ensureRound state roundId .backfill none opens).trans
    ((extends_putRoundStatus _ roundId status ?_).trans (extends_syncLegacyProjection _))
  intro _ moved
  rw [roundStatus_ensureRound] at moved
  exact writes moved

section Opens

variable (opens : ¬ state.HasRound roundId → allowed (.round roundId .running))
include opens

theorem extends_setRoundRoute (route : Route) (requiredRoles : List Role) :
    Extends allowed state (state.setRoundRoute roundId route requiredRoles) :=
  (extends_ensureRound state roundId _ _ opens).trans (extends_modifyRound _ roundId _)

theorem extends_setRoundExecution (mode : ExecutionMode) (goal : String)
    (criteria : List String) (reason : WaitingReason) :
    Extends allowed state (state.setRoundExecution roundId mode goal criteria reason) :=
  (extends_ensureRound state roundId _ _ opens).trans (extends_modifyRound _ roundId _)

theorem extends_setRoundConfirmation (confirmation : Confirmation) :
    Extends allowed state (state.setRoundConfirmation roundId confirmation) :=
  (extends_ensureRound state roundId _ _ opens).trans (extends_modifyRound _ roundId _)

theorem extends_updateAttempt (role : Role) (change : AttemptChange)
    (writes : ∀ attemptNo, allowed (.attempt roundId role attemptNo
      (change.status.getD .queued))) :
    Extends allowed state (state.updateAttempt roundId role change) := by
  have inPlace : Extends allowed state (state.modifyLatestAttempt roundId role
      (change.apply state.now) fun _ => ⟨rfl, rfl, rfl⟩) := by
    refine extends_modifyLatestAttempt state roundId role _ _ ?_
    intro row _ moved
    cases statusEquation : change.status with
    | none => simp [AttemptChange.apply, statusEquation] at moved
    | some status =>
        have allowedStatus := writes row.attemptNo
        simpa [AttemptChange.apply, statusEquation] using allowedStatus
  unfold updateAttempt
  cases latestEquation : state.attempts.latest? roundId role with
  | none =>
      exact (extends_ensureRound state roundId _ _ opens).trans (extends_insertAttempt _ _ writes)
  | some row =>
      simp only
      split
      · exact .refl state
      · split
        · rename_i reopening
          split
          · have selected := List.find?_some latestEquation
            simp only [decide_eq_true_eq] at selected
            refine extends_insertAttempt state _ ?_
            intro attemptNo
            have allowedStatus := writes attemptNo
            simp only [AttemptChange.next, selected.1, selected.2]
            rcases reopening with queued | streaming
            · simpa [queued] using allowedStatus
            · simpa [streaming] using allowedStatus
          · exact inPlace
        · exact inPlace

theorem extends_ensureAttempt (role : Role) (status : Status) (change : AttemptChange)
    (writes : ∀ attemptNo, allowed (.attempt roundId role attemptNo status)) :
    Extends allowed state (state.ensureAttempt roundId role status change) := by
  refine (extends_ensureRound state roundId _ _ opens).trans
    (extends_updateAttempt _ roundId ?_ role _ writes)
  intro unknown
  exact absurd ((hasRound_ensureRound _ _ _).mpr (.inl rfl)) unknown

theorem extends_setAttemptExecution (role : Role) (mode : ExecutionMode)
    (writes : state.attempts.latest? roundId role = none →
      ∀ attemptNo, allowed (.attempt roundId role attemptNo .queued)) :
    Extends allowed state (state.setAttemptExecution roundId role mode) := by
  have executed : ∀ current : TaskState, Extends allowed current
      (current.modifyLatestAttempt roundId role
        (fun row => { row with executionMode := mode, updatedAt := current.now })
        fun _ => ⟨rfl, rfl, rfl⟩) := by
    intro current
    refine extends_modifyLatestAttempt current roundId role _ _ ?_
    intro row _ moved
    exact absurd rfl moved
  unfold setAttemptExecution
  cases latestEquation : state.attempts.latest? roundId role with
  | none =>
      exact (extends_ensureAttempt state roundId opens role .queued {}
        (writes latestEquation)).trans (executed _)
  | some row => exact executed state

end Opens

theorem extends_claimQueuedAttemptDispatch (role : Role)
    (writes : ∀ attemptNo, allowed (.attempt roundId role attemptNo .dispatching)) :
    Extends allowed state (state.claimQueuedAttemptDispatch roundId role).2 := by
  unfold claimQueuedAttemptDispatch
  split
  · exact .refl state
  · split
    · exact extends_modifyLatestAttempt state roundId role _ _ fun row _ _ => writes row.attemptNo
    · exact .refl state

section Observe

variable (opens : ¬ state.HasRound roundId → allowed (.round roundId .running))
include opens

theorem extends_observeRound (artifact : Artifact) :
    Extends allowed state (state.observeRound roundId artifact) := by
  have routed := extends_setRoundRoute state roundId opens artifact.payload.route
    artifact.payload.requiredRoles
  unfold observeRound
  by_cases routing : artifact.type = .routingDecision
  · simp only [routing, ↓reduceIte]
    split
    · refine routed.trans (extends_setRoundConfirmation _ roundId ?_ _)
      exact fun unknown => opens fun known => unknown (routed.rounds roundId known)
    · exact routed
  · simp only [routing, ↓reduceIte]
    split
    · exact extends_setRoundConfirmation state roundId opens _
    · exact .refl state

variable (role : Role)
  (writes : ∀ attemptNo status, allowed (.attempt roundId role attemptNo status))
include writes

theorem extends_completeAttempt (status : Status) (artifact : Artifact) :
    Extends allowed state (state.completeAttempt roundId role status artifact) := by
  have ensured := extends_ensureAttempt state roundId opens role status {} (writes · status)
  refine ensured.trans (extends_updateAttempt _ roundId ?_ role _ (writes · _))
  exact fun unknown => opens fun known => unknown (ensured.rounds roundId known)

theorem extends_observeDispatch (artifact : Artifact) :
    Extends allowed state (state.observeDispatch roundId role artifact) := by
  unfold observeDispatch
  simp only
  split
  · exact extends_setAttemptExecution state roundId opens role _ fun _ => (writes · _)
  · have ensured := extends_ensureAttempt state roundId opens role
      (initialDispatchStatus (state.roundStatus roundId) (state.attempts.latest? roundId role))
      (dispatchChange artifact) (writes · _)
    have executed := ensured.trans (extends_setAttemptExecution _ roundId
      (fun unknown => opens fun known => unknown (ensured.rounds roundId known)) role
      artifact.payload.providerExecutionMode fun _ => (writes · _))
    split
    · refine executed.trans (extends_updateAttempt _ roundId ?_ role _ (writes · _))
      exact fun unknown => opens fun known => unknown (executed.rounds roundId known)
    · exact executed

theorem extends_observeError (artifact : Artifact) :
    Extends allowed state (state.observeError roundId role artifact) := by
  unfold observeError
  split
  · exact .refl state
  · split
    · have ensured := extends_ensureAttempt state roundId opens role .streaming {} (writes · _)
      refine ensured.trans (extends_updateAttempt _ roundId ?_ role _ (writes · _))
      exact fun unknown => opens fun known => unknown (ensured.rounds roundId known)
    · exact extends_updateAttempt state roundId opens role _ (writes · _)

theorem extends_observeAttempt (artifact : Artifact) :
    Extends allowed state (state.observeAttempt roundId role artifact) := by
  unfold observeAttempt observeResult
  split_ifs
  · exact extends_observeDispatch state roundId opens role writes artifact
  · exact extends_observeError state roundId opens role writes artifact
  · exact .refl state
  · exact extends_completeAttempt state roundId opens role writes _ artifact
  · exact .refl state
  · exact .refl state
  · exact extends_completeAttempt state roundId opens role writes _ artifact
  · exact .refl state

end Observe

theorem observeAttempt_of_not_booked {state : TaskState} {roundId : Nat} {role : Role}
    {artifact : Artifact} (unbooked : artifact.type ∉ ArtifactType.booked) :
    state.observeAttempt roundId role artifact = state := by
  simp only [ArtifactType.booked, List.mem_append, List.mem_cons, List.not_mem_nil, or_false,
    not_or] at unbooked
  unfold observeAttempt
  rw [if_neg unbooked.1.1, if_neg unbooked.1.2.1, if_neg unbooked.1.2.2, if_neg unbooked.2]

theorem extends_observeArtifact (artifact : Artifact)
    (opens : ¬ state.HasRound (state.artifactRound artifact.payload) →
      allowed (.round (state.artifactRound artifact.payload) .running))
    (writes : artifact.type ∈ ArtifactType.booked → ∀ role ∈ artifact.payload.actor,
      ∀ attemptNo status,
        allowed (.attempt (state.artifactRound artifact.payload) role attemptNo status)) :
    Extends allowed state (state.observeArtifact artifact) := by
  have observed := extends_observeRound state _ opens artifact
  unfold observeArtifact
  split
  · exact observed
  · rename_i role actorEquation
    by_cases booked : artifact.type ∈ ArtifactType.booked
    · refine observed.trans
        (extends_observeAttempt _ _ ?_ role (writes booked role actorEquation) artifact)
      exact fun unknown => opens fun known => unknown (observed.rounds _ known)
    · rw [observeAttempt_of_not_booked booked]
      exact observed

end Lifecycle

theorem extends_moveApproval (state : TaskState) (roundId : Nat) (key : Option ApprovalKey)
    (before after : ConfirmationSource) :
    Extends allowed state (state.moveApproval roundId key before after).2 := by
  unfold moveApproval
  split
  · exact .refl state
  · split
    · exact .refl state
    · split
      · refine extends_modifyRound state roundId ?_
        exact fun _ => rfl
      · exact .refl state

/-! ## Any call -/

section Unrestricted

variable (all : ∀ write, allowed write) (state : TaskState)
include all

theorem extends_replay (artifacts : List Artifact) :
    Extends allowed state (artifacts.foldl observeArtifact state) := by
  induction artifacts generalizing state with
  | nil => exact .refl state
  | cons artifact rest ih =>
      exact (extends_observeArtifact state artifact (fun _ => all _)
        fun _ _ _ _ _ => all _).trans (ih (state.observeArtifact artifact))

theorem extends_ensureRounds (ids : List Nat) :
    Extends allowed state (state.ensureRounds ids) := by
  induction ids generalizing state with
  | nil => exact .refl state
  | cons head rest ih =>
      exact (extends_ensureRound state head _ none fun _ => all _).trans (ih _)

theorem extends_supersedePriorRounds (current : Nat) :
    Extends allowed state (state.supersedePriorRounds current) := by
  unfold supersedePriorRounds
  split
  · exact .refl state
  · exact extends_supersedeRounds state _ (fun _ _ _ _ => all _) fun _ _ => all _

theorem extends_repairRounds : Extends allowed state state.repairRounds := by
  unfold repairRounds
  split
  · exact .refl state
  · exact (extends_ensureRounds all state _).trans ((extends_supersedePriorRounds all _ _).trans
      (extends_setRoundStatus _ _ _ (fun _ => all _) fun _ => all _))

theorem extends_migrateJobs (current : Nat) (jobs : List Job) :
    Extends allowed state (jobs.foldl (fun (next : TaskState) job =>
      if job.status = .idle then next
      else next.ensureAttempt current job.role job.status { agentRunId := job.agentRunId })
      state) := by
  induction jobs generalizing state with
  | nil => exact .refl state
  | cons job rest ih =>
      simp only [List.foldl_cons]
      refine Extends.trans ?_ (ih _)
      split
      · exact .refl state
      · exact extends_ensureAttempt state current (fun _ => all _) _ _ _ fun _ => all _

theorem extends_backfillTask : Extends allowed state state.backfillTask := by
  unfold backfillTask
  split
  · exact (extends_ensureRounds all state _).trans ((extends_supersedePriorRounds all _ _).trans
      ((extends_setRoundStatus _ _ _ (fun _ => all _) fun _ => all _).trans
        ((extends_migrateJobs all _ _ _).trans ((extends_replay all _ _).trans
          (extends_syncLegacyProjection _)))))
  · exact (extends_repairRounds all state).trans ((extends_replay all _ _).trans
      (extends_syncLegacyProjection _))

theorem extends_saveArtifact (role : Option Role) (type : ArtifactType) (payload : Payload) :
    Extends allowed state (state.saveArtifact role type payload) := by
  unfold saveArtifact
  split
  · unfold fileArtifact
    exact (extends_backfillTask all state).trans ((extends_appendArtifact _ _ _).trans
      ((extends_observeArtifact _ _ (fun _ => all _) fun _ _ _ _ _ => all _).trans
        (extends_syncLegacyProjection _)))
  · exact .refl state

theorem extends_updateRoleStatus (role : Role) (status : Status) :
    Extends allowed state (state.updateRoleStatus role status) := by
  unfold updateRoleStatus
  refine (extends_backfillTask all state).trans ?_
  simp only
  split
  · split
    · exact .of_same rfl rfl rfl
    · exact (extends_updateAttempt _ _ (fun _ => all _) _ _ fun _ => all _).trans
        (extends_syncLegacyProjection _)
  · exact (extends_updateAttempt _ _ (fun _ => all _) _ _ fun _ => all _).trans
      (extends_syncLegacyProjection _)

theorem extends_updateTaskStatus (status : Status) :
    Extends allowed state (state.updateTaskStatus status) :=
  (extends_backfillTask all state).trans
    ((extends_setRoundStatus _ _ status (fun _ => all _) fun _ => all _).trans
      (extends_syncLegacyProjection _))

theorem extends_updateRoleMetadata (role : Role) (metadata : RoleMetadata) :
    Extends allowed state (state.updateRoleMetadata role metadata) := by
  unfold updateRoleMetadata
  split
  · exact .refl state
  · have assigned : Extends allowed state
        (metadata.agentRunId.elim state (state.putJobRun role)) := by
      cases metadata.agentRunId with
      | none => exact .refl state
      | some run => exact .of_same rfl rfl rfl
    exact assigned.trans ((extends_backfillTask all _).trans ((extends_saveArtifact all _ _ _ _).trans
        ((extends_updateAttempt _ _ (fun _ => all _) _ _ fun _ => all _).trans
          ((extends_setAttemptExecution _ _ (fun _ => all _) _ _ fun _ _ => all _).trans
            (extends_syncLegacyProjection _)))))

theorem extends_startFollowupRound (trigger : Option Nat) :
    Extends allowed state (state.startFollowupRound trigger).2 :=
  (extends_backfillTask all state).trans
    ((extends_supersedeRounds _ _ (fun _ _ _ _ => all _) fun _ _ => all _).trans
      ((extends_ensureRound _ _ _ _ fun _ => all _).trans
        ((extends_setRoundExecution _ _ (fun _ => all _) _ _ _ _).trans
          ((extends_ensureAttempt _ _ (fun _ => all _) _ _ _ fun _ => all _).trans
            ((extends_setAttemptExecution _ _ (fun _ => all _) _ _ fun _ _ => all _).trans
              (extends_syncLegacyProjection _))))))

theorem extends_replaceProviderNativeApproval (roundId : Nat) (request : ApprovalRequest)
    (expected : Option ApprovalKey) :
    Extends allowed state (state.replaceProviderNativeApproval roundId request expected).2 := by
  have awaited : ∀ current : TaskState,
      Extends allowed current (current.awaitApproval roundId request) := by
    intro current
    unfold awaitApproval
    split
    · exact extends_insertAttempt current _ fun _ => all _
    · exact extends_modifyLatestAttempt current roundId _ _ _ fun _ _ _ => all _
  unfold replaceProviderNativeApproval
  split
  · exact .refl state
  · split
    · exact .refl state
    · split
      · exact (extends_putRoundStatus state roundId _ fun _ _ => all _).trans
          ((extends_modifyRound _ roundId _).trans ((awaited _).trans
            (extends_projectApproval _ _ _ _)))
      · exact .refl state

theorem extends_finalizeProviderNativeApprovalAction (roundId : Nat) (role : Role)
    (requestId : String) (eventId : Int) (interrupted : Bool) :
    Extends allowed state
      (state.finalizeProviderNativeApprovalAction roundId role requestId eventId interrupted).2 := by
  unfold finalizeProviderNativeApprovalAction
  split
  · exact .refl state
  · split
    · exact .refl state
    · split
      · exact (extends_putRoundStatus state roundId _ fun _ _ => all _).trans
          ((extends_modifyRound _ roundId _).trans
            ((extends_modifyLatestAttempt _ roundId role _ _ fun _ _ _ => all _).trans
              (extends_projectApproval _ _ _ _)))
      · exact .refl state

theorem extends_quarantine (roundId seconds : Nat) :
    Extends allowed state (state.quarantineStaleUnverifiedDispatches roundId seconds) where
  rounds _ known := known
  journal := ⟨_, rfl, fun _ _ => all _⟩
  attempts row _ := .inr ⟨row.attemptNo, row.status, all _⟩

theorem extends_step (op : StoreOp) : Extends allowed state (state.step op) := by
  cases op with
  | saveArtifact role type payload => exact extends_saveArtifact all state role type payload
  | updateRoleStatus role status => exact extends_updateRoleStatus all state role status
  | updateTaskStatus status => exact extends_updateTaskStatus all state status
  | updateRoleMetadata role metadata => exact extends_updateRoleMetadata all state role metadata
  | startFollowupRound trigger => exact extends_startFollowupRound all state trigger
  | setRoundExecution roundId mode goal criteria reason =>
      exact extends_setRoundExecution state roundId (fun _ => all _) mode goal criteria reason
  | setRoundConfirmation roundId confirmation =>
      exact extends_setRoundConfirmation state roundId (fun _ => all _) confirmation
  | clearRoundConfirmation roundId =>
      exact extends_setRoundConfirmation state roundId (fun _ => all _) _
  | claimQueuedAttemptDispatch roundId role =>
      exact extends_claimQueuedAttemptDispatch state roundId role fun _ => all _
  | quarantineStaleUnverifiedDispatches roundId seconds =>
      exact extends_quarantine all state roundId seconds
  | claimApproval roundId requestId eventId action =>
      exact extends_moveApproval state roundId _ _ _
  | restoreApproval roundId requestId eventId action =>
      exact extends_moveApproval state roundId _ _ _
  | replaceApproval roundId request expected =>
      exact extends_replaceProviderNativeApproval all state roundId request expected
  | finalizeApproval roundId role requestId eventId interrupted =>
      exact extends_finalizeProviderNativeApprovalAction all state roundId role requestId eventId
        interrupted
  | claimCompletion roundId role event run lease =>
      simp only [step]
      split
      · exact .of_same rfl rfl rfl
      · exact .refl state
  | markCompletionApplied | markCompletionIgnoredStale | releaseCompletion | annotateQuestion | elsewhere =>
      exact .of_same rfl rfl rfl
  | recordGoalAcceptance attempt =>
      simp only [step, recordGoalAcceptance]
      split
      · exact .of_same rfl rfl rfl
      · exact .refl state
  | backfillTask => exact extends_backfillTask all state

end Unrestricted

theorem hasRound_one_created (now : Nat) : (created now).HasRound 1 := by
  have opened : ((blank now).ensureRound 1 .initial none).HasRound 1 :=
    (hasRound_ensureRound _ _ _).mpr (.inl rfl)
  have rest : Extends (fun _ => True) ((blank now).ensureRound 1 .initial none) (created now) :=
    (extends_ensureAttempt _ 1 (fun _ => trivial) _ _ _ fun _ => trivial).trans
      ((extends_syncLegacyProjection _).trans (extends_saveArtifact (fun _ => trivial) _ _ _ _))
  exact rest.rounds 1 opened

theorem hasRound_one_after (start : Nat) (ops : List StoreOp) : (after start ops).HasRound 1 := by
  unfold after
  induction ops using List.reverseRecOn with
  | nil => exact hasRound_one_created start
  | append_singleton earlier op ih =>
      rw [List.foldl_append]
      have grown : Extends (fun _ => True) (earlier.foldl step (created start))
          ((earlier.foldl step (created start)).step op) :=
        extends_step (fun _ => trivial) _ op
      exact grown.rounds 1 ih

end TaskState

end Wlcodex.Relay
