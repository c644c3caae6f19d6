import Wlcodex.Relay.Routing

namespace Wlcodex.Relay

/-! Goal mode: a final summary completes the task on a recorded verification only. -/

def normalizeAcceptanceCriteria (values : List String) : List String :=
  values.foldl (fun criteria value =>
    if strip value ≠ "" ∧ strip value ∉ criteria then criteria ++ [strip value] else criteria) []

def SameCriteria (first second : List String) : Prop :=
  first ⊆ second ∧ second ⊆ first

instance (first second : List String) : Decidable (SameCriteria first second) :=
  inferInstanceAs (Decidable (_ ∧ _))

/-- What the controlled test executor answers; `status` is `none` for a text
outside the vocabulary. -/
structure TestExecution where
  executed : Bool
  status : Option AcceptanceStatus
  exitCode : Option Int
  reason : String
  deriving DecidableEq, Repr

/-- `_goal_not_run_execution`. -/
def TestExecution.notRun (reason : String) : TestExecution where
  executed := false
  status := some .notRun
  exitCode := none
  reason := reason

namespace TaskState

def eligibleImplementation (roundId : Nat) (entry : Nat × Artifact) : Bool :=
  max 1 entry.1 = roundId ∧ entry.2.payload.actor = some .implementer ∧
    entry.2.type = .implementationReport ∧ entry.2.payload.status = some .passed ∧
    cleanStringList entry.2.payload.evidenceRefs ≠ [] ∧
    (positiveRun entry.2.payload.implementationRunId).isSome

/-- `_current_goal_implementation_artifact`: the eligible report with the
greatest id.  Ids ascend, so it is the last one. -/
def currentGoalImplementation? (state : TaskState) (roundId : Nat) : Option Artifact :=
  ((state.relayArtifacts.filter (eligibleImplementation roundId)).map Prod.snd).getLast?

def notRunAttempt (roundId artifactId : Nat) (role : Role)
    (implementation : Option Nat) (run : Option Nat) (criteria : List String)
    (declaresTest : Bool) : AcceptanceAttempt where
  roundId := roundId
  implementationArtifactId := implementation
  implementationRunId := run
  verifierArtifactId := artifactId
  verifierRole := role
  criteria := criteria
  declaresTest := declaresTest
  executed := false
  exitCode := none
  status := .notRun
  evidenceStatus := .notRun

def coveredCriteria (declaration : GoalDeclaration) (required : List String) : List String :=
  let declared := normalizeAcceptanceCriteria declaration.criteria
  if declared = [] ∧ required.length = 1 then required else declared

def evidenceStatus (role : Role) (envelope : RoleEnvelope) (test : AcceptanceStatus) :
    AcceptanceStatus :=
  if envelope.status ≠ .passed ∨ cleanStringList envelope.evidenceRefs = [] then .failed
  else if role = .tester then test
  else if test = .failed then .failed
  else .passed

/-- The record that `_record_goal_acceptance_for_output` makes for an output,
and the error it returns; `none` when the output needs no record. -/
def acceptanceForOutput? (state : TaskState) (role : Role) (message : RoleMessage)
    (artifactId roundId : Nat) (executor : TestExecution) :
    Option (AcceptanceAttempt × String) :=
  let envelope := message.envelope
  let contract := state.roundExecution roundId
  if contract.executionMode ≠ .goal then none
  else if role ∉ [Role.tester, Role.auditor] ∨ envelope.artifactType ≠ verifierReport role then
    none
  else
    let required := normalizeAcceptanceCriteria contract.acceptanceCriteria
    let refuse := fun (attempt : AcceptanceAttempt) (reason : String) =>
      some (attempt, if envelope.status = .passed then reason else "")
    match message.goalAcceptance with
    | .error error =>
        refuse (notRunAttempt roundId artifactId role none none [] false)
          ("goal acceptance declaration rejected: " ++ error)
    | .ok declaration =>
        let covered := coveredCriteria declaration required
        let run := some declaration.implementationRunId
        if required = [] ∨ ¬ SameCriteria covered required then
          refuse (notRunAttempt roundId artifactId role none none covered declaration.declaresTest)
            "goal acceptance declaration must cover every stated acceptance criterion"
        else
          match (state.currentGoalImplementation? roundId).filter fun artifact =>
            positiveRun artifact.payload.implementationRunId = run with
          | none =>
              refuse
                (notRunAttempt roundId artifactId role none run covered declaration.declaresTest)
                ("goal acceptance implementation_run_id does not match the latest " ++
                  "passed implementation run in the current round")
          | some implementation =>
              if role = .tester ∧ ¬ declaration.declaresTest then
                refuse
                  (notRunAttempt roundId artifactId role (some implementation.id) run covered
                    declaration.declaresTest)
                  "goal acceptance tester must declare an approved controlled test"
              else
                let execution :=
                  if ¬ declaration.declaresTest then
                    .notRun "independent audit evidence has no declared test"
                  else if executor.status = none then
                    .notRun "approved goal test executor returned an invalid status"
                  else executor
                let status := execution.status.getD .notRun
                let evidence := evidenceStatus role envelope status
                let reason :=
                  if cleanStringList envelope.evidenceRefs = [] then
                    orText execution.reason "goal acceptance verifier evidence_refs are required"
                  else execution.reason
                some ({
                  roundId := roundId
                  implementationArtifactId := some implementation.id
                  implementationRunId := run
                  verifierArtifactId := artifactId
                  verifierRole := role
                  criteria := covered
                  declaresTest := declaration.declaresTest
                  executed := execution.executed
                  exitCode := execution.exitCode
                  status := status
                  evidenceStatus := evidence },
                  if envelope.status ≠ .passed ∨ evidence = .passed then ""
                  else if status = .failed then
                    "goal acceptance controlled test failed: " ++ orText reason "test failed"
                  else
                    "goal acceptance controlled test was not run: " ++
                      orText reason "test was not run")

def latestAcceptance? (state : TaskState) (roundId implementation run : Nat) (role : Role) :
    Option GoalAcceptanceRecord :=
  (state.records.filter fun record =>
    record.roundId = roundId ∧ record.implementationArtifactId = some implementation ∧
      record.implementationRunId = some run ∧ record.verifierRole = role).getLast?

def ReportsPass (state : TaskState) (roundId : Nat) (record : GoalAcceptanceRecord) : Prop :=
  ∃ entry ∈ state.relayArtifacts,
    max 1 entry.1 = roundId ∧ entry.2.id = record.verifierArtifactId ∧
      entry.2.payload.actor = some record.verifierRole ∧
      entry.2.type = verifierReport record.verifierRole ∧
      entry.2.payload.status = some .passed ∧
      cleanStringList entry.2.payload.evidenceRefs ≠ []

instance (state : TaskState) (roundId : Nat) (record : GoalAcceptanceRecord) :
    Decidable (state.ReportsPass roundId record) :=
  inferInstanceAs (Decidable (∃ entry ∈ state.relayArtifacts, _ ∧ _ ∧ _ ∧ _ ∧ _ ∧ _))

def TestCounts (record : GoalAcceptanceRecord) : Prop :=
  if record.verifierRole = .tester then
    record.status = .passed ∧ record.executed = true ∧ record.exitCode = some 0 ∧
      record.declaresTest = true
  else
    match record.status with
    | .passed => record.executed = true ∧ record.exitCode = some 0
    | .notRun => record.executed = false ∧ record.declaresTest = false
    | .failed => False

instance : DecidablePred TestCounts := fun record => by
  unfold TestCounts
  split
  · infer_instance
  · cases record.status <;> infer_instance

def AcceptsCompletion (state : TaskState) (roundId : Nat) (criteria : List String)
    (record : GoalAcceptanceRecord) : Prop :=
  record.evidenceStatus = .passed ∧ state.ReportsPass roundId record ∧
    SameCriteria (normalizeAcceptanceCriteria record.criteria) criteria ∧ TestCounts record

instance (state : TaskState) (roundId : Nat) (criteria : List String) :
    DecidablePred (state.AcceptsCompletion roundId criteria) := fun _ =>
  inferInstanceAs (Decidable (_ ∧ _ ∧ _ ∧ _))

def VerifierAccepts (state : TaskState) (roundId : Nat) (criteria : List String)
    (implementation run : Nat) : Prop :=
  ∃ role ∈ [Role.tester, Role.auditor],
    ∃ record ∈ state.latestAcceptance? roundId implementation run role,
      state.AcceptsCompletion roundId criteria record

instance (state : TaskState) (roundId : Nat) (criteria : List String) (implementation run : Nat) :
    Decidable (state.VerifierAccepts roundId criteria implementation run) :=
  inferInstanceAs (Decidable (∃ role ∈ [Role.tester, Role.auditor],
    ∃ record ∈ state.latestAcceptance? roundId implementation run role, _))

def missingGoalRoles (detail : TaskState) : List String :=
  (if .implementer ∈ detail.completedRoles then [] else [Role.implementer.displayName]) ++
    if .tester ∉ detail.completedRoles ∧ .auditor ∉ detail.completedRoles then
      ["测试员或审计员"]
    else []

/-- The part of `_final_summary_completion_error` for goal mode. -/
def goalCompletionError (detail : TaskState) : String :=
  let lead := "goal mode final_summary before acceptance evidence completed: "
  let roundId := detail.detailRoundId
  let criteria := normalizeAcceptanceCriteria (detail.roundExecution roundId).acceptanceCriteria
  if criteria = [] then lead ++ "acceptance_criteria"
  else if detail.missingGoalRoles ≠ [] then
    lead ++ String.intercalate ", " detail.missingGoalRoles
  else
    match detail.currentGoalImplementation? roundId with
    | none => lead ++ "current implementation run evidence"
    | some implementation =>
        match positiveRun implementation.payload.implementationRunId with
        | none => lead ++ "current implementation run identity"
        | some run =>
            if detail.VerifierAccepts roundId criteria implementation.id run then ""
            else
              "goal mode final_summary before independent acceptance evidence completed: " ++
                "run-bound controlled test or audit record"

/-- `_final_summary_completion_error`; the empty text is success. -/
def finalSummaryCompletionError (detail : TaskState) : String :=
  let goalError :=
    if (detail.roundExecution detail.detailRoundId).executionMode = .goal then
      detail.goalCompletionError
    else ""
  let missing := detail.requiredRoles.filter fun role =>
    role ≠ .director ∧ role ∉ detail.completedRoles
  if detail.decidedRoute = .none then "missing routing_decision before final_summary"
  else if goalError ≠ "" then goalError
  else if detail.decidedRoute = .directorOnly then ""
  else if missing ≠ [] then
    "final_summary before required relay roles completed: " ++
      String.intercalate ", " (missing.map Role.displayName)
  else ""

theorem goalCompletionError_of_accepted {detail : TaskState}
    (goal : (detail.roundExecution detail.detailRoundId).executionMode = .goal)
    (accepted : detail.finalSummaryCompletionError = "") : detail.goalCompletionError = "" := by
  unfold finalSummaryCompletionError at accepted
  simp only [goal, ↓reduceIte] at accepted
  by_contra refused
  split at accepted
  · exact absurd accepted (by decide)
  · exact refused accepted

theorem ne_empty_of_lead {lead rest : String} (nonempty : lead ≠ "") : lead ++ rest ≠ "" := by
  intro empty
  exact nonempty (String.append_eq_empty_iff.mp empty).1

theorem accepts_of_goalCompletionError {detail : TaskState} (accepted : detail.goalCompletionError = "") :
    ∃ implementation run,
      detail.currentGoalImplementation? detail.detailRoundId = some implementation ∧
      positiveRun implementation.payload.implementationRunId = some run ∧
      detail.VerifierAccepts detail.detailRoundId
        (normalizeAcceptanceCriteria
          (detail.roundExecution detail.detailRoundId).acceptanceCriteria)
        implementation.id run := by
  unfold goalCompletionError at accepted
  simp only at accepted
  split at accepted
  · exact absurd accepted (ne_empty_of_lead (by decide))
  · split at accepted
    · exact absurd accepted (ne_empty_of_lead (by decide))
    · split at accepted
      · exact absurd accepted (ne_empty_of_lead (by decide))
      · rename_i implementation current
        split at accepted
        · exact absurd accepted (ne_empty_of_lead (by decide))
        · rename_i run runEquation
          split at accepted
          · rename_i verified
            exact ⟨implementation, run, current, runEquation, verified⟩
          · exact absurd accepted (by decide)

end TaskState

end Wlcodex.Relay
