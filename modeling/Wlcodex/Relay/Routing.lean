import Wlcodex.Relay.Envelope

namespace Wlcodex.Relay

/-! Who is next. -/

/-- `_clean_required_roles`: known role ids, each once. -/
def cleanRequiredRoles (values : List Role) : List Role :=
  values.foldl (fun roles value =>
    if value.stripped ∈ relayRoleIds ∧ value.stripped ∉ roles then roles ++ [value.stripped]
    else roles) []

def normalizeRequiredRolesForRoute (route : Route) (values : List Role) : List Role :=
  let required := cleanRequiredRoles values
  let required := if .director ∈ required then required else .director :: required
  if route = .directorOnly then [.director]
  else if route = .coreRelay then
    let required :=
      if ∃ role ∈ required, role ≠ .director then required else required ++ [.implementer]
    if .implementer ∈ required ∧ .auditor ∉ required then required ++ [.auditor] else required
  else required

def firstRequiredRoleAfterDirector (required : List Role) (route : Route) : Option Role :=
  if route = .auditFirst ∧ .auditor ∈ required then some .auditor
  else relayRoleIds.find? fun role => role ≠ .director ∧ role ∈ required

def orderedRequiredRoles (required : List Role) (route : Route) : List Role :=
  let ordered := relayRoleIds.filter (· ∈ required)
  if route = .auditFirst ∧ .auditor ∈ ordered then
    let others := ordered.filter (· ≠ .auditor)
    others.insertIdx (if .director ∈ others then 1 else 0) .auditor
  else ordered

def nextUncompletedRequiredRole (required completed : List Role) (route : Route) : Option Role :=
  (orderedRequiredRoles required route).find? fun role => role ≠ .director ∧ role ∉ completed

namespace TaskState

variable (state : TaskState)

/-- The state that `get_task_detail` reads. -/
def detail : TaskState := state.backfillTask.syncLegacyProjection

/-- The round that `get_task_detail` reports as current. -/
def detailRoundId : Nat := state.activeRoundId state.artifactRoundFallback

def artifactsForRound (roundId : Nat) : List Artifact :=
  (state.relayArtifacts.filter fun entry => entry.1 = roundId).map Prod.snd

/-- `_latest_routing_decision` of the current round. -/
def routingDecision? : Option Payload :=
  ((state.artifactsForRound state.detailRoundId).reverse.find? fun artifact =>
    artifact.type = .routingDecision ∧ artifact.payload.dispatchVerified = none).map
      Artifact.payload

def requiredRoles : List Role :=
  cleanRequiredRoles ((state.routingDecision?.map Payload.requiredRoles).getD [])

def decidedRoute : Route :=
  (state.routingDecision?.map Payload.route).getD .none

def completedRoles : List Role :=
  (state.jobs.filter fun job => job.status = .passed ∨ job.status = .completed).map Job.role

def completedRequiredRoles (currentRole : Role) : List Role :=
  currentRole :: state.completedRoles

/-- The required role that a handoff of `role` has to go to. -/
def nextRequired (role : Role) : Option Role :=
  nextUncompletedRequiredRole state.requiredRoles (state.completedRequiredRoles role)
    state.decidedRoute

/-- `_resolve_handoff_target`: the next role, if there is one, or the error. -/
def resolveHandoffTarget (detail : TaskState) (role : Role) (explicit proposed : Option Role) :
    Except String (Option Role) :=
  if detail.routingDecision? = none then .error "missing routing_decision before role handoff"
  else if role ≠ .director ∧ role ∉ detail.requiredRoles then
    .error (role.displayName ++ " is not in routing_decision.required_roles")
  else
    match proposed with
    | none => .ok none
    | some proposed =>
        if proposed = .director then
          match detail.nextRequired role with
          | some required =>
              .error ("handoff_to 总工程师 before required role " ++ required.displayName ++
                " completed")
          | none => .ok (some .director)
        else if proposed ∉ detail.requiredRoles then
          if explicit = none then .ok (some ((detail.nextRequired role).getD .director))
          else
            .error ("handoff_to " ++ proposed.displayName ++
              " is not in routing_decision.required_roles")
        else
          match detail.nextRequired role with
          | some required =>
              if proposed ≠ required then
                .error ("handoff_to " ++ proposed.displayName ++ " before required role " ++
                  required.displayName ++ " completed")
              else .ok (some proposed)
          | none => .ok (some proposed)

/-- `_waiting_role_for_round`; `none` when a role without an attempt raises. -/
def waitingRoleForRound (roundId : Nat) : Option Role :=
  let rec scan : List Role → Option (Option Role)
    | [] => some none
    | role :: rest =>
        match state.attempts.latest? roundId role with
        | none => none
        | some attempt => if attempt.status = .waiting then some (some role) else scan rest
  match scan relayRoleIds with
  | none => none
  | some (some role) => some role
  | some none =>
      some (((state.jobs.find? fun job =>
        job.role ∈ relayRoleIds ∧ job.status = .waiting).map Job.role).getD .director)

def hasRetryKind (role : Role) (kind : RetryKind) (roundId : Nat) : Bool :=
  state.relayArtifacts.any fun entry =>
    entry.2.type = .roleError ∧ entry.2.payload.actor = some role ∧ max 1 entry.1 = roundId ∧
      entry.2.payload.retryKind = some kind

def latestArtifactId (type : ArtifactType) : Nat :=
  ((state.artifacts.rows.filter fun artifact => artifact.type = type).map Artifact.id).foldl max 0

/-- `_job.agent_run_id` of a role. -/
def jobRun (role : Role) : Option Int :=
  (state.jobs.find? fun job => job.role = role).bind Job.agentRunId

end TaskState

structure RoutingDecision where
  route : Route
  requiredRoles : List Role
  acceptanceCriteria : List String
  requiresUserApproval : Bool
  deriving DecidableEq, Repr

def routingDecisionRoutes : List Route :=
  [.directorOnly, .coreRelay, .fullRelay, .auditFirst, .waitingUser, .blocked]

def routingDecisionRisks : List String := ["low", "medium", "high", "critical"]

def Route.text : Route → String
  | .none => ""
  | .directorOnly => "director_only"
  | .coreRelay => "core_relay"
  | .fullRelay => "full_relay"
  | .auditFirst => "audit_first"
  | .waitingUser => "waiting_user"
  | .blocked => "blocked"
  | .other text => text

def RoutingFields.missing (fields : RoutingFields) : List String :=
  [("complexity", fields.complexity.isSome), ("risk", fields.risk.isSome),
    ("route", fields.route.isSome), ("required_roles", fields.requiredRoles.isSome),
    ("acceptance_criteria", fields.acceptanceCriteria.isSome),
    ("stop_conditions", fields.stopConditions.isSome),
    ("requires_user_approval", fields.requiresUserApproval.isSome)].filterMap fun entry =>
      if entry.2 then none else some entry.1

def cleanStringList (values : List String) : List String :=
  (values.map strip).filter (· ≠ "")

structure PromptTraits where
  /-- `_user_requested_full_relay`. -/
  requestsFullRelay : Bool := false
  /-- `_prompt_looks_high_risk`. -/
  looksHighRisk : Bool := false
  deriving DecidableEq, Repr

def normalizeRoutingDecision (prompt : PromptTraits) (fields : RoutingFields) :
    Except String RoutingDecision :=
  let route := fields.route.getD .none
  let risk := (strip (fields.risk.getD "")).toLower
  let required := fields.requiredRoles.getD []
  if fields.missing ≠ [] then
    .error ("missing routing_decision fields: " ++ String.intercalate ", " fields.missing)
  else if route ∉ routingDecisionRoutes then .error ("invalid routing route: " ++ route.text)
  else if risk ∉ routingDecisionRisks then .error ("invalid routing risk: " ++ risk)
  else if cleanRequiredRoles required = [] then
    .error "routing_decision requires at least one role"
  else if route = .directorOnly ∧ cleanRequiredRoles required ≠ [.director] then
    .error "director_only route may only require director"
  else if route = .directorOnly ∧ prompt.requestsFullRelay then
    .error "user requested full relay; director_only is not allowed"
  else if route = .directorOnly ∧ prompt.looksHighRisk then
    .error "high risk task cannot use director_only"
  else
    .ok {
      route := route
      requiredRoles := normalizeRequiredRolesForRoute route required
      acceptanceCriteria := cleanStringList (fields.acceptanceCriteria.getD [])
      requiresUserApproval := fields.requiresUserApproval.getD false }

end Wlcodex.Relay
