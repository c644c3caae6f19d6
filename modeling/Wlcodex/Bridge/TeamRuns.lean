import Wlcodex.Bridge.Evidence
import Wlcodex.Bridge.Summary
import Wlcodex.Lib.Latest

namespace Wlcodex.Bridge

open Wlcodex.Lib
open Wlcodex.Native (Python field lowerText)
open Wlcodex.Relay (Dict strip)
open Wlcodex.Runtime (WordClass)
open Wlcodex.Tasks (TaskEvent)

/-! The tables of a team: its run, the jobs of its agents and what they deliver. -/

structure TeamRun where
  id : Nat
  orchestrationRunId : Option Nat
  status : String := "running"
  deriving DecidableEq

structure TeamAgentJob where
  id : Nat
  teamRunId : Nat
  role : String
  modelProfile : String := ""
  status : String
  agentRunId : Option Nat
  deriving DecidableEq

structure TeamArtifact where
  id : Nat
  teamRunId : Nat
  agentJobId : Option Nat
  artifactType : String
  summary : String := ""
  payload : Dict := []

structure TeamTables where
  runs : Keyed TeamRun.id := .empty
  jobs : Keyed TeamAgentJob.id := .empty
  artifacts : Keyed TeamArtifact.id := .empty

namespace TeamTables

variable (team : TeamTables)

/-- `get_team_run_for_orchestration`. -/
def runFor? (autoRunId : Nat) : Option TeamRun :=
  team.runs.latest? fun run => run.orchestrationRunId = some autoRunId

/-- `list_team_agent_jobs`. -/
def jobsOf (teamRunId : Nat) : List TeamAgentJob := team.jobs.ordered.filter fun job => job.teamRunId = teamRunId

/-- `list_team_artifacts`. -/
def artifactsOf (teamRunId : Nat) : List TeamArtifact :=
  team.artifacts.ordered.filter fun artifact => artifact.teamRunId = teamRunId

def isRunning (role : String) (agentRunId : Nat) (job : TeamAgentJob) : Bool :=
  job.role = role ∧ job.status = "running" ∧ job.agentRunId = some agentRunId

/-- `_running_team_job`. -/
def runningJob? (teamRunId : Nat) (role : String) (agentRunId : Nat) : Option TeamAgentJob :=
  (team.jobsOf teamRunId).find? (isRunning role agentRunId)

/-- `_single_running_team_job`. -/
def singleRunningJob? (teamRunId : Nat) (role : String) : Option TeamAgentJob :=
  match (team.jobsOf teamRunId).filter fun job => job.role = role ∧ job.status = "running" with
  | [job] => some job
  | _ => none

/-- `_has_team_artifact`. -/
def hasArtifact (teamRunId : Nat) (artifactType : String) (agentJobId : Option Nat) : Bool :=
  (team.artifactsOf teamRunId).any fun artifact =>
    artifact.artifactType = artifactType ∧ artifact.agentJobId = agentJobId

/-- `_tester_attempt_count_for_auto_run`. -/
def testerAttempts (autoRunId : Nat) : Nat :=
  match team.runFor? autoRunId with
  | some run => ((team.jobsOf run.id).filter fun job => job.role = "tester").length
  | none => 0

def setJobStatus (jobId : Nat) (status : String) : TeamTables :=
  { team with
    jobs := team.jobs.update (fun job => job.id = jobId) ⟨fun job => { job with status }, fun _ => rfl⟩ }

def setRunStatus (teamRunId : Nat) (status : String) : TeamTables :=
  { team with
    runs := team.runs.update (fun run => run.id = teamRunId) ⟨fun run => { run with status }, fun _ => rfl⟩ }

/-- `record_team_artifact`. -/
def record (teamRunId : Nat) (agentJobId : Option Nat) (artifactType summary : String) (payload : Dict) :
    TeamTables :=
  { team with
    artifacts := team.artifacts.append
      (fun id => { id, teamRunId, agentJobId, artifactType, summary, payload }) fun _ => rfl }

def firstCharacters (limit : Nat) (text : String) : String := String.ofList (text.toList.take limit)

/-- `_mark_team_agent_job_done`. -/
def markJobDone (autoRunId : Nat) (role : String) (agentRunId : Nat) : TeamTables × Bool :=
  match (team.runFor? autoRunId).bind fun run => team.runningJob? run.id role agentRunId with
  | some job => (team.setJobStatus job.id "done", true)
  | none => (team, false)

/-- `_mark_team_agent_job_failed`. -/
def markJobFailed (autoRunId : Nat) (role : String) (agentRunId : Nat) : TeamTables :=
  match team.runFor? autoRunId with
  | none => team
  | some run =>
      let stopped := team.setRunStatus run.id "failed"
      { stopped with
        jobs := stopped.jobs.update
          (fun job => job.teamRunId = run.id ∧ isRunning role agentRunId job)
          ⟨fun job => { job with status := "failed" }, fun _ => rfl⟩ }

/-- `_complete_team_run`. -/
def completeRun (autoRunId : Nat) : TeamTables :=
  match team.runFor? autoRunId with
  | none => team
  | some run => if run.status = "completed" then team else team.setRunStatus run.id "completed"

section Python

variable (python : Python)

def routing (teamRunId : Nat) (key : String) : String :=
  ((((team.artifactsOf teamRunId).filter fun artifact => artifact.artifactType = "routing_decision").map
    fun artifact => strip (python.text (field artifact.payload key))).find? (· ≠ "")).getD ""

def architecturePlanPayload (summary : String) : Dict :=
  let texts (list : List String) : Json := .array (list.map .string)
  [("summary", .string summary),
    ("files_or_modules_in_scope", texts ["See architecture plan summary."]),
    ("files_or_modules_out_of_scope", texts ["Unrelated files and modules."]),
    ("impact_notes", .string "Impact details are captured in the plan summary."),
    ("risk_level", .string "medium"),
    ("implementation_steps", texts ["Follow the accepted architecture plan."]),
    ("acceptance_criteria", texts ["Satisfy the accepted plan and pass focused verification."]),
    ("parallelization_policy",
      .string "single implementer unless the plan explicitly decomposes scopes"),
    ("investigator_policy", .string
      ("Diagnosis evidence is captured inside the architecture handoff " ++
        "when diagnosis and architecture run in one black-box step")),
    ("source", .string "auto_final_plan_completion")]

def diagnosisReportPayload (summary : String) : Dict :=
  let texts (list : List String) : Json := .array (list.map .string)
  [("summary", .string summary),
    ("symptom", .string "Bug route requires diagnosis before implementation."),
    ("expected_behavior", .string "Implementation starts only after diagnosis handoff."),
    ("evidence", texts [summary]), ("root_cause", .string summary), ("confidence", .string "medium"),
    ("minimal_fix_plan", texts ["Follow the accepted diagnosis handoff."]),
    ("regression_tests", texts ["Run focused verification for the reported failure."]),
    ("risk_level", .string "medium"), ("open_questions", texts ["None"])]

def firstRole (teamRunId : Nat) : String := orElse (team.routing python teamRunId "first_role") "architect"

/-- `_record_architecture_plan_artifact`. -/
def recordArchitecturePlan (autoRunId : Nat) (agent : AgentRun) : TeamTables :=
  match team.runFor? autoRunId with
  | none => team
  | some run =>
      let bug := team.routing python run.id "route_kind" = "bug"
      let artifactType := if bug then "diagnosis_report" else "architecture_plan"
      let role := team.firstRole python run.id
      let job := (team.runningJob? run.id role agent.id).or
        (((team.jobsOf run.id).find? fun job => job.role = role ∧ job.agentRunId = some agent.id).or
          (team.singleRunningJob? run.id role))
      let jobId := job.map TeamAgentJob.id
      let summary := firstCharacters 2000 agent.completionSummary
      if strip agent.completionSummary = "" ∨ team.hasArtifact run.id artifactType jobId then team
      else team.record run.id jobId artifactType summary
        (if bug then diagnosisReportPayload summary else architecturePlanPayload summary)

/-- `_mark_architect_team_job_done`. -/
def markArchitectDone (autoRunId agentRunId : Nat) : TeamTables :=
  let role := match team.runFor? autoRunId with
    | some run => team.firstRole python run.id
    | none => "architect"
  let (marked, own) := team.markJobDone autoRunId role agentRunId
  if own then marked
  else
    match (team.runFor? autoRunId).bind fun run => team.singleRunningJob? run.id role with
    | some job => team.setJobStatus job.id "done"
    | none => team

def commandEvidenceFromTaskEvents (events : List TaskEvent) : List CommandEntry :=
  events.filterMap fun event =>
    let command := strip (python.text (field event.payload "command"))
    if event.eventType = "item_completed" ∧
        Relay.StreamState.isText (event.payload.lookup "type") "commandExecution" ∧ command ≠ "" then
      let status := lowerText (strip (python.text ((event.payload.lookup "status").getD (.string "completed"))))
      if status ∈ ["completed", "success", "succeeded", "done"] then
        some ⟨command, 0, "command completed"⟩
      else some ⟨command, 1, "command " ++ orElse status "failed"⟩
    else none

def testCommandEvidence (commands : List CommandEntry) : List CommandEntry :=
  commands.filter fun command =>
    saysIn (lowerText command.command) ["pytest", "unittest", "tox", "nox", "cargo test", "npm test"]

/-- `acceptance_criteria_from_artifacts`. -/
def acceptanceCriteria (artifacts : List TeamArtifact) : List String :=
  let listed (artifact : TeamArtifact) : List String :=
    match artifact.payload.lookup "acceptance_criteria" with
    | some (.array items) => (items.map fun item => strip (python.text item)).filter (· ≠ "")
    | _ => []
  (((artifacts.reverse.filter fun artifact => artifact.artifactType = "architecture_plan").map listed).find?
    (· ≠ [])).getD ["Focused verification command completed."]

def missingCommandEvidence : CommandEntry where
  command := "No structured command evidence reported by implementer."
  exitStatus := 1
  summary := "No commandExecution event or structured evidence block was available; " ++
    "Gate B/C must block."

def implementationReportPayload (summary diffSummary : String) (changedFiles : List String)
    (commandsRun testsAttempted : List CommandEntry) : Dict :=
  let texts (list : List String) : Json := .array (list.map .string)
  let commands (list : List CommandEntry) (absent : CommandEntry) : Json :=
    .array ((if list = [] then [absent] else list).map fun command => .object command.payload)
  [("summary", .string summary),
    ("changed_files",
      texts (if changedFiles = [] then ["No changed files reported."] else changedFiles)),
    ("diff_summary", .string (orElse diffSummary "No diff evidence collected.")),
    ("commands_run", commands commandsRun missingCommandEvidence),
    ("tests_attempted", commands testsAttempted missingTestEvidence),
    ("known_limitations", texts ["None known"]), ("source_agent", .string "codex")]

/-- `_ensure_tester_job`: the tables and the job. -/
def ensureTesterJob (teamRunId agentRunId : Nat) (modelProfile : String) : TeamTables × TeamAgentJob :=
  match (team.jobsOf teamRunId).find? fun job => job.role = "tester" ∧ job.agentRunId = some agentRunId with
  | some job => (team, job)
  | none =>
      let make (id : Nat) : TeamAgentJob :=
        { id, teamRunId, role := "tester", modelProfile, status := "running", agentRunId := some agentRunId }
      ({ team with jobs := team.jobs.append make fun _ => rfl }, make team.jobs.nextKey)

def reportedOr {α : Type} (reported observed : List α) : List α :=
  if reported.isEmpty then observed else reported

def attemptedTests (taskEvents : List TaskEvent) (evidence : ImplementationEvidence python) :
    List CommandEntry :=
  reportedOr (evidence.testsAttempted.map Reported.command)
    (testCommandEvidence (commandEvidenceFromTaskEvents python taskEvents))

def reportedAndStaffed (taskEvents : List TaskEvent) (observed : List String × String) (agent : AgentRun)
    (run : TeamRun) (job : TeamAgentJob) (evidence : ImplementationEvidence python) :
    TeamTables × TeamAgentJob :=
  let commandsRun := reportedOr (evidence.commandsRun.map Reported.command)
    (commandEvidenceFromTaskEvents python taskEvents)
  let summary := orElse agent.completionSummary "codex implementation completed."
  let reported := team.record run.id (some job.id) "implementation_report" (firstCharacters 2000 summary)
    (implementationReportPayload summary (orElse (evidence.diffSummary.getD "") observed.2)
      (reportedOr evidence.changedFiles observed.1) commandsRun
      (attemptedTests python taskEvents evidence))
  reported.ensureTesterJob run.id agent.id (orElse job.modelProfile "codex_gpt")

def testPayload (run : TeamRun) (artifactId : Nat) (tests : List CommandEntry) : Dict :=
  testReportPayload python "测试工程师已收集测试结果。" (some artifactId) (tests.map CommandEntry.payload)
    (acceptanceCriteria python (team.artifactsOf run.id))

/-- `_record_implementation_report_artifact`: the tables and what the tests say.  Text that cannot be
read as evidence raises. -/
def recordImplementationReport (taskEvents : List TaskEvent) (observed : List String × String)
    (autoRunId : Nat) (agent : AgentRun) : Option (TeamTables × Option Bool) :=
  match team.runFor? autoRunId with
  | none => some (team, none)
  | some run =>
      match team.runningJob? run.id "implementer" agent.id with
      | none => some (team, none)
      | some job =>
          if team.hasArtifact run.id "implementation_report" (some job.id) then some (team, none)
          else
            (structuredImplementationEvidence python agent.completionSummary).map fun evidence =>
              let (staffed, tester) := team.reportedAndStaffed python taskEvents observed agent run job evidence
              if staffed.hasArtifact run.id "test_report" (some tester.id) then (staffed, none)
              else
                let payload := staffed.testPayload python run team.artifacts.nextKey
                  (attemptedTests python taskEvents evidence)
                let tested := staffed.record run.id (some tester.id) "test_report"
                  "测试工程师已收集测试结果。" payload
                let passed := (validateTestReport python payload).passed
                (tested.setJobStatus tester.id (if passed then "done" else "failed"), some passed)

/-- `_record_audit_report_artifact`: the tables and whether the last gate opens; `none` without a team. -/
def recordAuditReport (words : WordClass) (autoRunId : Nat) (agent : AgentRun) :
    TeamTables × Option Bool :=
  match team.runFor? autoRunId with
  | none => (team, none)
  | some run =>
      match team.runningJob? run.id "auditor" agent.id with
      | none => (team, some false)
      | some job =>
          if team.hasArtifact run.id "audit_report" (some job.id) then (team, some false)
          else
            let report := parseAuditReportPayload words python agent.completionSummary
            (team.record run.id (some job.id) "audit_report" (firstCharacters 2000 report.summary)
              report.payload, some (validateAuditReport python report.payload).passed)

end Python

end TeamTables

end Wlcodex.Bridge
