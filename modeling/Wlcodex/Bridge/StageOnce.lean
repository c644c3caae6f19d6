import Wlcodex.Bridge.Stages

namespace Wlcodex.Bridge

open Wlcodex.Lib
open Wlcodex.Native (Python samplePython)
open Wlcodex.Runtime (plainWords)
open Wlcodex.Tasks (Ledger Task BackendEvent)

/-! A stage advances once for each agent run. -/

namespace TeamTables

structure Working (team : TeamTables) (teamRunId : Nat) (role : String) (agentRunId : Nat)
    (job : TeamAgentJob) : Prop where
  member : job ∈ team.jobs
  own : job.teamRunId = teamRunId
  running : isRunning role agentRunId job = true

variable {team next : TeamTables} {teamRunId agentRunId autoRunId : Nat} {role : String} {job : TeamAgentJob}

theorem mem_jobsOf : job ∈ team.jobsOf teamRunId ↔ job ∈ team.jobs ∧ job.teamRunId = teamRunId := by
  rw [jobsOf, List.mem_filter, Keyed.mem_ordered, decide_eq_true_iff]

theorem working_of_runningJob (found : team.runningJob? teamRunId role agentRunId = some job) :
    Working team teamRunId role agentRunId job := by
  obtain ⟨member, own⟩ := mem_jobsOf.mp (List.mem_of_find?_eq_some found)
  exact ⟨member, own, List.find?_some found⟩

theorem not_working_of_none (none_ : team.runningJob? teamRunId role agentRunId = none) :
    ¬Working team teamRunId role agentRunId job := fun working =>
  List.find?_eq_none.mp none_ job (mem_jobsOf.mpr ⟨working.member, working.own⟩) working.running

def Quiet (team : TeamTables) (autoRunId : Nat) (role : String) (agentRunId : Nat) : Prop :=
  ∀ run, team.runFor? autoRunId = some run → ∀ job, ¬Working team run.id role agentRunId job

def OneJob (team : TeamTables) (autoRunId : Nat) (role : String) (agentRunId : Nat) : Prop :=
  ∀ run, team.runFor? autoRunId = some run → ∀ first second, Working team run.id role agentRunId first →
    Working team run.id role agentRunId second → first = second

theorem Quiet.oneJob (quiet : team.Quiet autoRunId role agentRunId) : team.OneJob autoRunId role agentRunId :=
  fun run own first _ working => absurd working (quiet run own first)

structure Narrows (team next : TeamTables) (role : String) (agentRunId : Nat) : Prop where
  runs : next.runs = team.runs
  working : ∀ teamRunId job, Working next teamRunId role agentRunId job →
    Working team teamRunId role agentRunId job

theorem Narrows.refl (team : TeamTables) : Narrows team team role agentRunId := ⟨rfl, fun _ _ => id⟩

theorem Narrows.trans {third : TeamTables} (first : Narrows team next role agentRunId)
    (second : Narrows next third role agentRunId) : Narrows team third role agentRunId :=
  ⟨second.runs.trans first.runs, fun teamRunId job working => first.working _ _ (second.working teamRunId job working)⟩

theorem runFor?_congr (same : next.runs = team.runs) : next.runFor? autoRunId = team.runFor? autoRunId := by
  rw [runFor?, runFor?, same]

theorem Narrows.oneJob (narrows : Narrows team next role agentRunId)
    (one : team.OneJob autoRunId role agentRunId) : next.OneJob autoRunId role agentRunId :=
  fun run own first second firstWorks secondWorks =>
    one run (runFor?_congr narrows.runs ▸ own) first second (narrows.working _ _ firstWorks)
      (narrows.working _ _ secondWorks)

theorem narrows_record (teamRunId : Nat) (jobId : Option Nat) (artifactType summary : String)
    (payload : Relay.Dict) :
    Narrows team (team.record teamRunId jobId artifactType summary payload) role agentRunId :=
  ⟨rfl, fun _ _ working => ⟨working.member, working.own, working.running⟩⟩

theorem narrows_setJobStatus (jobId : Nat) {status : String} (ended : status ≠ "running") :
    Narrows team (team.setJobStatus jobId status) role agentRunId := by
  refine ⟨rfl, fun teamRunId job ⟨member, own, running⟩ => ?_⟩
  rcases Keyed.mem_update.mp member with ⟨old, _, _, rfl⟩ | ⟨stored, _⟩
  · exact absurd (of_decide_eq_true running).2.1 ended
  · exact ⟨stored, own, running⟩

theorem narrows_ensureTesterJob (other : role ≠ "tester") (teamRunId testedBy : Nat) (modelProfile : String) :
    Narrows team (team.ensureTesterJob teamRunId testedBy modelProfile).1 role agentRunId := by
  unfold ensureTesterJob
  split
  · exact .refl team
  · refine ⟨rfl, fun teamRunId job ⟨member, own, running⟩ => ?_⟩
    rcases Keyed.mem_append.mp member with stored | rfl
    · exact ⟨stored, own, running⟩
    · exact absurd (of_decide_eq_true running).1.symm other

theorem quiet_markJobDone (one : team.OneJob autoRunId role agentRunId) :
    (team.markJobDone autoRunId role agentRunId).1.Quiet autoRunId role agentRunId := by
  intro run own job working
  unfold markJobDone at own working
  cases found : (team.runFor? autoRunId).bind fun run => team.runningJob? run.id role agentRunId with
  | none =>
      rw [found] at own working
      rw [own, Option.bind_some] at found
      exact not_working_of_none found working
  | some marked =>
      rw [found] at own working
      have same : team.runFor? autoRunId = some run := own
      rw [same, Option.bind_some] at found
      have before := (narrows_setJobStatus marked.id (by decide)).working _ _ working
      rw [one run same job marked before (working_of_runningJob found)] at working
      rcases Keyed.mem_update.mp working.member with ⟨old, _, _, changed⟩ | ⟨_, kept⟩
      · have running := (of_decide_eq_true working.running).2.1
        rw [changed] at running
        exact absurd (show "done" = "running" from running) (by decide)
      · rw [decide_eq_true rfl] at kept
        cases kept

theorem runs_markJobDone : (team.markJobDone autoRunId role agentRunId).1.runs = team.runs := by
  unfold markJobDone
  split <;> rfl

section Gates

variable {python : Python} {words : Runtime.WordClass} {events : List Tasks.TaskEvent}
  {observed : List String × String} {agent : AgentRun}

structure Reporting (team : TeamTables) (autoRunId : Nat) (role artifactType : String) (agent : AgentRun)
    (run : TeamRun) (job : TeamAgentJob) : Prop where
  found : team.runFor? autoRunId = some run
  working : team.runningJob? run.id role agent.id = some job
  unreported : team.hasArtifact run.id artifactType (some job.id) = false

def Unreadable (python : Python) (team : TeamTables) (autoRunId : Nat) (agent : AgentRun) : Prop :=
  (∃ run job, team.Reporting autoRunId "implementer" "implementation_report" agent run job) ∧
    structuredImplementationEvidence python agent.completionSummary = none

theorem recordImplementationReport_eq_none_iff :
    team.recordImplementationReport python events observed autoRunId agent = none ↔
      team.Unreadable python autoRunId agent := by
  unfold recordImplementationReport Unreadable
  cases own : team.runFor? autoRunId with
  | none => exact ⟨nofun, fun ⟨⟨_, _, reporting⟩, _⟩ => nomatch own.symm.trans reporting.found⟩
  | some run =>
      dsimp only
      cases working : team.runningJob? run.id "implementer" agent.id with
      | none =>
          refine ⟨nofun, fun ⟨⟨_, _, reporting⟩, _⟩ => ?_⟩
          obtain rfl := Option.some.inj (own.symm.trans reporting.found)
          cases working.symm.trans reporting.working
      | some job =>
          dsimp only
          cases reported : team.hasArtifact run.id "implementation_report" (some job.id) with
          | true =>
              refine ⟨nofun, fun ⟨⟨_, _, reporting⟩, _⟩ => ?_⟩
              obtain rfl := Option.some.inj (own.symm.trans reporting.found)
              obtain rfl := Option.some.inj (working.symm.trans reporting.working)
              cases reported.symm.trans reporting.unreported
          | false =>
              rw [if_neg Bool.false_ne_true, Option.map_eq_none_iff]
              exact ⟨fun none_ => ⟨⟨run, job, own, working, reported⟩, none_⟩, And.right⟩

theorem narrows_recordImplementationReport {gate : Option Bool} (other : role ≠ "tester")
    (recorded : team.recordImplementationReport python events observed autoRunId agent = some (next, gate)) :
    Narrows team next role agentRunId := by
  unfold recordImplementationReport at recorded
  split at recorded
  · obtain ⟨rfl, _⟩ := Prod.mk.inj (Option.some.inj recorded)
    exact .refl team
  · split at recorded
    · obtain ⟨rfl, _⟩ := Prod.mk.inj (Option.some.inj recorded)
      exact .refl team
    · split at recorded
      · obtain ⟨rfl, _⟩ := Prod.mk.inj (Option.some.inj recorded)
        exact .refl team
      · obtain ⟨evidence, _, same⟩ := Option.map_eq_some_iff.mp recorded
        dsimp only at same
        split at same
        · obtain ⟨rfl, _⟩ := Prod.mk.inj same
          exact (narrows_record _ _ _ _ _).trans (narrows_ensureTesterJob other _ _ _)
        · obtain ⟨rfl, _⟩ := Prod.mk.inj same
          refine (((narrows_record _ _ _ _ _).trans (narrows_ensureTesterJob other _ _ _)).trans
            (narrows_record _ _ _ _ _)).trans (narrows_setJobStatus _ ?_)
          split <;> decide

def TestsFail (python : Python) (team : TeamTables) (events : List Tasks.TaskEvent)
    (observed : List String × String) (autoRunId : Nat) (agent : AgentRun) : Prop :=
  ∃ run job evidence, team.Reporting autoRunId "implementer" "implementation_report" agent run job ∧
    structuredImplementationEvidence python agent.completionSummary = some evidence ∧
    let (staffed, tester) := team.reportedAndStaffed python events observed agent run job evidence
    staffed.hasArtifact run.id "test_report" (some tester.id) = false ∧
      (validateTestReport python (staffed.testPayload python run team.artifacts.nextKey
        (attemptedTests python events evidence))).passed = false

theorem testsFail_of_gate
    (closed : team.recordImplementationReport python events observed autoRunId agent = some (next, some false)) :
    team.TestsFail python events observed autoRunId agent := by
  unfold recordImplementationReport at closed
  split at closed
  · cases closed
  next run found =>
    split at closed
    · cases closed
    next job working =>
      split at closed
      · cases closed
      next unreported =>
        obtain ⟨evidence, extracted, same⟩ := Option.map_eq_some_iff.mp closed
        refine ⟨run, job, evidence, ⟨found, working, Bool.eq_false_iff.mpr unreported⟩, extracted, ?_⟩
        dsimp only at same ⊢
        split at same
        · cases same
        next fresh =>
          exact ⟨Bool.eq_false_iff.mpr fresh, Option.some.inj (Prod.mk.inj same).2⟩

def AuditPasses (python : Python) (words : Runtime.WordClass) (team : TeamTables) (autoRunId : Nat)
    (agent : AgentRun) : Prop :=
  (∃ run job, team.Reporting autoRunId "auditor" "audit_report" agent run job) ∧
    (parseAuditReportPayload words python agent.completionSummary).decision = some .pass ∧
    (validateAuditReport python
      (parseAuditReportPayload words python agent.completionSummary).payload).passed = true

theorem recordAuditReport_gate (run : TeamRun) (found : team.runFor? autoRunId = some run) :
    (team.recordAuditReport python words autoRunId agent).2 = some true ∨
        (team.recordAuditReport python words autoRunId agent).2 = some false := by
  unfold recordAuditReport
  rw [found]
  dsimp only
  split
  · exact .inr rfl
  · split
    · exact .inr rfl
    · exact Bool.eq_false_or_eq_true _ |>.imp (congrArg some) (congrArg some)

theorem reporting_of_gate (opened : (team.recordAuditReport python words autoRunId agent).2 = some true) :
    (∃ run job, team.Reporting autoRunId "auditor" "audit_report" agent run job) ∧
      (validateAuditReport python
        (parseAuditReportPayload words python agent.completionSummary).payload).passed = true := by
  unfold recordAuditReport at opened
  split at opened
  · cases opened
  next run found =>
    split at opened
    · cases opened
    next job working =>
      split at opened
      · cases opened
      next unreported =>
        exact ⟨⟨run, job, found, working, Bool.eq_false_iff.mpr unreported⟩, Option.some.inj opened⟩

theorem narrows_recordAuditReport :
    Narrows team (team.recordAuditReport python words autoRunId agent).1 role agentRunId := by
  unfold recordAuditReport
  split
  · exact .refl team
  · split
    · exact .refl team
    · split
      · exact .refl team
      · exact narrows_record _ _ _ _ _

theorem Quiet.not_reporting {artifactType : String} {reporting : TeamRun} {job : TeamAgentJob}
    (quiet : team.Quiet autoRunId role agent.id) :
    ¬team.Reporting autoRunId role artifactType agent reporting job := fun report =>
  quiet reporting report.found job (working_of_runningJob report.working)

theorem Quiet.recordImplementationReport (quiet : team.Quiet autoRunId "implementer" agent.id) :
    team.recordImplementationReport python events observed autoRunId agent = some (team, none) := by
  unfold TeamTables.recordImplementationReport
  cases found : team.runFor? autoRunId with
  | none => rfl
  | some run =>
      dsimp only
      cases working : team.runningJob? run.id "implementer" agent.id with
      | none => rfl
      | some job => exact absurd (working_of_runningJob working) (quiet run found job)

end Gates

end TeamTables

structure Stage where
  status : String
  currentStep : String
  lastVerificationResult : String
  deriving DecidableEq

def AutoRun.stage (run : AutoRun) : Stage := ⟨run.status, run.currentStep, run.lastVerificationResult⟩

namespace Office

variable {office : Office} {surroundings : Surroundings} {taskId id : Nat} {agent : AgentRun} {run : AutoRun}

def stage? (office : Office) (id : Nat) : Option Stage := (office.autoRuns.find? id).map AutoRun.stage

theorem moved?_eq_some_iff :
    office.moved? taskId = some (agent, run) ↔
      office.latestAgentRun? taskId = some agent ∧ ∃ conversation,
        office.conversationOf? taskId = some conversation ∧
          office.latestActiveAutoRun? conversation.id = some run := by
  unfold moved?
  rw [Option.bind_eq_some_iff]
  constructor
  · intro ⟨found, latest, rest⟩
    obtain ⟨conversation, own, active⟩ := Option.bind_eq_some_iff.mp rest
    obtain ⟨other, newest, same⟩ := Option.map_eq_some_iff.mp active
    obtain ⟨rfl, rfl⟩ := Prod.mk.inj same
    exact ⟨latest, conversation, own, newest⟩
  · intro ⟨latest, conversation, own, newest⟩
    refine ⟨agent, latest, Option.bind_eq_some_iff.mpr ⟨conversation, own, ?_⟩⟩
    rw [newest]
    rfl

section

variable (moves : office.moved? taskId = some (agent, run))

include moves

theorem mem_of_moved : run ∈ office.autoRuns := by
  obtain ⟨_, _, _, newest⟩ := moved?_eq_some_iff.mp moves
  exact (Keyed.latest?_eq_some_iff.mp newest).1

variable {change : Patch AutoRun.id}

theorem moved?_update
    (status : (change.apply run).status = "needs_user") (same : (change.apply run).conversationId = run.conversationId)
    {step : String} (reached : (change.apply run).currentStep = step) (known : step ∈ Ledger.autoStageSteps) :
    (office.updateAutoRun run.id change).moved? taskId = some (agent, change.apply run) := by
  obtain ⟨latest, conversation, own, newest⟩ := moved?_eq_some_iff.mp moves
  obtain ⟨member, active, _⟩ := Keyed.latest?_eq_some_iff.mp newest
  refine moved?_eq_some_iff.mpr ⟨latest, conversation, own, ?_⟩
  have kept : ∀ row ∈ office.autoRuns, decide (row.id = run.id) = true →
      isActive conversation.id (change.apply row) = isActive conversation.id row := by
    intro row stored chosen
    rw [office.autoRuns.eq_of_key stored member (of_decide_eq_true chosen), active]
    obtain ⟨mine, _, _⟩ := of_decide_eq_true active
    exact decide_eq_true ⟨same.trans mine, by rw [status]; decide, by rw [reached]; exact known⟩
  unfold latestActiveAutoRun? updateAutoRun at *
  rw [Keyed.latest?_update kept, newest, Option.map_some, if_pos (decide_eq_true rfl)]

theorem moved?_waiting {step : String} {results : AutoRun → AutoRun}
    {sameKey : ∀ run, (results run).id = run.id}
    (same : (results run).conversationId = run.conversationId) (known : step ∈ Ledger.autoStageSteps) :
    (office.updateAutoRun run.id (waiting step results sameKey)).moved? taskId =
      some (agent, (waiting step results sameKey).apply run) :=
  moved?_update moves rfl same rfl known

end

theorem stage?_update (member : run ∈ office.autoRuns) (same : (change.apply run).stage = run.stage) :
    (office.updateAutoRun run.id change).stage? id = office.stage? id := by
  unfold stage? updateAutoRun
  rw [Keyed.find?_update, Option.map_map]
  cases found : office.autoRuns.find? id with
  | none => rfl
  | some row =>
      obtain ⟨stored, _⟩ := Keyed.find?_eq_some_iff.mp found
      rw [Option.map_some, Option.map_some, Function.comp_apply]
      split
      next chosen =>
        rw [office.autoRuns.eq_of_key stored member (of_decide_eq_true chosen), same]
      · rfl

theorem moved?_end (moves : office.moved? taskId = some (agent, run))
    {status : String} (ended : (change.apply run).status = status)
    (inactive : status ∉ ["running", "needs_user"])
    (only : ∀ other ∈ office.autoRuns, isActive run.conversationId other = true → other.id = run.id) :
    (office.updateAutoRun run.id change).moved? taskId = none := by
  obtain ⟨latest, conversation, own, newest⟩ := moved?_eq_some_iff.mp moves
  obtain ⟨member, active, _⟩ := Keyed.latest?_eq_some_iff.mp newest
  obtain ⟨mine, _, _⟩ := of_decide_eq_true active
  have none_ : (office.updateAutoRun run.id change).latestActiveAutoRun? conversation.id = none := by
    refine Keyed.latest?_eq_none_iff.mpr fun row present => ?_
    rcases Keyed.mem_update.mp present with ⟨old, stored, chosen, rfl⟩ | ⟨stored, other⟩
    · rw [office.autoRuns.eq_of_key stored member (of_decide_eq_true chosen)]
      exact decide_eq_false fun active => inactive (ended ▸ active.2.1)
    · refine Bool.eq_false_iff.mpr fun alive => ?_
      exact of_decide_eq_false other (only row stored (by rw [mine]; exact alive))
  cases again : (office.updateAutoRun run.id change).moved? taskId with
  | none => rfl
  | some pair =>
      obtain ⟨_, _, sameOwn, found⟩ := moved?_eq_some_iff.mp again
      obtain rfl := Option.some.inj (own.symm.trans sameOwn)
      cases none_.symm.trans found

def Settles (surroundings : Surroundings) (taskId : Nat) (office : Office) (agent : AgentRun)
    (run : AutoRun) : Option Ending → Prop
  | some .implemented =>
      ¬office.team.TestsFail surroundings.python (office.desk.ledger.listEvents taskId 1000)
          (surroundings.taskEvidence taskId) run.id agent ∧
        office.team.OneJob run.id "implementer" agent.id
  | some .audited =>
      ¬office.team.AuditPasses surroundings.python surroundings.words run.id agent ∧
        office.team.OneJob run.id "auditor" agent.id
  | some .implementationFailed | some .auditFailed | some .takenOver =>
      ∀ other ∈ office.autoRuns, isActive run.conversationId other = true → other.id = run.id
  | _ => True

def Settled (surroundings : Surroundings) (office : Office) (agent : AgentRun) (run : AutoRun) :
    Option Ending → Prop
  | some .analysed => run.status = "needs_user" ∧ run.currentStep = "collecting_context"
  | some .planned => run.status = "needs_user" ∧ run.currentStep = "draft_ready"
  | some .implemented =>
      office.team.Quiet run.id "implementer" agent.id ∧
          run.stage = ⟨"needs_user", "claude_done", testsPassedText⟩ ∨
        office.team.Unreadable surroundings.python run.id agent ∧
          office.team.OneJob run.id "implementer" agent.id
  | some .audited =>
      office.team.Quiet run.id "auditor" agent.id ∧
        run.stage = ⟨"needs_user",
          if office.completionAllowed surroundings run agent then "completed" else "retry_ready",
          agent.completionSummary⟩
  | some .implementationFailed | some .auditFailed | some .takenOver => False
  | none => True

theorem completionAllowed_alone (alone : office.team.runFor? run.id = none) :
    office.completionAllowed surroundings run agent =
      decide ((parseAuditReportPayload surroundings.words surroundings.python
        agent.completionSummary).decision = some .pass) := by
  have gate : (office.team.recordAuditReport surroundings.python surroundings.words run.id agent).2 = none := by
    rw [TeamTables.recordAuditReport, alone]
  unfold completionAllowed
  rw [gate, alone]
  exact Bool.and_true _

theorem completionAllowed_team {teamRun : TeamRun} (found : office.team.runFor? run.id = some teamRun)
    (closed : ¬office.team.AuditPasses surroundings.python surroundings.words run.id agent) :
    office.completionAllowed surroundings run agent = false := by
  refine Bool.eq_false_iff.mpr fun allowed => ?_
  obtain ⟨passes, gate⟩ := Bool.and_eq_true_iff.mp allowed
  have opened : (office.team.recordAuditReport surroundings.python surroundings.words run.id agent).2 =
      some true := by
    rcases TeamTables.recordAuditReport_gate teamRun found with opened | shut
    · exact opened
    · rw [shut] at gate
      cases gate
  obtain ⟨reporting, valid⟩ := TeamTables.reporting_of_gate opened
  exact closed ⟨reporting, of_decide_eq_true passes, valid⟩

theorem completionAllowed_eq {next : Office} (runs : next.team.runs = office.team.runs)
    (closed : ¬office.team.AuditPasses surroundings.python surroundings.words run.id agent)
    (quiet : next.team.Quiet run.id "auditor" agent.id) :
    next.completionAllowed surroundings run agent = office.completionAllowed surroundings run agent := by
  have same : next.team.runFor? run.id = office.team.runFor? run.id := TeamTables.runFor?_congr runs
  cases found : office.team.runFor? run.id with
  | none => rw [completionAllowed_alone (same.trans found), completionAllowed_alone found]
  | some teamRun =>
      rw [completionAllowed_team found closed,
        completionAllowed_team (same.trans found) fun passes => ?_]
      obtain ⟨⟨_, _, reporting⟩, _⟩ := passes
      exact quiet.not_reporting reporting

theorem settles_of_settled {ending : Option Ending} (settled : Settled surroundings office agent run ending) :
    Settles surroundings taskId office agent run ending := by
  cases ending with
  | none => trivial
  | some ending =>
      cases ending with
      | analysed | planned => trivial
      | implemented =>
          rcases settled with ⟨quiet, _⟩ | ⟨unreadable, one⟩
          · exact ⟨fun ⟨_, _, _, reporting, _⟩ => quiet.not_reporting reporting, quiet.oneJob⟩
          · exact ⟨fun ⟨_, _, _, _, extracted, _⟩ => (nomatch unreadable.2.symm.trans extracted), one⟩
      | audited =>
          exact ⟨fun ⟨⟨_, _, reporting⟩, _⟩ => settled.1.not_reporting reporting, settled.1.oneJob⟩
      | implementationFailed | auditFailed | takenOver => exact settled.elim

def Moved (surroundings : Surroundings) (taskId : Nat) (office : Office) : Prop :=
  ∀ agent run, office.moved? taskId = some (agent, run) → Settled surroundings office agent run agent.ending?

theorem moved_of_some (moves : office.moved? taskId = some (agent, run))
    (settled : Settled surroundings office agent run agent.ending?) : Moved surroundings taskId office := by
  intro other next again
  obtain ⟨rfl, rfl⟩ := Prod.mk.inj (Option.some.inj (moves.symm.trans again))
  exact settled

theorem moved_of_none (none_ : office.moved? taskId = none) : Moved surroundings taskId office :=
  fun _ _ again => nomatch none_.symm.trans again

section

variable (moves : office.moved? taskId = some (agent, run))

include moves

theorem moved_implementationDone (ended : agent.ending? = some .implemented)
    (settles : Settles surroundings taskId office agent run (some .implemented)) :
    Moved surroundings taskId (office.implementationDone surroundings taskId run agent) := by
  obtain ⟨passing, one⟩ := settles
  unfold implementationDone
  cases gated : office.testGate surroundings taskId run agent with
  | none =>
      refine moved_of_some moves ?_
      rw [ended]
      exact .inr ⟨TeamTables.recordImplementationReport_eq_none_iff.mp gated, one⟩
  | some result =>
      obtain ⟨team, gate⟩ := result
      have open_ : gate ≠ some false := by
        rintro rfl
        exact passing (TeamTables.testsFail_of_gate gated)
      have narrows : office.team.Narrows team "implementer" agent.id :=
        TeamTables.narrows_recordImplementationReport (by decide) gated
      dsimp only
      rw [if_neg open_, if_neg open_]
      refine moved_of_some (moved?_waiting moves rfl (by decide)) ?_
      rw [ended]
      exact .inl ⟨TeamTables.quiet_markJobDone (narrows.oneJob one), rfl⟩

theorem moved_verificationDone (ended : agent.ending? = some .audited)
    (settles : Settles surroundings taskId office agent run (some .audited)) :
    Moved surroundings taskId (office.verificationDone surroundings run agent) := by
  obtain ⟨closed, one⟩ := settles
  have narrows : office.team.Narrows
      (office.team.recordAuditReport surroundings.python surroundings.words run.id agent).1 "auditor" agent.id :=
    TeamTables.narrows_recordAuditReport
  have quiet := TeamTables.quiet_markJobDone (narrows.oneJob one)
  have runs : ((office.team.recordAuditReport surroundings.python surroundings.words run.id agent).1.markJobDone
      run.id "auditor" agent.id).1.runs = office.team.runs := TeamTables.runs_markJobDone.trans narrows.runs
  unfold verificationDone
  dsimp only
  generalize ((office.team.recordAuditReport surroundings.python surroundings.words run.id agent).1.markJobDone
    run.id "auditor" agent.id).1 = marked at quiet runs
  -- only a run without a team completes here, and then there is no team to complete
  have uncompleted : (if office.completionAllowed surroundings run agent then marked.completeRun run.id
      else marked) = marked := by
    split
    next allowed =>
      cases found : office.team.runFor? run.id with
      | some teamRun => cases (completionAllowed_team found closed).symm.trans allowed
      | none => rw [TeamTables.completeRun, TeamTables.runFor?_congr runs, found]
    · rfl
  rw [uncompleted]
  have known : (if office.completionAllowed surroundings run agent then "completed" else "retry_ready") ∈
      Ledger.autoStageSteps := by
    split <;> decide
  refine moved_of_some (moved?_waiting moves rfl known) ?_
  rw [ended]
  refine ⟨quiet, ?_⟩
  have same : Office.completionAllowed { office with team := marked } surroundings run agent =
      office.completionAllowed surroundings run agent := completionAllowed_eq runs closed quiet
  change _ = Stage.mk "needs_user"
    (if Office.completionAllowed { office with team := marked } surroundings run agent then "completed"
      else "retry_ready") agent.completionSummary
  rw [same]
  rfl

theorem moved_advanceRun (settles : Settles surroundings taskId office agent run agent.ending?) :
    Moved surroundings taskId (office.advanceRun surroundings taskId agent run) := by
  unfold advanceRun
  cases ended : agent.ending? with
  | none =>
      refine moved_of_some moves ?_
      rw [ended]
      trivial
  | some ending =>
      rw [ended] at settles
      cases ending with
      | analysed | planned =>
          refine moved_of_some (moved?_waiting moves rfl (by decide)) ?_
          rw [ended]
          exact ⟨rfl, rfl⟩
      | implemented => exact moved_implementationDone moves ended settles
      | implementationFailed | auditFailed =>
          exact moved_of_none (moved?_end moves rfl (show "failed" ∉ _ by decide) settles)
      | audited => exact moved_verificationDone moves ended settles
      | takenOver => exact moved_of_none (moved?_end moves rfl (show "passed" ∉ _ by decide) settles)

end

theorem stage?_advanceRun (member : run ∈ office.autoRuns)
    (settled : Settled surroundings office agent run agent.ending?) :
    (office.advanceRun surroundings taskId agent run).stage? id = office.stage? id := by
  unfold advanceRun
  cases ended : agent.ending? with
  | none => rfl
  | some ending =>
      rw [ended] at settled
      cases ending with
      | analysed | planned =>
          exact stage?_update member (by rw [AutoRun.stage, AutoRun.stage, settled.1, settled.2]; rfl)
      | implemented =>
          unfold implementationDone
          rcases settled with ⟨quiet, reached⟩ | ⟨unreadable, _⟩
          · rw [testGate, quiet.recordImplementationReport]
            exact stage?_update member reached.symm
          · rw [testGate, TeamTables.recordImplementationReport_eq_none_iff.mpr unreadable]
      | audited => exact stage?_update member settled.2.symm
      | implementationFailed | auditFailed | takenOver => exact settled.elim

theorem stage?_advance (moved : Moved surroundings taskId office) :
    (office.advance surroundings taskId).stage? id = office.stage? id := by
  unfold advance
  cases moves : office.moved? taskId with
  | none => rfl
  | some pair => exact stage?_advanceRun (mem_of_moved moves) (moved pair.1 pair.2 moves)

theorem moved_advance (settles : ∀ agent run, office.moved? taskId = some (agent, run) →
    Settles surroundings taskId office agent run agent.ending?) :
    Moved surroundings taskId (office.advance surroundings taskId) := by
  unfold advance
  cases moves : office.moved? taskId with
  | none => exact moved_of_none moves
  | some pair => exact moved_advanceRun moves (settles pair.1 pair.2 moves)

def Finished (office : Office) (taskId : Nat) : Prop :=
  ∀ agent, office.latestAgentRun? taskId = some agent → isFinished agent.status = true

theorem desk_advance : (office.advance surroundings taskId).desk = office.desk := by
  unfold advance
  split
  · unfold advanceRun
    split
    · rfl
    · rfl
    · unfold implementationDone
      split <;> rfl
    all_goals rfl
  · rfl

theorem latestAgentRun?_synced (finished : office.Finished taskId) (task : Task) :
    (office.synced surroundings task).latestAgentRun? taskId = office.latestAgentRun? taskId := by
  unfold latestAgentRun? synced Desk.syncDirectAgentRunStatus
  split
  · rfl
  · split
    · rfl
    · dsimp only
      rw [Keyed.latest?_update fun _ _ _ => rfl]
      cases latest : office.desk.agentRuns.latest? fun run => run.hiddenTaskId = some taskId with
      | none => rfl
      | some agent =>
          rw [Option.map_some, if_neg]
          rw [finished agent latest]
          simp

theorem firstAgentRunId?_synced (task : Task) :
    (office.synced surroundings task).firstAgentRunId? taskId = office.firstAgentRunId? taskId := by
  unfold firstAgentRunId? synced Desk.syncDirectAgentRunStatus
  split
  · rfl
  · split
    · rfl
    · dsimp only
      rw [Keyed.ordered_update, List.find?_map, Option.map_map]
      have columns : ∀ run : AgentRun, ∀ condition : Bool, ∀ status completionSummary : String,
          (if condition then { run with status, completionSummary } else run).hiddenTaskId = run.hiddenTaskId ∧
            (if condition then { run with status, completionSummary } else run).id = run.id := by
        intro run condition status completionSummary
        cases condition <;> exact ⟨rfl, rfl⟩
      congr 1
      · funext run
        exact (columns run _ _ _).2
      · congr 1
        funext run
        exact congrArg (fun hidden => decide (hidden = some taskId)) (columns run _ _ _).1

theorem moved?_synced (finished : office.Finished taskId) (task : Task) :
    (office.synced surroundings task).moved? taskId = office.moved? taskId := by
  have conversation : (office.synced surroundings task).conversationOf? taskId = office.conversationOf? taskId := by
    unfold conversationOf?
    rw [firstAgentRunId?_synced]
    rfl
  unfold moved?
  rw [latestAgentRun?_synced finished, conversation]
  rfl

section Events

variable {event : BackendEvent} {events : List BackendEvent}

/-- An event that ends turns, for a task: the thread is that of the task before and after it. -/
structure ForTask (surroundings : Surroundings) (taskId : Nat) (office : Office) (event : BackendEvent) :
    Prop where
  ends : endsTurns event = true
  before : (office.taskOf? surroundings event).map Task.id = some taskId
  after : ((office.applyEvent surroundings event).taskOf? surroundings event).map Task.id = some taskId

def found (surroundings : Surroundings) (office : Office) (event : BackendEvent) (task : Task) : Office :=
  (office.applyEvent surroundings event).synced surroundings task

structure Finds (surroundings : Surroundings) (taskId : Nat) (office : Office) (event : BackendEvent)
    (task : Task) : Prop where
  ended : office.endedTask? surroundings event = some task
  own : task.id = taskId
  finished : (office.found surroundings event task).Finished taskId

structure Rests (surroundings : Surroundings) (taskId : Nat) (office : Office) : Prop where
  finished : office.Finished taskId
  moved : Moved surroundings taskId office

theorem Finished.synced (finished : office.Finished taskId) (task : Task) :
    (office.synced surroundings task).Finished taskId := by
  intro agent latest
  rw [latestAgentRun?_synced finished] at latest
  exact finished agent latest

theorem Finished.advance (finished : office.Finished taskId) :
    (office.advance surroundings taskId).Finished taskId := by
  intro agent latest
  rw [latestAgentRun?, desk_advance] at latest
  exact finished agent latest

theorem own_endedTask {task : Task} (mine : ForTask surroundings taskId office event)
    (ended : office.endedTask? surroundings event = some task) : task.id = taskId := by
  unfold endedTask? at ended
  split at ended
  · obtain ⟨found, _⟩ := Option.filter_eq_some_iff.mp ended
    have after := mine.after
    rw [found] at after
    exact Option.some.inj after
  · cases ended

theorem rests_processEvent (mine : ForTask surroundings taskId office event)
    (rests : Rests surroundings taskId office) :
    Rests surroundings taskId (office.processEvent surroundings event) ∧
      ∀ id, (office.processEvent surroundings event).stage? id = office.stage? id := by
  have applied : Rests surroundings taskId (office.applyEvent surroundings event) :=
    ⟨rests.finished, rests.moved⟩
  unfold processEvent
  cases ended : office.endedTask? surroundings event with
  | none => exact ⟨applied, fun _ => rfl⟩
  | some task =>
      dsimp only
      rw [own_endedTask mine ended]
      have moved : Moved surroundings taskId ((office.applyEvent surroundings event).synced surroundings task) := by
        intro agent run moves
        rw [moved?_synced applied.finished] at moves
        exact applied.moved agent run moves
      refine ⟨⟨(applied.finished.synced task).advance, moved_advance fun agent run moves => ?_⟩, fun id => ?_⟩
      · exact settles_of_settled (moved agent run moves)
      · exact stage?_advance moved

theorem rests_first {task : Task} (finds : Finds surroundings taskId office event task)
    (settles : ∀ agent run, (office.found surroundings event task).moved? taskId = some (agent, run) →
      Settles surroundings taskId (office.found surroundings event task) agent run agent.ending?) :
    Rests surroundings taskId (office.processEvent surroundings event) := by
  unfold processEvent
  rw [finds.ended]
  dsimp only
  rw [finds.own]
  exact ⟨finds.finished.advance, moved_advance settles⟩

/-- After the first event of an ended task no other one moves a stage. -/
theorem stage_advances_once (surroundings : Surroundings) (taskId : Nat) (office : Office)
    (first : BackendEvent) (task : Task) (finds : Finds surroundings taskId office first task)
    (settles : ∀ agent run, (office.found surroundings first task).moved? taskId = some (agent, run) →
      Settles surroundings taskId (office.found surroundings first task) agent run agent.ending?)
    (later : List BackendEvent)
    (mine : Along (fun office event => office.processEvent surroundings event) (ForTask surroundings taskId)
      (office.processEvent surroundings first) later) (id : Nat) :
    (later.foldl (fun office event => office.processEvent surroundings event)
        (office.processEvent surroundings first)).stage? id =
      (office.processEvent surroundings first).stage? id := by
  have keeps : ∀ state event, (Rests surroundings taskId state ∧
        state.stage? id = (office.processEvent surroundings first).stage? id) →
      ForTask surroundings taskId state event →
      Rests surroundings taskId (state.processEvent surroundings event) ∧
        (state.processEvent surroundings event).stage? id =
          (office.processEvent surroundings first).stage? id := by
    intro state event ⟨rests, same⟩ own
    obtain ⟨kept, stages⟩ := rests_processEvent own rests
    exact ⟨kept, (stages id).trans same⟩
  exact (invariant_foldl keeps ⟨rests_first finds settles, rfl⟩ mine).2

end Events

end Office

def plainSurroundings : Surroundings where
  builtins := State.sampleBuiltins
  python := samplePython
  words := plainWords
  taskEvidence _ := ([], "")
  diagnosis _ _ := ""

def endedTask : Task := { id := 1, workspaceAlias := "demo", status := .done, codexThreadId := some "t1" }

def turnCompleted : BackendEvent := ⟨.turnCompleted, [("threadId", .string "t1")]⟩

def agentOf (role : String) : AgentRun :=
  { id := 7, hiddenTaskId := some 1, role, status := "done", completionSummary := "Done." }

def officeOf (role step : String) : Office where
  desk := {
    ledger := { tasks := ⟨[endedTask], List.pairwise_singleton _ _⟩ }
    agentRuns := ⟨[agentOf role], List.pairwise_singleton _ _⟩ }
  conversations := ⟨[⟨3, some 1, none⟩], List.pairwise_singleton _ _⟩
  autoRuns := ⟨[{ id := 5, conversationId := 3, status := "running", currentStep := step }],
    List.pairwise_singleton _ _⟩
  team := {
    runs := ⟨[⟨2, some 5, "running"⟩], List.pairwise_singleton _ _⟩
    jobs := ⟨[⟨4, 2, "implementer", "", "running", some 7⟩], List.pairwise_singleton _ _⟩ }

theorem latest_office {role step : String} {agent : AgentRun}
    (latest : ((officeOf role step).applyEvent plainSurroundings turnCompleted).latestAgentRun? 1 = some agent) :
    agent = agentOf role := by
  have own : ((officeOf role step).applyEvent plainSurroundings turnCompleted).latestAgentRun? 1 =
    some (agentOf role) := rfl
  exact Option.some.inj (latest.symm.trans own)

theorem finished_office (role step : String) :
    ((officeOf role step).applyEvent plainSurroundings turnCompleted).Finished 1 := by
  intro agent latest
  rw [latest_office latest]
  rfl

theorem analysis_advances_once :
    ([turnCompleted].foldl (fun office event => office.processEvent plainSurroundings event)
        ((officeOf "auto_analysis" "collecting_context").processEvent plainSurroundings
          turnCompleted)).stage? 5 =
      ((officeOf "auto_analysis" "collecting_context").processEvent plainSurroundings
        turnCompleted).stage? 5 := by
  refine Office.stage_advances_once plainSurroundings 1 _ turnCompleted endedTask
    ⟨rfl, rfl, (finished_office _ _).synced endedTask⟩ ?_ [turnCompleted] ⟨⟨rfl, rfl, rfl⟩, trivial⟩ 5
  intro agent run moves
  have latest := (Office.moved?_eq_some_iff.mp moves).1
  rw [Office.found, Office.latestAgentRun?_synced (finished_office _ _)] at latest
  rw [latest_office latest]
  trivial

/-- Tests that are missing send the implementer back, and the second event says that they passed. -/
theorem missing_tests_pass :
    ¬∀ (surroundings : Surroundings) (taskId : Nat) (office : Office) (first : BackendEvent) (task : Task),
      Office.Finds surroundings taskId office first task → ∀ later : List BackendEvent,
      Along (fun office event => office.processEvent surroundings event)
        (Office.ForTask surroundings taskId) (office.processEvent surroundings first) later → ∀ id,
      (later.foldl (fun office event => office.processEvent surroundings event)
          (office.processEvent surroundings first)).stage? id =
        (office.processEvent surroundings first).stage? id := by
  intro once
  have same := once plainSurroundings 1 (officeOf "auto_implementation" "claude_running") turnCompleted endedTask
    ⟨rfl, rfl, (finished_office _ _).synced endedTask⟩ [turnCompleted] ⟨⟨rfl, rfl, rfl⟩, trivial⟩ 5
  have steps := congrArg (Option.map Stage.currentStep) same
  have retried : (((officeOf "auto_implementation" "claude_running").processEvent plainSurroundings
      turnCompleted).stage? 5).map Stage.currentStep = some "retry_ready" := rfl
  have passed : (([turnCompleted].foldl (fun office event => office.processEvent plainSurroundings event)
      ((officeOf "auto_implementation" "claude_running").processEvent plainSurroundings
        turnCompleted)).stage? 5).map Stage.currentStep = some "claude_done" := rfl
  rw [retried, passed] at steps
  exact absurd (Option.some.inj steps) (by decide)

end Wlcodex.Bridge
