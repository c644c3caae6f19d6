import Wlcodex.Orchestrator.Desk

namespace Wlcodex.Orchestrator

open Wlcodex.Lib Act
open Chief (OnDelta Streaming openStream)
open Wlcodex.Bridge (Verdict parseVerification)
open Wlcodex.Native (Python lowerText)
open Wlcodex.Relay (strip)
open Wlcodex.Runtime (contains)

/-! `_run_chief_engineer`. -/

def firstText (first second : String) : String := if first = "" then second else first

def roundOr (progress : Progress) (verifyRound : Int) : Int :=
  if progress.roundNum = 0 then verifyRound else progress.roundNum

def retryCount (progress : Progress) : Int := roundOr progress 1 - 1

def renderUserProgressText (phase : Phase) (firstImplDelta : Bool) : String :=
  match phase with
  | .analysisStarted => "我先看需求和改动范围。"
  | .analysisComplete => "方案看完了，交给 DeepSeek 开发工程师改。"
  | .implDelta => if firstImplDelta then "DeepSeek 开发工程师正在改代码，我会在关键节点更新。" else ""
  | .implComplete => "开发工程师改完了，审计工程师开始验收。"
  | .verifyStarted => "我在验收改动。"
  | .verifyComplete => "验收结果出来了。"
  | _ => ""

/-- The last position of `{` and `}` where every brace is closed, from a depth on. -/
def lastClose : List Char → Int → Nat → Option Nat
  | [], _, _ => none
  | c :: rest, depth, place =>
      let deeper := if c = '\x7b' then depth + 1 else if c = '\x7d' then depth - 1 else depth
      (lastClose rest deeper (place + 1)).or (if c = '\x7d' ∧ deeper = 0 then some place else none)

section Analysis

variable (python : Python)

def spokenField (members : Relay.Dict) (key : String) : Option String :=
  match members.lookup key with
  | some (.string text) => if strip text = "" then none else some (strip text)
  | _ => none

def visibleSummary (members : Relay.Dict) : Option String :=
  let summary := strip (((members.lookup "summary").map python.text).getD "")
  if summary = "" then ["message", "title", "conclusion", "result"].findSome? (spokenField members) else some summary

def visibleAnalysisReply (text : String) : String :=
  let stripped := strip text
  if stripped = "" then ""
  else
    match (parseLastCompleteJson stripped).bind (visibleSummary python) with
    | some summary => summary
    | none =>
        if stripped.toList.head? = some '\x7b' then
          match (lastClose stripped.toList 0 0).filter (0 < ·) with
          | some last =>
              let afterJson := strip (String.ofList (stripped.toList.drop (last + 1)))
              if afterJson ≠ "" ∧ afterJson.toList.head? ≠ some '\x7b' then afterJson else stripped
          | none => stripped
        else stripped

end Analysis

def Desk.noteSession (desk : Desk) (id : Nat) (sessionId : String) : Desk :=
  if sessionId = "" ∨ sessionId = desk.latestSessionId then desk
  else
    { desk.changeAgentRun id fun row => { row with status := "running", externalSessionId := sessionId } with
      latestSessionId := sessionId, claudeSession := sessionId }

def Lifecycle.event (id : Nat) : Lifecycle → RuntimeEvent
  | completed => .agentRunCompleted id ""
  | failed => .agentRunFailed id ""
  | activity => .agentRunActivity id ""

section Runner

variable {ω : Type} (chief : Chief ω) (launch : Launch)

def Desk.startClaudeRun (desk : Desk) : Desk :=
  let id := desk.nextAgentRunId
  { ((desk.createAgentRun "claude" "implementation" (front 120 launch.prompt) launch.resumeSessionId).runAgent
      id).append (.agentRunStarted id "claude" "implementation") with
    claudeRunId := some id, activeClaudeRun := some id }

def wrapItem (id : Nat) (onDelta : OnDelta ω Desk) (gathered : String × Option String) :
    StreamItem → Act (Orchestra ω × Desk) (Option (String × Option String))
  | .lifecycle kind => do
      (log (kind.event id)).second
      pure (some gathered)
  | .event event => do
      (change fun desk => (desk.noteSession id event.sessionId).append
        (.agentRunActivity id (front 200 event.delta))).second
      let text ← onDelta gathered.1 event
      let error := if event.kind = .error then some event.delta else gathered.2
      pure (text.map fun text => (text, error))

def wrapEnd (id : Nat) (text : String) (error raises : Option String) :
    Act (Orchestra ω × Desk) (Option String) := do
  match raises, error with
  | none, none => (log (.agentRunCompleted id "")).second
  | some exc, _ => (log (.agentRunFailed id (front 500 (firstText exc "Claude streaming returned error")))).second
  | none, some exc =>
      (log (.agentRunFailed id (front 500 (firstText exc "Claude streaming returned error")))).second
  match raises with
  | some exc => raise (firstText exc "Claude streaming failed")
  | none => pure (some text)

/-- `_ClaudeRuntimeWrapper.send_streaming`. -/
def wrappedStreaming : Streaming ω Desk := fun prompt onDelta => do
  let before ← get
  let id := before.2.nextAgentRunId
  (change fun desk => desk.startClaudeRun launch).second
  let sending := chief.backends.claudeStreaming.getD fun world _ => (⟨[], some "no send_streaming"⟩, world)
  let stream ← (openStream prompt sending).first
  match ← foldEach (wrapItem id onDelta) ("", none) stream.items with
  | none => pure none
  | some (text, error) => wrapEnd id text error stream.raises

def assign (update : Locals → Locals) : Act Desk Unit := change fun desk => desk.assign update

def handlePhaseProgress (progress : Progress) : Act Desk Unit := do
  let quiet ← usesRuntimeProgress launch
  let text := renderUserProgressText progress.phase false
  if quiet ∨ progress.text = "" ∨ text = "" then pure () else render launch (.textDelta ("\n\n" ++ text))

def Desk.ensureClaudeRun (desk : Desk) : Desk :=
  if desk.claudeRunId.isSome then desk else desk.startClaudeRun { launch with resumeSessionId := "" }

def onImplDelta (progress : Progress) : Act Desk Unit :=
  if progress.text = "" then pure ()
  else do
    let desk ← get
    assign fun locals =>
      { locals with claudeImplementationText := locals.claudeImplementationText ++ progress.text }
    if desk.locals.implementationNoticeSent then
      if launch.renderer.isSome then do
        let shown ← usesRuntimeProgress launch
        let desk ← get
        if shown ∧ launch.heartbeatDue desk then
          render launch (.runtimeHeartbeat "running_implementation" "claude" (retryCount progress))
        else pure ()
      else pure ()
    else do
      assign fun locals => { locals with implementationNoticeSent := true }
      change fun desk => desk.ensureClaudeRun launch
      log (.phaseChanged "running_implementation" (roundOr progress desk.locals.verifyRound))
      let quiet ← usesRuntimeProgress launch
      if quiet then pure ()
      else render launch (.textDelta ("\n\n" ++ renderUserProgressText progress.phase true))
      render launch (.runtimeProgress "running_implementation" "claude" (retryCount progress))

def onAnalysisStarted : Act Desk Unit := do
  log (.phaseChanged "running_analysis" 0)
  log (.agentRunStarted launch.codexAnalysisRunId "codex" "analysis")
  render launch (.runtimeProgress "running_analysis" "codex" 0)

def onAnalysisComplete (progress : Progress) : Act Desk Unit := do
  let text := firstText progress.fullText progress.text
  assign fun locals => { locals with codexAnalysisText := text, codexAnalysisStatus := "done" }
  change fun desk => desk.endAgentRun launch.codexAnalysisRunId "done" text
  log (.agentRunCompleted launch.codexAnalysisRunId (front 2000 text))

def driftEvent (aggregate : Nat) (agent finding : String) : RuntimeEvent :=
  if contains "token" (lowerText finding) then .securityTokenAccessAttempted aggregate finding agent
  else .securityDeliveryBlocked aggregate finding agent

def Desk.logDrift (desk : Desk) (aggregate : Nat) (agent : String) (findings : List String) : Desk :=
  { desk with events := desk.events ++ findings.map (driftEvent aggregate agent) }

def Desk.endClaudeRun (desk : Desk) (status text : String) : Desk × Nat :=
  match desk.claudeRunId with
  | some id => (desk.endAgentRun id status text, id)
  | none =>
      ((desk.createAgentRun "claude" "implementation" (front 120 launch.prompt) "").endAgentRun
        desk.nextAgentRunId status text, desk.nextAgentRunId)

def onImplComplete (progress : Progress) : Act Desk Unit := do
  let text := firstText progress.fullText progress.text
  assign fun locals => { locals with claudeImplementationText := text }
  change fun desk => desk.logDrift (desk.claudeRunId.getD launch.orchestrationRunId) "claude"
    (detectClaudeDirectDeliveryDrift text)
  change fun desk => (desk.endClaudeRun launch "done" text).1
  render launch (.runtimeProgress "running_implementation" "claude" (retryCount progress))

def followUps (events : List RuntimeEvent) : List String :=
  events.filterMap fun event => match event with
    | .pendingContextRecorded textPreview => if textPreview = "" then none else some textPreview
    | _ => none

/-- `set_pending_user_context`, with what is recorded; whether there was something. -/
def injectPendingContext : Act (Orchestra ω × Desk) Bool := do
  let state ← get
  let texts := followUps state.2.events
  if texts = [] ∨ launch.takesContext = false then pure false
  else do
    (modify fun orchestra : Orchestra ω => { orchestra with pendingUserContext := "; ".intercalate texts }).first
    pure true

def Desk.startVerification (desk : Desk) (verifyRound : Int) : Desk :=
  let id := desk.nextAgentRunId
  ((desk.createAgentRun "codex" "verification"
      (front 120 (firstText desk.locals.claudeImplementationText launch.prompt)) "").runAgent id).assign fun locals =>
    { locals with verifyRound, codexVerificationRunId := some id }

def onVerifyStarted (progress : Progress) : Act (Orchestra ω × Desk) Unit := do
  let before ← get
  let verifyRound := roundOr progress before.2.locals.verifyRound
  let id := before.2.nextAgentRunId
  (change fun desk => desk.startVerification launch verifyRound).second
  let hadPending ← injectPendingContext launch
  (assign fun locals => { locals with hadPendingForVerify := some hadPending }).second
  (log (.phaseChanged "running_verification" verifyRound)).second
  (log (.verificationStarted verifyRound)).second
  (log (.agentRunStarted id "codex" "verification")).second
  (render launch (.runtimeProgress "running_verification" "codex" (retryCount progress))).second

def recordedDecision (verificationText : String) : Verdict :=
  let decision := (parseVerification chief.python verificationText).decision
  if detectVerificationDeliveryDrift verificationText ≠ [] ∧ decision = .pass then .retry else decision

def Desk.endVerification (desk : Desk) (text : String) : Desk × Nat :=
  match desk.locals.codexVerificationRunId with
  | some id => (desk.endAgentRun id "done" text, id)
  | none =>
      let id := desk.nextAgentRunId
      (((desk.createAgentRun "codex" "verification" (front 120 text) "").assign fun locals =>
        { locals with codexVerificationRunId := some id }).endAgentRun id "done" text, id)

def onVerifyComplete (progress : Progress) : Act Desk Unit := do
  let before ← get
  let verifyRound := roundOr progress before.locals.verifyRound
  let text := firstText progress.fullText progress.text
  let decision := recordedDecision chief text
  assign fun locals =>
    { locals with verifyRound, verificationText := text, lastVerificationDecision := some decision }
  change fun desk => desk.logDrift (desk.locals.codexVerificationRunId.getD launch.orchestrationRunId) "codex"
    (detectVerificationDeliveryDrift text)
  log (.verificationDecisionRecorded decision (front 500 text) verifyRound false)
  match before.locals.hadPendingForVerify with
  | none => raise "cannot access local variable 'had_pending_for_verify' where it is not associated with a value"
  | some hadPending => do
      if hadPending then log (.pendingContextReviewed launch.orchestrationRunId) else pure ()
      if decision = .retry then log (.verificationRetryRequested verifyRound (front 500 text)) else pure ()
      let desk ← get
      change fun desk => (desk.endVerification text).1
      log (.agentRunCompleted (desk.endVerification text).2 (front 2000 text))
      if decision = .retry then pure () else log (.verificationCompleted decision verifyRound)

def Desk.failAgent (desk : Desk) (agent text : String) : Desk :=
  if agent = "claude" then
    let (desk, id) := desk.endClaudeRun launch "failed" text
    { desk with activeClaudeRun := some id }
  else if agent = "codex" ∧ desk.locals.codexAnalysisText = "" then
    (desk.endAgentRun launch.codexAnalysisRunId "failed" text).assign fun locals =>
      { locals with codexAnalysisStatus := "failed" }
  else desk

def Desk.failRun (desk : Desk) (progress : Progress) : Desk :=
  let text := firstText progress.fullText progress.text
  let noted := desk.assign fun locals =>
    { locals with
      terminalSent := true
      orchResultStatus := "failed"
      verifyRound := roundOr progress locals.verifyRound
      terminalText := text }
  ({ noted with taskStatus := .failed }.failAgent launch progress.agent text).append
    (.runFailed (front 500 text) (some (firstText progress.agent "unknown")) none none)

def onFailed (progress : Progress) : Act Desk Unit := do
  change fun desk => desk.failRun launch progress
  render launch (.runFailed progress.text)

def renderText (text : String) : Act Desk Unit :=
  if text = "" then pure () else render launch (.textDelta text)

def Desk.beginCompletion (desk : Desk) (progress : Progress) : Desk :=
  desk.assign fun locals =>
    { locals with
      terminalSent := true
      orchResultStatus := firstText progress.resultStatus "passed"
      verifyRound := roundOr progress locals.verifyRound
      terminalText := firstText (firstText progress.fullText progress.text) locals.terminalText }

def verdictText : Verdict → String
  | .pass => "pass"
  | .retry => "retry"
  | .stop => "stop"
  | .needUser => "need_user"

def refusalText (decision : Verdict) : String :=
  "refusing run.completed after verification decision " ++ verdictText decision

/-- A `complete` that passes after a verification that did not. -/
def Desk.refuse (desk : Desk) (decision : Verdict) : Desk :=
  let reason := refusalText decision
  { desk.assign fun locals => { locals with orchResultStatus := "failed", terminalText := reason } with
    taskStatus := .failed
    run := { desk.run with status := "failed", currentStep := "failed", lastVerificationResult := reason } }.append
      (.runFailed reason none (some desk.locals.verifyRound) (some decision))

def refuseCompletion (decision : Verdict) : Act Desk Unit := do
  change fun desk => desk.refuse decision
  render launch (.runFailed (refusalText decision))

def Desk.analysedOnly (desk : Desk) : Bool :=
  desk.locals.claudeImplementationText = "" ∧ desk.locals.verificationText = ""

def Desk.analysisReply (desk : Desk) : String :=
  visibleAnalysisReply chief.python (firstText desk.locals.terminalText desk.locals.codexAnalysisText)

def Desk.acceptAnalysis (desk : Desk) : Desk :=
  (desk.assign fun locals => { locals with lastVerificationDecision := some .pass }).append
    (.verificationDecisionRecorded .pass
      (front 500 (firstText (firstText desk.locals.terminalText desk.locals.codexAnalysisText)
        "Codex determined no implementation needed.")) 0 true)

def Desk.passRun (desk : Desk) : Desk :=
  { desk with taskStatus := .done }.append (.runCompleted desk.locals.verifyRound)

def onPassed : Act Desk Unit := do
  let desk ← get
  if desk.locals.lastVerificationDecision = none ∧ desk.analysedOnly then do
    renderText launch (desk.analysisReply chief)
    change Desk.acceptAnalysis
  else pure ()
  change Desk.passRun
  render launch .runCompleted

def needsUserNotice : String := "需要用户输入以继续。"

def Desk.userQuestion (desk : Desk) (progress : Progress) : String :=
  strip (firstText (firstText (firstText progress.fullText desk.locals.terminalText) progress.text) needsUserNotice)

def Desk.failTask (desk : Desk) : Desk := { desk with taskStatus := .failed }

def Desk.failUnpassed (desk : Desk) (reason : String) : Desk :=
  desk.append (.runFailed reason none (some desk.locals.verifyRound) none)

def onNeedsUser (progress : Progress) : Act Desk Unit := do
  change Desk.failTask
  let desk ← get
  renderText launch (desk.userQuestion progress)
  change fun desk => desk.failUnpassed "needs_user"
  render launch (.runFailed needsUserNotice)

def unverifiedNotice (progress : Progress) : String := firstText progress.text "编排未通过验收。"

def onUnverified (progress : Progress) : Act Desk Unit := do
  change fun desk => desk.failTask.failUnpassed "verification_failed"
  render launch (.runFailed (unverifiedNotice progress))

def onComplete (progress : Progress) : Act Desk Unit := do
  change fun desk => desk.beginCompletion progress
  let desk ← get
  if desk.locals.orchResultStatus = "passed" then
    match desk.locals.lastVerificationDecision with
    | none | some .pass => onPassed chief launch
    | some decision => refuseCompletion launch decision
  else if desk.locals.orchResultStatus = "needs_user" then onNeedsUser launch progress
  else onUnverified launch progress

def onPhase (progress : Progress) : Act (Orchestra ω × Desk) Unit :=
  match progress.phase with
  | .implDelta => (onImplDelta launch progress).second
  | .analysisStarted => do
      (handlePhaseProgress launch progress).second
      (onAnalysisStarted launch).second
  | .analysisComplete => do
      (handlePhaseProgress launch progress).second
      (onAnalysisComplete launch progress).second
  | .implComplete => do
      (handlePhaseProgress launch progress).second
      (onImplComplete launch progress).second
  | .verifyStarted => do
      (handlePhaseProgress launch progress).second
      onVerifyStarted launch progress
  | .verifyComplete => do
      (handlePhaseProgress launch progress).second
      (onVerifyComplete chief launch progress).second
  | .failed => (onFailed launch progress).second
  | .complete => (onComplete chief launch progress).second
  | .other _ => pure ()

def onProgress (progress : Progress) : Act (Orchestra ω × Desk) Unit := do
  (change fun desk => desk.wait launch).second
  let state ← get
  if state.2.locals.terminalSent then pure () else onPhase chief launch progress

/-- What `except Exception as exc` writes. -/
def Desk.abandonRun (desk : Desk) (exc : String) : Desk :=
  let noted := desk.assign fun locals =>
    { locals with terminalSent := true, orchResultStatus := "failed", terminalText := exc }
  ({ noted with
    taskStatus := .failed
    run := { desk.run with status := "failed", currentStep := "error", lastVerificationResult := front 500 exc } }.endAgentRun
      launch.codexAnalysisRunId "failed" exc).append (.runFailed (front 500 exc) (some "unknown") none none)

def onException (exc : String) : Act Desk Unit := do
  change fun desk => desk.abandonRun launch exc
  render launch (.runFailed exc)

def Desk.recordDecision (desk : Desk) : Desk :=
  let locals := desk.locals
  let passed : Bool := locals.orchResultStatus = "passed"
  if locals.verificationText = "" then desk
  else
    { desk with
      decisions := desk.decisions ++ [
        { decision := if passed then "verify_passed" else "verify_failed_retry"
          reason := front 500 locals.verificationText
          nextAgent := if passed then "" else "claude" }] }

def statusLabel (status : String) : String :=
  if status = "passed" then "验收通过"
  else if status = "failed" then "验证失败"
  else if status = "needs_user" then "需要用户输入"
  else status

def Desk.conclude (desk : Desk) : Desk :=
  let locals := desk.locals
  let status := locals.orchResultStatus
  let analysisText :=
    if locals.codexAnalysisText = "" ∧ status = "failed" then locals.terminalText else locals.codexAnalysisText
  let desk := desk.recordDecision
  let desk := { desk with
    run :=
      { status := if status = "running" then "failed" else status
        currentStep := if status = "passed" then "verify" else "retry"
        verifyRound := locals.verifyRound
        lastCodexAnalysis := front 500 analysisText
        lastClaudeSummary := front 500 locals.claudeImplementationText
        lastVerificationResult := front 500 (firstText locals.verificationText locals.terminalText) } }
  let agentStatus :=
    if locals.codexAnalysisStatus = "running" then (if status = "failed" then "failed" else "done")
    else locals.codexAnalysisStatus
  let desk :=
    if analysisText ≠ "" ∨ agentStatus = "failed" then
      desk.endAgentRun launch.codexAnalysisRunId agentStatus analysisText
    else desk
  { desk with
    conversationSummary := trimToBudget
      ("总工程师第" ++ toString locals.verifyRound ++ "轮: " ++ statusLabel status) 800 }

/-- `_run_chief_engineer`, over any generator of progress. -/
def runChiefEngineer (stream : (Progress → Act (Orchestra ω × Desk) Unit) → Act (Orchestra ω × Desk) Unit) :
    Act (Orchestra ω × Desk) Unit := do
  (log (.phaseChanged "running_analysis" 0)).second
  let _ ← injectPendingContext launch
  match ← attempt (stream (onProgress chief launch)).consumed with
  | .error exc => (onException launch exc).second
  | .ok () => pure ()
  (change fun desk => desk.conclude launch).second

/-- `_run_chief_engineer` as it is launched: over `run_streaming`, with Claude wrapped. -/
def launched (fuel : Nat) : Act (Orchestra ω × Desk) Unit :=
  runChiefEngineer chief launch fun consumer =>
    chief.runStreaming (wrappedStreaming chief launch) consumer fuel launch.prompt

end Runner

end Wlcodex.Orchestrator
