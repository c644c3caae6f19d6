import Mathlib.Data.List.Dedup
import Wlcodex.Lib.Act
import Wlcodex.Orchestrator.Texts

namespace Wlcodex.Orchestrator

open Wlcodex.Lib Act
open Wlcodex.Bridge (Verdict VerificationDecision parseVerification startsWithAny)
open Wlcodex.Native (Python)

/-! `ChiefEngineerOrchestrator`: Codex analyses, Claude implements, Codex verifies. -/

inductive StreamKind where
  | text
  | usage
  | error
  deriving DecidableEq

/-- `AgentStreamEvent`. -/
structure StreamEvent where
  delta : String
  kind : StreamKind := .text
  sessionId : String := ""

inductive Lifecycle where
  | completed
  | failed
  | activity

inductive StreamItem where
  | event (event : StreamEvent)
  | lifecycle (kind : Lifecycle)

/-- One call of `send_streaming`: what comes, and the exception that ends it. -/
structure ClaudeStream where
  items : List StreamItem
  raises : Option String := none

abbrev Snapshot := List (String × String)

inductive Interaction where
  | analysis
  | verification
  deriving DecidableEq

/-- Deterministic backends over a workspace: what they answer may depend on everything that was
sent before. -/
structure Backends (ω : Type) where
  codex : ω → Interaction → String → Except String String × ω
  claude : ω → String → Except String String × ω
  claudeStreaming : Option (ω → String → ClaudeStream × ω)
  evidence : ω → Evidence
  snapshot : ω → Option Snapshot

inductive Sent where
  | codex (mode : Interaction) (prompt : String)
  | claude (prompt : String)
  deriving DecidableEq

/-- A round that was judged: what was implemented, what the verification said and which decision
was acted on. -/
structure Judged where
  round : Nat
  implementation : String
  verification : String
  decision : Verdict

/-- The attributes of the orchestrator that change, with the world around it and what it did. -/
structure Orchestra (ω : Type) where
  world : ω
  pendingUserContext : String := ""
  lastClaudeDriftFindings : List String := []
  sent : List Sent := []
  judged : List Judged := []

structure Chief (ω : Type) where
  backends : Backends ω
  python : Python
  maxVerifyRounds : Int := 3
  budget : ContextBudget := {}
  workspace : String := "wlcodex"

def isCodexAllowedWritePath (path : String) : Bool :=
  startsWithAny (String.ofList (path.toList.map fun c => if c = '\\' then '/' else c)) ["docs/", ".wlcodex/"]

def codexForbiddenWorkspaceChanges : Option Snapshot → Option Snapshot → List String
  | some before, some after =>
      let changed := (((before ++ after).map Prod.fst).dedup.filter fun path =>
        before.lookup path ≠ after.lookup path).mergeSort fun first second => first ≤ second
      changed.filter fun path => !isCodexAllowedWritePath path
  | _, _ => []

def forbiddenChangesText (forbidden : List String) : String :=
  let preview := ", ".intercalate (forbidden.take 8) ++
    if 8 < forbidden.length then ", +" ++ toString (forbidden.length - 8) ++ " more" else ""
  "总工程师轮期间工作区出现非授权实现文件变更，已停止闭环：" ++ preview ++
    "。可能是诊断/审计阶段越界写入，也可能是同一工作区内其他并发修改污染了验收快照；" ++
    "请把这些代码/测试/配置改动交给开发工程师执行或隔离到独立 worktree 后重试。"

inductive Phase where
  | analysisStarted
  | analysisComplete
  | implDelta
  | implComplete
  | verifyStarted
  | verifyComplete
  | complete
  | failed
  | other (name : String)
  deriving DecidableEq

/-- `OrchestrationProgress`. -/
structure Progress where
  phase : Phase
  text : String := ""
  fullText : String := ""
  agent : String := ""
  resultStatus : String := ""
  roundNum : Int := 0
  deriving DecidableEq

structure OrchestrationStepResult where
  step : String
  agent : String
  summary : String

structure OrchestrationResult where
  status : String
  verifyRound : Nat := 0
  codexAnalysis : String := ""
  claudeImplementation : String := ""
  verificationSummary : String := ""
  steps : List OrchestrationStepResult := []

def OrchestrationResult.withStep (result : OrchestrationResult) (step agent text : String) : OrchestrationResult :=
  { result with steps := result.steps ++ [⟨step, agent, front 200 text⟩] }

/-- The end of a round: the method returns, or the next round starts with this analysis. -/
inductive RoundEnd (ρ : Type) where
  | returned (result : ρ)
  | again (result : ρ) (analysis : String)

namespace Chief

variable {ω κ : Type} (chief : Chief ω)

def send (sent : Sent) (answer : ω → Except String String × ω) : Act (Orchestra ω) String := do
  let state ← get
  let (answered, world) := answer state.world
  modify fun state => { state with world, sent := state.sent ++ [sent] }
  match answered with
  | .ok text => pure text
  | .error message => raise message

/-- `_call_codex`, which looks for changes of the workspace that Codex may not make. -/
def callCodex (mode : Interaction) (prompt : String) : Act (Orchestra ω) String := do
  let before ← get
  let result ← send (.codex mode prompt) fun world => chief.backends.codex world mode prompt
  let after ← get
  let forbidden := codexForbiddenWorkspaceChanges (chief.backends.snapshot before.world)
    (chief.backends.snapshot after.world)
  if forbidden = [] then pure result else raise (forbiddenChangesText forbidden)

def callClaude (prompt : String) : Act (Orchestra ω) String :=
  send (.claude prompt) fun world => chief.backends.claude world prompt

def analyzeWithCodex (goal : String) : Act (Orchestra ω) String :=
  chief.callCodex .analysis (buildCodexAnalysisPacket chief.budget chief.workspace goal).render

def claudePrompt (goal analysis : String) : String :=
  (buildClaudeHandoffPacket chief.budget chief.workspace goal analysis).render

def implementWithClaude (goal analysis : String) : Act (Orchestra ω) String :=
  chief.callClaude (chief.claudePrompt goal analysis)

def claudeSummary (impl : String) : String :=
  let drift := detectClaudeDirectDeliveryDrift impl
  if drift = [] then impl
  else
    "WARNING: Claude 实施文本中检测到直接 Telegram delivery / token access 漂移:\n" ++
      "\n".intercalate (drift.map ("  - " ++ ·)) ++ "\n\n---原始 Claude 摘要---\n" ++ front 2000 impl

def verificationPrompt (goal analysis impl : String) (evidence : Evidence) (pending : String) : String :=
  (buildCodexVerificationPacket chief.budget chief.workspace goal analysis (claudeSummary impl) evidence
    pending).render

def verifyWithCodex (goal analysis impl pending : String) : Act (Orchestra ω) String := do
  let state ← get
  modify fun state => { state with lastClaudeDriftFindings := detectClaudeDirectDeliveryDrift impl }
  chief.callCodex .verification
    (chief.verificationPrompt goal analysis impl (chief.backends.evidence state.world) pending)

def decisionOn (verifyResult : String) (claudeDrift : List String) : VerificationDecision :=
  afterDrift (parseVerification chief.python verifyResult) (detectVerificationDeliveryDrift verifyResult) claudeDrift

def judge (round : Nat) (impl verifyResult : String) : Act (Orchestra ω) VerificationDecision := do
  let state ← get
  let decision := chief.decisionOn verifyResult state.lastClaudeDriftFindings
  modify fun state => { state with judged := state.judged ++ [⟨round, impl, verifyResult, decision.decision⟩] }
  pure decision

def isFinalVerifyRound (round : Nat) : Bool := 0 < chief.maxVerifyRounds ∧ chief.maxVerifyRounds ≤ round

/-- No round of this number is left in `_verification_rounds`. -/
def isBeyondRounds (round : Nat) : Bool := 0 < chief.maxVerifyRounds ∧ chief.maxVerifyRounds < round

def maxRoundsText : String := "Max verification rounds (" ++ toString chief.maxVerifyRounds ++ ") reached. "

/-- The part of a round of `run` behind the implementation. -/
def runVerification (goal : String) (result : OrchestrationResult) (round : Nat) (analysis impl : String) :
    Act (Orchestra ω) (RoundEnd OrchestrationResult) := do
  let state ← get
  match ← attempt (chief.verifyWithCodex goal analysis impl state.pendingUserContext) with
  | .error exc =>
      pure (.returned { result with
        status := "failed"
        verificationSummary := "Codex verification failed: " ++ exc })
  | .ok verifyResult =>
      let result := { result with verificationSummary := verifyResult }.withStep
        ("verify_round_" ++ toString round) "codex" verifyResult
      let decision ← chief.judge round impl verifyResult
      match decision.decision with
      | .pass => pure (.returned { result with status := "passed" })
      | .stop => pure (.returned { result with status := "failed", verificationSummary := decision.summary })
      | .needUser =>
          pure (.returned { result with status := "needs_user", verificationSummary := decision.summary })
      | .retry =>
          if chief.isFinalVerifyRound round then
            pure (.returned { result with
              status := "failed"
              verificationSummary := chief.maxRoundsText ++ "Last verification: " ++
                front 200 decision.requiredFix })
          else do
            let state ← get
            pure (.again result
              (buildRetryAnalysis decision.requiredFix analysis goal round state.pendingUserContext))

/-- One round of `run`. -/
def runRound (goal : String) (result : OrchestrationResult) (round : Nat) (analysis : String) :
    Act (Orchestra ω) (RoundEnd OrchestrationResult) := do
  match ← attempt (chief.implementWithClaude goal analysis) with
  | .error exc =>
      pure (.returned { result with
        status := "failed"
        verifyRound := round
        verificationSummary := "Claude implementation failed: " ++ exc })
  | .ok impl =>
      let result := { result with verifyRound := round, claudeImplementation := impl }.withStep
        ("implement_round_" ++ toString round) "claude" impl
      chief.runVerification goal result round analysis impl

/-- The rounds of `run`, as many as are looked at. -/
def runRounds (goal : String) : Nat → OrchestrationResult → Nat → String → Act (Orchestra ω) OrchestrationResult
  | 0, _, _, _ => unfinished
  | fuel + 1, result, round, analysis =>
      if chief.isBeyondRounds round then
        pure { result with
          status := "needs_user"
          verificationSummary := chief.maxRoundsText ++ "Please review the changes and provide guidance." }
      else do
        match ← chief.runRound goal result round analysis with
        | .returned result => pure result
        | .again result analysis => runRounds goal fuel result (round + 1) analysis

/-- The part of `run` behind the analysis. -/
def runAnalysed (fuel : Nat) (goal : String) (result : OrchestrationResult) (analysis : String) :
    Act (Orchestra ω) OrchestrationResult :=
  if isReplyOnlyRequest goal then
    pure { result with status := "passed", verificationSummary := analysis }
  else if isReadOnlyDiagnosticRequest goal then
    if analysisNeedsImplementation analysis then
      pure { result with
        status := "needs_user"
        verificationSummary := renderDiagnosticNeedsImplementation chief.python analysis }
    else
      pure { result with status := "passed", verificationSummary := analysis }
  else if analysisSaysNoImplementationNeeded analysis then
    pure { result with
      status := "passed"
      verificationSummary := "Codex determined no implementation needed." }
  else chief.runRounds goal fuel result 1 analysis

def run (fuel : Nat) (goal : String) : Act (Orchestra ω) OrchestrationResult := do
  match ← attempt (chief.analyzeWithCodex goal) with
  | .error exc =>
      pure { status := "failed", verificationSummary := "Codex analysis failed: " ++ exc }
  | .ok analysis =>
      let result : OrchestrationResult := { status := "running", codexAnalysis := analysis }
      chief.runAnalysed fuel goal (result.withStep "analyze" "codex" analysis) analysis

abbrev OnDelta (ω κ : Type) := String → StreamEvent → Act (Orchestra ω × κ) (Option String)

abbrev Streaming (ω κ : Type) := String → OnDelta ω κ → Act (Orchestra ω × κ) (Option String)

/-- `send_streaming` of the backend, before its first item. -/
def openStream (prompt : String) (sending : ω → String → ClaudeStream × ω) : Act (Orchestra ω) ClaudeStream := do
  let state ← get
  let (stream, world) := sending state.world prompt
  modify fun state => { state with world, sent := state.sent ++ [.claude prompt] }
  pure stream

def onItem (onDelta : OnDelta ω κ) (gathered : String) : StreamItem → Act (Orchestra ω × κ) (Option String)
  | .event event => onDelta gathered event
  | .lifecycle _ => pure (some gathered)

def callClaudeStreaming : Streaming ω κ := fun prompt onDelta =>
  match chief.backends.claudeStreaming with
  | some sending => do
      let stream ← (openStream prompt sending).first
      let gathered ← foldEach (onItem onDelta) "" stream.items
      match gathered, stream.raises with
      | some _, some message => raise message
      | gathered, _ => pure gathered
  | none => do
      let text ← (chief.callClaude prompt).first
      onDelta "" { delta := text }

section Stream

-- the generator of the Claude stream, and what the consumer of the progress does with it
variable (claudeStreaming : Streaming ω κ) (consumer : Progress → Act (Orchestra ω × κ) Unit)

def emit (progress : Progress) : Act (Orchestra ω × κ) Unit := (consumer progress).leaving

def emitFailure (text fullText agent : String) (round : Int) : Act (Orchestra ω × κ) Unit := do
  emit consumer { phase := .failed, text, fullText, agent, roundNum := round }
  emit consumer { phase := .complete, resultStatus := "failed", roundNum := round }

def onDelta (round : Nat) : OnDelta ω κ := fun implAccumulated delta =>
  if delta.kind = .error then do
    let errorText := if delta.delta = "" then "Claude streaming returned error" else delta.delta
    emitFailure consumer ("Claude 实施失败：" ++ errorText) errorText "claude" round
    pure none
  else do
    emit consumer { phase := .implDelta, text := delta.delta, agent := "claude", roundNum := round }
    pure (some (implAccumulated ++ delta.delta))

def streamDecision (goal : String) (round : Nat) (analysis verifyResult : String) (decision : VerificationDecision) :
    Act (Orchestra ω × κ) (RoundEnd Unit) :=
  match decision.decision with
  | .pass => do
      emit consumer
        { phase := .complete, text := "验收通过", fullText := verifyResult, agent := "codex",
          resultStatus := "passed", roundNum := round }
      pure (.returned ())
  | .stop => do
      emit consumer
        { phase := .complete, text := "验收停止：" ++ front 200 decision.summary, fullText := decision.summary,
          agent := "codex", resultStatus := "failed", roundNum := round }
      pure (.returned ())
  | .needUser => do
      emit consumer
        { phase := .complete, text := "需要用户判断：" ++ front 200 decision.summary,
          fullText := decision.summary, agent := "codex", resultStatus := "needs_user", roundNum := round }
      pure (.returned ())
  | .retry =>
      if chief.isFinalVerifyRound round then do
        emit consumer
          { phase := .failed
            text := "已达最大验收轮次（" ++ toString chief.maxVerifyRounds ++ "），最终验收仍要求返工。"
            fullText := chief.maxRoundsText ++ "Last verification: " ++ front 200 decision.requiredFix
            agent := "codex"
            roundNum := round }
        emit consumer { phase := .complete, agent := "codex", resultStatus := "failed", roundNum := round }
        pure (.returned ())
      else do
        let state ← get
        pure (.again () (buildRetryAnalysis decision.requiredFix analysis goal round state.1.pendingUserContext))

def streamVerification (goal : String) (round : Nat) (analysis impl : String) :
    Act (Orchestra ω × κ) (RoundEnd Unit) := do
  emit consumer { phase := .implComplete, text := front 200 impl, fullText := impl, agent := "claude", roundNum := round }
  emit consumer { phase := .verifyStarted, text := "审计工程师正在验收...", agent := "codex", roundNum := round }
  let state ← get
  match ← attempt (chief.verifyWithCodex goal analysis impl state.1.pendingUserContext).first with
  | .error exc => do
      emitFailure consumer ("审计工程师验收失败：" ++ exc) exc "codex" round
      pure (.returned ())
  | .ok verifyResult => do
      emit consumer
        { phase := .verifyComplete, text := front 200 verifyResult, fullText := verifyResult, agent := "codex",
          roundNum := round }
      let decision ← (chief.judge round impl verifyResult).first
      chief.streamDecision consumer goal round analysis verifyResult decision

/-- One round of `run_streaming`. -/
def streamRound (goal : String) (round : Nat) (analysis : String) : Act (Orchestra ω × κ) (RoundEnd Unit) := do
  match ← attempt (claudeStreaming (chief.claudePrompt goal analysis) (onDelta consumer round)) with
  | .error exc => do
      emitFailure consumer ("Claude 实施失败：" ++ exc) exc "claude" round
      pure (.returned ())
  | .ok none => pure (.returned ())
  | .ok (some impl) => chief.streamVerification consumer goal round analysis impl

/-- The rounds of `run_streaming`, as many as are looked at. -/
def streamRounds (goal : String) : Nat → Nat → String → Act (Orchestra ω × κ) Unit
  | 0, _, _ => unfinished
  | fuel + 1, round, analysis =>
      if chief.isBeyondRounds round then
        let text := chief.maxRoundsText ++ "Please review the changes and provide guidance."
        emit consumer
          { phase := .complete, text := front 200 text, fullText := text, agent := "codex",
            resultStatus := "needs_user", roundNum := chief.maxVerifyRounds }
      else do
        match ← chief.streamRound claudeStreaming consumer goal round analysis with
        | .returned () => pure ()
        | .again () analysis => streamRounds goal fuel (round + 1) analysis

/-- The part of `run_streaming` behind the analysis. -/
def streamAnalysed (fuel : Nat) (goal analysis : String) : Act (Orchestra ω × κ) Unit :=
  if isReplyOnlyRequest goal then
    emit consumer { phase := .complete, fullText := analysis, agent := "codex", resultStatus := "passed" }
  else if isReadOnlyDiagnosticRequest goal then
    if analysisNeedsImplementation analysis then
      let message := renderDiagnosticNeedsImplementation chief.python analysis
      emit consumer
        { phase := .complete, text := front 200 message, fullText := message, agent := "codex",
          resultStatus := "needs_user" }
    else emit consumer { phase := .complete, fullText := analysis, agent := "codex", resultStatus := "passed" }
  else if analysisSaysNoImplementationNeeded analysis then
    emit consumer
      { phase := .complete, text := "Codex 认为无需实施代码修改。",
        fullText := "Codex determined no implementation needed.", agent := "codex", resultStatus := "passed" }
  else chief.streamRounds claudeStreaming consumer goal fuel 1 analysis

def runStreaming (fuel : Nat) (goal : String) : Act (Orchestra ω × κ) Unit := do
  emit consumer { phase := .analysisStarted, text := "诊断工程师正在分析需求...", agent := "codex" }
  match ← attempt (chief.analyzeWithCodex goal).first with
  | .error exc => emitFailure consumer ("Codex 分析失败：" ++ exc) exc "codex" 0
  | .ok analysis => do
      emit consumer
        { phase := .analysisComplete, text := front 200 analysis, fullText := analysis, agent := "codex" }
      chief.streamAnalysed claudeStreaming consumer fuel goal analysis

end Stream

end Chief

end Wlcodex.Orchestrator
