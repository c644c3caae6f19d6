import Wlcodex.Relay.Vocabulary

namespace Wlcodex.Orchestrator

/-! The packets of a model call. -/

def chineseOutputPolicy : String :=
  "必须使用中文回复用户可见内容；不要输出英文，除非用户明确要求英文，" ++
    "或代码、命令、文件名、错误原文必须保留。"

def front (count : Nat) (text : String) : String := String.ofList (text.toList.take count)

def approxTokens (text : String) : Nat := max 1 (text.length / 4)

def trimToBudget (text : String) (maxTokens : Nat) : String :=
  if approxTokens text ≤ maxTokens then text else front (maxTokens * 4) text

structure ContextBudget where
  codexAnalysisTokens : Nat := 2500
  codexToClaudeTokens : Nat := 1500
  claudeToCodexTokens : Nat := 2500
  conversationSummaryTokens : Nat := 800

structure ContextPacket where
  mode : String
  workspace : String
  userGoal : String
  currentRequest : String := ""
  conversationSummary : String := ""
  relevantFiles : List String := []
  recentUserConstraints : List String := []
  acceptanceCriteria : List String := []
  tokenBudget : Nat := 0
  outputLanguagePolicy : String := chineseOutputPolicy

def fieldLine (label value : String) : List String := if value = "" then [] else [label ++ ": " ++ value]

def listLine (label between : String) (values : List String) : List String :=
  if values = [] then [] else [label ++ ": " ++ between.intercalate values]

def ContextPacket.lines (packet : ContextPacket) : List String :=
  fieldLine "mode" packet.mode ++ fieldLine "workspace" packet.workspace ++
    fieldLine "user_goal" packet.userGoal ++ fieldLine "current_request" packet.currentRequest ++
    fieldLine "conversation_summary" packet.conversationSummary ++
    listLine "relevant_files" ", " packet.relevantFiles ++
    listLine "recent_user_constraints" "; " packet.recentUserConstraints ++
    listLine "acceptance_criteria" "; " packet.acceptanceCriteria ++
    fieldLine "output_language_policy" packet.outputLanguagePolicy ++
    (if packet.tokenBudget = 0 then [] else ["token_budget: " ++ toString packet.tokenBudget])

def ContextPacket.render (packet : ContextPacket) : String := "\n".intercalate packet.lines

structure CodexAnalysisPacket extends ContextPacket where
  requestedOutput : String := ""

def CodexAnalysisPacket.render (packet : CodexAnalysisPacket) : String :=
  packet.toContextPacket.render ++
    if packet.requestedOutput = "" then "" else "\nrequested_output: " ++ packet.requestedOutput

structure HandoffFromCodex where
  objective : String := ""
  filesToTouch : List String := []
  steps : List String := []
  constraints : List String := []
  acceptanceCriteria : List String := []
  prohibitedChanges : List String := []
  analysis : String := ""

structure ClaudeHandoffPacket extends ContextPacket where
  handoffFromCodex : HandoffFromCodex

def ClaudeHandoffPacket.render (packet : ClaudeHandoffPacket) : String :=
  let handoff := packet.handoffFromCodex
  "\n".intercalate ([packet.toContextPacket.render, "", "handoff_from_codex:"] ++
    fieldLine "  objective" handoff.objective ++ fieldLine "  analysis" handoff.analysis ++
    listLine "  files_to_touch" ", " handoff.filesToTouch ++
    (handoff.steps.zipIdx 1).map (fun step => "  step_" ++ toString step.2 ++ ": " ++ step.1) ++
    listLine "  constraints" "; " handoff.constraints ++
    listLine "  acceptance_criteria" "; " handoff.acceptanceCriteria ++
    listLine "  prohibited_changes" "; " handoff.prohibitedChanges)

structure CodexVerificationPacket extends ContextPacket where
  originalGoal : String := ""
  codexPlanSummary : String := ""
  claudeCompletionSummary : String := ""
  changedFiles : List String := []
  unrelatedChangedFiles : List String := []
  diffExcerptOrSummary : String := ""
  testResults : String := ""
  verificationQuestion : String := ""

def CodexVerificationPacket.render (packet : CodexVerificationPacket) : String :=
  "\n".intercalate ([packet.toContextPacket.render, "", "verification_context:"] ++
    fieldLine "  original_goal" packet.originalGoal ++
    fieldLine "  codex_plan_summary" packet.codexPlanSummary ++
    fieldLine "  claude_completion_summary" packet.claudeCompletionSummary ++
    listLine "  changed_files" ", " packet.changedFiles ++
    listLine "  unrelated_changed_files" ", " packet.unrelatedChangedFiles ++
    fieldLine "  diff_excerpt_or_summary" packet.diffExcerptOrSummary ++
    fieldLine "  test_results" packet.testResults ++
    fieldLine "  verification_question" packet.verificationQuestion)

section Builders

variable (budget : ContextBudget) (workspace : String)

def buildCodexAnalysisPacket (userGoal : String) : CodexAnalysisPacket where
  mode := "chief_engineer"
  workspace
  userGoal
  recentUserConstraints := [
    "本轮是总工程师分析/方案/交接，不要直接完成开发工程师的实现补丁。",
    "可以调用 skill、GitNexus、只读上下文检索和必要的方案验证工具。",
    "可以生成或写入 docs/ 或 .wlcodex/ 下的设计、评审、部署、验收类文档。",
    "不要修改业务代码、测试代码、依赖锁或配置，不要进入改代码/跑实现测试闭环。",
    "把实现交给开发工程师，输出交接包：目标、文件、步骤、验收标准和禁止事项。"]
  tokenBudget := budget.codexAnalysisTokens
  requestedOutput :=
    "Chief-engineer developer handoff packet: root cause, files_to_touch, " ++
      "implementation_steps, acceptance_criteria, verification_plan, " ++
      "prohibited_changes. Do not implement code changes yourself."

def claudeRuntimeConstraints : List String := [
  "你已经进入 Chief Engineer 工作流的实施阶段。Codex 已审批方案，不需再次请示计划审批。",
  "立即落地实施所有代码修改：修改文件、创建测试、运行命令。不要输出计划或问是否批准此计划。",
  "若实现遇到不可解决的障碍才输出阻塞原因，否则必须产生实际 diff/文件变更。",
  "长时间测试/构建/命令不要用一个前台 Bash 卡住；使用 run_in_background 并用 BashOutput 查询进度。",
  "执行过程中给出可流式输出的简短进度，避免长时间静默。",
  "完整闭环：从分析到实现到验证，确保每个步骤闭环完成，不留半成品。",
  "没有漂移：严格遵守 Codex 分析方案和交接要求，不自行扩大或偏离范围。",
  "编码前思考：修改每处代码前先理解上下文和影响范围，谋定而后动。",
  "简洁优先：用最少代码完成目标，不引入不必要的抽象、重构或多余修改。",
  "精准修改：每个编辑只改需要改的地方，精确匹配，不残留调试代码或临时方案。",
  "目标驱动执行：始终以用户目标和验收标准为唯一方向，完成即止，不画蛇添足。"]

def deliveryIsolationConstraints : List String := [
  "你是实施工程师，不是平台 reply agent。绝对不要发送 Telegram 消息。",
  "不要读取 WLCODEX_TELEGRAM_BOT_TOKEN 或任何 TELEGRAM_BOT_TOKEN 变量。",
  "不要调用 Telegram Bot API：不要用 sendMessage、editMessageText、sendChatAction 等。",
  "不要用 curl、httpie、requests、fetch 调用 api.telegram.org。",
  "不要声称已发送 Telegram 或输出 message_id=xxx。你无法发 Telegram。",
  "完成实施后只返回实施摘要给 orchestrator。最终回复由平台发送。"]

/-- `build_claude_handoff_packet`, with nothing but a goal and an analysis. -/
def buildClaudeHandoffPacket (userGoal codexAnalysis : String) : ClaudeHandoffPacket :=
  let constraints := claudeRuntimeConstraints ++ deliveryIsolationConstraints
  { mode := "chief_engineer"
    workspace
    userGoal
    recentUserConstraints := constraints
    tokenBudget := budget.codexToClaudeTokens
    handoffFromCodex :=
      { objective := userGoal
        constraints
        analysis := trimToBudget codexAnalysis budget.codexToClaudeTokens } }

def verificationConstraints : List String := [
  "你是验收 agent，不是平台 reply agent。绝对不要发送 Telegram 消息。",
  "不要读取 WLCODEX_TELEGRAM_BOT_TOKEN 或任何 token/env 变量。",
  "不要调用 Telegram Bot API：sendMessage、editMessageText、curl api.telegram.org 等。",
  "不要发出任何审批申请来获取 Telegram 发送权限。",
  "验收职责只读：检查 diff、跑测试、git diff --check、GitNexus detect_changes。",
  "验收应优先判断本任务范围：若工作区存在任务前已有或平台测试时产生的无关 dirty changes，" ++
    "请作为风险提示列出，不要仅因无关变更判定本任务失败；只有它们由本任务引入或导致任务无法复核时才阻断。",
  "changed_files 是本任务验收主范围；unrelated_changed_files 是旁路变更，只在与任务文件冲突或导致无法复核时阻断。",
  "验收结论只能是 decision: pass / retry / stop / need_user。",
  "发现 Claude 声称已发送 Telegram、直接调了 Telegram API、或输出 message_id=xxx，" ++
    "应判定为违规漂移并标记 retry 或 stop。",
  "最终用户回复由平台 controller 在 verification pass 后发送。"]

def pendingContextText (pendingUserContext : String) : String :=
  if pendingUserContext = "" then ""
  else "[用户在实施/验收阶段补充了以下上下文，请在验证时纳入考量]\n" ++ front 500 pendingUserContext

structure Evidence where
  changedFiles : List String
  diffSummary : String
  testResults : String

def buildCodexVerificationPacket (userGoal codexPlanSummary claudeCompletionSummary : String)
    (evidence : Evidence) (pendingUserContext : String) : CodexVerificationPacket where
  mode := "chief_engineer"
  workspace
  userGoal
  conversationSummary := trimToBudget (pendingContextText pendingUserContext) budget.conversationSummaryTokens
  relevantFiles := evidence.changedFiles
  recentUserConstraints := verificationConstraints
  tokenBudget := budget.claudeToCodexTokens
  originalGoal := userGoal
  codexPlanSummary := trimToBudget codexPlanSummary budget.conversationSummaryTokens
  claudeCompletionSummary := trimToBudget claudeCompletionSummary budget.conversationSummaryTokens
  changedFiles := evidence.changedFiles
  diffExcerptOrSummary := evidence.diffSummary
  testResults := evidence.testResults
  verificationQuestion := "Does the implementation meet all acceptance criteria?"

end Builders

end Wlcodex.Orchestrator
