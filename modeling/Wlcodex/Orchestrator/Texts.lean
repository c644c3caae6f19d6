import Wlcodex.Bridge.Reviews
import Wlcodex.Orchestrator.Packets

namespace Wlcodex.Orchestrator

open Wlcodex.Lib
open Wlcodex.Lib.Json (loads topLevelObjects)
open Wlcodex.Bridge (VerificationDecision find? isLineBreak)
open Wlcodex.Native (Python lowerText)
open Wlcodex.Relay (Dict strip)
open Wlcodex.Runtime (contains)

/-! What the orchestrator reads in texts. -/

def directTelegramSendPatterns : List String := [
  "message_id=", "message_id =", "api.telegram.org", "sendMessage", "editMessageText", "sendChatAction",
  "editMessageReplyMarkup", "telegram.message.sent", "telegram bot sent", "已发送 Telegram", "已发送 telegram",
  "Telegram 已发送", "telegram 已发送", "via Telegram", "通过 Telegram", "已通过 Telegram", "curl.*telegram",
  "http.*telegram.*bot"]

def directTokenAccessPatterns : List String := [
  "WLCODEX_TELEGRAM_BOT_TOKEN", "TELEGRAM_BOT_TOKEN", "telegram.*bot_token", "bot.*token.*telegram",
  "os.environ.*TELEGRAM", "os.getenv.*TELEGRAM", "env.*TELEGRAM_BOT"]

def negatedDeliveryReferenceMarkers : List String := [
  "未发现", "未匹配", "未调用", "未读取", "未发送", "未出现", "无违规", "没有", "不会", "不要", "不能", "无法", "禁止",
  "not ", "no ", "never", "without", "did not", "does not", "do not", "no match", "not matched", "must not",
  "should not", "will not", "won't"]

def placesFrom (word text : List Char) : Nat → Nat → List Nat
  | 0, _ => []
  | fuel + 1, start =>
      match find? word (text.drop start) with
      | none => []
      | some offset => (start + offset) :: placesFrom word text fuel (start + offset + word.length)

def hasNonNegatedPattern (text pattern : String) : Bool :=
  let word := (lowerText pattern).toList
  (text.toList.splitOnP isLineBreak).any fun line =>
    let lowered := (lowerText (String.ofList line)).toList
    (placesFrom word lowered (lowered.length + 1) 0).any fun place =>
      let window := String.ofList ((lowered.take (place + word.length + 90)).drop (place - 90))
      !negatedDeliveryReferenceMarkers.any fun marker => contains (lowerText marker) window

def finding (label : String) (patterns : List String) (hit : String → Bool) : List String :=
  ((patterns.find? hit).map fun pattern => label ++ ": matched '" ++ pattern ++ "'").toList

def detectClaudeDirectDeliveryDrift (implText : String) : List String :=
  let hit pattern := contains (lowerText pattern) (lowerText implText)
  finding "Claude claimed direct Telegram delivery" directTelegramSendPatterns hit ++
    finding "Claude attempted Telegram token access" directTokenAccessPatterns hit

def detectVerificationDeliveryDrift (verifyText : String) : List String :=
  let hit pattern :=
    contains (lowerText pattern) (lowerText verifyText) && hasNonNegatedPattern verifyText pattern
  finding "Codex verification attempted direct delivery" directTelegramSendPatterns hit ++
    finding "Codex verification attempted token access" directTokenAccessPatterns hit

def afterDrift (decision : VerificationDecision) (verificationDrift claudeDrift : List String) :
    VerificationDecision :=
  if decision.decision = .pass ∧ verificationDrift ≠ [] then
    { decision := .retry
      summary := decision.summary
      requiredFix := "审计工程师验收文本中检测到直接 Telegram delivery / token access: " ++
        "; ".intercalate verificationDrift }
  else if decision.decision = .pass ∧ claudeDrift ≠ [] then
    { decision := .retry
      summary := decision.summary
      requiredFix := "Claude 实施文本中检测到直接 Telegram delivery / token access: " ++
        "; ".intercalate claudeDrift }
  else decision

/-- `any(marker in lowered or marker in text for marker in markers)`. -/
def mentions (text : String) (markers : List String) : Bool :=
  markers.any fun marker => contains marker (lowerText text) || contains marker text

def isReplyOnlyRequest (text : String) : Bool :=
  mentions text ["只回复", "仅回复", "只回答", "仅回答", "reply exactly", "only reply", "respond exactly", "only respond"]

def mutationMarkers : List String := [
  "修复", "修改", "改代码", "实现", "落地", "提交", "推送", "重启", "重新部署", "部署最新", "部署到", "回滚", "删除",
  "创建", "补测试", "fix", "implement", "modify", "change code", "restart", "redeploy", "rollback", "delete"]

def readMarkers : List String := [
  "看下", "看看", "查一下", "查询", "检查", "确认", "判断", "是否", "是不是", "不是", "有没有", "有改善", "有生效",
  "生效吗", "吗", "么", "也就是", "日志", "状态", "指标", "最近", "上一版", "check", "inspect", "query", "whether",
  "logs", "status"]

def scopeMarkers : List String := [
  "云服务器", "云上", "服务器", "部署", "版本", "最新版", "代码", "更新", "日志", "指标", "ready", "local l2", "service",
  "journal", "runtime", "health"]

def isReadOnlyDiagnosticRequest (text : String) : Bool :=
  !mentions text mutationMarkers && mentions text readMarkers && mentions text scopeMarkers

def parseLastCompleteJson (text : String) : Option Dict := (topLevelObjects text.toList).getLast?

def isFlag (expected : Bool) (value : Option Json) : Bool :=
  match value with
  | some (.bool flag) => flag = expected
  | _ => false

def noImplementationMarkers : List String := [
  "no code changes", "no implementation needed", "no implementation is needed", "no changes needed", "不需要修改",
  "无需修改", "无需实施", "无需实现", "无需编程", "无需代码变更", "无需实施计划", "没有具体故障", "没有具体任务",
  "暂无可分析的根因"]

def analysisSaysNoImplementationNeeded (text : String) : Bool :=
  (match loads text.toList with
    | some (.object members) => isFlag false (members.lookup "needs_implementation")
    | _ => false) ||
    mentions text noImplementationMarkers

def analysisNeedsImplementation (text : String) : Bool :=
  match parseLastCompleteJson text with
  | some members => isFlag true (members.lookup "needs_implementation")
  | none => false

section Python

variable (python : Python)

/-- `[str(s).strip() for s in raw if str(s).strip()]`, where the member is a list. -/
def strippedItems (members : Dict) (key : String) : List String :=
  match members.lookup key with
  | some (.array items) => (items.map fun item => strip (python.text item)).filter (· ≠ "")
  | _ => []

def titled (title : String) (lines : List String) : List String :=
  if lines = [] then [] else title :: lines ++ [""]

def renderDiagnosticNeedsImplementation (text : String) : String :=
  let members := (parseLastCompleteJson text).getD []
  let summary := strip (((members.lookup "summary").map python.text).getD "")
  let numbered := ((strippedItems python members "implementation_steps").zipIdx 1).map fun step =>
    "  " ++ toString step.2 ++ ". " ++ step.1
  let criteria := ((strippedItems python members "acceptance_criteria").zipIdx 1).map fun criterion =>
    "  " ++ toString criterion.2 ++ ". " ++ criterion.1
  "\n".intercalate (["诊断完成，但发现需要修复的问题。", ""] ++
    (if summary = "" then [] else ["结论：" ++ summary, ""]) ++
    titled "涉及文件：" ((strippedItems python members "files_to_touch").map ("  - " ++ ·)) ++
    titled "实施步骤：" numbered ++ titled "验收标准：" criteria ++
    ["以上修复未自动执行。需要你确认是否开始实施。"])

end Python

def buildRetryAnalysis (requiredFix originalAnalysis originalGoal : String) (round : Nat)
    (pendingUserContext : String) : String :=
  "\n".intercalate (["[RETRY_ROUND_" ++ toString round ++ "]",
      "本轮是修复迭代，必须优先完成 pending context 和 required_fix。",
      "不能仅根据旧目标判断完成，必须实际修改并验证文件。", ""] ++
    (if requiredFix = "" then [] else ["[RETRY_REQUIRED_FIX]", strip requiredFix, ""]) ++
    (if pendingUserContext = "" then [] else ["[LATEST_PENDING_CONTEXT]", strip pendingUserContext, ""]) ++
    ["[ORIGINAL_GOAL]", strip originalGoal, ""] ++
    (if originalAnalysis = "" then [] else ["[ORIGINAL_ANALYSIS]", strip originalAnalysis]))

end Wlcodex.Orchestrator
