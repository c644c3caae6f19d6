import Wlcodex.Lib.EmbeddedJson
import Wlcodex.Lib.RegexSub
import Wlcodex.Native.Mapping

namespace Wlcodex.Bridge

open Wlcodex.Lib
open Wlcodex.Lib.Json (embeddedObjects topLevelObjects)
open Wlcodex.Lib.Regex (matchAt)
open Wlcodex.Claude (startsWith)
open Wlcodex.Native (Python field lowerText members?)
open Wlcodex.Relay (Dict firstTruthy isSpace strip)
open Wlcodex.Runtime (WordClass contains isKeyChar plus spelled)

/-! The texts of reviews: `VerificationDecision.parse` and `_parse_audit_report_payload`. -/

def startsWithAny (text : String) (fronts : List String) : Bool := fronts.any (startsWith text)

def find? (word text : List Char) : Option Nat := text.tails.findIdx? fun tail => word.isPrefixOf tail

def isLineBreak (c : Char) : Bool :=
  let n := c.toNat
  (10 ≤ n && n ≤ 13) || (28 ≤ n && n ≤ 30) || n == 0x85 || n == 0x2028 || n == 0x2029

def strippedLines (text : String) : List String :=
  ((text.toList.splitOnP isLineBreak).map fun line => strip (String.ofList line)).filter (· ≠ "")

def endsWithColon (text : String) : Bool := text.toList.getLast? = some ':'

def behindColon (text : String) : String := strip (String.ofList ((text.toList.dropWhile (· ≠ ':')).tail))

def findAll {α : Type} (parse : List Char → Option (α × List Char)) : Nat → List Char → List α
  | 0, _ => []
  | _ + 1, [] => []
  | fuel + 1, c :: rest =>
      match parse (c :: rest) with
      | some (value, behind) => value :: findAll parse fuel behind
      | none => findAll parse fuel rest

/-- `re.search`: the groups of the first match. -/
def search (isWord : Char → Bool) (pattern : Regex) : Option Char → List Char → Option (List (List Char))
  | before, [] => (matchAt isWord pattern before []).map Cursor.groups
  | before, c :: rest =>
      match matchAt isWord pattern before (c :: rest) with
      | some cursor => some cursor.groups
      | none => search isWord pattern (some c) rest

def searchGroup (isWord : Char → Bool) (pattern : Regex) (text : String) : Option String :=
  ((search isWord pattern none text.toList).bind List.head?).map String.ofList

inductive Verdict where
  | pass
  | retry
  | stop
  | needUser
  deriving DecidableEq

inductive AuditDecision where
  | pass
  | block
  | needsUser
  deriving DecidableEq

def normalizedValue (value : String) : String :=
  String.ofList ((lowerText (strip value)).toList.map fun c => if c = '-' ∨ c = ' ' then '_' else c)

def passFronts : List String := ["pass", "passed", "approve", "approved", "success"]

def repairFronts : List String :=
  ["retry", "repair", "block", "blocked", "fail", "failed", "needs_repair", "need_repair"]

def userFronts : List String := ["needs_user", "need_user", "ask_user"]

def normalizeVerificationDecisionValue (value : String) : Option Verdict :=
  let normalized := normalizedValue value
  if startsWithAny normalized passFronts then some .pass
  else if startsWithAny normalized repairFronts then some .retry
  else if startsWithAny normalized ["stop", "stopped"] then some .stop
  else if startsWithAny normalized userFronts then some .needUser
  else none

def normalizeAuditDecisionValue (value : String) : Option AuditDecision :=
  let normalized := normalizedValue value
  if startsWithAny normalized passFronts then some .pass
  else if startsWithAny normalized repairFronts then some .block
  else if startsWithAny normalized userFronts then some .needsUser
  else none

def decisionKeys : List String := ["decision", "verdict", "status", "conclusion"]

/-- The report of an object: what is wrapped as `audit_report`, or the object itself. -/
def report? (members : Dict) : Option Dict :=
  match members.lookup "audit_report" with
  | none => some members
  | some wrapped => members? wrapped

section Python

variable (python : Python)

/-- `str(report.get(first) or report.get(second) or ... or "").strip()`. -/
def firstField (report : Dict) (keys : List String) : String :=
  strip (((firstTruthy report keys).map python.text).getD "")

def decisionText (report : Dict) : String := lowerText (firstField python report decisionKeys)

def verificationVerdict? (members : Dict) : Option Verdict :=
  (report? members).bind fun report => normalizeVerificationDecisionValue (decisionText python report)

def auditVerdict? (members : Dict) : Option AuditDecision :=
  (report? members).bind fun report => normalizeAuditDecisionValue (decisionText python report)

structure VerificationDecision where
  decision : Verdict
  summary : String := ""
  requiredFix : String := ""
  confidence : String := ""

def saysIn (text : String) (words : List String) : Bool := words.any fun word => contains word text

def proseVerdict (text : String) : Verdict :=
  let lowered := lowerText text
  if contains "decision: retry" lowered then .retry
  else if contains "decision: pass" lowered then .pass
  else if contains "decision: stop" lowered then .stop
  else if contains "decision: need_user" lowered then .needUser
  else if saysIn text ["需要修改", "不能验收通过"] then .retry
  else if contains "无法完成" text then .stop
  else if contains "需要用户" text then .needUser
  else if contains "验收通过" text then .pass
  else .needUser

/-- The part of a text from `required_fix:` to the next field. -/
def requiredFixText (text : String) : String :=
  match find? "required_fix:".toList (lowerText text).toList with
  | none => text
  | some start =>
      let afterFix := text.toList.drop start
      let lowered := (lowerText (String.ofList afterFix)).toList
      let stops := ["\nconfidence:", "\nsummary:", "\ndecision:", "\nnext_agent:", "\nreason:"].filterMap
        fun marker => (find? marker.toList lowered).filter (0 < ·)
      strip (String.ofList (afterFix.take (stops.foldl min afterFix.length)))

def proseDecision (text : String) : VerificationDecision where
  decision := proseVerdict text
  summary := text
  requiredFix :=
    if contains "decision: retry" (lowerText text) then requiredFixText text
    else if proseVerdict text = .retry then text
    else ""

/-- `VerificationDecision.parse`. -/
def parseVerification (text : String) : VerificationDecision :=
  match (topLevelObjects text.toList).getLast? with
  | none => proseDecision text
  | some members =>
      match report? members, verificationVerdict? python members with
      | some report, some verdict =>
          let summary := strip (((firstTruthy report ["summary"]).map python.text).getD text)
          let requiredFix := firstField python report ["required_fix", "repair_prompt", "next_action"]
          { decision := verdict
            summary
            requiredFix := if verdict = .retry ∧ requiredFix = "" then summary else requiredFix
            confidence := firstField python report ["confidence"] }
      | _, _ => proseDecision text

inductive Risk where
  | low
  | medium
  | high
  | critical
  deriving DecidableEq

def Risk.name : Risk → String
  | .low => "low"
  | .medium => "medium"
  | .high => "high"
  | .critical => "critical"

/-- What `_parse_audit_report_payload` returns; without a decision it is the empty text. -/
structure AuditReport where
  summary : String
  decision : Option AuditDecision
  findings : List String
  missingEvidence : List String
  riskLevel : Risk
  recommendedNextAction : String
  testEvidenceRefs : List String
  rawResult : String

def normalizeAuditRiskValue (value : String) (decision : Option AuditDecision) : Risk :=
  ([Risk.low, .medium, .high, .critical].find? fun risk =>
    startsWith (normalizedValue value) risk.name).getD (if decision = some .pass then .low else .medium)

def normalizeAuditList : Option Json → List String
  | some (.array entries) =>
      (entries.map fun entry =>
        match entry with
        | .object members =>
            " | ".intercalate ((["severity", "title", "detail", "impact", "evidence"].map fun key =>
              strip (python.text (field members key))).filter (· ≠ ""))
        | entry => strip (python.text entry)).filter (· ≠ "")
  | _ => []

def auditEvidenceRefItems : Option Json → List String
  | some (.string text) => [strip text].filter (· ≠ "")
  | value => normalizeAuditList python value

def evidenceKeys : List String := ["evidence", "evidence_ref", "evidence_refs", "test_evidence_refs"]

mutual

def auditEvidenceRefsFromValue : Json → List String
  | .array items => auditEvidenceRefsFromItems items
  | .object members =>
      (evidenceKeys.flatMap fun key => auditEvidenceRefItems python (members.lookup key)) ++
        auditEvidenceRefsFromMembers members
  | _ => []

def auditEvidenceRefsFromItems : List Json → List String
  | [] => []
  | item :: items => auditEvidenceRefsFromValue item ++ auditEvidenceRefsFromItems items

def auditEvidenceRefsFromMembers : List (String × Json) → List String
  | [] => []
  | (key, value) :: rest =>
      (if key ∈ evidenceKeys then [] else auditEvidenceRefsFromValue value) ++
        auditEvidenceRefsFromMembers rest

end

def auditEvidenceRefsFromJson (report : Dict) : List String :=
  (auditEvidenceRefItems python (report.lookup "test_evidence_refs") ++
    auditEvidenceRefItems python (report.lookup "evidence_refs") ++
    ["passed_checks", "checks", "verification", "verification_results"].flatMap fun key =>
      ((report.lookup key).map (auditEvidenceRefsFromValue python)).getD []).eraseDups

def firstList (lists : List (List String)) (absent : String) : List String :=
  (lists.find? (· ≠ [])).getD [absent]

def nextAction (decision : Option AuditDecision) : String :=
  if decision = some .pass then "close" else "repair"

def objectReport (text : String) (report : Dict) (decision : AuditDecision) : AuditReport :=
  let list (key : String) : List String := normalizeAuditList python (report.lookup key)
  let recommended := firstField python report ["recommended_next_action", "next_action", "action"]
  { summary := ((firstTruthy report ["summary"]).map python.text).getD (String.ofList (text.toList.take 2000))
    decision := some decision
    findings := firstList [list "findings", list "issues", list "blockers"] "No findings reported."
    missingEvidence := firstList [list "missing_evidence", list "missing"] "None"
    riskLevel := normalizeAuditRiskValue (firstField python report ["risk_level", "risk"]) (some decision)
    recommendedNextAction := if recommended = "" then nextAction (some decision) else recommended
    testEvidenceRefs := auditEvidenceRefsFromJson python report
    rawResult := text }

/-- `_extract_audit_report_json`: the first object with a decision that is known. -/
def extractAuditReportJson (text : String) : Option AuditReport :=
  (embeddedObjects text.toList).findSome? fun members =>
    (report? members).bind fun report =>
      (normalizeAuditDecisionValue (decisionText python report)).map (objectReport python text report)

end Python

section Fields

def quote : Regex := .chars (· == '"')

def exactly : Char → List Char → Regex
  | c, [] => .chars (· == c)
  | c, next :: rest => .seq (.chars (· == c)) (exactly next rest)

/-- `"name"\s*:\s*`, then what follows. -/
def quotedField (name behind : Regex) : Regex :=
  .seq quote <| .seq name <| .seq quote <| .seq (.star isSpace) <| .seq (.chars (· == ':')) <|
    .seq (.star isSpace) behind

/-- `"([^"]+)"`. -/
def quotedValue : Regex := .seq quote (.seq (.group (plus (· != '"'))) quote)

def decisionField : Regex :=
  quotedField (.alt (spelled 'd' "ecision".toList) <| .alt (spelled 'v' "erdict".toList) <|
    .alt (spelled 's' "tatus".toList) (spelled 'c' "onclusion".toList)) quotedValue

def legacyDecision : Regex :=
  .seq .boundary <| .seq (spelled 'd' "ecision".toList) <| .seq (.star isSpace) <|
    .seq (.chars (· == ':')) <| .seq (.star isSpace) <|
    .group (plus fun c => isKeyChar c || c == ' ' || c == '-')

def summaryField : Regex := quotedField (exactly 's' "ummary".toList) quotedValue

def riskField : Regex :=
  quotedField (.alt (spelled 'r' "isk_level".toList) (spelled 'r' "isk".toList)) quotedValue

def evidenceField : Regex :=
  quotedField (.alt (spelled 'e' "vidence".toList) <| .alt (spelled 'e' "vidence_ref".toList)
    (spelled 't' "est_evidence_refs".toList)) quote

def evidenceListField : Regex :=
  quotedField (.alt (spelled 'e' "vidence".toList) <| .alt (spelled 'e' "vidence_refs".toList)
    (spelled 't' "est_evidence_refs".toList)) (.chars (· == '['))

/-- `((?:\\.|[^"\\])*)"`: a text up to the quote that closes it. -/
def quotedBody : List Char → Option (List Char × List Char)
  | [] => none
  | '"' :: rest => some ([], rest)
  | ['\\'] => none
  | '\\' :: c :: rest =>
      if c = '\n' then none
      else (quotedBody rest).map fun (body, behind) => ('\\' :: c :: body, behind)
  | c :: rest => (quotedBody rest).map fun (body, behind) => (c :: body, behind)

/-- `(.*?)\]`. -/
def bracketBody (text : List Char) : Option (List Char × List Char) :=
  match text.dropWhile (· ≠ ']') with
  | [] => none
  | _ :: behind => some (text.takeWhile (· ≠ ']'), behind)

def quoted : List Char → Option (List Char × List Char)
  | '"' :: rest => quotedBody rest
  | _ => none

def fieldWith (head : Regex) (body : List Char → Option (List Char × List Char)) (text : List Char) :
    Option (List Char × List Char) :=
  (matchAt (fun _ => false) head none text).bind fun cursor => body cursor.rest

def jsonStringLiteral (value : List Char) : String :=
  match Json.loads ('"' :: value ++ ['"']) with
  | some (.string text) => text
  | _ => String.ofList value

def auditEvidenceRefsFromText (text : String) : List String :=
  let all {α : Type} (parse : List Char → Option (α × List Char)) (text : List Char) : List α :=
    findAll parse text.length text
  let bodies := all (fieldWith evidenceField quotedBody) text.toList ++
    (all (fieldWith evidenceListField bracketBody) text.toList).flatMap fun body => all quoted body
  ((bodies.map fun body => strip (jsonStringLiteral body)).filter (· ≠ "")).eraseDups

def dashesFolded (text : String) : String :=
  String.ofList (text.toList.map fun c => if c = '-' then '_' else c)

def extractListAfterHeading (heading : String) (inSection : Bool) : List String → List String
  | [] => []
  | line :: lines =>
      let stripped := strip line
      if startsWith (dashesFolded (lowerText stripped)) (heading ++ ":") then
        [behindColon stripped].filter (· ≠ "") ++ extractListAfterHeading heading true lines
      else if inSection then
        if endsWithColon stripped then []
        else
          let item := strip (String.ofList (stripped.toList.dropWhile fun c => c = '-' ∨ c = '*' ∨ c = ' '))
          [item].filter (· ≠ "") ++ extractListAfterHeading heading true lines
      else extractListAfterHeading heading false lines

variable (words : WordClass)

def textDecision (text : String) : Option AuditDecision :=
  let lowered := lowerText text
  let byField := (searchGroup words.isWord decisionField text).bind normalizeAuditDecisionValue
  let byLegacy := (searchGroup words.isWord legacyDecision text).bind normalizeAuditDecisionValue
  byField <|> byLegacy <|>
    (if contains "验收通过" text ∧ ¬contains "不能验收通过" text then some .pass else none) <|>
    (if saysIn lowered ["decision: block", "decision:block"] then some .block else none) <|>
    (if saysIn lowered ["decision: needs_user", "decision:needs_user"] then some .needsUser else none)

def textSummary (text : String) (lines : List String) : String :=
  let or? (named : Option String) (absent : String) : String := (named.filter (· ≠ "")).getD absent
  let beginning := String.ofList (text.toList.take 2000)
  let inLines := or? ((lines.find? fun line => startsWith (lowerText line) "summary:").map behindColon)
    beginning
  or? ((searchGroup words.isWord summaryField text).map strip) inLines

def textReport (text : String) : AuditReport :=
  let lines := strippedLines text
  let decision := textDecision words text
  let list (heading absent : String) : List String :=
    firstList [extractListAfterHeading heading false lines] absent
  { summary := textSummary words text lines
    decision
    findings := list "findings" "No findings reported."
    missingEvidence := list "missing_evidence" "None"
    riskLevel := normalizeAuditRiskValue ((searchGroup words.isWord riskField text).getD "") decision
    recommendedNextAction := nextAction decision
    testEvidenceRefs := (extractListAfterHeading "test_evidence_refs" false lines ++
      auditEvidenceRefsFromText text).eraseDups
    rawResult := text }

def parseAuditReportPayload (python : Python) (text : String) : AuditReport :=
  (extractAuditReportJson python text).getD (textReport words text)

end Fields

end Wlcodex.Bridge
