import Wlcodex.Bridge.Reviews
import Wlcodex.Lib.Trim

namespace Wlcodex.Bridge

open Wlcodex.Lib
open Wlcodex.Native (Python field members?)
open Wlcodex.Relay (Dict isSpace str strip truthy)
open Wlcodex.Relay.StreamState (isText)

/-! The gate behind the tests, over the commands of an implementation. -/

structure CommandEntry where
  command : String
  exitStatus : Int
  summary : String
  deriving DecidableEq

def CommandEntry.payload (entry : CommandEntry) : Dict :=
  [("command", .string entry.command), ("exit_status", .int entry.exitStatus),
    ("summary", .string entry.summary)]

structure GateResult where
  missing : List String

def GateResult.passed (result : GateResult) : Bool := result.missing.isEmpty

def placeholderPrefixes : List String :=
  ["No changed files reported.", "No diff evidence collected.",
    "No structured command evidence reported", "No structured test attempt reported",
    "No structured test command evidence reported", "No passing test evidence reported.",
    "Test evidence requires auditor review.",
    "Acceptance criteria coverage was not reported structurally."]

def missingTestEvidence : CommandEntry where
  command := "No structured test attempt reported by implementer."
  exitStatus := 1
  summary := "No test command evidence was available; Gate C must block."

def equalsZero : Json → Bool
  | .int value => value = 0
  | .bool value => !value
  | .float literal => !truthy (.float literal)
  | _ => false

def isInt : Json → Bool
  | .int _ => true
  | .bool _ => true
  | _ => false

section Validators

variable (python : Python)

def isPlaceholder (value : Json) : Bool := startsWithAny (strip (python.text value)) placeholderPrefixes

/-- `_missing`, for one field. -/
def isMissing : Option Json → Bool
  | none => true
  | some .null => true
  | some (.string "") => true
  | some (.array []) => true
  | some value => isPlaceholder python value

def missing (payload : Dict) (fields : List String) : List String :=
  fields.filter fun field => isMissing python (payload.lookup field)

def appendMissingOnce (missing : List String) (field : String) (valid : Bool) : List String :=
  if valid ∨ field ∈ missing then missing else missing ++ [field]

def stated (entry : Dict) (key : String) : Bool :=
  truthy (entry.getOrNull key) && !isPlaceholder python (entry.getOrNull key)

def validCommandEntry (value : Json) : Bool :=
  match members? value with
  | some entry =>
      stated python entry "command" && stated python entry "summary" &&
        isInt (entry.getOrNull "exit_status")
  | none => false

def validCommandEntries : Option Json → Bool
  | some (.array entries) => !entries.isEmpty && entries.all (validCommandEntry python)
  | _ => false

def validCoverageEntry (value : Json) : Bool :=
  match members? value with
  | some entry =>
      (isText (entry.lookup "status") "covered" || isText (entry.lookup "status") "uncovered") &&
        truthy (entry.getOrNull "criterion") && stated python entry "evidence"
  | none => false

def validCoverageEntries : Option Json → Bool
  | some (.array entries) => !entries.isEmpty && entries.all (validCoverageEntry python)
  | _ => false

def validNonPlaceholderList : Option Json → Bool
  | some (.array items) => !items.isEmpty && !items.any (isPlaceholder python)
  | _ => false

def validateTestReport (payload : Dict) : GateResult :=
  let absent := missing python payload ["summary", "passed", "failed", "failure_evidence"]
  let absent := appendMissingOnce absent "commands_run"
    (validCommandEntries python (payload.lookup "commands_run"))
  let absent := appendMissingOnce absent "passed"
    (validNonPlaceholderList python (payload.lookup "passed"))
  ⟨appendMissingOnce absent "coverage_of_acceptance_criteria"
    (validCoverageEntries python (payload.lookup "coverage_of_acceptance_criteria"))⟩

def AuditDecision.name : AuditDecision → String
  | .pass => "pass"
  | .block => "block"
  | .needsUser => "needs_user"

def AuditReport.payload (report : AuditReport) : Dict :=
  let texts (list : List String) : Json := .array (list.map .string)
  [("summary", .string report.summary),
    ("decision", .string ((report.decision.map AuditDecision.name).getD "")),
    ("findings", texts report.findings), ("missing_evidence", texts report.missingEvidence),
    ("risk_level", .string report.riskLevel.name),
    ("recommended_next_action", .string report.recommendedNextAction),
    ("test_evidence_refs", texts report.testEvidenceRefs), ("raw_result", .string report.rawResult)]

def validateAuditReport (payload : Dict) : GateResult :=
  let absent := missing python payload
    ["decision", "summary", "findings", "missing_evidence", "risk_level", "recommended_next_action"]
  let known := ["pass", "block", "needs_user"].any fun name => isText (payload.lookup "decision") name
  let absent := if "decision" ∉ absent ∧ ¬known then absent ++ ["decision"] else absent
  if isText (payload.lookup "decision") "pass" ∧
      ¬validNonPlaceholderList python (payload.lookup "test_evidence_refs") then
    ⟨absent ++ ["test_evidence_refs"]⟩
  else ⟨absent⟩

def commandsOrMissing (commandsRun : List Dict) : List Dict :=
  if commandsRun = [] then [missingTestEvidence.payload] else commandsRun

variable (commands : List Dict)

def failedCommands : List Dict :=
  commands.filter fun command => !equalsZero (command.getOrNull "exit_status")

def passedCommands : List Dict :=
  commands.filter fun command => equalsZero (command.getOrNull "exit_status")

def Covered : Prop := passedCommands commands ≠ [] ∧ failedCommands commands = []

instance (commands : List Dict) : Decidable (Covered commands) := by
  unfold Covered
  infer_instance

def commandNames (absent : String) : List Json :=
  if commands = [] then [.string absent]
  else commands.map fun command => .string (python.text (field command "command"))

def artifactEvidence : Option Int → String
  | some artifact => "team_artifact=" ++ toString artifact
  | none => "implementation_report"

def coverageEvidence (artifact : Option Int) : String :=
  if Covered commands then artifactEvidence artifact
  else "Acceptance criteria coverage was not reported structurally."

def coverageEntry (artifact : Option Int) (criterion : String) : Json :=
  .object [("criterion", .string criterion),
    ("status", .string (if Covered commands then "covered" else "uncovered")),
    ("evidence", .string (coverageEvidence commands artifact))]

def criteriaOrFocused (acceptanceCriteria : List String) : List String :=
  if acceptanceCriteria = [] then ["Focused verification command completed."] else acceptanceCriteria

/-- `test_report_payload_from_implementation`. -/
def testReportPayload (summary : String) (implementationArtifactId : Option Int)
    (commandsRun : List Dict) (acceptanceCriteria : List String) : Dict :=
  let commands := commandsOrMissing commandsRun
  [("summary", .string summary), ("commands_run", .array (commands.map .object)),
    ("passed", .array
      (commandNames python (passedCommands commands) "No passing test evidence reported.")),
    ("failed", .array (commandNames python (failedCommands commands) "None")),
    ("coverage_of_acceptance_criteria", .array
      ((criteriaOrFocused acceptanceCriteria).map (coverageEntry commands implementationArtifactId))),
    ("failure_evidence", .array [.string
      (if failedCommands commands = [] then "None" else artifactEvidence implementationArtifactId)])]

structure GoodCommand (entry : Dict) : Prop where
  command : stated python entry "command" = true
  summary : stated python entry "summary" = true
  ended : isInt (entry.getOrNull "exit_status") = true
  zero : equalsZero (entry.getOrNull "exit_status") = true

/-- What `str` makes of a list begins with a bracket. -/
def PlainLists : Prop := ∀ items, isPlaceholder python (.array items) = false

variable {python} {payload : Dict}

theorem appendMissingOnce_eq_nil_iff {absent : List String} {field : String} {valid : Bool} :
    appendMissingOnce absent field valid = [] ↔ absent = [] ∧ valid = true := by
  unfold appendMissingOnce
  cases valid with
  | true => simp
  | false =>
      constructor
      · intro empty
        split at empty
        next known =>
          rw [empty] at known
          simp at known
        · simp at empty
      · exact fun holds => absurd holds.2 Bool.false_ne_true

theorem passed_validateTestReport_iff :
    (validateTestReport python payload).passed = true ↔
      (∀ field ∈ ["summary", "passed", "failed", "failure_evidence"],
          isMissing python (payload.lookup field) = false) ∧
        validCommandEntries python (payload.lookup "commands_run") = true ∧
        validNonPlaceholderList python (payload.lookup "passed") = true ∧
        validCoverageEntries python (payload.lookup "coverage_of_acceptance_criteria") = true := by
  unfold validateTestReport GateResult.passed
  rw [List.isEmpty_iff, appendMissingOnce_eq_nil_iff, appendMissingOnce_eq_nil_iff,
    appendMissingOnce_eq_nil_iff, missing, List.filter_eq_nil_iff, and_assoc, and_assoc]
  simp only [Bool.not_eq_true]

theorem isMissing_list (lists : PlainLists python) {items : List Json} (some_ : items ≠ []) :
    isMissing python (some (.array items)) = false := by
  cases items with
  | nil => exact absurd rfl some_
  | cons item rest => exact lists _

theorem isMissing_text (text : String) :
    isMissing python (some (.string text)) = false ↔ text ≠ "" ∧ isPlaceholder python (.string text) = false := by
  by_cases empty : text = ""
  · rw [empty]
    exact ⟨nofun, fun stated => absurd rfl stated.1⟩
  · rw [isMissing.eq_5 python (.string text) nofun (fun same => empty (Json.string.inj same)) nofun]
    exact ⟨fun plain => ⟨empty, plain⟩, And.right⟩

theorem validCommandEntries_iff {entries : List Dict} (some_ : entries ≠ []) :
    validCommandEntries python (some (.array (entries.map .object))) = true ↔
      ∀ entry ∈ entries, stated python entry "command" = true ∧ stated python entry "summary" = true ∧
        isInt (entry.getOrNull "exit_status") = true := by
  have several : (entries.map Json.object).isEmpty = false := by
    cases entries with
    | nil => exact absurd rfl some_
    | cons entry rest => rfl
  rw [validCommandEntries, several, Bool.not_false, Bool.true_and, List.all_map, List.all_eq_true]
  refine forall₂_congr fun entry _ => ?_
  rw [← Bool.and_eq_true, ← Bool.and_eq_true, ← Bool.and_assoc]
  rfl

theorem startsWithAny_eq_false {text : String} {c : Char} {fronts : List String}
    (head : text.toList.head? = some c)
    (others : (fronts.all fun front => front.toList.head?.any (· ≠ c)) = true) :
    startsWithAny text fronts = false := by
  refine List.any_eq_false.mpr fun front member begins => ?_
  have other := List.all_eq_true.mp others front member
  obtain ⟨rest, whole⟩ := List.isPrefixOf_iff_prefix.mp begins
  cases letters : front.toList with
  | nil =>
      rw [letters] at other
      cases other
  | cons first letters =>
      rw [letters] at other whole
      rw [← whole] at head
      exact of_decide_eq_true other (Option.some.inj head)

theorem head?_strip {text : String} {c : Char} {rest : List Char} (begins : text.toList = c :: rest)
    (solid : isSpace c = false) : (strip text).toList.head? = some c := by
  have stop : ¬isSpace c = true := by rw [solid]; decide
  rw [strip, String.toList_ofList, begins, List.dropWhile_cons_of_neg stop, List.reverse_cons,
    List.head?_reverse]
  cases all : rest.reverse.all isSpace with
  | true => rw [dropWhile_append_of_all all, List.dropWhile_cons_of_neg stop, List.getLast?_singleton]
  | false => rw [dropWhile_append_of_not_all all, List.getLast?_concat]

theorem stated_artifactEvidence (artifact : Option Int) :
    truthy (.string (artifactEvidence artifact)) = true ∧
      isPlaceholder python (.string (artifactEvidence artifact)) = false := by
  have solid {c : Char} {rest : List Char} (begins : (artifactEvidence artifact).toList = c :: rest)
      (dark : isSpace c = false)
      (others : (placeholderPrefixes.all fun front => front.toList.head?.any (· ≠ c)) = true) :
      truthy (.string (artifactEvidence artifact)) = true ∧
        isPlaceholder python (.string (artifactEvidence artifact)) = false := by
    refine ⟨decide_eq_true fun empty => ?_, startsWithAny_eq_false (head?_strip begins dark) others⟩
    rw [empty] at begins
    cases begins
  cases artifact with
  | none =>
      have begins : "implementation_report".toList = 'i' :: "mplementation_report".toList := rfl
      exact solid begins (by decide) (by decide)
  | some artifact =>
      have begins : ("team_artifact=" ++ toString artifact).toList =
          't' :: ("eam_artifact=".toList ++ (toString artifact).toList) := by
        rw [String.toList_append]
        rfl
      exact solid begins (by decide) (by decide)

theorem commandNames_ne_nil (absent : String) :
    commandNames python commands absent ≠ [] := by
  unfold commandNames
  split
  · exact List.cons_ne_nil _ _
  next some_ => exact fun empty => some_ (List.map_eq_nil_iff.mp empty)

theorem covered_iff :
    Covered commands ↔
      commands ≠ [] ∧ ∀ entry ∈ commands, equalsZero (entry.getOrNull "exit_status") = true := by
  have none_failed : failedCommands commands = [] ↔
      ∀ entry ∈ commands, equalsZero (entry.getOrNull "exit_status") = true := by
    rw [failedCommands, List.filter_eq_nil_iff]
    simp
  rw [Covered, none_failed]
  refine and_congr_left fun all => ?_
  rw [passedCommands, List.filter_eq_self.mpr all]

theorem validNames (absent : String) {commands : List Dict} (some_ : commands ≠ [])
    (all : ∀ entry ∈ commands, stated python entry "command" = true) :
    validNonPlaceholderList python (some (.array (commandNames python commands absent))) = true := by
  rw [commandNames, if_neg some_, validNonPlaceholderList, List.any_map, Bool.and_eq_true,
    Bool.not_eq_true', Bool.not_eq_true', List.any_eq_false]
  constructor
  · rw [List.isEmpty_eq_false_iff]
    exact fun empty => some_ (List.map_eq_nil_iff.mp empty)
  · intro entry member
    have said := all entry member
    rw [stated, Bool.and_eq_true, Bool.not_eq_true', Dict.getOrNull] at said
    cases named : entry.lookup "command" with
    | none =>
        rw [named] at said
        cases said.1
    | some command =>
        rw [named] at said
        rw [Function.comp_apply, field, named]
        exact Bool.eq_false_iff.mp said.2

theorem validCoverage_iff (artifact : Option Int) (criteria : List String) :
    validCoverageEntries python
        (some (.array ((criteriaOrFocused criteria).map (coverageEntry commands artifact)))) = true ↔
      Covered commands ∧ ∀ criterion ∈ criteria, criterion ≠ "" := by
  have stated_evidence : (truthy (.string (coverageEvidence commands artifact)) &&
      !isPlaceholder python (.string (coverageEvidence commands artifact))) = true ↔ Covered commands := by
    unfold coverageEvidence
    split
    next covered =>
      obtain ⟨says_, plain⟩ := @stated_artifactEvidence python artifact
      rw [says_, plain]
      exact ⟨fun _ => covered, fun _ => rfl⟩
    next uncovered =>
      have placeholder : startsWithAny (strip "Acceptance criteria coverage was not reported structurally.")
          placeholderPrefixes = true := by decide +kernel
      rw [isPlaceholder, Python.text, str, placeholder, Bool.not_true, Bool.and_false]
      exact ⟨fun passes => absurd passes Bool.false_ne_true, fun covered => absurd covered uncovered⟩
  have entry (criterion : String) : validCoverageEntry python (coverageEntry commands artifact criterion) =
      true ↔ criterion ≠ "" ∧ Covered commands := by
    have status : (isText (some (.string (if Covered commands then "covered" else "uncovered"))) "covered" ||
        isText (some (.string (if Covered commands then "covered" else "uncovered"))) "uncovered") = true := by
      split <;> rfl
    have whole : validCoverageEntry python (coverageEntry commands artifact criterion) =
        ((isText (some (.string (if Covered commands then "covered" else "uncovered"))) "covered" ||
            isText (some (.string (if Covered commands then "covered" else "uncovered"))) "uncovered") &&
          truthy (.string criterion) && (truthy (.string (coverageEvidence commands artifact)) &&
            !isPlaceholder python (.string (coverageEvidence commands artifact)))) := rfl
    rw [whole, status, Bool.true_and, Bool.and_eq_true, stated_evidence]
    exact and_congr_left fun _ => decide_eq_true_iff
  have all : validCoverageEntries python
      (some (.array ((criteriaOrFocused criteria).map (coverageEntry commands artifact)))) = true ↔
      criteriaOrFocused criteria ≠ [] ∧ ∀ criterion ∈ criteriaOrFocused criteria,
        criterion ≠ "" ∧ Covered commands := by
    rw [validCoverageEntries, Bool.and_eq_true, Bool.not_eq_true', List.isEmpty_eq_false_iff, Ne,
      List.map_eq_nil_iff, List.all_map, List.all_eq_true]
    exact and_congr_right fun _ => forall₂_congr fun criterion _ => entry criterion
  rw [all, criteriaOrFocused]
  split
  next none_ =>
    rw [none_]
    simp
  next some_ =>
    obtain ⟨first, rest, rfl⟩ := List.exists_cons_of_ne_nil some_
    exact ⟨fun valid => ⟨(valid.2 first List.mem_cons_self).2, fun criterion member => (valid.2 criterion member).1⟩,
      fun valid => ⟨some_, fun criterion member => ⟨valid.2 criterion member, valid.1⟩⟩⟩

theorem passed_testReport_iff (lists : PlainLists python) (summary : String) (artifact : Option Int)
    (commands : List Dict) (criteria : List String) :
    (validateTestReport python (testReportPayload python summary artifact commands criteria)).passed = true ↔
      (commands ≠ [] ∧ ∀ entry ∈ commands, GoodCommand python entry) ∧
        (summary ≠ "" ∧ isPlaceholder python (.string summary) = false) ∧
        ∀ criterion ∈ criteria, criterion ≠ "" := by
  have filled : ∀ field ∈ ["passed", "failed", "failure_evidence"], isMissing python
      ((testReportPayload python summary artifact commands criteria).lookup field) = false := by
    simp only [List.forall_mem_cons, List.not_mem_nil, false_imp_iff, implies_true, and_true]
    exact ⟨isMissing_list lists (commandNames_ne_nil _ _), isMissing_list lists (commandNames_ne_nil _ _),
      isMissing_list lists (List.cons_ne_nil _ _)⟩
  have entries : commandsOrMissing commands ≠ [] := by
    unfold commandsOrMissing
    split
    · exact List.cons_ne_nil _ _
    next some_ => exact some_
  rw [passed_validateTestReport_iff, List.forall_mem_cons, and_iff_left filled]
  rw [show (testReportPayload python summary artifact commands criteria).lookup "summary" =
    some (.string summary) from rfl, isMissing_text]
  rw [show (testReportPayload python summary artifact commands criteria).lookup "commands_run" =
    some (.array ((commandsOrMissing commands).map .object)) from rfl, validCommandEntries_iff entries]
  rw [show (testReportPayload python summary artifact commands criteria).lookup
    "coverage_of_acceptance_criteria" = some (.array ((criteriaOrFocused criteria).map
      (coverageEntry (commandsOrMissing commands) artifact))) from rfl, validCoverage_iff, covered_iff]
  rw [show (testReportPayload python summary artifact commands criteria).lookup "passed" =
    some (.array (commandNames python (passedCommands (commandsOrMissing commands))
      "No passing test evidence reported.")) from rfl]
  constructor
  · rintro ⟨said, valid, _, ⟨_, zero⟩, named⟩
    have some_ : commands ≠ [] := by
      intro none_
      rw [none_] at zero
      exact absurd (zero missingTestEvidence.payload List.mem_cons_self) (by decide)
    rw [commandsOrMissing, if_neg some_] at valid zero
    refine ⟨⟨some_, fun entry member => ?_⟩, said, named⟩
    obtain ⟨command, summary, ended⟩ := valid entry member
    exact ⟨command, summary, ended, zero entry member⟩
  · rintro ⟨⟨some_, good⟩, said, named⟩
    have zero : ∀ entry ∈ commands, equalsZero (entry.getOrNull "exit_status") = true :=
      fun entry member => (good entry member).zero
    rw [commandsOrMissing, if_neg some_, passedCommands, List.filter_eq_self.mpr zero]
    exact ⟨said, fun entry member => ⟨(good entry member).command, (good entry member).summary,
        (good entry member).ended⟩,
      validNames _ some_ fun entry member => (good entry member).command, ⟨some_, zero⟩, named⟩

end Validators

end Wlcodex.Bridge
