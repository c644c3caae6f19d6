import Wlcodex.Bridge.Gates
import Wlcodex.Lib.Once

namespace Wlcodex.Bridge

open Wlcodex.Lib
open Wlcodex.Lib.Json (embeddedObjects)
open Wlcodex.Native (Python field lowerText members?)
open Wlcodex.Relay (Dict isSpace strip truthy)
open Wlcodex.Runtime (contains)

/-! What the text of an implementer reports as JSON. -/

section Python

variable (python : Python)

variable (entry : Dict)

def flagged (key : String) : Bool := truthy (entry.getOrNull key)

def entryStatus : String := lowerText (strip (python.text (field entry "status")))

def reportedExit : Json :=
  (entry.lookup "exit_status").getD ((entry.lookup "exit_code").getD (.int 0))

def passingStatuses : List String := ["pass", "passed", "success", "succeeded"]

def normalizedExit : Int :=
  if (entry.lookup "passed").isSome then
    if flagged entry "passed" then 0 else 1
  else if entryStatus python entry ∈ passingStatuses then 0
  else (python.int? (reportedExit entry)).getD 1

def orElse (text absent : String) : String := if text = "" then absent else text

def normalizeCommandEntry : Option CommandEntry :=
  let command := firstField python entry ["command", "cmd", "name", "check"]
  if command = "" then none
  else some
    { command
      exitStatus := normalizedExit python entry
      summary := orElse (firstField python entry ["summary", "result", "output", "status"])
        "command evidence reported" }

def checksPassed : Bool :=
  match (entry.lookup "checks").bind members? with
  | some checks => !checks.isEmpty && checks.all fun check => truthy check.2
  | none => false

def acceptanceResult : String := strip (python.text (field entry "result"))

def acceptancePassed : Bool :=
  checksPassed entry ||
    saysIn (lowerText (acceptanceResult python entry))
      ["pass", "passed", "success", "succeeded", "all checks passed"]

def acceptanceVerificationCommand : Option CommandEntry :=
  let command := strip (python.text (field entry "command"))
  if command = "" then none
  else some
    { command
      exitStatus := if acceptancePassed python entry then 0 else 1
      summary := orElse (acceptanceResult python entry)
        (if acceptancePassed python entry then "acceptance verification passed"
        else "acceptance verification failed") }

def verificationResultPassed (value : String) : Bool :=
  !saysIn (lowerText value) ["fail", "failed", "error", "失败", "未通过"]

/-- A value that is neither `None` nor the empty text nor an empty list. -/
def isFilled : Json → Bool
  | .null => false
  | .string "" => false
  | .array [] => false
  | _ => true

def commandSummaryFromMapping : String :=
  let named := ["result", "summary", "runtime_impact", "output", "evidence", "status"].findSome? fun key =>
    (entry.lookup key).filter isFilled
  match named, (entry.lookup "checks").bind members? with
  | some value, _ => strip (python.text value)
  | none, some (check :: checks) =>
      ", ".intercalate ((check :: checks).map fun check =>
        check.1 ++ "=" ++ if truthy check.2 then "True" else "False")
  | none, _ => "verification result reported"

def namedResult (value : Json) : String :=
  match members? value with
  | some entry => commandSummaryFromMapping python entry
  | none => orElse (strip (python.text value)) "verification result reported"

def namedPassed (value : Json) : Bool :=
  ((members? value).any fun entry => flagged entry "passed") ||
    verificationResultPassed (namedResult python value) ||
    saysIn (lowerText (namedResult python value)) ["pass", "passed", "success", "no whitespace errors", "通过"]

def namedCommand (name : String) (value : Json) : String :=
  match (members? value).bind fun entry => entry.lookup "command" with
  | some own => strip (python.text own)
  | none => strip name

/-- What `_command_from_named_evidence` makes of a value that does not stand for its own command. -/
def namedEvidence (name : String) (value : Json) : Option CommandEntry :=
  if strip name = "" ∨ namedCommand python name value = "" then none
  else some
    { command := namedCommand python name value
      exitStatus := if namedPassed python value then 0 else 1
      summary := namedResult python value }

inductive Source where
  | entry (members : Dict)
  | acceptance (members : Dict)
  | named (name : String) (value : Json)

def Source.origin : Source → Json
  | .entry members => .object members
  | .acceptance members => .object members
  | .named _ value => value

def Source.command? : Source → Option CommandEntry
  | .entry members => normalizeCommandEntry python members
  | .acceptance members => acceptanceVerificationCommand python members
  | .named name value => namedEvidence python name value

structure Reported where
  source : Source
  command : CommandEntry
  made : source.command? python = some command

def Source.reported (source : Source) : Option (Reported python) :=
  match made : source.command? python with
  | some command => some ⟨source, command, made⟩
  | none => none

def ownCommand? : Option (Reported python) :=
  if flagged entry "command" then Source.reported python (.entry entry) else none

def commandFromNamedEvidence (name : String) (value : Json) : Option (Reported python) :=
  if strip name = "" then none
  else
    match (members? value).bind (ownCommand? python) with
    | some own => some own
    | none => Source.reported python (.named name value)

def semanticKey (value : String) : String :=
  String.ofList ((lowerText value).toList.filter fun c => c.isLower || c.isDigit)

def evidenceFields : List String :=
  ["command", "result", "summary", "runtime_impact", "output", "evidence", "status", "passed", "checks"]

/-- `".".join` of the parts that are not empty. -/
def dotted (front name : String) : String := ".".intercalate ([front, strip name].filter (· ≠ ""))

mutual

def verificationResultCommands (front : String) : Json → List (Reported python)
  | .array entries => verificationEntryCommands front 1 entries
  | .object members =>
      match ownCommand? python members with
      | some own => [own]
      | none => verificationMemberCommands front members
  | value => (commandFromNamedEvidence python (orElse front "verification") value).toList

def verificationEntryCommands (front : String) (index : Nat) : List Json → List (Reported python)
  | [] => []
  | entry :: entries =>
      (match (members? entry).bind fun members => Source.reported python (.entry members) with
        | some own => [own]
        | none =>
            verificationResultCommands (orElse front "verification" ++ "[" ++ toString index ++ "]") entry) ++
        verificationEntryCommands front (index + 1) entries

def verificationMemberCommands (front : String) : List (String × Json) → List (Reported python)
  | [] => []
  | (name, value) :: members =>
      (if semanticKey name ∈ ["acceptancecriteria", "acceptancecriteriamet", "evidencerefs"] then []
      else if (members? value).any fun entry => evidenceFields.all fun key => (entry.lookup key).isNone then
        verificationResultCommands (dotted front name) value
      else (commandFromNamedEvidence python (dotted front name) value).toList) ++
        verificationMemberCommands front members

end

/-- `_dedupe_commands`: the first of those with one command and one summary. -/
def dedupeCommands (commands : List (Reported python)) : List (Reported python) :=
  (unseen (fun reported => (reported.command.command, reported.command.summary)) [] commands)

def testMarkers : List String := ["test", "pytest", "verification", "validation", "verify", "check"]

def plainNames : List String :=
  ["verification", "verificationresults", "validation", "validationresults", "checks", "testresults",
    "commandsrun", "testsattempted"]

variable (evidence : Dict)

def semanticCommandEvidence (testsOnly : Bool) : List (Reported python) :=
  let markers := if testsOnly then testMarkers else "command" :: "shell" :: testMarkers
  dedupeCommands python (evidence.flatMap fun member =>
    let name := semanticKey member.1
    if !saysIn name markers ∨ name ∈ ["acceptancecriteria", "acceptancecriteriamet"] then []
    else verificationResultCommands python (if name ∈ plainNames then "" else member.1) member.2)

def firstSemanticValue (names : List String) : Json :=
  ((evidence.find? fun member => semanticKey member.1 ∈ names.map semanticKey).map Prod.snd).getD .null

def normalizeChangedFileEntry (entry : Json) : String × String :=
  match members? entry with
  | some members =>
      let path := strip (python.text ((members.lookup "path").getD (field members "file")))
      let action := strip (python.text (field members "action"))
      let evidence := firstField python members ["evidence", "summary"]
      let details := " ".intercalate ([action, path].filter (· ≠ ""))
      (path, if evidence = "" then details
        else if details = "" then evidence else details ++ ": " ++ evidence)
  | none => (strip (python.text entry), strip (python.text entry))

structure ImplementationEvidence where
  changedFiles : List String := []
  diffSummary : Option String := none
  commandsRun : List (Reported python) := []
  testsAttempted : List (Reported python) := []

def changes? : Option (List String × List String) :=
  match firstSemanticValue evidence ["changed_files", "files_changed", "files_modified", "modified_files",
    "changedFiles", "filesModified", "changes", "file_changes", "fileChanges"] with
  | .array files =>
      let entries := files.map (normalizeChangedFileEntry python)
      some ((entries.map Prod.fst).filter (· ≠ ""), (entries.map Prod.snd).filter (· ≠ ""))
  | _ => none

/-- The summary of the changes.  The local names `diff_parts` and `paths` are bound only by a list of
files, so that a summary without one raises. -/
def diffSummary? : Option (Option String) :=
  let changes := changes? python evidence
  let own := firstSemanticValue evidence ["diff_summary"]
  let changeSummary := firstSemanticValue evidence ["change_summary", "changeSummary", "summary"]
  let diffSummary := firstSemanticValue evidence ["diff_summary", "diffSummary"]
  let ofFiles : Option String :=
    (changes.filter fun changes => changes.2 ≠ [] ∧ !truthy own).map fun changes => "; ".intercalate changes.2
  let ofChange : Option (Option String) :=
    if truthy changeSummary then
      changes.map fun changes =>
        let text := strip (python.text changeSummary)
        some (if changes.2 ≠ [] ∧ ¬changes.1.any fun path => contains path text then
            text ++ "; " ++ "; ".intercalate changes.2
          else text)
    else some ofFiles
  ofChange.map fun summary => if truthy diffSummary then some (strip (python.text diffSummary)) else summary

def listedCommands (names : List String) : List (Reported python) :=
  match firstSemanticValue evidence names with
  | .array entries => entries.filterMap fun entry =>
      (members? entry).bind fun members => Source.reported python (.entry members)
  | _ => []

def acceptanceCommand : List (Reported python) :=
  ((members? (firstSemanticValue evidence ["acceptance_verification", "acceptanceVerification"])).bind
    fun members => Source.reported python (.acceptance members)).toList

def collectedCommands : List (Reported python) :=
  listedCommands python evidence ["commands_run", "commandsrun"] ++ acceptanceCommand python evidence ++
    semanticCommandEvidence python evidence false

def collectedTests : List (Reported python) :=
  let tests := semanticCommandEvidence python evidence true
  listedCommands python evidence ["tests_attempted", "testsattempted"] ++ acceptanceCommand python evidence ++
    if tests.isEmpty then semanticCommandEvidence python evidence false else tests

/-- The evidence in an object; raising is `none`. -/
def evidenceOf : Option (ImplementationEvidence python) :=
  (diffSummary? python evidence).map fun diffSummary =>
    { changedFiles := ((changes? python evidence).map Prod.fst).getD []
      diffSummary
      commandsRun := dedupeCommands python (collectedCommands python evidence)
      testsAttempted := dedupeCommands python (collectedTests python evidence) }

def reportedEvidence (parsed : Dict) : Dict :=
  (["implementation_evidence", "implementation_report", "report"].findSome? fun key =>
    (parsed.lookup key).bind members?).getD parsed

def reports : Bool :=
  (evidence.any fun member => semanticKey member.1 ∈
    ["changedfiles", "fileschanged", "filesmodified", "modifiedfiles", "changes", "filechanges",
      "diffsummary", "changesummary", "commandsrun", "testsattempted"]) ||
    !(semanticCommandEvidence python evidence false).isEmpty

def fenceBody : List Char → Option (List Char × List Char)
  | [] => none
  | c :: rest =>
      if ['\n', '\x60', '\x60', '\x60'].isPrefixOf (c :: rest) then some ([], rest.drop 3)
      else (fenceBody rest).map fun (body, behind) => (c :: body, behind)

def fencedBlock (text : List Char) : Option (List Char × List Char) :=
  if "\x60\x60\x60".toList.isPrefixOf text then
    let opened := text.drop 3
    let opened := if "json".toList.isPrefixOf opened then opened.drop 4 else opened
    let blanks := opened.takeWhile isSpace
    (List.range blanks.length).reverse.findSome? fun index =>
      if blanks[index]? = some '\n' then fenceBody (opened.drop (index + 1)) else none
  else none

def jsonObjectsFromText (text : String) : List Dict :=
  (findAll fencedBlock text.toList.length text.toList).filterMap (fun body =>
    (Json.loads (strip (String.ofList body)).toList).bind members?) ++ embeddedObjects text.toList

/-- `structured_implementation_evidence_from_text`; raising is `none`. -/
def structuredImplementationEvidence (text : String) : Option (ImplementationEvidence python) :=
  match ((jsonObjectsFromText text).map reportedEvidence).find? (reports python) with
  | some evidence => evidenceOf python evidence
  | none => some {}

end Python

end Wlcodex.Bridge
