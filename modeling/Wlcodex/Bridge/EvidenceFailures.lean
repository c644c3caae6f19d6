import Wlcodex.Bridge.Evidence

namespace Wlcodex.Bridge

open Wlcodex.Lib
open Wlcodex.Native (Python lowerText members? samplePython)
open Wlcodex.Relay (Dict isSpace strip)

/-! Failures that are reported beside a success. -/

/-- A number other than zero stands before `fail`. -/
def countsFailure (text : String) : Bool :=
  (lowerText text).toList.tails.any fun tail =>
    (tail.takeWhile Char.isDigit).any (· ≠ '0') &&
      "fail".toList.isPrefixOf ((tail.dropWhile Char.isDigit).dropWhile isSpace)

section Python

variable (python : Python)

def nonzeroCode (entry : Dict) (key : String) : Bool := ((entry.lookup key).bind python.int?).any (· ≠ 0)

def failingStatus (entry : Dict) : Bool := entryStatus python entry ∈ ["failed", "failure", "error"]

def countedFailure (entry : Dict) : Bool :=
  ["result", "summary", "output"].any fun key =>
    (entry.lookup key).any fun text => countsFailure (python.text text)

def deniesPassing (entry : Dict) : Bool :=
  match entry.lookup "passed" with
  | some (.bool false) => true
  | _ => false

def reportsFailure (value : Json) : Bool :=
  match members? value with
  | some entry => nonzeroCode python entry "exit_status" || nonzeroCode python entry "exit_code" ||
      deniesPassing entry || failingStatus python entry || countedFailure python entry
  | none => countsFailure (python.text value)

inductive Overlooks : Source → Prop
  | flag {entry : Dict} (passed : flagged entry "passed" = true)
      (failure : nonzeroCode python entry "exit_status" = true ∨ nonzeroCode python entry "exit_code" = true ∨
        failingStatus python entry = true ∨ countedFailure python entry = true) :
      Overlooks (.entry entry)
  | status {entry : Dict} (unflagged : entry.lookup "passed" = none)
      (passing : entryStatus python entry ∈ passingStatuses)
      (failure : nonzeroCode python entry "exit_status" = true ∨ nonzeroCode python entry "exit_code" = true ∨
        countedFailure python entry = true) :
      Overlooks (.entry entry)
  | code {entry : Dict} (unflagged : entry.lookup "passed" = none)
      (zero : python.int? (reportedExit entry) = some 0)
      (failure : (entry.lookup "exit_status").isSome ∧ nonzeroCode python entry "exit_code" = true ∨
        failingStatus python entry = true ∨ countedFailure python entry = true) :
      Overlooks (.entry entry)
  | acceptance {entry : Dict} (passed : acceptancePassed python entry = true)
      (failure : reportsFailure python (.object entry) = true) :
      Overlooks (.acceptance entry)
  | named {name : String} {value : Json} (passed : namedPassed python value = true)
      (failure : reportsFailure python value = true) :
      Overlooks (.named name value)

variable {python} {entry : Dict}

theorem reportsFailure_object_iff :
    reportsFailure python (.object entry) = true ↔
      nonzeroCode python entry "exit_status" = true ∨ nonzeroCode python entry "exit_code" = true ∨
        deniesPassing entry = true ∨ failingStatus python entry = true ∨ countedFailure python entry = true := by
  change (nonzeroCode python entry "exit_status" || nonzeroCode python entry "exit_code" ||
      deniesPassing entry || failingStatus python entry || countedFailure python entry) = true ↔ _
  simp only [Bool.or_eq_true, or_assoc]

theorem failingStatus_of_passing (passing : entryStatus python entry ∈ passingStatuses) :
    failingStatus python entry = false := by
  have apart : ∀ status ∈ passingStatuses, status ∉ ["failed", "failure", "error"] := by decide
  exact decide_eq_false (apart _ passing)

theorem deniesPassing_of_flagged (passed : flagged entry "passed" = true) : deniesPassing entry = false := by
  unfold deniesPassing
  split
  next denied =>
    rw [flagged, Dict.getOrNull, denied] at passed
    cases passed
  · rfl

theorem codes_of_zero (zero : python.int? (reportedExit entry) = some 0) :
    nonzeroCode python entry "exit_status" = false ∧
      (nonzeroCode python entry "exit_code" = true → (entry.lookup "exit_status").isSome) := by
  unfold nonzeroCode
  unfold reportedExit at zero
  cases own : entry.lookup "exit_status" with
  | some code =>
      rw [own, Option.getD_some] at zero
      rw [Option.bind_some, zero]
      exact ⟨rfl, fun _ => rfl⟩
  | none =>
      rw [own, Option.getD_none] at zero
      refine ⟨rfl, fun nonzero => ?_⟩
      cases other : entry.lookup "exit_code" with
      | none =>
          rw [other] at nonzero
          cases nonzero
      | some code =>
          rw [other, Option.getD_some] at zero
          rw [other, Option.bind_some, zero] at nonzero
          cases nonzero

theorem normalizedExit_eq_zero_iff :
    normalizedExit python entry = 0 ↔
      flagged entry "passed" = true ∨ entry.lookup "passed" = none ∧
        (entryStatus python entry ∈ passingStatuses ∨ python.int? (reportedExit entry) = some 0) := by
  unfold normalizedExit
  cases flag : entry.lookup "passed" with
  | some value =>
      cases flagged entry "passed" with
      | true => exact ⟨fun _ => .inl rfl, fun _ => rfl⟩
      | false => simp
  | none =>
      have unflagged : flagged entry "passed" = false := by
        rw [flagged, Dict.getOrNull, flag]
        rfl
      rw [Option.isSome_none, if_neg Bool.false_ne_true, unflagged]
      split
      next passing => exact ⟨fun _ => .inr ⟨rfl, .inl passing⟩, fun _ => rfl⟩
      next unsettled =>
        cases python.int? (reportedExit entry) with
        | none | some => simp [unsettled]

theorem overlooks_entry_iff :
    normalizedExit python entry = 0 ∧ reportsFailure python (.object entry) = true ↔
      Overlooks python (.entry entry) := by
  rw [normalizedExit_eq_zero_iff, reportsFailure_object_iff]
  constructor
  · intro ⟨success, failure⟩
    rcases success with passed | ⟨unflagged, passing | zero⟩
    · have admits := deniesPassing_of_flagged passed
      refine .flag passed ?_
      simpa only [admits, Bool.false_eq_true, false_or] using failure
    · have admits : deniesPassing entry = false := by rw [deniesPassing, unflagged]
      refine .status unflagged passing ?_
      simpa only [admits, failingStatus_of_passing passing, Bool.false_eq_true, false_or] using failure
    · have admits : deniesPassing entry = false := by rw [deniesPassing, unflagged]
      obtain ⟨first, second⟩ := codes_of_zero zero
      refine .code unflagged zero ?_
      simp only [admits, first, Bool.false_eq_true, false_or] at failure
      exact failure.imp_left fun nonzero => ⟨second nonzero, nonzero⟩
  · intro overlooked
    cases overlooked with
    | flag passed failure =>
        refine ⟨.inl passed, ?_⟩
        rcases failure with code | code | status | count
        exacts [.inl code, .inr (.inl code), .inr (.inr (.inr (.inl status))), .inr (.inr (.inr (.inr count)))]
    | status unflagged passing failure =>
        refine ⟨.inr ⟨unflagged, .inl passing⟩, ?_⟩
        rcases failure with code | code | count
        exacts [.inl code, .inr (.inl code), .inr (.inr (.inr (.inr count)))]
    | code unflagged zero failure =>
        refine ⟨.inr ⟨unflagged, .inr zero⟩, ?_⟩
        rcases failure with ⟨_, code⟩ | status | count
        exacts [.inr (.inl code), .inr (.inr (.inr (.inl status))), .inr (.inr (.inr (.inr count)))]

theorem exit_eq_zero_iff {passed : Bool} : (if passed then 0 else 1 : Int) = 0 ↔ passed = true := by
  cases passed <;> decide

theorem overlooks_iff (reported : Reported python) :
    reported.command.exitStatus = 0 ∧ reportsFailure python reported.source.origin = true ↔
      Overlooks python reported.source := by
  obtain ⟨source, command, made⟩ := reported
  cases source with
  | entry entry =>
      have exit : command.exitStatus = normalizedExit python entry := by
        rw [Source.command?, normalizeCommandEntry] at made
        split at made
        · cases made
        · rw [← Option.some.inj made]
      rw [exit]
      exact overlooks_entry_iff
  | acceptance entry =>
      have exit : command.exitStatus = if acceptancePassed python entry then 0 else 1 := by
        rw [Source.command?, acceptanceVerificationCommand] at made
        split at made
        · cases made
        · rw [← Option.some.inj made]
      rw [exit, exit_eq_zero_iff]
      exact ⟨fun both => .acceptance both.1 both.2, fun | .acceptance passed failure => ⟨passed, failure⟩⟩
  | named name value =>
      have exit : command.exitStatus = if namedPassed python value then 0 else 1 := by
        rw [Source.command?, namedEvidence] at made
        split at made
        · cases made
        · rw [← Option.some.inj made]
      rw [exit, exit_eq_zero_iff]
      exact ⟨fun both => .named both.1 both.2, fun | .named passed failure => ⟨passed, failure⟩⟩

def NothingOverlooked (python : Python) (text : String) : Prop :=
  ∀ evidence, structuredImplementationEvidence python text = some evidence →
    ∀ reported ∈ evidence.testsAttempted, ¬Overlooks python reported.source

def FailuresKept (python : Python) (text : String) : Prop :=
  ∀ evidence, structuredImplementationEvidence python text = some evidence →
    ∀ reported ∈ evidence.testsAttempted, reported.command.exitStatus = 0 →
      reportsFailure python reported.source.origin = false

theorem failuresKept_iff (text : String) : FailuresKept python text ↔ NothingOverlooked python text := by
  refine forall₂_congr fun evidence _ => forall₂_congr fun reported _ => ?_
  rw [← overlooks_iff, not_and, Bool.not_eq_true]

theorem goodCommand_pytest :
    GoodCommand python (CommandEntry.payload ⟨"pytest", 0, "passed"⟩) := by
  have command : startsWithAny (strip "pytest") placeholderPrefixes = false := by decide +kernel
  have summary : startsWithAny (strip "passed") placeholderPrefixes = false := by decide +kernel
  refine ⟨?_, ?_, rfl, rfl⟩
  · exact Bool.and_eq_true_iff.mpr ⟨rfl, (Bool.not_eq_true' _).mpr command⟩
  · exact Bool.and_eq_true_iff.mpr ⟨rfl, (Bool.not_eq_true' _).mpr summary⟩

end Python

theorem samplePython_plainLists : PlainLists samplePython := fun _ => by
  have plain : startsWithAny (strip "...") placeholderPrefixes = false := by decide +kernel
  exact plain

def threeFailed : String :=
  "\x7b\"tests_attempted\":[\x7b\"command\":\"pytest\",\"result\":\"1 passed, 3 failed\"\x7d]\x7d"

end Wlcodex.Bridge
