import Wlcodex.Bridge.Reviews

namespace Wlcodex.Bridge

open Wlcodex.Lib
open Wlcodex.Lib.Json (embeddedObjects topLevelObjects spans Span)
open Wlcodex.Native (Python lowerText members? samplePython)
open Wlcodex.Relay (Dict firstTruthy strip truthy)
open Wlcodex.Runtime (WordClass contains plainWords)

/-! Which reviews pass. -/

variable (words : WordClass) (python : Python)

def valueVerdict? (value : Json) : Option Verdict :=
  normalizeVerificationDecisionValue (lowerText (strip (python.text value)))

def verdicts (members : Dict) : List Verdict :=
  (members :: ((members.lookup "audit_report").bind members?).toList).flatMap fun fields =>
    decisionKeys.filterMap fun key => ((fields.lookup key).filter truthy).bind (valueVerdict? python)

structure Rejects (text : String) : Prop where
  rejecting : ∃ members ∈ topLevelObjects text.toList, ∃ verdict ∈ verdicts python members, verdict ≠ .pass
  unpassed : ∀ members ∈ topLevelObjects text.toList, .pass ∉ verdicts python members

def LastDecides (text : String) : Prop :=
  ∀ members ∈ (topLevelObjects text.toList).getLast?, (verificationVerdict? python members).isSome

def ProsePasses (text : String) : Prop :=
  ¬contains "decision: retry" (lowerText text) ∧
    (contains "decision: pass" (lowerText text) ∨
      ¬saysIn (lowerText text) ["decision: stop", "decision: need_user"] ∧
        ¬saysIn text ["需要修改", "不能验收通过", "无法完成", "需要用户"] ∧ contains "验收通过" text)

def NestedPass (text : String) : Prop :=
  ∃ front span back, spans text.toList = front ++ span :: back ∧
    (∀ before ∈ front, ∀ members ∈ before.objects, auditVerdict? python members = none) ∧
    auditVerdict? python span.object = none ∧
    ∃ first members rest, span.inside = first ++ members :: rest ∧
      (∀ before ∈ first, auditVerdict? python before = none) ∧
      auditVerdict? python members = some .pass

def Undecided (text : String) : Prop :=
  ∀ members ∈ embeddedObjects text.toList, auditVerdict? python members = none

def WordsPass (text : String) : Prop :=
  let byField := (searchGroup words.isWord decisionField text).bind normalizeAuditDecisionValue
  let byLegacy := (searchGroup words.isWord legacyDecision text).bind normalizeAuditDecisionValue
  byField = some .pass ∨ byField = none ∧ (byLegacy = some .pass ∨
    byLegacy = none ∧ contains "验收通过" text ∧ ¬contains "不能验收通过" text)

section Decisions

variable {words : WordClass} {python : Python} {text : String} {members : Dict}

theorem normalizeAudit_eq_pass_iff (value : String) :
    normalizeAuditDecisionValue value = some .pass ↔
      normalizeVerificationDecisionValue value = some .pass := by
  unfold normalizeAuditDecisionValue normalizeVerificationDecisionValue
  dsimp only
  split
  · simp
  · repeat' split
    all_goals simp

theorem normalizeVerification_empty :
    normalizeVerificationDecisionValue (lowerText (strip "")) = none := by
  decide +kernel

theorem mem_verdicts {verdict : Verdict}
    (decides : verificationVerdict? python members = some verdict) : verdict ∈ verdicts python members := by
  obtain ⟨report, own, decided⟩ := Option.bind_eq_some_iff.mp decides
  have source : report ∈ members :: ((members.lookup "audit_report").bind members?).toList := by
    rw [report?] at own
    cases wrapped : members.lookup "audit_report" with
    | none =>
        rw [wrapped] at own
        rw [Option.some.inj own]
        exact List.mem_cons_self
    | some value =>
        rw [wrapped] at own
        exact List.mem_cons_of_mem _ (Option.mem_toList.mpr own)
  cases first : firstTruthy report decisionKeys with
  | none =>
      rw [decisionText, firstField, first] at decided
      cases normalizeVerification_empty.symm.trans decided
  | some value =>
      obtain ⟨key, member, present⟩ := List.exists_of_findSome?_eq_some first
      rw [decisionText, firstField, first, Option.map_some, Option.getD_some] at decided
      refine List.mem_flatMap.mpr ⟨report, source, List.mem_filterMap.mpr ⟨key, member, ?_⟩⟩
      rw [present, Option.bind_some, valueVerdict?]
      exact decided

theorem auditVerdict_eq_pass_iff :
    auditVerdict? python members = some .pass ↔ verificationVerdict? python members = some .pass := by
  unfold auditVerdict? verificationVerdict?
  cases report? members with
  | none => exact ⟨nofun, nofun⟩
  | some report =>
      rw [Option.bind_some, Option.bind_some]
      exact normalizeAudit_eq_pass_iff _

theorem proseVerdict_eq_pass_iff : proseVerdict text = .pass ↔ ProsePasses text := by
  unfold proseVerdict ProsePasses saysIn
  simp only [List.any_cons, List.any_nil, Bool.or_false, Bool.or_eq_true, not_or]
  grind

theorem textDecision_eq_pass_iff : textDecision words text = some .pass ↔ WordsPass words text := by
  unfold textDecision WordsPass
  cases (searchGroup words.isWord decisionField text).bind normalizeAuditDecisionValue with
  | some decision => simp
  | none =>
      cases (searchGroup words.isWord legacyDecision text).bind normalizeAuditDecisionValue with
      | some decision => simp
      | none =>
          split
          · simp_all
          · repeat' split
            all_goals simp_all

theorem decision_extractAuditReportJson (text : String) :
    (extractAuditReportJson python text).map AuditReport.decision =
      ((embeddedObjects text.toList).findSome? (auditVerdict? python)).map some := by
  unfold extractAuditReportJson
  induction embeddedObjects text.toList with
  | nil => rfl
  | cons members rest ih =>
      rw [List.findSome?_cons, List.findSome?_cons, auditVerdict?]
      cases report? members with
      | none => exact ih
      | some report =>
          rw [Option.bind_some, Option.bind_some]
          cases normalizeAuditDecisionValue (decisionText python report) with
          | none => exact ih
          | some decision => rfl

theorem decision_parseAuditReportPayload (text : String) :
    (parseAuditReportPayload words python text).decision =
      ((embeddedObjects text.toList).findSome? (auditVerdict? python)).or (textDecision words text) := by
  have decided := @decision_extractAuditReportJson python text
  unfold parseAuditReportPayload
  cases first : (embeddedObjects text.toList).findSome? (auditVerdict? python) with
  | none =>
      rw [first, Option.map_none, Option.map_eq_none_iff] at decided
      rw [decided]
      rfl
  | some decision =>
      rw [first] at decided
      obtain ⟨report, extracted, same⟩ := Option.map_eq_some_iff.mp decided
      rw [extracted]
      exact same

theorem findSome_eq_pass_iff (rejects : Rejects python text) :
    (embeddedObjects text.toList).findSome? (auditVerdict? python) = some .pass ↔ NestedPass python text := by
  rw [Json.findSome?_embeddedObjects, List.findSome?_eq_some_iff]
  constructor
  · intro ⟨front, span, back, split_, passes, undecided⟩
    refine ⟨front, span, back, split_, fun before member => ?_, ?_⟩
    · exact List.findSome?_eq_none_iff.mp (undecided before member)
    · have outer : span.object ∈ topLevelObjects text.toList :=
        List.mem_map_of_mem (split_ ▸ List.mem_append_right _ List.mem_cons_self)
      rw [Span.objects, List.findSome?_cons] at passes
      cases own : auditVerdict? python span.object with
      | none =>
          rw [own] at passes
          obtain ⟨first, members, rest, inner, passing, before⟩ := List.findSome?_eq_some_iff.mp passes
          exact ⟨rfl, first, members, rest, inner, before, passing⟩
      | some decision =>
          rw [own] at passes
          have passing : verificationVerdict? python span.object = some .pass :=
            auditVerdict_eq_pass_iff.mp (own.trans passes)
          exact absurd (mem_verdicts passing) (rejects.unpassed _ outer)
  · intro ⟨front, span, back, split_, undecided, own, first, members, rest, inner, before, passing⟩
    refine ⟨front, span, back, split_, ?_, fun before member => ?_⟩
    · rw [Span.objects, List.findSome?_cons, own]
      exact List.findSome?_eq_some_iff.mpr ⟨first, members, rest, inner, passing, before⟩
    · exact List.findSome?_eq_none_iff.mpr (undecided before member)

theorem audit_eq_pass_iff (rejects : Rejects python text) :
    (parseAuditReportPayload words python text).decision = some .pass ↔
      NestedPass python text ∨ Undecided python text ∧ WordsPass words text := by
  have undecided : Undecided python text ↔
      (embeddedObjects text.toList).findSome? (auditVerdict? python) = none :=
    List.findSome?_eq_none_iff.symm
  rw [decision_parseAuditReportPayload, Option.or_eq_some_iff, findSome_eq_pass_iff rejects, undecided,
    textDecision_eq_pass_iff]

theorem verification_eq_pass_iff (rejects : Rejects python text) :
    (parseVerification python text).decision = .pass ↔ ¬LastDecides python text ∧ ProsePasses text := by
  have prose : (proseDecision text).decision = .pass ↔ ProsePasses text := proseVerdict_eq_pass_iff
  obtain ⟨rejecting, present, _⟩ := rejects.rejecting
  unfold parseVerification LastDecides
  cases last : (topLevelObjects text.toList).getLast? with
  | none =>
      rw [List.getLast?_eq_none_iff] at last
      rw [last] at present
      cases present
  | some members =>
      have member : members ∈ topLevelObjects text.toList := List.mem_of_getLast? last
      dsimp only
      cases decides : verificationVerdict? python members with
      | none =>
          have undecided : ¬∀ other ∈ some members, (verificationVerdict? python other).isSome := by
            intro all
            cases decides ▸ all members rfl
          rw [and_iff_right undecided, ← prose]
          cases report? members <;> rfl
      | some verdict =>
          have decided : ∀ other ∈ some members, (verificationVerdict? python other).isSome := by
            intro other same
            rw [← Option.some.inj same, decides]
            rfl
          obtain ⟨report, own, _⟩ := Option.bind_eq_some_iff.mp decides
          rw [own]
          constructor
          · intro passes
            exact absurd (mem_verdicts (passes ▸ decides)) (rejects.unpassed _ member)
          · intro ⟨undecided, _⟩
            exact absurd decided undecided

end Decisions

def checkedThenBlocked : String :=
  "\x7b\"checks\":[\x7b\"status\":\"passed\"\x7d]\x7d \x7b\"decision\":\"block\"\x7d"

end Wlcodex.Bridge
