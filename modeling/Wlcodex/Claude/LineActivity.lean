import Wlcodex.Claude.StreamParser
import Wlcodex.Relay.StreamReplay

namespace Wlcodex.Claude

open Wlcodex.Lib
open Wlcodex.Relay (Dict strip)
open Wlcodex.Relay.StreamState (lookup_set_self lookup_set_of_ne)

/-! Which lines refresh the idle watchdog: `parse_line` returns, and a mapping has an event. -/

def isNumber : Json → Bool
  | .int _ | .bool _ | .float _ | .nan | .infinity _ => true
  | _ => false

def HasUsage (payload : Dict) : Prop :=
  ∃ usage, payload.lookup "usage" = some (.object usage) ∧
    (∃ input, usage.lookup "input_tokens" = some input ∧ isNumber input = true) ∧
    ∃ output, usage.lookup "output_tokens" = some output ∧ isNumber output = true

section Lines

variable (repr : Json → String) (trunc : FloatLiteral → Option Int) (beyond : String → Bool)

/-- `int` returns for what the usage has under the key. -/
def CountableAt (usage : Dict) (key : String) : Prop :=
  ∀ value, usage.lookup key = some value → (usageInt trunc value).isSome = true

def Countable (payload : Dict) : Prop :=
  ∀ usage, payload.lookup "usage" = some (.object usage) →
    ∀ key ∈ ["input_tokens", "output_tokens", "cache_read_input_tokens", "cache_creation_input_tokens"],
      CountableAt trunc usage key

/-- An assistant record has a message, and the result of a success has something to report. -/
structure Heeded (payload : Dict) (hasEmittedText : Bool) : Prop where
  message : textAt repr payload "type" = "assistant" →
    ∃ message, payload.lookup "message" = some (.object message)
  result : textAt repr payload "type" = "result" → textAt repr payload "subtype" ∈ ["success", "done"] →
    Countable trunc payload ∧ (HasUsage payload ∨
      textAt repr payload "result" ≠ "" ∧ hasEmittedText = false ∨ textAt repr payload "session_id" ≠ "")

def CountsAsActivity (line assistantText : String) (hasEmittedText : Bool) : Prop :=
  ∃ events text, parseLine repr trunc beyond line assistantText hasEmittedText = some (events, text) ∧
    ∀ payload, Json.loads (strip line).toList = some (.object payload) → events ≠ []

variable {repr trunc beyond}

section Usage

variable {usage result next : Dict} {source target key : String}

theorem bind_addUsage_isSome {Result : Type} {follow : Dict → Option Result} {later : Prop}
    (follows : ∀ next, (follow next).isSome = true ↔ later) :
    ((addUsage trunc usage result source target).bind follow).isSome = true ↔
      CountableAt trunc usage source ∧ later := by
  unfold addUsage CountableAt
  cases usage.lookup source with
  | none => simpa using follows result
  | some value =>
      simp only [Option.some_inj, forall_eq']
      cases usageInt trunc value with
      | none => simp
      | some count =>
          cases count with
          | none => simpa using follows result
          | some count =>
              simp only [Option.isSome_some, true_and]
              split <;> exact follows _

theorem extractUsage_isSome_iff {payload : Dict} :
    (extractUsage trunc payload).isSome = true ↔ Countable trunc payload := by
  unfold extractUsage Countable
  split
  next usage found =>
    simp only [found, Option.some_inj, Json.object.injEq, forall_eq', List.forall_mem_cons,
      List.not_mem_nil, false_implies, implies_true]
    refine bind_addUsage_isSome fun _ => bind_addUsage_isSome fun _ => bind_addUsage_isSome fun _ =>
      bind_addUsage_isSome fun _ => ?_
    split <;> simp
  next none_ =>
    exact iff_of_true rfl fun usage found => absurd found (none_ usage)

theorem addUsage_keeps (added : addUsage trunc usage result source target = some next)
    (apart : key ≠ target) : next.lookup key = result.lookup key := by
  unfold addUsage at added
  split at added
  · cases added
    rfl
  · split at added
    · cases added
    · cases added
      rfl
    · split at added <;> cases added <;> exact lookup_set_of_ne _ apart _

def IntAt (result : Dict) (key : String) : Prop := ∃ count, result.lookup key = some (.int count)

theorem addUsage_intAt (added : addUsage trunc usage result source target = some next)
    (fresh : result.lookup target = none) :
    IntAt next target ↔ ∃ value, usage.lookup source = some value ∧ isNumber value = true := by
  unfold addUsage at added
  split at added
  next absent =>
    cases added
    simp [IntAt, fresh, absent]
  next value found =>
    have number : (∃ count, usageInt trunc value = some (some count)) →
        isNumber value = true := by
      rintro ⟨count, counted⟩
      cases value <;> first | rfl | cases counted
    simp only [found, Option.some_inj, exists_eq_left']
    split at added
    · cases added
    next other =>
      cases added
      have plain : isNumber value = false := by
        cases value <;> first | rfl | simp [usageInt] at other
      simp [IntAt, fresh, plain]
    next count counted =>
      rw [fresh] at added
      cases added
      exact iff_of_true ⟨count, lookup_set_self _ _ _⟩ (number ⟨count, counted⟩)

theorem extractUsage_found_iff {payload : Dict} {found : Option Dict}
    (returns : extractUsage trunc payload = some found) : found.isSome = true ↔ HasUsage payload := by
  unfold extractUsage at returns
  unfold HasUsage
  split at returns
  next usage present =>
    simp only [present, Option.some_inj, Json.object.injEq, exists_eq_left']
    obtain ⟨one, input, returns⟩ := Option.bind_eq_some_iff.mp returns
    obtain ⟨two, output, returns⟩ := Option.bind_eq_some_iff.mp returns
    obtain ⟨three, read, returns⟩ := Option.bind_eq_some_iff.mp returns
    obtain ⟨four, creation, returns⟩ := Option.bind_eq_some_iff.mp returns
    have inputs : four.lookup "input_tokens" = one.lookup "input_tokens" :=
      (addUsage_keeps creation (by decide)).trans
        ((addUsage_keeps read (by decide)).trans (addUsage_keeps output (by decide)))
    have outputs : four.lookup "output_tokens" = two.lookup "output_tokens" :=
      (addUsage_keeps creation (by decide)).trans (addUsage_keeps read (by decide))
    have fresh : one.lookup "output_tokens" = none := addUsage_keeps input (by decide)
    rw [← addUsage_intAt input rfl, ← addUsage_intAt output fresh]
    unfold IntAt
    rw [← inputs, ← outputs]
    split at returns
    next input output isInput isOutput =>
      cases returns
      exact iff_of_true rfl ⟨⟨input, isInput⟩, output, isOutput⟩
    next missing =>
      cases returns
      refine iff_of_false Bool.false_ne_true ?_
      rintro ⟨⟨input, isInput⟩, output, isOutput⟩
      exact missing input output isInput isOutput
  next none_ =>
    cases returns
    refine iff_of_false Bool.false_ne_true ?_
    rintro ⟨usage, present, _⟩
    exact none_ usage present

end Usage

section Handlers

variable {payload : Dict} {assistantText : String} {hasEmittedText : Bool}

theorem handleStreamEvent_ne_nil : (handleStreamEvent repr payload assistantText).1 ≠ [] := by
  unfold handleStreamEvent handleContentBlockStart
  dsimp only
  repeat' split
  all_goals exact List.cons_ne_nil _ _

theorem handleHook_ne_nil : (handleHook repr payload assistantText).1 ≠ [] :=
  List.append_ne_nil_of_right_ne_nil _ (List.cons_ne_nil _ _)

theorem handleSystem_ne_nil : (handleSystem repr payload assistantText).1 ≠ [] :=
  List.append_ne_nil_of_right_ne_nil _ (List.cons_ne_nil _ _)

theorem handleAssistant_ne_nil_iff :
    (handleAssistant repr payload assistantText).1 ≠ [] ↔
      ∃ message, payload.lookup "message" = some (.object message) := by
  unfold handleAssistant
  split
  next message found =>
    refine iff_of_true ?_ ⟨message, found⟩
    dsimp only
    repeat' split
    all_goals simp
  next none_ =>
    refine iff_of_false (fun some_ => some_ rfl) ?_
    rintro ⟨message, found⟩
    exact none_ message found

theorem handleResult_iff :
    (∃ events text, handleResult repr trunc payload assistantText hasEmittedText = some (events, text) ∧
        events ≠ []) ↔
      (textAt repr payload "subtype" ∈ ["success", "done"] → Countable trunc payload ∧ (HasUsage payload ∨
        textAt repr payload "result" ≠ "" ∧ hasEmittedText = false ∨
          textAt repr payload "session_id" ≠ "")) := by
  unfold handleResult
  dsimp only
  split
  next failed =>
    refine iff_of_true ⟨_, _, rfl, List.cons_ne_nil _ _⟩ fun success => ?_
    rcases List.mem_pair.mp success with same | same
    · exact absurd same failed.1
    · exact absurd same failed.2
  next passed =>
    have success : textAt repr payload "subtype" ∈ ["success", "done"] := by
      rw [List.mem_pair]
      by_contra other
      exact passed ⟨fun same => other (.inl same), fun same => other (.inr same)⟩
    rw [← extractUsage_isSome_iff, forall_prop_of_true success]
    cases returns : extractUsage trunc payload with
    | none => simp
    | some found =>
        rw [← extractUsage_found_iff returns]
        by_cases result : textAt repr payload "result" = "" <;>
          by_cases session : textAt repr payload "session_id" = "" <;>
          cases found <;> cases hasEmittedText <;> simp [result, session, usageEvents]

theorem returns_iff {events : List ClaudeStreamEvent × String} :
    (∃ found text, some events = some (found, text) ∧ found ≠ []) ↔ events.1 ≠ [] := by
  simp [Prod.ext_iff]

theorem handlePayload_iff :
    (∃ events text, handlePayload repr trunc payload assistantText hasEmittedText = some (events, text) ∧
        events ≠ []) ↔ Heeded repr trunc payload hasEmittedText := by
  unfold handlePayload
  generalize type : textAt repr payload "type" = eventType
  have heeded : Heeded repr trunc payload hasEmittedText ↔
      (eventType = "assistant" → ∃ message, payload.lookup "message" = some (.object message)) ∧
        (eventType = "result" → textAt repr payload "subtype" ∈ ["success", "done"] →
          Countable trunc payload ∧ (HasUsage payload ∨
            textAt repr payload "result" ≠ "" ∧ hasEmittedText = false ∨
              textAt repr payload "session_id" ≠ "")) := by
    rw [← type]
    exact ⟨fun heeded => ⟨heeded.message, heeded.result⟩, fun ⟨message, result⟩ => ⟨message, result⟩⟩
  rw [heeded]
  dsimp only
  split_ifs with stream assistant result system failed hook
  · subst stream
    simp [Prod.ext_iff, handleStreamEvent_ne_nil]
  · rw [returns_iff, handleAssistant_ne_nil_iff]
    simp [assistant]
  · rw [handleResult_iff]
    simp [result]
  · subst system
    simp [Prod.ext_iff, handleSystem_ne_nil]
  · simp [Prod.ext_iff, assistant, result, handleError]
  · simp [Prod.ext_iff, assistant, result, handleHook_ne_nil]
  · simp [assistant, result]

end Handlers

theorem loads_blank : Json.loads [] = none := by decide

/-- Every line that is read within the limits has an event, but for assistant records without a
message and successes that have nothing to report or counts that are no numbers. -/
theorem line_counts_iff (repr : Json → String) (trunc : FloatLiteral → Option Int) (beyond : String → Bool)
    (line assistantText : String) (hasEmittedText : Bool) :
    CountsAsActivity repr trunc beyond line assistantText hasEmittedText ↔
      (strip line ≠ "" → beyond (strip line) = false) ∧
        ∀ payload, Json.loads (strip line).toList = some (.object payload) → beyond (strip line) = false →
          Heeded repr trunc payload hasEmittedText := by
  unfold CountsAsActivity parseLine
  dsimp only
  split_ifs with blank outside
  · simp [blank, loads_blank]
  · simp [blank, outside]
  · have within : beyond (strip line) = false := Bool.not_eq_true _ ▸ outside
    simp only [within, implies_true, true_and, forall_true_left]
    split
    next unread => simp [unread]
    next payload found =>
      simp only [found, Option.some_inj, Json.object.injEq, forall_eq', handlePayload_iff]
    next value other found =>
      simp only [found, Option.some_inj]
      refine iff_of_true ⟨_, _, rfl, fun payload same => absurd same (other payload)⟩
        fun payload same => absurd same (other payload)

def bareLine : String := "\x7b\"type\":\"assistant\"\x7d"

theorem bareLine_payload :
    strip bareLine = bareLine ∧ Json.loads bareLine.toList = some (.object [("type", .string "assistant")]) :=
  ⟨by decide +kernel, rfl⟩

theorem assistant_line_without_event :
    ¬ CountsAsActivity (fun _ => "") (fun _ => some 0) (fun _ => false) bareLine "" false := by
  obtain ⟨bare, loaded⟩ := bareLine_payload
  rintro ⟨events, text, parsed, heard⟩
  refine heard _ loaded ?_
  have empty : parseLine (fun _ => "") (fun _ => some 0) (fun _ => false) bareLine "" false = some ([], "") := by
    rfl
  rw [empty] at parsed
  cases parsed
  rfl

end Lines

end Wlcodex.Claude
