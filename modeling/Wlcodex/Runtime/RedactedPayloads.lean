import Wlcodex.Runtime.RedactionTwice

namespace Wlcodex.Runtime

open Wlcodex.Lib

/-! `redact_payload` over payloads of any nesting. -/

section Twice

variable (words : WordClass)

mutual

theorem redactPayloadValue_idem : ∀ value : Json,
    redactPayloadValue words none (redactPayloadValue words none value) =
      redactPayloadValue words none value
  | .null => rfl
  | .bool _ => rfl
  | .int _ => rfl
  | .float _ => rfl
  | .nan => rfl
  | .infinity _ => rfl
  | .string text => by
      simp only [redactPayloadValue, capString, String.toList_ofList, redactTextContent_idem]
  | .array items => by
      rw [redactPayloadValue, redactPayloadValue, redactItems_idem items]
  | .object members => by
      rw [redactPayloadValue, redactPayloadValue, redactMembers_idem members]

theorem redactItems_idem : ∀ items : List Json,
    redactItems words none (redactItems words none items) = redactItems words none items
  | [] => rfl
  | item :: items => by
      rw [redactItems, redactItems, redactPayloadValue_idem item, redactItems_idem items]

theorem redactMembers_idem : ∀ members : List (String × Json),
    redactMembers words none (redactMembers words none members) = redactMembers words none members
  | [] => rfl
  | (key, value) :: members => by
      rw [redactMembers, redactMembers, redactMembers_idem members]
      cases isSensitiveKey key with
      | true => rfl
      | false =>
          simp only [Bool.false_eq_true, if_false]
          rw [redactPayloadValue_idem value]

end

end Twice

mutual

inductive Alike : Json → Json → Prop
  | same (value : Json) : Alike value value
  | array {items others : List Json} (alike : AlikeItems items others) : Alike (.array items) (.array others)
  | object {members others : List (String × Json)} (alike : AlikeMembers members others) :
      Alike (.object members) (.object others)

inductive AlikeItems : List Json → List Json → Prop
  | nil : AlikeItems [] []
  | cons {item other : Json} {items others : List Json} (head : Alike item other) (tail : AlikeItems items others) :
      AlikeItems (item :: items) (other :: others)

inductive AlikeMembers : List (String × Json) → List (String × Json) → Prop
  | nil : AlikeMembers [] []
  | secret {key : String} (sensitive : isSensitiveKey key = true) (value other : Json)
      {members others : List (String × Json)} (tail : AlikeMembers members others) :
      AlikeMembers ((key, value) :: members) ((key, other) :: others)
  | shown {key : String} {value other : Json} {members others : List (String × Json)} (head : Alike value other)
      (tail : AlikeMembers members others) : AlikeMembers ((key, value) :: members) ((key, other) :: others)

end

section Blind

variable (words : WordClass) (limit : Option Nat)

mutual

theorem redactPayloadValue_alike {value other : Json} :
    Alike value other → redactPayloadValue words limit value = redactPayloadValue words limit other
  | .same _ => rfl
  | .array alike => by rw [redactPayloadValue, redactPayloadValue, redactItems_alike alike]
  | .object alike => by rw [redactPayloadValue, redactPayloadValue, redactMembers_alike alike]

theorem redactItems_alike {items others : List Json} :
    AlikeItems items others → redactItems words limit items = redactItems words limit others
  | .nil => rfl
  | .cons head tail => by
      rw [redactItems, redactItems, redactPayloadValue_alike head, redactItems_alike tail]

theorem redactMembers_alike {members others : List (String × Json)} :
    AlikeMembers members others → redactMembers words limit members = redactMembers words limit others
  | .nil => rfl
  | .secret sensitive _ _ tail => by
      rw [redactMembers, redactMembers, redactMembers_alike tail, if_pos sensitive, if_pos sensitive]
  | .shown head tail => by
      rw [redactMembers, redactMembers, redactMembers_alike tail, redactPayloadValue_alike head]

end

end Blind

/-- Redaction changes nothing in what it has redacted, and is blind to what sensitive keys hold. -/
theorem redaction_settles_blindly (words : WordClass) :
    (∀ payload, redactPayload words none (redactPayload words none payload) = redactPayload words none payload) ∧
      ∀ limit payload other, AlikeMembers payload other →
        redactPayload words limit payload = redactPayload words limit other :=
  ⟨redactMembers_idem words, fun limit _ _ alike => redactMembers_alike words limit alike⟩

theorem nested_password_does_not_show :
    redactPayload plainWords (some 3) [("calls", .array [.array [.object [("password", .int 1)]]])] =
      redactPayload plainWords (some 3) [("calls", .array [.array [.object [("password", .string "hunter2")]]])] :=
  (redaction_settles_blindly plainWords).2 (some 3) _ _
    (.shown (.array (.cons (.array (.cons (.object (.secret (by decide +kernel) _ _ .nil)) .nil)) .nil)) .nil)

end Wlcodex.Runtime
