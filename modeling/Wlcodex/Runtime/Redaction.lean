import Wlcodex.Lib.Json
import Wlcodex.Lib.Regex
import Wlcodex.Relay.Vocabulary
import Mathlib.Data.List.SplitOn

namespace Wlcodex.Runtime

open Wlcodex.Lib
open Wlcodex.Relay (isSpace)

/-! `redact_payload`: secrets are taken out of a payload before it is stored, and
again before it is archived. -/

/-- `\w` of `re`.  Its table outside ASCII depends on the Unicode version. -/
structure WordClass where
  isWord : Char → Bool
  ascii : ∀ c : Char, c.toNat < 128 → isWord c = (c.isAlphanum || c == '_')
  /-- The letters that case folding takes to an ASCII one. -/
  folded : ∀ n ∈ [0x130, 0x131, 0x17f, 0x212a], isWord (Char.ofNat n) = true
  spaces : ∀ c, isSpace c = true → isWord c = false

theorem isAlphanum_iff (c : Char) :
    c.isAlphanum = true ↔ (48 ≤ c.toNat ∧ c.toNat ≤ 57) ∨ (65 ≤ c.toNat ∧ c.toNat ≤ 90) ∨
      (97 ≤ c.toNat ∧ c.toNat ≤ 122) := by
  have upper : c.isUpper = decide (c.val ≥ 'A'.val ∧ c.val ≤ 'Z'.val) := rfl
  have lower : c.isLower = (decide (c.val ≥ 'a'.val) && decide (c.val ≤ 'z'.val)) := rfl
  have letter : c.isAlpha = (c.isUpper || c.isLower) := rfl
  have digit : c.isDigit = (decide (c.val ≥ '0'.val) && decide (c.val ≤ '9'.val)) := rfl
  have either : c.isAlphanum = (c.isAlpha || c.isDigit) := rfl
  rw [either, letter, upper, lower, digit]
  simp only [Bool.or_eq_true, Bool.and_eq_true, decide_eq_true_eq, UInt32.le_iff_toNat_le,
    ge_iff_le, Char.toNat, Char.reduceVal, UInt32.reduceToNat]
  omega

theorem eq_char_iff (c d : Char) : c = d ↔ c.toNat = d.toNat := by
  constructor
  · rintro rfl
    rfl
  · intro same
    rw [← Char.ofNat_toNat c, same, Char.ofNat_toNat]

theorem not_word_of_space {c : Char} (space : isSpace c = true) :
    (c.isAlphanum || c == '_' || c.toNat ∈ [0x130, 0x131, 0x17f, 0x212a]) = false := by
  rw [Bool.eq_false_iff]
  intro word
  have underscore : '_'.toNat = 95 := rfl
  simp only [Bool.or_eq_true, isAlphanum_iff, beq_iff_eq, eq_char_iff, underscore,
    decide_eq_true_eq, List.mem_cons, List.not_mem_nil, or_false] at word
  simp only [isSpace, Bool.or_eq_true, Bool.and_eq_true, decide_eq_true_eq, beq_iff_eq] at space
  omega

def plainWords : WordClass where
  isWord c := c.isAlphanum || c == '_' || c.toNat ∈ [0x130, 0x131, 0x17f, 0x212a]
  ascii c small := by
    have outside : c.toNat ∉ [0x130, 0x131, 0x17f, 0x212a] := by
      simp only [List.mem_cons, List.not_mem_nil, or_false]
      omega
    simp [outside]
  folded n member := by
    simp only [List.mem_cons, List.not_mem_nil, or_false] at member
    rcases member with rfl | rfl | rfl | rfl <;> decide
  spaces c space := not_word_of_space space

def redactedPlaceholder : String := "[REDACTED]"

def contentRedactedPlaceholder : List Char := "<redacted>".toList

/-- `str.lower()`, as far as ASCII letters come out of it. -/
def lower (c : Char) : List Char :=
  if c.toNat = 0x130 then ['i', Char.ofNat 0x307]
  else if c.toNat = 0x212a then ['k']
  else [c.toLower]

def splitKey (key : String) : List String :=
  (((key.toList.flatMap lower).map fun c => if c = '-' then '_' else c).splitOn '_').map
    String.ofList

def tokenMetricSegments : List String :=
  ["input", "output", "total", "cached", "reasoning", "workflow", "overhead"]

def keySensitiveModifiers : List String :=
  ["api", "sign", "signing", "auth", "secret", "private", "master", "encrypt"]

def contains (word text : String) : Bool := text.toList.tails.any fun tail =>
  word.toList.isPrefixOf tail

def isSensitiveKey (key : String) : Bool :=
  let segments := splitKey key
  let meets (words : List String) : Bool := segments.any fun segment => segment ∈ words
  meets ["secret", "secrets", "password", "passwords", "credential", "credentials"] ||
    segments.any (contains "auth") ||
    (meets ["token", "tokens"] && !meets tokenMetricSegments) ||
    (meets ["key", "keys"] && meets keySensitiveModifiers)

/-- The letter that `re.IGNORECASE` takes a character for. -/
def foldCase (c : Char) : Char :=
  if c.toNat = 0x130 ∨ c.toNat = 0x131 then 'i'
  else if c.toNat = 0x17f then 's'
  else if c.toNat = 0x212a then 'k'
  else c.toLower

/-- `[A-Za-z0-9]`, ignoring case. -/
def isFoldedAlnum (c : Char) : Bool := (foldCase c).isAlphanum

/-- `[A-Za-z0-9_]`, ignoring case. -/
def isKeyChar (c : Char) : Bool := isFoldedAlnum c || c == '_'

def letter (wanted : Char) : Regex := .chars fun c => foldCase c == wanted

def spelled : Char → List Char → Regex
  | c, [] => letter c
  | c, next :: rest => .seq (letter c) (spelled next rest)

/-- `first[_-]?key`. -/
def keyed (first : Char) (rest : List Char) : Regex :=
  .seq (spelled first rest) (.seq (.opt (.chars fun c => c == '_' || c == '-'))
    (spelled 'k' "ey".toList))

def secretWord : Regex :=
  .alt (spelled 'p' "assword".toList) <| .alt (spelled 'p' "asswd".toList) <|
    .alt (spelled 't' "oken".toList) <| .alt (spelled 's' "ecret".toList) <|
    .alt (keyed 'a' "pi".toList) <| .alt (keyed 'a' "ccess".toList) <|
    .alt (keyed 'p' "rivate".toList) <| .alt (spelled 'c' "redential".toList) <|
    .alt (spelled 'a' "uthorization".toList) (spelled 'a' "uth".toList)

def secretKey : Regex :=
  .seq (.opt (.seq (.star isKeyChar) (.chars (· == '_'))))
    (.seq secretWord (.opt (.seq (.chars (· == '_')) (.star isKeyChar))))

def plus (test : Char → Bool) : Regex := .seq (.chars test) (.star test)

def isAssign (c : Char) : Bool := c == '=' || c == ':'

def isQuote (c : Char) : Bool := c == '"' || c.toNat == 39

/-- `[^\s"'`;,]`. -/
def isSecretChar (c : Char) : Bool :=
  !(isSpace c || isQuote c || c.toNat == 96 || c == ';' || c == ',')

/-- `_SECRET_ASSIGNMENT_RE`. -/
def secretAssignment : Regex :=
  .seq .boundary <| .seq (.group secretKey) <| .seq (.star isSpace) <|
    .seq (.group (.chars isAssign)) <| .seq (.star isSpace) <|
    .seq (.group (.opt (.chars isQuote))) (.group (plus isSecretChar))

/-- `[A-Za-z0-9._~+/\-]`, ignoring case. -/
def isTokenChar (c : Char) : Bool := isFoldedAlnum c || "._~+/-".toList.contains c

/-- `_BEARER_TOKEN_RE`. -/
def bearerToken : Regex :=
  .seq .boundary <| .seq (.group (spelled 'b' "earer".toList)) <| .seq (plus isSpace)
    (.group (.seq (plus isTokenChar) (.star (· == '='))))

def isSkChar (c : Char) : Bool := c.isAlphanum || c == '_' || c == '-'

/-- `_SK_STYLE_SECRET_RE`. -/
def skStyleSecret : Regex :=
  .seq .boundary <| .seq (.chars (· == 's')) <| .seq (.chars (· == 'k')) <|
    .seq (.chars (· == '-')) <| .seq (.chars Char.isAlphanum) <| .seq (.chars isSkChar) <|
    .seq (.chars isSkChar) <| .seq (.chars isSkChar) <| .seq (.chars isSkChar) <|
    .seq (.chars isSkChar) <| .seq (.chars isSkChar) <| .seq (.star isSkChar) .boundary

def redactAssignment : List (List Char) → List Char
  | key :: sign :: quote :: _ => key ++ (sign ++ (quote ++ contentRedactedPlaceholder))
  | _ => contentRedactedPlaceholder

def redactBearer : List (List Char) → List Char
  | bearer :: _ => bearer ++ ' ' :: contentRedactedPlaceholder
  | _ => contentRedactedPlaceholder

variable (words : WordClass)

def redactTextContent (text : List Char) : List Char :=
  Regex.sub words.isWord skStyleSecret (fun _ => contentRedactedPlaceholder)
    (Regex.sub words.isWord bearerToken redactBearer
      (Regex.sub words.isWord secretAssignment redactAssignment text))

/-- `_cap_string`.  Raw frames pass `2**63 - 1`, which no string exceeds: there is
no cap. -/
def capString : Option Nat → List Char → List Char
  | none, text => text
  | some limit, text =>
      if text.length ≤ limit then text else text.take limit ++ "...<truncated>".toList

mutual

def redactPayloadValue (limit : Option Nat) : Json → Json
  | .object members => .object (redactMembers limit members)
  | .array items => .array (redactItems limit items)
  | .string text => .string (String.ofList (capString limit (redactTextContent words text.toList)))
  | value => value

def redactItems (limit : Option Nat) : List Json → List Json
  | [] => []
  | item :: items => redactPayloadValue limit item :: redactItems limit items

def redactMembers (limit : Option Nat) : List (String × Json) → List (String × Json)
  | [] => []
  | (key, value) :: members =>
      (key, if isSensitiveKey key then .string redactedPlaceholder
        else redactPayloadValue limit value) :: redactMembers limit members

end

def redactPayload (limit : Option Nat) (members : List (String × Json)) : List (String × Json) :=
  redactMembers words limit members

end Wlcodex.Runtime
