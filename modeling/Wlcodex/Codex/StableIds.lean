import Wlcodex.Codex.TranscriptMirror
import Wlcodex.Runtime.RedactionTwice

namespace Wlcodex.Codex

open Wlcodex.Lib
open Wlcodex.Lib.Regex (Everywhere Spells)
open Wlcodex.Relay (isSpace)
open Wlcodex.Runtime

/-! Redaction leaves the ids alone that the mirror makes of a digest. -/

def isSecretMark (c : Char) : Bool := foldCase c ∈ ['w', 'k', 'c', 'h']

theorem marked_of_spelled {c mark : Char} {rest word : List Char} (named : mark ∈ c :: rest)
    (spelled_ : Spells (spelled c rest) word) : ∃ d ∈ word, foldCase d = mark := by
  induction rest generalizing c word with
  | nil =>
      obtain ⟨d, same, rfl⟩ := spelled_
      refine ⟨d, List.mem_singleton_self d, ?_⟩
      rw [List.mem_singleton.mp named]
      exact beq_iff_eq.mp same
  | cons next rest ih =>
      obtain ⟨_, back, ⟨d, same, rfl⟩, backSpelled, rfl⟩ := spelled_
      rcases List.mem_cons.mp named with rfl | later
      · exact ⟨d, List.mem_cons_self, beq_iff_eq.mp same⟩
      · obtain ⟨e, member, found⟩ := ih later backSpelled
        exact ⟨e, List.mem_cons_of_mem d member, found⟩

theorem marked_of_keyed {c : Char} {rest word : List Char} (spelled_ : Spells (keyed c rest) word) :
    ∃ d ∈ word, foldCase d = 'k' := by
  obtain ⟨front, _, _, ⟨middle, last, _, lastSpelled, rfl⟩, rfl⟩ := spelled_
  have named : 'k' ∈ 'k' :: "ey".toList := List.mem_cons_self
  obtain ⟨d, member, found⟩ := marked_of_spelled named lastSpelled
  exact ⟨d, List.mem_append_right _ (List.mem_append_right _ member), found⟩

theorem marked_of_secretWord {word : List Char} (spelled_ : Spells secretWord word) :
    ∃ d ∈ word, isSecretMark d = true := by
  have marks : ∀ mark ∈ ['w', 'k', 'c', 'h'], (∃ d ∈ word, foldCase d = mark) →
      ∃ d ∈ word, isSecretMark d = true := by
    rintro mark listed ⟨d, member, found⟩
    exact ⟨d, member, by rw [isSecretMark, found]; exact decide_eq_true listed⟩
  rcases spelled_ with password | passwd | token | secret | apiKey | accessKey | privateKey |
    credential | authorization | auth
  · exact marks 'w' (by decide) (marked_of_spelled (by decide) password)
  · exact marks 'w' (by decide) (marked_of_spelled (by decide) passwd)
  · exact marks 'k' (by decide) (marked_of_spelled (by decide) token)
  · exact marks 'c' (by decide) (marked_of_spelled (by decide) secret)
  · exact marks 'k' (by decide) (marked_of_keyed apiKey)
  · exact marks 'k' (by decide) (marked_of_keyed accessKey)
  · exact marks 'k' (by decide) (marked_of_keyed privateKey)
  · exact marks 'c' (by decide) (marked_of_spelled (by decide) credential)
  · exact marks 'h' (by decide) (marked_of_spelled (by decide) authorization)
  · exact marks 'h' (by decide) (marked_of_spelled (by decide) auth)

theorem marked_of_secretKey {key : List Char} (spelled_ : Spells secretKey key) :
    ∃ d ∈ key, isSecretMark d = true := by
  obtain ⟨front, _, _, ⟨word, back, wordSpelled, _, rfl⟩, rfl⟩ := spelled_
  obtain ⟨d, member, marked⟩ := marked_of_secretWord wordSpelled
  exact ⟨d, List.mem_append_right _ (List.mem_append_left _ member), marked⟩

/-- A label, a colon and a code: no letter of the label marks a secret, and neither part has a
sign of assignment, a space or a small k. -/
structure PlainLabel (label code : List Char) : Prop where
  unmarked : ∀ c ∈ label, isSecretMark c = false
  unassigned : ∀ c ∈ label ++ code, isAssign c = false
  unspaced : ∀ c ∈ label ++ code, isSpace c = false
  codeUnmarked : 'k' ∉ code

namespace PlainLabel

variable {words : WordClass} {label code : List Char}

section

variable (plain : PlainLabel label code)

include plain

theorem mem_split {front middle back : List Char} {sign : Char}
    (assign : isAssign sign = true) (parts : label ++ ':' :: code = front ++ (middle ++ sign :: back)) :
    front ++ middle = label := by
  rw [← List.append_assoc] at parts
  obtain ⟨more, longer, rest⟩ | ⟨more, shorter, rest⟩ := List.append_eq_append_iff.mp parts
  · cases more with
    | nil => rw [longer, List.append_nil]
    | cons c more =>
        rw [List.cons_append, List.cons.injEq] at rest
        have member : sign ∈ label ++ code := by rw [rest.2]; simp
        rw [plain.unassigned sign member] at assign
        cases assign
  · cases more with
    | nil => rw [shorter, List.append_nil]
    | cons c more =>
        rw [List.cons_append, List.cons.injEq] at rest
        have member : sign ∈ label ++ code := by rw [shorter, rest.1]; simp
        rw [plain.unassigned sign member] at assign
        cases assign

theorem clean :
    Everywhere (CleanAt words) none (label ++ ':' :: code) := by
  intro front back parts key gap sign blank quote tail assignment
  rw [assignment.parts, ← List.append_assoc key] at parts
  have split := plain.mem_split assignment.signTest parts
  obtain ⟨d, member, marked⟩ := marked_of_secretKey assignment.spelled
  rw [plain.unmarked d (by rw [← split]; simp [member])] at marked
  cases marked

theorem unspaced_text :
    ∀ c ∈ label ++ ':' :: code, isSpace c = false := by
  intro c member
  rcases List.mem_append.mp member with inLabel | inRest
  · exact plain.unspaced c (List.mem_append_left _ inLabel)
  · rcases List.mem_cons.mp inRest with rfl | inCode
    · decide
    · exact plain.unspaced c (List.mem_append_right _ inCode)

theorem noBearer :
    Everywhere (NoBearer words) none (label ++ ':' :: code) := by
  intro front back parts bearer spaces tail found
  obtain ⟨space, member⟩ := List.exists_mem_of_ne_nil spaces found.nonempty
  have blank := found.spacesTest space member
  rw [plain.unspaced_text space (by rw [parts, found.parts]; simp [member])] at blank
  cases blank

theorem noSkSecret :
    Everywhere (NoSkSecret words) none (label ++ ':' :: code) := by
  intro front back parts secret rest found
  obtain ⟨c, more, spelled, -⟩ := found.shape
  have member : 'k' ∈ label ++ ':' :: code := by rw [parts, found.parts, spelled]; simp
  rcases List.mem_append.mp member with inLabel | inRest
  · exact absurd (plain.unmarked 'k' inLabel) (by decide)
  · rcases List.mem_cons.mp inRest with colon | inCode
    · exact absurd colon (by decide)
    · exact plain.codeUnmarked inCode

theorem redactTextContent_eq :
    redactTextContent words (label ++ ':' :: code) = label ++ ':' :: code := by
  have clean : Everywhere (CleanAt words) none (label ++ ':' :: code) := plain.clean
  have noBearer : Everywhere (NoBearer words) none (label ++ ':' :: code) := plain.noBearer
  rw [redactTextContent, firstPass_of_clean clean, secondPass_of_none noBearer]
  exact thirdPass_of_none plain.noSkSecret

end

end PlainLabel

def KeptByRedaction (words : WordClass) (id : String) : Prop :=
  redactPayloadValue words (some maxPayloadStringLength) (.string id) = .string id

instance (words : WordClass) (id : String) : Decidable (KeptByRedaction words id) :=
  decidable_of_iff
    (String.ofList (capString (some maxPayloadStringLength) (redactTextContent words id.toList)) = id)
    ⟨fun same => congrArg Json.string same, fun same => Json.string.inj same⟩

def hexDigits : List Char := "0123456789abcdef".toList

/-- `hexdigest()[:24]`. -/
structure Builtins.HexDigests (builtins : Builtins) : Prop where
  length : ∀ text, (builtins.digest text).toList.length = 24
  digits : ∀ text, ∀ c ∈ (builtins.digest text).toList, c ∈ hexDigits

def itemKinds : List String := ["jsonl-plan", "jsonl-assistant-final", "jsonl-user", "jsonl-assistant"]

theorem plainLabel_stableId {builtins : Builtins} (hex : builtins.HexDigests) {kind : String}
    (listed : kind ∈ itemKinds) (text : String) :
    PlainLabel kind.toList (builtins.digest text).toList := by
  have kinds : (itemKinds.all fun kind => kind.toList.all fun c =>
      !isSecretMark c && !isAssign c && !isSpace c) = true := rfl
  have digits : (hexDigits.all fun c => !isAssign c && !isSpace c && c != 'k') = true := rfl
  have inKind : ∀ c ∈ kind.toList,
      isSecretMark c = false ∧ isAssign c = false ∧ isSpace c = false := by
    intro c member
    have plain := List.all_eq_true.mp (List.all_eq_true.mp kinds kind listed) c member
    simpa [and_assoc] using plain
  have inDigest : ∀ c ∈ (builtins.digest text).toList,
      isAssign c = false ∧ isSpace c = false ∧ c ≠ 'k' := by
    intro c member
    have plain := List.all_eq_true.mp digits c (hex.digits text c member)
    simpa [and_assoc] using plain
  refine ⟨fun c member => (inKind c member).1, fun c member => ?_, fun c member => ?_, ?_⟩
  · rcases List.mem_append.mp member with front | back
    · exact (inKind c front).2.1
    · exact (inDigest c back).1
  · rcases List.mem_append.mp member with front | back
    · exact (inKind c front).2.2
    · exact (inDigest c back).2.1
  · intro member
    exact (inDigest 'k' member).2.2 rfl

theorem kept_stableId (words : WordClass) {builtins : Builtins} (hex : builtins.HexDigests)
    {kind : String} (listed : kind ∈ itemKinds) (parts : List String) :
    KeptByRedaction words (builtins.stableId kind parts) := by
  have plain := plainLabel_stableId hex listed ("\x00".intercalate parts)
  have spelled : (builtins.stableId kind parts).toList =
      kind.toList ++ ':' :: (builtins.digest ("\x00".intercalate parts)).toList := by
    simp [Builtins.stableId]
  have short : ∀ kind ∈ itemKinds, kind.toList.length ≤ 30 := by decide
  have bounded : (builtins.stableId kind parts).toList.length ≤ maxPayloadStringLength := by
    rw [spelled, List.length_append, List.length_cons, hex.length]
    have := short kind listed
    unfold maxPayloadStringLength
    omega
  unfold KeptByRedaction
  rw [redactPayloadValue, spelled, plain.redactTextContent_eq, ← spelled, capString, if_pos bounded,
    String.ofList_toList]

end Wlcodex.Codex
