import Wlcodex.Lib.RegexSub
import Wlcodex.Runtime.Redaction

namespace Wlcodex.Runtime

open Wlcodex.Lib
open Wlcodex.Lib.Regex
open Wlcodex.Relay (isSpace)

/-! The three patterns of `redact_text_content`, and what a match of each looks
like. -/

theorem isAlphanum_toLower (c : Char) : c.toLower.isAlphanum = c.isAlphanum := by
  rw [Bool.eq_iff_iff, isAlphanum_iff, isAlphanum_iff]
  unfold Char.toLower
  split
  next upper =>
    simp only [ge_iff_le, UInt32.le_iff_toNat_le, Char.reduceVal, UInt32.reduceToNat] at upper
    simp only [Char.toNat, UInt32.toNat_add, UInt32.toNat_sub, Char.reduceVal,
      UInt32.reduceToNat]
    omega
  · rfl

theorem isFoldedAlnum_iff (c : Char) :
    isFoldedAlnum c = true ↔ (48 ≤ c.toNat ∧ c.toNat ≤ 57) ∨ (65 ≤ c.toNat ∧ c.toNat ≤ 90) ∨
      (97 ≤ c.toNat ∧ c.toNat ≤ 122) ∨ c.toNat = 0x130 ∨ c.toNat = 0x131 ∨ c.toNat = 0x17f ∨
      c.toNat = 0x212a := by
  unfold isFoldedAlnum foldCase
  split_ifs with dotless long kelvin
  · simp only [show 'i'.isAlphanum = true from rfl, true_iff]
    omega
  · simp only [show 's'.isAlphanum = true from rfl, true_iff]
    omega
  · simp only [show 'k'.isAlphanum = true from rfl, true_iff]
    omega
  · rw [isAlphanum_toLower, isAlphanum_iff]
    omega

theorem isKeyChar_iff (c : Char) :
    isKeyChar c = true ↔ (48 ≤ c.toNat ∧ c.toNat ≤ 57) ∨ (65 ≤ c.toNat ∧ c.toNat ≤ 90) ∨
      (97 ≤ c.toNat ∧ c.toNat ≤ 122) ∨ c.toNat = 0x130 ∨ c.toNat = 0x131 ∨ c.toNat = 0x17f ∨
      c.toNat = 0x212a ∨ c.toNat = 95 := by
  have underscore : '_'.toNat = 95 := rfl
  simp only [isKeyChar, Bool.or_eq_true, isFoldedAlnum_iff, beq_iff_eq, eq_char_iff, underscore]
  omega

theorem isAssign_iff (c : Char) : isAssign c = true ↔ c.toNat = 61 ∨ c.toNat = 58 := by
  have equals : '='.toNat = 61 := rfl
  have colon : ':'.toNat = 58 := rfl
  simp only [isAssign, Bool.or_eq_true, beq_iff_eq, eq_char_iff, equals, colon]

theorem isQuote_iff (c : Char) : isQuote c = true ↔ c.toNat = 34 ∨ c.toNat = 39 := by
  have double : '"'.toNat = 34 := rfl
  simp only [isQuote, Bool.or_eq_true, beq_iff_eq, eq_char_iff, double]

theorem isSpace_iff (c : Char) :
    isSpace c = true ↔ (9 ≤ c.toNat ∧ c.toNat ≤ 13) ∨ (28 ≤ c.toNat ∧ c.toNat ≤ 32) ∨
      c.toNat = 133 ∨ c.toNat = 160 ∨ c.toNat = 5760 ∨ (8192 ≤ c.toNat ∧ c.toNat ≤ 8202) ∨
      c.toNat = 8232 ∨ c.toNat = 8233 ∨ c.toNat = 8239 ∨ c.toNat = 8287 ∨ c.toNat = 12288 := by
  simp only [isSpace, Bool.or_eq_true, Bool.and_eq_true, decide_eq_true_eq, beq_iff_eq, or_assoc]

theorem isSecretChar_iff (c : Char) :
    isSecretChar c = true ↔ isSpace c = false ∧ isQuote c = false ∧ c.toNat ≠ 96 ∧ c.toNat ≠ 59 ∧
      c.toNat ≠ 44 := by
  have semicolon : (c == ';') = (c.toNat == 59) := by
    rw [Bool.eq_iff_iff, beq_iff_eq, beq_iff_eq, eq_char_iff]
    rfl
  have comma : (c == ',') = (c.toNat == 44) := by
    rw [Bool.eq_iff_iff, beq_iff_eq, beq_iff_eq, eq_char_iff]
    rfl
  simp only [isSecretChar, semicolon, comma, Bool.not_eq_true', Bool.or_eq_false_iff,
    beq_eq_false_iff_ne, and_assoc]

theorem isTokenChar_iff (c : Char) :
    isTokenChar c = true ↔ isFoldedAlnum c = true ∨ c.toNat = 46 ∨ c.toNat = 95 ∨ c.toNat = 126 ∨
      c.toNat = 43 ∨ c.toNat = 47 ∨ c.toNat = 45 := by
  have others : "._~+/-".toList = ['.', '_', '~', '+', '/', '-'] := rfl
  simp only [isTokenChar, Bool.or_eq_true, others, List.contains_iff_mem, List.mem_cons,
    List.not_mem_nil, or_false, eq_char_iff]
  rfl

theorem isSkChar_iff (c : Char) :
    isSkChar c = true ↔ (48 ≤ c.toNat ∧ c.toNat ≤ 57) ∨ (65 ≤ c.toNat ∧ c.toNat ≤ 90) ∨
      (97 ≤ c.toNat ∧ c.toNat ≤ 122) ∨ c.toNat = 95 ∨ c.toNat = 45 := by
  have underscore : '_'.toNat = 95 := rfl
  have hyphen : '-'.toNat = 45 := rfl
  simp only [isSkChar, Bool.or_eq_true, isAlphanum_iff, beq_iff_eq, eq_char_iff, underscore, hyphen]
  omega

section Words

variable (words : WordClass)

theorem isWord_of_isKeyChar {c : Char} (key : isKeyChar c = true) : words.isWord c = true := by
  rw [isKeyChar_iff] at key
  by_cases small : c.toNat < 128
  · have underscore : '_'.toNat = 95 := rfl
    rw [words.ascii c small, Bool.or_eq_true, isAlphanum_iff, beq_iff_eq, eq_char_iff, underscore]
    omega
  · have folded := words.folded c.toNat (by
      simp only [List.mem_cons, List.not_mem_nil, or_false]
      omega)
    rwa [Char.ofNat_toNat] at folded

theorem isWord_ascii {c : Char} (small : c.toNat < 128)
    (other : ¬ ((48 ≤ c.toNat ∧ c.toNat ≤ 57) ∨ (65 ≤ c.toNat ∧ c.toNat ≤ 90) ∨
      (97 ≤ c.toNat ∧ c.toNat ≤ 122) ∨ c.toNat = 95)) : words.isWord c = false := by
  have underscore : '_'.toNat = 95 := rfl
  rw [words.ascii c small, Bool.or_eq_false_iff, Bool.eq_false_iff, Ne, isAlphanum_iff,
    beq_eq_false_iff_ne, Ne, eq_char_iff, underscore]
  omega

end Words

def isKeyLike (c : Char) : Bool := isKeyChar c || c == '-'

theorem isKeyLike_iff (c : Char) : isKeyLike c = true ↔ isKeyChar c = true ∨ c.toNat = 45 := by
  have hyphen : '-'.toNat = 45 := rfl
  simp only [isKeyLike, Bool.or_eq_true, beq_iff_eq, eq_char_iff, hyphen]

variable {c : Char}

theorem isKeyLike_of_isKeyChar (key : isKeyChar c = true) : isKeyLike c = true :=
  (isKeyLike_iff c).mpr (.inl key)

structure KeyText (text : List Char) : Prop where
  head : ∃ c rest, text = c :: rest ∧ isKeyChar c = true
  all : ∀ c ∈ text, isKeyLike c = true

theorem KeyText.append {first second : List Char} (front : KeyText first)
    (back : ∀ c ∈ second, isKeyLike c = true) : KeyText (first ++ second) := by
  obtain ⟨c, rest, rfl, key⟩ := front.head
  refine ⟨⟨c, rest ++ second, rfl, key⟩, fun d member => ?_⟩
  exact (List.mem_append.mp member).elim (front.all d) (back d)

theorem keyText_of_forall {text : List Char} (some_ : text ≠ [])
    (all : ∀ c ∈ text, isKeyChar c = true) : KeyText text := by
  cases text with
  | nil => exact absurd rfl some_
  | cons c rest =>
      exact ⟨⟨c, rest, rfl, all c List.mem_cons_self⟩,
        fun d member => isKeyLike_of_isKeyChar (all d member)⟩

theorem isKeyChar_letter {wanted : Char} (wantedLetter : wanted.isAlphanum = true)
    (same : (foldCase c == wanted) = true) : isKeyChar c = true := by
  rw [isKeyChar, isFoldedAlnum, beq_iff_eq.mp same, wantedLetter]
  rfl

variable {word rest : List Char}

theorem spells_spelled (letter_ : c.isAlphanum = true)
    (letters : ∀ d ∈ rest, d.isAlphanum = true) (spelled_ : Spells (spelled c rest) word) :
    word ≠ [] ∧ ∀ d ∈ word, isKeyChar d = true := by
  induction rest generalizing c word with
  | nil =>
      obtain ⟨d, same, rfl⟩ := spelled_
      refine ⟨List.cons_ne_nil _ _, fun e member => ?_⟩
      rw [List.mem_singleton.mp member]
      exact isKeyChar_letter letter_ same
  | cons next rest ih =>
      obtain ⟨_, back, ⟨d, same, rfl⟩, backSpelled, rfl⟩ := spelled_
      rw [List.forall_mem_cons] at letters
      refine ⟨List.cons_ne_nil _ _, fun e member => ?_⟩
      rcases List.mem_cons.mp member with rfl | later
      · exact isKeyChar_letter letter_ same
      · exact (ih letters.1 letters.2 backSpelled).2 e later

theorem keyText_spelled (letter_ : c.isAlphanum = true)
    (letters : ∀ d ∈ rest, d.isAlphanum = true) (spelled_ : Spells (spelled c rest) word) :
    KeyText word :=
  keyText_of_forall (spells_spelled letter_ letters spelled_).1
    (spells_spelled letter_ letters spelled_).2

theorem keyText_keyed (letter_ : c.isAlphanum = true)
    (letters : ∀ d ∈ rest, d.isAlphanum = true) (spelled_ : Spells (keyed c rest) word) :
    KeyText word := by
  obtain ⟨front, back, frontSpelled, ⟨middle, last, middleSpelled, lastSpelled, rfl⟩, rfl⟩ :=
    spelled_
  refine (keyText_spelled letter_ letters frontSpelled).append fun d member => ?_
  rcases List.mem_append.mp member with inMiddle | inLast
  · rcases middleSpelled with ⟨e, passes, rfl⟩ | rfl
    · obtain rfl := List.mem_singleton.mp inMiddle
      rw [Bool.or_eq_true, beq_iff_eq, beq_iff_eq] at passes
      rcases passes with rfl | rfl <;> rfl
    · cases inMiddle
  · exact isKeyLike_of_isKeyChar
      ((spells_spelled rfl (List.all_eq_true.mp rfl) lastSpelled).2 d inLast)

theorem keyText_secretWord (spelled_ : Spells secretWord word) :
    KeyText word := by
  rcases spelled_ with password | passwd | token | secret | apiKey | accessKey | privateKey |
    credential | authorization | auth
  · exact keyText_spelled rfl (List.all_eq_true.mp rfl) password
  · exact keyText_spelled rfl (List.all_eq_true.mp rfl) passwd
  · exact keyText_spelled rfl (List.all_eq_true.mp rfl) token
  · exact keyText_spelled rfl (List.all_eq_true.mp rfl) secret
  · exact keyText_keyed rfl (List.all_eq_true.mp rfl) apiKey
  · exact keyText_keyed rfl (List.all_eq_true.mp rfl) accessKey
  · exact keyText_keyed rfl (List.all_eq_true.mp rfl) privateKey
  · exact keyText_spelled rfl (List.all_eq_true.mp rfl) credential
  · exact keyText_spelled rfl (List.all_eq_true.mp rfl) authorization
  · exact keyText_spelled rfl (List.all_eq_true.mp rfl) auth

theorem keyText_secretKey {key : List Char} (spelled_ : Spells secretKey key) : KeyText key := by
  obtain ⟨front, _, frontSpelled, ⟨word, back, wordSpelled, backSpelled, rfl⟩, rfl⟩ := spelled_
  have underscore : isKeyChar '_' = true := rfl
  have wordText := keyText_secretWord wordSpelled
  have backAll : ∀ c ∈ back, isKeyLike c = true := by
    rcases backSpelled with ⟨_, run, ⟨c, under, rfl⟩, all, rfl⟩ | rfl
    · intro d member
      rcases List.mem_cons.mp member with rfl | inRun
      · rw [beq_iff_eq.mp under]
        rfl
      · exact isKeyLike_of_isKeyChar (all d inRun)
    · intro d member
      cases member
  have rest := wordText.append backAll
  rcases frontSpelled with ⟨run, _, all, ⟨c, under, rfl⟩, rfl⟩ | rfl
  · refine (keyText_of_forall (by simp) fun d member => ?_).append rest.all
    rcases List.mem_append.mp member with inRun | last
    · exact all d inRun
    · rw [List.mem_singleton.mp last, beq_iff_eq.mp under]
      exact underscore
  · exact rest

theorem plain_spelled (c : Char) (rest : List Char) : Plain (spelled c rest) := by
  induction rest generalizing c with
  | nil => trivial
  | cons next rest ih => exact ⟨trivial, ih next⟩

theorem plain_plus (test : Char → Bool) : Plain (plus test) := ⟨trivial, trivial⟩

variable {test : Char → Bool}

theorem plain_seq_star {first : Regex} (plain : Plain first) :
    Plain (.seq first (.star test)) := ⟨plain, trivial⟩

theorem plain_secretKey : Plain secretKey := by
  have keyed_ : ∀ c rest, Plain (keyed c rest) := fun c rest =>
    ⟨plain_spelled c rest, trivial, plain_spelled _ _⟩
  exact ⟨⟨trivial, trivial⟩, ⟨plain_spelled _ _, plain_spelled _ _, plain_spelled _ _,
    plain_spelled _ _, keyed_ _ _, keyed_ _ _, keyed_ _ _, plain_spelled _ _, plain_spelled _ _,
    plain_spelled _ _⟩, ⟨trivial, trivial⟩⟩

section Matches

variable (words : WordClass)

structure Assignment (before : Option Char) (text key gap : List Char) (sign : Char)
    (blank quote tail : List Char) : Prop where
  parts : text = key ++ (gap ++ sign :: (blank ++ (quote ++ tail)))
  boundary : AtBoundary words.isWord ⟨before, text, []⟩
  spelled : Spells secretKey key
  gapSpaces : ∀ c ∈ gap, isSpace c = true
  signTest : isAssign sign = true
  blankSpaces : ∀ c ∈ blank, isSpace c = true
  quoteTest : quote = [] ∨ ∃ q, isQuote q = true ∧ quote = [q]
  value : ∃ v rest, isSecretChar v = true ∧ tail = v :: rest

structure Bearer (before : Option Char) (text bearer spaces tail : List Char) : Prop where
  parts : text = bearer ++ (spaces ++ tail)
  boundary : AtBoundary words.isWord ⟨before, text, []⟩
  spelled : Spells (spelled 'b' "earer".toList) bearer
  nonempty : spaces ≠ []
  spacesTest : ∀ c ∈ spaces, isSpace c = true
  token : ∃ v rest, isTokenChar v = true ∧ tail = v :: rest

/-- A place where a secret of the `sk-` style stands. -/
structure SkSecret (before : Option Char) (text secret rest : List Char) : Prop where
  parts : text = secret ++ rest
  boundary : AtBoundary words.isWord ⟨before, text, []⟩
  shape : ∃ c more, secret = 's' :: 'k' :: '-' :: c :: more ∧ c.isAlphanum = true ∧
    6 ≤ more.length ∧ ∀ d ∈ more, isSkChar d = true
  ends : AtBoundary words.isWord ⟨lastOf before secret, rest, []⟩

variable {words} {before : Option Char} {text : List Char}

variable {isWord : Char → Bool} {cursor result : Cursor} {k : Cursor → Option Cursor}

theorem matchThen_seq {first second : Regex}
    (found : matchThen isWord (.seq first second) cursor k = some result) :
    ∃ next, Reaches isWord first cursor next ∧ matchThen isWord second next k = some result :=
  matchThen_sound found

theorem matchThen_plus (total : ∀ cursor, (k cursor).isSome)
    (found : matchThen isWord (plus test) cursor k = some result) :
    ∃ c rest, cursor.rest = c :: rest ∧ test c = true ∧
      k ⟨lastOf (some c) (rest.takeWhile test), rest.dropWhile test, cursor.groups⟩ =
        some result := by
  obtain ⟨next, ⟨c, passes, eq, before, groups⟩, goes⟩ := matchThen_seq found
  refine ⟨c, next.rest, eq, passes, ?_⟩
  rw [matchThen, starThen_total total, before, groups] at goes
  exact goes

variable {next : Cursor}

theorem assignment_of_match (found : matchAt words.isWord secretAssignment before text = some next) :
    ∃ key gap sign blank quote tail,
      Assignment words before text key gap sign blank quote tail ∧
        next.groups = [key, [sign], quote, tail.takeWhile isSecretChar] ∧
        next.rest = tail.dropWhile isSecretChar ∧
        next.before = lastOf before (key ++ (gap ++ sign :: (blank ++ (quote ++
          tail.takeWhile isSecretChar)))) := by
  obtain ⟨start, ⟨boundary, rfl⟩, found⟩ := matchThen_seq found
  obtain ⟨afterKey, keyReached, found⟩ := matchThen_seq found
  obtain ⟨afterGap, gapReached, found⟩ := matchThen_seq found
  obtain ⟨afterSign, signReached, found⟩ := matchThen_seq found
  obtain ⟨afterBlank, blankReached, found⟩ := matchThen_seq found
  obtain ⟨afterQuote, quoteReached, found⟩ := matchThen_seq found
  obtain ⟨key, keySpelled, keyText, keyBefore, keyGroups⟩ :=
    (reaches_group_iff plain_secretKey).mp keyReached
  obtain ⟨gap, gapSpaces, gapOver⟩ := runs_iff.mp gapReached
  obtain ⟨_, ⟨sign, signTest, rfl⟩, signText, signBefore, signGroups⟩ :=
    (reaches_group_iff (plain_chars isAssign)).mp signReached
  obtain ⟨blank, blankSpaces, blankOver⟩ := runs_iff.mp blankReached
  obtain ⟨quote, quoteSpelled, quoteText, quoteBefore, quoteGroups⟩ :=
    (reaches_group_iff (plain_opt_chars isQuote)).mp quoteReached
  obtain ⟨v, rest, valueText, valueTest, goes⟩ := matchThen_plus (fun _ => rfl) found
  have taken : Over ((v :: rest).takeWhile isSecretChar) afterQuote
      ⟨lastOf (some v) (rest.takeWhile isSecretChar), rest.dropWhile isSecretChar,
        afterQuote.groups⟩ := by
    refine ⟨?_, ?_, rfl⟩
    · rw [valueText, ← List.dropWhile_cons_of_pos valueTest, List.takeWhile_append_dropWhile]
    · rw [List.takeWhile_cons_of_pos valueTest]
      rfl
  rw [closeGroup_over taken] at goes
  cases goes
  refine ⟨key, gap, sign, blank, quote, v :: rest,
    ⟨?_, boundary, keySpelled, gapSpaces, signTest, blankSpaces, ?_, ⟨v, rest, valueTest, rfl⟩⟩,
    ?_, (List.dropWhile_cons_of_pos valueTest).symm, ?_⟩
  · rw [← valueText, ← quoteText, ← blankOver.text, ← List.singleton_append, ← signText,
      ← gapOver.text, ← keyText]
  · rcases quoteSpelled with ⟨q, quoteTest, rfl⟩ | rfl
    · exact .inr ⟨q, quoteTest, rfl⟩
    · exact .inl rfl
  · rw [quoteGroups, blankOver.groups, signGroups, gapOver.groups, keyGroups]
    rfl
  · rw [taken.before, quoteBefore, blankOver.before, signBefore, gapOver.before, keyBefore]
    simp only [lastOf_append, lastOf_cons, lastOf_nil]

theorem match_of_assignment {key gap : List Char} {sign : Char} {blank quote tail : List Char}
    (assignment : Assignment words before text key gap sign blank quote tail) :
    (matchAt words.isWord secretAssignment before text).isSome := by
  obtain ⟨parts, boundary, spelled_, gapSpaces, signTest, blankSpaces, quoteTest, v, rest,
    valueTest, rfl⟩ := assignment
  subst parts
  have quoteSpelled : Spells (.opt (.chars isQuote)) quote := by
    rcases quoteTest with rfl | ⟨q, test, rfl⟩
    · exact .inr rfl
    · exact .inl ⟨q, test, rfl⟩
  have valueSpelled : Spells (plus isSecretChar) [v] :=
    ⟨[v], [], ⟨v, valueTest, rfl⟩, by simp [Spells], rfl⟩
  -- the cursor after each part
  let afterKey : Cursor := ⟨lastOf before key, gap ++ sign :: (blank ++ (quote ++ v :: rest)), [key]⟩
  let afterGap : Cursor :=
    ⟨lastOf afterKey.before gap, sign :: (blank ++ (quote ++ v :: rest)), [key]⟩
  let afterSign : Cursor := ⟨some sign, blank ++ (quote ++ v :: rest), [key, [sign]]⟩
  let afterBlank : Cursor := ⟨lastOf (some sign) blank, quote ++ v :: rest, [key, [sign]]⟩
  let afterQuote : Cursor := ⟨lastOf afterBlank.before quote, v :: rest, [key, [sign], quote]⟩
  let afterValue : Cursor := ⟨some v, rest, [key, [sign], quote, [v]]⟩
  have reaches : Reaches words.isWord secretAssignment
      ⟨before, key ++ (gap ++ sign :: (blank ++ (quote ++ v :: rest))), []⟩ afterValue :=
    ⟨_, ⟨boundary, rfl⟩, afterKey,
      (reaches_group_iff plain_secretKey).mpr ⟨key, spelled_, rfl, rfl, rfl⟩, afterGap,
      runs_iff.mpr ⟨gap, gapSpaces, rfl, rfl, rfl⟩, afterSign,
      (reaches_group_iff (plain_chars isAssign)).mpr
        ⟨[sign], ⟨sign, signTest, rfl⟩, rfl, rfl, rfl⟩, afterBlank,
      runs_iff.mpr ⟨blank, blankSpaces, rfl, rfl, rfl⟩, afterQuote,
      (reaches_group_iff (plain_opt_chars isQuote)).mpr ⟨quote, quoteSpelled, rfl, rfl, rfl⟩,
      (reaches_group_iff (plain_plus isSecretChar)).mpr ⟨[v], valueSpelled, rfl, rfl, rfl⟩⟩
  exact matchThen_complete reaches rfl

theorem head?_dropWhile {test : Char → Bool} {text : List Char} :
    ∀ c ∈ (text.dropWhile test).head?, test c = false := by
  intro c member
  cases eq : text.dropWhile test with
  | nil =>
      rw [eq] at member
      cases member
  | cons d rest =>
      rw [eq] at member
      obtain rfl : d = c := by simpa using member
      have stops := List.dropWhile_get_zero_not test text (by simp [eq])
      simpa [eq] using stops

theorem bearer_of_match (found : matchAt words.isWord bearerToken before text = some next) :
    ∃ bearer spaces tail token, Bearer words before text bearer spaces tail ∧
      next.groups = [bearer, token] ∧ tail = token ++ next.rest ∧
      (next.before = some '=' ∨ ∀ c ∈ next.rest.head?, isTokenChar c = false) := by
  obtain ⟨start, ⟨boundary, rfl⟩, found⟩ := matchThen_seq found
  obtain ⟨afterBearer, bearerReached, found⟩ := matchThen_seq found
  obtain ⟨afterSpaces, spacesReached, found⟩ := matchThen_seq found
  obtain ⟨bearer, bearerSpelled, bearerText, bearerBefore, bearerGroups⟩ :=
    (reaches_group_iff (plain_spelled 'b' "earer".toList)).mp bearerReached
  obtain ⟨_, ⟨_, spaces, ⟨space, spaceTest, rfl⟩, spacesTest, rfl⟩, spacesOver⟩ :=
    (reaches_iff (plain_plus isSpace)).mp spacesReached
  have total : ∀ cursor : Cursor, (matchThen words.isWord (.star (· == '=')) cursor fun closed =>
      some (closeGroup afterSpaces closed)).isSome := by
    intro cursor
    rw [matchThen, starThen_total fun _ => rfl]
    rfl
  obtain ⟨v, rest, tokenText, tokenTest, goes⟩ := matchThen_plus total found
  rw [matchThen, starThen_total fun _ => rfl] at goes
  have taken : Over ((v :: rest).takeWhile isTokenChar ++
        (rest.dropWhile isTokenChar).takeWhile (· == '=')) afterSpaces
      ⟨lastOf (lastOf (some v) (rest.takeWhile isTokenChar))
          ((rest.dropWhile isTokenChar).takeWhile (· == '=')),
        (rest.dropWhile isTokenChar).dropWhile (· == '='), afterSpaces.groups⟩ := by
    refine ⟨?_, ?_, rfl⟩
    · rw [tokenText, List.append_assoc, List.takeWhile_append_dropWhile,
        ← List.dropWhile_cons_of_pos tokenTest, List.takeWhile_append_dropWhile]
    · rw [List.takeWhile_cons_of_pos tokenTest, lastOf_append]
      rfl
  rw [closeGroup_over taken] at goes
  cases goes
  refine ⟨bearer, [space] ++ spaces, v :: rest, (v :: rest).takeWhile isTokenChar ++
    (rest.dropWhile isTokenChar).takeWhile (· == '='), ⟨?_, boundary, bearerSpelled, by simp, ?_,
    ⟨v, rest, tokenTest, rfl⟩⟩, ?_, ?_, ?_⟩
  · rw [← tokenText, ← spacesOver.text, ← bearerText]
  · exact List.forall_mem_cons.mpr ⟨spaceTest, spacesTest⟩
  · rw [spacesOver.groups, bearerGroups]
    rfl
  · exact tokenText.symm.trans taken.text
  · -- either an equals sign came last, or none came
    cases equals : (rest.dropWhile isTokenChar).takeWhile (· == '=') with
    | nil =>
        refine .inr ?_
        have none_ : (rest.dropWhile isTokenChar).dropWhile (· == '=') =
            rest.dropWhile isTokenChar := by
          have whole := List.takeWhile_append_dropWhile (p := (· == '='))
            (l := rest.dropWhile isTokenChar)
          rwa [equals, List.nil_append] at whole
        rw [none_]
        exact head?_dropWhile
    | cons first more =>
        refine .inl ?_
        obtain ⟨c, member, last⟩ := lastOf_mem
          (lastOf (some v) (rest.takeWhile isTokenChar)) (List.cons_ne_nil first more)
        have same : c = '=' := by
          have passes := List.mem_takeWhile_imp (equals ▸ member)
          exact beq_iff_eq.mp passes
        rw [last, same]

theorem match_of_bearer {bearer spaces tail : List Char}
    (bearer_ : Bearer words before text bearer spaces tail) :
    (matchAt words.isWord bearerToken before text).isSome := by
  obtain ⟨parts, boundary, spelled_, nonempty, spacesTest, v, rest, tokenTest, rfl⟩ := bearer_
  subst parts
  cases spaces with
  | nil => exact absurd rfl nonempty
  | cons space spaces =>
      rw [List.forall_mem_cons] at spacesTest
      have spacesSpelled : Spells (plus isSpace) (space :: spaces) :=
        ⟨[space], spaces, ⟨space, spacesTest.1, rfl⟩, spacesTest.2, rfl⟩
      have tokenSpelled : Spells (.seq (plus isTokenChar) (.star (· == '='))) [v] :=
        ⟨[v], [], ⟨[v], [], ⟨v, tokenTest, rfl⟩, by simp [Spells], rfl⟩, by simp [Spells], rfl⟩
      let afterBearer : Cursor := ⟨lastOf before bearer, space :: spaces ++ v :: rest, [bearer]⟩
      let afterSpaces : Cursor := ⟨lastOf afterBearer.before (space :: spaces), v :: rest, [bearer]⟩
      let afterToken : Cursor := ⟨some v, rest, [bearer, [v]]⟩
      have reaches : Reaches words.isWord bearerToken
          ⟨before, bearer ++ (space :: spaces ++ v :: rest), []⟩ afterToken :=
        ⟨_, ⟨boundary, rfl⟩, afterBearer,
          (reaches_group_iff (plain_spelled _ _)).mpr ⟨bearer, spelled_, rfl, rfl, rfl⟩,
          afterSpaces,
          (reaches_iff (plain_plus isSpace)).mpr ⟨_, spacesSpelled, rfl, rfl, rfl⟩,
          (reaches_group_iff (plain_seq_star (plain_plus isTokenChar))).mpr
            ⟨[v], tokenSpelled, rfl, rfl, rfl⟩⟩
      exact matchThen_complete reaches rfl

theorem matchThen_chars {second : Regex}
    (found : matchThen isWord (.seq (.chars test) second) cursor k = some result) :
    ∃ c rest, cursor.rest = c :: rest ∧ test c = true ∧
      matchThen isWord second ⟨some c, rest, cursor.groups⟩ k = some result := by
  obtain ⟨next, ⟨c, passes, eq, before, groups⟩, found⟩ := matchThen_seq found
  refine ⟨c, next.rest, eq, passes, ?_⟩
  rw [← before, ← groups]
  exact found

theorem skSecret_of_match (found : matchAt words.isWord skStyleSecret before text = some next) :
    ∃ secret, SkSecret words before text secret next.rest ∧ next.before = lastOf before secret ∧
      ∀ more rest, next.rest = more ++ rest → more ≠ [] → (∀ c ∈ more, isSkChar c = true) →
        ¬ AtBoundary words.isWord ⟨lastOf next.before more, rest, []⟩ := by
  obtain ⟨start, ⟨boundary, rfl⟩, found⟩ := matchThen_seq found
  obtain ⟨s, _, rfl, sTest, found⟩ := matchThen_chars found
  obtain ⟨k, _, rfl, kTest, found⟩ := matchThen_chars found
  obtain ⟨hyphen, _, rfl, hyphenTest, found⟩ := matchThen_chars found
  obtain ⟨first, _, rfl, firstTest, found⟩ := matchThen_chars found
  obtain ⟨c1, _, rfl, test1, found⟩ := matchThen_chars found
  obtain ⟨c2, _, rfl, test2, found⟩ := matchThen_chars found
  obtain ⟨c3, _, rfl, test3, found⟩ := matchThen_chars found
  obtain ⟨c4, _, rfl, test4, found⟩ := matchThen_chars found
  obtain ⟨c5, _, rfl, test5, found⟩ := matchThen_chars found
  obtain ⟨c6, rest, rfl, test6, found⟩ := matchThen_chars found
  obtain ⟨run, tail, rfl, runTest, goes, last⟩ := starThen_greedy found
  rw [matchThen] at goes
  split at goes
  next ends =>
    cases goes
    obtain rfl := beq_iff_eq.mp sTest
    obtain rfl := beq_iff_eq.mp kTest
    obtain rfl := beq_iff_eq.mp hyphenTest
    refine ⟨'s' :: 'k' :: '-' :: first :: c1 :: c2 :: c3 :: c4 :: c5 :: c6 :: run,
      ⟨rfl, boundary, ⟨first, _, rfl, firstTest, by simp, ?_⟩, ends⟩, rfl, ?_⟩
    · simp only [List.forall_mem_cons]
      exact ⟨test1, test2, test3, test4, test5, test6, runTest⟩
    · intro more rest text some_ all bounded
      have missed := last more rest text some_ all
      rw [matchThen, if_pos bounded] at missed
      cases missed
  · cases goes

theorem match_of_skSecret {secret rest : List Char} (sk : SkSecret words before text secret rest) :
    (matchAt words.isWord skStyleSecret before text).isSome := by
  obtain ⟨parts, boundary, ⟨first, more, rfl, firstTest, long, all⟩, ends⟩ := sk
  subst parts
  rcases more with _ | ⟨c1, _ | ⟨c2, _ | ⟨c3, _ | ⟨c4, _ | ⟨c5, _ | ⟨c6, run⟩⟩⟩⟩⟩⟩
  iterate 6 simp at long
  simp only [List.forall_mem_cons] at all
  obtain ⟨test1, test2, test3, test4, test5, test6, runTest⟩ := all
  have step : ∀ {before : Option Char} {c : Char} {rest : List Char} {test : Char → Bool},
      test c = true → Reaches words.isWord (.chars test) ⟨before, c :: rest, []⟩ ⟨some c, rest, []⟩ :=
    fun {_ c _ _} passes => ⟨c, passes, rfl, rfl, rfl⟩
  have reaches : Reaches words.isWord skStyleSecret
      ⟨before, 's' :: 'k' :: '-' :: first :: c1 :: c2 :: c3 :: c4 :: c5 :: c6 :: run ++ rest, []⟩
      ⟨lastOf (some c6) run, rest, []⟩ :=
    ⟨_, ⟨boundary, rfl⟩, _, step rfl, _, step rfl, _, step rfl, _, step firstTest, _, step test1, _,
      step test2, _, step test3, _, step test4, _, step test5, _, step test6,
      ⟨lastOf (some c6) run, rest, []⟩, runs_iff.mpr ⟨run, runTest, rfl, rfl, rfl⟩, ends, rfl⟩
  exact matchThen_complete reaches rfl

end Matches

end Wlcodex.Runtime
