import Mathlib.Algebra.Group.Nat.Even
import Wlcodex.Runtime.TokenPasses

namespace Wlcodex.Runtime

open Wlcodex.Lib
open Wlcodex.Lib.Regex
open Wlcodex.Relay (isSpace)

/-! The word `Bearer` before a token. -/

section Words

variable {words : WordClass} {before : Option Char}

def isBearerLetter (c : Char) : Bool := "bear".toList.contains (foldCase c)

variable {bearer : List Char}

theorem bearer_letters (spelled_ : Spells (spelled 'b' "earer".toList) bearer) :
    ∀ c ∈ bearer, isBearerLetter c = true := by
  obtain ⟨_, _, ⟨b, bTest, rfl⟩, ⟨_, _, ⟨e, eTest, rfl⟩, ⟨_, _, ⟨a, aTest, rfl⟩, ⟨_, _,
    ⟨r, rTest, rfl⟩, ⟨_, _, ⟨e', eTest', rfl⟩, ⟨r', rTest', rfl⟩, rfl⟩, rfl⟩, rfl⟩, rfl⟩, rfl⟩ := spelled_
  have known {c d : Char} (same : (foldCase c == d) = true) (letter_ : d ∈ "bear".toList) :
      isBearerLetter c = true := by
    rw [isBearerLetter, beq_iff_eq.mp same]
    exact List.contains_iff_mem.mpr letter_
  simp only [List.singleton_append, List.forall_mem_cons]
  exact ⟨known bTest (by decide), known eTest (by decide), known aTest (by decide),
    known rTest (by decide), known eTest' (by decide), known rTest' (by decide), by simp⟩

variable {rest word : List Char}

theorem exists_letter {first wanted : Char} (inside : wanted ∈ first :: rest)
    (spelled_ : Spells (spelled first rest) word) : ∃ c ∈ word, foldCase c = wanted := by
  induction rest generalizing first word with
  | nil =>
      obtain ⟨c, same, rfl⟩ := spelled_
      rw [List.mem_singleton] at inside
      exact ⟨c, List.mem_singleton_self c, inside ▸ beq_iff_eq.mp same⟩
  | cons second rest ih =>
      obtain ⟨_, back, ⟨c, same, rfl⟩, later, rfl⟩ := spelled_
      rcases List.mem_cons.mp inside with rfl | inRest
      · exact ⟨c, by simp, beq_iff_eq.mp same⟩
      · obtain ⟨d, member, found⟩ := ih inRest later
        exact ⟨d, List.mem_append_right _ member, found⟩

theorem exists_other_letter (spelled_ : Spells secretWord word) :
    ∃ c ∈ word, isBearerLetter c = false := by
  have other {c wanted : Char} (same : foldCase c = wanted) (outside : wanted ∉ "bear".toList) :
      isBearerLetter c = false := by
    rw [isBearerLetter, same, Bool.eq_false_iff]
    exact fun inside => outside (List.contains_iff_mem.mp inside)
  have spells {first : Char} (wanted : Char) {rest word : List Char}
      (spelled_ : Spells (spelled first rest) word) (inside : wanted ∈ first :: rest)
      (outside : wanted ∉ "bear".toList) : ∃ c ∈ word, isBearerLetter c = false := by
    obtain ⟨c, member, same⟩ := exists_letter inside spelled_
    exact ⟨c, member, other same outside⟩
  have keys {first : Char} {rest word : List Char} (spelled_ : Spells (keyed first rest) word) :
      ∃ c ∈ word, isBearerLetter c = false := by
    obtain ⟨front, _, _, ⟨middle, last, _, key, rfl⟩, rfl⟩ := spelled_
    obtain ⟨c, member, same⟩ := spells 'k' key (by decide) (by decide)
    exact ⟨c, by simp [member], same⟩
  rcases spelled_ with password | passwd | token | secret | apiKey | accessKey | privateKey |
    credential | authorization | auth
  · exact spells 'p' password (by decide) (by decide)
  · exact spells 'p' passwd (by decide) (by decide)
  · exact spells 't' token (by decide) (by decide)
  · exact spells 's' secret (by decide) (by decide)
  · exact keys apiKey
  · exact keys accessKey
  · exact keys privateKey
  · exact spells 'c' credential (by decide) (by decide)
  · exact spells 'u' authorization (by decide) (by decide)
  · exact spells 'u' auth (by decide) (by decide)

variable {front back : List Char}

theorem hyphen_between {start middle last : List Char} (noStart : '-' ∉ start)
    (noLast : '-' ∉ last) (whole : start ++ (middle ++ last) = front ++ '-' :: back) :
    ∃ early late, middle = early ++ '-' :: late ∧ front = start ++ early ∧ back = late ++ last := by
  have inMiddle : ∃ more, front = start ++ more ∧ middle ++ last = more ++ '-' :: back := by
    rcases List.append_eq_append_iff.mp whole with ⟨more, frontEq, rest⟩ | ⟨more, startEq, rest⟩
    · exact ⟨more, frontEq, rest⟩
    · cases more with
      | nil => exact ⟨[], by rw [startEq, List.append_nil, List.append_nil], rest.symm⟩
      | cons c more =>
          obtain ⟨rfl, _⟩ := List.cons.inj rest
          exact absurd (startEq ▸ by simp) noStart
  obtain ⟨more, rfl, rest⟩ := inMiddle
  rcases List.append_eq_append_iff.mp rest with ⟨late, _, lastEq⟩ | ⟨late, middleEq, backEq⟩
  · exact absurd (lastEq ▸ by simp) noLast
  · cases late with
    | nil =>
        rw [List.nil_append] at backEq
        exact absurd (backEq ▸ List.mem_cons_self) noLast
    | cons c late =>
        obtain ⟨rfl, after⟩ := List.cons.inj backEq
        exact ⟨more, late, middleEq, rfl, after⟩

theorem no_hyphen {text : List Char} (all : ∀ c ∈ text, isKeyChar c = true) : '-' ∉ text :=
  fun member => absurd (all '-' member) (by decide)

theorem hyphen_in_keyed {first : Char}
    (firstLetter : first.isAlphanum = true) (letters : ∀ d ∈ rest, d.isAlphanum = true)
    (spelled_ : Spells (keyed first rest) word) (parts : word = front ++ '-' :: back) :
    ∃ c later, back = c :: later ∧ foldCase c = 'k' := by
  obtain ⟨start, _, startSpelled, ⟨middle, last, middleSpelled, lastSpelled, rfl⟩, rfl⟩ := spelled_
  have inStart := no_hyphen (spells_spelled firstLetter letters startSpelled).2
  have inLast := no_hyphen (spells_spelled rfl (List.all_eq_true.mp rfl) lastSpelled).2
  obtain ⟨early, late, middleEq, _, rfl⟩ := hyphen_between inStart inLast parts
  obtain ⟨_, key, ⟨k, same, rfl⟩, _, rfl⟩ := lastSpelled
  have short : late = [] := by
    rcases middleSpelled with ⟨c, _, rfl⟩ | rfl
    · cases early with
      | nil => exact (List.cons.inj middleEq).2.symm
      | cons d early => simp at middleEq
    · simp at middleEq
  exact ⟨k, key, by rw [short]; rfl, beq_iff_eq.mp same⟩

theorem hyphen_in_key {key : List Char} (spelled_ : Spells secretKey key)
    (parts : key = front ++ '-' :: back) : ∃ c later, back = c :: later ∧ foldCase c = 'k' := by
  obtain ⟨start, _, startSpelled, ⟨word, last, wordSpelled, lastSpelled, rfl⟩, rfl⟩ := spelled_
  have inStart : '-' ∉ start := by
    rcases startSpelled with ⟨run, _, all, ⟨c, under, rfl⟩, rfl⟩ | rfl
    · obtain rfl := beq_iff_eq.mp under
      refine no_hyphen fun d member => ?_
      exact (List.mem_append.mp member).elim (all d) fun inLast => List.mem_singleton.mp inLast ▸ rfl
    · exact List.not_mem_nil
  have inLast : '-' ∉ last := by
    rcases lastSpelled with ⟨_, run, ⟨c, under, rfl⟩, all, rfl⟩ | rfl
    · obtain rfl := beq_iff_eq.mp under
      exact no_hyphen (List.forall_mem_cons.mpr ⟨rfl, all⟩)
    · exact List.not_mem_nil
  obtain ⟨early, late, wordEq, _, rfl⟩ := hyphen_between inStart inLast parts
  have plain {first : Char} {rest : List Char} (letter_ : first.isAlphanum = true)
      (letters : ∀ d ∈ rest, d.isAlphanum = true) (spelled_ : Spells (spelled first rest) word) : False :=
    no_hyphen (spells_spelled letter_ letters spelled_).2 (wordEq ▸ by simp)
  have keys {first : Char} {rest : List Char} (letter_ : first.isAlphanum = true)
      (letters : ∀ d ∈ rest, d.isAlphanum = true) (spelled_ : Spells (keyed first rest) word) :
      ∃ c later, late ++ last = c :: later ∧ foldCase c = 'k' := by
    obtain ⟨c, later, rfl, same⟩ := hyphen_in_keyed letter_ letters spelled_ wordEq
    exact ⟨c, later ++ last, rfl, same⟩
  rcases wordSpelled with password | passwd | token | secret | apiKey | accessKey | privateKey |
    credential | authorization | auth
  · exact (plain rfl (List.all_eq_true.mp rfl) password).elim
  · exact (plain rfl (List.all_eq_true.mp rfl) passwd).elim
  · exact (plain rfl (List.all_eq_true.mp rfl) token).elim
  · exact (plain rfl (List.all_eq_true.mp rfl) secret).elim
  · exact keys rfl (List.all_eq_true.mp rfl) apiKey
  · exact keys rfl (List.all_eq_true.mp rfl) accessKey
  · exact keys rfl (List.all_eq_true.mp rfl) privateKey
  · exact (plain rfl (List.all_eq_true.mp rfl) credential).elim
  · exact (plain rfl (List.all_eq_true.mp rfl) authorization).elim
  · exact (plain rfl (List.all_eq_true.mp rfl) auth).elim

theorem isKeyChar_of_isBearerLetter {c : Char} (letter_ : isBearerLetter c = true) :
    isKeyChar c = true := by
  have letters : ∀ d ∈ "bear".toList, d.isAlphanum = true := List.all_eq_true.mp rfl
  rw [isKeyChar, isFoldedAlnum, letters _ (List.contains_iff_mem.mp letter_)]
  rfl

structure Word (words : WordClass) (before : Option Char) (bearer gap : List Char) : Prop where
  spelled : Spells (spelled 'b' "earer".toList) bearer
  edge : before.any words.isWord = false
  nonempty : gap ≠ []
  spaces : ∀ c ∈ gap, isSpace c = true

variable {gap : List Char}

theorem Word.head (word : Word words before bearer gap) :
    ∃ b rest, bearer = b :: rest ∧ foldCase b = 'b' := by
  obtain ⟨_, rest, ⟨b, same, rfl⟩, _, rfl⟩ := word.spelled
  exact ⟨b, rest, rfl, beq_iff_eq.mp same⟩

variable {late : List Char}

theorem not_key {early : List Char}
    (word : Word words (lastOf before front) bearer gap) (whole : early ++ late = front ++ bearer)
    (boundary : AtBoundary words.isWord ⟨lastOf before early, late ++ rest, []⟩) :
    ¬ Spells secretKey late := by
  intro key
  have letters := bearer_letters word.spelled
  obtain ⟨c, more, rfl, keyChar⟩ := (keyText_secretKey key).head
  rcases List.append_eq_append_iff.mp whole with ⟨more', frontEq, lateEq⟩ | ⟨more', earlyEq, bearerEq⟩
  · -- the key begins before the word, or with it
    rcases List.eq_nil_or_concat more' with rfl | ⟨most, last, rfl⟩
    · rw [List.nil_append] at lateEq
      obtain ⟨start, _, _, ⟨secret, tail, secretSpelled, _, rfl⟩, parts⟩ := key
      obtain ⟨d, member, other⟩ := exists_other_letter secretSpelled
      rw [letters d (by rw [← lateEq, parts]; simp [member])] at other
      cases other
    · have edge := word.edge
      rw [frontEq, List.concat_eq_append, lastOf_append, lastOf_append] at edge
      have lastText : isKeyLike last = true := (keyText_secretKey key).all last (by rw [lateEq]; simp)
      rcases (isKeyLike_iff last).mp lastText with lastKey | hyphen
      · rw [lastOf_cons, lastOf_nil, Option.any_some, isWord_of_isKeyChar words lastKey] at edge
        cases edge
      · have same : last = '-' := (eq_char_iff _ _).mpr hyphen
        have parts : c :: more = most ++ '-' :: bearer := by
          rw [lateEq, same]
          simp
        obtain ⟨d, later, bearerEq, k⟩ := hyphen_in_key key parts
        obtain ⟨b, rest, rfl, fold⟩ := word.head
        obtain ⟨rfl, _⟩ := List.cons.inj bearerEq
        rw [k] at fold
        revert fold
        decide
  · -- the key begins inside the word
    rcases List.eq_nil_or_concat more' with rfl | ⟨most, last, rfl⟩
    · rw [List.nil_append] at bearerEq
      obtain ⟨start, _, _, ⟨secret, tail, secretSpelled, _, rfl⟩, parts⟩ := key
      obtain ⟨d, member, other⟩ := exists_other_letter secretSpelled
      rw [letters d (by rw [bearerEq, parts]; simp [member])] at other
      cases other
    · rw [List.cons_append, atBoundary_iff (isWord_of_isKeyChar words keyChar), earlyEq,
        List.concat_eq_append, lastOf_append, lastOf_append, lastOf_cons, lastOf_nil, Option.any_some,
        isWord_of_isKeyChar words (isKeyChar_of_isBearerLetter (letters last (by rw [bearerEq]; simp)))]
        at boundary
      cases boundary

theorem unmatched_run {early : List Char}
    (word : Word words (lastOf before front) bearer gap) (whole : early ++ late = front ++ bearer)
    (run : ∀ c ∈ late, isTokenChar c = true) :
    matchAt words.isWord secretAssignment (lastOf before early) (late ++ (gap ++ rest)) = none := by
  refine Option.eq_none_iff_forall_ne_some.mpr fun next found => ?_
  obtain ⟨key, gap', sign, blank, quote, tail, assignment, _⟩ := assignment_of_match found
  have keyTokens : ∀ c ∈ key, isTokenChar c = true := fun c member =>
    isTokenChar_of_isKeyLike ((keyText_secretKey assignment.spelled).all c member)
  obtain ⟨space, gap, rfl⟩ := List.exists_cons_of_ne_nil word.nonempty
  have spaceTest := isTokenChar_of_isSpace (word.spaces space List.mem_cons_self)
  have same : key = late := by
    cases gap' with
    | nil =>
        exact (cut_unique run keyTokens spaceTest (isTokenChar_of_isAssign assignment.signTest)
          assignment.parts).1.symm
    | cons other gap' =>
        exact (cut_unique run keyTokens spaceTest
          (isTokenChar_of_isSpace (assignment.gapSpaces other List.mem_cons_self)) assignment.parts).1.symm
  exact not_key word whole assignment.boundary (same ▸ assignment.spelled)

theorem firstPass_run {front early late bearer gap rest : List Char}
    (word : Word words (lastOf before front) bearer gap) (whole : early ++ late = front ++ bearer)
    (run : ∀ c ∈ late, isTokenChar c = true) {first second : List Char} (parts : late = first ++ second) :
    PassTo words.isWord secretAssignment redactAssignment (lastOf before early) first
      (second ++ (gap ++ rest)) first := by
  refine passTo_self fun front' c back split => ?_
  have found : matchAt words.isWord secretAssignment (lastOf before (early ++ front'))
      ((c :: back ++ second) ++ (gap ++ rest)) = none :=
    unmatched_run word (by rw [← whole, parts, split]; simp) (fun d member => run d (by rw [parts, split]; simp only [List.mem_append] at member ⊢; tauto))
  rwa [lastOf_append, List.append_assoc] at found

theorem firstPass_behind {out : List Char} (word : Word words (lastOf before front) bearer gap)
    (pass : PassTo words.isWord secretAssignment redactAssignment before
      ((front ++ bearer) ++ (gap ++ rest)) [] out) :
    ∃ early late, out = early ++ (gap ++ late) ∧
      PassTo words.isWord secretAssignment redactAssignment before (front ++ bearer) (gap ++ rest) early ∧
      PassTo words.isWord secretAssignment redactAssignment
        (lastOf (lastOf before (front ++ bearer)) gap) rest [] late := by
  rcases pass.split (consumes_assignment words) with ⟨early, back, rfl, before_, behind⟩ |
    ⟨early, late, more, left, next, _, _, parts, some_, onward, crosses, _, found, within, _⟩
  · obtain ⟨late, rfl, onward⟩ :=
      passTo_spaces (fun _ _ _ other => marks_assignment.unmatched other) word.spaces behind
    rw [List.append_nil] at before_
    exact ⟨early, late, rfl, before_, onward⟩
  · exfalso
    obtain ⟨key, gap', sign, blank, quote, tail, assignment, _, rest_, _⟩ := assignment_of_match found
    have keyAll := (keyText_secretKey assignment.spelled).all
    obtain ⟨space, gap, rfl⟩ := List.exists_cons_of_ne_nil word.nonempty
    have spaceTest := word.spaces space List.mem_cons_self
    obtain ⟨c, more, rfl⟩ := List.exists_cons_of_ne_nil crosses
    obtain ⟨rfl, _⟩ := List.cons.inj onward
    -- what the match takes
    have taken : late ++ space :: more =
        key ++ ((gap' ++ sign :: (blank ++ quote)) ++ tail.takeWhile isSecretChar) := by
      have text := assignment.parts
      rw [onward, ← List.takeWhile_append_dropWhile (p := isSecretChar) (l := tail), ← rest_, within] at text
      refine @List.append_cancel_right _ _ left _ ?_
      simpa using text
    obtain ⟨most, last, rfl⟩ : ∃ most last, late = most ++ [last] := by
      rcases List.eq_nil_or_concat late with rfl | ⟨most, last, rfl⟩
      · exact absurd rfl some_
      · exact ⟨most, last, List.concat_eq_append⟩
    have lastKey : isKeyLike last = true := by
      obtain ⟨b, rest, rfl, _⟩ := word.head
      obtain ⟨others, r, shape⟩ : ∃ others r, b :: rest = others ++ [r] :=
        ⟨_, _, (List.dropLast_append_getLast (List.cons_ne_nil b rest)).symm⟩
      have letter_ := bearer_letters word.spelled r (by rw [shape]; simp)
      rw [shape, ← List.append_assoc, ← List.append_assoc] at parts
      obtain ⟨_, same⟩ := List.append_inj' parts rfl
      obtain rfl := (List.cons.inj same).1
      exact isKeyLike_of_isKeyChar (isKeyChar_of_isBearerLetter letter_)
    have same : key = most ++ [last] := by
      rcases List.append_eq_append_iff.mp taken with ⟨extra, keyEq, spaceEq⟩ | ⟨extra, lateEq, middleEq⟩
      · cases extra with
        | nil => rw [keyEq, List.append_nil]
        | cons d extra =>
            obtain ⟨rfl, _⟩ := List.cons.inj spaceEq
            have key' := keyAll space (by rw [keyEq]; simp)
            rw [isKeyLike_of_isSpace spaceTest] at key'
            cases key'
      · rcases List.eq_nil_or_concat extra with rfl | ⟨others, d, rfl⟩
        · rw [lateEq, List.append_nil]
        · exfalso
          rw [List.concat_eq_append] at lateEq middleEq
          rw [← List.append_assoc] at lateEq
          obtain ⟨_, last'⟩ := List.append_inj' lateEq rfl
          obtain rfl := (List.cons.inj last').1
          rcases List.append_eq_append_iff.mp middleEq with ⟨_, _, valueEq⟩ | ⟨_, covered, _⟩
          · have inValue : space ∈ tail.takeWhile isSecretChar := by
              rw [valueEq]
              simp
            have secret := List.mem_takeWhile_imp inValue
            rw [isSecretChar_of_isSpace spaceTest] at secret
            cases secret
          · have plain := assignment.middle last (by rw [covered]; simp)
            rw [lastKey] at plain
            cases plain
    exact not_key word parts.symm assignment.boundary (same ▸ assignment.spelled)

theorem firstPass_word {out : List Char} (word : Word words (lastOf before front) bearer gap)
    (pass : PassTo words.isWord secretAssignment redactAssignment before (front ++ bearer)
      (gap ++ rest) out) :
    (∃ early, out = early ++ bearer ∧ PassTo words.isWord secretAssignment redactAssignment before front
      (bearer ++ (gap ++ rest)) early) ∨
    (¬ Scans words.isWord secretAssignment before front (bearer ++ (gap ++ rest)) ∧
      ∃ early, out = early ++ contentRedactedPlaceholder) := by
  have letters := bearer_letters word.spelled
  rcases pass.split (consumes_assignment words) with ⟨early, back, rfl, before_, behind⟩ |
    ⟨early, late, more, left, next, front', back, rfl, some_, onward, crosses, reached, found, within,
      rfl, behind⟩
  · have run : ∀ c ∈ bearer, isTokenChar c = true := fun c member =>
      isTokenChar_of_isKeyChar (isKeyChar_of_isBearerLetter (letters c member))
    have keeps : PassTo words.isWord secretAssignment redactAssignment (lastOf before front) bearer
        ([] ++ (gap ++ rest)) bearer := firstPass_run word rfl run (List.append_nil bearer).symm
    obtain rfl := behind.unique keeps
    exact .inl ⟨early, rfl, before_⟩
  · obtain ⟨key, gap', sign, blank, quote, tail, assignment, groups, rest_, _⟩ := assignment_of_match found
    -- a value goes on to the end of the word
    have nothing : left = [] := by
      cases left with
      | nil => rfl
      | cons c left =>
          have secret := isSecretChar_of_isKeyLike (isKeyLike_of_isKeyChar (isKeyChar_of_isBearerLetter
            (letters c (by rw [onward]; simp))))
          have stops := @head?_dropWhile isSecretChar tail c (by rw [← rest_, within]; rfl)
          rw [secret] at stops
          cases stops
    subst nothing
    cases behind
    refine .inr ⟨not_scans_of_match some_ reached.scans found ?_,
      front' ++ (key ++ (sign :: quote)), ?_⟩
    · rw [within, List.nil_append, List.length_append, onward]
      have positive := List.length_pos_iff.mpr crosses
      simp only [List.append_nil, List.length_append]
      omega
    · rw [groups]
      simp [redactAssignment]

structure Swallows (words : WordClass) (before : Option Char) (text bearer gap run equals rest : List Char) :
    Prop where
  at_ : Bearer words before text bearer gap (run ++ (equals ++ rest))
  runTest : ∀ c ∈ run, isTokenChar c = true
  equalsTest : ∀ c ∈ equals, c = '='
  stops : ∀ c ∈ (equals ++ rest).head?, isTokenChar c = false

theorem swallows_of_match {text : List Char} {next : Cursor}
    (found : matchAt words.isWord bearerToken before text = some next) :
    ∃ bearer gap run equals, Swallows words before text bearer gap run equals next.rest ∧
      redactBearer next.groups = bearer ++ ' ' :: contentRedactedPlaceholder := by
  obtain ⟨_, _, _, _, _, _, _, ends⟩ := bearer_of_match found
  obtain ⟨reached, reaches, same⟩ := matchThen_sound found
  cases same
  obtain ⟨start, ⟨boundary, rfl⟩, afterBearer, bearerReached, afterSpaces, spacesReached, tokenReached⟩ :=
    reaches
  obtain ⟨bearer, spelled_, bearerText, _, bearerGroups⟩ :=
    (reaches_group_iff (plain_spelled 'b' "earer".toList)).mp bearerReached
  obtain ⟨_, ⟨_, spaces, ⟨space, spaceTest, rfl⟩, spacesTest, rfl⟩, spacesOver⟩ :=
    (reaches_iff (plain_plus isSpace)).mp spacesReached
  obtain ⟨_, ⟨_, equals, ⟨_, more, ⟨v, vTest, rfl⟩, moreTest, rfl⟩, equalsTest, rfl⟩, tokenText,
    tokenBefore, tokenGroups⟩ :=
      (reaches_group_iff (plain_seq_star (plain_plus isTokenChar))).mp tokenReached
  have run : ∀ c ∈ [v] ++ more, isTokenChar c = true := List.forall_mem_cons.mpr ⟨vTest, moreTest⟩
  have equal (c : Char) (member : c ∈ equals) : c = '=' := beq_iff_eq.mp (equalsTest c member)
  refine ⟨bearer, [space] ++ spaces, [v] ++ more, equals, ⟨⟨?_, boundary, spelled_, by simp,
    List.forall_mem_cons.mpr ⟨spaceTest, spacesTest⟩, ⟨v, _, vTest, rfl⟩⟩, run, equal, ?_⟩, ?_⟩
  · rw [← List.append_assoc ([v] ++ more), ← tokenText, ← spacesOver.text, ← bearerText]
  · cases equals with
    | cons c equals =>
        rintro _ ⟨⟩
        rw [equal c List.mem_cons_self]
        decide
    | nil =>
        refine ends.resolve_left fun last => ?_
        obtain ⟨c, member, lastEq⟩ := lastOf_mem afterSpaces.before (List.cons_ne_nil v more)
        rw [List.append_nil, List.singleton_append, lastEq, last] at tokenBefore
        obtain rfl := Option.some.inj tokenBefore
        have token := run '=' member
        revert token
        decide
  · rw [tokenGroups, spacesOver.groups, bearerGroups]
    rfl

theorem run_unique {test : Char → Bool} {first second rest later : List Char}
    (firstAll : ∀ c ∈ first, test c = true) (secondAll : ∀ c ∈ second, test c = true)
    (firstStop : ∀ c ∈ rest.head?, test c = false) (secondStop : ∀ c ∈ later.head?, test c = false)
    (same : first ++ rest = second ++ later) : first = second ∧ rest = later := by
  have cut {run tail : List Char} (all : ∀ c ∈ run, test c = true)
      (stop : ∀ c ∈ tail.head?, test c = false) : (run ++ tail).takeWhile test = run := by
    rw [List.takeWhile_append_of_pos all]
    cases tail with
    | nil => simp
    | cons c tail => rw [List.takeWhile_cons_of_neg (by simp [stop c rfl]), List.append_nil]
  have runs : first = second := by
    rw [← cut firstAll firstStop, same, cut secondAll secondStop]
  exact ⟨runs, List.append_cancel_left (runs ▸ same)⟩

theorem Swallows.at_word {run bearer' gap' run' equals left : List Char}
    (word : Word words before bearer gap) (runTest : ∀ c ∈ run, isTokenChar c = true)
    (some_ : run ≠ []) (stops : ∀ c ∈ rest.head?, isTokenChar c = false)
    (swallows : Swallows words before (bearer ++ (gap ++ (run ++ rest))) bearer' gap' run' equals left) :
    bearer' = bearer ∧ gap' = gap ∧ run' = run ∧ rest = equals ++ left := by
  have letters : ∀ c ∈ bearer, isKeyLike c = true := fun c member =>
    isKeyLike_of_isKeyChar (isKeyChar_of_isBearerLetter (bearer_letters word.spelled c member))
  have spaceStop {gap tail : List Char} (nonempty : gap ≠ []) (spaces : ∀ c ∈ gap, isSpace c = true) :
      ∀ c ∈ (gap ++ tail).head?, isKeyLike c = false := by
    obtain ⟨space, gap, rfl⟩ := List.exists_cons_of_ne_nil nonempty
    rintro _ ⟨⟩
    exact isKeyLike_of_isSpace (spaces space List.mem_cons_self)
  obtain ⟨rfl, behind⟩ := run_unique letters swallows.at_.keyText.all
    (spaceStop word.nonempty word.spaces) (spaceStop swallows.at_.nonempty swallows.at_.spacesTest)
    swallows.at_.parts
  have visible {c : Char} (token : isTokenChar c = true) : isSpace c = false := by
    rw [Bool.eq_false_iff]
    intro space
    rw [isTokenChar_of_isSpace space] at token
    cases token
  obtain ⟨rfl, tails⟩ := @run_unique isSpace gap gap' (run ++ rest) _ word.spaces swallows.at_.spacesTest (by
      obtain ⟨c, run, rfl⟩ := List.exists_cons_of_ne_nil some_
      rintro _ ⟨⟩
      exact visible (runTest c List.mem_cons_self)) (by
      obtain ⟨v, rest', test, tail⟩ := swallows.at_.token
      rw [tail]
      rintro _ ⟨⟩
      exact visible test) behind
  obtain ⟨rfl, left⟩ := run_unique runTest swallows.runTest stops swallows.stops tails
  exact ⟨rfl, rfl, rfl, left⟩

theorem Swallows.over_word {more bearer' gap' run equals left : List Char}
    (word : Word words (lastOf before late) bearer gap) (some_ : late ≠ [])
    (onward : bearer ++ (gap ++ rest) = more ++ left) (crosses : more ≠ [])
    (swallows : Swallows words before (late ++ (bearer ++ (gap ++ rest))) bearer' gap' run equals left) :
    ∃ x, late = bearer' ++ (gap' ++ x) ∧ (∀ c ∈ x, isTokenChar c = true) ∧ left = gap ++ rest := by
  obtain ⟨b, others, bearerEq, _⟩ := word.head
  have letters := bearer_letters word.spelled
  have key (c : Char) (member : c ∈ bearer) : isKeyLike c = true :=
    isKeyLike_of_isKeyChar (isKeyChar_of_isBearerLetter (letters c member))
  have bKey : isKeyLike b = true := key b (bearerEq ▸ List.mem_cons_self)
  obtain ⟨m, more, rfl⟩ := List.exists_cons_of_ne_nil crosses
  obtain rfl : m = b := by
    rw [bearerEq] at onward
    exact (List.cons.inj onward).1.symm
  have taken : late ++ m :: more = bearer' ++ (gap' ++ (run ++ equals)) := by
    have parts := swallows.at_.parts
    rw [onward] at parts
    refine @List.append_cancel_right _ _ left _ ?_
    simpa using parts
  have token (c : Char) (member : c ∈ bearer) : isTokenChar c = true := isTokenChar_of_isKeyLike (key c member)
  -- the word before it ends before the place
  have behind : ∃ l, late = bearer' ++ l ∧ gap' ++ (run ++ equals) = l ++ m :: more := by
    rcases List.append_eq_append_iff.mp taken with ⟨extra, covered, _⟩ | behind
    · obtain ⟨c, member, last⟩ := lastOf_mem before some_
      have edge := word.edge
      have letter_ := bearer_letters swallows.at_.spelled c (by rw [covered]; simp [member])
      rw [last, Option.any_some, isWord_of_isKeyChar words (isKeyChar_of_isBearerLetter letter_)] at edge
      cases edge
    · exact behind
  obtain ⟨l, rfl, middle⟩ := behind
  have inRun : ∃ x, l = gap' ++ x ∧ run ++ equals = x ++ m :: more := by
    rcases List.append_eq_append_iff.mp middle with inRun | ⟨extra, gapEq, spaceEq⟩
    · exact inRun
    · cases extra with
      | nil => exact ⟨[], by rw [gapEq, List.append_nil, List.append_nil], spaceEq.symm⟩
      | cons c extra =>
          obtain ⟨rfl, _⟩ := List.cons.inj spaceEq
          rw [isKeyLike_of_isSpace (swallows.at_.spacesTest m (by rw [gapEq]; simp))] at bKey
          cases bKey
  obtain ⟨x, rfl, tokens_⟩ := inRun
  have xTest : ∀ c ∈ x, isTokenChar c = true := by
    rcases List.append_eq_append_iff.mp tokens_ with ⟨extra, _, equalsEq⟩ | ⟨extra, runEq, _⟩
    · rw [swallows.equalsTest m (by rw [equalsEq]; simp), show isKeyLike '=' = false by decide] at bKey
      cases bKey
    · intro c member
      exact swallows.runTest c (by rw [runEq]; simp [member])
  have joined : ∀ c ∈ x ++ bearer, isTokenChar c = true := fun c member =>
    (List.mem_append.mp member).elim (xTest c) (token c)
  obtain ⟨space, gap, rfl⟩ := List.exists_cons_of_ne_nil word.nonempty
  have spaceTest := word.spaces space List.mem_cons_self
  have whole : run ++ (equals ++ left) = (x ++ bearer) ++ (space :: gap ++ rest) := by
    have parts := swallows.at_.parts
    simpa using parts.symm
  obtain ⟨_, rests⟩ := run_unique swallows.runTest joined swallows.stops (by
    rintro _ ⟨⟩
    exact isTokenChar_of_isSpace spaceTest) whole
  refine ⟨x, rfl, xTest, ?_⟩
  cases equals with
  | nil => exact rests
  | cons c equals =>
      obtain ⟨rfl, _⟩ := List.cons.inj rests
      rw [swallows.equalsTest c List.mem_cons_self, show isSpace '=' = false by decide] at spaceTest
      cases spaceTest

end Words

section Rows

variable {words : WordClass}

/-- The word before, which stands in no value and has the text up to `ahead` for its token. -/
structure Link (words : WordClass) (front bearer gap run ahead : List Char) : Prop where
  word : Bearer words (lastOf none front) (bearer ++ (gap ++ (run ++ ahead))) bearer gap (run ++ ahead)
  runTest : ∀ c ∈ run, isTokenChar c = true
  free : Scans words.isWord secretAssignment none front (bearer ++ (gap ++ (run ++ ahead)))

/-- So many words stand in a row before `ahead`, each in the token of the one before. -/
inductive InRow (words : WordClass) : Nat → List Char → List Char → Prop where
  | first {front ahead : List Char}
      (none_ : ∀ early bearer gap run, front = early ++ (bearer ++ (gap ++ run)) →
        ¬ Link words early bearer gap run ahead) : InRow words 0 front ahead
  | next {count : Nat} {front bearer gap run ahead : List Char}
      (link : Link words front bearer gap run ahead)
      (earlier : InRow words count front (bearer ++ (gap ++ (run ++ ahead)))) :
      InRow words (count + 1) (front ++ (bearer ++ (gap ++ run))) ahead

theorem exists_inRow (words : WordClass) (front ahead : List Char) :
    ∃ count, InRow words count front ahead := by
  induction length : front.length using Nat.strong_induction_on generalizing front ahead with
  | h n ih =>
      by_cases linked : ∃ early bearer gap run, front = early ++ (bearer ++ (gap ++ run)) ∧
          Link words early bearer gap run ahead
      · obtain ⟨early, bearer, gap, run, rfl, link⟩ := linked
        have shorter : early.length < n := by
          obtain ⟨space, gap, rfl⟩ := List.exists_cons_of_ne_nil link.word.nonempty
          rw [← length]
          simp only [List.length_append, List.length_cons]
          omega
        obtain ⟨count, row⟩ := ih _ shorter early (bearer ++ (gap ++ (run ++ ahead))) rfl
        exact ⟨count + 1, .next link row⟩
      · refine ⟨0, .first fun early bearer gap run parts link => ?_⟩
        exact linked ⟨early, bearer, gap, run, parts, link⟩

theorem ends_redactAssignment (groups : List (List Char)) :
    ∃ most, redactAssignment groups = most ++ ['>'] := by
  have placeholder : contentRedactedPlaceholder = ('<' :: redactedWord) ++ ['>'] := rfl
  rcases groups with _ | ⟨key, _ | ⟨sign, _ | ⟨quote, rest⟩⟩⟩
  · exact ⟨_, placeholder⟩
  · exact ⟨_, placeholder⟩
  · exact ⟨_, placeholder⟩
  · exact ⟨key ++ (sign ++ (quote ++ '<' :: redactedWord)), by simp [redactAssignment, placeholder]⟩

variable {before : Option Char}

theorem lastOf_firstPass {first ahead out : List Char}
    (pass : PassTo words.isWord secretAssignment redactAssignment before first ahead out)
    (secret : ∀ c ∈ ahead.head?, isSecretChar c = true) (some_ : ahead ≠ []) :
    lastOf before out = lastOf before first := by
  induction pass with
  | done => rfl
  | keep _ _ ih => exact ih secret some_
  | @swap before c rest left ahead out next found within later ih =>
      obtain ⟨key, gap, sign, blank, quote, tail, assignment, _, rest_, _⟩ := assignment_of_match found
      obtain ⟨word, text, last⟩ := matchAt_over found
      rw [within, ← List.append_assoc, ← List.cons_append, List.append_cancel_right_eq] at text
      have onward := ih secret some_
      cases left with
      | nil =>
          obtain ⟨a, ahead, rfl⟩ := List.exists_cons_of_ne_nil some_
          have stops := @head?_dropWhile isSecretChar tail a (by rw [← rest_, within]; rfl)
          rw [secret a rfl] at stops
          cases stops
      | cons d left =>
          have nonempty : out ≠ [] := by
            cases later with
            | keep => exact List.cons_ne_nil _ _
            | @swap _ _ _ _ _ _ next =>
                obtain ⟨most, replaced⟩ := ends_redactAssignment next.groups
                rw [replaced]
                simp
          rw [lastOf_append, lastOf_congr _ next.before nonempty, onward, text, lastOf_append, ← last]

variable {bearer gap : List Char}

theorem Word.isTokenChar (word : Word words before bearer gap) :
    ∀ c ∈ bearer, isTokenChar c = true := fun c member =>
  isTokenChar_of_isKeyChar (isKeyChar_of_isBearerLetter (bearer_letters word.spelled c member))

theorem Word.stops (word : Word words before bearer gap) (rest : List Char) :
    ∀ c ∈ (gap ++ rest).head?, Runtime.isTokenChar c = false := by
  obtain ⟨space, gap, rfl⟩ := List.exists_cons_of_ne_nil word.nonempty
  rintro _ ⟨⟩
  exact isTokenChar_of_isSpace (word.spaces space List.mem_cons_self)

variable {rest : List Char}

theorem unmatched_before_word {late : List Char}
    (word : Word words (lastOf before late) bearer gap) (some_ : late ≠ [])
    (run : ∀ c ∈ late, isTokenChar c = true) :
    matchAt words.isWord bearerToken before (late ++ (bearer ++ (gap ++ rest))) = none := by
  refine Option.eq_none_iff_forall_ne_some.mpr fun next found => ?_
  obtain ⟨bearer', gap', _, _, swallows, _⟩ := swallows_of_match found
  have joined : ∀ c ∈ late ++ bearer, Runtime.isTokenChar c = true := fun c member =>
    (List.mem_append.mp member).elim (run c) (word.isTokenChar c)
  have letters := bearer_letters swallows.at_.spelled
  obtain ⟨space, gap', rfl⟩ := List.exists_cons_of_ne_nil swallows.at_.nonempty
  obtain ⟨same, _⟩ := run_unique joined
    (fun c member => isTokenChar_of_isKeyChar (isKeyChar_of_isBearerLetter (letters c member)))
    (word.stops rest) (by
      rintro _ ⟨⟩
      exact isTokenChar_of_isSpace (swallows.at_.spacesTest space List.mem_cons_self))
    ((List.append_assoc ..).trans swallows.at_.parts)
  obtain ⟨c, member, last⟩ := lastOf_mem before some_
  have edge := word.edge
  rw [last, Option.any_some, isWord_of_isKeyChar words (isKeyChar_of_isBearerLetter
    (letters c (by rw [← same]; simp [member])))] at edge
  cases edge

theorem Bearer.place {before : Option Char} {text tail : List Char}
    (bearer_ : Bearer words before text bearer gap tail) : Word words before bearer gap := by
  have boundary := bearer_.boundary
  obtain ⟨c, rest, begins, fold⟩ := bearer_.head
  rw [begins, atBoundary_iff (isWord_of_isKeyChar words (isKeyChar_of_fold fold))] at boundary
  exact ⟨bearer_.spelled, boundary, bearer_.nonempty, bearer_.spacesTest⟩

theorem Word.at_ {tail : List Char} (word : Word words before bearer gap)
    (token : ∃ v rest, Runtime.isTokenChar v = true ∧ tail = v :: rest) :
    Bearer words before (bearer ++ (gap ++ tail)) bearer gap tail := by
  refine ⟨rfl, ?_, word.spelled, word.nonempty, word.spaces, token⟩
  obtain ⟨b, others, rfl, fold⟩ := word.head
  exact (atBoundary_iff (isWord_of_isKeyChar words (isKeyChar_of_fold fold))).mpr word.edge

theorem Word.secret (word : Word words before bearer gap) (rest : List Char) :
    (∀ c ∈ (bearer ++ rest).head?, isSecretChar c = true) ∧ bearer ++ rest ≠ [] := by
  obtain ⟨b, others, begins, _⟩ := word.head
  have token := word.isTokenChar b (begins ▸ List.mem_cons_self)
  rw [begins]
  refine ⟨?_, List.cons_ne_nil _ _⟩
  rintro _ ⟨⟩
  exact isSecretChar_of_isTokenChar token

theorem firstPass_link {front run bearer' gap' : List Char}
    (link : Link words front bearer gap run (bearer' ++ (gap' ++ rest)))
    (word : Word words (lastOf none (front ++ (bearer ++ (gap ++ run)))) bearer' gap') :
    PassTo words.isWord secretAssignment redactAssignment (lastOf none front) (bearer ++ (gap ++ run))
      (bearer' ++ (gap' ++ rest)) (bearer ++ (gap ++ run)) := by
  have onBearer : PassTo words.isWord secretAssignment redactAssignment (lastOf none front) bearer
      ([] ++ (gap ++ (run ++ (bearer' ++ (gap' ++ rest))))) bearer :=
    firstPass_run link.word.place rfl link.word.place.isTokenChar (List.append_nil bearer).symm
  have onRun := @firstPass_run words none (front ++ (bearer ++ (gap ++ run)))
    (front ++ (bearer ++ gap)) (run ++ bearer') bearer' gap' rest word (by simp) (fun c member =>
      (List.mem_append.mp member).elim (link.runTest c) (word.isTokenChar c)) run bearer' rfl
  have onGap : PassTo words.isWord secretAssignment redactAssignment (lastOf (lastOf none front) bearer)
      gap (run ++ (bearer' ++ (gap' ++ rest))) gap := by
    refine passTo_self fun front' c back parts => marks_assignment.unmatched (isTokenChar_of_isSpace ?_)
    exact link.word.place.spaces c (parts ▸ by simp)
  refine .append (by rwa [List.append_assoc]) (onGap.append ?_)
  rwa [lastOf_append, lastOf_append] at onRun

theorem secondPass_link {run bearer' gap' : List Char}
    (spaces : ∀ c ∈ gap, isSpace c = true) (runTest : ∀ c ∈ run, isTokenChar c = true)
    (word : Word words (lastOf before (gap ++ run)) bearer' gap') :
    PassTo words.isWord bearerToken redactBearer before (gap ++ run) (bearer' ++ (gap' ++ rest))
      (gap ++ run) := by
  refine .append (passTo_self fun front' c back parts => ?_) (passTo_self fun front' c back parts => ?_)
  · exact marks_bearer.unmatched (isTokenChar_of_isSpace (spaces c (parts ▸ by simp)))
  · have onward : Word words (lastOf (lastOf (lastOf before gap) front') (c :: back)) bearer' gap' := by
      rw [← lastOf_append, ← lastOf_append, ← parts]
      exact word
    exact unmatched_before_word onward (List.cons_ne_nil c back)
      fun d member => runTest d (parts ▸ List.mem_append_right _ member)

theorem passTo_swallowed {late : List Char} {next : Cursor} (some_ : late ≠ [])
    (found : matchAt words.isWord bearerToken before (late ++ (bearer ++ (gap ++ rest))) = some next)
    (left : next.rest = gap ++ rest) :
    PassTo words.isWord bearerToken redactBearer before (late ++ bearer) (gap ++ rest)
      (redactBearer next.groups) := by
  obtain ⟨c, late, rfl⟩ := List.exists_cons_of_ne_nil some_
  rw [← List.append_nil (redactBearer next.groups)]
  refine PassTo.swap ?_ left (.done _ _)
  rwa [List.append_eq, List.append_assoc]

theorem scans_secondPass_iff {count : Nat} {front ahead out : List Char} (row : InRow words count front ahead)
    (pass : PassTo words.isWord secretAssignment redactAssignment none front ahead out) (onward : ahead = bearer ++ (gap ++ rest))
    (word : Word words (lastOf none front) bearer gap) (later : List Char) :
    Scans words.isWord bearerToken none out (bearer ++ (gap ++ later)) ↔ Even count := by
  induction row generalizing out bearer gap rest later with
  | @first front ahead none_ =>
      subst onward
      refine iff_of_true ?_ Even.zero
      have same := lastOf_firstPass pass (word.secret _).1 (word.secret _).2
      have whole := (pass_sub redactBearer (consumes_bearer words) (out ++ (bearer ++ (gap ++ later)))).toPlace
      rcases whole.split (consumes_bearer words) with ⟨_, _, _, reached, _⟩ |
        ⟨early, late, more, left, next, _, _, rfl, some_, taken, crosses, _, found, within, _⟩
      · have scans := reached.scans
        rwa [List.append_nil] at scans
      · exfalso
        obtain ⟨bearer', gap', run, equals, swallows, _⟩ := swallows_of_match found
        rw [List.append_nil] at swallows within
        rw [← same, lastOf_append] at word
        obtain ⟨x, rfl, xTest, -⟩ := swallows.over_word word some_ (within ▸ taken) crosses
        -- the first pass has kept what the match lies over
        have letters := bearer_letters swallows.at_.spelled
        have plain : '>' ∉ bearer' ++ (gap' ++ x) := by
          simp only [List.mem_append, not_or]
          exact ⟨fun member => absurd (letters '>' member) (by decide),
            fun member => absurd (swallows.at_.spacesTest '>' member) (by decide),
            fun member => absurd (xTest '>' member) (by decide)⟩
        obtain ⟨front, rfl, before_⟩ := pass.kept (consumes_assignment words) ends_redactAssignment plain
        have place := swallows.at_.place
        rw [List.append_assoc] at before_
        rw [lastOf_firstPass before_ (place.secret _).1 (place.secret _).2] at place
        have scans := before_.scans
        rw [List.append_assoc] at scans
        refine none_ front bearer' gap' x rfl ⟨place.at_ ?_, xTest, scans⟩
        cases x with
        | nil =>
            obtain ⟨b, others, begins, _⟩ := word.head
            exact ⟨b, _, word.isTokenChar b (begins ▸ List.mem_cons_self), by rw [begins]; rfl⟩
        | cons v x => exact ⟨v, _, xTest v List.mem_cons_self, rfl⟩
  | @next count front bearer' gap' run ahead link earlier ih =>
      subst onward
      obtain ⟨early, before_⟩ : ∃ early, PassTo words.isWord secretAssignment redactAssignment none front
          (bearer' ++ (gap' ++ (run ++ (bearer ++ (gap ++ rest))))) early := link.free.passTo
      have place := link.word.place
      have reached := ih before_ rfl place (run ++ (bearer ++ (gap ++ later)))
      have same := lastOf_firstPass before_ (place.secret _).1 (place.secret _).2
      have regroup (ahead : List Char) : bearer' ++ (gap' ++ (run ++ ahead)) =
          (bearer' ++ (gap' ++ run)) ++ ahead := by simp
      rw [regroup] at before_
      obtain rfl := pass.unique (before_.append (firstPass_link link word))
      rw [← same] at place
      have nonempty : bearer' ++ (gap' ++ run) ≠ [] := by
        obtain ⟨b, others, begins, _⟩ := place.head
        rw [begins]
        exact List.cons_ne_nil _ _
      have joined : ∀ c ∈ run ++ bearer, isTokenChar c = true := fun c member =>
        (List.mem_append.mp member).elim (link.runTest c) (word.isTokenChar c)
      have someRun : run ++ bearer ≠ [] := by
        obtain ⟨b, others, begins, _⟩ := word.head
        simp [begins]
      have inRun (later : List Char) : run ++ (bearer ++ later) = (run ++ bearer) ++ later :=
        (List.append_assoc ..).symm
      rw [Nat.even_add_one, ← reached]
      constructor
      · -- its word is the token of the one before
        intro scans reached'
        have token : ∃ v rest, isTokenChar v = true ∧ run ++ (bearer ++ (gap ++ later)) = v :: rest := by
          obtain ⟨v, others, begins⟩ := List.exists_cons_of_ne_nil someRun
          exact ⟨v, _, joined v (begins ▸ List.mem_cons_self), by rw [inRun, begins]; rfl⟩
        obtain ⟨next, found⟩ := Option.isSome_iff_exists.mp (match_of_bearer (place.at_ token))
        obtain ⟨_, _, _, equals, swallows, _⟩ := swallows_of_match found
        rw [inRun] at swallows
        obtain ⟨-, -, -, left⟩ := swallows.at_word place joined someRun (word.stops later)
        rw [regroup] at found reached'
        refine not_scans_of_match nonempty reached' found ?_ scans
        have length := congrArg List.length left
        obtain ⟨b, others, rfl, _⟩ := word.head
        simp only [List.length_append, List.length_cons] at length ⊢
        omega
      · intro crossed
        have whole := (pass_sub redactBearer (consumes_bearer words)
          (early ++ (bearer' ++ (gap' ++ (run ++ (bearer ++ (gap ++ later))))))).toPlace
        rcases whole.split (consumes_bearer words) with ⟨_, _, _, scanned, _⟩ |
          ⟨first, late, more, left, next, start, _, rfl, some_, taken, crosses, scanned, found, within, _⟩
        · rw [List.append_nil] at scanned
          exact absurd scanned.scans crossed
        · obtain ⟨_, _, _, _, swallows, _⟩ := swallows_of_match found
          rw [List.append_nil] at swallows within
          rw [lastOf_append] at place
          obtain ⟨_, -, -, leftEq⟩ := swallows.over_word place some_ (within ▸ taken) crosses
          rw [List.append_nil] at found scanned
          have behind := passTo_swallowed some_ found leftEq
          have onward : Word words (lastOf (lastOf (lastOf none first) (late ++ bearer')) (gap' ++ run))
              bearer gap := by
            have spaced : gap' ++ run ≠ [] := List.append_ne_nil_of_left_ne_nil place.nonempty _
            rw [lastOf_append, lastOf_append] at word
            rwa [lastOf_congr _ (lastOf (lastOf none front) bearer') spaced]
          rw [← List.append_assoc gap'] at behind
          have whole := behind.append (secondPass_link place.spaces link.runTest onward)
          have regroup' : late ++ (bearer' ++ (gap' ++ (run ++ (bearer ++ (gap ++ later))))) =
              (late ++ bearer' ++ (gap' ++ run)) ++ (bearer ++ (gap ++ later)) := by simp
          rw [regroup'] at scanned
          have scans := (scanned.append whole).scans
          have text : first ++ (late ++ bearer' ++ (gap' ++ run)) =
              (first ++ late) ++ (bearer' ++ (gap' ++ run)) := by simp
          rwa [text] at scans

end Rows

end Wlcodex.Runtime
