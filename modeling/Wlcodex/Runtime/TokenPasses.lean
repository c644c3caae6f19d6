import Mathlib.Data.List.Induction
import Wlcodex.Runtime.RedactionTwice

namespace Wlcodex.Runtime

open Wlcodex.Lib
open Wlcodex.Lib.Regex
open Wlcodex.Relay (isSpace)

/-! The tokens of a text under the passes of `redact_text_content`. -/

def tokens (text : List Char) : List (List Char) := text.splitOnP fun c => !isTokenChar c

section Tokens

variable {c : Char} {word front rest : List Char}

theorem tokens_append_cons (other : isTokenChar c = false) (front rest : List Char) :
    tokens (front ++ c :: rest) = tokens front ++ tokens rest :=
  List.splitOnP_append_cons front rest (by simp [other])

theorem tokens_of_forall (all : ∀ c ∈ word, isTokenChar c = true) : tokens word = [word] :=
  List.splitOnP_eq_singleton fun c member => by simp [all c member]

theorem tokens_word_cons (all : ∀ c ∈ word, isTokenChar c = true) (other : isTokenChar c = false)
    (rest : List Char) : tokens (word ++ c :: rest) = word :: tokens rest := by
  rw [tokens_append_cons other, tokens_of_forall all, List.singleton_append]

theorem tokens_cons (other : isTokenChar c = false) (rest : List Char) :
    tokens (c :: rest) = [] :: tokens rest :=
  @tokens_word_cons c [] (List.forall_mem_nil _) other rest

theorem exists_last_token (text : List Char) :
    (∀ c ∈ text, isTokenChar c = true) ∨ ∃ front c word, text = front ++ c :: word ∧
      isTokenChar c = false ∧ ∀ d ∈ word, isTokenChar d = true := by
  induction text with
  | nil => exact .inl (List.forall_mem_nil _)
  | cons c rest ih =>
      rcases ih with all | ⟨front, d, word, rfl, other, all⟩
      · cases test : isTokenChar c with
        | true => exact .inl (List.forall_mem_cons.mpr ⟨test, all⟩)
        | false => exact .inr ⟨[], c, rest, rfl, test, all⟩
      · exact .inr ⟨c :: front, d, word, rfl, other, all⟩

theorem exists_first_token (text : List Char) :
    (∀ c ∈ text, isTokenChar c = true) ∨ ∃ word c rest, text = word ++ c :: rest ∧
      isTokenChar c = false ∧ ∀ d ∈ word, isTokenChar d = true := by
  induction text with
  | nil => exact .inl (List.forall_mem_nil _)
  | cons c rest ih =>
      cases test : isTokenChar c with
      | false => exact .inr ⟨[], c, rest, rfl, test, List.forall_mem_nil _⟩
      | true =>
          rcases ih with all | ⟨word, d, rest, rfl, other, all⟩
          · exact .inl (List.forall_mem_cons.mpr ⟨test, all⟩)
          · exact .inr ⟨c :: word, d, rest, rfl, other, List.forall_mem_cons.mpr ⟨test, all⟩⟩

theorem infix_of_mem_tokens {text : List Char} (member : word ∈ tokens text) : word <:+: text := by
  induction length : text.length using Nat.strong_induction_on generalizing text with
  | h n ih =>
      rcases exists_first_token text with all | ⟨first, c, rest, rfl, other, all⟩
      · rw [tokens_of_forall all, List.mem_singleton] at member
        exact member ▸ List.infix_rfl
      · rw [tokens_word_cons all other] at member
        rcases List.mem_cons.mp member with rfl | later
        · exact ⟨[], c :: rest, rfl⟩
        · have shorter : rest.length < n := by
            rw [← length, List.length_append, List.length_cons]
            omega
          have inside : word <:+: rest := ih _ shorter later rfl
          exact inside.trans ((List.suffix_cons c rest).trans (List.suffix_append first _)).isInfix

theorem tokens_around (run : ∀ c ∈ word, isTokenChar c = true) (front rest : List Char) :
    ∃ early last first late, tokens front = early ++ [last] ∧ tokens rest = first :: late ∧
      tokens (front ++ (word ++ rest)) = early ++ (last ++ (word ++ first)) :: late := by
  have back : ∃ first late, tokens rest = first :: late ∧ ∀ head : List Char,
      (∀ c ∈ head, isTokenChar c = true) → tokens (head ++ rest) = (head ++ first) :: late := by
    rcases exists_first_token rest with all | ⟨first, c, more, rfl, other, all⟩
    · refine ⟨rest, [], tokens_of_forall all, fun head headAll => tokens_of_forall fun c member => ?_⟩
      exact (List.mem_append.mp member).elim (headAll c) (all c)
    · refine ⟨first, tokens more, tokens_word_cons all other more, fun head headAll => ?_⟩
      rw [← List.append_assoc, tokens_word_cons (fun d member => ?_) other]
      exact (List.mem_append.mp member).elim (headAll d) (all d)
  obtain ⟨first, late, parts, joined⟩ := back
  rcases exists_last_token front with all | ⟨early, c, last, rfl, other, all⟩
  · refine ⟨[], front, first, late, tokens_of_forall all, parts, ?_⟩
    rw [← List.append_assoc, joined _ fun c member => ?_, List.append_assoc, List.nil_append]
    exact (List.mem_append.mp member).elim (all c) (run c)
  · refine ⟨tokens early, last, first, late, ?_, parts, ?_⟩
    · rw [tokens_append_cons other, tokens_of_forall all]
    · rw [List.append_assoc, List.cons_append, tokens_append_cons other, ← List.append_assoc last,
        joined _ fun c member => ?_, List.append_assoc]
      exact (List.mem_append.mp member).elim (all c) (run c)

end Tokens

def redactedWord : List Char := "redacted".toList

section Classes

variable {c : Char}

theorem isSecretChar_of_isTokenChar (token : isTokenChar c = true) : isSecretChar c = true := by
  rw [isTokenChar_iff, isFoldedAlnum_iff] at token
  rw [isSecretChar_iff, Bool.eq_false_iff, Bool.eq_false_iff, Ne, Ne, isSpace_iff, isQuote_iff]
  omega

theorem isTokenChar_of_isSpace (space : isSpace c = true) : isTokenChar c = false := by
  rw [Bool.eq_false_iff]
  intro token
  have secret := isSecretChar_of_isTokenChar token
  rw [isSecretChar_of_isSpace space] at secret
  cases secret

theorem isTokenChar_of_isAssign (assign : isAssign c = true) : isTokenChar c = false := by
  rw [Bool.eq_false_iff, Ne, isTokenChar_iff, isFoldedAlnum_iff]
  rw [isAssign_iff] at assign
  omega

theorem isTokenChar_of_isQuote (quote : isQuote c = true) : isTokenChar c = false := by
  rw [Bool.eq_false_iff, Ne, isTokenChar_iff, isFoldedAlnum_iff]
  rw [isQuote_iff] at quote
  omega

theorem isTokenChar_of_isKeyLike (key : isKeyLike c = true) : isTokenChar c = true := by
  rw [isKeyLike_iff, isKeyChar_iff] at key
  rw [isTokenChar_iff, isFoldedAlnum_iff]
  omega

theorem isWord_of_isAssign (words : WordClass) (assign : isAssign c = true) :
    words.isWord c = false := by
  rw [isAssign_iff] at assign
  exact isWord_ascii words (by omega) (by omega)

end Classes

structure Marked (words : WordClass) (text rest replaced word : List Char) (old : Char)
    (middle : List Char) (new : Char) (left : List Char) : Prop where
  parts : text = word ++ old :: (middle ++ rest)
  replaced : replaced = word ++ new :: (left ++ ['>'])
  nonempty : word ≠ []
  wordTest : ∀ c ∈ word, isTokenChar c = true
  oldTest : isTokenChar old = false ∧ words.isWord old = false
  newTest : isTokenChar new = false ∧ words.isWord new = false
  placeholder : ∀ token ∈ tokens left, token = [] ∨ token = redactedWord
  stops : (∀ c ∈ lastOf (some old) middle, isTokenChar c = false) ∨
    ∀ c ∈ rest.head?, isTokenChar c = false

def Marks (words : WordClass) (pattern : Regex) (replace : List (List Char) → List Char) : Prop :=
  ∀ before text next, matchAt words.isWord pattern before text = some next →
    ∃ word old middle new left,
      Marked words text next.rest (replace next.groups) word old middle new left

section Marks

variable {words : WordClass}

theorem placeholder_word : contentRedactedPlaceholder = '<' :: (redactedWord ++ ['>']) := placeholder_eq

theorem tokens_placeholder : tokens ('<' :: redactedWord) = [[], redactedWord] := by
  rw [tokens_cons (by decide), tokens_of_forall (List.all_eq_true.mp rfl)]

theorem marks_assignment : Marks words secretAssignment redactAssignment := by
  intro before text next found
  obtain ⟨key, gap, sign, blank, quote, tail, assignment, groups, rest, _⟩ :=
    assignment_of_match found
  have keyText := keyText_secretKey assignment.spelled
  have signTest := isTokenChar_of_isAssign assignment.signTest
  have signWord := isWord_of_isAssign words assignment.signTest
  have value : tail = tail.takeWhile isSecretChar ++ next.rest := by
    rw [rest, List.takeWhile_append_dropWhile]
  have stops : ∀ c ∈ next.rest.head?, isTokenChar c = false := by
    intro c member
    rw [rest] at member
    rw [Bool.eq_false_iff]
    intro token
    have secret := isSecretChar_of_isTokenChar token
    rw [head?_dropWhile c member] at secret
    cases secret
  have placeholder : ∀ token ∈ tokens (quote ++ '<' :: redactedWord),
      token = [] ∨ token = redactedWord := by
    have plain : ∀ token ∈ [[], redactedWord], token = [] ∨ token = redactedWord := by simp
    rcases assignment.quoteTest with rfl | ⟨q, test, rfl⟩
    · rwa [List.nil_append, tokens_placeholder]
    · rw [List.singleton_append, tokens_cons (isTokenChar_of_isQuote test), tokens_placeholder]
      exact List.forall_mem_cons.mpr ⟨.inl rfl, plain⟩
  have replaced : redactAssignment next.groups =
      key ++ sign :: ((quote ++ '<' :: redactedWord) ++ ['>']) := by
    rw [groups, List.append_assoc]
    rfl
  cases gap with
  | nil =>
      refine ⟨key, sign, blank ++ (quote ++ tail.takeWhile isSecretChar), sign, _, ?_, replaced,
        keyText.nonempty, fun c member => isTokenChar_of_isKeyLike (keyText.all c member),
        ⟨signTest, signWord⟩, ⟨signTest, signWord⟩, placeholder, .inr stops⟩
      rw [assignment.parts, List.append_assoc, List.append_assoc, ← value]
      rfl
  | cons space gap =>
      have spaceTest := assignment.gapSpaces space List.mem_cons_self
      refine ⟨key, space, gap ++ sign :: (blank ++ (quote ++ tail.takeWhile isSecretChar)), sign, _, ?_,
        replaced, keyText.nonempty, fun c member => isTokenChar_of_isKeyLike (keyText.all c member),
        ⟨isTokenChar_of_isSpace spaceTest, words.spaces space spaceTest⟩, ⟨signTest, signWord⟩,
        placeholder, .inr stops⟩
      rw [assignment.parts, List.append_assoc gap, List.cons_append, List.cons_append,
        List.append_assoc, List.append_assoc, ← value]

theorem marks_bearer : Marks words bearerToken redactBearer := by
  intro before text next found
  obtain ⟨bearer, spaces, tail, token, bearer_, groups, tailEq, stops⟩ := bearer_of_match found
  obtain ⟨word, whole, last⟩ := matchAt_over found
  obtain ⟨space, spaces, rfl⟩ := List.exists_cons_of_ne_nil bearer_.nonempty
  have spaceTest := bearer_.spacesTest space List.mem_cons_self
  have parts : text = bearer ++ space :: ((spaces ++ token) ++ next.rest) := by
    rw [bearer_.parts, tailEq, List.append_assoc]
    rfl
  refine ⟨bearer, space, spaces ++ token, ' ', '<' :: redactedWord, parts, ?_,
    bearer_.keyText.nonempty, fun c member => isTokenChar_of_isKeyLike (bearer_.keyText.all c member),
    ⟨isTokenChar_of_isSpace spaceTest, words.spaces space spaceTest⟩,
    ⟨by decide, words.spaces ' ' (by decide)⟩, by simp [tokens_placeholder], stops.imp_left ?_⟩
  · rw [groups]
    rfl
  · intro equals c member
    have same : word = bearer ++ space :: (spaces ++ token) := by
      rw [parts, ← List.cons_append, ← List.append_assoc, List.append_cancel_right_eq] at whole
      exact whole.symm
    rw [same, lastOf_append, lastOf_cons] at last
    rw [← last, equals] at member
    obtain rfl := Option.some.inj member
    decide

variable {pattern : Regex} {replace : List (List Char) → List Char} {before : Option Char}
  {first ahead out : List Char}

theorem tokens_after {old : Char} {middle rest : List Char}
    (stops : (∀ c ∈ lastOf (some old) middle, isTokenChar c = false) ∨
      ∀ c ∈ rest.head?, isTokenChar c = false) :
    ∀ token ∈ tokens rest, token = [] ∨ token ∈ tokens (middle ++ rest) := by
  intro token member
  rcases stops with last | head
  · refine .inr ?_
    cases middle using List.reverseRecOn with
    | nil => exact member
    | append_singleton middle c =>
        rw [lastOf_append] at last
        rw [List.append_assoc, List.singleton_append, tokens_append_cons (last c rfl)]
        exact List.mem_append_right _ member
  · cases rest with
    | nil =>
        rw [tokens, List.splitOnP_nil, List.mem_singleton] at member
        exact .inl member
    | cons c rest =>
        rw [tokens_cons (head c rfl)] at member
        rw [tokens_append_cons (head c rfl)]
        exact (List.mem_cons.mp member).imp id fun later => List.mem_append_right _ later

theorem Marked.tokens_left {text replaced word middle placed left behind : List Char} {old new : Char}
    (marked : Marked words text (left ++ ahead) replaced word old middle new placed)
    (follows : behind <+: ahead)
    (known : ∀ token ∈ tokens (out ++ behind),
      token = [] ∨ token = redactedWord ∨ token ∈ tokens (left ++ behind)) :
    ∀ token ∈ tokens (placed ++ '>' :: (out ++ behind)),
      token = [] ∨ token = redactedWord ∨ token ∈ tokens (middle ++ (left ++ behind)) := by
  intro token member
  rw [tokens_append_cons (by decide)] at member
  rcases List.mem_append.mp member with inside | late
  · exact (marked.placeholder token inside).imp id .inl
  · rcases known token late with empty | redacted | kept
    · exact .inl empty
    · exact .inr (.inl redacted)
    · have stops : (∀ c ∈ lastOf (some old) middle, isTokenChar c = false) ∨
          ∀ c ∈ (left ++ behind).head?, isTokenChar c = false := by
        refine marked.stops.imp id fun head c member => head c ?_
        obtain ⟨beyond, rfl⟩ := follows
        cases left with
        | nil =>
            cases behind with
            | nil => cases member
            | cons d behind => exact member
        | cons d left => exact member
      exact (tokens_after stops token kept).imp id .inr

theorem tokens_passTo (marks : Marks words pattern replace)
    (pass : PassTo words.isWord pattern replace before first ahead out) {behind : List Char}
    (follows : behind <+: ahead) (front : List Char) :
    ∀ token ∈ tokens (front ++ (out ++ behind)),
      token = [] ∨ token = redactedWord ∨ token ∈ tokens (front ++ (first ++ behind)) := by
  induction pass generalizing front with
  | done before ahead => exact fun token member => .inr (.inr member)
  | @keep before c rest ahead out _ _ ih =>
      have onward := ih follows (front ++ [c])
      rwa [List.append_assoc, List.append_assoc] at onward
  | @swap before c rest left ahead out next found within later ih =>
      obtain ⟨word, old, middle, new, placed, marked⟩ := marks _ _ _ found
      rw [within] at marked
      have text : c :: rest = word ++ old :: (middle ++ left) := by
        have parts := marked.parts
        rwa [← List.append_assoc middle, ← List.cons_append, ← List.cons_append,
          ← List.append_assoc word, List.append_cancel_right_eq] at parts
      have now : front ++ (replace next.groups ++ out ++ behind) =
          (front ++ word) ++ new :: (placed ++ '>' :: (out ++ behind)) := by
        rw [marked.replaced]
        simp
      have whole : front ++ (c :: rest ++ behind) =
          (front ++ word) ++ old :: (middle ++ (left ++ behind)) := by
        rw [text]
        simp
      rw [now, whole, tokens_append_cons marked.newTest.1, tokens_append_cons marked.oldTest.1]
      intro token member
      rcases List.mem_append.mp member with early | late
      · exact .inr (.inr (List.mem_append_left _ early))
      · refine (marked.tokens_left follows (ih follows []) token late).imp id (.imp id ?_)
        exact List.mem_append_right _

theorem passTo_word (marks : Marks words pattern replace) {word rest : List Char}
    (all : ∀ c ∈ word, isTokenChar c = true) (stops : ∀ c ∈ rest.head?, isTokenChar c = false)
    (pass : PassTo words.isWord pattern replace before (word ++ rest) [] out) :
    ∃ left, out = word ++ left ∧ (∀ c ∈ left.head?, isTokenChar c = false) ∧
      left.head?.any words.isWord = rest.head?.any words.isWord ∧
      ∀ token ∈ tokens left, token = [] ∨ token = redactedWord ∨ token ∈ tokens rest := by
  generalize whole : word ++ rest = text at pass
  generalize nothing : ([] : List Char) = ahead at pass
  induction pass generalizing word with
  | done before ahead =>
      obtain ⟨rfl, rfl⟩ := List.append_eq_nil_iff.mp whole
      exact ⟨[], rfl, stops, rfl, fun token member => .inr (.inr member)⟩
  | @keep before c text ahead out unmatched later ih =>
      subst nothing
      cases word with
      | nil =>
          obtain rfl : rest = c :: text := whole
          have known := tokens_passTo marks (.keep unmatched later) List.nil_prefix []
          simp only [List.append_nil, List.nil_append] at known
          exact ⟨c :: out, rfl, stops, rfl, known⟩
      | cons d word =>
          obtain ⟨rfl, rfl⟩ := List.cons.inj whole
          rw [List.forall_mem_cons] at all
          obtain ⟨left, rfl, same⟩ := ih all.2 rfl rfl
          exact ⟨left, rfl, same⟩
  | @swap before c text left ahead out next found within later ih =>
      subst nothing
      obtain ⟨kept, old, middle, new, placed, marked⟩ := marks _ _ _ found
      have same := marked.parts
      rw [List.append_nil, ← whole] at same
      cases rest with
      | nil =>
          have inside := all old (by rw [← List.append_nil word, same]; simp)
          rw [marked.oldTest.1] at inside
          cases inside
      | cons r rest =>
          obtain ⟨rfl, rfl, rfl⟩ := cut_unique all marked.wordTest (stops r rfl) marked.oldTest.1 same
          refine ⟨new :: (placed ++ '>' :: out), ?_, ?_, ?_, ?_⟩
          · rw [marked.replaced]
            simp
          · rintro _ ⟨⟩
            exact marked.newTest.1
          · simp [marked.newTest.2, marked.oldTest.2]
          · have known := tokens_passTo marks later (List.nil_prefix) []
            rw [within] at marked ⊢
            have after := marked.tokens_left List.nil_prefix known
            simp only [List.append_nil] at after ⊢
            rw [tokens_cons marked.newTest.1, tokens_cons marked.oldTest.1]
            refine List.forall_mem_cons.mpr ⟨.inl rfl, fun token member => ?_⟩
            exact (after token member).imp id (.imp id (List.mem_cons_of_mem _))

theorem Marks.unmatched (marks : Marks words pattern replace) {c : Char} {rest : List Char}
    (other : isTokenChar c = false) : matchAt words.isWord pattern before (c :: rest) = none := by
  refine Option.eq_none_iff_forall_ne_some.mpr fun next found => ?_
  obtain ⟨word, old, middle, new, placed, marked⟩ := marks _ _ _ found
  obtain ⟨d, word, rfl⟩ := List.exists_cons_of_ne_nil marked.nonempty
  have parts := marked.parts
  rw [List.cons_append, List.cons.injEq] at parts
  rw [parts.1, marked.wordTest d List.mem_cons_self] at other
  cases other

theorem unmatched_sk {c : Char} {rest : List Char} (other : isTokenChar c = false) :
    matchAt words.isWord skStyleSecret before (c :: rest) = none := by
  refine Option.eq_none_iff_forall_ne_some.mpr fun next found => ?_
  obtain ⟨secret, sk, _⟩ := skSecret_of_match found
  obtain ⟨more, begins⟩ := sk.head
  obtain rfl := (List.cons.inj begins).1
  revert other
  decide

theorem passTo_spaces {gap rest : List Char}
    (unmatched : ∀ before c rest, isTokenChar c = false →
      matchAt words.isWord pattern before (c :: rest) = none)
    (spaces : ∀ c ∈ gap, isSpace c = true)
    (pass : PassTo words.isWord pattern replace before (gap ++ rest) ahead out) :
    ∃ back, out = gap ++ back ∧
      PassTo words.isWord pattern replace (lastOf before gap) rest ahead back := by
  rcases pass.firstMatch with ⟨back, same, _, later⟩ | ⟨early, late, next, _, _, parts, some_, found, _⟩
  · exact ⟨back, same, later⟩
  · obtain ⟨c, late, rfl⟩ := List.exists_cons_of_ne_nil some_
    have space := spaces c (parts ▸ by simp)
    rw [List.cons_append, unmatched _ c _ (isTokenChar_of_isSpace space)] at found
    cases found

end Marks

section Lacks

variable {words : WordClass} {before : Option Char} {first ahead out token : List Char}

def Lacks (token text : List Char) : Prop :=
  ∀ other ∈ tokens text, other = redactedWord ∨ ¬ token <:+: other

theorem lacks_of_no_part {text : List Char} (missing : ¬ token <:+: text) : Lacks token text :=
  fun _ member => .inr fun inside => missing (inside.trans (infix_of_mem_tokens member))

theorem lacks_append_cons {c : Char} (other : isTokenChar c = false) (front rest : List Char) :
    Lacks token (front ++ c :: rest) ↔ Lacks token front ∧ Lacks token rest := by
  simp only [Lacks, tokens_append_cons other, List.forall_mem_append]

theorem Lacks.of_tokens {text now : List Char} (some_ : token ≠ []) (lacks : Lacks token text)
    (known : ∀ other ∈ tokens now, other = [] ∨ other = redactedWord ∨ other ∈ tokens text) :
    Lacks token now := by
  intro other member
  rcases known other member with rfl | redacted | kept
  · exact .inr fun inside => some_ (List.infix_nil.mp inside)
  · exact .inl redacted
  · exact lacks other kept

theorem Lacks.passTo {pattern : Regex} {replace : List (List Char) → List Char}
    (marks : Marks words pattern replace) (some_ : token ≠ []) (lacks : Lacks token first)
    (pass : PassTo words.isWord pattern replace before first ahead out) : Lacks token out := by
  have known := tokens_passTo marks pass List.nil_prefix []
  simp only [List.append_nil, List.nil_append] at known
  exact lacks.of_tokens some_ known

def Piece (text token : List Char) : Prop :=
  token ∈ tokens text ∨ ∃ whole ∈ tokens text, token <:+: whole ∧ 's' ∈ whole

theorem isTokenChar_of_isSkChar {c : Char} (sk : isSkChar c = true) : isTokenChar c = true := by
  rw [isSkChar_iff] at sk
  rw [isTokenChar_iff, isFoldedAlnum_iff]
  omega

theorem tokens_thirdPass (pass : PassTo words.isWord skStyleSecret redactSk before first ahead out)
    (front : List Char) :
    ∀ token ∈ tokens (front ++ out), token = [] ∨ token = redactedWord ∨ Piece (front ++ first) token := by
  induction pass generalizing front with
  | done before ahead => exact fun token member => .inr (.inr (.inl member))
  | @keep before c rest ahead out _ _ ih =>
      have onward := ih (front ++ [c])
      rwa [List.append_assoc, List.append_assoc] at onward
  | @swap before c rest left ahead out next found within later ih =>
      obtain ⟨secret, sk, _⟩ := skSecret_of_match found
      have text : c :: rest = secret ++ left := by
        have parts := sk.parts
        rwa [within, ← List.append_assoc, ← List.cons_append, List.append_cancel_right_eq] at parts
      have inSecret : 's' ∈ secret := by
        obtain ⟨_, _, rfl, _⟩ := sk.shape
        exact List.mem_cons_self
      have run : ∀ c ∈ secret, isTokenChar c = true := fun c member =>
        isTokenChar_of_isSkChar (isSkChar_secret sk c member)
      obtain ⟨early, last, head, late, frontTokens, leftTokens, joined⟩ := tokens_around run front left
      have now : front ++ (redactSk next.groups ++ out) =
          front ++ '<' :: (redactedWord ++ '>' :: out) := rfl
      rw [now, tokens_append_cons (by decide), tokens_word_cons (List.all_eq_true.mp rfl) (by decide),
        frontTokens, text]
      intro token member
      have cut {token : List Char} (inside : token <:+: last ++ (secret ++ head)) :
          Piece (front ++ (secret ++ left)) token :=
        .inr ⟨_, joined ▸ by simp, inside, by simp [inSecret]⟩
      have after {token : List Char} (member : token ∈ tokens left) :
          Piece (front ++ (secret ++ left)) token := by
        rw [leftTokens] at member
        rcases List.mem_cons.mp member with rfl | inLate
        · exact cut ⟨last ++ secret, [], by simp⟩
        · exact .inl (joined ▸ by simp [inLate])
      simp only [List.mem_append, List.mem_cons, List.not_mem_nil, or_false] at member
      rcases member with (inEarly | rfl) | redacted | inOut
      · exact .inr (.inr (.inl (joined ▸ by simp [inEarly])))
      · exact .inr (.inr (cut ⟨[], secret ++ head, by simp⟩))
      · exact .inr (.inl redacted)
      · rcases ih [] token inOut with empty | redacted | kept | ⟨whole, inLeft, inside, letter_⟩
        · exact .inl empty
        · exact .inr (.inl redacted)
        · exact .inr (.inr (after kept))
        · rw [List.nil_append, leftTokens] at inLeft
          rcases List.mem_cons.mp inLeft with rfl | inLate
          · exact .inr (.inr (cut (inside.trans ⟨last ++ secret, [], by simp⟩)))
          · exact .inr (.inr (.inr ⟨whole, joined ▸ by simp [inLate], inside, letter_⟩))

theorem Lacks.thirdPass (some_ : token ≠ []) (lacks : Lacks token first)
    (pass : PassTo words.isWord skStyleSecret redactSk before first ahead out) : Lacks token out := by
  intro other member
  rcases tokens_thirdPass pass [] other member with rfl | redacted | kept | ⟨whole, inText, inside, letter_⟩
  · exact .inr fun found => some_ (List.infix_nil.mp found)
  · exact .inl redacted
  · exact lacks other kept
  · refine .inr fun found => ?_
    rcases lacks whole inText with rfl | missing
    · revert letter_
      decide
    · exact missing (found.trans inside)

end Lacks

end Wlcodex.Runtime
