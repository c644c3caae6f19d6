import Wlcodex.Runtime.RedactionPasses

namespace Wlcodex.Runtime

open Wlcodex.Lib
open Wlcodex.Lib.Regex
open Wlcodex.Relay (isSpace)

/-! `redact_text_content` changes nothing in a text that it has redacted. -/

section SecondPass

variable {words : WordClass} {before now : Option Char} {text out : List Char}

variable {c : Char}

theorem takeWhile_append_stop {test : Char → Bool} (stop : test c = false)
    (front rest : List Char) : (front ++ c :: rest).takeWhile test = front.takeWhile test := by
  induction front with
  | nil => simp [stop]
  | cons d front ih =>
      rw [List.cons_append, List.takeWhile_cons, List.takeWhile_cons, ih]

variable {bearer tail spaces : List Char}

theorem Bearer.keyText
    (bearer_ : Bearer words before text bearer spaces tail) : KeyText bearer :=
  keyText_spelled rfl (List.all_eq_true.mp rfl) bearer_.spelled

theorem Bearer.head (bearer_ : Bearer words before text bearer spaces tail) :
    ∃ c rest, text = c :: rest ∧ foldCase c = 'b' := by
  obtain ⟨_, more, ⟨c, same, rfl⟩, _, rfl⟩ := bearer_.spelled
  exact ⟨c, _, bearer_.parts, beq_iff_eq.mp same⟩

structure Struck (text : List Char) (next : Cursor) (bearer : List Char) (space : Char)
    (more : List Char) : Prop where
  keyText : KeyText bearer
  parts : redactBearer next.groups = bearer ++ ' ' :: contentRedactedPlaceholder
  old : text = bearer ++ space :: more
  spaceTest : isSpace space = true
  stops : next.before = some '=' ∨ ∀ c ∈ next.rest.head?, isTokenChar c = false

theorem struck_of_match {next : Cursor} (found : matchAt words.isWord bearerToken before text = some next) :
    ∃ bearer space more, Struck text next bearer space more := by
  obtain ⟨bearer, spaces, tail, token, bearer_, groups, _, stops⟩ := bearer_of_match found
  obtain ⟨space, spaces, rfl⟩ := List.exists_cons_of_ne_nil bearer_.nonempty
  refine ⟨bearer, space, spaces ++ tail, bearer_.keyText, ?_, bearer_.parts,
    bearer_.spacesTest space List.mem_cons_self, stops⟩
  rw [groups]
  rfl

def AfterToken (now before : Option Char) (text : List Char) : Prop :=
  now = before ∨ (now = some '>' ∧
    (before = some '=' ∨ ∀ c ∈ text.head?, isTokenChar c = false))

variable {rest : List Char}

theorem AfterToken.boundary {later : List Char}
    (start : AfterToken now before (c :: rest)) (key : isKeyChar c = true)
    (boundary : AtBoundary words.isWord ⟨now, c :: later, []⟩) (other : List Char) :
    AtBoundary words.isWord ⟨before, c :: other, []⟩ := by
  have word := isWord_of_isKeyChar words key
  rw [atBoundary_iff word] at boundary ⊢
  rcases start with rfl | ⟨_, rfl | stop⟩
  · exact boundary
  · exact isWord_ascii words (by decide) (by decide)
  · have token := isTokenChar_of_isKeyChar key
    rw [stop c rfl] at token
    cases token

theorem Assignment.move {key gap blank quote : List Char} {sign : Char}
    (assignment : Assignment words now text key gap sign blank quote tail)
    (boundary : AtBoundary words.isWord ⟨before, text, []⟩) :
    Assignment words before text key gap sign blank quote tail :=
  { assignment with boundary }

variable {more : List Char}

theorem clean_struck {next : Cursor} {space : Char}
    (struck : Struck text next bearer space more) (now : Option Char)
    (later : Everywhere (CleanAt words) (some '>') out) :
    Everywhere (CleanAt words) now (bearer ++ ' ' :: (contentRedactedPlaceholder ++ out)) := by
  refine everywhere_append (fun front back inside some_ => ?_) ?_
  · intro key gap sign blank quote tail assignment
    have backAll : ∀ c ∈ back, isKeyLike c = true := fun c member =>
      struck.keyText.all c (inside ▸ List.mem_append_right _ member)
    rw [placeholder_eq] at assignment
    exact (not_assignment_of_space backAll (by decide) (by decide) (by decide) assignment).elim
  · refine everywhere_cons (cleanAt_of_head (by decide)) ?_
    exact everywhere_append (fun front back inside some_ => cleanAt_placeholder inside some_) later

theorem clean_secondPass (pass : Pass words.isWord bearerToken redactBearer before text out)
    (clean : Everywhere (CleanAt words) before text) (start : AfterToken now before text) :
    Everywhere (CleanAt words) now out := by
  induction pass generalizing now with
  | done before => exact everywhere_nil cleanAt_nil
  | @keep before c rest out unmatched later ih =>
      have onward : Everywhere (CleanAt words) (some c) rest :=
        Everywhere.tail (show Everywhere _ before ([c] ++ rest) from clean)
      refine everywhere_cons ?_ (ih onward (.inl rfl))
      intro key gap sign blank quote tail assignment
      obtain ⟨_, _, begins, keyChar⟩ := assignment.head
      obtain ⟨rfl, _⟩ := List.cons.inj begins
      have here := assignment.move (start.boundary keyChar assignment.boundary out)
      rcases later.first with same | ⟨front, back, next, tail', textEq, found, outEq, _⟩
      · subst same
        exact clean.head _ _ _ _ _ _ here
      · obtain ⟨bearer, space, more, struck⟩ := struck_of_match found
        have parts : c :: out = (c :: front) ++ bearer ++
            ' ' :: '<' :: ("redacted".toList ++ ['>'] ++ tail') := by
          rw [outEq, struck.parts, placeholder_eq]
          simp
        have oldParts : c :: rest = (c :: front) ++ bearer ++ space :: more := by
          rw [textEq, struck.old]
          simp
        rw [parts] at here
        rcases straddle here.spans with ⟨v, rest', inside, tailEq⟩ | ⟨left, covered, _⟩
        · -- the value ends in both texts before the space
          have old := here.transfer inside tailEq (space :: more)
          rw [← oldParts] at old
          obtain ⟨noGap, noBlank, value⟩ := clean.head _ _ _ _ _ _ old
          refine ⟨noGap, noBlank, ?_⟩
          rw [← List.cons_append, takeWhile_append_stop
            (isSecretChar_of_isSpace struck.spaceTest)] at value
          rw [tailEq, ← List.cons_append, takeWhile_append_stop (by decide)]
          exact value
        · obtain ⟨beyond, keyEq, _⟩ :=
            within_key struck.keyText.nonempty struck.keyText.all here.middle covered
          have runAll : ∀ d ∈ c :: front ++ bearer, isKeyLike d = true := fun d member =>
            (keyText_secretKey here.spelled).all d (keyEq ▸ List.mem_append_left _ member)
          exact (not_assignment_of_space runAll (by decide) (by decide) (by decide) here).elim
  | @swap before c rest out next found later ih =>
      obtain ⟨bearer, space, more, struck⟩ := struck_of_match found
      obtain ⟨word, old, last⟩ := matchAt_over found
      have onward : Everywhere (CleanAt words) next.before next.rest := by
        rw [last]
        exact Everywhere.tail (old ▸ clean)
      have after : Everywhere (CleanAt words) (some '>') out :=
        ih onward (.inr ⟨rfl, struck.stops⟩)
      rw [struck.parts, List.append_assoc, List.cons_append]
      exact clean_struck struck now after

theorem not_bearer_of_space {run : List Char} (runAll : ∀ c ∈ run, isKeyLike c = true) :
    ¬ Bearer words before (run ++ ' ' :: '<' :: rest) bearer spaces tail := by
  intro bearer_
  obtain ⟨space, spaces, rfl⟩ := List.exists_cons_of_ne_nil bearer_.nonempty
  have spaceTest := bearer_.spacesTest space List.mem_cons_self
  obtain ⟨_, _, onward⟩ := cut_unique runAll bearer_.keyText.all (by decide)
    (isKeyLike_of_isSpace spaceTest) bearer_.parts
  obtain ⟨v, more, tokenTest, rfl⟩ := bearer_.token
  cases spaces with
  | nil =>
      obtain ⟨rfl, _⟩ := List.cons.inj onward
      revert tokenTest
      decide
  | cons second spaces =>
      obtain ⟨rfl, _⟩ := List.cons.inj onward
      have bracket := bearer_.spacesTest '<' (by simp)
      revert bracket
      decide

theorem noBearer_of_head (other : foldCase c ≠ 'b') :
    NoBearer words before (c :: rest) := by
  intro bearer spaces tail bearer_
  obtain ⟨d, _, begins, same⟩ := bearer_.head
  obtain ⟨rfl, _⟩ := List.cons.inj begins
  exact other same

theorem noBearer_nil : NoBearer words before [] := by
  intro bearer spaces tail bearer_
  obtain ⟨d, _, begins, _⟩ := bearer_.head
  cases begins

theorem noBearer_placeholder {front back : List Char}
    (inside : contentRedactedPlaceholder = front ++ back) (some_ : back ≠ []) :
    NoBearer words before (back ++ rest) := by
  obtain ⟨c, more, rfl⟩ := List.exists_cons_of_ne_nil some_
  have every : ∀ c ∈ contentRedactedPlaceholder, foldCase c ≠ 'b' := by
    intro c member
    have all : contentRedactedPlaceholder.all (fun c => foldCase c != 'b') = true := rfl
    simpa using List.all_eq_true.mp all c member
  exact noBearer_of_head (every c (inside ▸ List.mem_append_right _ List.mem_cons_self))

theorem isKeyChar_of_fold (same : foldCase c = 'b') : isKeyChar c = true :=
  isKeyChar_letter (show 'b'.isAlphanum = true from rfl) (beq_iff_eq.mpr same)

theorem Bearer.transfer {common : List Char}
    (bearer_ : Bearer words before (common ++ rest) bearer spaces tail) {v : Char} (inside : common = bearer ++ spaces ++ v :: more)
    (tailEq : tail = v :: (more ++ rest)) (other : List Char) :
    Bearer words before (common ++ other) bearer spaces (v :: (more ++ other)) := by
  obtain ⟨c, bearerRest, bearerEq, _⟩ := bearer_.keyText.head
  refine { bearer_ with
    parts := by rw [inside]; simp
    boundary := ?_
    token := ?_ }
  · have boundary := bearer_.boundary
    rw [inside, bearerEq] at boundary ⊢
    exact boundary
  · obtain ⟨w, rest', test, eq⟩ := bearer_.token
    obtain ⟨rfl, _⟩ := List.cons.inj (tailEq.symm.trans eq)
    exact ⟨v, _, test, rfl⟩

theorem Bearer.spans
    (bearer_ : Bearer words before text bearer spaces tail) : (bearer ++ spaces) ++ tail = text := by
  rw [bearer_.parts, List.append_assoc]

theorem noBearer_secondPass (pass : Pass words.isWord bearerToken redactBearer before text out)
    (start : AfterToken now before text) : Everywhere (NoBearer words) now out := by
  induction pass generalizing now with
  | done before => exact everywhere_nil noBearer_nil
  | @keep before c rest out unmatched later ih =>
      refine everywhere_cons ?_ (ih (.inl rfl))
      intro bearer spaces tail bearer_
      obtain ⟨_, _, begins, folded⟩ := bearer_.head
      obtain ⟨rfl, _⟩ := List.cons.inj begins
      have boundary := start.boundary (isKeyChar_of_fold folded) bearer_.boundary out
      have here : Bearer words before (c :: out) bearer spaces tail := { bearer_ with boundary }
      have absurd_ : ∀ {tail : List Char}, ¬ Bearer words before (c :: rest) bearer spaces tail := by
        intro tail old
        have matched := match_of_bearer old
        rw [unmatched] at matched
        cases matched
      rcases later.first with same | ⟨front, back, next, tail', textEq, found, outEq, _⟩
      · subst same
        exact absurd_ here
      · obtain ⟨own, space, more, struck⟩ := struck_of_match found
        have parts : c :: out = (c :: front) ++ own ++
            ' ' :: '<' :: ("redacted".toList ++ ['>'] ++ tail') := by
          rw [outEq, struck.parts, placeholder_eq]
          simp
        have oldParts : c :: rest = (c :: front) ++ own ++ space :: more := by
          rw [textEq, struck.old]
          simp
        rw [parts] at here
        rcases straddle here.spans with ⟨v, rest', inside, tailEq⟩ | ⟨left, covered, _⟩
        · have old := here.transfer inside tailEq (space :: more)
          rw [← oldParts] at old
          exact absurd_ old
        · obtain ⟨beyond, keyEq, _⟩ := within_key struck.keyText.nonempty struck.keyText.all
            (fun d member => isKeyLike_of_isSpace (here.spacesTest d member)) covered
          have runAll : ∀ d ∈ c :: front ++ own, isKeyLike d = true := fun d member =>
            here.keyText.all d (keyEq ▸ List.mem_append_left _ member)
          exact not_bearer_of_space runAll here
  | @swap before c rest out next found later ih =>
      obtain ⟨bearer, space, more, struck⟩ := struck_of_match found
      have after : Everywhere (NoBearer words) (some '>') out :=
        ih (.inr ⟨rfl, struck.stops⟩)
      rw [struck.parts, List.append_assoc, List.cons_append]
      refine everywhere_append (fun front back inside some_ => ?_) ?_
      · intro bearer' spaces tail bearer_
        have backAll : ∀ c ∈ back, isKeyLike c = true := fun c member =>
          struck.keyText.all c (inside ▸ List.mem_append_right _ member)
        exact not_bearer_of_space backAll bearer_
      · refine everywhere_cons (noBearer_of_head (by decide)) ?_
        exact everywhere_append
          (fun front back inside some_ => noBearer_placeholder inside some_) after

end SecondPass

section ThirdPass

variable {words : WordClass} {before now : Option Char} {text out : List Char}

def redactSk : List (List Char) → List Char := fun _ => contentRedactedPlaceholder

def AfterSecret (words : WordClass) (now before : Option Char) (text : List Char) : Prop :=
  now = before ∨ (now = some '>' ∧ AtBoundary words.isWord ⟨before, text, []⟩ ∧
    ∀ more rest, text = more ++ rest → more ≠ [] → (∀ c ∈ more, isSkChar c = true) →
      ¬ AtBoundary words.isWord ⟨lastOf before more, rest, []⟩)

variable {c : Char} {rest : List Char}

theorem AfterSecret.boundary {later : List Char} (start : AfterSecret words now before (c :: rest))
    (boundary : AtBoundary words.isWord ⟨now, c :: later, []⟩) (other : List Char) :
    AtBoundary words.isWord ⟨before, c :: other, []⟩ := by
  rcases start with rfl | ⟨_, bounded, _⟩
  · exact boundary
  · exact bounded

theorem afterSecret_of_match {next : Cursor}
    (found : matchAt words.isWord skStyleSecret before text = some next) :
    AfterSecret words (some '>') next.before next.rest := by
  obtain ⟨secret, sk, last, greedy⟩ := skSecret_of_match found
  exact .inr ⟨rfl, last ▸ sk.ends, greedy⟩

theorem bracket_not_mem {key gap blank quote tail : List Char} {sign : Char}
    (assignment : Assignment words before text key gap sign blank quote tail) :
    '<' ∉ key ++ (gap ++ sign :: (blank ++ quote)) := by
  intro member
  rcases List.mem_append.mp member with inKey | inMiddle
  · have key_ := (keyText_secretKey assignment.spelled).all '<' inKey
    revert key_
    decide
  · rcases List.mem_append.mp inMiddle with inGap | inRest
    · have space := assignment.gapSpaces '<' inGap
      revert space
      decide
    · rcases List.mem_cons.mp inRest with same | inRest
      · have signTest := assignment.signTest
        rw [← same] at signTest
        revert signTest
        decide
      · rcases List.mem_append.mp inRest with inBlank | inQuote
        · have space := assignment.blankSpaces '<' inBlank
          revert space
          decide
        · rcases assignment.quoteTest with rfl | ⟨q, test, rfl⟩
          · cases inQuote
          · rw [← List.mem_singleton.mp inQuote] at test
            revert test
            decide

theorem takeWhile_before_sk {front : List Char}
    (value : (front ++ 's' :: rest).takeWhile isSecretChar = contentRedactedPlaceholder) (other : List Char) :
    (front ++ other).takeWhile isSecretChar = contentRedactedPlaceholder := by
  by_cases all : ∀ c ∈ front, isSecretChar c = true
  · rw [List.takeWhile_append_of_pos all, List.takeWhile_cons_of_pos (by decide)] at value
    have member : 's' ∈ contentRedactedPlaceholder := value ▸ by simp
    exact absurd member (by decide)
  · push Not at all
    obtain ⟨c, member, stop⟩ := all
    obtain ⟨first, second, rfl⟩ := List.append_of_mem member
    have stop' : isSecretChar c = false := Bool.eq_false_iff.mpr stop
    rw [List.append_assoc, List.cons_append, takeWhile_append_stop stop'] at value ⊢
    exact value

theorem clean_thirdPass (pass : Pass words.isWord skStyleSecret redactSk before text out)
    (clean : Everywhere (CleanAt words) before text) (start : AfterSecret words now before text) :
    Everywhere (CleanAt words) now out := by
  induction pass generalizing now with
  | done before => exact everywhere_nil cleanAt_nil
  | @keep before c rest out unmatched later ih =>
      have onward : Everywhere (CleanAt words) (some c) rest :=
        Everywhere.tail (show Everywhere _ before ([c] ++ rest) from clean)
      refine everywhere_cons ?_ (ih onward (.inl rfl))
      intro key gap sign blank quote tail assignment
      have here := assignment.move (start.boundary assignment.boundary out)
      rcases later.first with same | ⟨front, back, next, tail', textEq, found, outEq, _⟩
      · subst same
        exact clean.head _ _ _ _ _ _ here
      · obtain ⟨secret, sk, _, _⟩ := skSecret_of_match found
        obtain ⟨first, more, rfl, _⟩ := sk.shape
        have oldParts : c :: rest =
            (c :: front) ++ 's' :: ('k' :: '-' :: first :: more ++ next.rest) := by
          rw [textEq, sk.parts]
          rfl
        have parts : c :: out = (c :: front) ++ (contentRedactedPlaceholder ++ tail') := by
          rw [outEq]
          rfl
        rw [parts] at here
        rcases straddle here.spans with ⟨v, rest', inside, tailEq⟩ | ⟨left, covered, bracket⟩
        · have old := here.transfer inside tailEq ('s' :: ('k' :: '-' :: first :: more ++ next.rest))
          rw [← oldParts] at old
          obtain ⟨noGap, noBlank, value⟩ := clean.head _ _ _ _ _ _ old
          refine ⟨noGap, noBlank, ?_⟩
          rw [tailEq, ← List.cons_append]
          exact takeWhile_before_sk value _
        · rw [placeholder_eq, List.cons_append] at bracket
          cases left with
          | cons d left =>
              obtain ⟨rfl, _⟩ := List.cons.inj bracket
              exact (bracket_not_mem here (covered ▸ by simp)).elim
          | nil =>
              -- the value of the old text would begin with the secret
              have old : Assignment words before (c :: rest) key gap sign blank quote
                  ('s' :: ('k' :: '-' :: first :: more ++ next.rest)) :=
                { here with
                  parts := by
                    rw [oldParts, ← List.append_nil (c :: front), ← covered]
                    simp
                  value := ⟨'s', _, by decide, rfl⟩ }
              obtain ⟨_, _, value⟩ := clean.head _ _ _ _ _ _ old
              exact absurd (List.cons.inj value).1 (by decide)
  | @swap before c rest out next found later ih =>
      obtain ⟨word, old, last⟩ := matchAt_over found
      have onward : Everywhere (CleanAt words) next.before next.rest := by
        rw [last]
        exact Everywhere.tail (old ▸ clean)
      have after : Everywhere (CleanAt words) (some '>') out :=
        ih onward (afterSecret_of_match found)
      exact everywhere_append (fun front back inside some_ => cleanAt_placeholder inside some_) after

theorem noBearer_thirdPass (pass : Pass words.isWord skStyleSecret redactSk before text out)
    (none_ : Everywhere (NoBearer words) before text) (start : AfterSecret words now before text) :
    Everywhere (NoBearer words) now out := by
  induction pass generalizing now with
  | done before => exact everywhere_nil noBearer_nil
  | @keep before c rest out unmatched later ih =>
      have onward : Everywhere (NoBearer words) (some c) rest :=
        Everywhere.tail (show Everywhere _ before ([c] ++ rest) from none_)
      refine everywhere_cons ?_ (ih onward (.inl rfl))
      intro bearer spaces tail bearer_
      have boundary := start.boundary bearer_.boundary out
      have here : Bearer words before (c :: out) bearer spaces tail := { bearer_ with boundary }
      rcases later.first with same | ⟨front, back, next, tail', textEq, found, outEq, _⟩
      · subst same
        exact none_.head _ _ _ here
      · have parts : c :: out = (c :: front) ++ (contentRedactedPlaceholder ++ tail') := by
          rw [outEq]
          rfl
        have oldParts : c :: rest = (c :: front) ++ back := by
          rw [textEq]
          rfl
        rw [parts] at here
        rcases straddle here.spans with ⟨v, rest', inside, tailEq⟩ | ⟨left, covered, bracket⟩
        · have old := here.transfer inside tailEq back
          rw [← oldParts] at old
          exact none_.head _ _ _ old
        · rw [placeholder_eq, List.cons_append] at bracket
          cases left with
          | nil =>
              obtain ⟨v, rest', tokenTest, rfl⟩ := here.token
              obtain ⟨rfl, _⟩ := List.cons.inj bracket
              revert tokenTest
              decide
          | cons d left =>
              obtain ⟨rfl, _⟩ := List.cons.inj bracket
              have member : '<' ∈ bearer ++ spaces := covered ▸ by simp
              rcases List.mem_append.mp member with inBearer | inSpaces
              · have key := here.keyText.all '<' inBearer
                revert key
                decide
              · have space := here.spacesTest '<' inSpaces
                revert space
                decide
  | @swap before c rest out next found later ih =>
      obtain ⟨word, old, last⟩ := matchAt_over found
      have onward : Everywhere (NoBearer words) next.before next.rest := by
        rw [last]
        exact Everywhere.tail (old ▸ none_)
      have after : Everywhere (NoBearer words) (some '>') out :=
        ih onward (afterSecret_of_match found)
      exact everywhere_append (fun front back inside some_ => noBearer_placeholder inside some_) after

theorem SkSecret.head {secret : List Char} (sk : SkSecret words before text secret rest) :
    ∃ more, text = 's' :: 'k' :: '-' :: more := by
  obtain ⟨c, more, rfl, _⟩ := sk.shape
  exact ⟨_, sk.parts⟩

theorem noSkSecret_of_head (other : c ≠ 's') :
    NoSkSecret words before (c :: rest) := by
  intro secret later sk
  obtain ⟨more, begins⟩ := sk.head
  exact other (List.cons.inj begins).1

theorem isSkChar_secret {secret : List Char} (sk : SkSecret words before text secret rest) :
    ∀ c ∈ secret, isSkChar c = true := by
  obtain ⟨c, more, rfl, alnum, _, all⟩ := sk.shape
  simp only [List.forall_mem_cons]
  refine ⟨by decide, by decide, by decide, ?_, all⟩
  rw [isSkChar, alnum]
  rfl

theorem boundary_after_k :
    AtBoundary words.isWord ⟨some 'k', '-' :: rest, []⟩ := by
  have letter_ : words.isWord 'k' = true := isWord_of_isKeyChar words (by decide)
  have hyphen : words.isWord '-' = false := isWord_ascii words (by decide) (by decide)
  simp [AtBoundary, letter_, hyphen]

theorem begins_of_pass (later : Pass words.isWord skStyleSecret redactSk (some c) rest out)
    (begins : c :: out = 's' :: 'k' :: '-' :: more) : ∃ old, c :: rest = 's' :: 'k' :: '-' :: old := by
  rcases later.first with rfl | ⟨front, back, next, tail, textEq, _, outEq, _⟩
  · exact ⟨more, begins⟩
  · have parts : out = front ++ '<' :: ("redacted".toList ++ ['>'] ++ tail) := outEq
    obtain ⟨rfl, outBegins⟩ := List.cons.inj begins
    rw [parts] at outBegins
    rcases front with _ | ⟨k, _ | ⟨hyphen, front⟩⟩
    · exact absurd (List.cons.inj outBegins).1 (by decide)
    · exact absurd (List.cons.inj (List.cons.inj outBegins).2).1 (by decide)
    · obtain ⟨rfl, onward⟩ := List.cons.inj outBegins
      obtain ⟨rfl, _⟩ := List.cons.inj onward
      exact ⟨front ++ back, by rw [textEq]; rfl⟩

theorem AfterSecret.eq_of_begins
    (start : AfterSecret words now before ('s' :: 'k' :: '-' :: more)) : now = before := by
  refine start.resolve_right fun ⟨_, _, greedy⟩ => ?_
  exact greedy ['s', 'k'] ('-' :: more) rfl (by simp) (List.all_eq_true.mp rfl) boundary_after_k

theorem noSkSecret_thirdPass (pass : Pass words.isWord skStyleSecret redactSk before text out)
    (start : AfterSecret words now before text) : Everywhere (NoSkSecret words) now out := by
  induction pass generalizing now with
  | done before =>
      refine everywhere_nil fun secret rest sk => ?_
      obtain ⟨more, begins⟩ := sk.head
      cases begins
  | @keep before c rest out unmatched later ih =>
      refine everywhere_cons ?_ (ih (.inl rfl))
      intro secret after sk
      obtain ⟨_, begins⟩ := sk.head
      obtain ⟨old, oldBegins⟩ := begins_of_pass later begins
      rw [oldBegins] at start
      obtain rfl := start.eq_of_begins
      have absurd_ : ∀ {secret after : List Char},
          ¬ SkSecret words now (c :: rest) secret after := by
        intro secret after old
        have matched := match_of_skSecret old
        rw [unmatched] at matched
        cases matched
      rcases later.first with same | ⟨front, back, next, tail', textEq, found, outEq, _⟩
      · subst same
        exact absurd_ sk
      · have parts : c :: out =
            (c :: front) ++ '<' :: ("redacted".toList ++ ['>'] ++ tail') := by
          rw [outEq]
          rfl
        have oldParts : c :: rest = (c :: front) ++ back := by
          rw [textEq]
          rfl
        have spans := sk.parts.symm.trans parts
        rcases straddle spans with ⟨v, more, inside, afterEq⟩ | ⟨left, covered, bracket⟩
        · have same : SkSecret words now (c :: rest) secret (v :: (more ++ back)) := by
            refine ⟨by rw [oldParts, inside]; simp, sk.boundary, sk.shape, ?_⟩
            have ends := sk.ends
            rw [afterEq] at ends
            exact ends
          exact absurd_ same
        · cases left with
          | cons d left =>
              obtain ⟨rfl, _⟩ := List.cons.inj bracket
              have skChar := isSkChar_secret sk '<' (covered ▸ by simp)
              revert skChar
              decide
          | nil =>
              -- the secret would end in a word, and the old one begins behind none
              obtain ⟨other, otherSk, _, _⟩ := skSecret_of_match found
              obtain ⟨_, otherBegins⟩ := otherSk.head
              have ends := sk.ends
              have starts := otherSk.boundary
              rw [List.nil_append] at bracket
              rw [covered, List.append_nil, ← bracket] at ends
              rw [otherBegins] at starts
              have letter_ : words.isWord 's' = true := isWord_of_isKeyChar words (by decide)
              have bracket_ : words.isWord '<' = false :=
                isWord_ascii words (by decide) (by decide)
              rw [atBoundary_iff letter_] at starts
              simp only [AtBoundary, lastOf_cons, List.head?_cons, Option.any_some,
                bracket_, starts, ne_eq, not_true_eq_false] at ends
  | @swap before c rest out next found later ih =>
      have after : Everywhere (NoSkSecret words) (some '>') out :=
        ih (afterSecret_of_match found)
      refine everywhere_append (fun front back inside some_ => ?_) after
      obtain ⟨d, more, rfl⟩ := List.exists_cons_of_ne_nil some_
      have parts : contentRedactedPlaceholder = front ++ d :: more := inside
      have every : ∀ c ∈ contentRedactedPlaceholder, c ≠ 's' := by
        intro c member
        have all : contentRedactedPlaceholder.all (fun c => c != 's') = true := rfl
        simpa using List.all_eq_true.mp all c member
      exact noSkSecret_of_head (every d (parts ▸ List.mem_append_right _ List.mem_cons_self))

end ThirdPass

section Twice

variable (words : WordClass)

theorem consumes_assignment : Consumes words.isWord secretAssignment := by
  intro before text next found
  obtain ⟨key, gap, sign, blank, quote, tail, assignment, _, rest, _⟩ := assignment_of_match found
  have shorter := List.length_dropWhile_le isSecretChar tail
  rw [rest, assignment.parts]
  simp only [List.length_append, List.length_cons]
  omega

theorem consumes_bearer : Consumes words.isWord bearerToken := by
  intro before text next found
  obtain ⟨bearer, spaces, tail, token, bearer_, _, tailEq, _⟩ := bearer_of_match found
  obtain ⟨c, more, rfl, _⟩ := bearer_.keyText.head
  rw [bearer_.parts, tailEq]
  simp only [List.length_append, List.length_cons]
  omega

theorem consumes_sk : Consumes words.isWord skStyleSecret := by
  intro before text next found
  obtain ⟨secret, sk, _, _⟩ := skSecret_of_match found
  obtain ⟨c, more, rfl, _⟩ := sk.shape
  rw [sk.parts]
  simp only [List.length_append, List.length_cons]
  omega

variable {words} {text : List Char}

theorem firstPass_of_clean (clean : Everywhere (CleanAt words) none text) :
    sub words.isWord secretAssignment redactAssignment text = text := by
  refine sub_eq_self (consumes_assignment words) fun front back textEq next found => ?_
  obtain ⟨key, gap, sign, blank, quote, tail, assignment, groups, rest, last⟩ :=
    assignment_of_match found
  obtain ⟨rfl, rfl, value⟩ := clean front back textEq _ _ _ _ _ _ assignment
  have redacted : redactAssignment next.groups =
      key ++ (sign :: (quote ++ contentRedactedPlaceholder)) := by
    rw [groups]
    rfl
  constructor
  · have whole := List.takeWhile_append_dropWhile (p := isSecretChar) (l := tail)
    rw [value] at whole
    rw [redacted, rest, assignment.parts]
    conv_lhs => rw [← whole]
    simp
  · rw [last, redacted, value]
    rfl

theorem secondPass_of_none (none_ : Everywhere (NoBearer words) none text) :
    sub words.isWord bearerToken redactBearer text = text := by
  refine sub_eq_self (consumes_bearer words) fun front back textEq next found => ?_
  obtain ⟨bearer, spaces, tail, _, bearer_, _⟩ := bearer_of_match found
  exact (none_ front back textEq _ _ _ bearer_).elim

theorem thirdPass_of_none (none_ : Everywhere (NoSkSecret words) none text) :
    sub words.isWord skStyleSecret redactSk text = text := by
  refine sub_eq_self (consumes_sk words) fun front back textEq next found => ?_
  obtain ⟨secret, sk, _⟩ := skSecret_of_match found
  exact (none_ front back textEq _ _ sk).elim

theorem redactTextContent_idem (words : WordClass) (text : List Char) :
    redactTextContent words (redactTextContent words text) = redactTextContent words text := by
  have first := pass_sub redactAssignment (consumes_assignment words) text
  have second := pass_sub redactBearer (consumes_bearer words)
    (sub words.isWord secretAssignment redactAssignment text)
  have third := pass_sub redactSk (consumes_sk words)
    (sub words.isWord bearerToken redactBearer
      (sub words.isWord secretAssignment redactAssignment text))
  have clean := clean_thirdPass third
    (clean_secondPass second (clean_firstPass first (.inl rfl)) (.inl rfl)) (.inl rfl)
  have noBearer := noBearer_thirdPass third (noBearer_secondPass second (.inl rfl)) (.inl rfl)
  have noSk := noSkSecret_thirdPass third (.inl rfl)
  change sub words.isWord skStyleSecret redactSk (sub words.isWord bearerToken redactBearer
    (sub words.isWord secretAssignment redactAssignment (redactTextContent words text))) = _
  have same : redactTextContent words text =
      sub words.isWord skStyleSecret redactSk (sub words.isWord bearerToken redactBearer
        (sub words.isWord secretAssignment redactAssignment text)) := rfl
  rw [same, firstPass_of_clean clean, secondPass_of_none noBearer, thirdPass_of_none noSk]

end Twice

end Wlcodex.Runtime
