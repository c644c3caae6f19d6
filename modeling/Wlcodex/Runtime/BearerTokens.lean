import Wlcodex.Runtime.BearerWords

namespace Wlcodex.Runtime

open Wlcodex.Lib
open Wlcodex.Lib.Regex
open Wlcodex.Relay (isSpace)

/-! What `redact_text_content` leaves of a bearer token. -/

section Left

variable {words : WordClass} {before : Option Char} {front bearer gap token post : List Char}

variable {text run rest : List Char}

theorem Swallows.not_mem {bearer gap equals taken : List Char} {c : Char}
    (swallows : Swallows words before text bearer gap run equals rest) (parts : text = taken ++ rest)
    (other : isTokenChar c = false ∧ isSpace c = false ∧ c ≠ '=') : c ∉ taken := by
  have same : taken = bearer ++ (gap ++ (run ++ equals)) := by
    apply @List.append_cancel_right _ _ rest
    rw [← parts, swallows.at_.parts]
    simp
  intro member
  rw [same] at member
  simp only [List.mem_append] at member
  rcases member with inBearer | inGap | inRun | inEquals
  · have tokenTest := swallows.at_.place.isTokenChar c inBearer
    rw [other.1] at tokenTest
    cases tokenTest
  · have space := swallows.at_.spacesTest c inGap
    rw [other.2.1] at space
    cases space
  · have tokenTest := swallows.runTest c inRun
    rw [other.1] at tokenTest
    cases tokenTest
  · exact other.2.2 (swallows.equalsTest c inEquals)

def Shows (text : List Char) : Prop :=
  ∃ front rest, text = front ++ (contentRedactedPlaceholder ++ rest)

theorem Shows.append_right (shows_ : Shows text) (rest : List Char) :
    Shows (text ++ rest) := by
  obtain ⟨front, more, rfl⟩ := shows_
  exact ⟨front, more ++ rest, by simp⟩

theorem Shows.mem_tokens (shows_ : Shows text) : redactedWord ∈ tokens text := by
  obtain ⟨front, rest, rfl⟩ := shows_
  have shape : front ++ (contentRedactedPlaceholder ++ rest) =
      front ++ '<' :: (redactedWord ++ '>' :: rest) := rfl
  rw [shape, tokens_append_cons (by decide), tokens_word_cons (List.all_eq_true.mp rfl) (by decide)]
  simp

variable {ahead out : List Char}

theorem Shows.passTo {pattern : Regex} {replace : List (List Char) → List Char}
    (consumes : Consumes words.isWord pattern)
    (bracket : ∀ before text next taken, matchAt words.isWord pattern before text = some next →
      text = taken ++ next.rest → '<' ∉ taken)
    (unmatched : ∀ before first second rest, contentRedactedPlaceholder = first ++ second → second ≠ [] →
      matchAt words.isWord pattern before (second ++ rest) = none)
    (shows_ : Shows text) (pass : PassTo words.isWord pattern replace before text ahead out) : Shows out := by
  obtain ⟨front, rest, rfl⟩ := shows_
  rcases pass.split consumes with ⟨early, back, rfl, _, onward⟩ |
    ⟨early, late, more, left, next, _, _, rfl, _, parts, crosses, _, found, within, _⟩
  · rcases onward.firstMatch with ⟨back, rfl, _⟩ | ⟨first, second, next, _, _, parts, some_, found, _⟩
    · exact ⟨early, back, rfl⟩
    · rw [unmatched _ first second _ parts some_] at found
      cases found
  · obtain ⟨c, more, rfl⟩ := List.exists_cons_of_ne_nil crosses
    have begins : '<' :: ("redacted".toList ++ ['>'] ++ rest) = c :: (more ++ left) := parts
    obtain rfl := (List.cons.inj begins).1
    refine absurd ?_ (bracket _ _ _ (late ++ '<' :: more) found ?_)
    · simp
    · rw [within, parts]
      simp

theorem Shows.secondPass (shows_ : Shows text)
    (pass : PassTo words.isWord bearerToken redactBearer before text ahead out) : Shows out := by
  refine shows_.passTo (consumes_bearer words) (fun before text next taken found parts => ?_)
    (fun before first second rest parts some_ => ?_) pass
  · obtain ⟨_, _, _, _, swallows, _⟩ := swallows_of_match found
    exact swallows.not_mem parts (by decide)
  · refine Option.eq_none_iff_forall_ne_some.mpr fun next found => ?_
    obtain ⟨_, _, _, _, bearer_, _⟩ := bearer_of_match found
    exact noBearer_placeholder parts some_ _ _ _ bearer_

theorem Shows.thirdPass (shows_ : Shows text)
    (pass : PassTo words.isWord skStyleSecret redactSk before text ahead out) : Shows out := by
  refine shows_.passTo (consumes_sk words) (fun before text next taken found parts member => ?_)
    (fun before first second rest parts some_ => ?_) pass
  · obtain ⟨secret, sk, _⟩ := skSecret_of_match found
    have same : taken = secret := List.append_cancel_right (parts.symm.trans sk.parts)
    have skTest := isSkChar_secret sk '<' (same ▸ member)
    revert skTest
    decide
  · refine Option.eq_none_iff_forall_ne_some.mpr fun next found => ?_
    obtain ⟨secret, sk, _⟩ := skSecret_of_match found
    obtain ⟨more, begins⟩ := sk.head
    obtain ⟨c, second, rfl⟩ := List.exists_cons_of_ne_nil some_
    obtain rfl := (List.cons.inj begins).1
    have inside : 's' ∈ contentRedactedPlaceholder := parts ▸ by simp
    revert inside
    decide

def Recognised (words : WordClass) (front ahead : List Char) : Prop :=
  Scans words.isWord secretAssignment none front ahead ∧
    ∃ count, InRow words count front ahead ∧ Even count

structure Survives (words : WordClass) (gap token post out left ahead : List Char) : Prop where
  parts : out = left ++ (gap ++ (token ++ ahead))
  stops : ∀ c ∈ ahead.head?, isTokenChar c = false
  edge : ahead.head?.any words.isWord = post.head?.any words.isWord

theorem Lacks.suffix {equals : List Char} (equal : ∀ c ∈ equals, c = '=')
    (lacks : Lacks token (equals ++ rest)) : Lacks token rest := by
  rcases List.eq_nil_or_concat equals with rfl | ⟨most, last, rfl⟩
  · exact lacks
  · rw [List.concat_eq_append] at lacks equal
    obtain rfl := equal last (by simp)
    rw [List.append_assoc, List.singleton_append, lacks_append_cons (by decide)] at lacks
    exact lacks.2

variable {wanted : List Char}

variable {result : List Char}

theorem secondPass_word (word : Word words (lastOf before out) bearer gap)
    (some_ : token ≠ []) (run : ∀ c ∈ token, isTokenChar c = true)
    (stops : ∀ c ∈ rest.head?, isTokenChar c = false) (wantedSome : wanted ≠ [])
    (lacksFront : Lacks wanted (out ++ bearer)) (lacksRest : Lacks wanted rest)
    (pass : PassTo words.isWord bearerToken redactBearer before
      (out ++ (bearer ++ (gap ++ (token ++ rest)))) [] result) :
    (Scans words.isWord bearerToken before out (bearer ++ (gap ++ (token ++ rest))) ∧
      Lacks wanted result ∧ Shows result) ∨
    (¬ Scans words.isWord bearerToken before out (bearer ++ (gap ++ (token ++ rest))) ∧
      ∃ left ahead, Survives words gap token rest result left ahead ∧ Lacks wanted left ∧
        Lacks wanted ahead ∧ Shows result) := by
  rcases pass.split (consumes_bearer words) with ⟨early, back, rfl, reached, onward⟩ |
    ⟨early, late, more, left, next, start, back, rfl, lateSome, taken, crosses, reached, found, within, rfl,
      onward⟩
  · rw [List.append_nil] at reached
    refine .inl ⟨reached.scans, ?_⟩
    obtain ⟨v, others, begins⟩ := List.exists_cons_of_ne_nil some_
    have at_ : Bearer words (lastOf before out) (bearer ++ (gap ++ (token ++ rest))) bearer gap
        (token ++ rest) :=
      word.at_ ⟨v, _, run v (begins ▸ List.mem_cons_self), by rw [begins]; rfl⟩
    obtain ⟨next, found⟩ := Option.isSome_iff_exists.mp (match_of_bearer at_)
    obtain ⟨left, back, within, rfl, later⟩ := onward.swapped (word.secret _).2
      (by rwa [List.append_nil])
    obtain ⟨bearer', _, _, equals, swallows, replaced⟩ := swallows_of_match found
    obtain ⟨rfl, -, -, restEq⟩ := swallows.at_word word run some_ stops
    have shape : early ++ (redactBearer next.groups ++ back) =
        (early ++ bearer') ++ ' ' :: '<' :: (redactedWord ++ '>' :: back) := by
      rw [replaced, placeholder_word]
      simp only [List.append_assoc, List.cons_append, List.nil_append]
    have placed : early ++ (redactBearer next.groups ++ back) =
        (early ++ (bearer' ++ [' '])) ++ (contentRedactedPlaceholder ++ back) := by
      rw [replaced]
      simp only [List.append_assoc, List.cons_append, List.nil_append]
    refine ⟨?_, _, back, placed⟩
    have known := tokens_passTo marks_bearer reached (List.prefix_append _ _) []
    have lacksLeft : Lacks wanted left := by
      rw [restEq, within, List.append_nil] at lacksRest
      exact lacksRest.suffix swallows.equalsTest
    have lacksWord : Lacks wanted (redactedWord) := by
      exact fun other member => .inl (List.mem_singleton.mp member)
    have lacksNil : Lacks wanted [] := lacks_of_no_part fun inside => wantedSome (List.infix_nil.mp inside)
    rw [shape, lacks_append_cons (by decide), ← List.nil_append ('<' :: _), lacks_append_cons (by decide),
      lacks_append_cons (by decide)]
    exact ⟨lacksFront.of_tokens wantedSome known, lacksNil, lacksWord,
      lacksLeft.passTo marks_bearer wantedSome later⟩
  · rw [List.append_nil] at reached found within
    obtain ⟨bearer', gap', xs, equals, swallows, replaced⟩ := swallows_of_match found
    rw [lastOf_append] at word
    obtain ⟨_, -, -, leftEq⟩ := swallows.over_word word lateSome (within ▸ taken) crosses
    have shorter : next.rest.length < (bearer ++ (gap ++ (token ++ rest))).length := by
      have positive := List.length_pos_iff.mpr crosses
      rw [taken, within, List.length_append]
      omega
    refine .inr ⟨not_scans_of_match lateSome reached.scans found shorter, ?_⟩
    have behind := passTo_swallowed lateSome found leftEq
    rw [← within, leftEq] at onward
    obtain ⟨back, rfl, later⟩ :=
      passTo_spaces (fun _ _ _ other => marks_bearer.unmatched other) word.spaces onward
    obtain ⟨ahead, rfl, aheadStops, edge, known⟩ := passTo_word marks_bearer run stops later
    rw [← List.append_assoc late] at reached
    have whole := reached.append behind
    have text : early ++ (late ++ bearer) = (early ++ late) ++ bearer := (List.append_assoc ..).symm
    rw [text] at whole
    refine ⟨start ++ redactBearer next.groups, ahead, ⟨(List.append_assoc ..).symm, aheadStops, edge⟩,
      lacksFront.passTo marks_bearer wantedSome whole, lacksRest.of_tokens wantedSome known,
      start ++ (bearer' ++ [' ']), gap ++ (token ++ ahead), ?_⟩
    rw [replaced]
    simp only [List.append_assoc, List.cons_append, List.nil_append]

theorem secondPass_cases (word : Word words (lastOf none front) bearer gap) (some_ : token ≠ [])
    (run : ∀ c ∈ token, isTokenChar c = true) (stops : ∀ c ∈ post.head?, isTokenChar c = false)
    (wantedSome : wanted ≠ []) (lacksFront : Lacks wanted (front ++ bearer)) (lacksPost : Lacks wanted post)
    (same : result = sub words.isWord bearerToken redactBearer
      (sub words.isWord secretAssignment redactAssignment (front ++ (bearer ++ (gap ++ (token ++ post)))))) :
    Shows result ∧
      ((Recognised words front (bearer ++ (gap ++ (token ++ post))) ∧ Lacks wanted result) ∨
        (¬ Recognised words front (bearer ++ (gap ++ (token ++ post))) ∧ ∃ left ahead,
          Survives words gap token post result left ahead ∧ Lacks wanted left ∧ Lacks wanted ahead)) := by
  have first := (pass_sub redactAssignment (consumes_assignment words)
    (front ++ (bearer ++ (gap ++ (token ++ post))))).toPlace
  have second := (pass_sub redactBearer (consumes_bearer words) (sub words.isWord secretAssignment
    redactAssignment (front ++ (bearer ++ (gap ++ (token ++ post)))))).toPlace
  rw [← same] at second
  generalize sub words.isWord secretAssignment redactAssignment _ = middle at first second
  rw [← List.append_assoc front] at first
  obtain ⟨early, late, rfl, before_, behind⟩ := firstPass_behind word first
  obtain ⟨rest, rfl, restStops, edge, known⟩ := passTo_word marks_assignment run stops behind
  have lacksEarly : Lacks wanted early := lacksFront.passTo marks_assignment wantedSome before_
  have lacksRest : Lacks wanted rest := lacksPost.of_tokens wantedSome known
  rcases firstPass_word word before_ with ⟨early, rfl, free⟩ | ⟨taken, early, rfl⟩
  · obtain ⟨count, row⟩ := exists_inRow words front (bearer ++ (gap ++ (token ++ post)))
    have place := word
    rw [← lastOf_firstPass free (word.secret _).1 (word.secret _).2] at place
    have even := scans_secondPass_iff row free rfl word (token ++ rest)
    rw [List.append_assoc] at second
    rcases secondPass_word place some_ run restStops wantedSome lacksEarly lacksRest second with
      ⟨scans, lacks, shows_⟩ | ⟨crossed, left, ahead, survives, lacksLeft, lacksAhead, shows_⟩
    · exact ⟨shows_, .inl ⟨⟨free.scans, count, row, even.mp scans⟩, lacks⟩⟩
    · refine ⟨shows_, .inr ⟨?_, left, ahead, ⟨survives.parts, survives.stops, survives.edge.trans edge⟩,
        lacksLeft, lacksAhead⟩⟩
      rintro ⟨_, count', row', even'⟩
      exact crossed ((scans_secondPass_iff row' free rfl word (token ++ rest)).mpr even')
  · -- the word was the end of a value
    rcases second.split (consumes_bearer words) with ⟨start, back, rfl, reached, onward⟩ |
      ⟨first', last, more, left, next, _, _, parts, lastSome, spaced, crosses, _, found, within, _⟩
    · obtain ⟨back, rfl, later⟩ :=
        passTo_spaces (fun _ _ _ other => marks_bearer.unmatched other) word.spaces onward
      obtain ⟨ahead, rfl, aheadStops, edge', known'⟩ := passTo_word marks_bearer run restStops later
      have shows_ : Shows start := Shows.secondPass ⟨early, [], by rw [List.append_nil]⟩ reached
      exact ⟨shows_.append_right _, .inr ⟨fun recognised => taken recognised.1, start, ahead,
        ⟨rfl, aheadStops, edge'.trans edge⟩, lacksEarly.passTo marks_bearer wantedSome reached,
        lacksRest.of_tokens wantedSome known'⟩⟩
    · exfalso
      obtain ⟨_, _, _, _, swallows, _⟩ := swallows_of_match found
      have missing : '>' ∉ last ++ more := swallows.not_mem (by rw [within, spaced]; simp) (by decide)
      rcases List.eq_nil_or_concat last with rfl | ⟨most, c, rfl⟩
      · exact lastSome rfl
      · rw [placeholder_word, List.concat_eq_append, ← List.cons_append, ← List.append_assoc,
          ← List.append_assoc] at parts
        obtain ⟨_, ends⟩ := List.append_inj' parts rfl
        obtain rfl := (List.cons.inj ends).1
        exact missing (by simp)

/-- No secret of the `sk-` style is taken from the token, and it ends there: another token character
does not follow, or a secret does. -/
def Stands (words : WordClass) (before : Option Char) (token post : List Char) : Prop :=
  (∀ front back, token = front ++ back → back ≠ [] →
    NoSkSecret words (lastOf before front) (back ++ post)) ∧
  ((∀ c ∈ post.head?, isTokenChar c = false) ∨ ¬ NoSkSecret words (lastOf before token) post)

theorem match_sk_iff :
    matchAt words.isWord skStyleSecret before text = none ↔ NoSkSecret words before text := by
  constructor
  · intro none_ secret rest sk
    have found := match_of_skSecret sk
    rw [none_] at found
    cases found
  · intro none_
    refine Option.eq_none_iff_forall_ne_some.mpr fun next found => ?_
    obtain ⟨secret, sk, _⟩ := skSecret_of_match found
    exact none_ _ _ sk

theorem SkSecret.in_run {secret left : List Char}
    (sk : SkSecret words before text secret left) (parts : text = run ++ rest)
    (stops : ∀ c ∈ rest.head?, isTokenChar c = false) :
    ∃ more, run = secret ++ more ∧ left = more ++ rest := by
  have text := parts.symm.trans sk.parts
  rcases List.append_eq_append_iff.mp text with ⟨more, secretEq, restEq⟩ | ⟨more, runEq, leftEq⟩
  · cases more with
    | nil => exact ⟨[], by rw [secretEq, List.append_nil, List.append_nil], restEq.symm⟩
    | cons c more =>
        have token := isTokenChar_of_isSkChar (isSkChar_secret sk c (by rw [secretEq]; simp))
        rw [stops c (by rw [restEq]; rfl)] at token
        cases token
  · exact ⟨more, runEq, leftEq⟩

theorem noSkSecret_congr {other : List Char} (stops : ∀ c ∈ rest.head?, isTokenChar c = false)
    (edge : rest.head?.any words.isWord = other.head?.any words.isWord)
    (none_ : NoSkSecret words before (run ++ other)) : NoSkSecret words before (run ++ rest) := by
  intro secret left sk
  obtain ⟨more, rfl, rfl⟩ := sk.in_run rfl stops
  obtain ⟨c, others, shape, test⟩ := sk.shape
  refine none_ secret (more ++ other) ⟨by simp, ?_, ⟨c, others, shape, test⟩, ?_⟩
  · have boundary := sk.boundary
    rw [shape] at boundary ⊢
    exact boundary
  · have ends := sk.ends
    cases more with
    | nil => simpa [AtBoundary, edge] using ends
    | cons d more => exact ends

theorem stands_congr {other : List Char} (stops : ∀ c ∈ rest.head?, isTokenChar c = false)
    (otherStops : ∀ c ∈ other.head?, isTokenChar c = false)
    (edge : rest.head?.any words.isWord = other.head?.any words.isWord) :
    Stands words before token (run ++ rest) ↔ Stands words before token (run ++ other) := by
  have heads : (∀ c ∈ (run ++ rest).head?, isTokenChar c = false) ↔
      ∀ c ∈ (run ++ other).head?, isTokenChar c = false := by
    cases run with
    | nil => exact iff_of_true stops otherStops
    | cons c run => exact Iff.rfl
  refine and_congr (forall₂_congr fun front back => forall₂_congr fun _ _ => ?_)
    (or_congr heads (not_congr ?_))
  · rw [← List.append_assoc, ← List.append_assoc]
    exact ⟨noSkSecret_congr otherStops edge.symm, noSkSecret_congr stops edge⟩
  · exact ⟨noSkSecret_congr otherStops edge.symm, noSkSecret_congr stops edge⟩

theorem lacks_run (missing : ¬ wanted <:+: run) (stops : ∀ c ∈ rest.head?, isTokenChar c = false)
    (lacks : Lacks wanted rest) : Lacks wanted (run ++ rest) := by
  cases rest with
  | nil => exact (List.append_nil run).symm ▸ lacks_of_no_part missing
  | cons c rest =>
      rw [lacks_append_cons (stops c rfl)]
      rw [← List.nil_append (c :: rest), lacks_append_cons (stops c rfl)] at lacks
      exact ⟨lacks_of_no_part missing, lacks.2⟩

theorem Lacks.not_mem (lacks : Lacks wanted text) (other : wanted ≠ redactedWord) :
    wanted ∉ tokens text := fun member =>
  (lacks wanted member).elim other fun missing => missing List.infix_rfl

theorem mem_tokens_iff {back : List Char} (wantedTest : ∀ c ∈ wanted, isTokenChar c = true)
    (missing : wanted ∉ tokens back) :
    wanted ∈ tokens (wanted ++ back) ↔ ∀ c ∈ back.head?, isTokenChar c = false := by
  constructor
  · intro member c head
    rw [Bool.eq_false_iff]
    intro token
    rcases exists_first_token back with all | ⟨first, d, rest, rfl, other, all⟩
    · rw [tokens_of_forall fun e inside => (List.mem_append.mp inside).elim (wantedTest e) (all e),
        List.mem_singleton] at member
      rw [List.self_eq_append_right.mp member] at head
      cases head
    · rw [← List.append_assoc, tokens_word_cons (fun e inside =>
        (List.mem_append.mp inside).elim (wantedTest e) (all e)) other] at member
      rcases List.mem_cons.mp member with same | later
      · rw [List.self_eq_append_right.mp same] at head
        obtain rfl := Option.some.inj head
        rw [other] at token
        cases token
      · rw [tokens_word_cons all other] at missing
        exact missing (List.mem_cons_of_mem _ later)
  · intro stops
    cases back with
    | nil =>
        rw [List.append_nil, tokens_of_forall wantedTest]
        exact List.mem_singleton_self _
    | cons c rest =>
        rw [tokens_word_cons wantedTest (stops c rfl)]
        exact List.mem_cons_self

theorem thirdPass_stands (wantedTest : ∀ c ∈ wanted, isTokenChar c = true)
    (other : wanted ≠ redactedWord) (some_ : wanted ≠ [])
    (stops : ∀ c ∈ rest.head?, isTokenChar c = false) (lacks : Lacks wanted rest)
    (once : ¬ wanted <:+: (wanted ++ run).tail)
    (pass : PassTo words.isWord skStyleSecret redactSk before (wanted ++ (run ++ rest)) [] result) :
    wanted ∈ tokens result ↔ Stands words before wanted (run ++ rest) := by
  have inTail {text more : List Char} (parts : wanted ++ run = text ++ more) (nonempty : text ≠ []) :
      ¬ wanted <:+: more := by
    intro inside
    refine once (inside.trans ?_)
    rw [parts]
    obtain ⟨c, text, rfl⟩ := List.exists_cons_of_ne_nil nonempty
    exact (List.suffix_append text more).isInfix
  rcases pass.firstMatch with ⟨back, rfl, none_, later⟩ |
    ⟨early, late, next, left, back, parts, lateSome, found, within, rfl, later⟩
  · have lacksOnward : Lacks wanted (run ++ rest) := lacks_run (inTail rfl some_) stops lacks
    have missing := (lacksOnward.thirdPass some_ later).not_mem other
    have whole : ∀ front back, wanted = front ++ back → back ≠ [] →
        NoSkSecret words (lastOf before front) (back ++ (run ++ rest)) := by
      intro front back' parts nonempty
      obtain ⟨c, back', rfl⟩ := List.exists_cons_of_ne_nil nonempty
      have unmatched := none_ front c back' parts
      rw [List.append_nil] at unmatched
      exact match_sk_iff.mp unmatched
    rw [mem_tokens_iff wantedTest missing, Stands, and_iff_right whole]
    generalize run ++ rest = text at later
    cases later with
    | done => exact iff_of_true (by simp) (.inl (by simp))
    | keep unmatched =>
        rw [List.append_nil] at unmatched
        have none_ := match_sk_iff.mp unmatched
        simp [none_]
    | swap found =>
        rw [List.append_nil] at found
        refine iff_of_true ?_ (.inr fun none_ => ?_)
        · rintro _ ⟨⟩
          decide
        · rw [match_sk_iff.mpr none_] at found
          cases found
  · rw [List.append_nil] at found within
    have falls : ¬ Stands words before wanted (run ++ rest) := by
      intro stands
      rw [match_sk_iff.mpr (stands.1 early late parts lateSome)] at found
      cases found
    refine iff_of_false (Lacks.not_mem ?_ other) falls
    obtain ⟨secret, sk, _⟩ := skSecret_of_match found
    obtain ⟨more, runEq, leftEq⟩ := sk.in_run (List.append_assoc ..).symm stops
    have secretSome : secret ≠ [] := by
      obtain ⟨_, _, rfl, _⟩ := sk.shape
      exact List.cons_ne_nil _ _
    have lacksLeft : Lacks wanted left := by
      rw [← within, leftEq]
      refine lacks_run (@inTail (early ++ secret) more ?_ ?_) stops lacks
      · rw [parts, List.append_assoc, List.append_assoc, runEq]
      · exact List.append_ne_nil_of_right_ne_nil _ secretSome
    have lacksEarly : Lacks wanted early := by
      refine lacks_of_no_part fun inside => lateSome (List.length_eq_zero_iff.mp ?_)
      have shorter := inside.length_le
      rw [parts, List.length_append] at shorter
      omega
    have lacksWord : Lacks wanted redactedWord := by
      exact fun other member => .inl (List.mem_singleton.mp member)
    have shape : early ++ (redactSk next.groups ++ back) =
        early ++ '<' :: (redactedWord ++ '>' :: back) := rfl
    rw [shape, lacks_append_cons (by decide), lacks_append_cons (by decide)]
    exact ⟨lacksEarly, lacksWord, lacksLeft.thirdPass some_ later⟩

theorem mem_tokens_behind (some_ : token ≠ []) (spaces : ∀ c ∈ gap, isSpace c = true) (nonempty : gap ≠ [])
    (missing : token ∉ tokens front) (rest : List Char) :
    token ∈ tokens (front ++ (gap ++ rest)) ↔ token ∈ tokens rest := by
  induction gap generalizing front with
  | nil => exact absurd rfl nonempty
  | cons space gap ih =>
      rw [List.forall_mem_cons] at spaces
      rw [List.cons_append, tokens_append_cons (isTokenChar_of_isSpace spaces.1), List.mem_append,
        or_iff_right missing]
      cases gap with
      | nil => rfl
      | cons second gap =>
          have none_ : token ∉ tokens [] := by
            rw [tokens, List.splitOnP_nil, List.mem_singleton]
            exact some_
          exact ih spaces.2 (List.cons_ne_nil _ _) none_

theorem thirdPass_behind {left : List Char} (spaces : ∀ c ∈ gap, isSpace c = true) (nonempty : gap ≠ [])
    (pass : PassTo words.isWord skStyleSecret redactSk none (left ++ (gap ++ rest)) [] result) :
    ∃ early late, result = early ++ (gap ++ late) ∧
      PassTo words.isWord skStyleSecret redactSk none left (gap ++ rest) early ∧
      PassTo words.isWord skStyleSecret redactSk (lastOf none gap) rest [] late := by
  rcases pass.split (consumes_sk words) with ⟨early, back, rfl, reached, onward⟩ |
    ⟨first, late, more, left', next, _, _, _, _, taken, crosses, _, found, within, _⟩
  · rw [List.append_nil] at reached
    obtain ⟨late, rfl, later⟩ := passTo_spaces (fun _ _ _ other => unmatched_sk other) spaces onward
    rw [lastOf_congr _ none nonempty] at later
    exact ⟨early, late, rfl, reached, later⟩
  · obtain ⟨secret, sk, _⟩ := skSecret_of_match found
    obtain ⟨space, gap, rfl⟩ := List.exists_cons_of_ne_nil nonempty
    obtain ⟨c, more, rfl⟩ := List.exists_cons_of_ne_nil crosses
    obtain ⟨rfl, _⟩ := List.cons.inj taken
    have same : late ++ space :: more = secret := by
      apply @List.append_cancel_right _ _ next.rest
      rw [← sk.parts, within, taken]
      simp
    have token := isTokenChar_of_isSkChar (isSkChar_secret sk space (by rw [← same]; simp))
    rw [isTokenChar_of_isSpace (spaces space List.mem_cons_self)] at token
    cases token

/-- A bearer token that stands in the text once is taken out exactly if it is not the word of the
placeholder, and its `Bearer` is recognised or the token itself is a secret of the `sk-` style. -/
theorem bearer_token_redacted_iff (word : Word words (lastOf none front) bearer gap)
    (tokenTest : ∀ c ∈ token, isTokenChar c = true) (some_ : token ≠ [])
    (once : ∀ early late, front ++ (bearer ++ (gap ++ (token ++ post))) = early ++ (token ++ late) →
      early = front ++ (bearer ++ gap)) :
    token ∉ tokens (redactTextContent words (front ++ (bearer ++ (gap ++ (token ++ post))))) ↔
      token ≠ redactedWord ∧
        (Recognised words front (bearer ++ (gap ++ (token ++ post))) ∨
          ¬ Stands words (lastOf none gap) token post) := by
  have place {early late : List Char}
      (parts : front ++ (bearer ++ (gap ++ (token ++ post))) = early ++ (token ++ late)) :
      early.length = front.length + (bearer.length + gap.length) := by
    rw [once early late parts]
    simp
  have positive := List.length_pos_iff.mpr some_
  have missing : ¬ token <:+: front ++ bearer := by
    rintro ⟨early, late, parts⟩
    have length := @place early (late ++ (gap ++ (token ++ post))) (by
      rw [← List.append_assoc front, ← parts]
      simp)
    have whole := congrArg List.length parts
    simp only [List.length_append] at whole
    omega
  obtain ⟨run, rest, rfl, runTest, stops⟩ : ∃ run rest, post = run ++ rest ∧
      (∀ c ∈ run, isTokenChar c = true) ∧ ∀ c ∈ rest.head?, isTokenChar c = false :=
    ⟨_, _, List.takeWhile_append_dropWhile.symm, fun c member => List.mem_takeWhile_imp member,
      head?_dropWhile⟩
  have after {text back : List Char} (parts : token ++ (run ++ rest) = text ++ back) (nonempty : text ≠ []) :
      ¬ token <:+: back := by
    rintro ⟨early, late, rfl⟩
    have length := @place (front ++ (bearer ++ (gap ++ (text ++ early)))) late (by
      rw [parts]
      simp)
    have some' := List.length_pos_iff.mpr nonempty
    simp only [List.length_append] at length
    omega
  have lacksFront : Lacks token (front ++ bearer) := lacks_of_no_part missing
  have lacksRest : Lacks token rest :=
    lacks_of_no_part (@after (token ++ run) rest (by simp) (by simp [some_]))
  have whole : ∀ c ∈ token ++ run, isTokenChar c = true := fun c member =>
    (List.mem_append.mp member).elim (tokenTest c) (runTest c)
  obtain ⟨w, ws, begins⟩ := List.exists_cons_of_ne_nil some_
  have third := (pass_sub redactSk (consumes_sk words) (sub words.isWord bearerToken redactBearer
    (sub words.isWord secretAssignment redactAssignment
      (front ++ (bearer ++ (gap ++ (token ++ (run ++ rest)))))))).toPlace
  have text : redactTextContent words (front ++ (bearer ++ (gap ++ (token ++ (run ++ rest))))) =
      sub words.isWord skStyleSecret redactSk (sub words.isWord bearerToken redactBearer
        (sub words.isWord secretAssignment redactAssignment
          (front ++ (bearer ++ (gap ++ (token ++ (run ++ rest))))))) := rfl
  rw [text]
  have regroup : token ++ (run ++ rest) = (token ++ run) ++ rest := (List.append_assoc ..).symm
  obtain ⟨shows_, cases_⟩ := secondPass_cases word (by simp [some_]) whole stops some_ lacksFront
    lacksRest rfl
  rw [← regroup] at shows_ cases_
  generalize sub words.isWord bearerToken redactBearer _ = second at third shows_ cases_ ⊢
  generalize sub words.isWord skStyleSecret redactSk second = result at third ⊢
  by_cases same : token = redactedWord
  · refine iff_of_false (fun gone => gone ?_) fun holds => holds.1 same
    rw [same]
    exact (shows_.thirdPass third).mem_tokens
  · rw [and_iff_right same]
    rcases cases_ with ⟨recognised, lacks⟩ | ⟨missed, left, ahead, survives, lacksLeft, lacksAhead⟩
    · exact iff_of_true ((lacks.thirdPass some_ third).not_mem same) (.inl recognised)
    · rw [or_iff_right missed, not_iff_not]
      obtain ⟨rfl, aheadStops, edge⟩ := survives
      obtain ⟨early, late, rfl, reached, onward⟩ := thirdPass_behind word.spaces word.nonempty third
      rw [mem_tokens_behind some_ word.spaces word.nonempty
        ((lacksLeft.thirdPass some_ reached).not_mem same), ← stands_congr aheadStops stops edge]
      rw [List.append_assoc] at onward
      refine thirdPass_stands tokenTest same some_ aheadStops lacksAhead ?_ onward
      rw [begins, List.cons_append, List.tail_cons]
      intro inside
      refine @after [w] (ws ++ (run ++ rest)) (by rw [begins]; rfl) (by simp) ?_
      rw [← begins] at inside
      exact inside.trans ⟨[], rest, by simp⟩

theorem once_of_places {text word : List Char} {place : Nat}
    (only : ∀ n ∈ List.range (text.length + 1), word <+: text.drop n → n = place) {early late : List Char}
    (parts : text = early ++ (word ++ late)) : early = text.take place := by
  have here : early.length = place := by
    refine only early.length (List.mem_range.mpr ?_) ?_
    · rw [parts, List.length_append]
      omega
    · rw [parts, List.drop_left]
      exact List.prefix_append word late
  rw [← here, parts, List.take_left]

theorem spells_of_fold {first : Char} {word : List Char} (letters : word.map foldCase = first :: rest) :
    Spells (spelled first rest) word := by
  induction rest generalizing first word with
  | nil =>
      obtain ⟨c, _, rfl, rfl, nothing⟩ := List.map_eq_cons_iff.mp letters
      rw [List.map_eq_nil_iff.mp nothing]
      exact ⟨c, beq_self_eq_true _, rfl⟩
  | cons second rest ih =>
      obtain ⟨c, word, rfl, rfl, onward⟩ := List.map_eq_cons_iff.mp letters
      exact ⟨[c], word, ⟨c, beq_self_eq_true _, rfl⟩, ih onward, rfl⟩

theorem bearer_abc (front : List Char) (edge : (lastOf none front).any plainWords.isWord = false) :
    Word plainWords (lastOf none front) "Bearer".toList [' '] :=
  ⟨spells_of_fold (by decide), edge, by simp, List.all_eq_true.mp (by decide)⟩

theorem bearer_token_is_redacted :
    "abc".toList ∉ tokens (redactTextContent plainWords "Bearer abc".toList) := by
  refine (bearer_token_redacted_iff (bearer_abc [] rfl)
    (List.all_eq_true.mp (by decide)) (by decide) fun early late parts => ?_).mpr
    ⟨by decide, .inl ⟨.here _ _, 0, .first fun early bearer gap run parts link => ?_, .zero⟩⟩
  · exact @once_of_places _ _ 7 (by decide +kernel) _ _ parts
  · obtain ⟨b, others, rfl, _⟩ := link.word.place.head
    simp at parts

/-- The name of the header assigns the word, and the token behind it is not recognised. -/
theorem authorization_header_leaks_token :
    ¬ ∀ (words : WordClass) (front bearer gap token post : List Char),
      Word words (lastOf none front) bearer gap → (∀ c ∈ token, isTokenChar c = true) → token ≠ [] →
      (∀ early late, front ++ (bearer ++ (gap ++ (token ++ post))) = early ++ (token ++ late) →
        early = front ++ (bearer ++ gap)) →
      token ∉ tokens (redactTextContent words (front ++ (bearer ++ (gap ++ (token ++ post))))) := by
  intro redacted
  refine redacted plainWords "Authorization: ".toList "Bearer".toList [' '] "abc".toList []
    (bearer_abc _ (by decide)) (List.all_eq_true.mp (by decide)) (by decide) (fun early late parts => ?_) (by decide +kernel)
  exact @once_of_places _ _ 22 (by decide +kernel) _ _ parts

end Left

end Wlcodex.Runtime
