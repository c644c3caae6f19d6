import Wlcodex.Runtime.RedactionMatches

namespace Wlcodex.Runtime

open Wlcodex.Lib
open Wlcodex.Lib.Regex
open Wlcodex.Relay (isSpace)

/-! Where secrets stand in a text, and the first pass of `redact_text_content`. -/

section Classes

variable {c : Char}

theorem isKeyLike_of_isSpace (space : isSpace c = true) : isKeyLike c = false := by
  rw [Bool.eq_false_iff, Ne, isKeyLike_iff, isKeyChar_iff]
  rw [isSpace_iff] at space
  omega

theorem isKeyLike_of_isAssign (assign : isAssign c = true) : isKeyLike c = false := by
  rw [Bool.eq_false_iff, Ne, isKeyLike_iff, isKeyChar_iff]
  rw [isAssign_iff] at assign
  omega

theorem isKeyLike_of_isQuote (quote : isQuote c = true) : isKeyLike c = false := by
  rw [Bool.eq_false_iff, Ne, isKeyLike_iff, isKeyChar_iff]
  rw [isQuote_iff] at quote
  omega

theorem isSpace_of_isAssign (assign : isAssign c = true) : isSpace c = false := by
  rw [Bool.eq_false_iff, Ne, isSpace_iff]
  rw [isAssign_iff] at assign
  omega

theorem isSpace_of_isQuote (quote : isQuote c = true) : isSpace c = false := by
  rw [Bool.eq_false_iff, Ne, isSpace_iff]
  rw [isQuote_iff] at quote
  omega

theorem isSecretChar_of_isKeyLike (key : isKeyLike c = true) : isSecretChar c = true := by
  rw [isKeyLike_iff, isKeyChar_iff] at key
  rw [isSecretChar_iff, Bool.eq_false_iff, Bool.eq_false_iff, Ne, Ne, isSpace_iff, isQuote_iff]
  omega

theorem isSecretChar_of_isSpace (space : isSpace c = true) : isSecretChar c = false := by
  rw [Bool.eq_false_iff, Ne, isSecretChar_iff]
  rw [space]
  simp

theorem isTokenChar_of_isKeyChar (key : isKeyChar c = true) : isTokenChar c = true := by
  rw [isKeyChar_iff] at key
  rw [isTokenChar_iff, isFoldedAlnum_iff]
  omega

end Classes

section Places

variable {words : WordClass} {before : Option Char} {text key gap : List Char} {sign : Char}
  {blank quote tail : List Char}

variable {c : Char} {rest : List Char}

theorem atBoundary_iff (word : words.isWord c = true) :
    AtBoundary words.isWord ⟨before, c :: rest, []⟩ ↔ before.any words.isWord = false := by
  simp [AtBoundary, word]

section

variable (assignment : Assignment words before text key gap sign blank quote tail)

include assignment

theorem Assignment.middle :
    ∀ c ∈ gap ++ sign :: (blank ++ quote), isKeyLike c = false := by
  intro c member
  rcases List.mem_append.mp member with inGap | inRest
  · exact isKeyLike_of_isSpace (assignment.gapSpaces c inGap)
  · rcases List.mem_cons.mp inRest with rfl | inRest
    · exact isKeyLike_of_isAssign assignment.signTest
    · rcases List.mem_append.mp inRest with inBlank | inQuote
      · exact isKeyLike_of_isSpace (assignment.blankSpaces c inBlank)
      · rcases assignment.quoteTest with rfl | ⟨q, test, rfl⟩
        · cases inQuote
        · rw [List.mem_singleton.mp inQuote]
          exact isKeyLike_of_isQuote test

theorem Assignment.head :
    ∃ c rest, text = c :: rest ∧ isKeyChar c = true := by
  obtain ⟨c, rest, rfl, test⟩ := (keyText_secretKey assignment.spelled).head
  exact ⟨c, _, assignment.parts, test⟩

theorem Assignment.spans :
    (key ++ (gap ++ sign :: (blank ++ quote))) ++ tail = text := by
  rw [assignment.parts]
  simp

end

theorem cut_unique {test : Char → Bool} {first second : List Char} {d : Char}
    {later : List Char} (firstAll : ∀ e ∈ first, test e = true)
    (secondAll : ∀ e ∈ second, test e = true) (firstStop : test c = false)
    (secondStop : test d = false) (same : first ++ c :: rest = second ++ d :: later) :
    first = second ∧ c = d ∧ rest = later := by
  induction first generalizing second with
  | nil =>
      cases second with
      | nil => exact ⟨rfl, List.cons.inj same⟩
      | cons e second =>
          obtain ⟨rfl, _⟩ := List.cons.inj same
          rw [secondAll c List.mem_cons_self] at firstStop
          cases firstStop
  | cons e first ih =>
      cases second with
      | nil =>
          obtain ⟨rfl, _⟩ := List.cons.inj same
          rw [firstAll e List.mem_cons_self] at secondStop
          cases secondStop
      | cons f second =>
          obtain ⟨rfl, onward⟩ := List.cons.inj same
          rw [List.forall_mem_cons] at firstAll secondAll
          obtain ⟨rfl, rest⟩ := ih firstAll.2 secondAll.2 onward
          exact ⟨rfl, rest⟩

variable {run : List Char}

theorem Assignment.key_eq (assignment : Assignment words before text key gap sign blank quote tail) (runAll : ∀ d ∈ run, isKeyLike d = true)
    (stop : isKeyLike c = false) (parts : text = run ++ c :: rest) :
    key = run ∧ gap ++ sign :: (blank ++ (quote ++ tail)) = c :: rest := by
  have keyAll := (keyText_secretKey assignment.spelled).all
  have same := assignment.parts.symm.trans parts
  cases gap with
  | nil =>
      obtain ⟨rfl, rfl, rfl⟩ := cut_unique keyAll runAll
        (isKeyLike_of_isAssign assignment.signTest) stop same
      exact ⟨rfl, rfl⟩
  | cons space gap =>
      have spaceTest := assignment.gapSpaces space List.mem_cons_self
      obtain ⟨rfl, rfl, rfl⟩ := cut_unique keyAll runAll (isKeyLike_of_isSpace spaceTest) stop same
      exact ⟨rfl, rfl⟩

theorem not_assignment (runAll : ∀ d ∈ run, isKeyLike d = true) (keyEnd : isKeyLike c = false)
    (visible : isSpace c = false) (unassigned : isAssign c = false) :
    ¬ Assignment words before (run ++ c :: rest) key gap sign blank quote tail := by
  intro assignment
  obtain ⟨rfl, onward⟩ := assignment.key_eq runAll keyEnd rfl
  cases gap with
  | nil =>
      obtain ⟨rfl, _⟩ := List.cons.inj onward
      rw [assignment.signTest] at unassigned
      cases unassigned
  | cons space gap =>
      obtain ⟨rfl, _⟩ := List.cons.inj onward
      rw [assignment.gapSpaces space List.mem_cons_self] at visible
      cases visible

theorem not_assignment_of_space {space : Char}
    (runAll : ∀ d ∈ run, isKeyLike d = true) (spaceTest : isSpace space = true)
    (visible : isSpace c = false) (unassigned : isAssign c = false) :
    ¬ Assignment words before (run ++ space :: c :: rest) key gap sign blank quote tail := by
  intro assignment
  obtain ⟨rfl, onward⟩ := assignment.key_eq runAll (isKeyLike_of_isSpace spaceTest) rfl
  cases gap with
  | nil =>
      obtain ⟨rfl, _⟩ := List.cons.inj onward
      rw [isSpace_of_isAssign assignment.signTest] at spaceTest
      cases spaceTest
  | cons first gap =>
      obtain ⟨_, onward⟩ := List.cons.inj onward
      cases gap with
      | nil =>
          obtain ⟨rfl, _⟩ := List.cons.inj onward
          rw [assignment.signTest] at unassigned
          cases unassigned
      | cons second gap =>
          obtain ⟨rfl, _⟩ := List.cons.inj onward
          rw [assignment.gapSpaces second (by simp)] at visible
          cases visible

theorem Assignment.transfer {common : List Char}
    (assignment : Assignment words before (common ++ rest) key gap sign blank quote tail)
    {v : Char} {more : List Char} (inside : common = key ++ (gap ++ sign :: (blank ++ quote)) ++ v :: more)
    (tailEq : tail = v :: (more ++ rest)) (other : List Char) :
    Assignment words before (common ++ other) key gap sign blank quote (v :: (more ++ other)) := by
  obtain ⟨c, keyRest, keyEq, _⟩ := (keyText_secretKey assignment.spelled).head
  refine { assignment with
    parts := by rw [inside]; simp
    boundary := ?_
    value := ?_ }
  · have boundary := assignment.boundary
    rw [inside, keyEq] at boundary ⊢
    exact boundary
  · obtain ⟨w, rest', test, eq⟩ := assignment.value
    obtain ⟨rfl, _⟩ := List.cons.inj (tailEq.symm.trans eq)
    exact ⟨v, _, test, rfl⟩

theorem straddle {front onward common : List Char} (same : front ++ onward = common ++ rest) :
    (∃ v more, common = front ++ v :: more ∧ onward = v :: (more ++ rest)) ∨
      ∃ more, front = common ++ more ∧ rest = more ++ onward := by
  rcases List.append_eq_append_iff.mp same with ⟨more, rfl, rfl⟩ | ⟨more, rfl, rfl⟩
  · cases more with
    | nil => exact .inr ⟨[], by simp, rfl⟩
    | cons v more => exact .inl ⟨v, more, rfl, rfl⟩
  · exact .inr ⟨more, rfl, rfl⟩

theorem within_key {front key middle more : List Char} (some_ : run ≠ [])
    (runAll : ∀ c ∈ run, isKeyLike c = true) (middleAll : ∀ c ∈ middle, isKeyLike c = false)
    (same : key ++ middle = front ++ run ++ more) :
    ∃ rest, key = front ++ run ++ rest ∧ more = rest ++ middle := by
  rcases List.append_eq_append_iff.mp same with ⟨rest, covered, middleEq⟩ | ⟨rest, keyEq, moreEq⟩
  · cases rest with
    | nil => exact ⟨[], by simpa using covered.symm, by simpa using middleEq.symm⟩
    | cons c rest =>
        -- the last character of the common part would stand behind the key
        obtain ⟨last, member, lastEq⟩ := lastOf_mem (lastOf none front) some_
        obtain ⟨other, otherMember, otherEq⟩ :=
          lastOf_mem (lastOf none key) (List.cons_ne_nil c rest)
        have ends := congrArg (lastOf none) covered
        rw [lastOf_append, lastOf_append, lastEq, otherEq, Option.some.injEq] at ends
        have outside := middleAll other (middleEq ▸ List.mem_append_left _ otherMember)
        rw [← ends, runAll last member] at outside
        cases outside
  · exact ⟨rest, keyEq, moreEq⟩

end Places

section Clean

variable (words : WordClass)

def CleanAt (before : Option Char) (text : List Char) : Prop :=
  ∀ key gap sign blank quote tail, Assignment words before text key gap sign blank quote tail →
      gap = [] ∧ blank = [] ∧ tail.takeWhile isSecretChar = contentRedactedPlaceholder

def NoBearer (before : Option Char) (text : List Char) : Prop :=
  ∀ bearer spaces tail, ¬ Bearer words before text bearer spaces tail

def NoSkSecret (before : Option Char) (text : List Char) : Prop :=
  ∀ secret rest, ¬ SkSecret words before text secret rest

variable {words} {before : Option Char}

theorem placeholder_eq : contentRedactedPlaceholder =
    '<' :: ("redacted".toList ++ ['>']) := rfl

variable {rest : List Char}

theorem takeWhile_placeholder (stops : ∀ c ∈ rest.head?, isSecretChar c = false) :
    (contentRedactedPlaceholder ++ rest).takeWhile isSecretChar = contentRedactedPlaceholder := by
  have all : ∀ c ∈ contentRedactedPlaceholder, isSecretChar c = true :=
    List.all_eq_true.mp rfl
  rw [List.takeWhile_append_of_pos all]
  cases rest with
  | nil => simp
  | cons c rest =>
      rw [List.takeWhile_cons_of_neg (by rw [stops c rfl]; decide), List.append_nil]

theorem cleanAt_placeholder {front back : List Char}
    (inside : contentRedactedPlaceholder = front ++ back) (some_ : back ≠ []) :
    CleanAt words (lastOf before front) (back ++ rest) := by
  intro key gap sign blank quote tail assignment
  exfalso
  obtain ⟨c, _, begins, keyChar⟩ := assignment.head
  cases front with
  | nil =>
      rw [List.nil_append] at inside
      rw [← inside] at begins
      obtain ⟨rfl, _⟩ := List.cons.inj begins
      revert keyChar
      decide
  | cons d front =>
      obtain ⟨_, inside⟩ := List.cons.inj inside
      -- what is left of the word, and the bracket behind it
      have parts : front ++ back = "redacted".toList ++ ['>'] := inside.symm
      rcases straddle parts with ⟨v, more, word, backEq⟩ | ⟨more, _, bracket⟩
      · have left : ∀ e ∈ v :: more, isKeyLike e = true := by
          intro e member
          have every : ∀ e ∈ "redacted".toList, isKeyLike e = true := List.all_eq_true.mp rfl
          exact every e (word ▸ List.mem_append_right _ member)
        have shifted : back ++ rest = v :: more ++ '>' :: rest := by
          rw [backEq]
          simp
        rw [shifted] at assignment
        exact not_assignment left (by decide) (by decide) (by decide) assignment
      · cases more with
        | nil =>
            rw [List.nil_append] at bracket
            rw [← bracket] at begins
            obtain ⟨rfl, _⟩ := List.cons.inj begins
            revert keyChar
            decide
        | cons e more =>
            obtain ⟨_, nothing⟩ := List.cons.inj bracket
            exact some_ (List.append_eq_nil_iff.mp nothing.symm).2

theorem cleanAt_of_head {c : Char} (other : isKeyChar c = false) :
    CleanAt words before (c :: rest) := by
  intro key gap sign blank quote tail assignment
  obtain ⟨d, _, begins, keyChar⟩ := assignment.head
  obtain ⟨rfl, _⟩ := List.cons.inj begins
  rw [keyChar] at other
  cases other

theorem cleanAt_nil : CleanAt words before [] := by
  intro key gap sign blank quote tail assignment
  obtain ⟨d, _, begins, _⟩ := assignment.head
  cases begins

theorem value_of_redacted {blank quote tail kept : List Char}
    (keptTest : kept = [] ∨ ∃ q, isQuote q = true ∧ kept = [q]) (blankSpaces : ∀ c ∈ blank, isSpace c = true)
    (quoteTest : quote = [] ∨ ∃ q, isQuote q = true ∧ quote = [q])
    (value : ∃ v more, isSecretChar v = true ∧ tail = v :: more)
    (same : blank ++ (quote ++ tail) = kept ++ (contentRedactedPlaceholder ++ rest)) :
    blank = [] ∧ tail = contentRedactedPlaceholder ++ rest := by
  have bracketSpace : isSpace '<' = false := by decide
  have bracketQuote : isQuote '<' = false := by decide
  have begins : contentRedactedPlaceholder ++ rest = '<' :: ("redacted".toList ++ ['>'] ++ rest) := rfl
  obtain ⟨v, more, valueTest, rfl⟩ := value
  rcases keptTest with rfl | ⟨k, keptQuote, rfl⟩
  · cases blank with
    | cons c blank =>
        rw [List.nil_append, begins] at same
        obtain ⟨rfl, _⟩ := List.cons.inj same
        rw [blankSpaces _ List.mem_cons_self] at bracketSpace
        cases bracketSpace
    | nil =>
        rcases quoteTest with rfl | ⟨q, test, rfl⟩
        · exact ⟨rfl, same⟩
        · rw [List.nil_append, List.nil_append, begins] at same
          obtain ⟨rfl, _⟩ := List.cons.inj same
          rw [test] at bracketQuote
          cases bracketQuote
  · cases blank with
    | cons c blank =>
        obtain ⟨rfl, _⟩ := List.cons.inj same
        have space := blankSpaces c List.mem_cons_self
        rw [isSpace_of_isQuote keptQuote] at space
        cases space
    | nil =>
        rcases quoteTest with rfl | ⟨q, test, rfl⟩
        · obtain ⟨rfl, _⟩ := List.cons.inj same
          rw [isSecretChar_iff, keptQuote] at valueTest
          cases valueTest.2.1
        · exact ⟨rfl, (List.cons.inj same).2⟩

theorem assignment_redacted {front run kept key gap blank quote tail : List Char}
    {mark sign : Char} (some_ : run ≠ []) (runAll : ∀ c ∈ run, isKeyLike c = true)
    (markTest : isAssign mark = true) (keptTest : kept = [] ∨ ∃ q, isQuote q = true ∧ kept = [q])
    (stops : ∀ c ∈ rest.head?, isSecretChar c = false)
    (assignment : Assignment words before
      (front ++ run ++ mark :: (kept ++ (contentRedactedPlaceholder ++ rest))) key gap sign blank
        quote tail) :
    (gap = [] ∧ blank = [] ∧ tail.takeWhile isSecretChar = contentRedactedPlaceholder) ∨
      ∃ v more, front ++ run = key ++ (gap ++ sign :: (blank ++ quote)) ++ v :: more ∧
        tail = v :: (more ++ mark :: (kept ++ (contentRedactedPlaceholder ++ rest))) := by
  rcases straddle assignment.spans with inside | ⟨more, covered, onward⟩
  · exact .inr inside
  · obtain ⟨left, keyEq, moreEq⟩ := within_key some_ runAll assignment.middle covered
    have markStop := isKeyLike_of_isAssign markTest
    cases left with
    | cons c left =>
        rw [moreEq] at onward
        obtain ⟨rfl, _⟩ := List.cons.inj onward
        have inKey : mark ∈ key := by simp [keyEq]
        rw [(keyText_secretKey assignment.spelled).all mark inKey] at markStop
        cases markStop
    | nil =>
        rw [moreEq, List.nil_append] at onward
        cases gap with
        | cons space gap =>
            obtain ⟨rfl, _⟩ := List.cons.inj onward
            have spaceTest := assignment.gapSpaces mark List.mem_cons_self
            rw [isSpace_of_isAssign markTest] at spaceTest
            cases spaceTest
        | nil =>
            obtain ⟨_, value⟩ := List.cons.inj onward
            obtain ⟨rfl, rfl⟩ := value_of_redacted keptTest assignment.blankSpaces
              assignment.quoteTest assignment.value (by simpa using value.symm)
            exact .inl ⟨rfl, rfl, takeWhile_placeholder stops⟩

end Clean

section FirstPass

variable {words : WordClass} {before : Option Char} {text out : List Char}

theorem head?_firstPass (pass : Pass words.isWord secretAssignment redactAssignment before text out)
    (other : ∀ c ∈ text.head?, isKeyChar c = false) : out.head? = text.head? := by
  cases pass with
  | done | keep => rfl
  | swap found =>
      obtain ⟨_, _, _, _, _, _, assignment, _⟩ := assignment_of_match found
      obtain ⟨c, _, begins, keyChar⟩ := assignment.head
      obtain ⟨rfl, _⟩ := List.cons.inj begins
      rw [other _ rfl] at keyChar
      cases keyChar

theorem isKeyChar_of_not_secret {c : Char} (stop : isSecretChar c = false) :
    isKeyChar c = false := by
  rw [Bool.eq_false_iff]
  intro key
  rw [isSecretChar_of_isKeyLike (isKeyLike_of_isKeyChar key)] at stop
  cases stop

structure Redacted (next : Cursor) (key kept : List Char) (mark : Char) : Prop where
  keyText : KeyText key
  markTest : isAssign mark = true
  keptTest : kept = [] ∨ ∃ q, isQuote q = true ∧ kept = [q]
  parts : redactAssignment next.groups = key ++ mark :: (kept ++ contentRedactedPlaceholder)
  stops : ∀ c ∈ next.rest.head?, isSecretChar c = false

variable {next : Cursor}

theorem redacted_of_match (found : matchAt words.isWord secretAssignment before text = some next) :
    ∃ key mark kept rest, text = key ++ rest ∧ Redacted next key kept mark := by
  obtain ⟨key, gap, mark, blank, kept, tail, assignment, groups, rest, _⟩ :=
    assignment_of_match found
  refine ⟨key, mark, kept, _, assignment.parts, ⟨keyText_secretKey assignment.spelled,
    assignment.signTest, assignment.quoteTest, ?_, ?_⟩⟩
  · rw [groups]
    rfl
  · rw [rest]
    exact head?_dropWhile

variable {key : List Char}

theorem Redacted.out_stops {kept : List Char} {mark : Char} (redacted : Redacted next key kept mark)
    (later : Pass words.isWord secretAssignment redactAssignment next.before next.rest out) :
    ∀ c ∈ out.head?, isSecretChar c = false := by
  rw [head?_firstPass later fun c member => isKeyChar_of_not_secret (redacted.stops c member)]
  exact redacted.stops

theorem KeyText.nonempty (keyText : KeyText key) : key ≠ [] := by
  obtain ⟨c, rest, rfl, _⟩ := keyText.head
  exact List.cons_ne_nil c rest

theorem clean_redacted {kept : List Char} {mark : Char}
    (redacted : Redacted next key kept mark) (outStops : ∀ c ∈ out.head?, isSecretChar c = false)
    (now : Option Char) (later : Everywhere (CleanAt words) (some '>') out) :
    Everywhere (CleanAt words) now
      (key ++ mark :: (kept ++ (contentRedactedPlaceholder ++ out))) := by
  have other : ∀ {c : Char}, isKeyLike c = false → isKeyChar c = false := by
    intro c stop
    rw [isKeyLike, Bool.or_eq_false_iff] at stop
    exact stop.1
  refine everywhere_append (fun front back inside some_ => ?_) ?_
  · have backAll : ∀ c ∈ back, isKeyLike c = true := fun c member =>
      redacted.keyText.all c (inside ▸ List.mem_append_right _ member)
    intro key gap sign blank quote tail assignment
    have parts : Assignment words (lastOf now front)
        ([] ++ back ++ mark :: (kept ++ (contentRedactedPlaceholder ++ out))) key gap sign blank quote
          tail := assignment
    rcases assignment_redacted some_ backAll redacted.markTest redacted.keptTest outStops parts with
      clean | ⟨v, more, covered, _⟩
    · exact clean
    · have inBack : sign ∈ back := by
        rw [List.nil_append] at covered
        simp [covered]
      have stop := isKeyLike_of_isAssign assignment.signTest
      rw [backAll sign inBack] at stop
      cases stop
  · refine everywhere_cons (cleanAt_of_head (other (isKeyLike_of_isAssign redacted.markTest))) ?_
    refine everywhere_append (fun front back inside some_ => ?_) ?_
    · rcases redacted.keptTest with rfl | ⟨q, test, rfl⟩
      · exact absurd (List.append_eq_nil_iff.mp inside.symm).2 some_
      · obtain ⟨c, rest, rfl⟩ := List.exists_cons_of_ne_nil some_
        have single : c = q := by
          have member : c ∈ [q] := inside ▸ List.mem_append_right _ List.mem_cons_self
          exact List.mem_singleton.mp member
        exact cleanAt_of_head (other (single ▸ isKeyLike_of_isQuote test))
    · refine everywhere_append (fun front back inside some_ => ?_) later
      exact cleanAt_placeholder inside some_

theorem clean_firstPass (pass : Pass words.isWord secretAssignment redactAssignment before text out)
    {now : Option Char} (start : now = before ∨ ∀ c ∈ text.head?, isKeyChar c = false) :
    Everywhere (CleanAt words) now out := by
  induction pass generalizing now with
  | done before => exact everywhere_nil cleanAt_nil
  | @keep before c rest out unmatched later ih =>
      refine everywhere_cons ?_ (ih (.inl rfl))
      intro key gap sign blank quote tail assignment
      have same : now = before := by
        refine start.resolve_right fun other => ?_
        obtain ⟨d, _, begins, keyChar⟩ := assignment.head
        obtain ⟨rfl, _⟩ := List.cons.inj begins
        rw [other c rfl] at keyChar
        cases keyChar
      subst same
      -- a secret assigned here would have been matched in the old text
      have absurd_ : ∀ {tail : List Char},
          ¬ Assignment words now (c :: rest) key gap sign blank quote tail := by
        intro tail old
        have matched := match_of_assignment old
        rw [unmatched] at matched
        cases matched
      rcases later.first with same | ⟨front, back, next, tail', textEq, found, outEq, onward⟩
      · subst same
        exact (absurd_ assignment).elim
      · obtain ⟨own, mark, kept, more, backEq, redacted⟩ := redacted_of_match found
        have parts : c :: out =
            (c :: front) ++ own ++ mark :: (kept ++ (contentRedactedPlaceholder ++ tail')) := by
          rw [outEq, redacted.parts]
          simp
        rw [parts] at assignment
        rcases assignment_redacted redacted.keyText.nonempty redacted.keyText.all redacted.markTest
          redacted.keptTest (redacted.out_stops onward) assignment with clean | ⟨v, rest', inside, tailEq⟩
        · exact clean
        · have old := assignment.transfer inside tailEq more
          rw [List.cons_append, List.cons_append, List.append_assoc, ← backEq, ← textEq] at old
          exact (absurd_ old).elim
  | @swap before c rest out next found later ih =>
      obtain ⟨key, mark, kept, _, _, redacted⟩ := redacted_of_match found
      have after : Everywhere (CleanAt words) (some '>') out := ih (.inr fun c member =>
        isKeyChar_of_not_secret (redacted.stops c member))
      rw [redacted.parts, List.append_assoc, List.cons_append, List.append_assoc]
      exact clean_redacted redacted (redacted.out_stops later) now after

end FirstPass

end Wlcodex.Runtime
