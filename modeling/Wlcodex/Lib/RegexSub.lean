import Wlcodex.Lib.Regex
import Mathlib.Data.List.TakeWhile

namespace Wlcodex.Lib

namespace Regex

/-! What `re.sub` leaves behind. -/

def lastOf : Option Char → List Char → Option Char
  | before, [] => before
  | _, c :: rest => lastOf (some c) rest

@[simp] theorem lastOf_nil (before : Option Char) : lastOf before [] = before := rfl

@[simp] theorem lastOf_cons (before : Option Char) (c : Char) (rest : List Char) :
    lastOf before (c :: rest) = lastOf (some c) rest := rfl

theorem lastOf_append (before : Option Char) (first second : List Char) :
    lastOf before (first ++ second) = lastOf (lastOf before first) second := by
  induction first generalizing before with
  | nil => rfl
  | cons c first ih => exact ih (some c)

variable {text : List Char}

theorem lastOf_congr (before other : Option Char) (some_ : text ≠ []) :
    lastOf before text = lastOf other text := by
  cases text with
  | nil => exact absurd rfl some_
  | cons c rest => rfl

theorem lastOf_mem (before : Option Char) (some_ : text ≠ []) :
    ∃ c ∈ text, lastOf before text = some c := by
  induction text generalizing before with
  | nil => exact absurd rfl some_
  | cons c rest ih =>
      cases rest with
      | nil => exact ⟨c, List.mem_cons_self, rfl⟩
      | cons d rest =>
          obtain ⟨last, member, eq⟩ := ih (some c) (List.cons_ne_nil d rest)
          exact ⟨last, List.mem_cons_of_mem c member, eq⟩

def Plain : Regex → Prop
  | .chars _ => True
  | .seq first second => Plain first ∧ Plain second
  | .alt first second => Plain first ∧ Plain second
  | .opt body => Plain body
  | .star _ => True
  | .boundary => False
  | .group _ => False

def Spells : Regex → List Char → Prop
  | .chars test, word => ∃ c, test c ∧ word = [c]
  | .seq first second, word => ∃ front back, Spells first front ∧ Spells second back ∧
      word = front ++ back
  | .alt first second, word => Spells first word ∨ Spells second word
  | .opt body, word => Spells body word ∨ word = []
  | .star test, word => ∀ c ∈ word, test c
  | .boundary, _ => False
  | .group _, _ => False

theorem plain_chars (test : Char → Bool) : Plain (.chars test) := trivial

theorem plain_opt_chars (test : Char → Bool) : Plain (.opt (.chars test)) := trivial

structure Over (word : List Char) (cursor next : Cursor) : Prop where
  text : cursor.rest = word ++ next.rest
  before : next.before = lastOf cursor.before word
  groups : next.groups = cursor.groups

variable {next cursor : Cursor}

theorem Over.trans {first second : List Char} {middle : Cursor}
    (front : Over first cursor middle) (back : Over second middle next) :
    Over (first ++ second) cursor next where
  text := by rw [front.text, back.text, List.append_assoc]
  before := by rw [back.before, front.before, lastOf_append]
  groups := back.groups.trans front.groups

theorem over_self (cursor : Cursor) : Over [] cursor cursor := ⟨rfl, rfl, rfl⟩

theorem Over.eq_of_nil (crossed : Over [] cursor next) : next = cursor := by
  obtain ⟨text, before, groups⟩ := crossed
  cases cursor
  cases next
  simp_all

theorem runs_iff {test : Char → Bool} :
    Runs test cursor next ↔ ∃ run, (∀ c ∈ run, test c) ∧ Over run cursor next := by
  constructor
  · intro runs
    induction runs with
    | stop cursor => exact ⟨[], by simp, over_self cursor⟩
    | step passes _ ih =>
        obtain ⟨run, all, crossed⟩ := ih
        exact ⟨_ :: run, List.forall_mem_cons.mpr ⟨passes, all⟩,
          ⟨congrArg (_ :: ·) crossed.text, crossed.before, crossed.groups⟩⟩
  · rintro ⟨run, all, crossed⟩
    induction run generalizing cursor with
    | nil =>
        rw [crossed.eq_of_nil]
        exact .stop cursor
    | cons c run ih =>
        rw [List.forall_mem_cons] at all
        obtain ⟨before, rest, groups⟩ := cursor
        obtain ⟨text, last, same⟩ := crossed
        obtain rfl : rest = c :: (run ++ next.rest) := text
        exact .step all.1 (ih all.2 ⟨rfl, last, same⟩)

variable {isWord : Char → Bool} {pattern : Regex}

theorem reaches_iff (plain : Plain pattern) :
    Reaches isWord pattern cursor next ↔ ∃ word, Spells pattern word ∧ Over word cursor next := by
  induction pattern generalizing cursor next with
  | chars test =>
      constructor
      · rintro ⟨c, passes, text, before, groups⟩
        exact ⟨[c], ⟨c, passes, rfl⟩, ⟨text, before, groups⟩⟩
      · rintro ⟨_, ⟨c, passes, rfl⟩, ⟨text, before, groups⟩⟩
        exact ⟨c, passes, text, before, groups⟩
  | seq first second firstInduction secondInduction =>
      constructor
      · rintro ⟨middle, front, back⟩
        obtain ⟨frontWord, frontSpelled, frontOver⟩ := (firstInduction plain.1).mp front
        obtain ⟨backWord, backSpelled, backOver⟩ := (secondInduction plain.2).mp back
        exact ⟨_, ⟨frontWord, backWord, frontSpelled, backSpelled, rfl⟩, frontOver.trans backOver⟩
      · rintro ⟨_, ⟨front, back, frontSpelled, backSpelled, rfl⟩, ⟨text, before, groups⟩⟩
        refine ⟨⟨lastOf cursor.before front, back ++ next.rest, cursor.groups⟩,
          (firstInduction plain.1).mpr ⟨front, frontSpelled, ?_⟩,
          (secondInduction plain.2).mpr ⟨back, backSpelled, ?_⟩⟩
        · exact ⟨by rw [text, List.append_assoc], rfl, rfl⟩
        · exact ⟨rfl, by rw [before, lastOf_append], groups⟩
  | alt first second firstInduction secondInduction =>
      simp only [Reaches, Spells, firstInduction plain.1, secondInduction plain.2, or_and_right,
        exists_or]
  | opt body ih =>
      simp only [Reaches, Spells, ih plain, or_and_right, exists_or]
      refine or_congr_right ⟨?_, ?_⟩
      · rintro rfl
        exact ⟨[], rfl, over_self next⟩
      · rintro ⟨_, rfl, crossed⟩
        exact crossed.eq_of_nil
  | star test => exact runs_iff
  | boundary | group => exact plain.elim

theorem closeGroup_over {word : List Char} {closed : Cursor} (crossed : Over word cursor closed) :
    closeGroup cursor closed = ⟨closed.before, closed.rest, cursor.groups ++ [word]⟩ := by
  unfold closeGroup
  rw [crossed.groups, crossed.text, List.length_append, Nat.add_sub_cancel, List.take_left]

theorem reaches_group_iff (plain : Plain pattern) :
    Reaches isWord (.group pattern) cursor next ↔
      ∃ word, Spells pattern word ∧ cursor.rest = word ++ next.rest ∧
        next.before = lastOf cursor.before word ∧ next.groups = cursor.groups ++ [word] := by
  simp only [Reaches, reaches_iff plain]
  constructor
  · rintro ⟨closed, ⟨word, spelled, crossed⟩, rfl⟩
    rw [closeGroup_over crossed]
    exact ⟨word, spelled, crossed.text, crossed.before, rfl⟩
  · rintro ⟨word, spelled, text, before, groups⟩
    have crossed : Over word cursor ⟨next.before, next.rest, cursor.groups⟩ := ⟨text, before, rfl⟩
    refine ⟨_, ⟨word, spelled, crossed⟩, ?_⟩
    rw [closeGroup_over crossed, ← groups]

theorem reaches_over (reaches : Reaches isWord pattern cursor next) :
    ∃ word, cursor.rest = word ++ next.rest ∧ next.before = lastOf cursor.before word := by
  induction pattern generalizing cursor next with
  | chars test =>
      obtain ⟨c, _, text, before, _⟩ := reaches
      exact ⟨[c], text, before⟩
  | seq first second firstInduction secondInduction =>
      obtain ⟨middle, front, back⟩ := reaches
      obtain ⟨frontWord, frontText, frontBefore⟩ := firstInduction front
      obtain ⟨backWord, backText, backBefore⟩ := secondInduction back
      refine ⟨frontWord ++ backWord, ?_, ?_⟩
      · rw [frontText, backText, List.append_assoc]
      · rw [backBefore, frontBefore, lastOf_append]
  | alt first second firstInduction secondInduction =>
      exact reaches.elim firstInduction secondInduction
  | opt body ih =>
      rcases reaches with reached | rfl
      · exact ih reached
      · exact ⟨[], rfl, rfl⟩
  | star test =>
      obtain ⟨run, _, crossed⟩ := runs_iff.mp reaches
      exact ⟨run, crossed.text, crossed.before⟩
  | boundary =>
      obtain ⟨_, rfl⟩ := reaches
      exact ⟨[], rfl, rfl⟩
  | group body ih =>
      obtain ⟨closed, reached, rfl⟩ := reaches
      obtain ⟨word, text, before⟩ := ih reached
      exact ⟨word, text, before⟩

section Greedy

variable {α : Type*} {test : Char → Bool} {groups : List (List Char)} {k : Cursor → Option α}

theorem starThen_total (total : ∀ cursor, (k cursor).isSome) (before : Option Char) (rest : List Char) :
    starThen test groups k before rest =
      k ⟨lastOf before (rest.takeWhile test), rest.dropWhile test, groups⟩ := by
  induction rest generalizing before with
  | nil => rfl
  | cons c rest ih =>
      rw [starThen]
      split
      next passes =>
        rw [ih, Option.or_of_isSome (total _), List.takeWhile_cons_of_pos passes,
          List.dropWhile_cons_of_pos passes, lastOf_cons]
      next fails =>
        rw [List.takeWhile_cons_of_neg fails, List.dropWhile_cons_of_neg fails, lastOf_nil]

theorem starThen_greedy {before : Option Char} {rest : List Char} {result : α}
    (found : starThen test groups k before rest = some result) :
    ∃ run tail, rest = run ++ tail ∧ (∀ c ∈ run, test c) ∧
      k ⟨lastOf before run, tail, groups⟩ = some result ∧
      ∀ more tail', tail = more ++ tail' → more ≠ [] → (∀ c ∈ more, test c) →
        k ⟨lastOf (lastOf before run) more, tail', groups⟩ = none := by
  induction rest generalizing before with
  | nil =>
      refine ⟨[], [], rfl, by simp, found, fun more tail' text some_ => ?_⟩
      exact absurd (List.append_eq_nil_iff.mp text.symm).1 some_
  | cons c rest ih =>
      rw [starThen] at found
      split at found
      next passes =>
        rcases Option.or_eq_some_iff.mp found with longer | ⟨none_, here⟩
        · obtain ⟨run, tail, text, all, goes, last⟩ := ih longer
          exact ⟨c :: run, tail, congrArg (c :: ·) text,
            List.forall_mem_cons.mpr ⟨passes, all⟩, goes, last⟩
        · refine ⟨[], c :: rest, rfl, by simp, here, ?_⟩
          intro more tail' text some_ all
          cases more with
          | nil => exact absurd rfl some_
          | cons d more =>
              obtain ⟨rfl, onward⟩ := List.cons.inj text
              rw [List.forall_mem_cons] at all
              -- a place further on would have been found
              by_contra reached
              have longer := starThen_complete (k := k) (runs_iff.mpr
                ⟨more, all.2, ⟨onward, rfl, rfl⟩⟩ : Runs test ⟨some c, rest, groups⟩
                  ⟨lastOf (some c) more, tail', groups⟩)
                (Option.isSome_iff_ne_none.mpr reached)
              rw [none_] at longer
              cases longer
      next fails =>
        refine ⟨[], c :: rest, rfl, by simp, found, ?_⟩
        intro more tail' text some_ all
        cases more with
        | nil => exact absurd rfl some_
        | cons d more =>
            obtain ⟨rfl, _⟩ := List.cons.inj text
            exact absurd (all c List.mem_cons_self) fails

end Greedy

section Pass

variable (isWord : Char → Bool) (pattern : Regex) (replace : List (List Char) → List Char)

def matchAt (before : Option Char) (text : List Char) : Option Cursor :=
  matchThen isWord pattern ⟨before, text, []⟩ some

variable {before : Option Char} {text : List Char}

theorem matchAt_over {isWord : Char → Bool} {pattern : Regex} {next : Cursor} (found : matchAt isWord pattern before text = some next) :
    ∃ word, text = word ++ next.rest ∧ next.before = lastOf before word := by
  obtain ⟨reached, reaches, same⟩ := matchThen_sound found
  cases same
  exact reaches_over reaches

/-- One pass of `re.sub` over a text. -/
inductive Pass : Option Char → List Char → List Char → Prop where
  | done (before : Option Char) : Pass before [] []
  | keep {before : Option Char} {c : Char} {rest out : List Char}
      (unmatched : matchAt isWord pattern before (c :: rest) = none)
      (later : Pass (some c) rest out) : Pass before (c :: rest) (c :: out)
  | swap {before : Option Char} {c : Char} {rest out : List Char} {next : Cursor}
      (found : matchAt isWord pattern before (c :: rest) = some next)
      (later : Pass next.before next.rest out) :
      Pass before (c :: rest) (replace next.groups ++ out)

variable {isWord pattern replace}

def Consumes (isWord : Char → Bool) (pattern : Regex) : Prop :=
  ∀ before text next, matchAt isWord pattern before text = some next →
    next.rest.length < text.length

theorem pass_subFrom (consumes : Consumes isWord pattern) (fuel : Nat) (before : Option Char)
    (text : List Char) (enough : text.length ≤ fuel) :
    Pass isWord pattern replace before text (subFrom isWord pattern replace fuel before text) := by
  induction fuel generalizing before text with
  | zero =>
      obtain rfl : text = [] := List.length_eq_zero_iff.mp (Nat.le_zero.mp enough)
      exact .done before
  | succ fuel ih =>
      cases text with
      | nil => exact .done before
      | cons c rest =>
          rw [List.length_cons] at enough
          rw [subFrom]
          split
          next next found =>
            have shorter := consumes before (c :: rest) next found
            rw [List.length_cons] at shorter
            exact .swap found (ih _ _ (by omega))
          next unmatched => exact .keep unmatched (ih _ _ (by omega))

theorem sub_ne_nil (replaced : ∀ groups, replace groups ≠ []) (some_ : text ≠ []) :
    sub isWord pattern replace text ≠ [] := by
  unfold sub
  cases text with
  | nil => contradiction
  | cons c rest =>
      rw [List.length_cons, subFrom]
      split
      · exact List.append_ne_nil_of_left_ne_nil (replaced _) _
      · exact List.cons_ne_nil _ _

variable (replace) in
theorem pass_sub (consumes : Consumes isWord pattern) (text : List Char) :
    Pass isWord pattern replace none text (sub isWord pattern replace text) :=
  pass_subFrom consumes text.length none text le_rfl

theorem Pass.first {before : Option Char} {text out : List Char}
    (pass : Pass isWord pattern replace before text out) :
    text = out ∨ ∃ front back next tail, text = front ++ back ∧
      matchAt isWord pattern (lastOf before front) back = some next ∧
      out = front ++ (replace next.groups ++ tail) ∧
      Pass isWord pattern replace next.before next.rest tail := by
  induction pass with
  | done before => exact .inl rfl
  | @keep before c rest out unmatched later ih =>
      rcases ih with same | ⟨front, back, next, tail, text, found, eq, onward⟩
      · exact .inl (congrArg (c :: ·) same)
      · exact .inr ⟨c :: front, back, next, tail, congrArg (c :: ·) text, found,
          congrArg (c :: ·) eq, onward⟩
  | @swap before c rest out next found later ih =>
      exact .inr ⟨[], c :: rest, next, out, rfl, found, rfl, later⟩

def Everywhere (holds : Option Char → List Char → Prop) (before : Option Char)
    (text : List Char) : Prop :=
  ∀ front back, text = front ++ back → holds (lastOf before front) back

variable {holds : Option Char → List Char → Prop}

theorem Everywhere.head (everywhere : Everywhere holds before text) : holds before text :=
  everywhere [] text rfl

theorem Everywhere.tail {front back : List Char} (everywhere : Everywhere holds before (front ++ back)) :
    Everywhere holds (lastOf before front) back := by
  intro front' back' text
  rw [← lastOf_append]
  exact everywhere (front ++ front') back' (by rw [text, List.append_assoc])

theorem everywhere_nil
    (here : holds before []) : Everywhere holds before [] := by
  intro front back text
  obtain ⟨rfl, rfl⟩ := List.append_eq_nil_iff.mp text.symm
  exact here

theorem everywhere_cons {c : Char} {rest : List Char} (here : holds before (c :: rest))
    (later : Everywhere holds (some c) rest) : Everywhere holds before (c :: rest) := by
  intro front back text
  cases front with
  | nil =>
      rw [List.nil_append] at text
      exact text ▸ here
  | cons d front =>
      obtain ⟨rfl, onward⟩ := List.cons.inj text
      exact later front back onward

theorem everywhere_append {first second : List Char}
    (here : ∀ front back, first = front ++ back → back ≠ [] →
      holds (lastOf before front) (back ++ second))
    (later : Everywhere holds (lastOf before first) second) :
    Everywhere holds before (first ++ second) := by
  induction first generalizing before with
  | nil => exact later
  | cons c first ih =>
      refine everywhere_cons (here [] (c :: first) rfl (List.cons_ne_nil _ _)) ?_
      refine ih (fun front back text some_ => ?_) later
      exact here (c :: front) back (congrArg (c :: ·) text) some_

theorem sub_eq_self (consumes : Consumes isWord pattern)
    (itself : Everywhere (fun before text => ∀ next, matchAt isWord pattern before text = some next →
      text = replace next.groups ++ next.rest ∧
        next.before = lastOf before (replace next.groups)) none text) :
    sub isWord pattern replace text = text := by
  have general : ∀ {before : Option Char} {text out : List Char},
      Pass isWord pattern replace before text out →
      Everywhere (fun before text => ∀ next, matchAt isWord pattern before text = some next →
        text = replace next.groups ++ next.rest ∧
          next.before = lastOf before (replace next.groups)) before text → out = text := by
    intro before text out pass
    induction pass with
    | done => exact fun _ => rfl
    | @keep before c rest out unmatched later ih =>
        intro itself
        have onward := Everywhere.tail (show Everywhere _ before ([c] ++ rest) from itself)
        exact congrArg (c :: ·) (ih onward)
    | @swap before c rest out next found later ih =>
        intro itself
        obtain ⟨text, last⟩ := itself.head next found
        rw [text] at itself ⊢
        rw [ih (last ▸ itself.tail)]
  exact general (pass_sub replace consumes text) itself

end Pass

section Places

variable (isWord : Char → Bool) (pattern : Regex) (replace : List (List Char) → List Char)

/-- The scan of `re.finditer` comes to the place before `ahead`: no match lies over it. -/
inductive Scans : Option Char → List Char → List Char → Prop where
  | here (before : Option Char) (ahead : List Char) : Scans before [] ahead
  | keep {before : Option Char} {c : Char} {rest ahead : List Char}
      (unmatched : matchAt isWord pattern before (c :: (rest ++ ahead)) = none)
      (later : Scans (some c) rest ahead) : Scans before (c :: rest) ahead
  | swap {before : Option Char} {c : Char} {rest left ahead : List Char} {next : Cursor}
      (found : matchAt isWord pattern before (c :: (rest ++ ahead)) = some next)
      (within : next.rest = left ++ ahead) (later : Scans next.before left ahead) :
      Scans before (c :: rest) ahead

/-- A pass of `re.sub` over the text before `ahead`, where it comes to that place. -/
inductive PassTo : Option Char → List Char → List Char → List Char → Prop where
  | done (before : Option Char) (ahead : List Char) : PassTo before [] ahead []
  | keep {before : Option Char} {c : Char} {rest ahead out : List Char}
      (unmatched : matchAt isWord pattern before (c :: (rest ++ ahead)) = none)
      (later : PassTo (some c) rest ahead out) : PassTo before (c :: rest) ahead (c :: out)
  | swap {before : Option Char} {c : Char} {rest left ahead out : List Char} {next : Cursor}
      (found : matchAt isWord pattern before (c :: (rest ++ ahead)) = some next)
      (within : next.rest = left ++ ahead) (later : PassTo next.before left ahead out) :
      PassTo before (c :: rest) ahead (replace next.groups ++ out)

variable {isWord pattern replace} {before : Option Char} {first second ahead out : List Char}

theorem Pass.toPlace (pass : Pass isWord pattern replace before text out) :
    PassTo isWord pattern replace before text [] out := by
  induction pass with
  | done before => exact .done before []
  | keep unmatched _ ih => exact .keep (by rwa [List.append_nil]) ih
  | swap found _ ih =>
      exact .swap (by rwa [List.append_nil]) (List.append_nil _).symm ih

theorem PassTo.scans (pass : PassTo isWord pattern replace before first ahead out) :
    Scans isWord pattern before first ahead := by
  induction pass with
  | done before ahead => exact .here before ahead
  | keep unmatched _ ih => exact .keep unmatched ih
  | swap found within _ ih => exact .swap found within ih

theorem PassTo.append {tail : List Char}
    (front : PassTo isWord pattern replace before first (second ++ ahead) out)
    (back : PassTo isWord pattern replace (lastOf before first) second ahead tail) :
    PassTo isWord pattern replace before (first ++ second) ahead (out ++ tail) := by
  generalize onward : second ++ ahead = rest at front
  induction front with
  | done => exact back
  | @keep before c rest _ out unmatched _ ih =>
      subst onward
      refine .keep ?_ (ih back rfl)
      rwa [show rest ++ (second ++ ahead) = rest ++ second ++ ahead from (List.append_assoc ..).symm]
        at unmatched
  | @swap before c rest left _ out next found within _ ih =>
      subst onward
      obtain ⟨word, text, last⟩ := matchAt_over found
      rw [within, ← List.append_assoc word, ← List.cons_append, List.append_cancel_right_eq] at text
      rw [← List.append_assoc rest] at found
      rw [List.append_assoc (replace next.groups)]
      refine .swap found (within.trans (List.append_assoc ..).symm) (ih ?_ rfl)
      rwa [last, ← lastOf_append, ← text]

theorem PassTo.split (consumes : Consumes isWord pattern)
    (pass : PassTo isWord pattern replace before (first ++ second) ahead out) :
    (∃ front back, out = front ++ back ∧
      PassTo isWord pattern replace before first (second ++ ahead) front ∧
      PassTo isWord pattern replace (lastOf before first) second ahead back) ∨
    ∃ early late more left next front back, first = early ++ late ∧ late ≠ [] ∧
      second = more ++ left ∧ more ≠ [] ∧
      PassTo isWord pattern replace before early (late ++ (second ++ ahead)) front ∧
      matchAt isWord pattern (lastOf before early) (late ++ (second ++ ahead)) = some next ∧
      next.rest = left ++ ahead ∧ out = front ++ (replace next.groups ++ back) ∧
      PassTo isWord pattern replace next.before left ahead back := by
  generalize whole : first ++ second = text at pass
  induction pass generalizing first with
  | done before ahead =>
      obtain ⟨rfl, rfl⟩ := List.append_eq_nil_iff.mp whole
      exact .inl ⟨[], [], rfl, .done _ _, .done _ _⟩
  | @keep before c rest ahead out unmatched later ih =>
      cases first with
      | nil =>
          obtain rfl : second = c :: rest := whole
          exact .inl ⟨[], c :: out, rfl, .done _ _, .keep unmatched later⟩
      | cons d first =>
          obtain ⟨rfl, rfl⟩ := List.cons.inj whole
          have here : matchAt isWord pattern before (d :: (first ++ (second ++ ahead))) = none := by
            rwa [← List.append_assoc]
          rcases ih rfl with ⟨front, back, rfl, early, late⟩ |
            ⟨early, late, more, left, next, front, back, rfl, some_, rest⟩
          · exact .inl ⟨d :: front, back, rfl, .keep here early, late⟩
          · obtain ⟨parts, crosses, reached, found, onward, rfl, after⟩ := rest
            refine .inr ⟨d :: early, late, more, left, next, d :: front, back, rfl, some_, parts,
              crosses, .keep ?_ reached, found, onward, rfl, after⟩
            rwa [← List.append_assoc early]
  | @swap before c rest left ahead out next found within later ih =>
      obtain ⟨word, text, last⟩ := matchAt_over found
      rw [within, ← List.append_assoc, ← List.cons_append, List.append_cancel_right_eq, ← whole]
        at text
      cases first with
      | nil =>
          obtain rfl : second = c :: rest := whole
          exact .inl ⟨[], _, rfl, .done _ _, .swap found within later⟩
      | cons d first =>
          obtain ⟨rfl, rfl⟩ := List.cons.inj whole
          have here : matchAt isWord pattern before (d :: (first ++ (second ++ ahead))) = some next := by
            rwa [← List.append_assoc]
          rcases List.append_eq_append_iff.mp text with ⟨more, wordEq, secondEq⟩ | ⟨more, firstEq, leftEq⟩
          · cases more with
            | nil =>
                rw [List.append_nil] at wordEq
                subst secondEq
                refine .inl ⟨replace next.groups, out, rfl, ?_, ?_⟩
                · rw [← List.append_nil (replace next.groups)]
                  exact .swap here (show next.rest = [] ++ (second ++ ahead) from within) (.done _ _)
                · rwa [last, wordEq] at later
            | cons e more =>
                exact .inr ⟨[], d :: first, e :: more, left, next, [], out, rfl, List.cons_ne_nil _ _,
                  secondEq, List.cons_ne_nil _ _, .done _ _, here, within, rfl, later⟩
          · rcases ih leftEq.symm with ⟨front, back, rfl, early, late⟩ |
              ⟨early, late, extra, left', next', front, back, rfl, some_, rest⟩
            · refine .inl ⟨replace next.groups ++ front, back, (List.append_assoc ..).symm,
                .swap here ?_ early, ?_⟩
              · rw [within, leftEq, List.append_assoc]
              · rw [firstEq, lastOf_append, ← last]
                exact late
            · obtain ⟨parts, crosses, reached, found', onward, rfl, later'⟩ := rest
              refine .inr ⟨word ++ early, late, extra, left', next', replace next.groups ++ front, back,
                by rw [firstEq, List.append_assoc], some_, parts, crosses, ?_, ?_, onward,
                (List.append_assoc ..).symm, later'⟩
              · -- a match takes some text
                cases word with
                | nil =>
                    have shorter := consumes _ _ _ here
                    rw [within, leftEq] at shorter
                    rw [List.nil_append] at firstEq
                    simp only [firstEq, List.length_append, ← List.cons_append] at shorter
                    omega
                | cons e word =>
                    obtain ⟨rfl, rest⟩ := List.cons.inj firstEq
                    refine .swap ?_ ?_ reached
                    · rw [rest, List.append_eq, List.append_assoc, List.append_assoc] at here
                      rwa [List.append_eq, List.append_assoc]
                    · rw [within, leftEq, List.append_assoc, List.append_assoc]
              · rw [lastOf_append, ← last]
                exact found'

theorem not_scans_of_match {early late : List Char} {next : Cursor} (some_ : late ≠ [])
    (reached : Scans isWord pattern before early (late ++ ahead))
    (found : matchAt isWord pattern (lastOf before early) (late ++ ahead) = some next)
    (crosses : next.rest.length < ahead.length) :
    ¬ Scans isWord pattern before (early ++ late) ahead := by
  generalize onward : late ++ ahead = rest at reached
  induction reached with
  | here before rest =>
      intro scans
      rw [lastOf_nil] at found
      cases scans with
      | here => exact some_ rfl
      | keep unmatched =>
          rw [List.cons_append, unmatched] at found
          cases found
      | @swap _ _ _ left _ other found' within =>
          rw [List.cons_append, found'] at found
          cases found
          rw [within, List.length_append] at crosses
          omega
  | @keep before c rest _ unmatched _ ih =>
      subst onward
      intro scans
      cases scans with
      | keep _ later => exact ih found rfl later
      | swap found' =>
          rw [List.append_eq, List.append_assoc, unmatched] at found'
          cases found'
  | @swap before c rest left _ other found' within _ ih =>
      subst onward
      obtain ⟨word, text, last⟩ := matchAt_over found'
      rw [within, ← List.append_assoc word, ← List.cons_append, List.append_cancel_right_eq] at text
      rw [text, lastOf_append, ← last] at found
      intro scans
      cases scans with
      | keep unmatched =>
          rw [List.append_eq, List.append_assoc, found'] at unmatched
          cases unmatched
      | @swap _ _ _ left' _ other' found'' within' later =>
          rw [List.append_eq, List.append_assoc, found'] at found''
          cases found''
          rw [within, ← List.append_assoc, List.append_cancel_right_eq] at within'
          exact ih found rfl (within' ▸ later)

theorem passTo_self (unmatched : ∀ front c back, first = front ++ c :: back →
    matchAt isWord pattern (lastOf before front) (c :: (back ++ ahead)) = none) :
    PassTo isWord pattern replace before first ahead first := by
  induction first generalizing before with
  | nil => exact .done before ahead
  | cons c rest ih =>
      refine .keep (unmatched [] c rest rfl) (ih fun front d back parts => ?_)
      exact unmatched (c :: front) d back (congrArg (c :: ·) parts)

theorem Scans.passTo (scans : Scans isWord pattern before first ahead) :
    ∃ out, PassTo isWord pattern replace before first ahead out := by
  induction scans with
  | here before ahead => exact ⟨[], .done before ahead⟩
  | keep unmatched _ ih =>
      obtain ⟨out, pass⟩ := ih
      exact ⟨_, .keep unmatched pass⟩
  | swap found within _ ih =>
      obtain ⟨out, pass⟩ := ih
      exact ⟨_, .swap found within pass⟩

theorem PassTo.unique {other : List Char} (pass : PassTo isWord pattern replace before first ahead out)
    (again : PassTo isWord pattern replace before first ahead other) : out = other := by
  induction pass generalizing other with
  | done =>
      cases again
      rfl
  | keep unmatched _ ih =>
      cases again with
      | keep _ later => rw [ih later]
      | swap found =>
          rw [unmatched] at found
          cases found
  | swap found within _ ih =>
      cases again with
      | keep unmatched =>
          rw [found] at unmatched
          cases unmatched
      | swap found' within' later =>
          rw [found] at found'
          cases found'
          rw [within, List.append_cancel_right_eq] at within'
          subst within'
          rw [ih later]

theorem PassTo.firstMatch (pass : PassTo isWord pattern replace before (first ++ second) ahead out) :
    (∃ back, out = first ++ back ∧
      (∀ early c late, first = early ++ c :: late →
        matchAt isWord pattern (lastOf before early) (c :: (late ++ (second ++ ahead))) = none) ∧
      PassTo isWord pattern replace (lastOf before first) second ahead back) ∨
    ∃ early late next left back, first = early ++ late ∧ late ≠ [] ∧
      matchAt isWord pattern (lastOf before early) (late ++ (second ++ ahead)) = some next ∧
      next.rest = left ++ ahead ∧ out = early ++ (replace next.groups ++ back) ∧
      PassTo isWord pattern replace next.before left ahead back := by
  induction first generalizing before out with
  | nil => exact .inl ⟨out, rfl, fun early c late parts => by simp at parts, pass⟩
  | cons d first ih =>
      cases pass with
      | keep unmatched later =>
          rw [List.append_eq, List.append_assoc] at unmatched
          rcases ih later with ⟨back, rfl, none_, after⟩ |
            ⟨early, late, next, left, back, rfl, some_, found, within, rfl, after⟩
          · refine .inl ⟨back, rfl, fun early c late parts => ?_, after⟩
            cases early with
            | nil =>
                obtain ⟨rfl, rfl⟩ := List.cons.inj parts
                exact unmatched
            | cons e early =>
                obtain ⟨rfl, rfl⟩ := List.cons.inj parts
                exact none_ early c late rfl
          · exact .inr ⟨d :: early, late, next, left, back, rfl, some_, found, within, rfl, after⟩
      | swap found within later =>
          rw [List.append_eq, List.append_assoc] at found
          exact .inr ⟨[], d :: first, _, _, _, rfl, List.cons_ne_nil _ _, found, within, rfl, later⟩

theorem PassTo.swapped {next : Cursor}
    (pass : PassTo isWord pattern replace before text ahead out) (some_ : text ≠ [])
    (found : matchAt isWord pattern before (text ++ ahead) = some next) :
    ∃ left back, next.rest = left ++ ahead ∧ out = replace next.groups ++ back ∧
      PassTo isWord pattern replace next.before left ahead back := by
  cases pass with
  | done => exact absurd rfl some_
  | keep unmatched =>
      rw [List.cons_append, unmatched] at found
      cases found
  | swap found' within later =>
      rw [List.cons_append, found'] at found
      cases found
      exact ⟨_, _, within, rfl, later⟩

theorem PassTo.kept {mark : Char} (consumes : Consumes isWord pattern)
    (marks : ∀ groups, ∃ most, replace groups = most ++ [mark]) {word : List Char}
    (pass : PassTo isWord pattern replace before first ahead (out ++ word)) (plain : mark ∉ word) :
    ∃ early, first = early ++ word ∧
      PassTo isWord pattern replace before early (word ++ ahead) out := by
  generalize whole : out ++ word = text at pass
  induction pass generalizing out word with
  | done before ahead =>
      obtain ⟨rfl, rfl⟩ := List.append_eq_nil_iff.mp whole
      exact ⟨[], rfl, .done before ahead⟩
  | @keep before c rest ahead text unmatched later ih =>
      cases out with
      | nil =>
          obtain rfl : word = c :: text := whole
          obtain ⟨early, rfl, pass⟩ := @ih [] text (fun member =>
            plain (List.mem_cons_of_mem c member)) rfl
          have nothing : early = [] := by
            generalize empty : ([] : List Char) = none_ at pass
            cases pass with
            | done => rfl
            | keep => cases empty
            | @swap _ _ _ _ _ _ next =>
                obtain ⟨most, replaced⟩ := marks next.groups
                rw [replaced] at empty
                simp at empty
          subst nothing
          exact ⟨[], rfl, .done _ _⟩
      | cons d out =>
          obtain ⟨rfl, onward⟩ := List.cons.inj whole
          obtain ⟨early, rfl, pass⟩ := ih plain onward
          exact ⟨d :: early, rfl, .keep (by rwa [← List.append_assoc]) pass⟩
  | @swap before c rest left ahead text next found within later ih =>
      obtain ⟨most, replaced⟩ := marks next.groups
      obtain ⟨taken, parts, last⟩ := matchAt_over found
      have covered : ∃ more, out = replace next.groups ++ more ∧ text = more ++ word := by
        rcases List.append_eq_append_iff.mp whole with ⟨more, placed, wordEq⟩ | covered
        · rcases List.eq_nil_or_concat more with rfl | ⟨more, c, rfl⟩
          · exact ⟨[], by rw [placed, List.append_nil, List.append_nil], wordEq.symm⟩
          · rw [replaced, List.concat_eq_append, ← List.append_assoc] at placed
            obtain ⟨_, same⟩ := List.append_inj' placed rfl
            obtain rfl := (List.cons.inj same).1
            exact absurd (wordEq ▸ by simp) plain
        · exact covered
      obtain ⟨more, rfl, rfl⟩ := covered
      obtain ⟨early, rfl, pass⟩ := ih plain rfl
      rw [within, ← List.append_assoc, ← List.append_assoc, ← List.cons_append,
        List.append_cancel_right_eq] at parts
      rw [parts]
      refine ⟨taken ++ early, rfl, ?_⟩
      have shorter := consumes _ _ _ found
      rw [within] at shorter
      cases taken with
      | nil =>
          rw [List.nil_append] at parts
          simp only [← List.cons_append, parts, List.length_append] at shorter
          omega
      | cons d taken =>
          obtain ⟨rfl, rfl⟩ := List.cons.inj parts
          refine .swap ?_ ?_ pass
          · rwa [List.append_eq, List.append_assoc] at found
          · rw [within, List.append_assoc]

end Places

end Regex

end Wlcodex.Lib
