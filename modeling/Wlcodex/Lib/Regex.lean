import Mathlib.Data.List.Basic

namespace Wlcodex.Lib

/-! Regular expressions as Python's `re` runs them: the leftmost match, greedy, with backtracking.
-/

inductive Regex where
  | chars (test : Char → Bool)
  | seq (first second : Regex)
  | alt (first second : Regex)
  | opt (body : Regex)
  | star (test : Char → Bool)
  | boundary
  | group (body : Regex)

/-- Where the matcher stands: the character before, the text ahead, and the
groups that are closed. -/
structure Cursor where
  before : Option Char
  rest : List Char
  groups : List (List Char) := []
  deriving DecidableEq

namespace Regex

def AtBoundary (isWord : Char → Bool) (cursor : Cursor) : Prop :=
  cursor.before.any isWord ≠ cursor.rest.head?.any isWord

instance (isWord : Char → Bool) (cursor : Cursor) : Decidable (AtBoundary isWord cursor) := by
  unfold AtBoundary
  infer_instance

def closeGroup (opened closed : Cursor) : Cursor :=
  { closed with
    groups := closed.groups ++ [opened.rest.take (opened.rest.length - closed.rest.length)] }

section Match

variable {α : Type*} (isWord : Char → Bool)

def starThen (test : Char → Bool) (groups : List (List Char)) (k : Cursor → Option α) :
    Option Char → List Char → Option α
  | before, [] => k ⟨before, [], groups⟩
  | before, c :: rest =>
      if test c then
        (starThen test groups k (some c) rest).or (k ⟨before, c :: rest, groups⟩)
      else k ⟨before, c :: rest, groups⟩

def matchThen : Regex → Cursor → (Cursor → Option α) → Option α
  | .chars test, cursor, k =>
      match cursor.rest with
      | [] => none
      | c :: rest => if test c then k ⟨some c, rest, cursor.groups⟩ else none
  | .seq first second, cursor, k => matchThen first cursor fun next => matchThen second next k
  | .alt first second, cursor, k => (matchThen first cursor k).or (matchThen second cursor k)
  | .opt body, cursor, k => (matchThen body cursor k).or (k cursor)
  | .star test, cursor, k => starThen test cursor.groups k cursor.before cursor.rest
  | .boundary, cursor, k => if AtBoundary isWord cursor then k cursor else none
  | .group body, cursor, k => matchThen body cursor fun next => k (closeGroup cursor next)

end Match

/-- `re.sub`: every match, from left to right, is replaced.  No pattern here
matches the empty text. -/
def subFrom (isWord : Char → Bool) (pattern : Regex) (replace : List (List Char) → List Char) :
    Nat → Option Char → List Char → List Char
  | 0, _, text => text
  | _ + 1, _, [] => []
  | fuel + 1, before, c :: rest =>
      match matchThen isWord pattern ⟨before, c :: rest, []⟩ some with
      | some next =>
          replace next.groups ++ subFrom isWord pattern replace fuel next.before next.rest
      | none => c :: subFrom isWord pattern replace fuel (some c) rest

def sub (isWord : Char → Bool) (pattern : Regex) (replace : List (List Char) → List Char)
    (text : List Char) : List Char :=
  subFrom isWord pattern replace text.length none text

inductive Runs (test : Char → Bool) : Cursor → Cursor → Prop where
  | stop (cursor : Cursor) : Runs test cursor cursor
  | step {before : Option Char} {c : Char} {rest : List Char} {groups : List (List Char)}
      {next : Cursor} (passes : test c) (runs : Runs test ⟨some c, rest, groups⟩ next) :
      Runs test ⟨before, c :: rest, groups⟩ next

def Reaches (isWord : Char → Bool) : Regex → Cursor → Cursor → Prop
  | .chars test, cursor, next =>
      ∃ c, test c ∧ cursor.rest = c :: next.rest ∧ next.before = some c ∧
        next.groups = cursor.groups
  | .seq first second, cursor, next =>
      ∃ middle, Reaches isWord first cursor middle ∧ Reaches isWord second middle next
  | .alt first second, cursor, next =>
      Reaches isWord first cursor next ∨ Reaches isWord second cursor next
  | .opt body, cursor, next => Reaches isWord body cursor next ∨ next = cursor
  | .star test, cursor, next => Runs test cursor next
  | .boundary, cursor, next => AtBoundary isWord cursor ∧ next = cursor
  | .group body, cursor, next => ∃ closed, Reaches isWord body cursor closed ∧ next = closeGroup cursor closed

section Correct

variable {α : Type*} {isWord : Char → Bool}

variable {k : Cursor → Option α}

theorem starThen_sound {test : Char → Bool} {groups : List (List Char)}
    {before : Option Char} {rest : List Char} {result : α}
    (found : starThen test groups k before rest = some result) :
    ∃ next, Runs test ⟨before, rest, groups⟩ next ∧ k next = some result := by
  induction rest generalizing before with
  | nil => exact ⟨_, .stop _, found⟩
  | cons c rest ih =>
      rw [starThen] at found
      split at found
      next passes =>
        rcases Option.or_eq_some_iff.mp found with longer | ⟨_, here⟩
        · obtain ⟨next, runs, goes⟩ := ih longer
          exact ⟨next, .step passes runs, goes⟩
        · exact ⟨_, .stop _, here⟩
      · exact ⟨_, .stop _, found⟩

theorem starThen_complete {test : Char → Bool} {cursor next : Cursor}
    (runs : Runs test cursor next) (goes : (k next).isSome) :
    (starThen test cursor.groups k cursor.before cursor.rest).isSome := by
  induction runs with
  | stop cursor =>
      obtain ⟨before, rest, groups⟩ := cursor
      cases rest with
      | nil => exact goes
      | cons c rest =>
          simp only [starThen]
          split
          · simp [goes]
          · exact goes
  | step passes runs ih =>
      simp only [starThen, passes, if_true]
      simp [ih goes]

theorem matchThen_sound {pattern : Regex} {cursor : Cursor} {result : α}
    (found : matchThen isWord pattern cursor k = some result) :
    ∃ next, Reaches isWord pattern cursor next ∧ k next = some result := by
  induction pattern generalizing cursor k with
  | chars test =>
      rw [matchThen] at found
      cases text : cursor.rest with
      | nil => simp [text] at found
      | cons c rest =>
          simp only [text] at found
          split at found
          next passes => exact ⟨⟨some c, rest, cursor.groups⟩, ⟨c, passes, text, rfl, rfl⟩, found⟩
          · cases found
  | seq first second firstInduction secondInduction =>
      obtain ⟨middle, reached, goesOn⟩ := firstInduction found
      obtain ⟨next, reachedNext, goes⟩ := secondInduction goesOn
      exact ⟨next, ⟨middle, reached, reachedNext⟩, goes⟩
  | alt first second firstInduction secondInduction =>
      rcases Option.or_eq_some_iff.mp found with here | ⟨_, here⟩
      · obtain ⟨next, reached, goes⟩ := firstInduction here
        exact ⟨next, .inl reached, goes⟩
      · obtain ⟨next, reached, goes⟩ := secondInduction here
        exact ⟨next, .inr reached, goes⟩
  | opt body ih =>
      rcases Option.or_eq_some_iff.mp found with here | ⟨_, here⟩
      · obtain ⟨next, reached, goes⟩ := ih here
        exact ⟨next, .inl reached, goes⟩
      · exact ⟨cursor, .inr rfl, here⟩
  | star test => exact starThen_sound found
  | boundary =>
      rw [matchThen] at found
      split at found
      next atBoundary => exact ⟨cursor, ⟨atBoundary, rfl⟩, found⟩
      · cases found
  | group body ih =>
      obtain ⟨closed, reached, goes⟩ := ih found
      exact ⟨_, ⟨closed, reached, rfl⟩, goes⟩

theorem matchThen_complete {pattern : Regex} {cursor next : Cursor}
    (reaches : Reaches isWord pattern cursor next) (goes : (k next).isSome) :
    (matchThen isWord pattern cursor k).isSome := by
  induction pattern generalizing cursor next k with
  | chars test =>
      obtain ⟨c, passes, text, before, groups⟩ := reaches
      rw [matchThen, text]
      simp only [passes, if_true]
      have same : (⟨some c, next.rest, cursor.groups⟩ : Cursor) = next := by
        rw [← before, ← groups]
      rw [same]
      exact goes
  | seq first second firstInduction secondInduction =>
      obtain ⟨middle, reached, reachedNext⟩ := reaches
      exact firstInduction reached (secondInduction reachedNext goes)
  | alt first second firstInduction secondInduction =>
      rw [matchThen, Option.isSome_or, Bool.or_eq_true]
      exact reaches.imp (fun reached => firstInduction reached goes)
        fun reached => secondInduction reached goes
  | opt body ih =>
      rw [matchThen, Option.isSome_or, Bool.or_eq_true]
      refine reaches.imp (fun reached => ih reached goes) ?_
      rintro rfl
      exact goes
  | star test => exact starThen_complete reaches goes
  | boundary =>
      obtain ⟨atBoundary, rfl⟩ := reaches
      rw [matchThen, if_pos atBoundary]
      exact goes
  | group body ih =>
      obtain ⟨closed, reached, rfl⟩ := reaches
      exact ih reached goes

end Correct

end Regex

end Wlcodex.Lib
