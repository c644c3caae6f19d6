import Mathlib.Data.List.TakeWhile
import Mathlib.Logic.Relation

namespace Wlcodex.Lib

/-! Texts that differ by deleted blanks and inserted markers only. -/

section Edits

variable {α : Type*} (blank : α → Prop) (marker : List α → Prop)

inductive Edit : List α → List α → Prop
  | delete (before : List α) {letter : α} (isBlank : blank letter) (after : List α) :
      Edit (before ++ letter :: after) (before ++ after)
  | insert (before : List α) {inserted : List α} (isMarker : marker inserted) (after : List α) :
      Edit (before ++ after) (before ++ (inserted ++ after))

def Edits : List α → List α → Prop := Relation.ReflTransGen (Edit blank marker)

namespace Edits

variable {blank marker}

theorem refl (text : List α) : Edits blank marker text text := Relation.ReflTransGen.refl

theorem trans {first second third : List α} (edits : Edits blank marker first second)
    (more : Edits blank marker second third) : Edits blank marker first third :=
  Relation.ReflTransGen.trans edits more

variable {first second : List α}

theorem mono {wider : List α → Prop} (markers : ∀ text, marker text → wider text) (edits : Edits blank marker first second) :
    Edits blank wider first second := by
  refine Relation.ReflTransGen.mono (fun _ _ edit => ?_) _ _ edits
  cases edit with
  | delete before isBlank after => exact .delete before isBlank after
  | insert before isMarker after => exact .insert before (markers _ isMarker) after

theorem frame (edits : Edits blank marker first second) (before after : List α) :
    Edits blank marker (before ++ first ++ after) (before ++ second ++ after) := by
  induction edits with
  | refl => exact refl _
  | tail _ edit ih =>
      refine ih.trans (Relation.ReflTransGen.single ?_)
      cases edit with
      | delete start isBlank rest =>
          simpa using Edit.delete (before ++ start) isBlank (rest ++ after)
      | insert start isMarker rest =>
          simpa using Edit.insert (before ++ start) isMarker (rest ++ after)

theorem append {first second third fourth : List α} (edits : Edits blank marker first second)
    (more : Edits blank marker third fourth) :
    Edits blank marker (first ++ third) (second ++ fourth) := by
  have early : Edits blank marker (first ++ third) (second ++ third) := by
    simpa using edits.frame [] third
  have late : Edits blank marker (second ++ third) (second ++ fourth) := by
    simpa using more.frame second []
  exact early.trans late

theorem delete {blanks : List α} (all : ∀ letter ∈ blanks, blank letter) :
    Edits blank marker blanks [] := by
  induction blanks with
  | nil => exact refl []
  | cons letter rest ih =>
      refine trans (Relation.ReflTransGen.single (Edit.delete [] (all letter (by simp)) rest)) ?_
      exact ih fun other member => all other (by simp [member])

theorem insert {inserted : List α} (isMarker : marker inserted) : Edits blank marker [] inserted := by
  have edit : Edit blank marker [] inserted := by simpa using Edit.insert [] isMarker []
  exact Relation.ReflTransGen.single edit

theorem dropWhile {isBlank : α → Bool} (blanks : ∀ letter, isBlank letter = true → blank letter)
    (text : List α) : Edits blank marker text (text.dropWhile isBlank) := by
  have leading : Edits blank marker (text.takeWhile isBlank) [] :=
    delete fun letter member => blanks letter (List.mem_takeWhile_imp member)
  simpa using leading.append (refl (text.dropWhile isBlank))

theorem count_le [DecidableEq α] (edits : Edits blank marker first second)
    {letter : α} (solid : ¬ blank letter) : first.count letter ≤ second.count letter := by
  induction edits with
  | refl => exact le_rfl
  | tail _ edit ih =>
      refine ih.trans ?_
      cases edit with
      | @delete before deleted isBlank after =>
          have other : deleted ≠ letter := by
            rintro rfl
            exact solid isBlank
          simp [List.count_append, List.count_cons_of_ne other]
      | insert before isMarker after =>
          simp only [List.count_append]
          omega

end Edits

end Edits

end Wlcodex.Lib
