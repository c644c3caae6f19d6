import Mathlib.Data.List.TakeWhile

namespace Wlcodex.Lib

/-! Lists without the blank elements at their ends. -/

variable {α : Type*} (blank : α → Bool)

def trim (list : List α) : List α := ((list.dropWhile blank).reverse.dropWhile blank).reverse

variable {blank} {first second list : List α}

theorem filter_dropWhile (list : List α) :
    (list.dropWhile blank).filter (fun entry => !blank entry) = list.filter fun entry => !blank entry := by
  induction list with
  | nil => rfl
  | cons head rest ih =>
      cases empty : blank head with
      | true =>
          rw [List.dropWhile_cons_of_pos empty, ih, List.filter_cons, empty]
          rfl
      | false => rw [List.dropWhile_cons_of_neg (by rw [empty]; decide)]

theorem filter_trim (list : List α) :
    (trim blank list).filter (fun entry => !blank entry) = list.filter fun entry => !blank entry := by
  unfold trim
  rw [List.filter_reverse, filter_dropWhile, ← List.filter_reverse, List.reverse_reverse, filter_dropWhile]

theorem dropWhile_append_of_all (empty : first.all blank = true) :
    (first ++ second).dropWhile blank = second.dropWhile blank := by
  induction first with
  | nil => rfl
  | cons head rest ih =>
      rw [List.all_cons, Bool.and_eq_true] at empty
      rw [List.cons_append, List.dropWhile_cons_of_pos empty.1]
      exact ih empty.2

theorem dropWhile_append_of_not_all (some_ : first.all blank = false) :
    (first ++ second).dropWhile blank = first.dropWhile blank ++ second := by
  induction first with
  | nil => cases some_
  | cons head rest ih =>
      cases empty : blank head with
      | true =>
          rw [List.all_cons, empty, Bool.true_and] at some_
          rw [List.cons_append, List.dropWhile_cons_of_pos empty, List.dropWhile_cons_of_pos empty]
          exact ih some_
      | false =>
          have visible : ¬blank head = true := by rw [empty]; decide
          rw [List.cons_append, List.dropWhile_cons_of_neg visible, List.dropWhile_cons_of_neg visible,
            List.cons_append]

theorem trim_of_all (empty : list.all blank = true) : trim blank list = [] := by
  have dropped : list.dropWhile blank = [] :=
    List.dropWhile_eq_nil_iff.mpr fun entry member => List.all_eq_true.mp empty entry member
  unfold trim
  rw [dropped]
  rfl

theorem trim_append_of_all (empty : first.all blank = true) :
    trim blank (first ++ second) = trim blank second := by
  unfold trim
  rw [dropWhile_append_of_all empty]

theorem trim_append_blank (some_ : first.all blank = false) (empty : second.all blank = true) :
    trim blank (first ++ second) = trim blank first := by
  unfold trim
  rw [dropWhile_append_of_not_all some_, List.reverse_append, dropWhile_append_of_all]
  rw [List.all_reverse]
  exact empty

theorem trim_eq_nil_iff : trim blank list = [] ↔ list.all blank = true := by
  constructor
  · intro gone
    have visible := @filter_trim _ blank list
    rw [gone, List.filter_nil] at visible
    rw [List.all_eq_true]
    intro entry member
    simpa using List.filter_eq_nil_iff.mp visible.symm entry member
  · exact trim_of_all

theorem trim_append_eq_iff (some_ : first.all blank = false) :
    trim blank (first ++ second) = trim blank first ↔ second.all blank = true := by
  constructor
  · intro same
    have visible := congrArg (List.filter fun entry => !blank entry) same
    rw [filter_trim, filter_trim, List.filter_append, List.append_right_eq_self] at visible
    rw [List.all_eq_true]
    intro entry member
    simpa using List.filter_eq_nil_iff.mp visible entry member
  · exact trim_append_blank some_

end Wlcodex.Lib
