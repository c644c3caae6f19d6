import Mathlib.Data.List.Basic
import Mathlib.Data.List.Pairwise
import Mathlib.Algebra.BigOperators.Group.List.Basic
import Mathlib.Algebra.GroupWithZero.Nat

namespace Wlcodex.Lib

/-! Updating the first match of a list. -/

section FirstMatch

variable {α β : Type*} (selected : α → Bool) (change : α → α)

def modifyFirst : List α → List α
  | [] => []
  | head :: rest =>
      if selected head then change head :: rest else head :: modifyFirst rest

variable {selected change}

theorem find?_modifyFirst (keeps : ∀ row, selected row → selected (change row)) (rows : List α) :
    (modifyFirst selected change rows).find? selected = (rows.find? selected).map change := by
  induction rows with
  | nil => rfl
  | cons head rest ih =>
      cases chosen : selected head with
      | true => simp [modifyFirst, chosen, keeps head chosen]
      | false => simp [modifyFirst, chosen, ih]

theorem find?_modifyFirst_of_disjoint {other : α → Bool} (disjoint : ∀ row, selected row → other row = false)
    (keeps : ∀ row, selected row → selected (change row)) (rows : List α) :
    (modifyFirst selected change rows).find? other = rows.find? other := by
  induction rows with
  | nil => rfl
  | cons head rest ih =>
      cases chosen : selected head with
      | true =>
          simp [modifyFirst, chosen, disjoint head chosen,
            disjoint (change head) (keeps head chosen)]
      | false =>
          cases otherChosen : other head with
          | true => simp [modifyFirst, chosen, otherChosen]
          | false => simp [modifyFirst, chosen, otherChosen, ih]

theorem modifyFirst_modifyFirst {again : α → α}
    (keeps : ∀ row, selected row → selected (change row)) (rows : List α) :
    modifyFirst selected again (modifyFirst selected change rows) =
      modifyFirst selected (fun row => again (change row)) rows := by
  induction rows with
  | nil => rfl
  | cons head rest ih =>
      cases chosen : selected head with
      | true => simp [modifyFirst, chosen, keeps head chosen]
      | false => simp [modifyFirst, chosen, ih]

@[simp] theorem length_modifyFirst (rows : List α) :
    (modifyFirst selected change rows).length = rows.length := by
  induction rows with
  | nil => rfl
  | cons head rest ih =>
      cases chosen : selected head with
      | true => simp [modifyFirst, chosen]
      | false => simp [modifyFirst, chosen, ih]

variable {rows : List α}

theorem sum_map_modifyFirst (weight : α → Nat) (change : α → α) {row : α}
    (found : rows.find? selected = some row) :
    ((modifyFirst selected change rows).map weight).sum + weight row =
      (rows.map weight).sum + weight (change row) := by
  induction rows with
  | nil => simp at found
  | cons head rest ih =>
      cases chosen : selected head with
      | true =>
          simp only [List.find?_cons, chosen, Option.some.injEq] at found
          subst found
          simp only [modifyFirst, chosen, ↓reduceIte, List.map_cons, List.sum_cons]
          omega
      | false =>
          simp only [List.find?_cons, chosen] at found
          have restSum := ih found
          simp only [modifyFirst, chosen, Bool.false_eq_true, ↓reduceIte, List.map_cons,
            List.sum_cons]
          omega

theorem mem_modifyFirst {row : α} (member : row ∈ modifyFirst selected change rows) :
    row ∈ rows ∨ ∃ found, rows.find? selected = some found ∧ row = change found := by
  induction rows with
  | nil => simp [modifyFirst] at member
  | cons head rest ih =>
      cases chosen : selected head with
      | true =>
          simp only [modifyFirst, chosen, ↓reduceIte, List.mem_cons] at member
          rcases member with rfl | member
          · exact .inr ⟨head, by simp [chosen], rfl⟩
          · exact .inl (List.mem_cons_of_mem head member)
      | false =>
          simp only [modifyFirst, chosen, Bool.false_eq_true, ↓reduceIte, List.mem_cons] at member
          rcases member with rfl | member
          · exact .inl List.mem_cons_self
          · rcases ih member with old | ⟨found, foundEquation, rfl⟩
            · exact .inl (List.mem_cons_of_mem head old)
            · exact .inr ⟨found, by simp [chosen, foundEquation], rfl⟩

theorem mem_modifyFirst_of_mem {row : α} (member : row ∈ rows)
    (other : rows.find? selected ≠ some row) : row ∈ modifyFirst selected change rows := by
  induction rows with
  | nil => cases member
  | cons head rest ih =>
      cases chosen : selected head with
      | true =>
          rw [List.find?_cons_of_pos chosen] at other
          simp only [modifyFirst, chosen, ↓reduceIte, List.mem_cons]
          rcases List.mem_cons.mp member with rfl | member
          · exact absurd rfl other
          · exact .inr member
      | false =>
          rw [List.find?_cons_of_neg (by simp [chosen])] at other
          simp only [modifyFirst, chosen, Bool.false_eq_true, ↓reduceIte, List.mem_cons]
          rcases List.mem_cons.mp member with rfl | member
          · exact .inl rfl
          · exact .inr (ih member other)

theorem filter_modifyFirst_of_disjoint {other : α → Bool} (disjoint : ∀ row, selected row → other row = false)
    (keeps : ∀ row, selected row → selected (change row)) (rows : List α) :
    (modifyFirst selected change rows).filter other = rows.filter other := by
  induction rows with
  | nil => rfl
  | cons head rest ih =>
      cases chosen : selected head with
      | true =>
          simp [modifyFirst, chosen, disjoint head chosen, disjoint (change head) (keeps head chosen)]
      | false => simp [modifyFirst, chosen, List.filter_cons, ih]

theorem map_modifyFirst {project : α → β}
    (same : ∀ row, rows.find? selected = some row → project (change row) = project row) :
    (modifyFirst selected change rows).map project = rows.map project := by
  induction rows with
  | nil => rfl
  | cons head rest ih =>
      cases chosen : selected head with
      | true => simp [modifyFirst, chosen, same head (by simp [chosen])]
      | false =>
          have restSame : ∀ row, rest.find? selected = some row →
              project (change row) = project row := by
            intro row found
            exact same row (by simp [chosen, found])
          simp [modifyFirst, chosen, ih restSame]

theorem pairwise_modifyFirst {relation : α → α → Prop}
    (left : ∀ row other, relation row other → relation (change row) other)
    (right : ∀ row other, relation other row → relation other (change row))
    (pairwise : rows.Pairwise relation) :
    (modifyFirst selected change rows).Pairwise relation := by
  induction rows with
  | nil => exact .nil
  | cons head rest ih =>
      obtain ⟨headRelated, restPairwise⟩ := List.pairwise_cons.mp pairwise
      cases chosen : selected head with
      | true =>
          simp only [modifyFirst, chosen, ↓reduceIte]
          exact .cons (fun other member => left head other (headRelated other member)) restPairwise
      | false =>
          simp only [modifyFirst, chosen, Bool.false_eq_true, ↓reduceIte]
          refine .cons ?_ (ih restPairwise)
          intro other member
          rcases mem_modifyFirst member with old | ⟨found, foundEquation, rfl⟩
          · exact headRelated other old
          · exact right found head (headRelated found (List.mem_of_find?_eq_some foundEquation))

theorem eq_or_of_find?_eq_some {relation : α → α → Prop} (sorted : rows.Pairwise relation)
    {first : α} (found : rows.find? selected = some first) {row : α} (member : row ∈ rows)
    (chosen : selected row) : row = first ∨ relation first row := by
  obtain ⟨_, earlier, later, split, skipped⟩ := List.find?_eq_some_iff_append.mp found
  rw [split, List.pairwise_append] at sorted
  rw [split, List.mem_append, List.mem_cons] at member
  rcases member with inEarlier | same | inLater
  · have refused := skipped row inEarlier
    simp [chosen] at refused
  · exact .inl same
  · exact .inr ((List.pairwise_cons.mp sorted.2.1).1 row inLater)

end FirstMatch

end Wlcodex.Lib
