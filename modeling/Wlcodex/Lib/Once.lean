import Mathlib.Data.List.Basic

namespace Wlcodex.Lib

/-! Entries that are written once: an entry whose key was seen before is passed over. -/

section Once

variable {κ α : Type*} [DecidableEq κ] (key : α → κ)

def unseen (seen : List κ) : List α → List α
  | [] => []
  | entry :: entries =>
      if key entry ∈ seen then unseen seen entries
      else entry :: unseen (key entry :: seen) entries

def remembered (seen : List κ) (entries : List α) : List κ :=
  seen ++ (unseen key seen entries).map key

variable {key}

variable {seen : List κ} {entry : α}

theorem unseen_cons_of_mem (known : key entry ∈ seen)
    (entries : List α) : unseen key seen (entry :: entries) = unseen key seen entries :=
  if_pos known

theorem unseen_cons_of_not_mem (fresh : key entry ∉ seen) (entries : List α) :
    unseen key seen (entry :: entries) = entry :: unseen key (key entry :: seen) entries :=
  if_neg fresh

theorem unseen_congr {other : List κ} (same : ∀ k, k ∈ seen ↔ k ∈ other) (entries : List α) :
    unseen key seen entries = unseen key other entries := by
  induction entries generalizing seen other with
  | nil => rfl
  | cons entry entries ih =>
      by_cases known : key entry ∈ seen
      · rw [unseen_cons_of_mem known, unseen_cons_of_mem ((same _).mp known)]
        exact ih same
      · rw [unseen_cons_of_not_mem known,
          unseen_cons_of_not_mem fun later => known ((same _).mpr later)]
        congr 1
        apply ih
        intro k
        rw [List.mem_cons, List.mem_cons, same]

theorem mem_of_mem_unseen {entries : List α}
    (member : entry ∈ unseen key seen entries) : entry ∈ entries := by
  induction entries generalizing seen with
  | nil => exact member
  | cons head entries ih =>
      by_cases known : key head ∈ seen
      · rw [unseen_cons_of_mem known] at member
        exact List.mem_cons_of_mem head (ih member)
      · rw [unseen_cons_of_not_mem known] at member
        rcases List.mem_cons.mp member with rfl | later
        · exact List.mem_cons_self
        · exact List.mem_cons_of_mem head (ih later)

theorem length_unseen_le (seen : List κ) (entries : List α) :
    (unseen key seen entries).length ≤ entries.length := by
  induction entries generalizing seen with
  | nil => exact Nat.le_refl 0
  | cons head entries ih =>
      rw [unseen, List.length_cons]
      split_ifs
      · exact Nat.le_succ_of_le (ih seen)
      · exact Nat.succ_le_succ (ih _)

theorem mem_remembered (entries : List α) (k : κ) :
    k ∈ remembered key seen entries ↔ k ∈ seen ∨ ∃ entry ∈ entries, key entry = k := by
  induction entries generalizing seen with
  | nil => simp [remembered, unseen]
  | cons head entries ih =>
      by_cases known : key head ∈ seen
      · have step : remembered key seen (head :: entries) = remembered key seen entries :=
          congrArg (seen ++ ·.map key) (unseen_cons_of_mem known entries)
        rw [step, ih]
        constructor
        · rintro (before | ⟨entry, member, named⟩)
          · exact .inl before
          · exact .inr ⟨entry, List.mem_cons_of_mem head member, named⟩
        · rintro (before | ⟨entry, member, named⟩)
          · exact .inl before
          · rcases List.mem_cons.mp member with rfl | later
            · exact .inl (named ▸ known)
            · exact .inr ⟨entry, later, named⟩
      · have step : k ∈ remembered key seen (head :: entries) ↔
            k ∈ remembered key (key head :: seen) entries := by
          unfold remembered
          rw [unseen_cons_of_not_mem known]
          simp only [List.map_cons, List.mem_cons, List.mem_append]
          tauto
        rw [step, ih]
        simp only [List.mem_cons, exists_eq_or_imp]
        tauto

theorem unseen_eq_nil_iff (entries : List α) :
    unseen key seen entries = [] ↔ ∀ entry ∈ entries, key entry ∈ seen := by
  induction entries with
  | nil => simp [unseen]
  | cons head entries ih =>
      rw [List.forall_mem_cons]
      by_cases known : key head ∈ seen
      · rw [unseen_cons_of_mem known, ih]
        exact ⟨fun later => ⟨known, later⟩, fun all => all.2⟩
      · rw [unseen_cons_of_not_mem known]
        exact ⟨fun none_ => absurd none_ (List.cons_ne_nil _ _), fun all => absurd all.1 known⟩

theorem unseen_append (first second : List α) :
    unseen key seen (first ++ second) =
      unseen key seen first ++ unseen key (remembered key seen first) second := by
  induction first generalizing seen with
  | nil => simp [unseen, remembered]
  | cons head first ih =>
      rw [List.cons_append]
      by_cases known : key head ∈ seen
      · rw [unseen_cons_of_mem known, unseen_cons_of_mem known, ih]
        congr 1
        apply unseen_congr
        intro k
        rw [mem_remembered, mem_remembered]
        constructor
        · rintro (before | ⟨entry, member, named⟩)
          · exact .inl before
          · exact .inr ⟨entry, List.mem_cons_of_mem head member, named⟩
        · rintro (before | ⟨entry, member, named⟩)
          · exact .inl before
          · rcases List.mem_cons.mp member with rfl | later
            · exact .inl (named ▸ known)
            · exact .inr ⟨entry, later, named⟩
      · rw [unseen_cons_of_not_mem known, unseen_cons_of_not_mem known, ih, List.cons_append]
        congr 2
        apply unseen_congr
        intro k
        rw [mem_remembered, mem_remembered, List.mem_cons]
        simp only [List.mem_cons, exists_eq_or_imp]
        tauto

theorem remembered_append (first second : List α) :
    remembered key seen (first ++ second) = remembered key (remembered key seen first) second := by
  rw [remembered, unseen_append, List.map_append, ← List.append_assoc]
  rfl

theorem unseen_singleton (seen : List κ) (entry : α) :
    unseen key seen [entry] = if key entry ∈ seen then [] else [entry] := rfl

theorem filter_unseen_last {front : List α} {last : α} {Wanted : α → Bool}
    (others : ∀ entry ∈ front, Wanted entry = false ∧ key entry ≠ key last) (wanted : Wanted last) :
    (unseen key seen (front ++ [last])).filter Wanted = if key last ∈ seen then [] else [last] := by
  have none_ : (unseen key seen front).filter Wanted = [] := by
    rw [List.filter_eq_nil_iff]
    intro entry member
    rw [(others entry (mem_of_mem_unseen member)).1]
    exact Bool.false_ne_true
  have same : key last ∈ remembered key seen front ↔ key last ∈ seen := by
    rw [mem_remembered]
    constructor
    · rintro (before | ⟨entry, member, named⟩)
      · exact before
      · exact absurd named (others entry member).2
    · exact .inl
  rw [unseen_append, List.filter_append, none_, List.nil_append, unseen_singleton, if_congr same rfl rfl]
  split_ifs
  · rfl
  · rw [List.filter_singleton, wanted, cond_true]

end Once

end Wlcodex.Lib
