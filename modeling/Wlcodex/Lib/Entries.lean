import Wlcodex.Lib.FirstMatch

namespace Wlcodex.Lib

/-! The entries of a dict in the order of their insertion, changed by functions that may
raise. -/

section Entries

variable {α : Type*} (selected : α → Bool) (fresh : α) (change : α → Option α)

def changeFirst : List α → Option (List α)
  | [] => some []
  | head :: rest =>
      if selected head then (change head).map (· :: rest)
      else (changeFirst rest).map (head :: ·)

def upsert (entries : List α) : Option (List α) :=
  if entries.any selected then changeFirst selected change entries
  else (change fresh).map fun entry => entries ++ [entry]

variable {selected fresh change} {entries result : List α}

variable {Holds : α → Prop}

theorem changeFirst_append {front : List α} (unselected : ∀ other ∈ front, selected other = false)
    (back : List α) : changeFirst selected change (front ++ back) =
      (changeFirst selected change back).map (front ++ ·) := by
  induction front with
  | nil => exact Option.map_id'.symm
  | cons head rest ih =>
      rw [List.forall_mem_cons] at unselected
      rw [List.cons_append, changeFirst, unselected.1, if_neg Bool.false_ne_true, ih unselected.2,
        Option.map_map]
      rfl

theorem changeFirst_of_none (absent : entries.find? selected = none) :
    changeFirst selected change entries = some entries := by
  have kept := @changeFirst_append _ selected change entries (by simpa using absent) []
  rw [List.append_nil] at kept
  rw [kept, changeFirst, Option.map_some, List.append_nil]

/-- A change that succeeds leaves what is before and behind the first selected entry. -/
theorem changeFirst_cases (done : changeFirst selected change entries = some result) :
    (entries.find? selected = none ∧ result = entries) ∨
      ∃ front entry next back, entries = front ++ entry :: back ∧ (∀ other ∈ front, selected other = false) ∧
        entries.find? selected = some entry ∧ change entry = some next ∧ result = front ++ next :: back := by
  cases found : entries.find? selected with
  | none =>
      rw [changeFirst_of_none found] at done
      exact .inl ⟨rfl, (Option.some.inj done).symm⟩
  | some entry =>
      obtain ⟨chosen, front, back, same, others⟩ := List.find?_eq_some_iff_append.mp found
      have unselected : ∀ other ∈ front, selected other = false := by simpa using others
      rw [same, changeFirst_append unselected, changeFirst, if_pos chosen, Option.map_map] at done
      obtain ⟨next, changed, made⟩ := Option.map_eq_some_iff.mp done
      exact .inr ⟨front, entry, next, back, same, unselected, rfl, changed, made.symm⟩

section

variable (keeps : ∀ entry, entries.find? selected = some entry → Holds entry →
  ∀ next, change entry = some next → Holds next)

include keeps

theorem forall_changeFirst (each : ∀ entry ∈ entries, Holds entry)
    (done : changeFirst selected change entries = some result) : ∀ entry ∈ result, Holds entry := by
  rcases changeFirst_cases done with ⟨-, rfl⟩ | ⟨front, entry, next, back, rfl, -, found, changed, rfl⟩
  · exact each
  · simp only [List.forall_mem_append, List.forall_mem_cons] at each ⊢
    exact ⟨each.1, keeps entry found each.2.1 next changed, each.2.2⟩

theorem forall_upsert (each : ∀ entry ∈ entries, Holds entry)
    (starts : entries.find? selected = none → ∀ next, change fresh = some next → Holds next)
    (done : upsert selected fresh change entries = some result) : ∀ entry ∈ result, Holds entry := by
  unfold upsert at done
  split at done
  · exact forall_changeFirst keeps each done
  next outside =>
    obtain ⟨next, changed, rfl⟩ := Option.map_eq_some_iff.mp done
    have absent : entries.find? selected = none := by
      rw [List.find?_eq_none]
      exact fun entry member chosen => outside (List.any_eq_true.mpr ⟨entry, member, chosen⟩)
    intro entry member
    rcases List.mem_append.mp member with old | new
    · exact each entry old
    · exact List.mem_singleton.mp new ▸ starts absent next changed

theorem exists_changeFirst (some_ : ∃ entry ∈ entries, Holds entry)
    (done : changeFirst selected change entries = some result) : ∃ entry ∈ result, Holds entry := by
  rcases changeFirst_cases done with ⟨-, rfl⟩ | ⟨front, entry, next, back, rfl, -, found, changed, rfl⟩
  · exact some_
  · simp only [List.mem_append, List.mem_cons, or_and_right, exists_or, exists_eq_left] at some_ ⊢
    exact some_.imp_right (Or.imp_left fun holds => keeps entry found holds next changed)

theorem exists_upsert (some_ : ∃ entry ∈ entries, Holds entry)
    (done : upsert selected fresh change entries = some result) : ∃ entry ∈ result, Holds entry := by
  unfold upsert at done
  split at done
  · exact exists_changeFirst keeps some_ done
  · obtain ⟨next, -, rfl⟩ := Option.map_eq_some_iff.mp done
    obtain ⟨entry, member, holds⟩ := some_
    exact ⟨entry, List.mem_append_left _ member, holds⟩

end

theorem sum_upsert {M : Type*} [AddCommMonoid M] {weight : α → M} {more : M}
    (adds : ∀ entry next, selected entry → change entry = some next → weight next = weight entry + more)
    (starts : ∀ next, change fresh = some next → weight next = more)
    (done : upsert selected fresh change entries = some result) :
    (result.map weight).sum = (entries.map weight).sum + more := by
  unfold upsert at done
  split at done
  next inside =>
    rcases changeFirst_cases done with ⟨absent, -⟩ | ⟨front, entry, next, back, rfl, -, found, changed, rfl⟩
    · exact absurd (List.any_eq_true.mp inside) (by simpa using absent)
    · simp [adds entry next (List.find?_some found) changed, add_assoc, add_left_comm, add_comm]
  · obtain ⟨next, changed, rfl⟩ := Option.map_eq_some_iff.mp done
    simp [starts next changed]

theorem map_changeFirst {κ : Type*} {key : α → κ}
    (keeps : ∀ entry next, change entry = some next → key next = key entry)
    (done : changeFirst selected change entries = some result) :
    result.map key = entries.map key := by
  rcases changeFirst_cases done with ⟨-, rfl⟩ | ⟨front, entry, next, back, rfl, -, -, changed, rfl⟩
  · rfl
  · rw [List.map_append, List.map_append, List.map_cons, List.map_cons, keeps entry next changed]

theorem exists_of_changeFirst {entry : α} (found : entries.find? selected = some entry)
    (done : changeFirst selected change entries = some result) :
    ∃ next, change entry = some next := by
  rcases changeFirst_cases done with ⟨absent, -⟩ | ⟨front, first, next, back, -, -, here, changed, -⟩
  · cases found.symm.trans absent
  · cases found.symm.trans here
    exact ⟨next, changed⟩

theorem find?_changeFirst (keeps : ∀ entry next, change entry = some next → selected next = selected entry)
    (done : changeFirst selected change entries = some result) :
    result.find? selected = (entries.find? selected).bind change := by
  rcases changeFirst_cases done with
    ⟨absent, rfl⟩ | ⟨front, entry, next, back, -, others, found, changed, rfl⟩
  · rw [absent]
    rfl
  · rw [found, Option.bind_some, changed]
    refine List.find?_eq_some_iff_append.mpr ⟨?_, front, back, rfl, by simpa using others⟩
    rw [keeps entry next changed, List.find?_some found]

section Filtered

variable {keep : α → Bool}

theorem filter_changeFirst_of_kept (kept : ∀ entry ∈ entries, selected entry = true → keep entry = true)
    (keeps : ∀ entry, entries.find? selected = some entry →
      ∀ next, change entry = some next → keep next = true)
    (done : changeFirst selected change entries = some result) :
    changeFirst selected change (entries.filter keep) = some (result.filter keep) := by
  rcases changeFirst_cases done with
    ⟨absent, rfl⟩ | ⟨front, entry, next, back, rfl, others, found, changed, rfl⟩
  · refine changeFirst_of_none (List.find?_eq_none.mpr fun entry member => ?_)
    exact List.find?_eq_none.mp absent entry (List.mem_filter.mp member).1
  · have chosen := List.find?_some found
    rw [List.filter_append, List.filter_append, List.filter_cons_of_pos (kept entry (by simp) chosen),
      List.filter_cons_of_pos (keeps entry found next changed),
      changeFirst_append fun other member => others other (List.mem_filter.mp member).1,
      changeFirst, if_pos chosen, changed]
    rfl

theorem filter_changeFirst_of_dropped
    (dropped : ∀ entry, entries.find? selected = some entry → keep entry = false)
    (keeps : ∀ entry, entries.find? selected = some entry →
      ∀ next, change entry = some next → keep next = false)
    (done : changeFirst selected change entries = some result) :
    result.filter keep = entries.filter keep := by
  rcases changeFirst_cases done with ⟨-, rfl⟩ | ⟨front, entry, next, back, rfl, -, found, changed, rfl⟩
  · rfl
  · rw [List.filter_append, List.filter_append,
      List.filter_cons_of_neg (by simp [keeps entry found next changed]),
      List.filter_cons_of_neg (by simp [dropped entry found])]

section

variable (kept : ∀ entry ∈ entries, selected entry = true → keep entry = true)

include kept

theorem find?_filter_of_kept :
    (entries.filter keep).find? selected = entries.find? selected := by
  induction entries with
  | nil => rfl
  | cons head rest ih =>
      rw [List.forall_mem_cons] at kept
      cases chosen : selected head with
      | true =>
          rw [List.filter_cons_of_pos (kept.1 chosen), List.find?_cons_of_pos chosen,
            List.find?_cons_of_pos chosen]
      | false =>
          rw [List.filter_cons, List.find?_cons_of_neg (by simp [chosen])]
          split
          · rw [List.find?_cons_of_neg (by simp [chosen]), ih kept.2]
          · exact ih kept.2

theorem any_filter_of_kept :
    (entries.filter keep).any selected = entries.any selected := by
  rw [Bool.eq_iff_iff, List.any_eq_true, List.any_eq_true]
  constructor
  · rintro ⟨entry, member, chosen⟩
    exact ⟨entry, (List.mem_filter.mp member).1, chosen⟩
  · rintro ⟨entry, member, chosen⟩
    exact ⟨entry, List.mem_filter.mpr ⟨member, kept entry member chosen⟩, chosen⟩

theorem filter_upsert_of_kept
    (keeps : ∀ entry, entries.find? selected = some entry →
      ∀ next, change entry = some next → keep next = true)
    (starts : ∀ next, change fresh = some next → keep next = true)
    (done : upsert selected fresh change entries = some result) :
    upsert selected fresh change (entries.filter keep) = some (result.filter keep) := by
  unfold upsert at done ⊢
  rw [any_filter_of_kept kept]
  split at done
  next inside =>
    rw [if_pos inside]
    exact filter_changeFirst_of_kept kept keeps done
  next outside =>
    obtain ⟨next, changed, rfl⟩ := Option.map_eq_some_iff.mp done
    rw [if_neg outside, changed, List.filter_append,
      List.filter_cons_of_pos (starts next changed), Option.map_some, List.filter_nil]

end

theorem filter_upsert_of_dropped (dropped : ∀ entry, entries.find? selected = some entry → keep entry = false)
    (keeps : ∀ entry, entries.find? selected = some entry →
      ∀ next, change entry = some next → keep next = false)
    (starts : ∀ next, change fresh = some next → keep next = false)
    (done : upsert selected fresh change entries = some result) :
    result.filter keep = entries.filter keep := by
  unfold upsert at done
  split at done
  · exact filter_changeFirst_of_dropped dropped keeps done
  · obtain ⟨next, changed, rfl⟩ := Option.map_eq_some_iff.mp done
    rw [List.filter_append, List.filter_cons_of_neg (by simp [starts next changed]), List.filter_nil,
      List.append_nil]

theorem changeFirst_some (update : α → α) (entries : List α) :
    changeFirst selected (fun entry => some (update entry)) entries =
      some (modifyFirst selected update entries) := by
  induction entries with
  | nil => rfl
  | cons head rest ih =>
      rw [changeFirst, modifyFirst, ih]
      split
      · rfl
      · rfl

theorem upsert_some (selected : α → Bool) (fresh : α) (update : α → α) (entries : List α) :
    ∃ result, upsert selected fresh (fun entry => some (update entry)) entries = some result := by
  unfold upsert
  split
  · exact ⟨_, changeFirst_some update entries⟩
  · exact ⟨_, rfl⟩

end Filtered

section Grouped

variable {κ : Type*}

/-- A table step that touches only the entries of one group: on any choice of groups with this
one it goes through alike, and any choice without it stays as it is. -/
structure Apart (group : α → κ) (own : κ) (step : List α → Option (List α))
    (entries result : List α) : Prop where
  follows : ∀ only : κ → Bool, only own = true →
    step (entries.filter fun entry => only (group entry)) =
      some (result.filter fun entry => only (group entry))
  ignores : ∀ only : κ → Bool, only own = false →
    (result.filter fun entry => only (group entry)) = entries.filter fun entry => only (group entry)

variable {group : α → κ} {own : κ}

theorem apart_same (entries : List α) : Apart group own some entries entries where
  follows _ _ := rfl
  ignores _ _ := rfl

section

variable (belongs : ∀ entry ∈ entries, selected entry = true → group entry = own)

include belongs

theorem apart_changeFirst
    (keeps : ∀ entry next, group entry = own → change entry = some next → group next = own)
    (done : changeFirst selected change entries = some result) :
    Apart group own (changeFirst selected change) entries result := by
  have found : ∀ entry, entries.find? selected = some entry → group entry = own :=
    fun entry here => belongs entry (List.mem_of_find?_eq_some here) (List.find?_some here)
  refine ⟨fun only mine => ?_, fun only other => ?_⟩
  · refine filter_changeFirst_of_kept (fun entry member chosen => ?_) (fun entry here next changed => ?_) done
    · rw [belongs entry member chosen, mine]
    · rw [keeps entry next (found entry here) changed, mine]
  · refine filter_changeFirst_of_dropped (fun entry here => ?_) (fun entry here next changed => ?_) done
    · rw [found entry here, other]
    · rw [keeps entry next (found entry here) changed, other]

theorem apart_upsert (keeps : ∀ entry next, group entry = own → change entry = some next → group next = own)
    (starts : ∀ next, change fresh = some next → group next = own)
    (done : upsert selected fresh change entries = some result) :
    Apart group own (upsert selected fresh change) entries result := by
  have found : ∀ entry, entries.find? selected = some entry → group entry = own :=
    fun entry here => belongs entry (List.mem_of_find?_eq_some here) (List.find?_some here)
  refine ⟨fun only mine => ?_, fun only other => ?_⟩
  · refine filter_upsert_of_kept (fun entry member chosen => ?_) (fun entry here next changed => ?_)
      (fun next changed => ?_) done
    · rw [belongs entry member chosen, mine]
    · rw [keeps entry next (found entry here) changed, mine]
    · rw [starts next changed, mine]
  · refine filter_upsert_of_dropped (fun entry here => ?_) (fun entry here next changed => ?_)
      (fun next changed => ?_) done
    · rw [found entry here, other]
    · rw [keeps entry next (found entry here) changed, other]
    · rw [starts next changed, other]

theorem apart_modifyFirst {update : α → α} (keeps : ∀ entry, group (update entry) = group entry) :
    Apart group own (fun entries => some (modifyFirst selected update entries)) entries
      (modifyFirst selected update entries) := by
  have step := apart_changeFirst belongs (fun entry next mine changed => by
    cases changed
    exact (keeps entry).trans mine) (changeFirst_some update entries)
  refine ⟨fun only mine => ?_, step.ignores⟩
  rw [← changeFirst_some]
  exact step.follows only mine

end

theorem apart_map {update : α → α} (others : ∀ entry ∈ entries, group entry ≠ own → update entry = entry)
    (keeps : ∀ entry, group (update entry) = group entry) :
    Apart group own (fun entries => some (entries.map update)) entries (entries.map update) := by
  have within : ∀ only : κ → Bool, ((entries.map update).filter fun entry => only (group entry)) =
      (entries.filter fun entry => only (group entry)).map update := by
    intro only
    rw [List.filter_map]
    exact congrArg _ (List.filter_congr fun entry _ => by rw [Function.comp, keeps])
  refine ⟨fun only _ => by rw [within], fun only other => ?_⟩
  rw [within]
  refine (List.map_congr_left fun entry member => ?_).trans (List.map_id _)
  obtain ⟨inside, chosen⟩ := List.mem_filter.mp member
  refine others entry inside ?_
  rintro rfl
  rw [other] at chosen
  cases chosen

end Grouped

section Keyed

variable {κ : Type*} [DecidableEq κ] {key : α → κ} {wanted : κ}

theorem find?_key_changeFirst_of_found {entry next : α} (unique : (entries.map key).Nodup)
    (keeps : ∀ entry next, change entry = some next → key next = key entry)
    (found : entries.find? selected = some entry) (changed : change entry = some next)
    (done : changeFirst selected change entries = some result) :
    result.find? (fun other => key other = key entry) = some next := by
  rcases changeFirst_cases done with ⟨absent, -⟩ | ⟨front, first, made, back, rfl, -, here, makes, rfl⟩
  · cases found.symm.trans absent
  · cases found.symm.trans here
    cases changed.symm.trans makes
    rw [List.map_append, List.map_cons, List.nodup_append] at unique
    refine List.find?_eq_some_iff_append.mpr ⟨decide_eq_true (keeps entry next changed), front, back, rfl, ?_⟩
    intro other member
    simpa using unique.2.2 (key other) (List.mem_map_of_mem member) (key entry) List.mem_cons_self

section

variable (keeps : ∀ entry next, change entry = some next → key next = key entry)

include keeps

theorem find?_key_changeFirst_of_other
    (others : ∀ entry, entries.find? selected = some entry → key entry ≠ wanted)
    (done : changeFirst selected change entries = some result) :
    result.find? (fun entry => key entry = wanted) = entries.find? fun entry => key entry = wanted := by
  rcases changeFirst_cases done with ⟨-, rfl⟩ | ⟨front, entry, next, back, rfl, -, found, changed, rfl⟩
  · rfl
  · have other := others entry found
    rw [List.find?_append, List.find?_append,
      List.find?_cons_of_neg (by simpa [keeps _ _ changed] using other),
      List.find?_cons_of_neg (by simpa using other)]

theorem find?_key_upsert (named : key fresh = wanted)
    (done : upsert (fun entry => key entry = wanted) fresh change entries = some result) :
    ∃ next, change ((entries.find? fun entry => key entry = wanted).getD fresh) = some next ∧
      result.find? (fun entry => key entry = wanted) = some next := by
  unfold upsert at done
  split at done
  next inside =>
    have some_ : (entries.find? fun entry => key entry = wanted).isSome := by
      rw [List.find?_isSome]
      exact List.any_eq_true.mp inside
    obtain ⟨first, found⟩ := Option.isSome_iff_exists.mp some_
    have changed : ∃ next, change first = some next := exists_of_changeFirst found done
    obtain ⟨next, changed⟩ := changed
    rw [find?_changeFirst (fun entry next changed => by rw [keeps _ _ changed]) done, found]
    exact ⟨next, changed, changed⟩
  next outside =>
    obtain ⟨next, changed, rfl⟩ := Option.map_eq_some_iff.mp done
    have absent : entries.find? (fun entry => key entry = wanted) = none := by
      rw [List.find?_eq_none]
      intro entry member same
      exact outside (List.any_eq_true.mpr ⟨entry, member, same⟩)
    rw [List.find?_append, absent, Option.getD_none, Option.none_or]
    exact ⟨next, changed, List.find?_cons_of_pos (decide_eq_true ((keeps _ _ changed).trans named))⟩

theorem find?_key_upsert_of_ne {other : κ} (named : key fresh = wanted) (apart : other ≠ wanted)
    (done : upsert (fun entry => key entry = wanted) fresh change entries = some result) :
    result.find? (fun entry => key entry = other) = entries.find? fun entry => key entry = other := by
  unfold upsert at done
  split at done
  · refine find?_key_changeFirst_of_other keeps (fun entry found => ?_) done
    have same := List.find?_some found
    rw [of_decide_eq_true same]
    exact apart.symm
  · obtain ⟨next, changed, rfl⟩ := Option.map_eq_some_iff.mp done
    have unlike : key next ≠ other := by
      rw [keeps _ _ changed, named]
      exact apart.symm
    rw [List.find?_append, List.find?_cons_of_neg (by simpa using unlike), List.find?_nil,
      Option.or_none]

theorem nodup_upsert (named : key fresh = wanted) (unique : (entries.map key).Nodup)
    (done : upsert (fun entry => key entry = wanted) fresh change entries = some result) :
    (result.map key).Nodup := by
  unfold upsert at done
  split at done
  · rw [map_changeFirst keeps done]
    exact unique
  next none =>
    obtain ⟨entry, changed, rfl⟩ := Option.map_eq_some_iff.mp done
    rw [List.map_append, List.map_singleton, keeps _ _ changed, named]
    refine List.nodup_append.mpr ⟨unique, List.pairwise_singleton _ _, ?_⟩
    rintro _ member _ here rfl
    rw [List.mem_singleton.mp here] at member
    obtain ⟨held, inside, same⟩ := List.mem_map.mp member
    exact none (List.any_eq_true.mpr ⟨held, inside, decide_eq_true same⟩)

end

end Keyed

end Entries

end Wlcodex.Lib
