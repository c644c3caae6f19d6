import Mathlib.Data.List.Pairwise

namespace Wlcodex.Lib

/-! Tables with a unique key. -/

structure Keyed {κ ρ : Type*} (key : ρ → κ) where
  rows : List ρ
  unique : rows.Pairwise fun first second => key first ≠ key second

structure Patch {κ ρ : Type*} (key : ρ → κ) where
  apply : ρ → ρ
  sameKey : ∀ row, key (apply row) = key row

namespace Keyed

variable {κ ρ : Type*} {key : ρ → κ}

instance [DecidableEq ρ] : DecidableEq (Keyed key) := fun first second =>
  decidable_of_iff (first.rows = second.rows) (by cases first; cases second; simp)

instance : Membership ρ (Keyed key) := ⟨fun table row => row ∈ table.rows⟩

instance [DecidableEq ρ] (row : ρ) (table : Keyed key) : Decidable (row ∈ table) :=
  inferInstanceAs (Decidable (row ∈ table.rows))

theorem eq_of_rows {first second : Keyed key} (same : first.rows = second.rows) : first = second := by
  cases first
  cases same
  rfl

variable {row : ρ}

theorem countP_of_key {rows : List ρ} (unique : rows.Pairwise fun first second => key first ≠ key second)
    {first second : ρ → Bool} (member : row ∈ rows) (dropped : second row = false)
    (others : ∀ other ∈ rows, key other ≠ key row → second other = first other) :
    rows.countP first = rows.countP second + if first row then 1 else 0 := by
  obtain ⟨earlier, later, rfl⟩ := List.append_of_mem member
  obtain ⟨-, ⟨after, -⟩, before⟩ := by simpa only [List.pairwise_append, List.pairwise_cons] using unique
  have sameEarlier : earlier.countP second = earlier.countP first := by
    refine List.countP_congr fun other inside => ?_
    rw [others other (List.mem_append_left _ inside) (before other inside row List.mem_cons_self)]
  have sameLater : later.countP second = later.countP first := by
    refine List.countP_congr fun other inside => ?_
    rw [others other (List.mem_append_right _ (List.mem_cons_of_mem row inside)) (after other inside).symm]
  rw [List.countP_append, List.countP_append, List.countP_cons, List.countP_cons, sameEarlier, sameLater,
    dropped, if_neg Bool.false_ne_true]
  omega

def empty : Keyed key := ⟨[], .nil⟩

@[simp] theorem not_mem_empty (row : ρ) : row ∉ (empty : Keyed key) := by
  intro member
  cases member

theorem eq_of_key (table : Keyed key) {first second : ρ} (firstMember : first ∈ table)
    (secondMember : second ∈ table) (same : key first = key second) : first = second := by
  by_contra different
  have apart : Std.Symm fun first second : ρ => key first ≠ key second := ⟨fun _ _ => Ne.symm⟩
  exact table.unique.forall firstMember secondMember different same

def update (table : Keyed key) (selected : ρ → Bool) (patch : Patch key) : Keyed key where
  rows := table.rows.map fun row => if selected row then patch.apply row else row
  unique := by
    rw [List.pairwise_map]
    apply table.unique.imp
    intro first second different
    have same : ∀ row, key (if selected row then patch.apply row else row) = key row := by
      intro row
      split
      · exact patch.sameKey row
      · rfl
    rw [same, same]
    exact different

variable {table : Keyed key} {selected : ρ → Bool} {patch : Patch key}

theorem mem_update :
    row ∈ table.update selected patch ↔
      (∃ old ∈ table, selected old ∧ row = patch.apply old) ∨
        (row ∈ table ∧ selected row = false) := by
  change row ∈ List.map _ table.rows ↔ _
  simp only [List.mem_map]
  constructor
  · rintro ⟨old, member, rfl⟩
    cases chosen : selected old with
    | true => exact .inl ⟨old, member, chosen, if_pos rfl⟩
    | false =>
        exact .inr ⟨member, chosen⟩
  · rintro (⟨old, member, chosen, rfl⟩ | ⟨member, kept⟩)
    · exact ⟨old, member, by simp [chosen]⟩
    · exact ⟨row, member, by simp [kept]⟩

theorem update_of_none
    (none_ : ∀ row ∈ table, selected row = false) : table.update selected patch = table := by
  apply eq_of_rows
  refine (List.map_congr_left fun row member => ?_).trans (List.map_id table.rows)
  rw [none_ row member]
  rfl

def erase (table : Keyed key) (selected : ρ → Bool) : Keyed key where
  rows := table.rows.filter fun row => !selected row
  unique := table.unique.filter _

theorem mem_erase :
    row ∈ table.erase selected ↔ row ∈ table ∧ selected row = false := by
  change row ∈ List.filter _ table.rows ↔ _
  simp only [List.mem_filter, Bool.not_eq_true']
  exact Iff.rfl

theorem erase_of_none
    (none_ : ∀ row ∈ table, selected row = false) : table.erase selected = table := by
  apply eq_of_rows
  refine List.filter_eq_self.mpr fun row member => ?_
  rw [none_ row member]
  rfl

variable [DecidableEq κ]

def find? (table : Keyed key) (wanted : κ) : Option ρ :=
  table.rows.find? fun row => key row = wanted

theorem find?_eq_some_iff {wanted : κ} :
    table.find? wanted = some row ↔ row ∈ table ∧ key row = wanted := by
  unfold find?
  constructor
  · intro found
    exact ⟨List.mem_of_find?_eq_some found, by simpa using List.find?_some found⟩
  · rintro ⟨member, rfl⟩
    cases found : table.rows.find? fun other => key other = key row with
    | none =>
        have missing := List.find?_eq_none.mp found row member
        simp at missing
    | some other =>
        have same : key other = key row := by simpa using List.find?_some found
        rw [table.eq_of_key (List.mem_of_find?_eq_some found) member same]

theorem find?_eq_none_iff {wanted : κ} :
    table.find? wanted = none ↔ ∀ row ∈ table, key row ≠ wanted := by
  unfold find?
  rw [List.find?_eq_none]
  simp only [decide_eq_true_eq]
  exact Iff.rfl

theorem find?_update (wanted : κ) :
    (table.update selected patch).find? wanted =
      (table.find? wanted).map fun row => if selected row then patch.apply row else row := by
  unfold find? update
  rw [List.find?_map]
  congr 2
  funext row
  rw [Function.comp_apply]
  split
  · rw [patch.sameKey]
  · rfl

/-- `INSERT`; `none` is a violated unique index. -/
def insert? (table : Keyed key) (row : ρ) : Option (Keyed key) :=
  if fresh : ∀ stored ∈ table.rows, key row ≠ key stored then
    some ⟨row :: table.rows, .cons fresh table.unique⟩
  else none

theorem insert?_isSome (fresh : ∀ stored ∈ table, key stored ≠ key row) :
    (table.insert? row).isSome := by
  have apart : ∀ stored ∈ table.rows, key row ≠ key stored :=
    fun stored member same => fresh stored member same.symm
  unfold insert?
  rw [dif_pos apart]
  rfl

theorem rows_insert? {next : Keyed key} (inserted : table.insert? row = some next) :
    next.rows = row :: table.rows := by
  unfold insert? at inserted
  split at inserted
  · cases inserted
    rfl
  · cases inserted

theorem mem_insert? {next : Keyed key} {other : ρ} (inserted : table.insert? row = some next) :
    other ∈ next ↔ other = row ∨ other ∈ table := by
  change other ∈ next.rows ↔ _
  rw [rows_insert? inserted]
  exact List.mem_cons

section Numbered

variable {key : ρ → Nat}

/-- The next number of an `INTEGER PRIMARY KEY AUTOINCREMENT`. -/
def nextKey (table : Keyed key) : Nat := (table.rows.map key).foldr max 0 + 1

variable {table : Keyed key}

theorem lt_nextKey {row : ρ} (member : row ∈ table) : key row < table.nextKey := by
  have bound : ∀ numbers : List Nat, ∀ number ∈ numbers, number ≤ numbers.foldr max 0 := by
    intro numbers
    induction numbers with
    | nil => simp
    | cons head rest ih =>
        rw [List.forall_mem_cons]
        exact ⟨Nat.le_max_left _ _, fun number inside =>
          Nat.le_trans (ih number inside) (Nat.le_max_right _ _)⟩
  exact Nat.lt_succ_of_le (bound _ _ (List.mem_map_of_mem member))

/-- `INSERT` of a row that gets the next number. -/
def append (table : Keyed key) (make : Nat → ρ) (numbered : ∀ number, key (make number) = number) :
    Keyed key where
  rows := table.rows ++ [make table.nextKey]
  unique := by
    refine List.pairwise_append.mpr ⟨table.unique, List.pairwise_singleton _ _, ?_⟩
    intro row member new last
    rw [List.mem_singleton.mp last, numbered]
    exact Nat.ne_of_lt (lt_nextKey member)

theorem mem_append {make : Nat → ρ} {numbered : ∀ number, key (make number) = number}
    {row : ρ} : row ∈ table.append make numbered ↔ row ∈ table ∨ row = make table.nextKey := by
  change row ∈ table.rows ++ [make table.nextKey] ↔ _
  rw [List.mem_append, List.mem_singleton]
  exact Iff.rfl

theorem find?_append {make : Nat → ρ} {numbered : ∀ number, key (make number) = number}
    (wanted : Nat) : (table.append make numbered).find? wanted =
      if wanted = table.nextKey then some (make table.nextKey) else table.find? wanted := by
  unfold find? append
  rw [List.find?_append, List.find?_singleton, numbered]
  by_cases same : wanted = table.nextKey
  · have missing : table.rows.find? (fun row => decide (key row = wanted)) = none := by
      rw [List.find?_eq_none]
      intro row member
      rw [decide_eq_true_eq, same]
      exact Nat.ne_of_lt (lt_nextKey member)
    rw [missing, if_pos same, if_pos (decide_eq_true same.symm)]
    rfl
  · rw [if_neg same, if_neg (by simpa using Ne.symm same), Option.or_none]

end Numbered

end Keyed

end Wlcodex.Lib
