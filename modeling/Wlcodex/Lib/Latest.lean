import Mathlib.Data.List.Sort
import Wlcodex.Lib.Keyed

namespace Wlcodex.Lib.Keyed

/-! Numbered tables by their numbers: `ORDER BY id ASC`, and `ORDER BY id DESC LIMIT 1`. -/

variable {ρ : Type*} {key : ρ → Nat}

def ordered (table : Keyed key) : List ρ := table.rows.insertionSort fun first second => key first ≤ key second

def latest? (table : Keyed key) (selected : ρ → Bool) : Option ρ :=
  ((table.rows.filter selected).insertionSort fun first second => key second ≤ key first).head?

variable {table : Keyed key} {selected : ρ → Bool} {row : ρ}

theorem mem_ordered : row ∈ table.ordered ↔ row ∈ table := List.mem_insertionSort _

theorem ordered_update {changed : ρ → Bool} {patch : Patch key} :
    (table.update changed patch).ordered =
      table.ordered.map fun row => if changed row then patch.apply row else row := by
  have same : ∀ row, key (if changed row then patch.apply row else row) = key row := by
    intro row
    split
    · exact patch.sameKey row
    · rfl
  refine (List.map_insertionSort _ _ _ _ fun first _ second _ => ?_).symm
  rw [same, same]

theorem latest?_eq_some_iff :
    table.latest? selected = some row ↔
      row ∈ table ∧ selected row = true ∧
        ∀ other ∈ table, selected other = true → key other ≤ key row := by
  have sorted := List.pairwise_insertionSort (fun first second => key second ≤ key first)
    (table.rows.filter selected)
  have members : ∀ other, other ∈ (table.rows.filter selected).insertionSort
      (fun first second => key second ≤ key first) ↔ other ∈ table ∧ selected other = true := fun other => by
    rw [List.mem_insertionSort, List.mem_filter]
    rfl
  unfold latest?
  generalize (table.rows.filter selected).insertionSort
    (fun first second => key second ≤ key first) = rows at sorted members
  cases rows with
  | nil =>
      refine ⟨nofun, fun ⟨member, chosen, _⟩ => ?_⟩
      cases (members row).mpr ⟨member, chosen⟩
  | cons head rest =>
      obtain ⟨first, _⟩ := List.pairwise_cons.mp sorted
      obtain ⟨present, chosen⟩ := (members head).mp List.mem_cons_self
      have highest : ∀ other ∈ table, selected other = true → key other ≤ key head := by
        intro other member picked
        rcases List.mem_cons.mp ((members other).mpr ⟨member, picked⟩) with same | later
        · rw [same]
        · exact first other later
      rw [List.head?_cons, Option.some_inj]
      constructor
      · intro same
        rw [← same]
        exact ⟨present, chosen, highest⟩
      · intro ⟨member, picked, most⟩
        exact table.eq_of_key present member (Nat.le_antisymm (most head present chosen) (highest row member picked))

theorem latest?_eq_none_iff : table.latest? selected = none ↔ ∀ row ∈ table, selected row = false := by
  unfold latest?
  rw [List.head?_eq_none_iff, ← List.length_eq_zero_iff, List.length_insertionSort, List.length_eq_zero_iff,
    List.filter_eq_nil_iff]
  simp only [Bool.not_eq_true]
  rfl

theorem latest?_update {changed : ρ → Bool} {patch : Patch key}
    (kept : ∀ row ∈ table, changed row = true → selected (patch.apply row) = selected row) :
    (table.update changed patch).latest? selected =
      (table.latest? selected).map fun row => if changed row then patch.apply row else row := by
  have stays : ∀ row ∈ table, selected (if changed row then patch.apply row else row) = selected row := by
    intro row member
    split
    next touched => exact kept row member touched
    · rfl
  have same : ∀ row, key (if changed row then patch.apply row else row) = key row := by
    intro row
    split
    · exact patch.sameKey row
    · rfl
  have rows : ∀ row, row ∈ table.update changed patch ↔
      ∃ old ∈ table, (if changed old then patch.apply old else old) = row := fun row => List.mem_map
  cases found : table.latest? selected with
  | none =>
      rw [Option.map_none, latest?_eq_none_iff]
      intro row member
      obtain ⟨old, stored, rfl⟩ := (rows row).mp member
      rw [stays old stored]
      exact latest?_eq_none_iff.mp found old stored
  | some latest =>
      obtain ⟨member, chosen, highest⟩ := latest?_eq_some_iff.mp found
      rw [Option.map_some, latest?_eq_some_iff]
      refine ⟨(rows _).mpr ⟨latest, member, rfl⟩, (stays latest member).trans chosen, fun other present picked => ?_⟩
      obtain ⟨old, stored, rfl⟩ := (rows other).mp present
      rw [same, same]
      exact highest old stored ((stays old stored).symm.trans picked)

end Wlcodex.Lib.Keyed
