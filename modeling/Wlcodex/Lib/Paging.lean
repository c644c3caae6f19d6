import Mathlib.Data.List.Sort
import Mathlib.Order.Defs.LinearOrder

namespace Wlcodex.Lib

/-! Keyset paging: rows in the order of their marks, read page by page. -/

namespace Paging

variable {ρ κ : Type*}

section Ties

variable (mark : ρ → κ) (limit : Nat)

def Untied (rows : List ρ) : Prop :=
  ∀ n first second, rows[(n + 1) * limit - 1]? = some first → rows[(n + 1) * limit]? = some second →
    mark first ≠ mark second

variable {mark limit} {rows : List ρ}

theorem untied_iff (positive : 0 < limit) {last : ρ} (found : (rows.take limit).getLast? = some last) :
    Untied mark limit rows ↔
      (∀ next ∈ (rows.drop limit).head?, mark last ≠ mark next) ∧ Untied mark limit (rows.drop limit) := by
  have start : ∀ next, rows[limit]? = some next → rows[limit - 1]? = some last := by
    intro next more
    have long : limit < rows.length := (List.getElem?_eq_some_iff.mp more).1
    rw [List.getLast?_eq_getElem?, List.length_take, Nat.min_eq_left long.le] at found
    rwa [List.getElem?_take_of_lt (Nat.sub_lt positive Nat.one_pos)] at found
  have shift : ∀ n, limit + (n + 1) * limit = (n + 1 + 1) * limit := fun n => by
    rw [Nat.succ_mul (n + 1) limit, Nat.add_comm]
  have shiftBefore : ∀ n, limit + ((n + 1) * limit - 1) = (n + 1 + 1) * limit - 1 := by
    intro n
    have some_ : 0 < (n + 1) * limit := Nat.mul_pos (Nat.succ_pos n) positive
    rw [← shift n]
    omega
  constructor
  · refine fun untied => ⟨fun next more => ?_, fun n first second before after => ?_⟩
    · rw [List.head?_drop] at more
      refine untied 0 last next ?_ ?_
      · rw [Nat.zero_add, Nat.one_mul]
        exact start next more
      · rwa [Nat.zero_add, Nat.one_mul]
    · rw [List.getElem?_drop] at before after
      exact untied (n + 1) first second (shiftBefore n ▸ before) (shift n ▸ after)
  · rintro ⟨apart, untied⟩ n first second before after
    cases n with
    | zero =>
        rw [Nat.zero_add, Nat.one_mul] at before after
        have same := (start second after).symm.trans before
        cases same
        exact apart second (by rw [List.head?_drop]; exact after)
    | succ n =>
        refine untied n first second ?_ ?_
        · rw [List.getElem?_drop, shiftBefore]
          exact before
        · rw [List.getElem?_drop, shift]
          exact after

end Ties

section Pages

variable [LinearOrder κ] (mark : ρ → κ) (limit : Nat)

def behind (after : Option κ) (rows : List ρ) : List ρ :=
  rows.filter fun row => ∀ cursor ∈ after, cursor < mark row

def page (after : Option κ) (rows : List ρ) : List ρ := (behind mark after rows).take limit

/-- All pages up to an empty one; `none` when the fuel is used up before. -/
def pages (rows : List ρ) : Nat → Option κ → Option (List (List ρ))
  | 0, _ => none
  | fuel + 1, after =>
      match (page mark limit after rows).getLast? with
      | none => some []
      | some last => (pages rows fuel (some (mark last))).map (page mark limit after rows :: ·)

variable {mark limit} {rows : List ρ}

/-- Which rows are on the first page of an order. -/
theorem mem_first_iff {rows : List ρ} (unique : rows.Pairwise fun first second => mark first ≠ mark second)
    {row : ρ} (member : row ∈ rows) :
    row ∈ (rows.insertionSort fun first second => mark first ≤ mark second).take limit ↔
      rows.countP (fun other => mark other < mark row) < limit := by
  have perm := List.perm_insertionSort (fun first second : ρ => mark first ≤ mark second) rows
  have apart := (perm.pairwise_iff Ne.symm).mpr unique
  have sorted := apart.and (List.pairwise_insertionSort (fun first second => mark first ≤ mark second) rows)
  have inside := perm.mem_iff.mpr member
  rw [← perm.countP_eq]
  generalize (rows.insertionSort fun first second => mark first ≤ mark second) = ordered at sorted inside
  obtain ⟨before, after, rfl⟩ := List.append_of_mem inside
  obtain ⟨-, later, earlier⟩ := List.pairwise_append.mp sorted
  have below : ∀ other ∈ before, mark other < mark row := fun other early =>
    have ahead := earlier other early row List.mem_cons_self
    lt_of_le_of_ne ahead.2 ahead.1
  have above : ∀ other ∈ row :: after, ¬ mark other < mark row := by
    intro other late
    rcases List.mem_cons.mp late with rfl | late
    · exact lt_irrefl _
    · exact not_lt_of_ge ((List.pairwise_cons.mp later).1 other late).2
  have counted : (before ++ row :: after).countP (fun other => mark other < mark row) = before.length := by
    rw [List.countP_append, List.countP_eq_length.mpr (by simpa using below),
      List.countP_eq_zero.mpr (by simpa using above), Nat.add_zero]
  have absent : row ∉ before := fun early => lt_irrefl _ (below row early)
  rw [counted]
  by_cases fits : before.length < limit
  · obtain ⟨more, rfl⟩ := Nat.exists_eq_add_of_lt fits
    rw [Nat.add_assoc, List.take_length_add_append, List.take_succ_cons]
    exact iff_of_true (List.mem_append_right _ List.mem_cons_self) fits
  · rw [List.take_append_of_le_length (Nat.le_of_not_lt fits)]
    exact iff_of_false (fun found => absent (List.mem_of_mem_take found)) fits

theorem behind_none (rows : List ρ) : behind mark none rows = rows :=
  List.filter_eq_self.mpr fun _ _ => by simp

theorem mem_behind {after : Option κ} {row : ρ} :
    row ∈ behind mark after rows ↔ row ∈ rows ∧ ∀ cursor ∈ after, cursor < mark row := by
  rw [behind, List.mem_filter, decide_eq_true_eq]

theorem behind_of_mem {after : Option κ} {last : ρ} (member : last ∈ behind mark after rows) :
    behind mark (some (mark last)) rows = behind mark (some (mark last)) (behind mark after rows) := by
  unfold behind
  rw [List.filter_filter]
  refine List.filter_congr fun row _ => ?_
  have further := (mem_behind.mp member).2
  rw [Bool.eq_iff_iff, Bool.and_eq_true, decide_eq_true_eq, decide_eq_true_eq]
  refine ⟨fun later => ⟨later, fun cursor some_ => ?_⟩, And.left⟩
  exact (further cursor some_).trans (later (mark last) rfl)

theorem behind_page (sorted : rows.Pairwise fun first second => mark first ≤ mark second) {last : ρ}
    (found : (rows.take limit).getLast? = some last) :
    (behind mark (some (mark last)) rows).Sublist (rows.drop limit) ∧
      (behind mark (some (mark last)) rows = rows.drop limit ↔
        ∀ next ∈ (rows.drop limit).head?, mark last ≠ mark next) := by
  obtain ⟨front, split⟩ := List.getLast?_eq_some_iff.mp found
  have whole : rows = (front ++ [last]) ++ rows.drop limit := by
    rw [← split, List.take_append_drop]
  have ordered := sorted
  rw [whole, List.pairwise_append, List.pairwise_append] at ordered
  obtain ⟨⟨-, -, fronts⟩, rest, across⟩ := ordered
  have shown : behind mark (some (mark last)) (front ++ [last]) = [] := by
    refine List.filter_eq_nil_iff.mpr fun row member => ?_
    rw [decide_eq_true_eq]
    intro later
    refine absurd (later (mark last) rfl) (not_lt.mpr ?_)
    rcases List.mem_append.mp member with earlier | itself
    · exact fronts row earlier last List.mem_cons_self
    · exact le_of_eq (congrArg mark (List.mem_singleton.mp itself))
  have remains : behind mark (some (mark last)) rows = behind mark (some (mark last)) (rows.drop limit) := by
    conv_lhs => rw [whole]
    unfold behind at shown ⊢
    rw [List.filter_append, shown, List.nil_append]
  rw [remains]
  refine ⟨List.filter_sublist, ?_⟩
  cases dropped : rows.drop limit with
  | nil => simp [behind]
  | cons next later =>
      rw [dropped] at rest across
      have least : mark last ≤ mark next :=
        across last (List.mem_append_right _ List.mem_cons_self) next List.mem_cons_self
      simp only [List.head?_cons, Option.mem_some_iff, forall_eq']
      constructor
      · intro same tied
        have kept : next ∈ behind mark (some (mark last)) (next :: later) := by
          rw [same]
          exact List.mem_cons_self
        exact absurd ((mem_behind.mp kept).2 (mark last) rfl) (not_lt.mpr (le_of_eq tied.symm))
      · intro apart
        refine List.filter_eq_self.mpr fun row member => decide_eq_true ?_
        intro cursor here
        cases here
        refine (lt_of_le_of_ne least apart).trans_le ?_
        rcases List.mem_cons.mp member with rfl | inside
        · exact le_rfl
        · exact (List.pairwise_cons.mp rest).1 row inside

theorem pages_complete_iff (positive : 0 < limit) (sorted : rows.Pairwise fun first second => mark first ≤ mark second)
    (fuel : Nat) (after : Option κ) (enough : (behind mark after rows).length < fuel) :
    ∃ read, pages mark limit rows fuel after = some read ∧ read.flatten.Sublist (behind mark after rows) ∧
      (read.flatten = behind mark after rows ↔ Untied mark limit (behind mark after rows)) := by
  induction fuel generalizing after with
  | zero => exact absurd enough (Nat.not_lt_zero _)
  | succ fuel ih =>
      unfold pages
      cases found : (page mark limit after rows).getLast? with
      | none =>
          have none_ : behind mark after rows = [] := by
            have empty : (behind mark after rows).take limit = [] := List.getLast?_eq_none_iff.mp found
            rcases List.take_eq_nil_iff.mp empty with zero | empty
            · exact absurd zero positive.ne'
            · exact empty
          refine ⟨[], rfl, List.nil_sublist _, ?_⟩
          rw [none_]
          exact iff_of_true rfl fun _ _ _ before => by simp at before
      | some last =>
          have member : last ∈ behind mark after rows := List.mem_of_mem_take (List.mem_of_getLast? found)
          have ordered := sorted.filter fun row => decide (∀ cursor ∈ after, cursor < mark row)
          obtain ⟨remains, whole⟩ := behind_page ordered found
          rw [← behind, ← behind_of_mem member] at remains whole
          have fewer : (behind mark (some (mark last)) rows).length < fuel := by
            have dropped := remains.length_le
            have some_ := List.length_pos_of_mem member
            rw [List.length_drop] at dropped
            omega
          obtain ⟨later, read, within, complete⟩ := ih (some (mark last)) fewer
          dsimp only
          rw [read]
          refine ⟨_, rfl, ?_, ?_⟩
          · rw [List.flatten_cons]
            conv_rhs => rw [← List.take_append_drop limit (behind mark after rows)]
            exact (List.Sublist.refl _).append (within.trans remains)
          · rw [List.flatten_cons, untied_iff positive found, ← whole]
            have cancel : page mark limit after rows ++ later.flatten = behind mark after rows ↔
                later.flatten = (behind mark after rows).drop limit := by
              conv_lhs => rhs; rw [← List.take_append_drop limit (behind mark after rows)]
              exact List.append_cancel_left_eq _ _ _ |>.to_iff
            rw [cancel]
            constructor
            · intro same
              have all : behind mark (some (mark last)) rows = (behind mark after rows).drop limit :=
                remains.eq_of_length_le (same ▸ within.length_le)
              exact ⟨all, all ▸ complete.mp (same.trans all.symm)⟩
            · rintro ⟨all, untied⟩
              rw [← all] at untied ⊢
              exact complete.mpr untied

end Pages

end Paging

end Wlcodex.Lib
