import Mathlib.Data.List.MinMax
import Wlcodex.Lib.Keyed
import Wlcodex.Relay.StreamEvents

namespace Wlcodex.Timeline

open Wlcodex.Lib
open Wlcodex.Relay (Dict)

/-! The table of timeline items. -/

structure RowKey where
  provider : String
  nativeThreadId : String
  turnKey : String
  itemKey : String
  deriving DecidableEq

inductive ItemRole where
  | user
  | assistant
  | system
  deriving DecidableEq

inductive ItemKind where
  | userMessage
  | message
  | messageSuppressed
  | reasoning
  | activity
  | lifecycle
  | lifecycleSuppressed
  | approvalRequested
  | command
  deriving DecidableEq

structure Face where
  role : ItemRole
  kind : ItemKind
  text : String
  status : String
  sourcePriority : Nat
  deriving DecidableEq

structure Cells extends Face where
  payload : Dict
  lastSequence : Nat

structure ItemRow extends Cells where
  id : Nat
  key : RowKey

namespace ItemRow

def change (row : ItemRow) (cells : Cells → Cells) : ItemRow := { row with toCells := cells row.toCells }

@[simp] theorem change_toCells (row : ItemRow) (cells : Cells → Cells) :
    (row.change cells).toCells = cells row.toCells := rfl

end ItemRow

structure ItemTable where
  rows : Keyed ItemRow.key
  nextId : Nat
  numbered : ∀ row ∈ rows, row.id < nextId
  primary : ∀ first ∈ rows, ∀ second ∈ rows, first.id = second.id → first = second

namespace ItemTable

def empty : ItemTable where
  rows := .empty
  nextId := 1
  numbered := fun _ member => absurd member (Keyed.not_mem_empty _)
  primary := fun _ member => absurd member (Keyed.not_mem_empty _)

instance : Membership ItemRow ItemTable := ⟨fun table row => row ∈ table.rows⟩

def find? (table : ItemTable) (key : RowKey) : Option ItemRow := table.rows.find? key

variable {table : ItemTable} {key : RowKey} {row : ItemRow}

theorem find?_eq_some_iff :
    table.find? key = some row ↔ row ∈ table ∧ row.key = key :=
  Keyed.find?_eq_some_iff

theorem find?_key (member : row ∈ table) :
    table.find? row.key = some row :=
  find?_eq_some_iff.mpr ⟨member, rfl⟩

theorem eq_of_id {first second : ItemRow} (firstMember : first ∈ table)
    (secondMember : second ∈ table) (same : first.id = second.id) : first = second :=
  table.primary first firstMember second secondMember same

def patch (cells : Cells → Cells) : Patch ItemRow.key where
  apply := fun row => row.change cells
  sameKey := fun _ => rfl

variable {cells : Cells → Cells}

theorem mem_rows_update {rows : Keyed ItemRow.key} {selected : ItemRow → Bool} :
    row ∈ rows.update selected (patch cells) ↔
      ∃ old ∈ rows, row = if selected old then old.change cells else old := by
  rw [Keyed.mem_update]
  constructor
  · rintro (⟨old, member, chosen, rfl⟩ | ⟨member, kept⟩)
    · exact ⟨old, member, by rw [if_pos chosen]; rfl⟩
    · exact ⟨row, member, by rw [kept]; rfl⟩
  · rintro ⟨old, member, rfl⟩
    cases chosen : selected old with
    | true => exact .inl ⟨old, member, chosen, rfl⟩
    | false => exact .inr ⟨member, chosen⟩

theorem id_update (old : ItemRow) (selected : Bool) (cells : Cells → Cells) :
    (if selected then old.change cells else old).id = old.id := by
  cases selected <;> rfl

theorem key_update (old : ItemRow) (selected : Bool) (cells : Cells → Cells) :
    (if selected then old.change cells else old).key = old.key := by
  cases selected <;> rfl

def update (table : ItemTable) (selected : ItemRow → Bool) (cells : Cells → Cells) : ItemTable where
  rows := table.rows.update selected (patch cells)
  nextId := table.nextId
  numbered := by
    intro row member
    obtain ⟨old, stored, rfl⟩ := mem_rows_update.mp member
    rw [id_update]
    exact table.numbered old stored
  primary := by
    intro first firstMember second secondMember same
    obtain ⟨firstOld, firstStored, rfl⟩ := mem_rows_update.mp firstMember
    obtain ⟨secondOld, secondStored, rfl⟩ := mem_rows_update.mp secondMember
    rw [id_update, id_update] at same
    rw [table.primary firstOld firstStored secondOld secondStored same]

theorem mem_update {selected : ItemRow → Bool} :
    row ∈ table.update selected cells ↔
      ∃ old ∈ table, row = if selected old then old.change cells else old :=
  mem_rows_update

theorem find?_update (table : ItemTable) (selected : ItemRow → Bool) (cells : Cells → Cells) (key : RowKey) :
    (table.update selected cells).find? key =
      (table.find? key).map fun row => if selected row then row.change cells else row := by
  cases found : table.find? key with
  | none =>
      refine Keyed.find?_eq_none_iff.mpr fun row member same => ?_
      obtain ⟨old, stored, rfl⟩ := mem_update.mp member
      rw [key_update] at same
      exact Keyed.find?_eq_none_iff.mp found old stored same
  | some row =>
      obtain ⟨member, rfl⟩ := find?_eq_some_iff.mp found
      exact find?_eq_some_iff.mpr ⟨mem_update.mpr ⟨row, member, rfl⟩, key_update ..⟩

/-- `INSERT`, with the next automatic id; `none` is a violated index. -/
def insert? (table : ItemTable) (key : RowKey) (cells : Cells) : Option ItemTable :=
  match inserted : table.rows.insert? { toCells := cells, id := table.nextId, key } with
  | none => none
  | some rows => some {
      rows
      nextId := table.nextId + 1
      numbered := by
        intro row member
        rcases (Keyed.mem_insert? inserted).mp member with rfl | old
        · exact Nat.lt_succ_self _
        · exact Nat.lt_succ_of_lt (table.numbered row old)
      primary := by
        intro first firstMember second secondMember same
        rcases (Keyed.mem_insert? inserted).mp firstMember with rfl | firstOld <;>
          rcases (Keyed.mem_insert? inserted).mp secondMember with rfl | secondOld
        · rfl
        · exact absurd same (Nat.ne_of_gt (table.numbered second secondOld))
        · exact absurd same (Nat.ne_of_lt (table.numbered first firstOld))
        · exact table.primary first firstOld second secondOld same }

variable {next : ItemTable}

theorem insert?_spec {cells : Cells} (inserted : table.insert? key cells = some next) :
    next.nextId = table.nextId + 1 ∧
      ∀ row, row ∈ next ↔ row = { toCells := cells, id := table.nextId, key } ∨ row ∈ table := by
  unfold insert? at inserted
  split at inserted
  · cases inserted
  · rename_i rows written
    cases inserted
    exact ⟨rfl, fun row => Keyed.mem_insert? written⟩

theorem insert?_isSome (missing : table.find? key = none)
    (cells : Cells) : (table.insert? key cells).isSome := by
  have fresh : ∀ stored ∈ table.rows, stored.key ≠ key := Keyed.find?_eq_none_iff.mp missing
  have written :
      (table.rows.insert? { toCells := cells, id := table.nextId, key }).isSome :=
    Keyed.insert?_isSome fresh
  unfold insert?
  split
  · rename_i failed
    rw [failed] at written
    cases written
  · rfl

theorem find?_insert? {cells : Cells}
    (missing : table.find? key = none) (inserted : table.insert? key cells = some next) (wanted : RowKey) :
    next.find? wanted =
      if wanted = key then some { toCells := cells, id := table.nextId, key } else table.find? wanted := by
  have members := (insert?_spec inserted).2
  split
  · rename_i same
    subst same
    exact find?_eq_some_iff.mpr ⟨(members _).mpr (.inl rfl), rfl⟩
  · rename_i other
    cases found : table.find? wanted with
    | none =>
        refine Keyed.find?_eq_none_iff.mpr fun row member same => ?_
        rcases (members row).mp member with rfl | old
        · exact other same.symm
        · exact Keyed.find?_eq_none_iff.mp found row old same
    | some row =>
        obtain ⟨member, rfl⟩ := find?_eq_some_iff.mp found
        exact find?_eq_some_iff.mpr ⟨(members row).mpr (.inr member), rfl⟩

def moved (row : ItemRow) (key : RowKey) (cells : Cells → Cells) : ItemRow :=
  { row.change cells with key }

/-- `UPDATE ... SET turn_key, item_key, cells WHERE id`; `none` is a violated index. -/
def rekey? (table : ItemTable) (id : Nat) (key : RowKey) (cells : Cells → Cells) : Option ItemTable :=
  let written := table.rows.rows.map fun row => if row.id = id then moved row key cells else row
  if unique : written.Pairwise fun first second => first.key ≠ second.key then
    have origin : ∀ row ∈ written, ∃ old ∈ table.rows,
        row = if old.id = id then moved old key cells else old := by
      intro row member
      obtain ⟨old, stored, rfl⟩ := List.mem_map.mp member
      exact ⟨old, stored, rfl⟩
    have sameId : ∀ old : ItemRow, (if old.id = id then moved old key cells else old).id = old.id := by
      intro old
      split <;> rfl
    some {
      rows := ⟨written, unique⟩
      nextId := table.nextId
      numbered := by
        intro row member
        obtain ⟨old, stored, rfl⟩ := origin row member
        rw [sameId]
        exact table.numbered old stored
      primary := by
        intro first firstMember second secondMember same
        obtain ⟨firstOld, firstStored, rfl⟩ := origin first firstMember
        obtain ⟨secondOld, secondStored, rfl⟩ := origin second secondMember
        rw [sameId, sameId] at same
        rw [table.primary firstOld firstStored secondOld secondStored same] }
  else none

theorem rekey?_spec {id : Nat} (written : table.rekey? id key cells = some next) :
    next.nextId = table.nextId ∧
      ∀ row, row ∈ next ↔ ∃ old ∈ table, row = if old.id = id then moved old key cells else old := by
  unfold rekey? at written
  simp only at written
  split at written
  · cases written
    refine ⟨rfl, fun row => List.mem_map.trans ?_⟩
    constructor
    · rintro ⟨old, member, rfl⟩
      exact ⟨old, member, rfl⟩
    · rintro ⟨old, member, rfl⟩
      exact ⟨old, member, rfl⟩
  · cases written

end ItemTable

end Wlcodex.Timeline
